import Xczu47dr.Upload.PacketPayload

/-! # The judgement of a packet and the check of its CRC

A packet is judged by the request its words make, whatever the registers held
before it; the CRC loop reads the words that were buffered.
-/

namespace Xczu47dr.Upload

open UploadWriter

/-! ## Verdicts -/

theorem judgeBegin_ne_check (p : WriterParams) (c : UploadCore) (r : UploadRequest) (duplicate : Bool) :
    r.judgeBegin p c ≠ .check duplicate := by
  unfold UploadRequest.judgeBegin
  split_ifs <;> exact fun equal => Verdict.noConfusion equal

theorem judgeCommand_ne_check (c : UploadCore) (r : UploadRequest) (playback : Nat) (duplicate : Bool) :
    r.judgeCommit c playback ≠ .check duplicate ∧ r.judgePlay c playback ≠ .check duplicate ∧
      r.judgeHalt c playback ≠ .check duplicate := by
  unfold UploadRequest.judgeCommit UploadRequest.judgePlay UploadRequest.judgeHalt
  refine ⟨?_, ?_, ?_⟩ <;> split_ifs <;> exact fun equal => Verdict.noConfusion equal

/-- Only a DATA of the open session is checked: the last one again, or the next one. -/
theorem judge_check {p : WriterParams} {c : UploadCore} {r : UploadRequest} {playback : Nat} {duplicate : Bool}
    (verdict : r.judge p c playback = .check duplicate) :
    r.opcode = opData ∧ r.data.session = c.session ∧ c.uploadActive = true ∧ playback ≠ 8 ∧
      r.data.rangeOk = true ∧ r.dataRepeated c = duplicate ∧
      (duplicate = false → r.data.packetSeq = c.nextPacketSeq ∧ r.data.offsetOk = true) := by
  unfold UploadRequest.judge at verdict
  obtain ⟨commit, play, halt⟩ := judgeCommand_ne_check c r playback duplicate
  split_ifs at verdict with begins data differs _ _ _ _
  · exact absurd verdict (judgeBegin_ne_check p c r duplicate)
  · unfold UploadRequest.judgeData at verdict
    split_ifs at verdict with closed range repeated order offset
    · simp only [not_or, not_not, Bool.not_eq_false] at closed range
      cases verdict
      exact ⟨data, closed.1, closed.2.1, closed.2.2, range, repeated, fun first => Bool.noConfusion first⟩
    · simp only [not_or, not_not, Bool.not_eq_false] at closed range order offset
      cases verdict
      exact ⟨data, closed.1, closed.2.1, closed.2.2, range, Bool.eq_false_iff.mpr repeated, fun _ => ⟨order, offset⟩⟩
  · exact absurd verdict commit
  · exact absurd verdict play
  · exact absurd verdict halt

/-! ## Requests -/

theorem badLength_false {opcode bytes : Nat} :
    badLength opcode bytes = false ↔ (opcode = opBegin → bytes = 28) ∧
      (opcode = opData → 56 ≤ bytes ∧ bytes ≤ maxPayloadBytes + 24) ∧ (3 ≤ opcode → bytes = 4) := by
  rw [badLength, decide_eq_false_iff_not, opCommit]
  simp only [not_or, not_and, Nat.not_lt, not_not]

theorem WellFormed.count {words : List Word} (good : WellFormed words) :
    (opcodeOf words = opBegin → (words.drop 2).length = 4) ∧ (opcodeOf words = opData → 7 ≤ (words.drop 2).length) ∧
      (opcodeOf words ≠ opBegin → opcodeOf words ≠ opData → words.length = 3) := by
  obtain ⟨header, length, -, all, -⟩ := good
  have known : 1 ≤ opcodeOf words := by
    simp only [badHeader, decide_eq_false_iff_not, not_or, Nat.not_lt] at header
    exact header.2.1
  rw [badLength_false] at length
  obtain ⟨begin, data, command⟩ := length
  rw [List.length_drop, all, Nat.add_sub_cancel]
  refine ⟨fun begins => ?_, fun sends => ?_, fun not_begin not_data => ?_⟩
  · rw [begin begins]
    rfl
  · have bytes := (data sends).1
    rw [wordsFor]
    omega
  · have bytes := command (by unfold opBegin opData at *; omega)
    rw [bytes]
    rfl

theorem Fields.agrees {c : UploadCore} {words : List Word} {w : UploadWriter} (fields : Fields c words w)
    (header : Header words w) (good : WellFormed words) : Agrees c words w.request where
  opcode := header.opcode
  seq := header.seq
  begin begins := by
    obtain ⟨b, received⟩ := fields.begin begins
    rw [received]
    exact beginOf_four _ _ (good.count.1 begins)
  data data := by
    obtain ⟨d, received⟩ := fields.data data
    rw [received]
    exact dataOf_three _ _ _ _ (Nat.le_trans (by decide) (good.count.2.1 data))
  word not_begin not_data := fields.word not_begin not_data (good.count.2.2 not_begin not_data)

/-- The data of a packet in range is all its words behind the header, and they are buffered. -/
theorem Fields.buffered {c : UploadCore} {words : List Word} {w : UploadWriter} (fields : Fields c words w)
    (good : WellFormed words) (data : opcodeOf words = opData) (ok : (requestOf c words).data.rangeOk = true) :
    ∀ k, k < (requestOf c words).data.length / 8 → w.dataMem k = dataWord words k := by
  have long := good.count.2.1 data
  rw [List.length_drop] at long
  obtain ⟨-, small, whole, bytes⟩ := range_of_rangeOk (by omega) ok
  have all := good.2.2.2.1
  have small' : (requestOf c words).data.length ≤ 1408 := small
  have sum : bytesOf words = (requestOf c words).data.length + 24 := by omega
  have exact_words : wordsFor (bytesOf words) = (requestOf c words).data.length / 8 + 3 := by
    rw [wordsFor, sum, if_neg (by omega)]
    omega
  have index := fields.index data
  have room : maxDataWords = 176 := rfl
  intro k below
  exact fields.memory data k (by omega)

/-! ## The judgement -/

/-- The registers that a verdict changes further. -/
def UploadWriter.beforeVerdict (p : WriterParams) (w : UploadWriter) (i : WriterIn) : UploadWriter :=
  let t := { w.common p i with state := .emit }
  if w.request.opcode = opData then
    { t with response := { t.response with expectedCrc := w.request.data.crcExpected } }
  else t

section Judging

variable {p : WriterParams} {s : AccountedWriter} {i : WriterIn}

theorem stepFinal_sound (w : UploadWriter) (not_status : w.request.opcode ≠ opStatus) (sound : w.packetError = false)
    (admitted : (w.requiresAdmission && !i.commandReady) = false) :
    w.stepFinal p i = w.applyVerdict (w.beforeVerdict p i) (w.request.judge p w.core i.playbackState) := by
  rw [stepFinal, if_neg (fun status => not_status status.1), admitted, if_neg Bool.false_ne_true, sound,
    if_neg Bool.false_ne_true]
  rfl

theorem beforeVerdict_fields (w : UploadWriter) :
    (w.beforeVerdict p i).state = .emit ∧ (w.beforeVerdict p i).core = w.core ∧
      (w.beforeVerdict p i).request = w.request ∧ (w.beforeVerdict p i).packetError = w.packetError ∧
      (w.beforeVerdict p i).response.valid = (w.response.valid && !i.responseReady) ∧
      (w.beforeVerdict p i).response.status = w.response.status ∧ (w.beforeVerdict p i).pulse = none ∧
      (w.beforeVerdict p i).statusResponseLatched = w.statusResponseLatched ∧
      (w.beforeVerdict p i).duplicatePacket = w.duplicatePacket ∧
      (w.beforeVerdict p i).dataMem = (w.common p i).dataMem := by
  unfold beforeVerdict
  split <;> exact ⟨rfl, rfl, rfl, rfl, rfl, rfl, rfl, rfl, rfl, rfl⟩

/-- What is kept of a packet while it is judged. -/
theorem judging_account (state : s.writer.state = .final) :
    s.nextAccount p i =
      { s.account with
        playback := i.playbackState
        pulses := s.account.pulses ++ (s.writer.step p i).pulse.toList } := by
  have load : ¬ (s.writer.state = .readLoad ∧ s.writer.readingCrc = false) := by simp [state]
  rw [AccountedWriter.nextAccount, not_starts (by simp [state]), if_neg Bool.false_ne_true, if_pos state, if_neg load,
    receives_false (by simp [state]), if_neg Bool.false_ne_true, axiFails_false (by simp [state]),
    raises_false (by simp [state]) (by simp [state]), givesUp_false (by simp [state]), Bool.or_false, Bool.not_false,
    Bool.and_true, Bool.and_true]

theorem Fresh.judged {a : Account} {w : UploadWriter} (fresh : Fresh a w) (playback : Nat) :
    Fresh { a with playback := playback, pulses := a.pulses ++ Option.toList none } w where
  isOpen := fresh.isOpen
  core := fresh.core
  pulses := by rw [fresh.pulses]; rfl
  writes := fresh.writes
  axi := fresh.axi
  valid := fresh.valid
  status := fresh.status

theorem Fresh.common {a : Account} {w : UploadWriter} (fresh : Fresh a w) (p : WriterParams) (i : WriterIn) :
    Fresh a (w.common p i) :=
  fresh.next _ rfl ⟨_, rfl⟩ fresh.status

/-- What the verdict on a request makes of its packet. -/
theorem verdict_next (fresh : Fresh s.account s.writer) (header : Header s.account.words s.writer)
    (good : WellFormed s.account.words) (sound : s.writer.packetError = false)
    (not_status : s.writer.request.opcode ≠ opStatus) (first : s.writer.duplicatePacket = false)
    (fields : Fields s.account.before s.account.words s.writer)
    (stepped : s.writer.step p i =
      s.writer.applyVerdict (s.writer.beforeVerdict p i) (s.writer.request.judge p s.writer.core i.playbackState))
    (account : s.nextAccount p i =
      { s.account with
        playback := i.playbackState
        pulses := s.account.pulses ++ (s.writer.step p i).pulse.toList })
    (memory : (s.writer.common p i).dataMem = s.writer.dataMem) :
    Phase p (s.nextAccount p i) (s.writer.step p i) := by
  have agrees := fields.agrees header good
  have judged := agrees.judge p i.playbackState
  have not_status' : opcodeOf s.account.words ≠ opStatus := header.opcode ▸ not_status
  have before := beforeVerdict_fields (p := p) (i := i) s.writer
  obtain ⟨emits, core, request, error, valid, status, pulse, latched, duplicate, mem⟩ := before
  rw [fresh.core, judged] at stepped
  have clean : s.writer.response.status = statusOk := by rw [fresh.status, sound, if_neg Bool.false_ne_true]
  have idle : (s.writer.beforeVerdict p i).response.valid = false := by rw [valid, fresh.valid, Bool.false_and]
  cases verdict : (requestOf s.account.before s.account.words).judge p s.account.before i.playbackState with
  | refuse code offset =>
    rw [verdict, applyVerdict] at stepped
    have answer : emitStatus (s.writer.setError (s.writer.beforeVerdict p i) code offset) = code := by
      rw [emitStatus_unlatched ((setError_unlatched _ _ _ _).trans (latched.trans header.unlatched)), setError_status,
        sound, if_neg Bool.false_ne_true]
    have quiet : s.account.pulses ++ (s.writer.setError (s.writer.beforeVerdict p i) code offset).pulse.toList = [] := by
      rw [setError_pulse, pulse, fresh.pulses]
      rfl
    rw [account, stepped]
    refine .emitting ((setError_state _ _ _ _).trans emits) fresh.isOpen ((setError_valid _ _ _ _).trans idle)
      header.whole ?_ ?_ (.refused good not_status' offset ?_ ⟨?_, quiet, fresh.writes, fresh.axi⟩)
    · rw [setError_request, request, header.opcode]
    · rw [setError_request, request, header.seq]
    · exact verdict.trans (congrArg (Verdict.refuse · offset) answer.symm)
    · exact (setError_core _ _ _ _).trans (core.trans fresh.core)
  | accept after command =>
    rw [verdict, applyVerdict] at stepped
    rw [account, stepped]
    refine .emitting emits fresh.isOpen idle header.whole ?_ ?_
      (.accepted good not_status' command verdict ?_ ?_ fresh.writes fresh.axi)
    · exact (congrArg UploadRequest.opcode request).trans header.opcode
    · exact (congrArg UploadRequest.seq request).trans header.seq
    · exact (emitStatus_unlatched (latched.trans header.unlatched)).trans (status.trans clean)
    · exact congrArg (· ++ command.toList) fresh.pulses
  | check again =>
    rw [verdict, applyVerdict] at stepped
    obtain ⟨-, -, -, -, ok, -, -⟩ := judge_check verdict
    have data : opcodeOf s.account.words = opData := (judge_check verdict).1
    have long := good.count.2.1 data
    rw [List.length_drop] at long
    obtain ⟨some_data, small, aligned, -⟩ := range_of_rangeOk (by omega) ok
    have small' : (requestOf s.account.before s.account.words).data.length ≤ 1408 := small
    have fields_data := agrees.data data
    have quiet : (s.writer.step p i).pulse = none := by
      rw [stepped]
      exact pulse
    have kept : Fresh { s.account with playback := i.playbackState, pulses := s.account.pulses ++ Option.toList none }
        (s.writer.beforeVerdict p i) :=
      (fresh.next s.account.words core ⟨_, valid⟩ (by rw [status, error, fresh.status])).judged i.playbackState
    rw [account, quiet, stepped]
    refine .checking (.inl rfl) (kept.congr rfl rfl rfl) ⟨header.whole, ?_, ?_, latched.trans header.unlatched⟩
      (error.trans sound) ?_ ?_
    · exact (congrArg UploadRequest.opcode request).trans header.opcode
    · exact (congrArg UploadRequest.seq request).trans header.seq
    · change Checked _ _ _ (again || (s.writer.beforeVerdict p i).duplicatePacket)
      rw [duplicate, first, Bool.or_false]
      refine ⟨good, data, verdict, (congrArg UploadRequest.data request).trans fields_data, fun k below => ?_⟩
      exact (congrFun (mem.trans memory) k).trans (fields.buffered good data ok k below)
    · have total : s.writer.request.data.length % 2 ^ 14 * 8 % 2 ^ 15 =
          8 * (requestOf s.account.before s.account.words).data.length := by
        rw [fields_data]
        omega
      exact ⟨rfl, total, by dsimp only; omega, rfl,
        (Nat.zero_div 256).symm, fun _ => rfl, fun bad => WriterState.noConfusion bad,
        fun bad => WriterState.noConfusion bad⟩

theorem judging_next (state : s.writer.state = .final) (fresh : Fresh s.account s.writer)
    (header : Header s.account.words s.writer) (error : s.writer.packetError = !decide (WellFormed s.account.words))
    (first : s.writer.duplicatePacket = false)
    (fields : WellFormed s.account.words → Fields s.account.before s.account.words s.writer) :
    Phase p (s.nextAccount p i) (s.writer.step p i) := by
  have stepped : s.writer.step p i = s.writer.stepFinal p i := by rw [step, state]
  have account := judging_account (p := p) (i := i) state
  have memory : (s.writer.common p i).dataMem = s.writer.dataMem := common_dataMem _ _ _ (by simp [state])
  -- a packet that waits here waits unchanged
  have waits : ∀ w' : UploadWriter, s.writer.step p i = w' → w'.state = .final → w'.core = s.writer.core →
      w'.pulse = none → w'.response = (s.writer.common p i).response → w'.packetError = s.writer.packetError →
      w'.request = s.writer.request → w'.statusResponseLatched = s.writer.statusResponseLatched →
      w'.duplicatePacket = s.writer.duplicatePacket → w'.dataWordIndex = s.writer.dataWordIndex →
      w'.dataMem = s.writer.dataMem → Phase p (s.nextAccount p i) (s.writer.step p i) := by
    intro w' next final core pulse response error' request latched duplicate index memory'
    rw [account, next, pulse]
    exact .judging final (((fresh.common p i).judged _).congr core response error') (header.congr request latched)
      (error'.trans error) (duplicate.trans first) (fun good => (fields good).congr request index memory')
  by_cases status : s.writer.request.opcode = opStatus ∧ s.writer.packetError = false
  · have good : WellFormed s.account.words := by simpa [status.2] using error
    rw [stepFinal, if_pos status] at stepped
    by_cases asked : s.writer.statusRequested = false
    · rw [if_pos asked] at stepped
      split_ifs at stepped <;> exact waits _ stepped state rfl rfl rfl rfl rfl rfl rfl rfl memory
    · rw [if_neg asked] at stepped
      cases valid : i.statusSnapshotValid with
      | false =>
        rw [valid, if_neg Bool.false_ne_true] at stepped
        exact waits _ stepped state rfl rfl rfl rfl rfl rfl rfl rfl memory
      | true =>
        rw [valid, if_pos rfl] at stepped
        rw [account, stepped]
        exact .emitting rfl fresh.isOpen (fresh.common p i).valid header.whole header.opcode header.seq
          (.status good (header.opcode.symm.trans status.1)
            ⟨fresh.core, (fresh.judged i.playbackState).pulses, fresh.writes, fresh.axi⟩)
  · by_cases held : (s.writer.requiresAdmission && !i.commandReady) = true
    · rw [stepFinal, if_neg status, if_pos held] at stepped
      exact waits _ stepped state rfl rfl rfl rfl rfl rfl rfl rfl memory
    · cases bad : s.writer.packetError with
      | true =>
        have refused : ¬ WellFormed s.account.words := by simpa [bad] using error
        rw [stepFinal, if_neg status, if_neg held, bad, if_pos rfl] at stepped
        rw [account, stepped]
        refine .emitting rfl fresh.isOpen (fresh.common p i).valid header.whole header.opcode header.seq
          (.malformed refused ?_ ⟨fresh.core, (fresh.judged i.playbackState).pulses, fresh.writes, fresh.axi⟩)
        · refine (emitStatus_unlatched header.unlatched).trans ?_
          exact fresh.status.trans (by rw [bad, if_pos rfl])
      | false =>
        have good : WellFormed s.account.words := by simpa [bad] using error
        have not_status : s.writer.request.opcode ≠ opStatus := fun opcode => status ⟨opcode, bad⟩
        rw [stepFinal_sound s.writer not_status bad (Bool.eq_false_iff.mpr held)] at stepped
        exact verdict_next fresh header good bad not_status first (fields good) stepped account memory

end Judging

end Xczu47dr.Upload
