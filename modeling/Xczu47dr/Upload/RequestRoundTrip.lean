import Xczu47dr.Upload.FedPackets
import Xczu47dr.Upload.PackedRequests
import Xczu47dr.Upload.RejectedPackets
import Xczu47dr.Upload.RepeatedPackets
import Xczu47dr.Upload.StatusAnswers

/-! # Requests between the host and the writer

What `pack_wave_*` packs is what the writer registers, and nothing in its bytes makes the
writer refuse it; what a session accepts could have been packed.
-/

namespace Xczu47dr.Upload

open UploadWriter Wire Host

/-! ## Requests of the host -/

inductive WaveRequest
  | begin (a : BeginArguments)
  | data (a : DataArguments)
  | command (a : CommandArguments)

namespace WaveRequest

def pack : WaveRequest → Except ProtocolError (List Wire.Byte)
  | .begin a => packWaveBegin a
  | .data a => packWaveData a
  | .command a => packWaveCommand a

def words : WaveRequest → List Word
  | .begin a => beginWords (beginFields a) a.seq.toNat
  | .data a => dataWords (dataFields a) a.seq.toNat (toWords a.payload)
  | .command a => commandWords a.opcode.toNat a.session.toNat a.seq.toNat

def HeldBy (w : UploadWriter) : WaveRequest → Prop
  | .begin a => w.request.opcode = opBegin ∧ w.request.seq = a.seq ∧ w.request.begin.session = a.session ∧
      w.request.begin.totalBytes = a.totalBytes ∧ w.request.begin.totalBeats = a.totalBeats ∧
      w.request.begin.channelMask = a.channelMask ∧ w.request.begin.loopCount = a.loopCount ∧
      w.request.begin.layout = a.layout ∧ w.request.begin.reserved = 0 ∧
      w.request.begin.bytesPerBeat = ddrInterleavedBeatBytes
  | .data a => w.request.opcode = opData ∧ w.request.seq = a.seq ∧ w.request.data.session = a.session ∧
      w.request.data.packetSeq = a.packetSeq ∧ w.request.data.offset = a.byteOffset ∧
      w.request.data.length = a.payload.length ∧ w.request.data.crcExpected = Host.crc32 a.payload ∧
      wordBytes ((List.range (a.payload.length / 8)).map w.dataMem) = a.payload
  | .command a => w.request.opcode = a.opcode ∧ w.request.seq = a.seq ∧ w.request.sessionWord.toNat = a.session

end WaveRequest

section Words

variable {r : WaveRequest} {packet : List Wire.Byte}

theorem packed_words (packed : r.pack = .ok packet) : packet = wordBytes (ctrlMagic :: r.words) := by
  cases r with
  | begin a => exact packWaveBegin_words packed
  | data a => exact (packWaveData_words packed).1
  | command a => exact packWaveCommand_words packed

theorem unsigned_toNat {value : Int} (unsigned : Unsigned 32 value) :
    value.toNat < 2 ^ 32 ∧ (value.toNat : Int) = value := by
  obtain ⟨positive, below⟩ := unsigned
  omega

/-- A packed request is a request, with its own opcode and number. -/
theorem packed_wellFormed (packed : r.pack = .ok packet) : WellFormed r.words := by
  cases r with
  | begin a =>
    have fit := (packWaveBegin_ok.mp packed).1
    exact beginWords_wellFormed (unsigned_toNat fit.seq).1 (beginFields_narrow fit).bytesPerBeat
  | data a =>
    have fit := (packWaveData_ok.mp packed).1
    have whole := (packWaveData_words packed).2
    have beats : a.payload.length % 32 = 0 := fit.beats
    have some := fit.length.1
    exact dataWords_wellFormed (dataFields_narrow fit) (unsigned_toNat fit.seq).1
      (show 32 ≤ a.payload.length by omega) fit.length.2 whole
  | command a =>
    have fit := (packWaveCommand_ok.mp packed).1
    have code : 3 ≤ a.opcode ∧ a.opcode ≤ 8 := fit.opcode
    exact (commandWords_wellFormed _ (by omega) (by omega) (unsigned_toNat fit.seq).1).1

theorem begin_request {a : BeginArguments} (fit : a.Fit) (c : UploadCore) :
    opcodeOf (WaveRequest.begin a).words = opBegin ∧ seqOf (WaveRequest.begin a).words = a.seq.toNat ∧
      (requestOf c (WaveRequest.begin a).words).begin = beginFields a := by
  obtain ⟨opcode, seq, -⟩ := beginWords_header (b := beginFields a) (unsigned_toNat fit.seq).1
  exact ⟨opcode, seq, beginWords_begin (beginFields_narrow fit) c⟩

theorem data_request {a : DataArguments} (fit : a.Fit) (c : UploadCore) :
    opcodeOf (WaveRequest.data a).words = opData ∧ seqOf (WaveRequest.data a).words = a.seq.toNat ∧
      (requestOf c (WaveRequest.data a).words).data.rangeOk = true ∧
      ∃ ok, (requestOf c (WaveRequest.data a).words).data = { dataFields a with offsetOk := ok } := by
  have narrow := dataFields_narrow fit
  have numbered := (unsigned_toNat fit.seq).1
  obtain ⟨opcode, seq, -⟩ := dataWords_header (toWords a.payload) numbered narrow.length
  have fields := dataWords_data (toWords a.payload) narrow numbered c
  have beats : a.payload.length % 32 = 0 := fit.beats
  have inRange : decide ((dataFields a).length ≠ 0 ∧ (dataFields a).length ≤ maxPayloadBytes ∧
      (dataFields a).length % 32 = 0) = true :=
    decide_eq_true ⟨Nat.ne_of_gt fit.length.1, fit.length.2, beats⟩
  rw [inRange] at fields
  exact ⟨opcode, seq, congrArg DataFields.rangeOk fields, _, fields⟩

theorem command_request {a : CommandArguments} (fit : a.Fit) (c : UploadCore) :
    opcodeOf (WaveRequest.command a).words = a.opcode.toNat ∧ seqOf (WaveRequest.command a).words = a.seq.toNat ∧
      3 ≤ a.opcode.toNat ∧ (requestOf c (WaveRequest.command a).words).sessionWord = wordOf a.session.toNat 0 := by
  have code : 3 ≤ a.opcode ∧ a.opcode ≤ 8 := fit.opcode
  have least : 3 ≤ a.opcode.toNat := by omega
  obtain ⟨-, opcode, seq⟩ := commandWords_wellFormed a.session.toNat least (by omega) (unsigned_toNat fit.seq).1
  exact ⟨opcode, seq, least, rfl⟩

/-- The words of the data, from the memory they are buffered in. -/
theorem buffered_bytes (mem : Nat → Word) (data : List Word) (same : ∀ k, k < data.length → mem k = data.getD k 0) :
    (List.range data.length).map mem = data := by
  apply List.ext_getElem
  · rw [List.length_map, List.length_range]
  · intro k _ below
    rw [List.getElem_map, List.getElem_range, same k below, List.getD_eq_getElem _ _ below]

/-- The registers after a packed request has been fed. -/
theorem packed_held (packed : r.pack = .ok packet) {c : UploadCore} {w : UploadWriter}
    (registered : Registered c r.words w) : r.HeldBy w := by
  obtain ⟨-, -, -, agrees, memory⟩ := registered
  cases r with
  | begin a =>
    have fit := (packWaveBegin_ok.mp packed).1
    obtain ⟨opcode, seq, fields⟩ := begin_request fit c
    obtain ⟨session, bytes, beats, mask, loops, layout, -, numbered⟩ := fit
    have one : a.layout = 1 := layout
    rw [WaveRequest.HeldBy, agrees.opcode, agrees.seq, agrees.begin opcode, opcode, seq, fields, beginFields]
    dsimp only
    refine ⟨rfl, (unsigned_toNat numbered).2, ?_, ?_, ?_, ?_, ?_, ?_, rfl, rfl⟩ <;> omega
  | data a =>
    have fit := (packWaveData_ok.mp packed).1
    obtain ⟨opcode, seq, inRange, offsetOk, fields⟩ := data_request fit c
    have whole := (packWaveData_words packed).2
    have stored := memory opcode inRange
    rw [fields] at stored
    have length : (toWords a.payload).length = a.payload.length / 8 := by omega
    have words := buffered_bytes w.dataMem (toWords a.payload) fun k below => by
      have word : w.dataMem k = dataWord (WaveRequest.data a).words k := stored k (length ▸ below)
      exact word.trans (dataWords_dataWord k)
    obtain ⟨session, order, offset, -, -, -, numbered⟩ := fit
    rw [WaveRequest.HeldBy, agrees.opcode, agrees.seq, agrees.data opcode, opcode, seq, fields, ← length, words,
      wordBytes_toWords _ (show a.payload.length = 8 * (toWords a.payload).length from whole.symm)]
    dsimp only [dataFields]
    exact ⟨rfl, (unsigned_toNat numbered).2, by omega, (unsigned_toNat order).2, by omega, rfl, rfl, rfl⟩
  | command a =>
    have fit := (packWaveCommand_ok.mp packed).1
    obtain ⟨opcode, seq, least, word⟩ := command_request fit c
    have named := unsigned_toNat fit.session
    have not_begin : opcodeOf (WaveRequest.command a).words ≠ opBegin := by rw [opcode, opBegin]; omega
    have not_data : opcodeOf (WaveRequest.command a).words ≠ opData := by rw [opcode, opData]; omega
    rw [WaveRequest.HeldBy, agrees.opcode, agrees.seq, agrees.word not_begin not_data, opcode, seq, word,
      toNat_wordOf named.1 (by decide)]
    have known := fit.opcode.1
    have first : (waveOpCommit : Int) = 3 := rfl
    exact ⟨by omega, (unsigned_toNat fit.seq).2, by omega⟩

end Words

/-! ## Refusals -/

/-- What a session can have against a request: its number has been taken for another waveform,
    it is not the one of the session, or the session has nothing to commit. -/
def WaveRequest.SessionRefuses (c : UploadCore) (playback : Nat) : WaveRequest → Prop
  | .begin a => c.session = a.session ∧ c.lastBeginRequest = a.seq ∧ (c.uploadActive = true ∨ c.committed = true) ∧
      (c.totalBytes ≠ a.totalBytes ∨ c.totalBeats ≠ a.totalBeats ∨ c.channelMask ≠ a.channelMask ∨
        c.loopCount ≠ a.loopCount)
  | .data a => c.session ≠ a.session ∨ c.uploadActive = false ∨ playback = 8
  | .command a => a.session ≠ 0 ∧ a.session ≠ c.session ∨
      a.opcode = waveOpCommit ∧ (c.uploadActive = false ∨ c.session = 0 ∨ playback = 8)

section Refusals

variable {p : WriterParams} {r : WaveRequest} {packet : List Wire.Byte} {c : UploadCore} {playback status offset : Nat}

theorem judge_begin {q : UploadRequest} (opcode : q.opcode = opBegin) : q.judge p c playback = q.judgeBegin p c :=
  if_pos opcode

theorem judge_data {q : UploadRequest} (opcode : q.opcode = opData) :
    q.judge p c playback = q.judgeData c playback := by
  have not_begin : q.opcode ≠ opBegin := by
    rw [opcode]
    decide
  rw [UploadRequest.judge, if_neg not_begin, if_pos opcode]

theorem begin_refused {a : BeginArguments} (fit : a.Fit)
    (verdict : (requestOf c (WaveRequest.begin a).words).judge p c playback = .refuse status offset) :
    (WaveRequest.begin a).SessionRefuses c playback := by
  obtain ⟨opcode, seq, fields⟩ := begin_request fit c
  obtain ⟨session, bytes, beats, mask, loops, layout, whole, numbered⟩ := fit
  have one : a.layout = 1 := layout
  have capacity : a.totalBytes ≤ ddrCapacityBytes := bytes.2
  have frame : a.totalBytes = a.totalBeats * 256 := whole
  have number : (requestOf c (WaveRequest.begin a).words).seq = a.seq.toNat := seq
  have sound : (requestOf c (WaveRequest.begin a).words).beginMalformed = false := by
    rw [UploadRequest.beginMalformed, fields, decide_eq_false_iff_not, beginFields]
    dsimp only
    omega
  rw [judge_begin opcode, UploadRequest.judgeBegin, sound, if_neg Bool.false_ne_true] at verdict
  split_ifs at verdict with repeated differs
  have given := (unsigned_toNat numbered).2
  rw [UploadRequest.beginRepeated, fields, number, Bool.and_eq_true, Bool.or_eq_true, decide_eq_true_eq] at repeated
  rw [UploadRequest.beginDiffers, fields, decide_eq_true_eq] at differs
  dsimp only [beginFields] at repeated differs
  obtain ⟨⟨same, again⟩, live⟩ := repeated
  refine ⟨by omega, by omega, live, ?_⟩
  omega

theorem data_refused {a : DataArguments} (fit : a.Fit)
    (verdict : (requestOf c (WaveRequest.data a).words).judge p c playback = .refuse status offset) :
    status ≠ statusRange ∧ (status = statusBadRequest → (WaveRequest.data a).SessionRefuses c playback) := by
  obtain ⟨opcode, -, inRange, ok, fields⟩ := data_request fit c
  rw [judge_data opcode, UploadRequest.judgeData, inRange, if_neg (show ¬ true = false from nofun), fields] at verdict
  have session := fit.session
  split_ifs at verdict with closed repeated order place <;> cases verdict
  · refine ⟨by decide, fun _ => ?_⟩
    dsimp only [dataFields] at closed
    rcases closed with other | idle | error
    · exact .inl (by omega)
    · exact .inr (.inl idle)
    · exact .inr (.inr error)
  · exact ⟨by decide, fun bad => absurd bad (by decide)⟩
  · exact ⟨by decide, fun bad => absurd bad (by decide)⟩

theorem command_refused {a : CommandArguments} (fit : a.Fit)
    (verdict : (requestOf c (WaveRequest.command a).words).judge p c playback = .refuse status offset) :
    status ≠ statusRange ∧ (status = statusBadRequest → (WaveRequest.command a).SessionRefuses c playback) := by
  obtain ⟨opcode, -, least, word⟩ := command_request fit c
  obtain ⟨named, session⟩ := unsigned_toNat fit.session
  have code : (requestOf c (WaveRequest.command a).words).opcode = a.opcode.toNat := opcode
  have not_begin : a.opcode.toNat ≠ opBegin := by rw [opBegin]; omega
  have not_data : a.opcode.toNat ≠ opData := by rw [opData]; omega
  have other : ∀ code n : Nat, Verdict.refuse code n = .refuse status offset →
      code = statusUnsafe ∨ code = statusIncomplete →
      status ≠ statusRange ∧ (status = statusBadRequest → (WaveRequest.command a).SessionRefuses c playback) := by
    rintro code n equal (rfl | rfl) <;> cases equal <;> exact ⟨by decide, fun bad => absurd bad (by decide)⟩
  rw [UploadRequest.judge, code, if_neg not_begin, if_neg not_data] at verdict
  split_ifs at verdict with differs commit play halt abort
  · cases verdict
    refine ⟨by decide, fun _ => .inl ?_⟩
    rw [UploadRequest.sessionDiffers, word, high_wordOf named (by decide), low_wordOf named (by decide),
      decide_eq_true_eq] at differs
    omega
  · rw [UploadRequest.judgeCommit] at verdict
    split_ifs at verdict with done closed whole
    · cases verdict
      refine ⟨by decide, fun _ => .inr ⟨?_, closed⟩⟩
      have three : waveOpCommit = opCommit := rfl
      omega
    · exact other _ _ verdict (.inr rfl)
  · rw [UploadRequest.judgePlay] at verdict
    split_ifs at verdict
    exact other _ _ verdict (.inl rfl)
  · rw [UploadRequest.judgeHalt] at verdict
    split_ifs at verdict
    exact other _ _ verdict (.inl rfl)

/-- A packed request is never out of range, and it takes a session to refuse it as bad. -/
theorem packed_refused (packed : r.pack = .ok packet)
    (verdict : (requestOf c r.words).judge p c playback = .refuse status offset) :
    status ≠ statusRange ∧ (status = statusBadRequest → r.SessionRefuses c playback) := by
  cases r with
  | begin a =>
    have fit := (packWaveBegin_ok.mp packed).1
    refine ⟨?_, fun _ => begin_refused fit verdict⟩
    have opcode : (requestOf c (WaveRequest.begin a).words).opcode = opBegin := (begin_request fit c).1
    rw [judge_begin opcode, UploadRequest.judgeBegin] at verdict
    split_ifs at verdict <;> cases verdict <;> decide
  | data a => exact data_refused (packWaveData_ok.mp packed).1 verdict
  | command a => exact command_refused (packWaveCommand_ok.mp packed).1 verdict

end Refusals

/-! ## What a session accepts -/

/-- An open session has a name and fits the memory, and so does what it has stored last. -/
structure SessionSound (c : UploadCore) : Prop where
  active : c.uploadActive = true → c.session ≠ 0 ∧ c.totalBytes ≤ ddrCapacityBytes
  last : c.lastDataValid = true → c.lastData.offset % 32 = 0 ∧
    c.lastData.offset + c.lastData.length ≤ ddrCapacityBytes

section Sessions

variable {p : WriterParams} {c : UploadCore} {q : UploadRequest} {playback : Nat}

theorem SessionSound.accept (sound : SessionSound c) {after : UploadCore} {pulse : Option PlaybackCommand}
    (verdict : q.judge p c playback = .accept after pulse) : SessionSound after := by
  unfold UploadRequest.judge at verdict
  split_ifs at verdict with begins data differs commit play halt abort
  · unfold UploadRequest.judgeBegin at verdict
    split_ifs at verdict with malformed repeated
    · cases verdict
      exact sound
    · cases verdict
      simp only [UploadRequest.beginMalformed, decide_eq_true_eq, not_or, not_not, Nat.not_lt] at malformed
      exact ⟨fun _ => ⟨malformed.1, malformed.2.2.2.2.2.2.2.1⟩, nofun⟩
  · unfold UploadRequest.judgeData at verdict
    split_ifs at verdict
  · unfold UploadRequest.judgeCommit at verdict
    split_ifs at verdict <;> cases verdict
    · exact sound
    · exact ⟨nofun, sound.last⟩
  · unfold UploadRequest.judgePlay at verdict
    split_ifs at verdict <;> cases verdict
    · exact sound
    · exact ⟨sound.active, sound.last⟩
  · unfold UploadRequest.judgeHalt at verdict
    split_ifs at verdict <;> cases verdict
    · exact ⟨nofun, nofun⟩
    · exact sound
    · exact sound
  · cases verdict
    exact ⟨nofun, nofun⟩
  · cases verdict
    exact sound

/-- Data that is checked lies in the memory. -/
theorem SessionSound.check {words : List Word} (sound : SessionSound c) (good : WellFormed words) {again : Bool}
    (verdict : (requestOf c words).judge p c playback = .check again) :
    (requestOf c words).data.session ≠ 0 ∧ (requestOf c words).data.offset % 32 = 0 ∧
      (requestOf c words).data.offset + (requestOf c words).data.length ≤ ddrCapacityBytes := by
  obtain ⟨opcode, same, active, -, inRange, repeated, order⟩ := judge_check verdict
  obtain ⟨named, fits⟩ := sound.active active
  refine ⟨same ▸ named, ?_⟩
  cases again with
  | true =>
    rw [UploadRequest.dataRepeated, Bool.and_eq_true, decide_eq_true_eq] at repeated
    have stored := sound.last repeated.1
    rw [repeated.2] at stored
    exact stored
  | false =>
    have placed := (order rfl).2
    have long : 3 ≤ (words.drop 2).length := Nat.le_trans (by decide) (good.count.2.1 opcode)
    obtain ⟨x, y, z, rest, split⟩ : ∃ x y z rest, words.drop 2 = x :: y :: z :: rest := by
      generalize words.drop 2 = payload at long
      rcases payload with _ | ⟨x, _ | ⟨y, _ | ⟨z, rest⟩⟩⟩
      case cons.cons.cons => exact ⟨x, y, z, rest, rfl⟩
      all_goals exact absurd long (by simp)
    simp only [requestOf, split, dataOf_header] at placed ⊢
    simp only [dataOf, List.zipIdx_cons, List.zipIdx_nil, List.foldl_cons, List.foldl_nil, takeData,
      decide_eq_true_eq] at placed ⊢
    omega

theorem SessionSound.lawful {t : Transaction} (sound : SessionSound t.before) (lawful : t.Lawful p) :
    SessionSound t.after := by
  cases lawful.outcome with
  | malformed _ _ unchanged | status _ _ unchanged | refused _ _ _ _ unchanged | badCrc _ _ _ _ _ _ unchanged
  | repeated _ _ _ _ _ unchanged =>
    rw [unchanged.after]
    exact sound
  | accepted _ _ _ verdict => exact sound.accept verdict
  | stored good _ verdict _ _ after =>
    rw [after]
    exact ⟨sound.active, fun _ => (sound.check good verdict).2⟩
  | failed _ _ _ _ _ after =>
    rw [after]
    exact ⟨nofun, sound.last⟩

theorem SessionSound.chained {c c' : UploadCore} {ts : List Transaction} (sound : SessionSound c)
    (chained : Chained c ts c') (lawful : ∀ t ∈ ts, t.Lawful p) : SessionSound c' := by
  induction ts generalizing c with
  | nil =>
    cases chained
    exact sound
  | cons t ts ih =>
    obtain ⟨before, rest⟩ := chained
    have first : SessionSound t.before := before ▸ sound
    exact ih (first.lawful (lawful t List.mem_cons_self)) rest fun u later => lawful u (List.mem_cons_of_mem _ later)

/-- The session of every state the writer reaches. -/
theorem sessionSound_run (p : WriterParams) (is : List WriterIn) :
    SessionSound ((uploadWriter p).run (.reset p) is).core := by
  obtain ⟨phase, chained, lawful⟩ := run_lawful p is
  have fresh : SessionSound (.reset p) := ⟨nofun, nofun⟩
  have settled := fresh.chained chained lawful
  have writer := accountedWriter_run p (.reset p) is
  change _ = (uploadWriter p).run (.reset p) is at writer
  rw [← writer]
  generalize (accountedWriter p).run (.reset p) is = s at *
  have still (core : s.writer.core = s.account.before) : SessionSound s.writer.core := by
    rw [AccountedWriter.settled] at settled
    split at settled
    · exact core ▸ settled
    · exact settled
  cases phase with
  | hdr0 _ fresh | hdr1 _ fresh | payload _ fresh | drop _ fresh | judging _ fresh | checking _ fresh
  | checked _ fresh => exact still fresh.core
  | writing _ _ core => exact still core
  | idle _ closed | draining _ closed =>
    rw [AccountedWriter.settled, closed, if_neg Bool.false_ne_true] at settled
    exact settled
  | emitting _ isOpen _ whole opcode seq outcome =>
    rw [AccountedWriter.settled, isOpen, if_pos rfl] at settled
    exact SessionSound.lawful (t := toAnswer s.account s.writer (emitStatus s.writer)) settled
      ⟨whole, seq, opcode, outcome⟩

end Sessions

/-! ## Both ways -/

/-- The arguments of a BEGIN with these fields. -/
def beginArguments (b : BeginFields) (seq : Nat) : BeginArguments :=
  ⟨b.session, b.totalBytes, b.channelMask, b.totalBeats, b.loopCount, b.layout, seq⟩

/-- The arguments of a DATA with these fields. -/
def dataArguments (d : DataFields) (seq : Nat) (payload : List Wire.Byte) : DataArguments :=
  ⟨d.session, d.packetSeq, d.offset, payload, seq⟩

/-- The session `c` does not refuse the packet. -/
def Takes (p : WriterParams) (c : UploadCore) (playback : Nat) (words : List Word) : Prop :=
  WellFormed words ∧ ∀ status offset, (requestOf c words).judge p c playback ≠ .refuse status offset

section Packable

variable {p : WriterParams} {c : UploadCore} {playback : Nat} {words : List Word}

/-- A BEGIN that some session takes is the packet of its arguments. -/
theorem begin_packable (takes : Takes p c playback words) (begins : opcodeOf words = opBegin) :
    ∃ packet, packWaveBegin (beginArguments (requestOf c words).begin (seqOf words)) = .ok packet ∧
      toWords packet = ctrlMagic :: words := by
  obtain ⟨good, unrefused⟩ := takes
  have narrow := begin_narrow good begins c
  have same := eq_beginWords good begins c
  have sound : (requestOf c words).beginMalformed = false := by
    by_contra malformed
    refine unrefused statusBadRequest 0 ?_
    rw [judge_begin begins, UploadRequest.judgeBegin, if_pos (Bool.eq_true_of_not_eq_false malformed)]
  rw [UploadRequest.beginMalformed, decide_eq_false_iff_not] at sound
  have numbered : seqOf words < 2 ^ 32 := BitVec.isLt _
  generalize (requestOf c words).begin = b at *
  obtain ⟨session, bytes, mask, -, -, beats, loops, -⟩ := narrow
  simp only [not_or, not_not, Nat.not_lt] at sound
  obtain ⟨named, lanes, one, reserved, beat, repeats, some, capacity, whole⟩ := sound
  have fit : (beginArguments b (seqOf words)).Fit := by
    have most : b.totalBytes ≤ ddrMaxInterleavedBytes := capacity
    have layout : waveLayoutInterleaved512b = 1 := rfl
    have frame : waveDacFrameBytes = 256 := rfl
    constructor <;> dsimp only [beginArguments, Unsigned] <;> (try rw [frame]) <;> omega
  have fields : beginFields (beginArguments b (seqOf words)) = b := by
    cases b
    dsimp only at reserved beat
    rw [reserved, beat]
    rfl
  refine ⟨_, packWaveBegin_ok.mpr ⟨fit, rfl⟩, ?_⟩
  rw [packWaveBegin_words (packWaveBegin_ok.mpr ⟨fit, rfl⟩), toWords_wordBytes, fields]
  exact congrArg (ctrlMagic :: ·) same.symm

/-- The fields of a DATA that a reachable session takes can be packed; with the CRC of its data
    it is the packet of them. -/
theorem data_packable (sound : SessionSound c) (takes : Takes p c playback words) (sends : opcodeOf words = opData) :
    ∃ packet,
      packWaveData (dataArguments (requestOf c words).data (seqOf words) (wordBytes (words.drop 5))) = .ok packet ∧
      (CrcMatches words (requestOf c words) → toWords packet = ctrlMagic :: words) := by
  obtain ⟨good, unrefused⟩ := takes
  obtain ⟨again, verdict⟩ : ∃ again, (requestOf c words).judge p c playback = .check again := by
    cases judged : (requestOf c words).judge p c playback with
    | refuse status offset => exact absurd judged (unrefused status offset)
    | accept core pulse =>
      rw [judge_data (show (requestOf c words).opcode = opData from sends), UploadRequest.judgeData] at judged
      split_ifs at judged
    | check again => exact ⟨again, rfl⟩
  have inRange := (judge_check verdict).2.2.2.2.1
  obtain ⟨named, aligned, fits⟩ := sound.check good verdict
  obtain ⟨session, order, offset, -, crc⟩ := data_narrow good sends inRange
  obtain ⟨same, all⟩ := eq_dataWords good sends inRange
  have three : 3 ≤ (words.drop 2).length := Nat.le_trans (by decide) (good.count.2.1 sends)
  obtain ⟨some, most, beats, -⟩ := range_of_rangeOk (by rw [List.length_drop] at three; omega) inRange
  have numbered : seqOf words < 2 ^ 32 := BitVec.isLt _
  have length : (wordBytes (words.drop 5)).length = (requestOf c words).data.length := by rw [length_wordBytes, all]
  have fit : (dataArguments (requestOf c words).data (seqOf words) (wordBytes (words.drop 5))).Fit := by
    have capacity : ddrCapacityBytes < 2 ^ 64 := by decide
    have beat : beatBytes = 32 := rfl
    have room : maxData = maxPayloadBytes := rfl
    refine ⟨⟨?_, ?_⟩, ⟨?_, ?_⟩, ⟨?_, ?_⟩, ?_, ⟨?_, ?_⟩, ?_, ⟨?_, ?_⟩⟩ <;>
      simp only [dataArguments, length, beat, room] <;> omega
  refine ⟨_, packWaveData_ok.mpr ⟨fit, rfl⟩, fun valid => ?_⟩
  rw [(packWaveData_words (packWaveData_ok.mpr ⟨fit, rfl⟩)).1, toWords_wordBytes]
  have checked : Host.crc32 (wordBytes (words.drop 5)) = (requestOf c words).data.crcExpected := by
    refine (crcMatches_iff (requestOf c words).data (seqOf words) all).mp ?_
    rw [← same]
    exact valid
  have fields : dataFields (dataArguments (requestOf c words).data (seqOf words) (wordBytes (words.drop 5))) =
      { (requestOf c words).data with rangeOk := true, offsetOk := true } := by
    simp only [dataFields, dataArguments, length, checked, Int.toNat_natCast]
  rw [fields]
  refine congrArg (ctrlMagic :: ·) (Eq.trans ?_ same.symm)
  rw [dataArguments, toWords_wordBytes]
  rfl

end Packable

/-- A packet of the host, fed word by word to any writer that waits, is registered with its
    arguments; whatever becomes of it in a run, it is answered RANGE or BAD_REQUEST only when
    the session refuses it, or when a STATUS reports so of the playback.  Conversely a BEGIN or
    a DATA that the session of a reachable state takes has arguments that can be packed; the
    packet is the same, the CRC of a DATA given. -/
theorem requests_round_trip (p : WriterParams) :
    (∀ (r : WaveRequest) (packet : List Wire.Byte), r.pack = .ok packet →
      (∀ (s : UploadWriter) (is : List WriterIn), s.Waits → Brings is (toWords packet) →
        ((uploadWriter p).run s is).state = .final ∧ ((uploadWriter p).run s is).packetError = false ∧
          r.HeldBy ((uploadWriter p).run s is)) ∧
      ∀ (is : List WriterIn), ∀ t ∈ answers p is, ctrlMagic :: t.words = toWords packet →
        t.status = statusBadRequest ∨ t.status = statusRange →
        t.status = statusBadRequest ∧ r.SessionRefuses t.before t.playback ∨
          t.opcode = opStatus ∧ ∃ i ∈ is, i.statusSnapshotValid = true ∧ i.statusSnapshot.status = t.status) ∧
    ∀ (is : List WriterIn) (playback : Nat) (words : List Word),
      let c := ((uploadWriter p).run (.reset p) is).core
      Takes p c playback words →
      (opcodeOf words = opBegin → ∃ packet,
        packWaveBegin (beginArguments (requestOf c words).begin (seqOf words)) = .ok packet ∧
          toWords packet = ctrlMagic :: words) ∧
      (opcodeOf words = opData → ∃ packet,
        packWaveData (dataArguments (requestOf c words).data (seqOf words) (wordBytes (words.drop 5))) = .ok packet ∧
          (CrcMatches words (requestOf c words) → toWords packet = ctrlMagic :: words)) := by
  refine ⟨fun r packet packed => ?_, fun is playback words takes => ?_⟩
  · have good := packed_wellFormed packed
    have stream : toWords packet = ctrlMagic :: r.words := by rw [packed_words packed, toWords_wordBytes]
    rw [stream]
    refine ⟨fun s is waits brings => ?_, fun is t answered same bad => ?_⟩
    · have registered := registered_of_brings (p := p) waits brings good
      exact ⟨registered.state, registered.sound, packed_held packed registered⟩
    · have words := (List.cons.inj same).2
      have lawful := (run_lawful p is).2.2 t answered
      rw [← words] at good
      cases lawful.outcome with
      | malformed malformed => exact absurd good malformed
      | status _ opcode => exact .inr ⟨lawful.opcode.trans opcode, (run_given p is).2 t answered good opcode⟩
      | refused _ _ _ verdict =>
        rw [Transaction.verdict, Transaction.request, words] at verdict
        obtain ⟨inRange, reason⟩ := packed_refused packed verdict
        have bad_request := bad.resolve_right inRange
        exact .inl ⟨bad_request, reason bad_request⟩
      | accepted _ _ _ _ ok | repeated _ _ _ _ ok | stored _ _ _ _ ok | badCrc _ _ _ _ _ ok =>
        rw [ok] at bad
        exact absurd bad (by decide)
      | failed _ _ _ _ failed =>
        rcases failed with failed | failed <;> rw [failed] at bad <;> exact absurd bad (by decide)
  · exact ⟨begin_packable takes, data_packable (sessionSound_run p is) takes⟩

/-- BEGIN of session 5 from the host, as it is registered. -/
theorem beginPacket_held :
    (WaveRequest.begin ⟨5, 256, 1, 1, 1, 1, 7⟩).HeldBy
      ((uploadWriter topWriterParams).run (.reset topWriterParams) ((packetCycles 0 beginPacket).take 7)) := by
  obtain ⟨packet, packed, words⟩ : ∃ packet, (WaveRequest.begin ⟨5, 256, 1, 1, 1, 1, 7⟩).pack = .ok packet ∧
      toWords packet = beginPacket := ⟨_, rfl, by decide⟩
  refine (((requests_round_trip topWriterParams).1 _ packet packed).1 _ _ ⟨rfl, rfl, rfl⟩ ?_).2.2
  rw [words]
  refine ⟨(packetCycles 0 beginPacket).take 6, _, rfl, rfl, rfl, ?_, rfl⟩
  decide

end Xczu47dr.Upload
