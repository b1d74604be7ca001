import Xczu47dr.Upload.PacketPhases

/-! # One cycle of a packet

Every cycle leads from one phase of a packet to one it may lead to, and what is
answered in it is lawful.
-/

namespace Xczu47dr.Upload

open UploadWriter

namespace UploadWriter

variable (p : WriterParams) (s n : UploadWriter) (i : WriterIn)

/-! ## What every cycle leaves alone -/

@[simp] theorem common_state : (s.common p i).state = s.state := rfl
@[simp] theorem common_core : (s.common p i).core = s.core := rfl
@[simp] theorem common_request : (s.common p i).request = s.request := rfl
@[simp] theorem common_packetError : (s.common p i).packetError = s.packetError := rfl
@[simp] theorem common_status : (s.common p i).response.status = s.response.status := rfl
@[simp] theorem common_pulse : (s.common p i).pulse = none := rfl
@[simp] theorem common_valid : (s.common p i).response.valid = (s.response.valid && !i.responseReady) := rfl
@[simp] theorem common_duplicatePacket : (s.common p i).duplicatePacket = s.duplicatePacket := rfl
@[simp] theorem common_statusResponseLatched : (s.common p i).statusResponseLatched = s.statusResponseLatched := rfl
@[simp] theorem common_statusRequested : (s.common p i).statusRequested = s.statusRequested := rfl
@[simp] theorem common_payloadBytes : (s.common p i).payloadBytes = s.payloadBytes := rfl
@[simp] theorem common_payloadWords : (s.common p i).payloadWords = s.payloadWords := rfl
@[simp] theorem common_payloadIndex : (s.common p i).payloadIndex = s.payloadIndex := rfl
@[simp] theorem common_dataWordIndex : (s.common p i).dataWordIndex = s.dataWordIndex := rfl

/-- Outside the payload the packet memory is not written. -/
theorem common_dataMem (elsewhere : s.state ≠ .payload) : (s.common p i).dataMem = s.dataMem := by
  have quiet : s.packetWrite i = false := by simp [packetWrite, elsewhere]
  simp only [common, quiet]
  rfl

/-! ## The first error of a packet -/

@[simp] theorem setError_state (status offset : Nat) : (s.setError n status offset).state = n.state := by
  unfold setError
  split <;> rfl

@[simp] theorem setError_core (status offset : Nat) : (s.setError n status offset).core = n.core := by
  unfold setError
  split <;> rfl

@[simp] theorem setError_request (status offset : Nat) : (s.setError n status offset).request = n.request := by
  unfold setError
  split <;> rfl

@[simp] theorem setError_pulse (status offset : Nat) : (s.setError n status offset).pulse = n.pulse := by
  unfold setError
  split <;> rfl

@[simp] theorem setError_valid (status offset : Nat) :
    (s.setError n status offset).response.valid = n.response.valid := by
  unfold setError
  split <;> rfl

@[simp] theorem setError_packetError (status offset : Nat) : (s.setError n status offset).packetError = true := by
  unfold setError
  split <;> rfl

@[simp] theorem setError_unlatched (status offset : Nat) :
    (s.setError n status offset).statusResponseLatched = n.statusResponseLatched := by
  unfold setError
  split <;> rfl

theorem setError_status (status offset : Nat) :
    (s.setError n status offset).response.status = if s.packetError then n.response.status else status := by
  unfold setError
  split <;> rfl

end UploadWriter

/-! ## The account in a cycle -/

section Account

variable {p : WriterParams} {s : AccountedWriter} {i : WriterIn}

theorem not_starts (busy : s.writer.state ≠ .idle) : s.starts p i = false := by
  rw [AccountedWriter.starts, beq_eq_false_iff_ne.mpr busy, Bool.false_and]

theorem timesOut_false (elsewhere : s.writer.state ≠ .write) : s.writer.timesOut p i = false := by
  simp [UploadWriter.timesOut, elsewhere]

theorem raises_false (no_write : s.writer.state ≠ .write) (no_emit : s.writer.state ≠ .emit) :
    s.writer.raises p i = false := by
  rw [UploadWriter.raises, timesOut_false no_write, beq_eq_false_iff_ne.mpr no_emit, Bool.or_self]

theorem axiFails_false (elsewhere : s.writer.state ≠ .write) : s.writer.axiFails p i = false := by
  simp [UploadWriter.axiFails, timesOut_false elsewhere, bFires, bready, elsewhere]

theorem receives_false (state : s.writer.state ≠ .hdr0 ∧ s.writer.state ≠ .hdr1 ∧ s.writer.state ≠ .payload ∧
    s.writer.state ≠ .drop) : s.writer.receives i = false := by
  simp [UploadWriter.receives, state]

theorem givesUp_false (elsewhere : s.writer.state ≠ .hdr0) : s.givesUp p i = false := by
  rw [AccountedWriter.givesUp, beq_eq_false_iff_ne.mpr elsewhere, Bool.false_and]

theorem not_answered (raises : s.writer.raises p i = false) : s.answered p i = [] := by
  rw [AccountedWriter.answered, raises]
  rfl

/-- A cycle of a packet that is neither judged, written, answered nor given up. -/
theorem nextAccount_plain (busy : s.writer.state ≠ .idle) (not_final : s.writer.state ≠ .final)
    (not_load : s.writer.state = .readLoad → s.writer.readingCrc = true) (pulse : (s.writer.step p i).pulse = none)
    (no_write : s.writer.state ≠ .write) (no_emit : s.writer.state ≠ .emit) (stays : s.givesUp p i = false) :
    s.nextAccount p i =
      { s.account with
        words := if s.writer.receives i then s.account.words ++ [i.tdata] else s.account.words } := by
  have load : ¬ (s.writer.state = .readLoad ∧ s.writer.readingCrc = false) := fun ⟨at_, reading⟩ => by
    rw [not_load at_] at reading
    exact Bool.noConfusion reading
  simp only [AccountedWriter.nextAccount, not_starts busy, Bool.false_eq_true, if_false, if_neg not_final, if_neg load,
    pulse, raises_false no_write no_emit, axiFails_false no_write, stays, Option.toList_none, List.append_nil,
    Bool.not_false, Bool.and_true, Bool.or_false]

end Account

/-! ## The header -/

theorem Fresh.next {a : Account} {w w' : UploadWriter} (fresh : Fresh a w) (words : List Word) (core : w'.core = w.core)
    (valid : ∃ r, w'.response.valid = (w.response.valid && r))
    (status : w'.response.status = if w'.packetError then statusBadRequest else statusOk) :
    Fresh { a with words := words } w' where
  isOpen := fresh.isOpen
  core := core.trans fresh.core
  pulses := fresh.pulses
  writes := fresh.writes
  axi := fresh.axi
  valid := by
    obtain ⟨r, valid⟩ := valid
    rw [valid, fresh.valid, Bool.false_and]
  status := status

theorem Fresh.congr {a : Account} {w w' : UploadWriter} (fresh : Fresh a w) (core : w'.core = w.core)
    (response : w'.response = w.response) (error : w'.packetError = w.packetError) : Fresh a w' where
  isOpen := fresh.isOpen
  core := core.trans fresh.core
  pulses := fresh.pulses
  writes := fresh.writes
  axi := fresh.axi
  valid := (congrArg WriterResponse.valid response).trans fresh.valid
  status := by rw [response, error, fresh.status]

/-- A further error of a packet does not change what it is answered with. -/
theorem Fresh.refused {a : Account} {n : UploadWriter} (fresh : Fresh a n) (w : UploadWriter)
    (earlier : w.packetError = true → n.packetError = true) (offset : Nat) :
    (w.setError n statusBadRequest offset).response.status = statusBadRequest := by
  rw [setError_status]
  cases error : w.packetError with
  | false => rfl
  | true => rw [if_pos rfl, fresh.status, earlier error, if_pos rfl]

theorem Fresh.setError {a : Account} {n : UploadWriter} (fresh : Fresh a n) (w : UploadWriter)
    (earlier : w.packetError = true → n.packetError = true) (offset : Nat) :
    Fresh a (w.setError n statusBadRequest offset) where
  isOpen := fresh.isOpen
  core := (setError_core _ _ _ _).trans fresh.core
  pulses := fresh.pulses
  writes := fresh.writes
  axi := fresh.axi
  valid := (setError_valid _ _ _ _).trans fresh.valid
  status := (fresh.refused w earlier offset).trans (if_pos (setError_packetError _ _ _ _)).symm

theorem Header.congr {words : List Word} {w w' : UploadWriter} (header : Header words w)
    (request : w'.request = w.request) (latched : w'.statusResponseLatched = w.statusResponseLatched) :
    Header words w' where
  whole := header.whole
  opcode := by rw [request, header.opcode]
  seq := by rw [request, header.seq]
  unlatched := latched.trans header.unlatched

theorem Header.setError {words : List Word} {n : UploadWriter} (header : Header words n) (w : UploadWriter)
    (status offset : Nat) : Header words (w.setError n status offset) :=
  header.congr (setError_request _ _ _ _) (setError_unlatched _ _ _ _)

theorem Fields.congr {c : UploadCore} {words : List Word} {w w' : UploadWriter} (fields : Fields c words w)
    (request : w'.request = w.request) (index : w'.dataWordIndex = w.dataWordIndex)
    (memory : w'.dataMem = w.dataMem) : Fields c words w' where
  begin := by rw [request]; exact fields.begin
  data := by rw [request]; exact fields.data
  word := by rw [request]; exact fields.word
  index := by rw [index]; exact fields.index
  memory := by rw [index, memory]; exact fields.memory

section Receiving

variable {p : WriterParams} {s : AccountedWriter} {i : WriterIn}

theorem idle_next (state : s.writer.state = .idle) (closed : s.account.isOpen = false) :
    Phase p (s.nextAccount p i) (s.writer.step p i) := by
  have stepped : s.writer.step p i = s.writer.stepIdle p i := by rw [step, state]
  by_cases starts : i.tvalid && !s.writer.rxActive && !s.writer.response.valid && !i.tlast && i.tdata == ctrlMagic
  · have begun : s.starts p i = true := by
      simp only [AccountedWriter.starts, stepped, state, stepIdle, starts, if_true]
      rfl
    have idle : s.writer.response.valid = false := by
      simp only [Bool.and_eq_true, Bool.not_eq_true'] at starts
      exact starts.1.1.2
    have account : s.nextAccount p i = ⟨s.writer.core, [], 0, [], [], false, true⟩ := by
      rw [AccountedWriter.nextAccount, if_pos begun]
    rw [account, stepped, stepIdle, if_pos starts]
    refine .hdr0 rfl ⟨rfl, rfl, rfl, rfl, rfl, ?_, rfl⟩ rfl rfl
    exact congrArg (· && !i.responseReady) idle
  · have waits : s.writer.step p i = s.writer.common p i := by
      rw [stepped, stepIdle, if_neg starts]
    have none : s.starts p i = false := by
      rw [AccountedWriter.starts, waits, common_state, state]
      rfl
    refine .idle (by rw [waits, common_state, state]) ?_
    rw [AccountedWriter.nextAccount, if_neg (by rw [none]; exact Bool.false_ne_true)]
    exact (congrArg (· && _ && _) closed)

theorem hdr0_next (state : s.writer.state = .hdr0) (fresh : Fresh s.account s.writer) (words : s.account.words = [])
    (sound : s.writer.packetError = false) : Phase p (s.nextAccount p i) (s.writer.step p i) := by
  have stepped : s.writer.step p i = s.writer.stepHdr0 p i := by rw [step, state]
  have clean : s.writer.response.status = statusOk := by rw [fresh.status, sound]; rfl
  have pulse : (s.writer.step p i).pulse = none := by
    rw [stepped, stepHdr0]
    by_cases bad : badHeader i.tdata <;> cases i.tvalid <;> simp [bad]
  cases valid : i.tvalid with
  | false =>
    have waits : s.writer.step p i = s.writer.common p i := by rw [stepped, stepHdr0, valid, if_neg Bool.false_ne_true]
    have stays : s.givesUp p i = false := by
      rw [AccountedWriter.givesUp, waits, common_state, state]
      rfl
    have account := nextAccount_plain (by simp [state]) (by simp [state]) (by simp [state]) pulse (by simp [state])
      (by simp [state]) stays
    rw [account, waits, receives, valid, Bool.false_and, if_neg Bool.false_ne_true]
    exact .hdr0 state (fresh.next _ rfl ⟨_, rfl⟩ fresh.status) words sound
  | true =>
    cases last : i.tlast with
    | true =>
      -- two words are no request
      have next : (s.writer.step p i).state = .idle := by
        simp only [stepped, stepHdr0, valid, last, if_true]
      refine .idle next ?_
      have stops : s.givesUp p i = true := by
        rw [AccountedWriter.givesUp, next, state]
        rfl
      simp [AccountedWriter.nextAccount, AccountedWriter.starts, state, stops]
    | false =>
      have next : (s.writer.step p i).state = .hdr1 := by
        simp only [stepped, stepHdr0, valid, last, if_true, Bool.false_eq_true, if_false]
      have stays : s.givesUp p i = false := by
        rw [AccountedWriter.givesUp, next]
        simp
      have taken : s.writer.receives i = true := by rw [receives, valid, state]; rfl
      have account := nextAccount_plain (by simp [state]) (by simp [state]) (by simp [state]) pulse (by simp [state])
        (by simp [state]) stays
      have error : (s.writer.step p i).packetError = badHeader i.tdata := by
        rw [stepped, stepHdr0, valid, if_pos rfl]
        cases bad : badHeader i.tdata <;> simp [sound]
      rw [account, taken, if_pos rfl, words]
      refine .hdr1 next (fresh.next _ ?_ ⟨!i.responseReady, ?_⟩ ?_) i.tdata rfl ?_ error ?_
      · rw [stepped, stepHdr0, valid, if_pos rfl]
        cases bad : badHeader i.tdata <;> simp
      · rw [stepped, stepHdr0, valid, if_pos rfl]
        cases bad : badHeader i.tdata <;> simp
      · rw [error, stepped, stepHdr0, valid, if_pos rfl]
        cases bad : badHeader i.tdata <;> simp [setError_status, sound, clean]
      · rw [stepped, stepHdr0, valid, if_pos rfl]
      · rw [stepped, stepHdr0, valid, if_pos rfl]

/-- What is kept of a packet while its words come in. -/
theorem receiving_account (state : s.writer.state = .hdr1 ∨ s.writer.state = .payload ∨ s.writer.state = .drop)
    (pulse : (s.writer.step p i).pulse = none) :
    s.nextAccount p i =
      { s.account with words := if i.tvalid then s.account.words ++ [i.tdata] else s.account.words } := by
  have taken : s.writer.receives i = i.tvalid := by
    rcases state with state | state | state <;> rw [receives, state] <;> simp
  rw [nextAccount_plain _ _ _ pulse _ _ (givesUp_false _), taken] <;>
    rcases state with state | state | state <;> simp [state]

/-- Without a latched snapshot the answer is the status of the packet. -/
theorem emitStatus_unlatched {w : UploadWriter} (unlatched : w.statusResponseLatched = false) :
    emitStatus w = w.response.status := by
  rw [emitStatus, unlatched, if_neg]
  exact fun ⟨_, latched⟩ => Bool.false_ne_true latched

theorem wellFormed_long {words : List Word} (good : WellFormed words) : 3 ≤ words.length := good.2.2.1

/-- The registers after the second header word. -/
def UploadWriter.takesHeader (p : WriterParams) (w : UploadWriter) (i : WriterIn) : UploadWriter :=
  { w.common p i with
    request := { w.request with seq := low i.tdata }
    payloadBytes := high i.tdata
    payloadWords := wordsFor (high i.tdata)
    payloadIndex := 0
    dataWordIndex := 0
    duplicatePacket := false }

theorem stepHdr1_valid (w : UploadWriter) (valid : i.tvalid = true) :
    w.stepHdr1 p i =
      if i.tlast then { w.setError (w.takesHeader p i) statusBadRequest 0 with state := .emit }
      else if badLength w.request.opcode (high i.tdata) then
        { w.setError (w.takesHeader p i) statusBadRequest 0 with state := .drop }
      else { w.takesHeader p i with state := .payload } := by
  rw [stepHdr1, if_pos valid]
  rfl

theorem hdr1_next (state : s.writer.state = .hdr1) (fresh : Fresh s.account s.writer) {w0 : Word}
    (words : s.account.words = [w0]) (opcode : s.writer.request.opcode = high w0)
    (error : s.writer.packetError = badHeader w0) (unlatched : s.writer.statusResponseLatched = false) :
    Phase p (s.nextAccount p i) (s.writer.step p i) := by
  have stepped : s.writer.step p i = s.writer.stepHdr1 p i := by rw [step, state]
  have pulse : (s.writer.step p i).pulse = none := by
    rw [stepped]
    cases valid : i.tvalid with
    | false => rw [stepHdr1, valid, if_neg Bool.false_ne_true, common_pulse]
    | true =>
      rw [stepHdr1_valid s.writer valid]
      split_ifs <;> simp [takesHeader]
  have account := receiving_account (.inl state) pulse
  cases valid : i.tvalid with
  | false =>
    have waits : s.writer.step p i = s.writer.common p i := by rw [stepped, stepHdr1, valid, if_neg Bool.false_ne_true]
    rw [account, waits, valid, if_neg Bool.false_ne_true]
    exact .hdr1 state (fresh.next _ rfl ⟨_, rfl⟩ fresh.status) w0 words opcode error unlatched
  | true =>
    rw [valid, if_pos rfl, words] at account
    rw [stepHdr1_valid s.writer valid] at stepped
    have arrived : Fresh { s.account with words := [w0, i.tdata] } (s.writer.takesHeader p i) :=
      fresh.next _ rfl ⟨_, rfl⟩ fresh.status
    have header : Header [w0, i.tdata] (s.writer.takesHeader p i) := ⟨Nat.le_refl 2, opcode, rfl, unlatched⟩
    cases last : i.tlast with
    | true =>
      rw [last, if_pos rfl] at stepped
      rw [account, stepped]
      refine .emitting rfl fresh.isOpen (arrived.setError s.writer id 0).valid (Nat.le_refl 2)
        ((header.setError s.writer _ 0).opcode) ((header.setError s.writer _ 0).seq)
        (.malformed ?_ ?_ ⟨(arrived.setError s.writer id 0).core, fresh.pulses, fresh.writes, fresh.axi⟩)
      · exact fun good => absurd (wellFormed_long good) (by simp [toAnswer])
      · exact (emitStatus_unlatched (header.setError s.writer _ 0).unlatched).trans (arrived.refused s.writer id 0)
    | false =>
      rw [last, if_neg Bool.false_ne_true] at stepped
      by_cases bad : badLength s.writer.request.opcode (high i.tdata) = true
      · rw [if_pos bad] at stepped
        rw [account, stepped]
        refine .drop rfl ((arrived.setError s.writer id 0).congr rfl rfl rfl)
          ((header.setError s.writer _ 0).congr rfl rfl) (setError_packetError _ _ _ _) ?_
        intro x more good
        have length : badLength (high w0) (high i.tdata) = false := good.2.1
        rw [opcode, length] at bad
        exact Bool.false_ne_true bad
      · rw [if_neg bad] at stepped
        rw [account, stepped]
        rw [opcode] at bad
        exact .payload rfl (arrived.congr rfl rfl rfl) (header.congr rfl rfl)
          ⟨rfl, rfl, rfl, error, Bool.eq_false_iff.mpr bad, .inl rfl, rfl⟩
          ⟨fun _ => ⟨_, rfl⟩, fun _ => ⟨_, rfl⟩, fun _ _ three => absurd three (by simp), fun _ => rfl,
            fun _ k below => absurd below (Nat.not_lt_zero k)⟩

end Receiving

end Xczu47dr.Upload
