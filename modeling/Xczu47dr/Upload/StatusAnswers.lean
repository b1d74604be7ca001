import Xczu47dr.Upload.PacketStream

/-! # What a STATUS is answered with

The status of the playback as it was given to the writer, whatever the session.
-/

namespace Xczu47dr.Upload

open UploadWriter

section Snapshot

variable {p : WriterParams}

/-- Registers that only the judgement of a STATUS sets. -/
def UploadWriter.snapshot (w : UploadWriter) : Bool × StatusSnapshot := (w.statusResponseLatched, w.statusLatched)

theorem setError_snapshot (s n : UploadWriter) (status offset : Nat) :
    (s.setError n status offset).snapshot = n.snapshot := by
  unfold setError
  split <;> rfl

theorem takesWord_snapshot (s : UploadWriter) (i : WriterIn) : (s.takesWord p i).snapshot = s.snapshot := by
  rw [takesWord]
  split
  · exact setError_snapshot _ _ _ _
  · rfl

theorem applyVerdict_snapshot (s n : UploadWriter) (verdict : Verdict) :
    (s.applyVerdict n verdict).snapshot = n.snapshot := by
  cases verdict with
  | refuse status offset => exact setError_snapshot _ _ _ _
  | accept core pulse => rfl
  | check duplicate => rfl

/-- A snapshot that is latched is the one given in this cycle, or an earlier one. -/
theorem snapshot_step (s : UploadWriter) (i : WriterIn) :
    (s.step p i).snapshot = s.snapshot ∨ (s.step p i).statusResponseLatched = false ∨
      i.statusSnapshotValid = true ∧ (s.step p i).statusLatched = i.statusSnapshot := by
  rw [step]
  cases state : s.state with
  | idle =>
    rw [stepIdle]
    dsimp only
    split_ifs <;> exact .inl rfl
  | hdr0 =>
    rw [stepHdr0]
    dsimp only
    by_cases word : i.tvalid = true
    · rw [if_pos word]
      exact .inr (.inl rfl)
    · rw [if_neg word]
      exact .inl rfl
  | hdr1 =>
    rw [stepHdr1]
    dsimp only
    split_ifs <;> first
      | exact .inl rfl
      | exact .inl (setError_snapshot _ _ _ _)
  | payload =>
    cases word : i.tvalid with
    | false =>
      rw [stepPayload, word, if_neg Bool.false_ne_true]
      exact .inl rfl
    | true =>
      rw [stepPayload_valid p s i word]
      dsimp only
      split_ifs <;> first
        | exact .inl (takesWord_snapshot s i)
        | exact .inl ((setError_snapshot _ _ _ _).trans (takesWord_snapshot s i))
  | write =>
    rw [stepWrite]
    dsimp only
    split_ifs <;> exact .inl rfl
  | crc =>
    rw [stepCrc]
    dsimp only
    split_ifs <;> exact .inl rfl
  | crcDone =>
    rw [stepCrcDone]
    dsimp only
    split_ifs <;> exact .inl rfl
  | final =>
    rw [stepFinal]
    dsimp only
    split_ifs with _ _ _ given <;> first
      | exact .inl rfl
      | exact .inl (applyVerdict_snapshot _ _ _)
      | exact .inr (.inr ⟨given, rfl⟩)
  | emit =>
    rw [stepEmit]
    dsimp only
    split_ifs <;> exact .inl rfl
  | drop =>
    dsimp only
    split_ifs <;> exact .inl rfl
  | readWait => exact .inl rfl
  | readLoad =>
    rw [stepReadLoad]
    split_ifs <;> exact .inl rfl

/-- The words of a packet that is not being received. -/
theorem words_kept {s : AccountedWriter} (busy : s.writer.state ≠ .idle) (outside : s.writer.receiving = false)
    (i : WriterIn) : (s.nextAccount p i).words = s.account.words := by
  rw [AccountedWriter.nextAccount, not_starts busy, if_neg Bool.false_ne_true, receives_eq, outside, Bool.and_false,
    if_neg Bool.false_ne_true]

/-- A STATUS is not answered before the snapshot is latched. -/
theorem Phase.latched_of_emit {s : AccountedWriter} (phase : Phase p s.account s.writer) {i : WriterIn}
    (emits : (s.writer.step p i).state = .emit) (good : WellFormed (s.nextAccount p i).words)
    (asks : opcodeOf (s.nextAccount p i).words = opStatus) : (s.writer.step p i).statusResponseLatched = true := by
  have elsewhere {n : UploadWriter} (next : s.writer.step p i = n) (other : n.state ≠ .emit) : False :=
    other (next ▸ emits)
  have not_data (busy : s.writer.state ≠ .idle) (outside : s.writer.receiving = false)
      (data : opcodeOf s.account.words = opData) : False := by
    rw [words_kept busy outside, data] at asks
    exact absurd asks (by decide)
  cases phase with
  | idle state =>
    refine (elsewhere (n := s.writer.stepIdle p i) (by rw [UploadWriter.step, state]) ?_).elim
    rw [stepIdle]
    dsimp only
    split_ifs <;> simp [state]
  | hdr0 state =>
    refine (elsewhere (n := s.writer.stepHdr0 p i) (by rw [UploadWriter.step, state]) ?_).elim
    rw [stepHdr0]
    dsimp only
    split_ifs <;> simp [state]
  | hdr1 state fresh w0 words =>
    -- a packet of three words is no request
    have short : (s.nextAccount p i).words.length ≤ 2 := by
      rw [AccountedWriter.nextAccount, not_starts (by simp [state]), if_neg Bool.false_ne_true, words]
      dsimp only
      split_ifs <;> simp
    exact absurd (wellFormed_long good) (by omega)
  | payload state =>
    refine (elsewhere (n := s.writer.stepPayload p i) (by rw [UploadWriter.step, state]) ?_).elim
    cases word : i.tvalid with
    | false =>
      rw [stepPayload, word, if_neg Bool.false_ne_true, common_state, state]
      decide
    | true =>
      rw [stepPayload_valid p s.writer i word]
      dsimp only
      split_ifs <;> simp [state]
  | drop state fresh header error hopeless =>
    have account : (s.nextAccount p i).words =
        if i.tvalid then s.account.words ++ [i.tdata] else s.account.words := by
      rw [AccountedWriter.nextAccount, not_starts (by simp [state]), if_neg Bool.false_ne_true, receives_eq]
      simp [receiving, state]
    cases word : i.tvalid with
    | false =>
      refine (elsewhere (n := s.writer.common p i) (by rw [UploadWriter.step, state, word]; rfl) ?_).elim
      rw [common_state, state]
      decide
    | true =>
      rw [account, word, if_pos rfl] at good
      exact absurd good (hopeless _ [])
  | judging state fresh header error =>
    have outside : s.writer.receiving = false := by simp [receiving, state]
    rw [words_kept (by simp [state]) outside] at good asks
    have sound : s.writer.packetError = false := by rw [error, decide_eq_true good, Bool.not_true]
    have stepped : s.writer.step p i = s.writer.stepFinal p i := by rw [UploadWriter.step, state]
    rw [stepFinal, if_pos ⟨header.opcode.trans asks, sound⟩] at stepped
    rw [stepped] at emits ⊢
    split_ifs at emits ⊢ <;> first
      | rfl
      | exact absurd (state.symm.trans emits) (by decide)
  | checking state _ _ _ checked =>
    refine (not_data ?_ ?_ checked.opcode).elim <;> rcases state with state | state | state <;>
      simp [receiving, state]
  | checked state _ _ _ checked =>
    refine (not_data ?_ ?_ checked.opcode).elim <;> simp [receiving, state]
  | writing state _ _ _ _ _ _ checked =>
    refine (not_data ?_ ?_ checked.opcode).elim <;> rcases state with state | state | state <;>
      simp [receiving, state]
  | draining state _ failed =>
    refine (elsewhere (n := s.writer.stepWrite p i) (by rw [UploadWriter.step, state]) ?_).elim
    have in_time : s.writer.timesOut p i = false := by simp [timesOut, failed]
    rw [stepWrite, in_time, failed]
    dsimp only
    split_ifs <;> simp_all
  | emitting state =>
    refine (elsewhere (n := s.writer.stepEmit p i) (by rw [UploadWriter.step, state]) ?_).elim
    rw [stepEmit]
    dsimp only
    split_ifs <;> simp

/-- The snapshot that a writer has latched was given to it. -/
structure Given (p : WriterParams) (is : List WriterIn) (s : AccountedWriter) : Prop where
  phase : Phase p s.account s.writer
  latched : s.writer.statusResponseLatched = true →
    ∃ i ∈ is, i.statusSnapshotValid = true ∧ s.writer.statusLatched = i.statusSnapshot
  emitting : s.writer.state = .emit → WellFormed s.account.words → opcodeOf s.account.words = opStatus →
    s.writer.statusResponseLatched = true

theorem Given.next {is : List WriterIn} {s : AccountedWriter} (given : Given p is s) (i : WriterIn) :
    Given p (is ++ [i]) (s.step p i) where
  phase := (given.phase.step i).1
  latched now := by
    change (s.writer.step p i).statusResponseLatched = true at now
    rcases snapshot_step (p := p) s.writer i with same | cleared | ⟨valid, taken⟩
    · have kept : (s.writer.step p i).statusResponseLatched = s.writer.statusResponseLatched := congrArg Prod.fst same
      obtain ⟨j, earlier, valid, taken⟩ := given.latched (kept ▸ now)
      refine ⟨j, List.mem_append_left _ earlier, valid, ?_⟩
      exact (congrArg Prod.snd same : (s.writer.step p i).statusLatched = s.writer.statusLatched).trans taken
    · exact absurd (cleared.symm.trans now) Bool.false_ne_true
    · exact ⟨i, List.mem_append_right _ List.mem_cons_self, valid, taken⟩
  emitting emits good asks := given.phase.latched_of_emit emits good asks

/-- A STATUS is answered with the snapshot. -/
theorem Given.answer {is : List WriterIn} {s : AccountedWriter} (given : Given p is s) {i : WriterIn} {t : Transaction}
    (answered : t ∈ s.answered p i) (good : WellFormed t.words) (asks : opcodeOf t.words = opStatus) :
    ∃ j ∈ is, j.statusSnapshotValid = true ∧ j.statusSnapshot.status = t.status := by
  rw [AccountedWriter.answered] at answered
  split_ifs at answered with raises
  · rw [List.mem_singleton] at answered
    rw [answered] at good asks ⊢
    dsimp only at good asks ⊢
    have emits : s.writer.state = .emit := by
      by_contra other
      have late : s.writer.timesOut p i = true := by simpa [UploadWriter.raises, other] using raises
      have state : s.writer.state = .write := by
        by_contra elsewhere
        rw [timesOut_false elsewhere] at late
        exact Bool.false_ne_true late
      -- only a DATA writes
      cases given.phase with
      | writing _ _ _ _ _ _ _ checked =>
        rw [checked.opcode] at asks
        exact absurd asks (by decide)
      | draining _ _ failed => simp [UploadWriter.timesOut, failed] at late
      | idle at_ | hdr0 at_ | hdr1 at_ | payload at_ | drop at_ | judging at_ | checked at_ | emitting at_ =>
        exact WriterState.noConfusion (state.symm.trans at_)
      | checking at_ => rcases at_ with at_ | at_ | at_ <;> exact WriterState.noConfusion (state.symm.trans at_)
    have latched := given.emitting emits good asks
    obtain ⟨j, earlier, valid, taken⟩ := given.latched latched
    refine ⟨j, earlier, valid, ?_⟩
    cases given.phase with
    | emitting _ _ _ _ opcode =>
      have answer : (s.writer.step p i).response.status = s.writer.statusLatched.status := by
        rw [UploadWriter.step, emits]
        dsimp only
        rw [stepEmit, if_pos ⟨opcode.trans asks, latched⟩]
      rw [answer, taken]
    | idle at_ | hdr0 at_ | hdr1 at_ | payload at_ | drop at_ | judging at_ | checked at_ | draining at_ =>
      exact WriterState.noConfusion (emits.symm.trans at_)
    | checking at_ | writing at_ =>
      rcases at_ with at_ | at_ | at_ <;> exact WriterState.noConfusion (emits.symm.trans at_)
  · exact absurd answered List.not_mem_nil

theorem run_given (p : WriterParams) (is : List WriterIn) :
    Given p is ((accountedWriter p).run (.reset p) is) ∧
      ∀ t ∈ answers p is, WellFormed t.words → opcodeOf t.words = opStatus →
        ∃ i ∈ is, i.statusSnapshotValid = true ∧ i.statusSnapshot.status = t.status := by
  induction is using List.reverseRecOn with
  | nil => exact ⟨⟨.idle rfl rfl, nofun, nofun⟩, fun t answered => absurd answered List.not_mem_nil⟩
  | append_singleton is i ih =>
    obtain ⟨given, before⟩ := ih
    have longer : answers p (is ++ [i]) = answers p is ++ ((accountedWriter p).run (.reset p) is).answered p i := by
      simp [answers]
    rw [longer, Clocked.Machine.run_append]
    refine ⟨given.next i, fun t answered good asks => ?_⟩
    rcases List.mem_append.mp answered with earlier | now
    · obtain ⟨j, member, told⟩ := before t earlier good asks
      exact ⟨j, List.mem_append_left _ member, told⟩
    · obtain ⟨j, member, told⟩ := given.answer now good asks
      exact ⟨j, List.mem_append_left _ member, told⟩

end Snapshot

end Xczu47dr.Upload
