import Xczu47dr.Upload.PacketRuns

/-! # Packets that are refused

A packet that is answered with an error has not touched the session, the memory or
the playback, unless it was the memory that failed; then the upload is over.
-/

namespace Xczu47dr.Upload

/-! ## Refusals -/

/-- A refusal is never mistaken for a failure of the memory, nor for success. -/
theorem judge_refuse {p : WriterParams} {c : UploadCore} {r : UploadRequest} {playback status offset : Nat}
    (verdict : r.judge p c playback = .refuse status offset) :
    status ≠ statusOk ∧ status ≠ statusAxiError ∧ status ≠ statusTimeout := by
  have codes : ∀ code n, Verdict.refuse code n = Verdict.refuse status offset → code ∈ [2, 4, 5, 6, 8, 11] →
      status ≠ statusOk ∧ status ≠ statusAxiError ∧ status ≠ statusTimeout := by
    rintro code n equal known
    cases equal
    refine ⟨?_, ?_, ?_⟩ <;> rintro rfl <;> exact absurd known (by decide)
  unfold UploadRequest.judge UploadRequest.judgeBegin UploadRequest.judgeData UploadRequest.judgeCommit
    UploadRequest.judgePlay UploadRequest.judgeHalt at verdict
  split_ifs at verdict <;> exact codes _ _ verdict (by decide)

/-- Without an open upload and a committed waveform only commands that change neither are accepted. -/
theorem judge_accept_closed {p : WriterParams} {c after : UploadCore} {r : UploadRequest} {playback : Nat}
    {pulse : Option PlaybackCommand} (inactive : c.uploadActive = false) (uncommitted : c.committed = false)
    (not_begin : r.opcode ≠ opBegin) (verdict : r.judge p c playback = .accept after pulse) :
    r.opcode ≠ opData ∧ r.opcode ≠ opCommit ∧ after.uploadActive = false ∧ after.committed = false := by
  unfold UploadRequest.judge at verdict
  split_ifs at verdict with begins data differs commit play halt abort
  · exact absurd begins not_begin
  · unfold UploadRequest.judgeData at verdict
    split_ifs at verdict
  · simp [UploadRequest.judgeCommit, inactive, uncommitted] at verdict
  · unfold UploadRequest.judgePlay at verdict
    split_ifs at verdict with again refused
    · cases verdict
      exact ⟨data, commit, inactive, uncommitted⟩
    · exact absurd (.inl uncommitted) refused
  · simp [UploadRequest.judgeHalt, inactive, uncommitted] at verdict
  · cases verdict
    exact ⟨data, commit, rfl, rfl⟩
  · cases verdict
    exact ⟨data, commit, inactive, uncommitted⟩

namespace Transaction

variable {p : WriterParams} {t : Transaction}

/-- A packet that is refused has done nothing. -/
theorem Lawful.refused (lawful : t.Lawful p) (rejected : t.status ≠ statusOk) (memory : t.axiFails = false) :
    t.Unchanged := by
  cases lawful.outcome with
  | malformed _ _ unchanged => exact unchanged
  | status _ _ unchanged => exact unchanged
  | refused _ _ _ _ unchanged => exact unchanged
  | badCrc _ _ _ _ _ _ unchanged => exact unchanged
  | accepted _ _ _ _ ok => exact absurd ok rejected
  | repeated _ _ _ _ ok => exact absurd ok rejected
  | stored _ _ _ _ ok => exact absurd ok rejected
  | failed _ _ _ _ _ _ _ _ _ _ axi => exact absurd (axi.symm.trans memory) (fun bad => Bool.noConfusion bad)

/-- The two ways a failure of the memory is answered. -/
theorem Lawful.axiFails_iff (lawful : t.Lawful p) :
    t.axiFails = true ↔ t.opcode = opData ∧ (t.status = statusAxiError ∨ t.status = statusTimeout) := by
  have no_failure : t.axiFails = false → (t.opcode = opData → t.status ≠ statusAxiError ∧ t.status ≠ statusTimeout) →
      (t.axiFails = true ↔ t.opcode = opData ∧ (t.status = statusAxiError ∨ t.status = statusTimeout)) := by
    intro none codes
    rw [none]
    refine ⟨fun bad => Bool.noConfusion bad, fun ⟨data, failed⟩ => ?_⟩
    obtain ⟨no_error, no_timeout⟩ := codes data
    exact absurd failed (not_or.mpr ⟨no_error, no_timeout⟩)
  cases lawful.outcome with
  | malformed _ status unchanged => exact no_failure unchanged.axi fun _ => by rw [status]; decide
  | status _ opcode unchanged =>
    refine no_failure unchanged.axi fun data => ?_
    rw [← lawful.opcode, data] at opcode
    exact absurd opcode (by decide)
  | refused _ _ offset verdict unchanged => exact no_failure unchanged.axi fun _ => (judge_refuse verdict).2
  | badCrc _ _ _ _ _ status unchanged => exact no_failure unchanged.axi fun _ => by rw [status]; decide
  | accepted _ _ _ _ status _ _ axi => exact no_failure axi fun _ => by rw [status]; decide
  | repeated _ _ _ _ status unchanged => exact no_failure unchanged.axi fun _ => by rw [status]; decide
  | stored _ _ _ _ status _ _ _ axi => exact no_failure axi fun _ => by rw [status]; decide
  | failed _ opcode _ _ status _ _ _ _ _ axi =>
    exact ⟨fun _ => ⟨lawful.opcode.trans opcode, status⟩, fun _ => axi⟩

/-- No upload is open and no waveform is committed. -/
def Closed (c : UploadCore) : Prop := c.uploadActive = false ∧ c.committed = false

/-- After a failure of the memory the upload is over. -/
theorem Lawful.closes (lawful : t.Lawful p) (memory : t.axiFails = true) : Closed t.after := by
  cases lawful.outcome with
  | failed _ _ _ _ _ after =>
    rw [after]
    exact ⟨rfl, rfl⟩
  | malformed _ _ unchanged | status _ _ unchanged | refused _ _ _ _ unchanged | badCrc _ _ _ _ _ _ unchanged
  | repeated _ _ _ _ _ unchanged => exact absurd (unchanged.axi.symm.trans memory) (fun bad => Bool.noConfusion bad)
  | accepted _ _ _ _ _ _ _ axi | stored _ _ _ _ _ _ _ _ axi =>
    exact absurd (axi.symm.trans memory) (fun bad => Bool.noConfusion bad)

/-- Only a BEGIN opens an upload again; without it neither data nor a commit is accepted. -/
theorem Lawful.closed (lawful : t.Lawful p) (closed : Closed t.before)
    (no_begin : ¬ (t.opcode = opBegin ∧ t.status = statusOk)) :
    Closed t.after ∧ (t.opcode = opData ∨ t.opcode = opCommit → t.status ≠ statusOk) := by
  have data : ∀ duplicate, t.verdict p ≠ .check duplicate := by
    intro duplicate verdict
    obtain ⟨-, -, active, -⟩ := judge_check verdict
    exact absurd (closed.1.symm.trans active) Bool.false_ne_true
  cases lawful.outcome with
  | malformed _ status unchanged =>
    rw [unchanged.after, status]
    exact ⟨closed, fun _ => by decide⟩
  | status _ opcode unchanged =>
    rw [unchanged.after, lawful.opcode, opcode]
    exact ⟨closed, fun bad => absurd bad (by decide)⟩
  | refused _ _ _ verdict unchanged =>
    rw [unchanged.after]
    exact ⟨closed, fun _ => (judge_refuse verdict).1⟩
  | accepted _ _ _ verdict status =>
    have not_begin : t.request.opcode ≠ opBegin := fun begins => no_begin ⟨lawful.opcode.trans begins, status⟩
    obtain ⟨not_data, not_commit, inactive, uncommitted⟩ :=
      judge_accept_closed closed.1 closed.2 not_begin verdict
    refine ⟨⟨inactive, uncommitted⟩, fun bad => ?_⟩
    rw [lawful.opcode] at bad
    exact absurd bad (not_or.mpr ⟨not_data, not_commit⟩)
  | badCrc _ _ _ verdict | repeated _ _ verdict | stored _ _ verdict | failed _ _ verdict =>
    exact absurd verdict (data _)

end Transaction

/-- A closed session stays closed while no BEGIN is accepted. -/
theorem Chained.closed {p : WriterParams} {c c' : UploadCore} {ts : List Transaction} (chained : Chained c ts c')
    (lawful : ∀ t ∈ ts, t.Lawful p) (closed : Transaction.Closed c)
    (no_begin : ∀ t ∈ ts, ¬ (t.opcode = opBegin ∧ t.status = statusOk)) : Transaction.Closed c' := by
  induction ts generalizing c with
  | nil =>
    cases chained
    exact closed
  | cons t ts ih =>
    obtain ⟨before, rest⟩ := chained
    have first := (lawful t List.mem_cons_self).closed (before.symm ▸ closed) (no_begin t List.mem_cons_self)
    exact ih rest (fun u later => lawful u (List.mem_cons_of_mem _ later)) first.1
      fun u later => no_begin u (List.mem_cons_of_mem _ later)

/-- In every run: a packet that is answered with an error has changed nothing of the session
    and has issued neither a write nor a command, unless a write of its data failed; then it
    was a DATA, it is answered so, the upload is over, and no DATA or COMMIT succeeds before a
    BEGIN does. -/
theorem rejected_changes_nothing (p : WriterParams) (is : List WriterIn) :
    (∀ t ∈ answers p is, t.status ≠ statusOk → t.axiFails = false →
      t.after = t.before ∧ t.writes = [] ∧ t.pulses = []) ∧
    (∀ t ∈ answers p is, t.axiFails = true ↔
      t.opcode = opData ∧ (t.status = statusAxiError ∨ t.status = statusTimeout)) ∧
    (∀ t ∈ answers p is, t.axiFails = true → t.after.uploadActive = false ∧ t.after.committed = false) ∧
    ∀ earlier between rest t later, answers p is = earlier ++ t :: (between ++ later :: rest) → t.axiFails = true →
      (∀ b ∈ between, ¬ (b.opcode = opBegin ∧ b.status = statusOk)) →
      later.opcode = opData ∨ later.opcode = opCommit → later.status ≠ statusOk := by
  obtain ⟨-, chained, lawful⟩ := run_lawful p is
  refine ⟨fun t answered rejected memory => ?_, fun t answered => (lawful t answered).axiFails_iff,
    fun t answered => (lawful t answered).closes, fun earlier between rest t later split memory no_begin kind => ?_⟩
  · have unchanged := (lawful t answered).refused rejected memory
    exact ⟨unchanged.after, unchanged.writes, unchanged.pulses⟩
  · rw [split] at chained lawful
    obtain ⟨-, -, -, after⟩ := chained.split
    obtain ⟨c, until_later, before, -⟩ := after.split
    have closed : Transaction.Closed c :=
      until_later.closed (fun u inside => lawful u (by simp [inside])) ((lawful t (by simp)).closes memory) no_begin
    have not_begin : ¬ (later.opcode = opBegin ∧ later.status = statusOk) := by
      rintro ⟨begins, -⟩
      rw [begins] at kind
      exact absurd kind (by decide)
    exact ((lawful later (by simp)).closed (before.symm ▸ closed) not_begin).2 kind

end Xczu47dr.Upload
