import Xczu47dr.Clocked.Progress
import Xczu47dr.Playback.ReaderInvariant

/-! # How the reader drains

A cancel or a fault takes nothing back: the address on the bus and the frame on
offer stay until they are accepted, the bursts in flight come home, and only then
does the reader fall idle.  `done` is left to the reads that nothing disturbed.
-/

namespace Xczu47dr.Playback.DdrReader

open Clocked

variable {Word : Type} {p : ReaderParams} {s : DdrReader Word} {i : ReaderIn Word}

/-- `start && !busy`. -/
def takes (s : DdrReader Word) (i : ReaderIn Word) : Bool := i.start && !s.busy

/-- A cancel, a fault on the read channel, or an error from before. -/
def disturbed (s : DdrReader Word) (i : ReaderIn Word) : Bool := i.cancel || s.rFault i || s.error

/-- Behind the clock edge there is a frame on offer that was not left over. -/
def PresentsNew (p : ReaderParams) (s : DdrReader Word) (i : ReaderIn Word) : Prop :=
  (s.step p i).frameValid = true ∧ (s.frameValid = true → i.frameReady = true)

/-! ## The cases of a step -/

theorem step_taken (taken : s.takes i = true) : s.step p i = s.begin i := if_pos taken

theorem step_of_busy (busy : s.busy = true) : s.step p i = s.advance p i := by
  have held : (i.start && !s.busy) = false := by rw [busy, Bool.not_true, Bool.and_false]
  rw [step, held, if_neg Bool.false_ne_true, if_pos busy]

theorem step_resting (idle : s.busy = false) (rests : s.takes i = false) : s.step p i = { s with done := false } := by
  have held : (i.start && !s.busy) = false := rests
  rw [step, held, if_neg Bool.false_ne_true, idle, if_neg Bool.false_ne_true]

/-! ## What is on the bus -/

/-- An address that is not accepted stays. -/
theorem address_held (inv : s.Inv p) (presented : s.arvalid = true) (unready : i.arready = false) :
    (s.step p i).arvalid = true ∧ (s.step p i).araddr = s.araddr ∧ (s.step p i).arlen = s.arlen := by
  have busy : s.busy = true := by
    by_contra idle
    have quiet := (inv.quiet (Bool.not_eq_true _ ▸ idle)).arvalid
    exact Bool.false_ne_true (quiet.symm.trans presented)
  have no_fire : s.arFire i = false := by rw [arFire, unready, Bool.and_false]
  have no_reserve : s.reserveNew p i = false := by simp [reserveNew, presented]
  rw [step_of_busy busy]
  simp [advance, no_fire, no_reserve, presented]

/-- A frame that is not accepted stays: no beat returns into it. -/
theorem frame_held (inv : s.Inv p) (valid : s.frameValid = true) (unready : i.frameReady = false) :
    (s.step p i).frameValid = true ∧ (s.step p i).assembling = s.assembling := by
  have busy : s.busy = true := by
    by_contra idle
    have quiet := (inv.quiet (Bool.not_eq_true _ ▸ idle)).frameValid
    exact Bool.false_ne_true (quiet.symm.trans valid)
  have no_beat : s.rFire i = false := by simp [rFire, rready, valid, unready]
  have no_fire : s.frameFire i = false := by rw [frameFire, unready, Bool.and_false]
  rw [step_of_busy busy]
  simp [advance, no_beat, no_fire, valid]

/-- A reader that drains presents no frame. -/
theorem not_presentsNew_of_draining (busy : s.busy = true) (drains : s.draining i = true) : ¬ PresentsNew p s i := by
  intro ⟨valid, accepted⟩
  rw [step_of_busy busy] at valid
  simp only [advance, drains, Bool.not_true, Bool.and_false, Bool.false_and, Bool.false_eq_true, if_false,
    Bool.and_eq_true, Bool.not_eq_true'] at valid
  obtain ⟨held, kept⟩ := valid
  rw [frameFire, held, accepted held] at kept
  exact Bool.noConfusion kept

theorem not_presentsNew_of_idle (inv : s.Inv p) (idle : s.busy = false) : ¬ PresentsNew p s i := by
  intro ⟨valid, _⟩
  cases taken : s.takes i with
  | true =>
    rw [step_taken taken] at valid
    exact Bool.false_ne_true valid
  | false =>
    rw [step_resting idle taken] at valid
    exact Bool.false_ne_true ((inv.quiet idle).frameValid.symm.trans valid)

theorem not_live_of_disturbed (busy : s.busy = true) (seen : s.disturbed i = true) : ¬ (s.step p i).Live := by
  intro live
  rw [step_of_busy busy] at live
  obtain ⟨before, keep, clean⟩ := advance_live live
  simp only [draining, Bool.or_eq_false_iff] at keep
  simp only [disturbed, keep.1.1.2, clean, before.2] at seen
  exact Bool.noConfusion seen

theorem draining_of_disturbed (seen : s.disturbed i = true) : s.draining i = true := by
  simp only [disturbed, Bool.or_eq_true] at seen
  simp only [draining, Bool.or_eq_true]
  rcases seen with (cancel | fault) | error
  · exact .inl (.inl (.inr cancel))
  · exact .inr fault
  · exact .inl (.inr error)

theorem draining_of_not_live (disturbed : ¬ s.Live) : s.draining i = true := by
  by_contra keep
  simp only [draining, Bool.not_eq_true, Bool.or_eq_false_iff] at keep
  exact disturbed ⟨keep.1.1.1, keep.1.2⟩

/-- `done` is raised by a reader that finishes and does not drain. -/
theorem finishes_of_done (done : (s.step p i).done = true) :
    s.busy = true ∧ s.finished i = true ∧ s.draining i = false := by
  cases taken : s.takes i with
  | true =>
    rw [step_taken taken] at done
    exact Bool.noConfusion done
  | false =>
    cases busy : s.busy with
    | false =>
      rw [step_resting busy taken] at done
      exact Bool.noConfusion done
    | true =>
      rw [step_of_busy busy] at done
      simpa [DdrReader.advance] using done

theorem idle_of_done (done : (s.step p i).done = true) : (s.step p i).busy = false := by
  obtain ⟨busy, ends, -⟩ := finishes_of_done done
  rw [step_of_busy busy]
  simp [advance, ends]

/-- An error does not rise in the cycle that ends a read. -/
theorem no_error_of_finishing (finish : Finishing s i) (clean : s.error = false) (busy : s.busy = true) :
    (s.step p i).error = false := by
  have no_timeout : s.timesOut p i = false := by simp [timesOut, watchdogRests, finish.arvalid, finish.outstanding]
  have no_fault : s.rFault i = false := by rw [rFault, finish.not_rFire, Bool.false_and]
  rw [step_of_busy busy]
  simp [advance, clean, no_timeout, no_fault]

/-! ## Errors -/

/-- The error and its code stay until a start is taken. -/
theorem error_latched (error : s.error = true) (rests : s.takes i = false) :
    (s.step p i).error = true ∧ (s.step p i).errorCode = s.errorCode ∧ (s.step p i).errorOffset = s.errorOffset := by
  cases busy : s.busy with
  | false =>
    rw [step_resting busy rests]
    exact ⟨error, rfl, rfl⟩
  | true =>
    have no_timeout : s.timesOut p i = false := by simp [timesOut, error]
    rw [step_of_busy busy]
    simp [advance, error, no_timeout]

/-- The code of an error that rises is that of the fault in this cycle. -/
theorem error_rises (clean : s.error = false) (rises : (s.step p i).error = true) :
    (s.takes i = true ∧ (s.step p i).errorCode = 4) ∨
      (s.rFault i = true ∧ (s.step p i).errorCode = 2) ∨ (s.timesOut p i = true ∧ (s.step p i).errorCode = 3) := by
  cases taken : s.takes i with
  | true =>
    rw [step_taken taken] at rises ⊢
    simp only [begin, decide_eq_true_eq] at rises ⊢
    exact .inl ⟨trivial, if_pos rises⟩
  | false =>
    cases busy : s.busy with
    | false =>
      rw [step_resting busy taken] at rises
      exact absurd (clean.symm.trans rises) Bool.false_ne_true
    | true =>
      rw [step_of_busy busy] at rises ⊢
      simp only [advance, clean, Bool.false_or, Bool.or_eq_true] at rises ⊢
      cases fault : s.rFault i with
      | true =>
        -- a fault needs a beat, and the watchdog rests while a beat returns
        have beat : s.rFire i = true := by
          rw [rFault, Bool.and_eq_true] at fault
          exact fault.1
        have no_timeout : s.timesOut p i = false := by simp [timesOut, watchdogRests, beat]
        rw [no_timeout]
        exact .inr (.inl ⟨rfl, rfl⟩)
      | false =>
        have expired : s.timesOut p i = true := rises.resolve_left (by rw [fault]; exact Bool.false_ne_true)
        exact .inr (.inr ⟨expired, if_pos expired⟩)

/-! ## The books of an undisturbed read -/

/-- A live reader has handed on `delivered` of its `total` frames and owes the others. -/
structure Books (p : ReaderParams) (total delivered : Nat) (s : DdrReader Word) : Prop where
  counted : s.remaining < 2 ^ 32
  addressed : s.arvalid = true → s.pendingFrames ≤ s.remaining
  balance : 4 * (delivered + s.frameValid.toNat) + s.slice.val + (s.bursts p).sum + 4 * s.remaining =
    4 * total + s.returnedInBurst

theorem Books.begin (quiet : s.Quiet) (counted : i.totalBeats < 2 ^ 32) : (s.begin i).Books p i.totalBeats 0 where
  counted := counted
  addressed valid := absurd (quiet.arvalid.symm.trans valid) Bool.false_ne_true
  balance := by
    have empty : (s.begin i).bursts p = [] := bursts_eq_nil.mpr rfl
    rw [empty]
    exact Nat.zero_add _

theorem Books.advance {total delivered : Nat} (books : s.Books p total delivered) (inv : s.Inv p)
    (live : (s.advance p i).Live) (going : s.finished i = false) :
    (s.advance p i).Books p total (delivered + (s.frameFire i).toNat) := by
  obtain ⟨before, keep, clean⟩ := advance_live live
  have balanced := inv.live before
  have returned : Returned p s i := by
    cases fire : s.rFire i with
    | false => exact returned_none inv.queue balanced fire going
    | true => exact returned_beat inv.queue balanced fire keep clean
  have counted := books.counted
  -- an accepted address moves its frames from what remains to what is in flight
  have issued : (s.advance p i).remaining + (s.pushed i).sum / 4 = s.remaining := by
    simp only [DdrReader.advance, pushed]
    cases fire : s.arFire i with
    | false => simp
    | true =>
      have within := books.addressed (arFire_arvalid fire)
      simp only [if_true, List.sum_singleton]
      omega
  refine ⟨by omega, ?_, ?_⟩
  · intro valid
    simp only [DdrReader.advance] at valid ⊢
    cases fire : s.arFire i with
    | true =>
      rw [fire] at valid
      exact absurd valid Bool.false_ne_true
    | false =>
      rw [fire] at valid
      cases reserve : s.reserveNew p i with
      | true => exact proposedFrames_le_remaining p s i (reserveNew_spec reserve).remaining
      | false =>
        rw [reserve] at valid
        exact books.addressed valid
  · have balance := books.balance
    have beats := returned.beats
    have whole := pushed_sum s i
    omega

/-- A read that ends undisturbed has delivered every frame. -/
theorem Books.all_delivered {total delivered : Nat} (books : s.Books p total delivered) (inv : s.Inv p)
    (live : s.Live) (ends : s.finished i = true) (keep : s.draining i = false) : delivered = total := by
  have finish := finished_spec ends
  have balanced := inv.live live
  have none : s.remaining = 0 := finish.ends.resolve_right (by rw [keep]; exact Bool.false_ne_true)
  have empty : s.bursts p = [] := bursts_eq_nil.mpr finish.outstanding
  have returned := balanced.returned_zero empty
  have slice := balanced.slice_eq
  have balance := books.balance
  rw [returned] at slice
  rw [empty, returned, none, slice, finish.frameValid, List.sum_nil, Bool.toNat_false] at balance
  omega

/-! ## Runs -/

section Runs

variable [Inhabited Word] (p : ReaderParams) (inputs : Nat → ReaderIn Word)

/-- The reader at the start of cycle `n`. -/
def stateAt (n : Nat) : DdrReader Word := (ddrReader Word p).trace inputs n

/-- Cycle `n` belongs to the read that was started in cycle `start`. -/
structure ReadSince (start n : Nat) : Prop where
  taken : (stateAt p inputs start).takes (inputs start) = true
  later : start < n
  latest : ∀ k, start < k → k < n → (stateAt p inputs k).takes (inputs k) = false

/-- The frames handed on by the read that was started in cycle `start`, up to cycle `n`. -/
def framesSince (start n : Nat) : Nat := tally (fun k => (stateAt p inputs k).frameFire (inputs k)) (start + 1) n

def addressesSince (start n : Nat) : Nat := tally (fun k => (stateAt p inputs k).arFire (inputs k)) (start + 1) n

def lastBeatsSince (start n : Nat) : Nat := tally (fun k => (stateAt p inputs k).retiring (inputs k)) (start + 1) n

/-- What the reader keeps to in cycle `n` of a run. -/
structure Drains (n : Nat) : Prop where
  addressHeld : (stateAt p inputs n).arvalid = true → (inputs n).arready = false →
    (stateAt p inputs (n + 1)).arvalid = true ∧
      (stateAt p inputs (n + 1)).araddr = (stateAt p inputs n).araddr ∧
      (stateAt p inputs (n + 1)).arlen = (stateAt p inputs n).arlen
  frameHeld : (stateAt p inputs n).frameValid = true → (inputs n).frameReady = false →
    (stateAt p inputs (n + 1)).frameValid = true ∧
      (stateAt p inputs (n + 1)).assembling = (stateAt p inputs n).assembling
  noNewFrame : ∀ start seen, ReadSince p inputs start n → start < seen → seen ≤ n →
    (stateAt p inputs seen).disturbed (inputs seen) = true → ¬ PresentsNew p (stateAt p inputs n) (inputs n)
  outstanding : ∀ start, ReadSince p inputs start n →
    addressesSince p inputs start n = lastBeatsSince p inputs start n + (stateAt p inputs n).outstanding
  clearsBusy : (stateAt p inputs n).busy = true → (stateAt p inputs (n + 1)).busy = false →
    (stateAt p inputs n).arvalid = false ∧ (stateAt p inputs n).outstanding = 0 ∧
      (stateAt p inputs n).frameValid = false ∧ (stateAt p inputs (n + 1)).Quiet
  doneWhole : (stateAt p inputs (n + 1)).done = true → ∃ start, ReadSince p inputs start n ∧
    (∀ k, start < k → k ≤ n → (stateAt p inputs k).disturbed (inputs k) = false) ∧
      (stateAt p inputs (n + 1)).error = false ∧ framesSince p inputs start (n + 1) = (inputs start).totalBeats
  donePulse : (stateAt p inputs n).done = true → (stateAt p inputs (n + 1)).done = false
  errorLatched : (stateAt p inputs n).error = true → (stateAt p inputs n).takes (inputs n) = false →
    (stateAt p inputs (n + 1)).error = true ∧ (stateAt p inputs (n + 1)).errorCode = (stateAt p inputs n).errorCode
  errorCode : (stateAt p inputs n).error = false → (stateAt p inputs (n + 1)).error = true →
    ((stateAt p inputs n).takes (inputs n) = true ∧ (stateAt p inputs (n + 1)).errorCode = 4) ∨
      ((stateAt p inputs n).rFault (inputs n) = true ∧ (stateAt p inputs (n + 1)).errorCode = 2) ∨
      ((stateAt p inputs n).timesOut p (inputs n) = true ∧ (stateAt p inputs (n + 1)).errorCode = 3)

variable {p} {inputs} {start n : Nat}

theorem stateAt_succ (n : Nat) : stateAt p inputs (n + 1) = (stateAt p inputs n).step p (inputs n) := rfl

theorem inv_stateAt (n : Nat) : (stateAt p inputs n).Inv p :=
  Machine.trace_invariant _ inputs inv_reset (fun _ _ inv => inv.step) n

theorem ReadSince.idle (since : ReadSince p inputs start n) : (stateAt p inputs start).busy = false := by
  have taken := since.taken
  rw [takes, Bool.and_eq_true, Bool.not_eq_true'] at taken
  exact taken.2

/-- A read is followed from the cycle behind its start. -/
@[elab_as_elim]
theorem ReadSince.induct {motive : Nat → Prop} (since : ReadSince p inputs start n)
    (first : (stateAt p inputs (start + 1)) = (stateAt p inputs start).begin (inputs start) → motive (start + 1))
    (next : ∀ n, ReadSince p inputs start n → (stateAt p inputs n).takes (inputs n) = false → motive n → motive (n + 1)) :
    motive n := by
  obtain ⟨taken, later, latest⟩ := since
  induction n, later using Nat.le_induction with
  | base => exact first (step_taken taken)
  | succ n later ih =>
    have before : ∀ k, start < k → k < n → _ := fun k from_start upto => latest k from_start (by omega)
    exact next n ⟨taken, later, before⟩ (latest n later (Nat.lt_succ_self n)) (ih before)

/-- The counter of the bursts in flight is true. -/
theorem outstanding_since (since : ReadSince p inputs start n) :
    addressesSince p inputs start n = lastBeatsSince p inputs start n + (stateAt p inputs n).outstanding := by
  refine since.induct ?_ ?_
  · intro first
    rw [addressesSince, lastBeatsSince, tally_self, tally_self, first]
    rfl
  · intro n since rests ih
    have later : start + 1 ≤ n := since.later
    rw [addressesSince, lastBeatsSince, tally_succ _ later, tally_succ _ later, stateAt_succ]
    unfold addressesSince lastBeatsSince at ih
    cases busy : (stateAt p inputs n).busy with
    | true =>
      have inv : (stateAt p inputs n).Inv p := inv_stateAt n
      have count := outstanding_advance inv.queue (i := inputs n)
      rw [step_of_busy busy]
      omega
    | false =>
      have quiet := (inv_stateAt n).quiet busy
      have no_address : (stateAt p inputs n).arFire (inputs n) = false := by simp [arFire, quiet.arvalid]
      have no_beat : (stateAt p inputs n).retiring (inputs n) = false := by
        simp [retiring, rFire, rready, quiet.outstanding]
      rw [step_resting busy rests, no_address, no_beat]
      exact ih

/-- A cycle of the read at whose end it is busy and live. -/
theorem live_before (rests : (stateAt p inputs n).takes (inputs n) = false)
    (busy : (stateAt p inputs (n + 1)).busy = true) (live : (stateAt p inputs (n + 1)).Live) :
    (stateAt p inputs n).busy = true ∧ (stateAt p inputs n).Live ∧ (stateAt p inputs n).disturbed (inputs n) = false ∧
      (stateAt p inputs n).finished (inputs n) = false := by
  rw [stateAt_succ] at busy live
  cases before : (stateAt p inputs n).busy with
  | false =>
    rw [step_resting before rests] at busy
    exact absurd (before.symm.trans busy) Bool.false_ne_true
  | true =>
    have seen : (stateAt p inputs n).disturbed (inputs n) = false := by
      by_contra seen
      exact not_live_of_disturbed before (Bool.not_eq_false _ ▸ seen) live
    rw [step_of_busy before] at busy live
    exact ⟨rfl, (advance_live live).1, seen, by simpa [DdrReader.advance] using busy⟩

/-- A read that is busy and live has seen no disturbance. -/
theorem undisturbed_since (since : ReadSince p inputs start n) : (stateAt p inputs n).busy = true →
    (stateAt p inputs n).Live → ∀ k, start < k → k < n → (stateAt p inputs k).disturbed (inputs k) = false := by
  refine since.induct ?_ ?_
  · intro _ _ _ k from_start upto
    omega
  · intro n since rests ih busy live k from_start upto
    obtain ⟨before, alive, seen, -⟩ := live_before rests busy live
    rcases Nat.lt_succ_iff_lt_or_eq.mp upto with earlier | rfl
    · exact ih before alive k from_start earlier
    · exact seen

theorem books_since (sized : (inputs start).totalBeats < 2 ^ 32) (since : ReadSince p inputs start n) :
    (stateAt p inputs n).busy = true → (stateAt p inputs n).Live →
      (stateAt p inputs n).Books p (inputs start).totalBeats (framesSince p inputs start n) := by
  refine since.induct ?_ ?_
  · intro first _ _
    rw [framesSince, tally_self, first]
    exact Books.begin ((inv_stateAt start).quiet since.idle) sized
  · intro n since rests ih busy live
    have later : start + 1 ≤ n := since.later
    obtain ⟨before, alive, -, going⟩ := live_before rests busy live
    rw [stateAt_succ, step_of_busy before] at live
    rw [framesSince, tally_succ _ later, stateAt_succ, step_of_busy before]
    exact (ih before alive).advance (inv_stateAt n) live going

theorem no_new_frame {seen : Nat} (since : ReadSince p inputs start n) (from_start : start < seen) (upto : seen ≤ n)
    (disturbed : (stateAt p inputs seen).disturbed (inputs seen) = true) :
    ¬ PresentsNew p (stateAt p inputs n) (inputs n) := by
  cases busy : (stateAt p inputs n).busy with
  | false => exact not_presentsNew_of_idle (inv_stateAt n) busy
  | true =>
    apply not_presentsNew_of_draining busy
    rcases Nat.eq_or_lt_of_le upto with rfl | upto
    · exact draining_of_disturbed disturbed
    · apply draining_of_not_live
      intro live
      have clean := undisturbed_since since busy live seen from_start upto
      exact Bool.false_ne_true (clean.symm.trans disturbed)

theorem started_of_busy (busy : (stateAt p inputs n).busy = true) : ∃ start, ReadSince p inputs start n := by
  induction n with
  | zero => exact Bool.noConfusion busy
  | succ n ih =>
    cases taken : (stateAt p inputs n).takes (inputs n) with
    | true => exact ⟨n, taken, Nat.lt_succ_self n, fun k from_start upto => by omega⟩
    | false =>
      have before : (stateAt p inputs n).busy = true := by
        by_contra idle
        rw [stateAt_succ, step_resting (Bool.not_eq_true _ ▸ idle) taken] at busy
        exact idle busy
      obtain ⟨start, since⟩ := ih before
      refine ⟨start, since.taken, Nat.lt_succ_of_lt since.later, fun k from_start upto => ?_⟩
      rcases Nat.lt_succ_iff_lt_or_eq.mp upto with earlier | rfl
      · exact since.latest k from_start earlier
      · exact taken

theorem done_whole (sized : ∀ n, (inputs n).totalBeats < 2 ^ 32) (done : (stateAt p inputs (n + 1)).done = true) :
    ∃ start, ReadSince p inputs start n ∧
      (∀ k, start < k → k ≤ n → (stateAt p inputs k).disturbed (inputs k) = false) ∧
      (stateAt p inputs (n + 1)).error = false ∧ framesSince p inputs start (n + 1) = (inputs start).totalBeats := by
  rw [stateAt_succ] at done
  obtain ⟨busy, ends, keep⟩ := finishes_of_done done
  obtain ⟨start, since⟩ := started_of_busy busy
  have inv : (stateAt p inputs n).Inv p := inv_stateAt n
  have finish := finished_spec ends
  have live : (stateAt p inputs n).Live := by
    by_contra disturbed
    exact Bool.false_ne_true (keep.symm.trans (draining_of_not_live disturbed))
  have quiet : (stateAt p inputs n).disturbed (inputs n) = false := by
    by_contra seen
    exact Bool.false_ne_true (keep.symm.trans (draining_of_disturbed (Bool.not_eq_false _ ▸ seen)))
  refine ⟨start, since, fun k from_start upto => ?_, ?_, ?_⟩
  · rcases Nat.eq_or_lt_of_le upto with rfl | earlier
    · exact quiet
    · exact undisturbed_since since busy live k from_start earlier
  · exact no_error_of_finishing finish live.2 busy
  · have later : start + 1 ≤ n := since.later
    have books := books_since (sized start) since busy live
    rw [framesSince, tally_succ _ later, finish.not_frameFire]
    exact books.all_delivered inv live ends keep

theorem done_pulse (done : (stateAt p inputs n).done = true) : (stateAt p inputs (n + 1)).done = false := by
  cases n with
  | zero => exact Bool.noConfusion done
  | succ n =>
    have idle : (stateAt p inputs (n + 1)).busy = false := idle_of_done done
    by_contra again
    rw [Bool.not_eq_false, stateAt_succ] at again
    exact Bool.false_ne_true (idle.symm.trans (finishes_of_done again).1)

theorem quiet_of_clearing (busy : (stateAt p inputs n).busy = true) (clears : (stateAt p inputs (n + 1)).busy = false) :
    (stateAt p inputs n).arvalid = false ∧ (stateAt p inputs n).outstanding = 0 ∧
      (stateAt p inputs n).frameValid = false ∧ (stateAt p inputs (n + 1)).Quiet := by
  have after : (stateAt p inputs (n + 1)).Quiet := (inv_stateAt (n + 1)).quiet clears
  rw [stateAt_succ, step_of_busy busy] at clears
  have finish : Finishing (stateAt p inputs n) (inputs n) := finished_spec (by simpa [DdrReader.advance] using clears)
  exact ⟨finish.arvalid, finish.outstanding, finish.frameValid, after⟩

/-- The reader drains as it should in every cycle of every run. -/
theorem drains_always (sized : ∀ n, (inputs n).totalBeats < 2 ^ 32) (n : Nat) : Drains p inputs n where
  addressHeld := address_held (inv_stateAt n)
  frameHeld := frame_held (inv_stateAt n)
  noNewFrame _ _ since := no_new_frame since
  outstanding _ := outstanding_since
  clearsBusy := quiet_of_clearing
  doneWhole := done_whole sized
  donePulse := done_pulse
  errorLatched error rests :=
    have ⟨still, code, _⟩ := error_latched error rests
    ⟨still, code⟩
  errorCode := error_rises

/-- Three frames, cancelled while the first of them returns. -/
def cancelledRead (n : Nat) : ReaderIn Unit where
  start := n == 0
  cancel := n == 4
  baseAddr := 256
  totalBeats := 3
  fifoFreeBeats := 1024
  arready := true
  rdata _ := ()
  rresp := 0
  rvalid := true
  rlast := n == 14
  frameReady := true

theorem cancelledRead_drains : Drains playbackReaderParams cancelledRead 15 :=
  drains_always (fun _ => by change 3 < 2 ^ 32; omega) 15

-- the twelve beats return, then the reader is idle
example : (List.range 20).map (fun n => (stateAt playbackReaderParams cancelledRead n).busy) =
    [false] ++ List.replicate 15 true ++ List.replicate 4 false := by decide

end Runs

end Xczu47dr.Playback.DdrReader
