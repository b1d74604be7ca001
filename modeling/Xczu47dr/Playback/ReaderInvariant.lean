import Mathlib.Algebra.BigOperators.Group.List.Basic
import Mathlib.Tactic.Set
import Xczu47dr.Clocked.Ring
import Xczu47dr.Playback.DdrReader

/-! # What the DDR reader keeps

The burst queue of the reader is a ring whose elements are the lengths, in read
beats, of the bursts in flight.  While no fault or cancel has been seen the
reservation counter is exactly the number of frames reserved and not yet retired:
those of the address on the bus, those still owed by the bursts in flight, and
the frame presented to the FIFOs.
-/

namespace Xczu47dr.Playback.DdrReader

open Clocked

variable {Word : Type} {p : ReaderParams} {s : DdrReader Word} {i : ReaderIn Word}

/-- The lengths of the bursts in flight, oldest first. -/
def bursts (p : ReaderParams) (s : DdrReader Word) : List Nat :=
  Ring.contents s.burstLengths p.maxOutstanding s.head s.outstanding

def addressed (s : DdrReader Word) : Nat := if s.arvalid then s.pendingFrames else 0

/-- Neither a fault nor a cancel has been seen since the last start. -/
def Live (s : DdrReader Word) : Prop := s.cancelled = false ∧ s.error = false

/-- The length of a burst: whole frames, and within the nine bits of the queue. -/
def WholeFrames (length : Nat) : Prop := 4 ∣ length ∧ 0 < length ∧ length < 512

/-- The burst queue and the address channel. -/
structure QueueOk (p : ReaderParams) (s : DdrReader Word) : Prop where
  head_lt : s.head < p.maxOutstanding
  tail_eq : s.tail = (s.head + s.outstanding) % p.maxOutstanding
  outstanding_le : s.outstanding ≤ p.maxOutstanding
  arvalid_room : s.arvalid = true → s.outstanding < p.maxOutstanding
  pending_range : s.arvalid = true → 1 ≤ s.pendingFrames ∧ s.pendingFrames ≤ 16
  bursts_whole : ∀ length ∈ s.bursts p, WholeFrames length
  reserved_lt : s.reserved < 2048

/-- A reader that is not busy has nothing under way. -/
structure Quiet (s : DdrReader Word) : Prop where
  arvalid : s.arvalid = false
  outstanding : s.outstanding = 0
  frameValid : s.frameValid = false
  reserved : s.reserved = 0

/-- The reservation counter of a live reader, in read beats. -/
structure Balanced (p : ReaderParams) (s : DdrReader Word) : Prop where
  slice_eq : s.slice.val = s.returnedInBurst % 4
  returned_lt : ∀ length ∈ (s.bursts p).head?, s.returnedInBurst < length
  returned_zero : s.bursts p = [] → s.returnedInBurst = 0
  balance : 4 * s.reserved + s.returnedInBurst =
    s.slice.val + 4 * s.addressed + (s.bursts p).sum + 4 * s.frameValid.toNat

/-- The invariant of the reader. -/
structure Inv (p : ReaderParams) (s : DdrReader Word) : Prop where
  queue : s.QueueOk p
  quiet : s.busy = false → s.Quiet
  live : s.Live → s.Balanced p
  presented : s.frameValid = true → 1 ≤ s.reserved

theorem maxOutstanding_pos (p : ReaderParams) : 2 ≤ p.maxOutstanding := by
  obtain ⟨k, low, -, eq⟩ := p.outstanding_pow
  rw [eq]
  calc 2 = 2 ^ 1 := rfl
    _ ≤ 2 ^ k := Nat.pow_le_pow_right (by decide) low

/-! ## The wires -/

theorem rFire_spec (fire : s.rFire i = true) :
    s.outstanding ≠ 0 ∧ (s.frameValid = true → i.frameReady = true) := by
  simp only [rFire, rready, Bool.and_eq_true, bne_iff_ne, Bool.or_eq_true, Bool.not_eq_true'] at fire
  obtain ⟨-, ⟨-, owed⟩, clear⟩ := fire
  exact ⟨owed, fun valid => clear.resolve_left (by rw [valid]; decide)⟩

theorem retiring_rFire (retire : s.retiring i = true) : s.rFire i = true := by
  rw [retiring, Bool.and_eq_true] at retire
  exact retire.1

theorem arFire_arvalid (fire : s.arFire i = true) : s.arvalid = true := by
  rw [arFire, Bool.and_eq_true] at fire
  exact fire.1

theorem proposedFrames_le (p : ReaderParams) (s : DdrReader Word) (i : ReaderIn Word) :
    s.proposedFrames p i ≤ 16 := by
  simp only [proposedFrames, pageFrames]
  split
  · exact Nat.zero_le _
  · omega

theorem proposedFrames_le_remaining (p : ReaderParams) (s : DdrReader Word) (i : ReaderIn Word)
    (left : s.remaining ≠ 0) : s.proposedFrames p i ≤ s.remaining := by
  have clamp : s.burstClamp p ≤ s.remaining := by
    have bound := p.burst_le
    unfold burstClamp
    by_cases one : p.burstFrames = 1
    · rw [if_pos one, if_pos left]
      omega
    · rw [if_neg one]
      split <;> omega
  simp only [proposedFrames]
  split
  · exact Nat.zero_le _
  · omega

theorem proposedFrames_credit (proposed : s.proposedFrames p i ≠ 0) :
    s.reserved + s.proposedFrames p i ≤ fifoFreeCredit i := by
  unfold proposedFrames at proposed ⊢
  by_cases spent : fifoFreeCredit i ≤ s.reserved
  · exact absurd (if_pos spent) proposed
  · rw [if_neg spent]
    omega

theorem fifoFreeCredit_lt (i : ReaderIn Word) : fifoFreeCredit i < 2048 := by
  unfold fifoFreeCredit fifoCreditMax
  split <;> omega

theorem fifoFreeCredit_le (i : ReaderIn Word) : fifoFreeCredit i ≤ i.fifoFreeBeats := by
  unfold fifoFreeCredit fifoCreditMax
  split <;> omega

/-- What a reservation implies. -/
structure Reserving (p : ReaderParams) (s : DdrReader Word) (i : ReaderIn Word) : Prop where
  arvalid : s.arvalid = false
  draining : s.draining i = false
  remaining : s.remaining ≠ 0
  room : s.outstanding < p.maxOutstanding
  proposed : s.proposedFrames p i ≠ 0

theorem reserveNew_spec (reserve : s.reserveNew p i = true) : Reserving p s i := by
  simp only [reserveNew, Bool.and_eq_true, Bool.not_eq_true', bne_iff_ne] at reserve
  obtain ⟨⟨⟨⟨⟨-, draining⟩, arvalid⟩, remaining⟩, room⟩, proposed⟩ := reserve
  refine ⟨arvalid, draining, remaining, ?_, proposed⟩
  have positive := maxOutstanding_pos p
  split at room
  · simp only [beq_iff_eq] at room
    omega
  · exact of_decide_eq_true room

/-- What the end of a read implies. -/
structure Finishing (s : DdrReader Word) (i : ReaderIn Word) : Prop where
  arvalid : s.arvalid = false
  outstanding : s.outstanding = 0
  frameValid : s.frameValid = false
  ends : s.remaining = 0 ∨ s.draining i = true

theorem finished_spec (finished : s.finished i = true) : Finishing s i := by
  simp only [DdrReader.finished, Bool.and_eq_true, Bool.not_eq_true', beq_iff_eq, Bool.or_eq_true] at finished
  obtain ⟨⟨⟨arvalid, outstanding⟩, frameValid⟩, ends⟩ := finished
  refine ⟨arvalid, outstanding, frameValid, ?_⟩
  rcases ends with ((remaining | cancelled) | cancel) | error
  · exact Or.inl remaining
  · exact Or.inr (by simp [draining, cancelled])
  · exact Or.inr (by simp [draining, cancel])
  · exact Or.inr (by simp [draining, error])

theorem Finishing.not_reserve (h : Finishing s i) : s.reserveNew p i = false := by
  rcases reserve : s.reserveNew p i with - | -
  · rfl
  · have r := reserveNew_spec reserve
    rcases h.ends with remaining | draining
    · exact absurd remaining r.remaining
    · exact absurd draining (by rw [r.draining]; decide)

theorem Finishing.not_rFire (h : Finishing s i) : s.rFire i = false := by
  simp [rFire, rready, h.outstanding]

theorem Finishing.not_arFire (h : Finishing s i) : s.arFire i = false := by
  simp [arFire, h.arvalid]

theorem Finishing.not_frameFire (h : Finishing s i) : s.frameFire i = false := by
  simp [frameFire, h.frameValid]

/-! ## The burst queue -/

theorem bursts_eq_nil : s.bursts p = [] ↔ s.outstanding = 0 := by
  rw [← List.length_eq_zero_iff, bursts, Ring.length_contents]

/-- A beat belongs to the burst in the head slot. -/
theorem bursts_of_rFire (queue : s.QueueOk p) (fire : s.rFire i = true) :
    s.bursts p = s.burstLengths s.head ::
      Ring.contents s.burstLengths p.maxOutstanding ((s.head + 1) % p.maxOutstanding)
        (s.outstanding - 1) := by
  obtain ⟨count, owed⟩ := Nat.exists_eq_succ_of_ne_zero (rFire_spec fire).1
  rw [bursts, owed]
  exact Ring.contents_pop _ count queue.head_lt

/-- The burst whose address is accepted in this cycle. -/
def pushed (s : DdrReader Word) (i : ReaderIn Word) : List Nat :=
  if s.arFire i then [4 * s.pendingFrames] else []

theorem outstanding_advance (queue : s.QueueOk p) :
    (s.advance p i).outstanding + (s.retiring i).toNat = s.outstanding + (s.arFire i).toNat := by
  have room : s.arFire i = true → s.outstanding < p.maxOutstanding := fun fire =>
    queue.arvalid_room (arFire_arvalid fire)
  have owed : s.retiring i = true → s.outstanding ≠ 0 := fun retire =>
    (rFire_spec (retiring_rFire retire)).1
  have bound := queue.outstanding_le
  have positive := maxOutstanding_pos p
  simp only [advance]
  cases fire : s.arFire i with
  | false =>
    cases retire : s.retiring i with
    | false => rfl
    | true =>
      have nonzero := owed retire
      have wrapped : s.outstanding + (2 * p.maxOutstanding - 1) =
          s.outstanding - 1 + 2 * p.maxOutstanding := by omega
      simp only [wrapped, Nat.add_mod_right, Bool.toNat_true, Bool.toNat_false]
      rw [Nat.mod_eq_of_lt (by omega)]
      omega
  | true =>
    have spare := room fire
    cases retire : s.retiring i with
    | false =>
      simp only [Bool.toNat_true, Bool.toNat_false]
      rw [Nat.mod_eq_of_lt (by omega)]
    | true => rfl

/-- An accepted address appends its burst, a last beat removes the oldest one. -/
theorem bursts_advance (queue : s.QueueOk p) :
    (s.advance p i).bursts p =
      if s.retiring i then (s.bursts p ++ s.pushed i).tail else s.bursts p ++ s.pushed i := by
  have grown : Ring.contents (s.advance p i).burstLengths p.maxOutstanding s.head
      (s.outstanding + (s.arFire i).toNat) = s.bursts p ++ s.pushed i := by
    simp only [advance, pushed, bursts]
    cases fire : s.arFire i with
    | false => simp
    | true =>
      have range := queue.pending_range (arFire_arvalid fire)
      have length : s.pendingFrames * 4 % 512 = 4 * s.pendingFrames := by omega
      simp only [if_true, queue.tail_eq, length, Bool.toNat_true]
      exact Ring.contents_push _ s.head (queue.arvalid_room (arFire_arvalid fire)) _
  have count := outstanding_advance queue (i := i)
  cases retire : s.retiring i with
  | false =>
    rw [retire, Bool.toNat_false, Nat.add_zero] at count
    rw [if_neg Bool.false_ne_true, ← grown, bursts, count]
    simp only [advance, retire, Bool.false_eq_true, if_false]
  | true =>
    rw [retire, Bool.toNat_true] at count
    rw [if_pos rfl, ← grown, ← count, Ring.contents_pop _ _ queue.head_lt, List.tail_cons, bursts]
    simp only [advance, retire, if_true]

theorem pushed_whole (queue : s.QueueOk p) : ∀ length ∈ s.pushed i, WholeFrames length := by
  intro length pushed
  unfold DdrReader.pushed at pushed
  split at pushed
  · rename_i fire
    have range := queue.pending_range (arFire_arvalid fire)
    rw [List.mem_singleton] at pushed
    subst pushed
    exact ⟨Nat.dvd_mul_right _ _, by omega, by omega⟩
  · simp at pushed

theorem reserved_advance_lt (queue : s.QueueOk p) : (s.advance p i).reserved < 2048 := by
  simp only [advance]
  have bound := queue.reserved_lt
  split
  · decide
  · split <;> omega

theorem QueueOk.advance (queue : s.QueueOk p) : (s.advance p i).QueueOk p where
  head_lt := by
    have positive := maxOutstanding_pos p
    simp only [DdrReader.advance]
    split
    · exact Nat.mod_lt _ (by omega)
    · exact queue.head_lt
  tail_eq := by
    have count := outstanding_advance queue (i := i)
    have tail : (s.advance p i).tail =
        (s.head + (s.outstanding + (s.arFire i).toNat)) % p.maxOutstanding := by
      simp only [DdrReader.advance, queue.tail_eq]
      cases s.arFire i with
      | false => rfl
      | true => exact Ring.tail_push
    rw [tail, ← count]
    cases retire : s.retiring i with
    | false => simp only [DdrReader.advance, retire, Bool.false_eq_true, if_false, Bool.toNat_false, Nat.add_zero]
    | true =>
      simp only [DdrReader.advance, retire, if_true, Bool.toNat_true]
      exact Ring.tail_pop.symm
  outstanding_le := by
    have count := outstanding_advance queue (i := i)
    have bound := queue.outstanding_le
    cases fire : s.arFire i with
    | false => rw [fire, Bool.toNat_false] at count; omega
    | true =>
      have room := queue.arvalid_room (arFire_arvalid fire)
      rw [fire, Bool.toNat_true] at count
      omega
  arvalid_room := by
    have count := outstanding_advance queue (i := i)
    intro valid
    simp only [DdrReader.advance] at valid
    cases fire : s.arFire i with
    | true => simp [fire] at valid
    | false =>
      rw [fire, Bool.toNat_false] at count
      have either : s.reserveNew p i = true ∨ s.arvalid = true := by simpa [fire] using valid
      have room : s.outstanding < p.maxOutstanding := by
        rcases either with reserve | held
        · exact (reserveNew_spec reserve).room
        · exact queue.arvalid_room held
      omega
  pending_range := by
    intro valid
    simp only [DdrReader.advance] at valid ⊢
    cases reserve : s.reserveNew p i with
    | true =>
      have proposed := (reserveNew_spec reserve).proposed
      have bound := proposedFrames_le p s i
      simp only [if_true]
      omega
    | false =>
      cases fire : s.arFire i with
      | true => simp [fire] at valid
      | false => exact queue.pending_range (by simpa [fire, reserve] using valid)
  bursts_whole := by
    rw [bursts_advance queue]
    intro length held
    have inside : length ∈ s.bursts p ++ s.pushed i := by
      split at held
      · exact List.mem_of_mem_tail held
      · exact held
    rcases List.mem_append.mp inside with old | new
    · exact queue.bursts_whole length old
    · exact pushed_whole queue length new
  reserved_lt := reserved_advance_lt queue

/-! ## The reservation balance -/

theorem advance_live (live : (s.advance p i).Live) :
    s.Live ∧ s.draining i = false ∧ s.rFault i = false := by
  obtain ⟨cancelled, error⟩ := live
  simp only [advance, Bool.or_eq_false_iff] at cancelled error
  obtain ⟨cancelled, cancel⟩ := cancelled
  obtain ⟨⟨error, fault⟩, -⟩ := error
  exact ⟨⟨cancelled, error⟩, by simp [draining, cancelled, cancel, error, fault], fault⟩

/-- A beat without fault is the last one exactly at the end of its burst. -/
theorem rlast_of_no_fault (fire : s.rFire i = true) (clean : s.rFault i = false) :
    i.rlast = decide (s.returnedInBurst + 1 = s.burstLengths s.head) := by
  simp only [rFault, fire, Bool.true_and, Bool.or_eq_false_iff, bne_eq_false_iff_eq] at clean
  rw [clean.2, Bool.beq_eq_decide_eq]

/-- While no beat is lost the presented frame is part of the reservation. -/
theorem Balanced.presented (balanced : s.Balanced p) (valid : s.frameValid = true) :
    1 ≤ s.reserved := by
  have balance := balanced.balance
  have slice := balanced.slice_eq
  rw [valid, Bool.toNat_true] at balance
  have inFlight : s.returnedInBurst ≤ (s.bursts p).sum + s.slice.val := by
    cases held : s.bursts p with
    | nil =>
      have none := balanced.returned_zero held
      omega
    | cons length rest =>
      have short := balanced.returned_lt length (by rw [held]; rfl)
      rw [List.sum_cons]
      omega
  omega

/-- The reservation counter after one busy cycle that is not the last. -/
theorem reserved_advance (queue : s.QueueOk p) (presented : s.frameValid = true → 1 ≤ s.reserved)
    (busy : s.finished i = false) :
    (s.advance p i).reserved + (s.frameFire i).toNat =
      s.reserved + if s.reserveNew p i then s.proposedFrames p i else 0 := by
  have bound := queue.reserved_lt
  have credit : s.reserveNew p i = true → s.reserved + s.proposedFrames p i < 2048 := fun reserve =>
    Nat.lt_of_le_of_lt (proposedFrames_credit (reserveNew_spec reserve).proposed)
      (fifoFreeCredit_lt i)
  have owned : s.frameFire i = true → 1 ≤ s.reserved := fun fire => by
    rw [frameFire, Bool.and_eq_true] at fire
    exact presented fire.1
  simp only [advance, busy, Bool.false_eq_true, if_false]
  cases reserve : s.reserveNew p i with
  | false =>
    cases fire : s.frameFire i with
    | false => simp
    | true =>
      have positive := owned fire
      simp only [Bool.false_eq_true, if_false, Bool.toNat_true]
      omega
  | true =>
    have fits := credit reserve
    cases fire : s.frameFire i with
    | false =>
      simp only [if_true, Bool.toNat_false]
      omega
    | true =>
      have positive := owned fire
      simp only [if_true, Bool.toNat_true]
      omega

theorem addressed_advance :
    (s.advance p i).addressed + (s.pushed i).sum / 4 =
      s.addressed + if s.reserveNew p i then s.proposedFrames p i else 0 := by
  simp only [addressed, pushed, advance]
  by_cases fire : s.arFire i = true
  · have valid := arFire_arvalid fire
    have idle : s.reserveNew p i = false := by simp [reserveNew, valid]
    simp [fire, valid, idle]
  · by_cases reserve : s.reserveNew p i = true
    · simp [fire, reserve, (reserveNew_spec reserve).arvalid]
    · simp [fire, reserve]

theorem pushed_sum (s : DdrReader Word) (i : ReaderIn Word) :
    4 * ((s.pushed i).sum / 4) = (s.pushed i).sum := by
  unfold pushed
  split
  · rw [List.sum_singleton]
    omega
  · rfl

/-- What one busy cycle returns: the beats, in slices and in completed frames. -/
structure Returned (p : ReaderParams) (s : DdrReader Word) (i : ReaderIn Word) : Prop where
  beats : (s.advance p i).returnedInBurst + (s.bursts p).sum + (s.pushed i).sum +
      s.slice.val + 4 * s.frameValid.toNat =
    s.returnedInBurst + ((s.advance p i).bursts p).sum + (s.advance p i).slice.val +
      4 * (s.advance p i).frameValid.toNat + 4 * (s.frameFire i).toNat
  slice_eq : (s.advance p i).slice.val = (s.advance p i).returnedInBurst % 4
  returned_lt : ∀ length ∈ ((s.advance p i).bursts p).head?, (s.advance p i).returnedInBurst < length
  returned_zero : (s.advance p i).bursts p = [] → (s.advance p i).returnedInBurst = 0

theorem returned_none (queue : s.QueueOk p) (balanced : s.Balanced p) (quiet : s.rFire i = false)
    (busy : s.finished i = false) : Returned p s i := by
  have still : s.retiring i = false := by rw [retiring, quiet, Bool.false_and]
  have bursts := bursts_advance queue (i := i)
  rw [still, if_neg Bool.false_ne_true] at bursts
  have returned : (s.advance p i).returnedInBurst = s.returnedInBurst := by
    simp [advance, quiet]
  have slice : (s.advance p i).slice = s.slice := by simp [advance, quiet, busy]
  have frame : (s.advance p i).frameValid.toNat + (s.frameFire i).toNat = s.frameValid.toNat := by
    simp only [advance, quiet, frameFire, Bool.false_and, Bool.false_eq_true, if_false]
    cases s.frameValid <;> cases i.frameReady <;> rfl
  refine ⟨?_, ?_, ?_, ?_⟩
  · rw [bursts, List.sum_append, returned, slice]
    omega
  · rw [slice, returned, balanced.slice_eq]
  · rw [bursts, returned]
    intro length first
    cases held : s.bursts p with
    | nil =>
      rw [held, List.nil_append] at first
      rw [balanced.returned_zero held]
      exact (pushed_whole queue length (List.mem_of_mem_head? first)).2.1
    | cons oldest rest =>
      rw [held] at first
      exact balanced.returned_lt length (by rw [held]; exact first)
  · rw [bursts, returned]
    intro empty
    exact balanced.returned_zero (List.append_eq_nil_iff.mp empty).1

/-- A cycle in which a beat returns without fault. -/
theorem returned_beat (queue : s.QueueOk p) (balanced : s.Balanced p) (fire : s.rFire i = true)
    (keep : s.draining i = false) (clean : s.rFault i = false) : Returned p s i := by
  have held := bursts_of_rFire queue fire
  set rest := Ring.contents s.burstLengths p.maxOutstanding ((s.head + 1) % p.maxOutstanding)
    (s.outstanding - 1)
  set length := s.burstLengths s.head
  have whole : WholeFrames length := queue.bursts_whole length (by rw [held]; exact List.mem_cons_self)
  have short : s.returnedInBurst < length := balanced.returned_lt length (by rw [held]; rfl)
  have sliceNow := balanced.slice_eq
  have sliceBound := s.slice.isLt
  have bursts := bursts_advance queue (i := i)
  have last := rlast_of_no_fault fire clean
  have unfinished : s.finished i = false := by
    cases ends : s.finished i with
    | false => rfl
    | true => exact absurd fire (by rw [(finished_spec ends).not_rFire]; decide)
  -- a beat only returns while the frame register is free or being emptied
  have frame : (s.frameFire i).toNat = s.frameValid.toNat := by
    have clear := (rFire_spec fire).2
    unfold frameFire
    cases valid : s.frameValid with
    | false => rfl
    | true => rw [clear valid]; rfl
  have frameNext : (s.advance p i).frameValid = (s.slice == 3) := by
    have fired : (s.frameValid && !s.frameFire i) = false := by
      revert frame
      cases s.frameValid <;> cases s.frameFire i <;> simp
    simp only [advance, fire, keep, fired]
    cases s.slice == 3 <;> rfl
  have sliceNext : (s.advance p i).slice.val = (s.slice.val + 1) % 4 := by
    simp [advance, fire, keep, unfinished, Fin.val_add]
  obtain ⟨⟨frames, frames_eq⟩, positive, small⟩ := whole
  by_cases final : s.returnedInBurst + 1 = length
  · rw [decide_eq_true final] at last
    have retire : s.retiring i = true := by rw [retiring, fire, last]; rfl
    have returned : (s.advance p i).returnedInBurst = 0 := by simp [advance, fire, last]
    have position : s.slice.val = 3 := by omega
    have atEnd : s.slice = 3 := Fin.ext position
    rw [retire, if_pos rfl, held, List.cons_append, List.tail_cons] at bursts
    refine ⟨?_, ?_, ?_, fun _ => returned⟩
    · rw [bursts, held, returned, frameNext, sliceNext, frame, atEnd, List.sum_append, List.sum_cons]
      have three : (3 : Fin 4).val = 3 := rfl
      simp only [beq_self_eq_true, Bool.toNat_true, three]
      omega
    · rw [sliceNext, returned, atEnd]
      rfl
    · rw [returned]
      intro next first
      have inside : next ∈ (s.advance p i).bursts p := List.mem_of_mem_head? first
      exact (queue.advance.bursts_whole next inside).2.1
  · rw [decide_eq_false final] at last
    have retire : s.retiring i = false := by rw [retiring, fire, last]; rfl
    have returned : (s.advance p i).returnedInBurst = s.returnedInBurst + 1 := by
      have inRange : s.returnedInBurst ≠ 511 := by omega
      simp [advance, fire, last, inRange]
    rw [retire, if_neg Bool.false_ne_true] at bursts
    refine ⟨?_, ?_, ?_, ?_⟩
    · rw [bursts, List.sum_append, returned, frameNext, sliceNext, frame]
      by_cases atEnd : s.slice = 3
      · have three : s.slice.val = 3 := by rw [atEnd]; rfl
        simp only [atEnd, beq_self_eq_true, Bool.toNat_true]
        have three : (3 : Fin 4).val = 3 := rfl
        omega
      · have before : s.slice.val ≠ 3 := fun eq => atEnd (Fin.ext eq)
        simp only [beq_eq_false_iff_ne.mpr atEnd, Bool.toNat_false]
        omega
    · rw [sliceNext, returned, sliceNow]
      omega
    · rw [bursts, held, returned]
      intro oldest first
      rw [List.cons_append, List.head?_cons, Option.mem_def, Option.some_inj] at first
      omega
    · rw [bursts, held]
      intro empty
      exact absurd empty (by simp)

theorem Balanced.advance (queue : s.QueueOk p) (balanced : s.Balanced p)
    (presented : s.frameValid = true → 1 ≤ s.reserved) (live : (s.advance p i).Live) :
    (s.advance p i).Balanced p := by
  obtain ⟨-, keep, clean⟩ := advance_live live
  cases ends : s.finished i with
  | true =>
    have finish := finished_spec ends
    have empty : s.bursts p = [] := bursts_eq_nil.mpr finish.outstanding
    have returned := balanced.returned_zero empty
    have bursts : (s.advance p i).bursts p = [] := by
      rw [bursts_advance queue, pushed, finish.not_arFire, empty, retiring, finish.not_rFire]
      rfl
    have nextReturned : (s.advance p i).returnedInBurst = 0 := by
      simp [DdrReader.advance, finish.not_rFire, returned]
    refine ⟨?_, ?_, fun _ => nextReturned, ?_⟩
    · rw [nextReturned]
      simp [DdrReader.advance, ends]
    · rw [bursts]
      simp
    · rw [bursts, nextReturned]
      simp [DdrReader.advance, ends, addressed, finish.not_rFire, finish.not_reserve,
        finish.arvalid, finish.frameValid]
  | false =>
    have step : Returned p s i := by
      cases fire : s.rFire i with
      | false => exact returned_none queue balanced fire ends
      | true => exact returned_beat queue balanced fire keep clean
    refine ⟨step.slice_eq, step.returned_lt, step.returned_zero, ?_⟩
    have balance := balanced.balance
    have beats := step.beats
    have reserved := reserved_advance queue presented ends
    have addressed := addressed_advance (p := p) (s := s) (i := i)
    have pushed := pushed_sum s i
    omega

/-- A reader that drops what returns presents nothing new. -/
theorem presented_advance (inv : s.Inv p) (valid : (s.advance p i).frameValid = true) :
    1 ≤ (s.advance p i).reserved := by
  by_cases live : (s.advance p i).Live
  · have before := inv.live (advance_live live).1
    exact (before.advance inv.queue inv.presented live).presented valid
  · have held : s.frameValid = true ∧ s.frameFire i = false := by
      by_contra other
      have complete : s.rFire i = true ∧ s.draining i = false := by
        simp only [DdrReader.advance] at valid
        by_contra idle
        have none : (s.rFire i && !s.draining i) = false := by simpa using idle
        simp [none] at valid
        exact other valid
      obtain ⟨fire, keep⟩ := complete
      refine live ?_
      simp only [draining, Bool.or_eq_false_iff] at keep
      obtain ⟨⟨⟨cancelled, cancel⟩, error⟩, fault⟩ := keep
      have rests : s.timesOut p i = false := by simp [timesOut, watchdogRests, fire]
      simp [Live, DdrReader.advance, cancelled, cancel, error, fault, rests]
    have busy : s.finished i = false := by
      simp [finished, held.1]
    have count := reserved_advance inv.queue inv.presented busy
    rw [held.2, Bool.toNat_false] at count
    have owned := inv.presented held.1
    omega

/-- The end of a read leaves nothing under way. -/
theorem quiet_advance (queue : s.QueueOk p) (ends : (s.advance p i).busy = false) :
    (s.advance p i).Quiet := by
  have ends : s.finished i = true := by simpa [DdrReader.advance] using ends
  have finish := finished_spec ends
  have count := outstanding_advance queue (i := i)
  refine ⟨?_, ?_, ?_, ?_⟩
  · simp [DdrReader.advance, finish.not_arFire, finish.not_reserve, finish.arvalid]
  · rw [finish.not_arFire, finish.outstanding, Bool.toNat_false] at count
    omega
  · simp [DdrReader.advance, finish.not_rFire, finish.frameValid]
  · simp [DdrReader.advance, ends]

theorem Inv.advance (inv : s.Inv p) : (s.advance p i).Inv p where
  queue := inv.queue.advance
  quiet := quiet_advance inv.queue
  live live := (inv.live (advance_live live).1).advance inv.queue inv.presented live
  presented := presented_advance inv

/-! ## Every reachable state -/

/-- A reader with nothing under way and cleared counters satisfies the invariant. -/
theorem inv_of_cleared (arvalid : s.arvalid = false) (head : s.head = 0) (tail : s.tail = 0)
    (outstanding : s.outstanding = 0) (frameValid : s.frameValid = false) (reserved : s.reserved = 0)
    (returned : s.returnedInBurst = 0) (slice : s.slice = 0) : s.Inv p := by
  have positive := maxOutstanding_pos p
  have empty : s.bursts p = [] := bursts_eq_nil.mpr outstanding
  refine ⟨⟨?_, ?_, ?_, ?_, ?_, ?_, ?_⟩, fun _ => ⟨arvalid, outstanding, frameValid, reserved⟩,
    fun _ => ⟨?_, ?_, fun _ => returned, ?_⟩, ?_⟩
  · omega
  · rw [head, tail, outstanding, Nat.zero_mod]
  · omega
  · simp [arvalid]
  · simp [arvalid]
  · simp [empty]
  · omega
  · rw [slice, returned]
    rfl
  · simp [empty]
  · simp [empty, returned, reserved, slice, addressed, arvalid, frameValid]
  · simp [frameValid]

theorem Inv.begin (inv : s.Inv p) (idle : s.busy = false) : (s.begin i).Inv p :=
  inv_of_cleared (inv.quiet idle).arvalid rfl rfl rfl rfl rfl rfl rfl

/-- An idle cycle only takes `done` back. -/
theorem Inv.idle (inv : s.Inv p) : ({ s with done := false } : DdrReader Word).Inv p where
  queue := { inv.queue with }
  quiet idle := { inv.quiet idle with }
  live live := { inv.live live with }
  presented := inv.presented

theorem Inv.step (inv : s.Inv p) : (s.step p i).Inv p := by
  unfold DdrReader.step
  split
  · rename_i starts
    rw [Bool.and_eq_true, Bool.not_eq_true'] at starts
    exact inv.begin starts.2
  · split
    · exact inv.advance
    · exact inv.idle

theorem inv_reset [Inhabited Word] : (reset : DdrReader Word).Inv p :=
  inv_of_cleared rfl rfl rfl rfl rfl rfl rfl rfl

end Xczu47dr.Playback.DdrReader
