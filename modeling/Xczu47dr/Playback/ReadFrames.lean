import Xczu47dr.Playback.MemoryReads

/-! # The frames of a read

While neither a cancel nor a timeout interrupts it, a read is at one place of
the memory: everything before it has been delivered or is being assembled, the
addresses the memory still owes follow one another from there.
-/

namespace Xczu47dr.Playback

open Clocked

variable {Word : Type}

/-- The frame the memory holds at `base`, in the `k`-th place. -/
def frameAt (readBeat : Nat → Channel → Word) (base k : Nat) : Frame Word :=
  fun channel j => readBeat (base + 64 * (4 * k + j)) channel

/-- The first frames the memory holds at `base`. -/
def framesAt (readBeat : Nat → Channel → Word) (base count : Nat) : List (Frame Word) :=
  (List.range count).map (frameAt readBeat base)

theorem framesAt_succ (readBeat : Nat → Channel → Word) (base count : Nat) :
    framesAt readBeat base (count + 1) = framesAt readBeat base count ++ [frameAt readBeat base count] := by
  rw [framesAt, List.range_succ, List.map_append]
  rfl

@[simp] theorem length_framesAt (readBeat : Nat → Channel → Word) (base count : Nat) :
    (framesAt readBeat base count).length = count := by
  rw [framesAt, List.length_map, List.length_range]

namespace DdrReader

variable {p : ReaderParams} {s : DdrReader Word} {i : ReaderIn Word}

/-- A beat only returns while the frame register is free or being emptied. -/
theorem frameFire_of_rFire (fire : s.rFire i = true) : s.frameFire i = s.frameValid := by
  have clear := (rFire_spec fire).2
  unfold frameFire
  cases valid : s.frameValid with
  | false => rfl
  | true => rw [clear valid]; rfl

/-- The frames completed, delivered or presented, and the beats of the next one. -/
def returned (s : DdrReader Word) (delivered : Nat) : Nat := 4 * (delivered + s.frameValid.toNat) + s.slice

end DdrReader

namespace MemoryRead

open DdrReader

/-- A read of `total` frames at `base` is going on and has delivered `delivered`. -/
structure Reading (readBeat : Nat → Channel → Word) (p : ReaderParams) (base total delivered : Nat)
    (s : MemoryRead Word) : Prop where
  busy : s.reader.busy = true
  live : s.reader.Live
  port : s.PortOk p
  remaining_le : s.reader.remaining ≤ total
  issue : s.reader.issueAddr = base + 256 * (total - s.reader.remaining)
  presented : s.reader.arvalid = true →
    s.reader.araddr = s.reader.issueAddr ∧ s.reader.pendingFrames ≤ s.reader.remaining
  addresses : s.owed.map Prod.fst = List.range' (base + 64 * s.reader.returned delivered) s.owed.length 64
  count : s.reader.returned delivered + s.owed.length = 4 * (total - s.reader.remaining)
  fresh : s.reader.frameValid = true → s.reader.slice = 0
  assembled : ∀ j : Fin 4, s.reader.frameValid = true ∨ j < s.reader.slice → ∀ channel,
    s.reader.assembling channel j = frameAt readBeat base delivered channel j

variable {readBeat : Nat → Channel → Word} {p : ReaderParams} {base total delivered : Nat}
  {s : MemoryRead Word} {i : MemoryReadIn}

/-- Nothing interrupts the read in this cycle. -/
structure Undisturbed (readBeat : Nat → Channel → Word) (p : ReaderParams) (s : MemoryRead Word)
    (i : MemoryReadIn) : Prop where
  no_cancel : i.cancel = false
  in_time : s.reader.timesOut p (s.readerIn readBeat i) = false

theorem Reading.not_draining (reading : s.Reading readBeat p base total delivered)
    (no_cancel : i.cancel = false) : s.reader.draining (s.readerIn readBeat i) = false := by
  have cancel : (s.readerIn readBeat i).cancel = false := no_cancel
  simp [draining, reading.live.1, reading.live.2, reading.port.no_fault, cancel]

theorem Reading.live_step (reading : s.Reading readBeat p base total delivered)
    (undisturbed : Undisturbed readBeat p s i) : (s.step readBeat p i).reader.Live := by
  have cancel : (s.readerIn readBeat i).cancel = false := undisturbed.no_cancel
  rw [step_busy reading.busy]
  simp [Live, advance, reading.live.1, reading.live.2, reading.port.no_fault, cancel, undisturbed.in_time]

theorem delivers_length : (s.delivers readBeat i).length = (s.reader.frameFire (s.readerIn readBeat i)).toNat := by
  unfold delivers
  cases s.reader.frameFire (s.readerIn readBeat i) <;> rfl

/-- A frame that is handed downstream is the next of the memory. -/
theorem Reading.delivers_eq (reading : s.Reading readBeat p base total delivered) :
    framesAt readBeat base delivered ++ s.delivers readBeat i =
      framesAt readBeat base (delivered + (s.delivers readBeat i).length) := by
  unfold delivers
  cases fire : s.reader.frameFire (s.readerIn readBeat i) with
  | false => exact List.append_nil _
  | true =>
    rw [frameFire, Bool.and_eq_true] at fire
    have whole : s.reader.assembling = frameAt readBeat base delivered := by
      funext channel j
      exact reading.assembled j (.inl fire.1) channel
    rw [if_pos rfl, whole, List.length_singleton, framesAt_succ]

/-- The place of the read after one cycle that is not its last. -/
theorem Reading.returned_step (reading : s.Reading readBeat p base total delivered)
    (no_cancel : i.cancel = false) (going : s.reader.finished (s.readerIn readBeat i) = false) :
    (s.step readBeat p i).reader.returned (delivered + (s.delivers readBeat i).length) =
      s.reader.returned delivered + (s.reader.rFire (s.readerIn readBeat i)).toNat := by
  have keep := reading.not_draining (i := i) no_cancel
  rw [delivers_length, step_busy reading.busy]
  simp only [returned, advance, keep, going]
  cases fire : s.reader.rFire (s.readerIn readBeat i) with
  | false =>
    simp only [frameFire]
    cases s.reader.frameValid <;> cases (s.readerIn readBeat i).frameReady <;> simp
  | true =>
    have bound := s.reader.slice.isLt
    rw [frameFire_of_rFire fire]
    by_cases final : s.reader.slice = 3
    · have three : s.reader.slice.val = 3 := by rw [final]; rfl
      cases s.reader.frameValid <;> simp [final] <;> omega
    · have before : s.reader.slice.val ≠ 3 := fun eq => final (Fin.ext eq)
      cases s.reader.frameValid <;> simp [final, Fin.val_add] <;> omega

/-- The frame under assembly after a beat has returned. -/
theorem Reading.assembled_beat (reading : s.Reading readBeat p base total delivered) (no_cancel : i.cancel = false)
    (fire : s.reader.rFire (s.readerIn readBeat i) = true) (j : Fin 4)
    (filled : (s.step readBeat p i).reader.frameValid = true ∨ j < (s.step readBeat p i).reader.slice)
    (channel : Channel) : (s.step readBeat p i).reader.assembling channel j =
      frameAt readBeat base (delivered + (s.delivers readBeat i).length) channel j := by
  have keep := reading.not_draining (i := i) no_cancel
  have going : s.reader.finished (s.readerIn readBeat i) = false := by
    cases ends : s.reader.finished (s.readerIn readBeat i) with
    | false => rfl
    | true => exact absurd fire (by rw [(finished_spec ends).not_rFire]; exact Bool.false_ne_true)
  have presented := frameFire_of_rFire fire
  rw [step_busy reading.busy] at filled ⊢
  simp only [advance, fire, keep, going, presented, Bool.not_false, Bool.and_true, Bool.and_not_self,
    Bool.true_and, if_true, Bool.false_eq_true, if_false] at filled ⊢
  rw [delivers_length, presented]
  by_cases here : j = s.reader.slice
  · -- the beat that returns now
    obtain ⟨address, length, rest, tail, -, -, -, owed, -⟩ := reading.port.beat fire
    have first := reading.addresses
    rw [owed, List.map_cons, List.length_cons, List.range'_succ, List.cons.injEq] at first
    subst here
    rw [Function.update_self, frameAt]
    change _ = readBeat (base + 64 * s.reader.returned delivered) channel
    rw [← first.1]
    simp only [readerIn, owed, List.head?_cons, Option.map_some, Option.getD_some]
  · -- the beats before it
    have before : j < s.reader.slice := by
      have three : (3 : Fin 4).val = 3 := rfl
      rcases filled with last | below
      · have final : s.reader.slice = 3 := by
          by_contra other
          simp [other] at last
        have bound := j.isLt
        rw [Fin.lt_def, final]
        have differs : j.val ≠ 3 := fun eq => here (by rw [final]; exact Fin.ext eq)
        omega
      · rw [Fin.lt_def, Fin.val_add] at below
        have differs : j.val ≠ s.reader.slice.val := fun eq => here (Fin.ext eq)
        have one : (1 : Fin 4).val = 1 := rfl
        rw [Fin.lt_def]
        omega
    have not_valid : s.reader.frameValid = false := by
      cases valid : s.reader.frameValid with
      | false => rfl
      | true =>
        rw [reading.fresh valid] at before
        exact absurd before (Nat.not_lt_zero _)
    rw [Function.update_of_ne here, not_valid, Bool.toNat_false, Nat.add_zero]
    exact reading.assembled j (.inr before) channel

/-- The frame under assembly after a cycle without a beat. -/
theorem Reading.assembled_still (reading : s.Reading readBeat p base total delivered)
    (still : s.reader.rFire (s.readerIn readBeat i) = false)
    (going : s.reader.finished (s.readerIn readBeat i) = false) (j : Fin 4)
    (filled : (s.step readBeat p i).reader.frameValid = true ∨ j < (s.step readBeat p i).reader.slice)
    (channel : Channel) : (s.step readBeat p i).reader.assembling channel j =
      frameAt readBeat base (delivered + (s.delivers readBeat i).length) channel j := by
  rw [step_busy reading.busy] at filled ⊢
  simp only [advance, still, going, Bool.false_and, Bool.false_eq_true, if_false, Bool.and_eq_true,
    Bool.not_eq_true'] at filled ⊢
  have none : s.reader.frameFire (s.readerIn readBeat i) = false := by
    rcases filled with kept | below
    · exact kept.2
    · cases valid : s.reader.frameValid with
      | false => rw [frameFire, valid, Bool.false_and]
      | true =>
        rw [reading.fresh valid] at below
        exact absurd below (Nat.not_lt_zero _)
  rw [delivers_length, none]
  exact reading.assembled j (filled.imp_left And.left) channel

/-- The addresses the memory owes after one cycle still follow one another. -/
theorem Reading.addresses_step (reading : s.Reading readBeat p base total delivered) :
    (s.step readBeat p i).owed.map Prod.fst =
      List.range' (base + 64 * (s.reader.returned delivered + (s.reader.rFire (s.readerIn readBeat i)).toNat))
        (s.step readBeat p i).owed.length 64 ∧
    (s.step readBeat p i).owed.length + (s.reader.rFire (s.readerIn readBeat i)).toNat =
      s.owed.length + if s.reader.arFire (s.readerIn readBeat i) then 4 * s.reader.pendingFrames else 0 := by
  -- the beats left of what was owed before
  obtain ⟨left, left_eq, addresses, length⟩ : ∃ left : List (Nat × Bool),
      (if s.reader.rFire (s.readerIn readBeat i) then s.owed.tail else s.owed) = left ∧
      left.map Prod.fst = List.range' (base + 64 * (s.reader.returned delivered +
        (s.reader.rFire (s.readerIn readBeat i)).toNat)) left.length 64 ∧
      left.length + (s.reader.rFire (s.readerIn readBeat i)).toNat = s.owed.length := by
    cases fire : s.reader.rFire (s.readerIn readBeat i) with
    | false => exact ⟨s.owed, rfl, reading.addresses, rfl⟩
    | true =>
      obtain ⟨address, length, rest, tail, -, -, -, owed, -⟩ := reading.port.beat fire
      have first := reading.addresses
      rw [owed, List.map_cons, List.length_cons, List.range'_succ, List.cons.injEq] at first
      refine ⟨tail, by rw [owed]; rfl, ?_, by rw [owed]; rfl⟩
      rw [first.2, Bool.toNat_true]
      congr 1
  have owed : (s.step readBeat p i).owed = left ++ s.accepted readBeat i := by rw [← left_eq]; rfl
  rw [owed, List.map_append, List.length_append, addresses]
  unfold accepted
  cases fire : s.reader.arFire (s.readerIn readBeat i) with
  | false =>
    rw [if_neg Bool.false_ne_true, if_neg Bool.false_ne_true, List.map_nil, List.append_nil, List.length_nil]
    exact ⟨rfl, length⟩
  | true =>
    have valid := arFire_arvalid fire
    have issue := reading.issue
    have count := reading.count
    have continues : s.reader.araddr = base + 64 * (s.reader.returned delivered +
        (s.reader.rFire (s.readerIn readBeat i)).toNat) + 64 * left.length := by
      rw [(reading.presented valid).1, issue]
      omega
    have size : (burstBeats s.reader.araddr (4 * s.reader.pendingFrames)).length = 4 * s.reader.pendingFrames := by
      rw [burstBeats, List.length_map, List.length_range]
    rw [if_pos rfl, if_pos rfl, reading.port.arlen_eq valid, burstBeats_addresses, size, continues,
      List.range'_append]
    exact ⟨rfl, by omega⟩

/-- A descriptor the reader takes: a base on a frame boundary, and frames that end
    within the 64-bit address space and are counted by 32 bits. -/
structure Fits (base total : Nat) : Prop where
  aligned : base % 256 = 0
  room : base + 256 * total < 2 ^ 64
  counted : total < 2 ^ 32

theorem Reading.issue_step (fits : Fits base total) (reading : s.Reading readBeat p base total delivered) :
    (s.step readBeat p i).reader.remaining ≤ total ∧
    (s.step readBeat p i).reader.issueAddr = base + 256 * (total - (s.step readBeat p i).reader.remaining) ∧
    4 * (total - (s.step readBeat p i).reader.remaining) = 4 * (total - s.reader.remaining) +
      if s.reader.arFire (s.readerIn readBeat i) then 4 * s.reader.pendingFrames else 0 := by
  have left := reading.remaining_le
  have issue := reading.issue
  have room := fits.room
  have counted := fits.counted
  rw [step_busy reading.busy]
  simp only [advance]
  cases fire : s.reader.arFire (s.readerIn readBeat i) with
  | false => exact ⟨left, issue, rfl⟩
  | true =>
    have pending := (reading.presented (arFire_arvalid fire)).2
    simp only [if_true, issue]
    omega

theorem Reading.presented_step (reading : s.Reading readBeat p base total delivered)
    (valid : (s.step readBeat p i).reader.arvalid = true) :
    (s.step readBeat p i).reader.araddr = (s.step readBeat p i).reader.issueAddr ∧
    (s.step readBeat p i).reader.pendingFrames ≤ (s.step readBeat p i).reader.remaining := by
  rw [step_busy reading.busy] at valid ⊢
  simp only [advance] at valid ⊢
  cases fire : s.reader.arFire (s.readerIn readBeat i) with
  | true => simp [fire] at valid
  | false =>
    rw [fire] at valid
    cases reserve : s.reader.reserveNew p (s.readerIn readBeat i) with
    | true => exact ⟨rfl, proposedFrames_le_remaining p _ _ (reserveNew_spec reserve).remaining⟩
    | false =>
      rw [reserve] at valid
      exact reading.presented valid

theorem Reading.step (fits : Fits base total) (reading : s.Reading readBeat p base total delivered)
    (undisturbed : Undisturbed readBeat p s i) (going : s.reader.finished (s.readerIn readBeat i) = false) :
    (s.step readBeat p i).Reading readBeat p base total (delivered + (s.delivers readBeat i).length) := by
  have place := reading.returned_step undisturbed.no_cancel going
  obtain ⟨addresses, length⟩ := reading.addresses_step (i := i)
  obtain ⟨remaining, issue, total_eq⟩ := reading.issue_step fits (i := i)
  have count := reading.count
  refine ⟨?_, reading.live_step undisturbed, reading.port.step, remaining, issue, reading.presented_step, ?_, ?_, ?_, ?_⟩
  · rw [step_busy reading.busy]
    simp [advance, going]
  · rw [place]
    exact addresses
  · rw [place]
    omega
  · have keep := reading.not_draining (i := i) undisturbed.no_cancel
    rw [step_busy reading.busy]
    simp only [advance, keep, going]
    intro valid
    cases fire : s.reader.rFire (s.readerIn readBeat i) with
    | false =>
      simp only [fire, Bool.false_and, Bool.false_eq_true, if_false, Bool.and_eq_true] at valid ⊢
      exact reading.fresh valid.1
    | true =>
      have final : s.reader.slice = 3 := by
        by_contra other
        simp [fire, other, frameFire_of_rFire fire] at valid
      simp [final]
  · cases fire : s.reader.rFire (s.readerIn readBeat i) with
    | false => exact reading.assembled_still fire going
    | true => exact reading.assembled_beat undisturbed.no_cancel fire

/-- The cycle that ends the read: every frame has been delivered. -/
theorem Reading.ends (reading : s.Reading readBeat p base total delivered) (no_cancel : i.cancel = false)
    (ends : s.reader.finished (s.readerIn readBeat i) = true) :
    delivered = total ∧ s.delivers readBeat i = [] ∧ (s.step readBeat p i).reader.busy = false ∧
      (s.step readBeat p i).reader.done = true := by
  have keep := reading.not_draining (i := i) no_cancel
  have finish := finished_spec ends
  have none : s.reader.remaining = 0 := finish.ends.resolve_right (by rw [keep]; exact Bool.false_ne_true)
  have empty : s.reader.bursts p = [] := bursts_eq_nil.mpr finish.outstanding
  have owed := reading.port.length_owed
  have count := reading.count
  have bound := s.reader.slice.isLt
  rw [empty, List.sum_nil] at owed
  rw [none, returned, finish.frameValid, Bool.toNat_false] at count
  refine ⟨by omega, ?_, ?_, ?_⟩
  · rw [delivers, finish.not_frameFire, if_neg Bool.false_ne_true]
  · rw [step_busy reading.busy]
    simp [advance, ends]
  · rw [step_busy reading.busy]
    simp [advance, ends, keep]

/-- The start of a read of at least one frame. -/
theorem reading_start (fits : Fits base total) (port : s.PortOk p) (idle : s.reader.busy = false)
    (starts : i.start = true) (at_base : i.baseAddr = base) (frames : i.totalBeats = total) (some_frame : total ≠ 0) :
    (s.step readBeat p i).Reading readBeat p base total 0 := by
  have reader : (s.step readBeat p i).reader = _ := step_start starts idle
  have quiet := port.inv.quiet idle
  have owed : (s.step readBeat p i).owed = [] := port.idle_still idle
  have room := fits.room
  have good : ¬ (i.baseAddr % 256 ≠ 0 ∨ i.totalBeats = 0 ∨
      (i.baseAddr + i.totalBeats * 256) % 2 ^ 64 < i.baseAddr) := by
    have aligned := fits.aligned
    subst at_base frames
    omega
  have good : ¬ ((s.readerIn readBeat i).baseAddr % 256 ≠ 0 ∨ (s.readerIn readBeat i).totalBeats = 0 ∨
      ((s.readerIn readBeat i).baseAddr + (s.readerIn readBeat i).totalBeats * 256) % 2 ^ 64 <
        (s.readerIn readBeat i).baseAddr) := good
  refine ⟨?_, ?_, port.step, ?_, ?_, ?_, ?_, ?_, ?_, ?_⟩
  · rw [reader, begin, decide_eq_false good]
    rfl
  · rw [reader, begin, decide_eq_false good]
    exact ⟨rfl, rfl⟩
  · rw [reader]
    exact Nat.le_of_eq frames
  · rw [reader]
    change i.baseAddr = base + 256 * (total - i.totalBeats)
    omega
  · rw [reader]
    intro valid
    exact absurd (quiet.arvalid.symm.trans valid) Bool.false_ne_true
  · rw [owed]
    rfl
  · rw [owed, reader]
    change 0 = 4 * (total - i.totalBeats)
    omega
  · rw [reader]
    exact fun _ => rfl
  · rw [reader]
    intro j filled
    rcases filled with valid | below
    · exact absurd valid Bool.false_ne_true
    · exact absurd below (Nat.not_lt_zero _)

theorem refused_start (idle : s.reader.busy = false) (starts : i.start = true) (none : i.totalBeats = 0) :
    (s.step readBeat p i).reader.busy = false := by
  have bad : (s.readerIn readBeat i).baseAddr % 256 ≠ 0 ∨ (s.readerIn readBeat i).totalBeats = 0 ∨
      ((s.readerIn readBeat i).baseAddr + (s.readerIn readBeat i).totalBeats * 256) % 2 ^ 64 <
        (s.readerIn readBeat i).baseAddr := .inr (.inl none)
  rw [show (s.step readBeat p i).reader = _ from step_start starts idle, begin, decide_eq_true bad]
  rfl

end MemoryRead

end Xczu47dr.Playback
