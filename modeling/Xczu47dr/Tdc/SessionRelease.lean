import Xczu47dr.Tdc.SessionOutput

/-! # Release after a finished session

After a session is done the stream offers valid zero beats, and the filters take
them as input wherever the lane is ready.  So the scheduler is released exactly
when the lanes stay unready from two cycles after the end on, and only after a
session without a loop, since a loop keeps the scheduler from draining.
-/

namespace Xczu47dr.Tdc

open Xczu47dr.Playback

namespace SessionOutput

variable (isMaster : Bool) (targetBeats : Nat) (start : Int) (inputs : Nat → OutputIn)

/-- The output path at the start of cycle `n`. -/
def outputAt (n : Nat) : SessionOutput := (sessionOutput isMaster targetBeats start).trace inputs n

/-- No command and no descriptor arrives, and nothing disturbs the session. -/
def calm (s : SessionOutput) (i : OutputIn) : Bool :=
  !i.commitDac && !i.descriptorValid && s.session.undisturbed isMaster (s.sessionIn i)

/-- The scheduler is idle and every filter is empty. -/
def released (s : SessionOutput) (i : OutputIn) : Bool :=
  !s.session.beat.trigger.active && !s.outputBusy i

/-- What the session samples in cycle `n`. -/
def sessionInputs (n : Nat) : SessionIn :=
  (outputAt isMaster targetBeats start inputs n).sessionIn (inputs n)

/-- What the scheduler samples in cycle `n`. -/
def triggerInputs (n : Nat) : TriggerIn :=
  (outputAt isMaster targetBeats start inputs n).session.triggerIn isMaster
    (sessionInputs isMaster targetBeats start inputs n)

/-- A session that the scheduler launched: its event was accepted in cycle `a`, nothing
    disturbed it until the controller was done in cycle `d`, and until cycle `N` the gate
    stays closed, no clear and no fault intervenes, the descriptor stays, and nothing else
    is offered to the scheduler. -/
structure Finished (a d N : Nat) : Prop where
  accepted : (outputAt isMaster targetBeats start inputs (a + 1)).session.beat.trigger.configValid = true
  waits : (outputAt isMaster targetBeats start inputs a).session.controller.state = .waitTrigger
  calm : ∀ k, a ≤ k → k ≤ d → (outputAt isMaster targetBeats start inputs k).calm isMaster (inputs k) = true
  done : (outputAt isMaster targetBeats start inputs d).session.controller.state = .done
  after : a < d
  first : ∀ k, a ≤ k → k < d → (outputAt isMaster targetBeats start inputs k).session.controller.state ≠ .done
  closed : ∀ k, d ≤ k → k ≤ N → (outputAt isMaster targetBeats start inputs k).session.controller.dacGate = false
  steady : ∀ k, d ≤ k → k ≤ N → (triggerInputs isMaster targetBeats start inputs k).steady = true
  kept : ∀ k, d ≤ k → k ≤ N → (inputs k).abortDac = false ∧ (inputs k).descriptorValid = false
  unoffered : ∀ k, d ≤ k → k ≤ N →
    (outputAt isMaster targetBeats start inputs k).session.offered isMaster
      (sessionInputs isMaster targetBeats start inputs k) = false
  long : d + 16 ≤ N

variable {isMaster targetBeats start inputs}

theorem outputAt_succ (n : Nat) : outputAt isMaster targetBeats start inputs (n + 1) =
    (outputAt isMaster targetBeats start inputs n).step isMaster (inputs n) targetBeats := rfl

/-- The session before its output path runs as it does alone. -/
theorem session_at (n : Nat) : (outputAt isMaster targetBeats start inputs n).session =
    Session.stateAt isMaster targetBeats start (sessionInputs isMaster targetBeats start inputs) n := by
  induction n with
  | zero => rfl
  | succ n ih =>
    rw [outputAt_succ, Session.stateAt_succ, ← ih]
    rfl

theorem waiting_at (isMaster : Bool) (targetBeats : Nat) (start : Int) (inputs : Nat → OutputIn) (n : Nat) :
    (outputAt isMaster targetBeats start inputs n).session.beat.Waiting := by
  rw [session_at, Session.beat_at]
  exact BeatTrigger.waiting_at n

theorem tailCount_le (n : Nat) (ch : Channel) :
    ((outputAt isMaster targetBeats start inputs n).filter ch).tailCount ≤ 3 := by
  induction n with
  | zero => exact Nat.zero_le 3
  | succ n ih =>
    change (((outputAt isMaster targetBeats start inputs n).filter ch).step _).tailCount ≤ 3
    rw [ChannelFilter.step]
    split_ifs
    · exact Nat.zero_le 3
    · exact Nat.le_refl 3
    · exact (Nat.sub_le _ 1).trans ih

namespace Finished

variable {a d N : Nat} (finished : Finished isMaster targetBeats start inputs a d N)

include finished

theorem steady_at {k : Nat} (from_a : a ≤ k) (to_end : k ≤ N) :
    (triggerInputs isMaster targetBeats start inputs k).steady = true := by
  rcases Nat.lt_or_ge d k with late | early
  · exact finished.steady k (Nat.le_of_lt late) to_end
  · have calm := finished.calm k from_a early
    simp only [SessionOutput.calm, Session.undisturbed, Bool.and_eq_true] at calm
    exact calm.2.2

/-! ## The controller -/

/-- The cycle before the session is done drains, and the one before that plays. -/
theorem played : ∃ p, a < p ∧ p + 2 = d ∧
    (outputAt isMaster targetBeats start inputs p).session.controller.state = .playing ∧
    (outputAt isMaster targetBeats start inputs (p + 1)).session.controller.state = .draining := by
  have after := finished.after
  have long := finished.long
  obtain ⟨e, rfl⟩ : ∃ e, d = e + 1 := ⟨d - 1, by omega⟩
  have drained : (outputAt isMaster targetBeats start inputs e).session.controller.state = .draining := by
    rcases PlaybackController.done_of_step finished.done with done | draining
    · exact absurd done (finished.first e (by omega) (by omega))
    · exact draining
  have later : a ≠ e := by
    rintro rfl
    rw [finished.waits] at drained
    exact absurd drained (by decide)
  obtain ⟨p, rfl⟩ : ∃ p, e = p + 1 := ⟨e - 1, by omega⟩
  have plays : (outputAt isMaster targetBeats start inputs p).session.controller.state = .playing :=
    PlaybackController.draining_of_step drained
  have inside : a ≠ p := by
    rintro rfl
    rw [finished.waits] at plays
    exact absurd plays (by decide)
  exact ⟨p, by omega, rfl, plays, drained⟩

/-- Behind a closed gate the controller does not get done once more. -/
theorem done_before {k : Nat} (from_end : d ≤ k) (to_end : k < N)
    (done : (outputAt isMaster targetBeats start inputs (k + 1)).session.controller.state = .done) :
    (outputAt isMaster targetBeats start inputs k).session.controller.state = .done := by
  rcases PlaybackController.done_of_step done with before | drains
  · exact before
  · rcases Nat.eq_or_lt_of_le from_end with rfl | later
    · exact finished.done
    · obtain ⟨played, rfl⟩ : ∃ played, k = played + 1 := ⟨k - 1, by omega⟩
      have plays : (outputAt isMaster targetBeats start inputs played).session.controller.state = .playing :=
        PlaybackController.draining_of_step drains
      have closed := finished.closed played (by omega) (by omega)
      rw [PlaybackController.dacGate, decide_eq_false_iff_not] at closed
      exact absurd plays closed

/-- The scheduler sees the end of the session in one cycle, the one after it. -/
theorem donePulse_at {k : Nat} (from_a : a < k) (to_end : k ≤ N) :
    (outputAt isMaster targetBeats start inputs k).session.donePulse = decide (k = d + 1) := by
  obtain ⟨before, rfl⟩ : ∃ before, k = before + 1 := ⟨k - 1, by omega⟩
  obtain ⟨p, from_p, ends, -, drains⟩ := finished.played
  change (decide ((outputAt isMaster targetBeats start inputs before).session.controller.state = .done) &&
    !(outputAt isMaster targetBeats start inputs before).session.donePrev) = _
  rcases Nat.lt_trichotomy before d with early | rfl | late
  · rw [decide_eq_false (finished.first before (by omega) early), Bool.false_and, decide_eq_false (by omega)]
  · subst ends
    have unseen : (outputAt isMaster targetBeats start inputs (p + 2)).session.donePrev = false := by
      change decide ((outputAt isMaster targetBeats start inputs (p + 1)).session.controller.state = .done) = false
      rw [drains]
      rfl
    rw [decide_eq_true finished.done, unseen, decide_eq_true rfl]
    rfl
  · -- a controller that is done again has been done all the time, as it did not play
    obtain ⟨last, rfl⟩ : ∃ last, before = last + 1 := ⟨before - 1, by omega⟩
    rw [decide_eq_false (p := last + 1 + 1 = d + 1) (by omega)]
    by_cases done : (outputAt isMaster targetBeats start inputs (last + 1)).session.controller.state = .done
    · have seen : (outputAt isMaster targetBeats start inputs (last + 1)).session.donePrev = true :=
        decide_eq_true (finished.done_before (by omega) (by omega) done)
      rw [seen, Bool.not_true, Bool.and_false]
    · rw [decide_eq_false done, Bool.false_and]

theorem gate_closed {k : Nat} (from_end : d ≤ k + 1) (to_end : k ≤ N) :
    (outputAt isMaster targetBeats start inputs k).session.controller.dacGate = false := by
  obtain ⟨p, from_p, rfl, -, drains⟩ := finished.played
  rcases Nat.eq_or_lt_of_le from_end with last | later
  · obtain rfl : k = p + 1 := by omega
    rw [PlaybackController.dacGate, drains]
    rfl
  · exact finished.closed k (by omega) to_end

/-! ## The scheduler -/

theorem serves {k : Nat} (from_a : a ≤ k) (to_end : k ≤ N)
    (unlatched : (outputAt isMaster targetBeats start inputs k).session.beat.trigger.fault = false) :
    (outputAt isMaster targetBeats start inputs k).session.beat.trigger.serving
      (triggerInputs isMaster targetBeats start inputs k) = true :=
  BeatTrigger.serving_of_steady (finished.steady_at from_a to_end) unlatched

/-- A busy scheduler accepts nothing, and nothing is offered to a done session. -/
theorem declines {k : Nat} (to_end : k ≤ N)
    (busy : (outputAt isMaster targetBeats start inputs k).session.beat.trigger.active = true ∨ d ≤ k) :
    (outputAt isMaster targetBeats start inputs k).session.beat.trigger.accepts targetBeats
      (outputAt isMaster targetBeats start inputs k).session.beat.epoch
      (triggerInputs isMaster targetBeats start inputs k) = false := by
  rcases busy with active | from_d
  · simp [CompensatingTrigger.accepts, CompensatingTrigger.rejects, active]
  · refine eq_false_of_ne_true fun accepted => ?_
    exact Bool.noConfusion ((finished.unoffered k from_d to_end).symm.trans (Session.accepted_offered accepted))

/-- One cycle of the scheduler after the acceptance. -/
theorem follows {k : Nat} (from_a : a ≤ k) (to_end : k < N)
    (unlatched : (outputAt isMaster targetBeats start inputs k).session.beat.trigger.fault = false)
    (busy : (outputAt isMaster targetBeats start inputs k).session.beat.trigger.active = true ∨ d ≤ k) :
    let t := (outputAt isMaster targetBeats start inputs k).session.beat.trigger
    let t' := (outputAt isMaster targetBeats start inputs (k + 1)).session.beat.trigger
    let i := triggerInputs isMaster targetBeats start inputs k
    t'.fault = false ∧ t'.configValid = false ∧ t'.active = (t.active && !t.completes i) ∧
      t'.draining = ((t.draining || (t.active && t.sawSource && i.sourceDone && !i.loopEnable)) && !t.completes i) ∧
      t'.sawSource = ((t.sawSource || (t.active && i.sourceRunning)) && !t.completes i) := by
  have declined := finished.declines (Nat.le_of_lt to_end) busy
  have serving := finished.serves from_a (Nat.le_of_lt to_end) unlatched
  have in_time := BeatTrigger.not_overdue (waiting_at isMaster targetBeats start inputs k)
  obtain ⟨quiet, -, -, -, fault⟩ := CompensatingTrigger.step_declining declined serving in_time
  obtain ⟨active, draining, sawSource⟩ := CompensatingTrigger.step_following declined serving in_time
  exact ⟨fault.trans unlatched, quiet, active, draining, sawSource⟩

theorem descriptor_kept {k : Nat} (from_a : a ≤ k) (to_end : k ≤ N) :
    (inputs k).abortDac = false ∧ (inputs k).descriptorValid = false := by
  rcases Nat.lt_or_ge d k with late | early
  · exact finished.kept k (Nat.le_of_lt late) to_end
  · have calm := finished.calm k from_a early
    simp only [SessionOutput.calm, Session.undisturbed, ControllerIn.commanded, Bool.and_eq_true, Bool.not_eq_true',
      Bool.or_eq_false_iff] at calm
    obtain ⟨⟨-, unloaded⟩, ⟨⟨-, unaborted⟩, -⟩, -⟩ := calm
    exact ⟨unaborted, unloaded⟩

/-- The descriptor of a finished session stays. -/
theorem frozen {k : Nat} (from_a : a ≤ k) (to_end : k ≤ N) :
    (outputAt isMaster targetBeats start inputs k).descriptor =
      (outputAt isMaster targetBeats start inputs a).descriptor := by
  induction k, from_a using Nat.le_induction with
  | base => rfl
  | succ k from_a ih =>
    obtain ⟨unaborted, unloaded⟩ := finished.descriptor_kept from_a (by omega : k ≤ N)
    rw [← ih (by omega), outputAt_succ]
    change ((outputAt isMaster targetBeats start inputs k).loadDescriptor (inputs k)).descriptor = _
    rw [loadDescriptor, unaborted, unloaded]
    rfl

/-- From the acceptance to the end the scheduler is busy with the session. -/
theorem busy_until_done {k : Nat} (from_a : a < k) (to_done : k ≤ d + 1) :
    (outputAt isMaster targetBeats start inputs k).session.beat.trigger.fault = false ∧
      (outputAt isMaster targetBeats start inputs k).session.beat.trigger.active = true ∧
      (outputAt isMaster targetBeats start inputs k).session.beat.trigger.draining = false := by
  have long := finished.long
  induction k, from_a using Nat.le_induction with
  | base =>
    have accepted : (outputAt isMaster targetBeats start inputs a).session.beat.accepts targetBeats
        (triggerInputs isMaster targetBeats start inputs a) = true :=
      (BeatTrigger.configValid_step (waiting_at isMaster targetBeats start inputs a)).symm.trans finished.accepted
    obtain ⟨serving, -⟩ := CompensatingTrigger.accepts_iff.mp accepted
    obtain ⟨-, -, -, -, kept, -⟩ := CompensatingTrigger.sample_fields
      (outputAt isMaster targetBeats start inputs a).session.beat.epoch
      (outputAt isMaster targetBeats start inputs a).session.beat.trigger
      (triggerInputs isMaster targetBeats start inputs a)
    simp only [CompensatingTrigger.serving, Bool.and_eq_true, Bool.not_eq_true'] at serving
    have stepped : (outputAt isMaster targetBeats start inputs (a + 1)).session.beat.trigger =
        (outputAt isMaster targetBeats start inputs a).session.beat.trigger.step targetBeats
          (outputAt isMaster targetBeats start inputs a).session.beat.epoch
          (triggerInputs isMaster targetBeats start inputs a) := rfl
    rw [stepped, CompensatingTrigger.step_accepting accepted]
    exact ⟨kept.trans serving.2, rfl, rfl⟩
  | succ k from_a ih =>
    obtain ⟨unlatched, active, undrained⟩ := ih (by omega)
    obtain ⟨fault, -, stays, drains, -⟩ := finished.follows (k := k) (by omega) (by omega) unlatched (.inl active)
    have unfinished : (outputAt isMaster targetBeats start inputs k).session.beat.trigger.completes
        (triggerInputs isMaster targetBeats start inputs k) = false := by
      rw [CompensatingTrigger.completes, undrained, Bool.and_false, Bool.false_and, Bool.false_and]
    have unseen : (triggerInputs isMaster targetBeats start inputs k).sourceDone = false := by
      refine (finished.donePulse_at (k := k) (by omega) (by omega)).trans (decide_eq_false (by omega))
    rw [active, unfinished] at stays
    rw [undrained, unseen, Bool.and_false, Bool.false_and] at drains
    exact ⟨fault, stays, drains⟩

/-- The scheduler has seen the source when it learns that the session is done. -/
theorem saw_source : (outputAt isMaster targetBeats start inputs (d + 1)).session.beat.trigger.sawSource = true := by
  have long := finished.long
  obtain ⟨p, from_p, rfl, plays, -⟩ := finished.played
  have unfinished : ∀ k, a < k → k ≤ p + 3 →
      (outputAt isMaster targetBeats start inputs k).session.beat.trigger.completes
        (triggerInputs isMaster targetBeats start inputs k) = false := by
    intro k from_a to_done
    obtain ⟨-, -, undrained⟩ := finished.busy_until_done from_a to_done
    rw [CompensatingTrigger.completes, undrained, Bool.and_false, Bool.false_and, Bool.false_and]
  have running : (triggerInputs isMaster targetBeats start inputs (p + 1)).sourceRunning = true := by
    change (outputAt isMaster targetBeats start inputs p).session.controller.dacGate = true
    rw [PlaybackController.dacGate, plays]
    rfl
  obtain ⟨unlatched, active, -⟩ := finished.busy_until_done (k := p + 1) (by omega) (by omega)
  obtain ⟨-, -, -, -, saw⟩ := finished.follows (k := p + 1) (by omega) (by omega) unlatched (.inl active)
  rw [active, running, unfinished (p + 1) (by omega) (by omega), Bool.and_true, Bool.or_true, Bool.not_false,
    Bool.and_true] at saw
  obtain ⟨unlatched, active, -⟩ := finished.busy_until_done (k := p + 2) (by omega) (by omega)
  obtain ⟨-, -, -, -, still⟩ := finished.follows (k := p + 2) (by omega) (by omega) unlatched (.inl active)
  rw [saw, unfinished (p + 2) (by omega) (by omega), Bool.true_or, Bool.not_false, Bool.and_true] at still
  exact still

/-- Two cycles after the end the scheduler drains, unless the descriptor has a loop. -/
theorem drains_after {k : Nat} (from_end : d + 2 ≤ k) (to_end : k ≤ N) :
    (outputAt isMaster targetBeats start inputs k).session.beat.trigger.fault = false ∧
      (outputAt isMaster targetBeats start inputs k).session.beat.trigger.configValid = false ∧
      (outputAt isMaster targetBeats start inputs k).session.beat.trigger.draining =
        ((outputAt isMaster targetBeats start inputs k).session.beat.trigger.active &&
          !decide (1 < (outputAt isMaster targetBeats start inputs a).descriptor.loopCount)) := by
  have after := finished.after
  have loops : ∀ k, a ≤ k → k ≤ N → (triggerInputs isMaster targetBeats start inputs k).loopEnable =
      decide (1 < (outputAt isMaster targetBeats start inputs a).descriptor.loopCount) := by
    intro k from_a to_end
    rw [← finished.frozen from_a to_end]
    rfl
  induction k, from_end using Nat.le_induction with
  | base =>
    obtain ⟨unlatched, active, undrained⟩ := finished.busy_until_done (k := d + 1) (by omega) (Nat.le_refl _)
    obtain ⟨fault, quiet, stays, drains, -⟩ := finished.follows (k := d + 1) (by omega) (by omega) unlatched (.inl active)
    have unfinished : (outputAt isMaster targetBeats start inputs (d + 1)).session.beat.trigger.completes
        (triggerInputs isMaster targetBeats start inputs (d + 1)) = false := by
      rw [CompensatingTrigger.completes, undrained, Bool.and_false, Bool.false_and, Bool.false_and]
    have seen : (triggerInputs isMaster targetBeats start inputs (d + 1)).sourceDone = true :=
      (finished.donePulse_at (k := d + 1) (by omega) (by omega)).trans (decide_eq_true rfl)
    rw [undrained, active, finished.saw_source, seen, unfinished, loops (d + 1) (by omega) (by omega)] at drains
    rw [active, unfinished] at stays
    refine ⟨fault, quiet, ?_⟩
    rw [drains, stays]
    simp
  | succ k from_end ih =>
    obtain ⟨unlatched, -, draining⟩ := ih (by omega)
    obtain ⟨fault, quiet, stays, drains, -⟩ := finished.follows (k := k) (by omega) (by omega) unlatched (.inr (by omega))
    have unseen : (triggerInputs isMaster targetBeats start inputs k).sourceDone = false :=
      (finished.donePulse_at (k := k) (by omega) (by omega)).trans (decide_eq_false (by omega))
    refine ⟨fault, quiet, ?_⟩
    rw [drains, stays, draining, unseen]
    simp only [Bool.and_false, Bool.false_and, Bool.or_false]
    rw [Bool.and_right_comm]

/-- The scheduler is released by the first cycle in which no filter is busy. -/
theorem active_after {k : Nat} (from_end : d + 2 ≤ k) (to_end : k < N) :
    (outputAt isMaster targetBeats start inputs (k + 1)).session.beat.trigger.active =
      ((outputAt isMaster targetBeats start inputs k).session.beat.trigger.active &&
        (decide (1 < (outputAt isMaster targetBeats start inputs a).descriptor.loopCount) ||
          (outputAt isMaster targetBeats start inputs k).outputBusy (inputs k))) := by
  have after := finished.after
  obtain ⟨unlatched, -, draining⟩ := finished.drains_after from_end (Nat.le_of_lt to_end)
  obtain ⟨-, -, stays, -⟩ := finished.follows (k := k) (by omega) to_end unlatched (.inr (by omega))
  have stopped : (triggerInputs isMaster targetBeats start inputs k).sourceRunning = false := by
    obtain ⟨before, rfl⟩ : ∃ before, k = before + 1 := ⟨k - 1, by omega⟩
    exact finished.gate_closed (k := before) (by omega) (by omega)
  have output : (triggerInputs isMaster targetBeats start inputs k).outputBusy =
    (outputAt isMaster targetBeats start inputs k).outputBusy (inputs k) := rfl
  rw [stays, CompensatingTrigger.completes, draining, stopped, output]
  cases (outputAt isMaster targetBeats start inputs k).session.beat.trigger.active <;> simp

/-- The scheduler stays active while the descriptor has a loop or a filter is busy. -/
theorem stays_active {k : Nat} (from_end : d + 2 ≤ k) (to_end : k ≤ N)
    (held : ∀ m, d + 2 ≤ m → m < k →
      1 < (outputAt isMaster targetBeats start inputs a).descriptor.loopCount ∨
        (outputAt isMaster targetBeats start inputs m).outputBusy (inputs m) = true) :
    (outputAt isMaster targetBeats start inputs k).session.beat.trigger.active = true := by
  induction k, from_end using Nat.le_induction with
  | base =>
    have after := finished.after
    obtain ⟨unlatched, active, undrained⟩ := finished.busy_until_done (k := d + 1) (by omega) (Nat.le_refl _)
    obtain ⟨-, -, stays, -⟩ := finished.follows (k := d + 1) (by omega) (by omega) unlatched (.inl active)
    rw [active, CompensatingTrigger.completes, undrained, Bool.and_false] at stays
    exact stays
  | succ k from_end ih =>
    have still := finished.active_after from_end (by omega)
    rw [ih (by omega) fun m later before => held m later (by omega), Bool.true_and] at still
    rw [still, Bool.or_eq_true, decide_eq_true_eq]
    exact held k from_end (Nat.lt_succ_self k)

theorem stays_inactive {m k : Nat} (from_end : d + 2 ≤ m) (later : m ≤ k) (to_end : k ≤ N)
    (idle : (outputAt isMaster targetBeats start inputs m).session.beat.trigger.active = false) :
    (outputAt isMaster targetBeats start inputs k).session.beat.trigger.active = false := by
  induction k, later using Nat.le_induction with
  | base => exact idle
  | succ k later ih => rw [finished.active_after (by omega) (by omega), ih (by omega), Bool.false_and]

/-! ## The filters -/

theorem unlatched {k : Nat} (from_a : a < k) (to_end : k ≤ N) :
    (outputAt isMaster targetBeats start inputs k).session.beat.trigger.fault = false := by
  rcases Nat.lt_or_ge (d + 1) k with late | early
  · exact (finished.drains_after late to_end).1
  · exact (finished.busy_until_done from_a early).1

/-- The filters are configured once, right after the acceptance. -/
theorem configured {k : Nat} (from_a : a + 2 ≤ k) (to_end : k ≤ N) :
    (outputAt isMaster targetBeats start inputs k).session.beat.trigger.configValid = false := by
  rcases Nat.lt_or_ge (d + 1) k with late | early
  · exact (finished.drains_after late to_end).2.1
  · obtain ⟨before, rfl⟩ : ∃ before, k = before + 1 := ⟨k - 1, by omega⟩
    obtain ⟨unlatched, active, -⟩ := finished.busy_until_done (k := before) (by omega) (by omega)
    exact (finished.follows (k := before) (by omega) (by omega) unlatched (.inl active)).2.1

theorem unmuted {k : Nat} (from_a : a < k) (to_end : k ≤ N) :
    (outputAt isMaster targetBeats start inputs k).clear (inputs k) = false ∧
      (outputAt isMaster targetBeats start inputs k).outputMute (inputs k) = false := by
  have steady := finished.steady_at (Nat.le_of_lt from_a) to_end
  simp only [TriggerIn.steady, TriggerIn.unfit, Bool.and_eq_true, Bool.not_eq_true', Bool.or_eq_false_iff] at steady
  obtain ⟨⟨uncleared, -⟩, ⟨sound, ready⟩, calibrated⟩ := steady
  refine ⟨uncleared, ?_⟩
  simp only [outputMute, Bool.or_eq_false_iff]
  exact ⟨⟨⟨⟨finished.unlatched from_a to_end, sound⟩, ready⟩, calibrated⟩, uncleared⟩

/-- After the end a filter has an input whenever its lane is enabled and ready. -/
theorem source_after {k : Nat} (from_end : d ≤ k) (to_end : k ≤ N) (ch : Channel) :
    ((outputAt isMaster targetBeats start inputs k).filterIn (inputs k) ch).sourceValid =
      ((outputAt isMaster targetBeats start inputs a).descriptor.mask ch && (inputs k).dacReady ch) := by
  have after := finished.after
  obtain ⟨-, audible⟩ := finished.unmuted (k := k) (by omega) to_end
  have idle : (outputAt isMaster targetBeats start inputs k).stream.dacValid
      ((outputAt isMaster targetBeats start inputs k).streamIn (inputs k)) ch = true := by
    have closed := finished.gate_closed (k := k) (by omega) to_end
    simp [DacStream.dacValid, streamIn, closed]
  simp only [filterIn, audible, idle, finished.frozen (k := k) (by omega) to_end, Bool.not_false, Bool.and_true]

theorem filter_lingers (ch : Channel) : Clocked.Lingers (a + 2) N 13
    (fun n => ((outputAt isMaster targetBeats start inputs n).filter ch).busy
      ((outputAt isMaster targetBeats start inputs n).filterIn (inputs n) ch) = true)
    (fun n => ((outputAt isMaster targetBeats start inputs n).filterIn (inputs n) ch).sourceValid = true) := by
  apply busy_lingers
  · intro n _ _
    rfl
  · intro n from_a to_end
    obtain ⟨uncleared, audible⟩ := finished.unmuted (k := n) (by omega) to_end
    change ((outputAt isMaster targetBeats start inputs n).clear (inputs n) ||
      (outputAt isMaster targetBeats start inputs n).outputMute (inputs n)) = false
    rw [uncleared, audible]
    rfl
  · exact fun n from_a to_end => finished.configured from_a to_end
  · exact tailCount_le (a + 2) ch

/-- The output is busy after the end as long as an enabled lane was ready. -/
theorem busy_after {m n : Nat} (from_end : d ≤ m) (before : m ≤ n) (recent : n ≤ m + 13) (to_end : n ≤ N)
    {ch : Channel} (enabled : (outputAt isMaster targetBeats start inputs a).descriptor.mask ch = true)
    (ready : (inputs m).dacReady ch = true) :
    (outputAt isMaster targetBeats start inputs n).outputBusy (inputs n) = true := by
  have after := finished.played
  obtain ⟨p, from_p, ends, -⟩ := finished.played
  rw [outputBusy, DacStream.anyLane_iff]
  refine ⟨ch, (finished.filter_lingers ch).holds m n (by omega) before recent to_end ?_⟩
  rw [finished.source_after from_end (by omega), enabled, ready]
  rfl

/-- Fourteen cycles in which no enabled lane is ready leave the output idle. -/
theorem idle_after {n : Nat} (from_end : d + 15 ≤ n) (to_end : n ≤ N)
    (unready : ∀ m, d + 2 ≤ m → m ≤ n → ∀ ch,
      (outputAt isMaster targetBeats start inputs a).descriptor.mask ch = true → (inputs m).dacReady ch = false) :
    (outputAt isMaster targetBeats start inputs n).outputBusy (inputs n) = false := by
  have after := finished.after
  rw [outputBusy, DacStream.anyLane_eq_false]
  intro ch
  refine eq_false_of_ne_true fun busy => ?_
  obtain ⟨m, before, recent, source⟩ := (finished.filter_lingers ch).ends n (by omega) to_end busy
  rw [finished.source_after (k := m) (by omega) (by omega), Bool.and_eq_true] at source
  exact Bool.noConfusion ((unready m (by omega) before ch source.1).symm.trans source.2)

end Finished

/-- A finished session is released, and stays so, if and only if its descriptor has no
    loop and no enabled lane is ready from two cycles after the end on. -/
theorem released_iff {a d N : Nat} (finished : Finished isMaster targetBeats start inputs a d N) :
    (∀ n, d + 16 ≤ n → n ≤ N → (outputAt isMaster targetBeats start inputs n).released (inputs n) = true) ↔
      (outputAt isMaster targetBeats start inputs a).descriptor.loopCount ≤ 1 ∧
      ∀ k, d + 2 ≤ k → k ≤ N → ∀ ch, (outputAt isMaster targetBeats start inputs a).descriptor.mask ch = true →
        (inputs k).dacReady ch = false := by
  have long := finished.long
  constructor
  · intro released
    have freed : ∀ n, d + 16 ≤ n → n ≤ N →
        (outputAt isMaster targetBeats start inputs n).session.beat.trigger.active = false ∧
        (outputAt isMaster targetBeats start inputs n).outputBusy (inputs n) = false := by
      intro n from_end to_end
      have free := released n from_end to_end
      simp only [SessionOutput.released, Bool.and_eq_true, Bool.not_eq_true'] at free
      exact free
    obtain ⟨inactive, -⟩ := freed (d + 16) (Nat.le_refl _) long
    refine ⟨BitVec.not_lt.mp fun loops => ?_, fun k from_end to_end ch enabled => eq_false_of_ne_true fun ready => ?_⟩
    · have active := finished.stays_active (k := d + 16) (by omega) long fun _ _ _ => .inl loops
      exact Bool.noConfusion (active.symm.trans inactive)
    · rcases Nat.eq_or_lt_of_le from_end with rfl | later
      -- ready in the first of these cycles: the filter is busy until the last in which the scheduler could be released
      · have active := finished.stays_active (k := d + 16) (by omega) long fun m from_k before =>
          .inr (finished.busy_after (m := d + 2) (by omega) from_k (by omega) (by omega) enabled ready)
        exact Bool.noConfusion (active.symm.trans inactive)
      · have busy := finished.busy_after (m := k) (n := max k (d + 16)) (by omega) (by omega) (by omega) (by omega)
          enabled ready
        exact Bool.noConfusion (busy.symm.trans (freed (max k (d + 16)) (by omega) (by omega)).2)
  · rintro ⟨once, unready⟩ n from_end to_end
    have idle : ∀ m, d + 15 ≤ m → m ≤ N →
        (outputAt isMaster targetBeats start inputs m).outputBusy (inputs m) = false := fun m later in_time =>
      finished.idle_after later in_time fun k from_k to_m => unready k from_k (by omega)
    have freed : (outputAt isMaster targetBeats start inputs (d + 16)).session.beat.trigger.active = false := by
      rw [finished.active_after (k := d + 15) (by omega) (by omega), idle (d + 15) (Nat.le_refl _) (by omega),
        decide_eq_false (BitVec.not_lt.mpr once), Bool.or_false, Bool.and_false]
    rw [SessionOutput.released, finished.stays_inactive (m := d + 16) (by omega) from_end to_end freed,
      idle n (by omega) to_end]
    rfl

/-! ## One beat, then idle -/

/-- A cycle in which nothing comes, every source is content and every lane is ready. -/
def still : OutputIn where
  beginDac := false
  commitDac := false
  playDac := false
  pauseDac := false
  stopDac := false
  abortDac := false
  descriptorValid := false
  descriptor := ⟨fun ch => ch = 0, 1, 1⟩
  prefetchDone := true
  fifoSafe := true
  axiError := false
  fifoValid := fun _ => true
  dacReady := fun _ => true
  arm := fun _ => false
  permitted := true
  fifoLoss := false
  controlAbort := false
  syncBypass := true
  syncReady := false
  externalValid := false
  external := ⟨true, false, false, 8, 0, 0⟩
  softwarePulse := false
  softwareIsExternal := false
  calibrated := true
  referenceReady := true
  phaseOffset := 0
  clipPulse := 0
  clearStatistics := false

/-- `BEGIN`, `COMMIT` of a single beat on one lane, and a trigger in cycle 8, which launches
    in cycle 40. -/
def oneBeat (n : Nat) : OutputIn :=
  { still with
    beginDac := n = 0
    commitDac := n = 1
    descriptorValid := n = 2
    externalValid := n = 8 }

/-- Every finished session is released sixteen cycles after its end, and stays so. -/
def ReleasedAfterDone (isMaster : Bool) (targetBeats : Nat) (start : Int) (inputs : Nat → OutputIn) : Prop :=
  ∀ a d N, Finished isMaster targetBeats start inputs a d N → ∀ n, d + 16 ≤ n → n ≤ N →
    (outputAt isMaster targetBeats start inputs n).released (inputs n) = true

theorem finished_of_fin {isMaster : Bool} {targetBeats : Nat} {start : Int} {inputs : Nat → OutputIn}
    {a d N : Nat}
    (accepted : (outputAt isMaster targetBeats start inputs (a + 1)).session.beat.trigger.configValid = true)
    (waits : (outputAt isMaster targetBeats start inputs a).session.controller.state = .waitTrigger)
    (calm : ∀ k : Fin (d + 1), a ≤ k.val →
      (outputAt isMaster targetBeats start inputs k).calm isMaster (inputs k) = true)
    (done : (outputAt isMaster targetBeats start inputs d).session.controller.state = .done) (after : a < d)
    (first : ∀ k : Fin d, a ≤ k.val →
      (outputAt isMaster targetBeats start inputs k).session.controller.state ≠ .done)
    (closed : ∀ k : Fin (N + 1), d ≤ k.val →
      (outputAt isMaster targetBeats start inputs k).session.controller.dacGate = false)
    (steady : ∀ k : Fin (N + 1), d ≤ k.val → (triggerInputs isMaster targetBeats start inputs k).steady = true)
    (kept : ∀ k : Fin (N + 1), d ≤ k.val → (inputs k).abortDac = false ∧ (inputs k).descriptorValid = false)
    (unoffered : ∀ k : Fin (N + 1), d ≤ k.val →
      (outputAt isMaster targetBeats start inputs k).session.offered isMaster
        (sessionInputs isMaster targetBeats start inputs k) = false)
    (long : d + 16 ≤ N) : Finished isMaster targetBeats start inputs a d N where
  accepted := accepted
  waits := waits
  calm k from_a to_done := calm ⟨k, by omega⟩ from_a
  done := done
  after := after
  first k from_a before := first ⟨k, before⟩ from_a
  closed k from_d to_end := closed ⟨k, by omega⟩ from_d
  steady k from_d to_end := steady ⟨k, by omega⟩ from_d
  kept k from_d to_end := kept ⟨k, by omega⟩ from_d
  unoffered k from_d to_end := unoffered ⟨k, by omega⟩ from_d
  long := long

theorem oneBeat_finished : Finished false 32 0 oneBeat 8 43 59 := by
  apply finished_of_fin <;> decide

/-- The single beat is played and the controller is done in cycle 43, yet in cycle 59 the
    scheduler is active, a filter is busy with idle beats, and no fault is latched. -/
theorem oneBeat_held :
    (outputAt false 32 0 oneBeat 59).session.beat.trigger.active = true ∧
      (outputAt false 32 0 oneBeat 59).outputBusy (oneBeat 59) = true ∧
      (outputAt false 32 0 oneBeat 59).session.beat.trigger.fault = false ∧
      ¬ ReleasedAfterDone false 32 0 oneBeat := by
  refine ⟨by decide +kernel, by decide +kernel, by decide +kernel, fun released => ?_⟩
  have free := released 8 43 59 oneBeat_finished 59 (Nat.le_refl _) (Nat.le_refl _)
  have held : (outputAt false 32 0 oneBeat 59).released (oneBeat 59) = false := by decide +kernel
  exact Bool.noConfusion (held.symm.trans free)

/-- The same session, the lane being ready until it is done and not after. -/
def oneBeatUnready (n : Nat) : OutputIn := { oneBeat n with dacReady := fun _ => n < 43 }

theorem released_iff_oneBeatUnready :
    (outputAt false 32 0 oneBeatUnready 59).released (oneBeatUnready 59) = true := by
  have finished : Finished false 32 0 oneBeatUnready 8 43 59 := by
    apply finished_of_fin <;> decide +kernel
  refine (released_iff finished).mpr ⟨by decide +kernel, fun k from_end _ ch _ => ?_⟩ 59 (Nat.le_refl _) (Nat.le_refl _)
  exact decide_eq_false (by omega)

end SessionOutput

end Xczu47dr.Tdc
