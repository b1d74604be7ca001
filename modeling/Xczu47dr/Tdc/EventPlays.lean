import Xczu47dr.Tdc.Session

/-! # Every accepted event plays

An event accepted while the controller waits for its trigger finds it waiting at
the launch.  The admission level is also high while a session plays and after it
is done, and an event accepted then has a launch that nothing answers.
-/

namespace Xczu47dr.Tdc

open Xczu47dr.Playback

namespace Session

variable {isMaster : Bool} {targetBeats : Nat} {s : Session} {i : SessionIn}

/-- No command, no fault of the session and no clear, and the scheduler is fit. -/
def undisturbed (isMaster : Bool) (s : Session) (i : SessionIn) : Bool :=
  !i.controller.commanded && !s.controller.activeFault (s.controllerIn i) && (s.triggerIn isMaster i).steady

/-- A good request that meets an open admission and an idle scheduler. -/
def offered (isMaster : Bool) (s : Session) (i : SessionIn) : Bool :=
  s.admissionOpen isMaster i && requestValid i && requestGood i && !s.beat.trigger.active &&
    !s.beat.trigger.pending

/-- Nothing is offered but to a controller that waits for its trigger and has no launch
    under way. -/
def OfferedInTime (isMaster : Bool) (s : Session) (i : SessionIn) : Prop :=
  s.offered isMaster i = true → s.controller.state = .waitTrigger ∧ s.beat.trigger.launch = false

instance : Decidable (OfferedInTime isMaster s i) := inferInstanceAs (Decidable (_ → _))

theorem accepted_offered (accepted : s.beat.accepts targetBeats (s.triggerIn isMaster i) = true) :
    s.offered isMaster i = true := by
  obtain ⟨-, valid, admitted, -⟩ := CompensatingTrigger.accepts_iff.mp accepted
  obtain ⟨open_, idle, resting, good, -⟩ := CompensatingTrigger.rejects_eq_false.mp admitted
  change s.admissionOpen isMaster i = true at open_
  change requestValid i = true at valid
  change requestGood i = true at good
  simp [offered, open_, valid, good, idle, resting]

theorem undisturbed_parts (calm : s.undisturbed isMaster i = true) :
    (s.controllerIn i).commanded = false ∧ s.controller.activeFault (s.controllerIn i) = false ∧
      (s.triggerIn isMaster i).steady = true := by
  simp only [undisturbed, Bool.and_eq_true, Bool.not_eq_true'] at calm
  exact ⟨calm.1.1, calm.1.2, calm.2⟩

section Runs

variable (isMaster : Bool) (targetBeats : Nat) (start : Int) (inputs : Nat → SessionIn)

/-- The session at the start of cycle `n`. -/
def stateAt (n : Nat) : Session := (session isMaster targetBeats start).trace inputs n

/-- What the scheduler samples in cycle `n`. -/
def offers (n : Nat) : TriggerIn := (stateAt isMaster targetBeats start inputs n).triggerIn isMaster (inputs n)

/-- The scheduler accepts an event in cycle `n`, and counts it. -/
def Accepted (n : Nat) : Prop := (stateAt isMaster targetBeats start inputs (n + 1)).beat.trigger.configValid = true

/-- Every accepted event finds the controller waiting for it and has its launch beat;
    left alone, the controller waits until then and starts to play at the launch. -/
def EveryEventPlays : Prop :=
  ∀ n, Accepted isMaster targetBeats start inputs n →
    (stateAt isMaster targetBeats start inputs n).controller.state = .waitTrigger ∧
    ∃ j, n + 3 ≤ j ∧
      (stateAt isMaster targetBeats start inputs j).beat.epoch =
        (stateAt isMaster targetBeats start inputs (n + 1)).beat.trigger.deadline ∧
      (∀ l, n < l → l < j → (stateAt isMaster targetBeats start inputs l).beat.epoch ≠
        (stateAt isMaster targetBeats start inputs (n + 1)).beat.trigger.deadline) ∧
      ((∀ k, n ≤ k → k ≤ j → (stateAt isMaster targetBeats start inputs k).undisturbed isMaster (inputs k) = true) →
        (stateAt isMaster targetBeats start inputs j).beat.trigger.launch = true ∧
        (∀ k, n ≤ k → k ≤ j → (stateAt isMaster targetBeats start inputs k).controller.state = .waitTrigger) ∧
        (stateAt isMaster targetBeats start inputs (j + 1)).controller.state = .playing)

variable {isMaster targetBeats start inputs}

theorem stateAt_succ (n : Nat) : stateAt isMaster targetBeats start inputs (n + 1) =
    (stateAt isMaster targetBeats start inputs n).step isMaster (inputs n) targetBeats := rfl

/-- The scheduler in the session runs as it does alone. -/
theorem beat_at (n : Nat) : (stateAt isMaster targetBeats start inputs n).beat =
    BeatTrigger.stateAt targetBeats start (offers isMaster targetBeats start inputs) n := by
  induction n with
  | zero => rfl
  | succ n ih =>
    rw [stateAt_succ, BeatTrigger.stateAt_succ, ← ih]
    rfl

theorem accepted_alone (n : Nat) : Accepted isMaster targetBeats start inputs n ↔
    BeatTrigger.Accepted targetBeats start (offers isMaster targetBeats start inputs) n := by
  rw [Accepted, beat_at]
  rfl

theorem accepted_iff (n : Nat) : Accepted isMaster targetBeats start inputs n ↔
    (stateAt isMaster targetBeats start inputs n).beat.accepts targetBeats
      ((stateAt isMaster targetBeats start inputs n).triggerIn isMaster (inputs n)) = true := by
  rw [accepted_alone, BeatTrigger.accepted_iff, ← beat_at]
  rfl

/-- Left alone, a controller that waits without a launch under way waits until the launch. -/
theorem waits_for_launch {n j : Nat}
    (waits : (stateAt isMaster targetBeats start inputs n).controller.state = .waitTrigger)
    (resting : (stateAt isMaster targetBeats start inputs n).beat.trigger.launch = false)
    (calm : ∀ k, n ≤ k → k ≤ j → (stateAt isMaster targetBeats start inputs k).undisturbed isMaster (inputs k) = true)
    (launches : ∀ k, n < k → k ≤ j →
      ((stateAt isMaster targetBeats start inputs k).beat.trigger.launch = true ↔ k = j))
    (k : Nat) (later : n ≤ k) (at_most : k ≤ j) :
    (stateAt isMaster targetBeats start inputs k).controller.state = .waitTrigger := by
  induction k, later using Nat.le_induction with
  | base => exact waits
  | succ k later ih =>
    obtain ⟨uncommanded, sound, -⟩ := undisturbed_parts (calm k later (by omega))
    have unlaunched : (stateAt isMaster targetBeats start inputs k).beat.trigger.launch = false := by
      rcases Nat.eq_or_lt_of_le later with rfl | after
      · exact resting
      · exact eq_false_of_ne_true fun launch => absurd ((launches k after (by omega)).mp launch) (by omega)
    have stays := PlaybackController.waiting_step (ih (by omega)) uncommanded sound
    change _ = if (stateAt isMaster targetBeats start inputs k).beat.trigger.launch then _ else _ at stays
    rw [unlaunched] at stays
    exact stays

end Runs

/-- If events are offered only to a waiting controller, every accepted event plays. -/
theorem every_event_plays (isMaster : Bool) (targetBeats : Nat) (start : Int) (inputs : Nat → SessionIn)
    (in_time : ∀ n, (stateAt isMaster targetBeats start inputs n).OfferedInTime isMaster (inputs n)) :
    EveryEventPlays isMaster targetBeats start inputs := by
  intro n accepted
  obtain ⟨waits, resting⟩ := in_time n (accepted_offered ((accepted_iff n).mp accepted))
  obtain ⟨j, later, reached, first, launches⟩ := BeatTrigger.accepted_launch ((accepted_alone n).mp accepted)
  rw [← beat_at, ← beat_at] at reached
  refine ⟨waits, j, later, reached, fun l after before => ?_, fun calm => ?_⟩
  · rw [beat_at, beat_at]
    exact first l after before
  have launch_iff : ∀ k, n < k → k ≤ j →
      ((stateAt isMaster targetBeats start inputs k).beat.trigger.launch = true ↔ k = j) := by
    intro k after at_most
    rw [beat_at]
    exact launches k after at_most fun l from_n before => (undisturbed_parts (calm l (by omega) (by omega))).2.2
  have launch := (launch_iff j (by omega) (Nat.le_refl j)).mpr rfl
  have waiting := waits_for_launch waits resting calm launch_iff
  refine ⟨launch, waiting, ?_⟩
  obtain ⟨uncommanded, sound, -⟩ := undisturbed_parts (calm j (by omega) (Nat.le_refl j))
  have plays := PlaybackController.waiting_step (waiting j (by omega) (Nat.le_refl j)) uncommanded sound
  change _ = if (stateAt isMaster targetBeats start inputs j).beat.trigger.launch then _ else _ at plays
  rw [launch] at plays
  exact plays

/-! ## An event after a session -/

/-- A cycle in which nothing comes and every source is content. -/
def still : SessionIn where
  controller := ⟨false, false, false, false, false, false, false, true, true, false, false, false, true, false, 1⟩
  controlAbort := false
  syncBypass := true
  syncReady := false
  externalValid := false
  external := default
  softwarePulse := false
  softwareIsExternal := false
  calibrated := true
  referenceReady := true
  runtimeFault := false
  outputBusy := false
  phaseOffset := 0
  clipPulse := 0
  clearStatistics := false

/-- `BEGIN`, `COMMIT` and `PLAY`, one beat in cycle 4, and a trigger in cycle 8. -/
def triggerAfterDone (n : Nat) : SessionIn :=
  { still with
    controller := { still.controller with
      beginCmd := n = 0, commitCmd := n = 1, playCmd := n = 2, beatValid := n = 4, beatLast := n = 4 }
    externalValid := n = 8
    external := ⟨true, false, false, 8, 0, 0⟩ }

/-- The session was played by command and is done when the trigger is accepted; its launch
    comes in cycle 40 and is dropped, and the scheduler stays active. -/
theorem triggerAfterDone_lost :
    (stateAt false 32 0 triggerAfterDone 8).controller.state = .done ∧
      (stateAt false 32 0 triggerAfterDone 40).beat.trigger.launch = true ∧
      (stateAt false 32 0 triggerAfterDone 41).controller.state = .done ∧
      (stateAt false 32 0 triggerAfterDone 41).beat.trigger.active = true ∧
      ¬ EveryEventPlays false 32 0 triggerAfterDone := by
  have accepted : Accepted false 32 0 triggerAfterDone 8 := by
    unfold Accepted
    decide +kernel
  have done : (stateAt false 32 0 triggerAfterDone 8).controller.state = .done := by decide +kernel
  refine ⟨done, by decide +kernel, by decide +kernel, by decide +kernel, fun plays => ?_⟩
  have waits := (plays 8 accepted).1
  rw [done] at waits
  exact absurd waits (by decide)

/-! ## A trigger that plays -/

/-- `BEGIN` and `COMMIT`, and a trigger in cycle 8. -/
def triggerInTime (n : Nat) : SessionIn :=
  { still with
    controller := { still.controller with beginCmd := n = 0, commitCmd := n = 1 }
    externalValid := n = 8
    external := ⟨true, false, false, 8, 0, 0⟩ }

theorem every_event_plays_triggerInTime :
    (∀ n, (stateAt false 32 0 triggerInTime n).OfferedInTime false (triggerInTime n)) ∧
      (stateAt false 32 0 triggerInTime 40).beat.trigger.launch = true ∧
      (stateAt false 32 0 triggerInTime 41).controller.state = .playing := by
  have in_time : ∀ n, (stateAt false 32 0 triggerInTime n).OfferedInTime false (triggerInTime n) := by
    intro n offered
    obtain rfl : n = 8 := by
      simp only [Session.offered, requestValid, localRequest, triggerInTime, still, Bool.false_and,
        Bool.or_false, Bool.and_eq_true, decide_eq_true_eq] at offered
      exact offered.1.1.1.2
    exact ⟨by decide, by decide⟩
  have accepted : Accepted false 32 0 triggerInTime 8 := by
    unfold Accepted
    decide
  obtain ⟨-, j, later, reached, first, plays⟩ :=
    every_event_plays false 32 0 triggerInTime in_time 8 accepted
  have soon : ¬ 40 < j := fun late => first 40 (by decide) late (by decide)
  have calm : ∀ k : Fin 41, 8 ≤ k.val →
      (stateAt false 32 0 triggerInTime k).undisturbed false (triggerInTime k) = true := by
    decide
  obtain ⟨launch, -, playing⟩ := plays fun k from_8 at_most => calm ⟨k, by omega⟩ from_8
  have unlaunched : ∀ k : Fin 40, (stateAt false 32 0 triggerInTime k).beat.trigger.launch = false := by
    decide
  obtain rfl : j = 40 := by
    by_contra early
    exact Bool.noConfusion ((unlaunched ⟨j, by omega⟩).symm.trans launch)
  exact ⟨in_time, launch, playing⟩

end Session

end Xczu47dr.Tdc
