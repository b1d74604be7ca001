import Mathlib.Tactic.Common
import Mathlib.Tactic.SplitIfs
import Xczu47dr.Clocked.Machine

/-! # The playback controller

`waveform_playback_controller`: the session state of the DAC domain, which
commands, the trigger and the last beat of a pass move.
-/

namespace Xczu47dr.Playback

/-- `ST_IDLE` to `ST_ERROR`. -/
inductive SessionState where
  | idle
  | upload
  | ready
  | prefetch
  | waitTrigger
  | playing
  | draining
  | done
  | error
  deriving DecidableEq

structure ControllerIn where
  beginCmd : Bool
  commitCmd : Bool
  playCmd : Bool
  pauseCmd : Bool
  stopCmd : Bool
  abortCmd : Bool
  triggerEvent : Bool
  prefetchDone : Bool
  fifoSafe : Bool
  fifoEmpty : Bool
  axiError : Bool
  beatValid : Bool
  beatReady : Bool
  beatLast : Bool
  loopCount : BitVec 32
  deriving DecidableEq

/-- A command other than the end of an upload. -/
def ControllerIn.commanded (i : ControllerIn) : Bool :=
  i.beginCmd || i.playCmd || i.pauseCmd || i.stopCmd || i.abortCmd

/-- The registers of `waveform_playback_controller`. -/
structure PlaybackController where
  state : SessionState
  playPending : Bool
  loopRestart : Bool
  loopPosition : BitVec 32
  triggerSeenCount : BitVec 32
  triggerDroppedCount : BitVec 32
  triggerFireCount : BitVec 32
  deriving DecidableEq

namespace PlaybackController

def reset : PlaybackController where
  state := .idle
  playPending := false
  loopRestart := false
  loopPosition := 0
  triggerSeenCount := 0
  triggerDroppedCount := 0
  triggerFireCount := 0

variable (s : PlaybackController) (i : ControllerIn)

def dacGate : Bool := s.state = .playing

def streamFire : Bool := s.state = .playing && i.beatValid && i.beatReady

def activeFault : Bool :=
  (s.state = .prefetch || s.state = .waitTrigger || s.state = .playing || s.state = .draining) &&
    (i.axiError || (s.state = .playing && i.fifoEmpty) ||
      (s.state = .waitTrigger && (!i.fifoSafe || i.fifoEmpty)))

def triggerAdmission : Bool :=
  s.state = .waitTrigger && i.triggerEvent && !i.abortCmd && !s.activeFault i && !i.beginCmd && !i.stopCmd &&
    !i.pauseCmd

/-- `STOP` and `PAUSE` act on a session that has been uploaded. -/
def haltable : Bool :=
  s.state = .ready || s.state = .prefetch || s.state = .waitTrigger || s.state = .playing ||
    s.state = .draining || s.state = .done

def countTrigger : PlaybackController :=
  if i.triggerEvent then
    if s.triggerAdmission i then
      { s with
        triggerSeenCount := s.triggerSeenCount + 1
        triggerFireCount := s.triggerFireCount + 1 }
    else
      { s with
        triggerSeenCount := s.triggerSeenCount + 1
        triggerDroppedCount := s.triggerDroppedCount + 1 }
  else s

/-- `begin_cmd`, `stop_cmd`, `pause_cmd` and `abort_cmd` leave the session at its start. -/
def settle (t : PlaybackController) (state : SessionState) : PlaybackController :=
  { t with state := state, playPending := false, loopPosition := 0 }

/-- The case of each state, no command of higher priority being there. -/
def advance (t : PlaybackController) : PlaybackController :=
  match s.state with
  | .upload => if i.commitCmd then t.settle .prefetch else t
  | .ready | .done =>
    if i.playCmd then { t with state := .prefetch, playPending := true, loopPosition := 0, loopRestart := true }
    else t
  | .prefetch =>
    if i.prefetchDone && i.fifoSafe then
      { t with
        state := if s.playPending || i.playCmd then .playing else .waitTrigger
        playPending := false }
    else if i.playCmd then { t with playPending := true }
    else t
  | .waitTrigger =>
    if s.triggerAdmission i || i.playCmd then { t with state := .playing, playPending := false } else t
  | .playing =>
    if s.streamFire i && i.beatLast then
      if 1 < i.loopCount ∧ s.loopPosition + 1 < i.loopCount then
        { t with
          state := .prefetch
          playPending := true
          loopPosition := s.loopPosition + 1
          loopRestart := true }
      else { t with state := .draining, loopPosition := 0 }
    else t
  | .draining => { t with state := .done }
  | .idle | .error => t

def step : PlaybackController :=
  let t := { s.countTrigger i with loopRestart := false }
  if i.abortCmd then t.settle .idle
  else if s.activeFault i then { t with state := .error, playPending := false }
  else if i.beginCmd then t.settle .upload
  else if i.stopCmd && decide (s.state = .upload) then t.settle .idle
  else if (i.stopCmd || i.pauseCmd) && s.haltable then t.settle .ready
  else s.advance i t

/-! ## Cycles without a command and without a fault -/

variable {s i}

/-- Without a command and without a fault the state takes its own course. -/
theorem step_calm (calm : i.commanded = false) (sound : s.activeFault i = false) :
    s.step i = s.advance i { s.countTrigger i with loopRestart := false } := by
  simp only [ControllerIn.commanded, Bool.or_eq_false_iff] at calm
  obtain ⟨⟨⟨⟨begins, -⟩, pauses⟩, stops⟩, aborts⟩ := calm
  simp [step, begins, pauses, stops, aborts, sound]

theorem triggerAdmission_calm (waits : s.state = .waitTrigger) (calm : i.commanded = false)
    (sound : s.activeFault i = false) : s.triggerAdmission i = i.triggerEvent := by
  simp only [ControllerIn.commanded, Bool.or_eq_false_iff] at calm
  obtain ⟨⟨⟨⟨begins, -⟩, pauses⟩, stops⟩, aborts⟩ := calm
  simp [triggerAdmission, waits, begins, pauses, stops, aborts, sound]

theorem countTrigger_state : (s.countTrigger i).state = s.state := by
  unfold countTrigger
  split_ifs <;> rfl

/-- A waiting session starts to play at the trigger, and not before. -/
theorem waiting_step (waits : s.state = .waitTrigger) (calm : i.commanded = false)
    (sound : s.activeFault i = false) :
    (s.step i).state = if i.triggerEvent then .playing else .waitTrigger := by
  have unplayed : i.playCmd = false := by
    simp only [ControllerIn.commanded, Bool.or_eq_false_iff] at calm
    exact calm.1.1.1.2
  rw [step_calm calm sound, advance, waits]
  dsimp only
  rw [triggerAdmission_calm waits calm sound, unplayed, Bool.or_false]
  split_ifs
  · rfl
  · exact countTrigger_state.trans waits

def course (s : PlaybackController) (i : ControllerIn) : SessionState :=
  match s.state with
  | .upload => if i.commitCmd then .prefetch else .upload
  | .ready => if i.playCmd then .prefetch else .ready
  | .done => if i.playCmd then .prefetch else .done
  | .prefetch =>
    if i.prefetchDone && i.fifoSafe then if s.playPending || i.playCmd then .playing else .waitTrigger
    else .prefetch
  | .waitTrigger => if s.triggerAdmission i || i.playCmd then .playing else .waitTrigger
  | .playing =>
    if s.streamFire i && i.beatLast then
      if 1 < i.loopCount ∧ s.loopPosition + 1 < i.loopCount then .prefetch else .draining
    else .playing
  | .draining => .done
  | .idle => .idle
  | .error => .error

theorem advance_state {t : PlaybackController} (same : t.state = s.state) :
    (s.advance i t).state = s.course i := by
  unfold advance course
  cases state : s.state <;> dsimp only <;> try split_ifs
  all_goals first
    | rfl
    | exact same.trans state

/-- What no command and no fault leads to has been reached by itself. -/
theorem course_of_step {state : SessionState} (to_state : (s.step i).state = state)
    (own : state ∉ [.idle, .upload, .ready, .error]) : s.course i = state := by
  rw [← advance_state (i := i) (t := { s.countTrigger i with loopRestart := false }) countTrigger_state]
  unfold step at to_state
  dsimp only at to_state
  split_ifs at to_state
  · exact absurd to_state fun same => own (by simp [← same, settle])
  · exact absurd to_state fun same => own (by simp [← same])
  · exact absurd to_state fun same => own (by simp [← same, settle])
  · exact absurd to_state fun same => own (by simp [← same, settle])
  · exact absurd to_state fun same => own (by simp [← same, settle])
  · exact to_state

/-- What is done after a cycle was done before it, or was draining. -/
theorem done_of_step (done : (s.step i).state = .done) : s.state = .done ∨ s.state = .draining := by
  have own := course_of_step done (by simp)
  rw [course] at own
  cases state : s.state <;> rw [state] at own <;> dsimp only at own <;> try split_ifs at own
  all_goals simp_all

/-- What drains after a cycle played before it. -/
theorem draining_of_step (drains : (s.step i).state = .draining) : s.state = .playing := by
  have own := course_of_step drains (by simp)
  rw [course] at own
  cases state : s.state <;> rw [state] at own <;> dsimp only at own <;> try split_ifs at own
  all_goals simp_all

/-- What waits after a cycle waited before it, or was filling. -/
theorem waiting_of_step (waits : (s.step i).state = .waitTrigger) : s.state = .waitTrigger ∨ s.state = .prefetch := by
  have own := course_of_step waits (by simp)
  rw [course] at own
  cases state : s.state <;> rw [state] at own <;> dsimp only at own <;> try split_ifs at own
  all_goals simp_all

/-- What plays after a cycle played before it, waited or was filling. -/
theorem playing_of_step (plays : (s.step i).state = .playing) :
    s.state = .playing ∨ s.state = .waitTrigger ∨ s.state = .prefetch := by
  have own := course_of_step plays (by simp)
  rw [course] at own
  cases state : s.state <;> rw [state] at own <;> dsimp only at own <;> try split_ifs at own
  all_goals simp_all

end PlaybackController

end Xczu47dr.Playback
