import Mathlib.Order.Nat
import Mathlib.Data.Nat.Count
import Xczu47dr.Clocked.Progress
import Xczu47dr.Playback.PlaybackController

/-! # The passes of a session

A session that has been armed and is left alone plays its descriptor as often as
the loop count says, once if it says nothing, and waits for a trigger only before
the first pass.
-/

namespace Xczu47dr.Playback

namespace PlaybackController

/-- Neither `BEGIN`, `STOP`, `PAUSE` or `ABORT` nor a fault. -/
structure Uninterrupted (s : PlaybackController) (i : ControllerIn) : Prop where
  begins : i.beginCmd = false
  pauses : i.pauseCmd = false
  stops : i.stopCmd = false
  aborts : i.abortCmd = false
  sound : s.activeFault i = false

/-- `COMMIT` and `PLAY` arm a session that is not running. -/
structure Arms (s : PlaybackController) (i : ControllerIn) : Prop where
  rests : s.state = .upload ∨ s.state = .ready ∨ s.state = .done
  prefetches : (s.step i).state = .prefetch

variable {s : PlaybackController} {i : ControllerIn}

theorem Uninterrupted.step (free : Uninterrupted s i) :
    s.step i = s.advance i { s.countTrigger i with loopRestart := false } := by
  unfold PlaybackController.step
  simp only [free.aborts, free.sound, free.begins, free.stops, free.pauses, Bool.or_self, Bool.false_and]
  rfl

theorem Uninterrupted.step_state (free : Uninterrupted s i) : (s.step i).state = s.course i := by
  rw [free.step]
  exact advance_state countTrigger_state

theorem countTrigger_loopPosition : (s.countTrigger i).loopPosition = s.loopPosition := by
  unfold countTrigger
  split_ifs <;> rfl

theorem countTrigger_playPending : (s.countTrigger i).playPending = s.playPending := by
  unfold countTrigger
  split_ifs <;> rfl

/-- No command and no fault leads to `PREFETCH`. -/
theorem step_of_prefetch (prefetches : (s.step i).state = .prefetch) :
    s.step i = s.advance i { s.countTrigger i with loopRestart := false } := by
  unfold PlaybackController.step at prefetches ⊢
  dsimp only at prefetches ⊢
  by_cases aborts : i.abortCmd = true
  · rw [if_pos aborts] at prefetches
    cases prefetches
  by_cases fault : s.activeFault i = true
  · rw [if_neg aborts, if_pos fault] at prefetches
    cases prefetches
  by_cases begins : i.beginCmd = true
  · rw [if_neg aborts, if_neg fault, if_pos begins] at prefetches
    cases prefetches
  by_cases stops : (i.stopCmd && decide (s.state = .upload)) = true
  · rw [if_neg aborts, if_neg fault, if_neg begins, if_pos stops] at prefetches
    cases prefetches
  by_cases halts : ((i.stopCmd || i.pauseCmd) && s.haltable) = true
  · rw [if_neg aborts, if_neg fault, if_neg begins, if_neg stops, if_pos halts] at prefetches
    cases prefetches
  rw [if_neg aborts, if_neg fault, if_neg begins, if_neg stops, if_neg halts]

theorem advance_from_rest {t : PlaybackController} (same : t.state = s.state)
    (rests : s.state = .upload ∨ s.state = .ready ∨ s.state = .done)
    (prefetches : (s.advance i t).state = .prefetch) : (s.advance i t).loopPosition = 0 := by
  unfold advance at prefetches ⊢
  rcases rests with state | state | state
  · simp only [state] at same prefetches ⊢
    split_ifs at prefetches ⊢
    · rfl
    · exact nomatch same.symm.trans prefetches
  · simp only [state] at same prefetches ⊢
    split_ifs at prefetches ⊢
    · rfl
    · exact nomatch same.symm.trans prefetches
  · simp only [state] at same prefetches ⊢
    split_ifs at prefetches ⊢
    · rfl
    · exact nomatch same.symm.trans prefetches

theorem Arms.loopPosition (arms : Arms s i) : (s.step i).loopPosition = 0 := by
  have advances := step_of_prefetch arms.prefetches
  have prefetches := arms.prefetches
  rw [advances] at prefetches ⊢
  exact advance_from_rest countTrigger_state arms.rests prefetches

/-! ## The count of the passes -/

/-- How often the descriptor is to be played. -/
def passes (loopCount : BitVec 32) : Nat := max 1 loopCount.toNat

theorem one_le_passes (loopCount : BitVec 32) : 1 ≤ passes loopCount := Nat.le_max_left _ _

/-- The passes begun and ended and the refills asked for, by the state and the loop position. -/
def Counted (s : PlaybackController) (total begun ended restarts : Nat) : Prop :=
  let position := s.loopPosition.toNat
  match s.state with
  | .prefetch => position < total ∧ begun = position ∧ ended = position ∧ restarts = position ∧
      (0 < position → s.playPending = true)
  | .waitTrigger => position = 0 ∧ begun = 0 ∧ ended = 0 ∧ restarts = 0
  | .playing => position < total ∧ begun = position + 1 ∧ ended = position ∧ restarts = position
  | .draining | .done => position = 0 ∧ begun = total ∧ ended = total ∧ restarts = total - 1
  | .idle | .upload | .ready | .error => False

def beginsPass (s : PlaybackController) (i : ControllerIn) : Bool :=
  s.state ≠ .playing && (s.step i).state = .playing

def endsPass (s : PlaybackController) (i : ControllerIn) : Bool := s.streamFire i && i.beatLast

theorem loops_iff {position loopCount : BitVec 32} (within : position.toNat < passes loopCount) :
    (1 < loopCount ∧ position + 1 < loopCount) ↔ position.toNat + 1 < passes loopCount := by
  unfold passes at within ⊢
  have bounded := loopCount.isLt
  rw [BitVec.lt_def, BitVec.lt_def, BitVec.toNat_add]
  simp only [BitVec.reduceToNat]
  omega

theorem succ_lt {position loopCount : BitVec 32} (next : position.toNat + 1 < passes loopCount) :
    position.toNat + 1 < 2 ^ 32 := by
  unfold passes at next
  have bounded := loopCount.isLt
  omega

theorem streamFire_of_ne (rests : s.state ≠ .playing) : s.streamFire i = false := by
  simp [streamFire, rests]

theorem Counted.step {begun ended restarts : Nat} (counted : Counted s (passes i.loopCount) begun ended restarts)
    (free : Uninterrupted s i) (running : s.state ≠ .done) :
    Counted (s.step i) (passes i.loopCount) (begun + (s.beginsPass i).toNat) (ended + (s.endsPass i).toNat)
      (restarts + (s.step i).loopRestart.toNat) := by
  have position : ({ s.countTrigger i with loopRestart := false } : PlaybackController).loopPosition = s.loopPosition :=
    countTrigger_loopPosition
  have pending : ({ s.countTrigger i with loopRestart := false } : PlaybackController).playPending = s.playPending :=
    countTrigger_playPending
  have quiet : ({ s.countTrigger i with loopRestart := false } : PlaybackController).loopRestart = false := rfl
  have same : ({ s.countTrigger i with loopRestart := false } : PlaybackController).state = s.state :=
    countTrigger_state
  unfold beginsPass endsPass
  rw [free.step]
  generalize { s.countTrigger i with loopRestart := false } = t at position pending quiet same
  unfold advance
  cases state : s.state with
  | prefetch =>
    simp only [Counted, state] at counted
    obtain ⟨within, rfl, rfl, rfl, continues⟩ := counted
    rw [state] at same
    have idle : s.streamFire i = false := streamFire_of_ne (by rw [state]; nofun)
    by_cases filled : (i.prefetchDone && i.fifoSafe) = true
    · by_cases plays : (s.playPending || i.playCmd) = true
      · simp [Counted, idle, filled, plays, position, quiet, within]
      · -- no refill is under way, which would play by itself
        have first : s.loopPosition.toNat = 0 := by
          by_contra later
          exact plays (by simp [continues (Nat.pos_of_ne_zero later)])
        simp [Counted, idle, filled, plays, position, quiet, first]
    · by_cases asked : i.playCmd = true
      · simp [Counted, idle, filled, asked, position, quiet, same, within]
      · simpa [Counted, idle, filled, asked, position, quiet, same, within, pending] using continues
  | waitTrigger =>
    simp only [Counted, state] at counted
    obtain ⟨first, rfl, rfl, rfl⟩ := counted
    rw [state] at same
    have idle : s.streamFire i = false := streamFire_of_ne (by rw [state]; nofun)
    have total := one_le_passes i.loopCount
    by_cases plays : (s.triggerAdmission i || i.playCmd) = true
    · simp only [plays, if_pos]
      simp [Counted, idle, position, quiet, first]
      omega
    · simp [Counted, idle, plays, position, quiet, same, first]
  | playing =>
    simp only [Counted, state] at counted
    obtain ⟨within, rfl, rfl, rfl⟩ := counted
    rw [state] at same
    by_cases ends : (s.streamFire i && i.beatLast) = true
    · by_cases again : s.loopPosition.toNat + 1 < passes i.loopCount
      · have loops := (loops_iff within).mpr again
        have fits : (s.loopPosition.toNat + 1) % 0x100000000 = s.loopPosition.toNat + 1 :=
          Nat.mod_eq_of_lt (succ_lt again)
        simp only [ends, if_pos loops, if_true]
        simp [Counted, fits, again]
      · have stops : ¬ (1 < i.loopCount ∧ s.loopPosition + 1 < i.loopCount) :=
          fun loops => again ((loops_iff within).mp loops)
        simp only [ends, if_neg stops, if_true]
        simp [Counted, quiet]
        omega
    · simp [Counted, ends, position, quiet, same, within]
  | draining =>
    simp only [Counted, state] at counted
    obtain ⟨first, rfl, rfl, rfl⟩ := counted
    have idle : s.streamFire i = false := streamFire_of_ne (by rw [state]; nofun)
    simp [Counted, idle, position, quiet, first]
  | done => exact absurd state running
  | idle | upload | ready | error => simp only [Counted, state] at counted

/-! ## Runs -/

/-- The controller, from the state `s` on. -/
def playback (s : PlaybackController) : Clocked.Machine ControllerIn PlaybackController where
  reset := s
  step := step

section Runs

variable (s : PlaybackController) (inputs : Nat → ControllerIn)

def stateAt (n : Nat) : PlaybackController := (playback s).trace inputs n

/-- The session has not been done before cycle `n`. -/
def Ongoing (n : Nat) : Prop := ∀ k < n, (stateAt s inputs k).state ≠ .done

/-- The passes begun and ended and the refills asked for in the first `n` cycles -/
def begun (n : Nat) : Nat := Nat.count (fun k => (stateAt s inputs k).beginsPass (inputs k)) n

def ended (n : Nat) : Nat := Nat.count (fun k => (stateAt s inputs k).endsPass (inputs k)) n

def restarts (n : Nat) : Nat := Nat.count (fun k => (stateAt s inputs (k + 1)).loopRestart) n

def Due (state : SessionState) (i : ControllerIn) : Prop :=
  match state with
  | .prefetch => i.prefetchDone = true ∧ i.fifoSafe = true
  | .waitTrigger => i.triggerEvent = true ∨ i.playCmd = true
  | .playing => i.beatValid = true ∧ i.beatReady = true ∧ i.beatLast = true
  | _ => True

def Served : Prop := ∀ state n, ∃ k, n ≤ k ∧ ((stateAt s inputs k).state = state → Due state (inputs k))

/-- A session that plays its descriptor `total` times. -/
structure Plays (total : Nat) : Prop where
  states : ∀ n, Ongoing s inputs n → (stateAt s inputs n).state = .prefetch ∨
    (stateAt s inputs n).state = .waitTrigger ∨ (stateAt s inputs n).state = .playing ∨
    (stateAt s inputs n).state = .draining ∨ (stateAt s inputs n).state = .done
  bounded : ∀ n, Ongoing s inputs n → (stateAt s inputs n).loopPosition.toNat < total
  alternate : ∀ n, Ongoing s inputs n →
    begun s inputs n = ended s inputs n + if (stateAt s inputs n).state = .playing then 1 else 0
  first : ∀ n, Ongoing s inputs n → (stateAt s inputs n).state = .waitTrigger → begun s inputs n = 0
  refills : ∀ n, Ongoing s inputs n → restarts s inputs n = min (ended s inputs n) (total - 1)
  finished : ∀ n, Ongoing s inputs n → (stateAt s inputs n).state = .done →
    begun s inputs n = total ∧ ended s inputs n = total ∧ restarts s inputs n = total - 1 ∧
      ∃ m, n = m + 1 ∧ (stateAt s inputs m).state = .draining
  finishes : Served s inputs → ∃ n, Ongoing s inputs n ∧ (stateAt s inputs n).state = .done

variable {s inputs} {loopCount : BitVec 32}

theorem stateAt_succ (n : Nat) : stateAt s inputs (n + 1) = (stateAt s inputs n).step (inputs n) := rfl

theorem Ongoing.succ {n : Nat} (ongoing : Ongoing s inputs n) (running : (stateAt s inputs n).state ≠ .done) :
    Ongoing s inputs (n + 1) := by
  intro k before
  rcases Nat.lt_succ_iff_lt_or_eq.mp before with earlier | rfl
  · exact ongoing k earlier
  · exact running

theorem Ongoing.before {n m : Nat} (ongoing : Ongoing s inputs n) (earlier : m ≤ n) : Ongoing s inputs m :=
  fun k before => ongoing k (by omega)

/-- The session keeps its loop count and is left alone until it is done. -/
def LeftAlone (s : PlaybackController) (inputs : Nat → ControllerIn) (loopCount : BitVec 32) : Prop :=
  ∀ n, Ongoing s inputs (n + 1) → Uninterrupted (stateAt s inputs n) (inputs n) ∧ (inputs n).loopCount = loopCount

theorem counted_at (state : s.state = .prefetch) (position : s.loopPosition = 0)
    (alone : LeftAlone s inputs loopCount) (n : Nat) (ongoing : Ongoing s inputs n) :
    Counted (stateAt s inputs n) (passes loopCount) (begun s inputs n) (ended s inputs n) (restarts s inputs n) := by
  induction n with
  | zero =>
    have total := one_le_passes loopCount
    change Counted s _ 0 0 0
    simp only [Counted, state, position]
    exact ⟨total, rfl, rfl, rfl, fun later => absurd later (Nat.lt_irrefl 0)⟩
  | succ n ih =>
    obtain ⟨free, rfl⟩ := alone n ongoing
    have next := (ih (ongoing.before (Nat.le_succ n))).step free (ongoing n (Nat.lt_succ_self n))
    have count (b : Bool) : b.toNat = if b = true then 1 else 0 := by cases b <;> rfl
    rw [begun, ended, restarts, Nat.count_succ, Nat.count_succ, Nat.count_succ, ← count, ← count, ← count]
    exact next

end Runs

/-- How far the session still is from its end. -/
def distance (total : Nat) (s : PlaybackController) : Nat :=
  match s.state with
  | .prefetch => 4 * (total - s.loopPosition.toNat) + 3
  | .waitTrigger => 4 * (total - s.loopPosition.toNat) + 2
  | .playing => 4 * (total - s.loopPosition.toNat) + 1
  | .draining => 1
  | _ => 0

/-- A cycle takes the session on, or the session waits for what is not there. -/
theorem distance_step {begun ended restarts : Nat}
    (counted : Counted s (passes i.loopCount) begun ended restarts) (free : Uninterrupted s i)
    (running : s.state ≠ .done) :
    distance (passes i.loopCount) (s.step i) < distance (passes i.loopCount) s ∨
      distance (passes i.loopCount) (s.step i) = distance (passes i.loopCount) s ∧ (s.step i).state = s.state ∧
        ¬ Due s.state i := by
  have position : ({ s.countTrigger i with loopRestart := false } : PlaybackController).loopPosition = s.loopPosition :=
    countTrigger_loopPosition
  have same : ({ s.countTrigger i with loopRestart := false } : PlaybackController).state = s.state :=
    countTrigger_state
  rw [free.step]
  generalize { s.countTrigger i with loopRestart := false } = t at position same
  unfold advance
  cases state : s.state with
  | prefetch =>
    rw [state] at same
    by_cases filled : (i.prefetchDone && i.fifoSafe) = true
    · left
      by_cases plays : (s.playPending || i.playCmd) = true
      · simp [distance, filled, plays, position, state]
      · simp [distance, filled, plays, position, state]
    · right
      have waits : ¬ Due .prefetch i := fun due => filled (by simp [due.1, due.2])
      by_cases asked : i.playCmd = true
      · simpa [distance, filled, asked, position, same, state] using waits
      · simpa [distance, filled, asked, position, same, state] using waits
  | waitTrigger =>
    rw [state] at same
    have admission : s.triggerAdmission i = i.triggerEvent := by
      simp [triggerAdmission, state, free.aborts, free.sound, free.begins, free.stops, free.pauses]
    simp only [admission]
    by_cases plays : (i.triggerEvent || i.playCmd) = true
    · left
      simp only [plays, if_true]
      simp [distance, position, state]
    · right
      have waits : ¬ Due .waitTrigger i := fun due => plays (Bool.or_eq_true_iff.mpr due)
      simpa [distance, plays, position, same, state] using waits
  | playing =>
    simp only [Counted, state] at counted
    obtain ⟨within, -⟩ := counted
    rw [state] at same
    by_cases ends : (s.streamFire i && i.beatLast) = true
    · left
      by_cases again : s.loopPosition.toNat + 1 < passes i.loopCount
      · have fits : (s.loopPosition.toNat + 1) % 0x100000000 = s.loopPosition.toNat + 1 :=
          Nat.mod_eq_of_lt (succ_lt again)
        simp only [ends, if_pos ((loops_iff within).mpr again), if_true]
        simp [distance, fits, state]
        omega
      · simp only [ends, if_neg fun loops => again ((loops_iff within).mp loops), if_true]
        simp [distance, state]
        omega
    · right
      have waits : ¬ Due .playing i := by
        rintro ⟨valid, ready, last⟩
        exact ends (by simp [streamFire, state, valid, ready, last])
      simpa [distance, ends, position, same, state] using waits
  | draining => exact .inl (by simp [distance, state])
  | done => exact absurd state running
  | idle | upload | ready | error => simp only [Counted, state] at counted

section Sessions

variable {inputs : Nat → ControllerIn} {loopCount : BitVec 32}

theorem finishes (state : s.state = .prefetch) (position : s.loopPosition = 0)
    (alone : LeftAlone s inputs loopCount) (served : Served s inputs) :
    ∃ n, Ongoing s inputs n ∧ (stateAt s inputs n).state = .done := by
  have ends : Clocked.LeadsTo id (Ongoing s inputs) fun n => Ongoing s inputs n ∧ (stateAt s inputs n).state = .done := by
    refine Clocked.leadsTo_of_turns (fun n => distance (passes loopCount) (stateAt s inputs n))
      (fun n => (stateAt s inputs n).state)
      (fun state k => (stateAt s inputs k).state = state → Due state (inputs k)) ?_ served
    intro n ongoing
    by_cases done : (stateAt s inputs n).state = .done
    · exact .inl ⟨ongoing, done⟩
    have later := ongoing.succ done
    obtain ⟨free, same⟩ := alone n later
    have counted := counted_at state position alone n ongoing
    rw [← same] at counted
    refine .inr ⟨later, ?_⟩
    rcases distance_step counted free done with less | ⟨equal, stays, waits⟩
    · rw [same] at less
      exact .inl less
    · rw [same] at equal
      exact .inr ⟨equal, stays, fun due => waits (due rfl)⟩
  obtain ⟨m, -, done⟩ := ends 0 fun k before => absurd before (Nat.not_lt_zero k)
  exact ⟨m, done⟩

theorem plays_of_armed (state : s.state = .prefetch) (position : s.loopPosition = 0)
    (alone : LeftAlone s inputs loopCount) : Plays s inputs (passes loopCount) := by
  have total := one_le_passes loopCount
  have counted := counted_at state position alone
  refine ⟨?_, ?_, ?_, ?_, ?_, ?_, finishes state position alone⟩
  · intro n ongoing
    have now := counted n ongoing
    cases at_n : (stateAt s inputs n).state <;> simp [Counted, at_n] at now ⊢
  · intro n ongoing
    have now := counted n ongoing
    cases at_n : (stateAt s inputs n).state <;> simp only [Counted, at_n] at now <;> omega
  · intro n ongoing
    have now := counted n ongoing
    cases at_n : (stateAt s inputs n).state <;> simp only [Counted, at_n] at now <;> simp <;> omega
  · intro n ongoing waits
    have now := counted n ongoing
    simp only [Counted, waits] at now
    exact now.2.1
  · intro n ongoing
    have now := counted n ongoing
    cases at_n : (stateAt s inputs n).state <;> simp only [Counted, at_n] at now <;> omega
  · intro n ongoing done
    have now := counted n ongoing
    simp only [Counted, done] at now
    refine ⟨now.2.1, now.2.2.1, now.2.2.2, ?_⟩
    cases n with
    | zero => exact nomatch state.symm.trans done
    | succ m =>
      rcases done_of_step done with before | drains
      · exact absurd before (ongoing m (Nat.lt_succ_self m))
      · exact ⟨m, rfl, drains⟩

end Sessions

/-- A session that is armed and left alone plays its descriptor `max 1 loop_count` times. -/
theorem armed_plays {inputs : Nat → ControllerIn} {loopCount : BitVec 32} (arms : Arms s i)
    (alone : LeftAlone (s.step i) inputs loopCount) : Plays (s.step i) inputs (passes loopCount) :=
  plays_of_armed arms.prefetches arms.loopPosition alone

/-- Nothing has to be waited for, and the descriptor is played twice. -/
def everything : ControllerIn where
  beginCmd := false
  commitCmd := true
  playCmd := false
  pauseCmd := false
  stopCmd := false
  abortCmd := false
  triggerEvent := true
  prefetchDone := true
  fifoSafe := true
  fifoEmpty := false
  axiError := false
  beatValid := true
  beatReady := true
  beatLast := true
  loopCount := 2

theorem committed_plays_twice :
    Plays (({ reset with state := .upload } : PlaybackController).step everything) (fun _ => everything) 2 :=
  armed_plays ⟨.inl rfl, by decide⟩ fun _ _ =>
    ⟨⟨rfl, rfl, rfl, rfl, by simp [activeFault, everything]⟩, rfl⟩

end PlaybackController

end Xczu47dr.Playback
