import Mathlib.Algebra.Order.BigOperators.Group.Finset
import Mathlib.Data.Fintype.Basic
import Xczu47dr.Playback.LaneStability

/-! # Underflow at the end of a pass

The controller takes an empty FIFO of any enabled lane for an underflow.  A lane
that has taken its last word has an empty FIFO, and is at fault if the session is
still playing because of another.
-/

namespace Xczu47dr.Playback

namespace DacPath

section Entry

variable {settleCycles : BitVec 8} {inputs : Nat → DacPathIn}

theorem stateAt_succ (n : Nat) : stateAt settleCycles inputs (n + 1) =
    (stateAt settleCycles inputs n).step settleCycles (inputs n) := rfl

theorem stream_succ (n : Nat) : (stateAt settleCycles inputs (n + 1)).stream =
    (stateAt settleCycles inputs n).stream.step ((stateAt settleCycles inputs n).streamIn (inputs n)).control := rfl

theorem controller_succ (n : Nat) : (stateAt settleCycles inputs (n + 1)).controller =
    (stateAt settleCycles inputs n).controller.step
      ((stateAt settleCycles inputs n).controllerIn settleCycles (inputs n)) := rfl

theorem cleared_of_prefetch {n : Nat} (fills : (stateAt settleCycles inputs n).controller.state = .prefetch) :
    (stateAt settleCycles inputs (n + 1)).stream.Cleared := by
  rw [stream_succ]
  refine DacStream.cleared_of_clear ?_
  simp [streamIn, streamClear, fills]

theorem closed_of_ne {n : Nat} (rests : (stateAt settleCycles inputs n).controller.state ≠ .playing) :
    ((stateAt settleCycles inputs n).streamIn (inputs n)).control.playing = false := decide_eq_false rests

/-- The stream is clear as long as the session waits for its trigger. -/
theorem cleared_waiting (n : Nat) (waits : (stateAt settleCycles inputs n).controller.state = .waitTrigger) :
    (stateAt settleCycles inputs n).stream.Cleared := by
  induction n with
  | zero => cases waits
  | succ n ih =>
    have course : (stateAt settleCycles inputs n).controller.state = .waitTrigger ∨
        (stateAt settleCycles inputs n).controller.state = .prefetch := PlaybackController.waiting_of_step waits
    rcases course with before | fills
    · have rests : (stateAt settleCycles inputs n).controller.state ≠ .playing := by
        rw [before]
        nofun
      exact (ih before).idle (closed_of_ne rests)
    · exact cleared_of_prefetch fills

/-- A session starts to play with a clear stream. -/
theorem cleared_of_enters {n : Nat} (rests : (stateAt settleCycles inputs n).controller.state ≠ .playing)
    (plays : (stateAt settleCycles inputs (n + 1)).controller.state = .playing) :
    (stateAt settleCycles inputs (n + 1)).stream.Cleared := by
  rcases PlaybackController.playing_of_step plays with before | waits | fills
  · exact absurd before rests
  · exact (cleared_waiting n waits).idle (closed_of_ne rests)
  · exact cleared_of_prefetch fills

end Entry

/-! ## A pass -/

/-- No command, no new descriptor and no error of the reader. -/
structure Quiet (i : DacPathIn) : Prop where
  begins : i.beginDac = false
  commits : i.commitDac = false
  plays : i.playDac = false
  pauses : i.pauseDac = false
  stops : i.stopDac = false
  aborts : i.abortDac = false
  descriptor : i.descriptorValid = false
  error : i.error = false

section Passes

variable (settleCycles : BitVec 8) (inputs : Nat → DacPathIn) (start : Nat)

/-- From `start` on the session has played, up to cycle `n`. -/
def InPass (n : Nat) : Prop :=
  start ≤ n ∧ ∀ k, start ≤ k → k < n → (stateAt settleCycles inputs k).controller.state = .playing

def mask (ch : Channel) : Bool := (stateAt settleCycles inputs start).descriptor.mask ch

def total : BitVec 32 := (stateAt settleCycles inputs start).descriptor.totalBeats

/-- The lane passes on a word in cycle `n`. -/
def passesOn (n : Nat) (ch : Channel) : Bool :=
  (stateAt settleCycles inputs n).stream.fire ((stateAt settleCycles inputs n).streamIn (inputs n)).control ch

/-- The words the lane has passed on before cycle `n` -/
def transferred (n : Nat) (ch : Channel) : Nat :=
  Nat.count (fun k => passesOn settleCycles inputs (start + k) ch) (n - start)

/-- The words taken from the FIFO of the lane before cycle `n` -/
def taken (n : Nat) (ch : Channel) : Nat :=
  Nat.count (fun k => (stateAt settleCycles inputs (start + k)).fifoRead (inputs (start + k)) ch) (n - start)

/-- A pass over a descriptor that is whole in the FIFOs of its lanes when the session starts to play. -/
structure Pass : Prop where
  enters : ∃ before, start = before + 1 ∧ (stateAt settleCycles inputs before).controller.state ≠ .playing
  plays : (stateAt settleCycles inputs start).controller.state = .playing
  beats : 0 < (total settleCycles inputs start).toNat
  lane : ∃ ch, mask settleCycles inputs start ch = true
  quiet : ∀ n, InPass settleCycles inputs start n → Quiet (inputs n)
  loaded : ∀ n, InPass settleCycles inputs start n → ∀ ch, mask settleCycles inputs start ch = true →
    (inputs n).fifoValid ch =
      decide (taken settleCycles inputs start n ch < (total settleCycles inputs start).toNat)

/-- The pass ends in `DRAINING` or at the next one, with every word passed on, and `DRAINING` in `DONE`. -/
structure EndsWhole : Prop where
  sound : ∀ n, InPass settleCycles inputs start n → (stateAt settleCycles inputs n).controller.state = .playing ∨
    (stateAt settleCycles inputs n).controller.state = .draining ∨
    (stateAt settleCycles inputs n).controller.state = .prefetch
  whole : ∀ n, InPass settleCycles inputs start n → (stateAt settleCycles inputs n).controller.state ≠ .playing →
    ∀ ch, mask settleCycles inputs start ch = true →
      transferred settleCycles inputs start n ch = (total settleCycles inputs start).toNat
  done : ∀ n, InPass settleCycles inputs start n → (stateAt settleCycles inputs n).controller.state = .draining →
    (stateAt settleCycles inputs (n + 1)).controller.state = .done
  ends : (∀ ch, mask settleCycles inputs start ch = true → ∀ n, ∃ m, n ≤ m ∧ (inputs m).dacReady ch = true) →
    ∃ n, InPass settleCycles inputs start n ∧ (stateAt settleCycles inputs n).controller.state ≠ .playing

/-- The enabled lanes pass on their last words in one cycle. -/
def LastTogether : Prop :=
  ∀ n, InPass settleCycles inputs start (n + 1) → ∀ ch, start ≤ n → mask settleCycles inputs start ch = true →
    passesOn settleCycles inputs n ch = true →
    (stateAt settleCycles inputs n).stream.position ch + 1 = (total settleCycles inputs start).toNat →
    ∀ other, mask settleCycles inputs start other = true → passesOn settleCycles inputs n other = true

variable {settleCycles inputs start}

theorem InPass.pred {n : Nat} (inside : InPass settleCycles inputs start (n + 1)) (from_start : start ≤ n) :
    InPass settleCycles inputs start n ∧ (stateAt settleCycles inputs n).controller.state = .playing :=
  ⟨⟨from_start, fun k later before => inside.2 k later (by omega)⟩, inside.2 n from_start (Nat.lt_succ_self n)⟩

theorem InPass.succ {n : Nat} (inside : InPass settleCycles inputs start n)
    (plays : (stateAt settleCycles inputs n).controller.state = .playing) :
    InPass settleCycles inputs start (n + 1) := by
  refine ⟨Nat.le_succ_of_le inside.1, fun k later before => ?_⟩
  rcases Nat.lt_succ_iff_lt_or_eq.mp before with earlier | rfl
  · exact inside.2 k later earlier
  · exact plays

/-- What is known of the path in a cycle of the pass. -/
structure Known (settleCycles : BitVec 8) (inputs : Nat → DacPathIn) (start n : Nat) : Prop where
  descriptor : (stateAt settleCycles inputs n).descriptor.mask = mask settleCycles inputs start ∧
    (stateAt settleCycles inputs n).descriptor.totalBeats = total settleCycles inputs start
  tracked : DacStream.Tracked (mask settleCycles inputs start) (total settleCycles inputs start)
    (stateAt settleCycles inputs n).stream
  unsent : ∃ ch, mask settleCycles inputs start ch = true ∧ (stateAt settleCycles inputs n).stream.sent ch = false
  counted : ∀ ch, mask settleCycles inputs start ch = true →
    taken settleCycles inputs start n ch = (stateAt settleCycles inputs n).stream.position ch ∧
      transferred settleCycles inputs start n ch = (stateAt settleCycles inputs n).stream.position ch

theorem playing_of_pass (pass : Pass settleCycles inputs start) {n : Nat}
    (inside : InPass settleCycles inputs start n) (plays : (stateAt settleCycles inputs n).controller.state = .playing)
    (known : Known settleCycles inputs start n) :
    DacStream.Playing (mask settleCycles inputs start) (total settleCycles inputs start)
      ((stateAt settleCycles inputs n).streamIn (inputs n)) := by
  have quiet := pass.quiet n inside
  have unrestarted : (stateAt settleCycles inputs n).controller.loopRestart = false := by
    cases restarts : (stateAt settleCycles inputs n).controller.loopRestart with
    | false => rfl
    | true => exact nomatch plays.symm.trans (refill_at n restarts)
  refine ⟨decide_eq_true plays, ?_, known.descriptor.1, known.descriptor.2⟩
  simp [streamIn, streamClear, quiet.begins, quiet.aborts, quiet.stops, quiet.pauses, unrestarted, plays]

theorem known_at_start (pass : Pass settleCycles inputs start) : Known settleCycles inputs start start := by
  obtain ⟨before, rfl, rests⟩ := pass.enters
  have cleared := cleared_of_enters rests pass.plays
  have position (ch : Channel) : (stateAt settleCycles inputs (before + 1)).stream.position ch = 0 := by
    rw [DacStream.position, cleared.sent, cleared.beatPosition]
    rfl
  refine ⟨⟨rfl, rfl⟩, cleared.tracked, ?_, ?_⟩
  · obtain ⟨ch, enabled⟩ := pass.lane
    exact ⟨ch, enabled, congrFun cleared.sent ch⟩
  · intro ch _
    rw [position, taken, transferred, Nat.sub_self]
    exact ⟨rfl, rfl⟩

theorem count_succ (p : Nat → Bool) {n : Nat} (from_start : start ≤ n) :
    Nat.count (fun k => p (start + k)) (n + 1 - start) =
      Nat.count (fun k => p (start + k)) (n - start) + (p n).toNat := by
  rw [Nat.succ_sub from_start, Nat.count_succ, Nat.add_sub_cancel' from_start]
  cases p n <;> rfl

theorem Known.succ (pass : Pass settleCycles inputs start) {n : Nat}
    (inside : InPass settleCycles inputs start n) (plays : (stateAt settleCycles inputs n).controller.state = .playing)
    (known : Known settleCycles inputs start n) : Known settleCycles inputs start (n + 1) := by
  have quiet := pass.quiet n inside
  have now := playing_of_pass pass inside plays known
  refine ⟨?_, ?_, ?_, ?_⟩
  · rw [stateAt_succ, descriptor_step, quiet.aborts, quiet.descriptor]
    exact known.descriptor
  · exact known.tracked.step now
  · obtain ⟨-, sent⟩ := DacStream.step_of_unclear (s := (stateAt settleCycles inputs n).stream) now.uncleared
    rw [stream_succ, sent]
    cases beat : (stateAt settleCycles inputs n).stream.beatFire
        ((stateAt settleCycles inputs n).streamIn (inputs n)).control with
    | true =>
      obtain ⟨ch, enabled⟩ := pass.lane
      exact ⟨ch, enabled, rfl⟩
    | false =>
      cases active : (stateAt settleCycles inputs n).stream.active
          ((stateAt settleCycles inputs n).streamIn (inputs n)).control with
      | true =>
        -- a lane that does not send its word keeps the beat open
        by_contra complete
        refine Bool.false_ne_true (beat.symm.trans (DacStream.beatFire_iff.mpr ⟨active, fun ch enabled => ?_⟩))
        rw [now.mask] at enabled
        by_contra waits
        rw [not_or, Bool.not_eq_true, Bool.not_eq_true] at waits
        exact complete ⟨ch, enabled, by simp [waits.1, waits.2]⟩
      | false =>
        obtain ⟨ch, enabled, unsent⟩ := known.unsent
        exact ⟨ch, enabled, by simp [unsent, DacStream.fire, active]⟩
  · intro ch enabled
    have moves := DacStream.position_step (s := (stateAt settleCycles inputs n).stream) now enabled
    have reads := DacStream.fifoReady_of_enabled (s := (stateAt settleCycles inputs n).stream) now enabled
    obtain ⟨reading, passing⟩ := known.counted ch enabled
    rw [stream_succ, moves, ← reading]
    refine ⟨?_, ?_⟩
    · rw [taken, count_succ (fun k => (stateAt settleCycles inputs k).fifoRead (inputs k) ch) inside.1]
      exact congrArg (fun b : Bool => _ + b.toNat) reads
    · rw [reading, ← passing, transferred,
        count_succ (fun k => passesOn settleCycles inputs k ch) inside.1]
      rfl

theorem known_in_pass (pass : Pass settleCycles inputs start) {n : Nat}
    (inside : InPass settleCycles inputs start n) : Known settleCycles inputs start n := by
  obtain ⟨from_start, -⟩ := id inside
  induction n, from_start using Nat.le_induction with
  | base => exact known_at_start pass
  | succ n from_start ih =>
    obtain ⟨before, plays⟩ := inside.pred from_start
    exact Known.succ pass before plays (ih before)

/-! ## One cycle of a pass -/

/-- Every enabled lane still has a word to pass on. -/
def Unfinished (settleCycles : BitVec 8) (inputs : Nat → DacPathIn) (start n : Nat) : Prop :=
  ∀ ch, mask settleCycles inputs start ch = true →
    (stateAt settleCycles inputs n).stream.position ch < (total settleCycles inputs start).toNat

theorem fifoValid_in_pass (pass : Pass settleCycles inputs start) {n : Nat}
    (inside : InPass settleCycles inputs start n) {ch : Channel} (enabled : mask settleCycles inputs start ch = true) :
    (inputs n).fifoValid ch =
      decide ((stateAt settleCycles inputs n).stream.position ch < (total settleCycles inputs start).toNat) := by
  rw [pass.loaded n inside ch enabled, ((known_in_pass pass inside).counted ch enabled).1]

theorem anyFifoEmpty_iff (pass : Pass settleCycles inputs start) {n : Nat}
    (inside : InPass settleCycles inputs start n) :
    (stateAt settleCycles inputs n).anyFifoEmpty (inputs n) = false ↔ Unfinished settleCycles inputs start n := by
  have known := known_in_pass pass inside
  rw [anyFifoEmpty, DacStream.anyLane_eq_false, known.descriptor.1]
  refine forall_congr' fun ch => ?_
  cases enabled : mask settleCycles inputs start ch with
  | false => simp
  | true => simp [fifoValid_in_pass pass inside enabled]

/-- In a pass only an empty FIFO is a fault, and it is one. -/
theorem activeFault_iff (pass : Pass settleCycles inputs start) {n : Nat}
    (inside : InPass settleCycles inputs start n)
    (plays : (stateAt settleCycles inputs n).controller.state = .playing) :
    (stateAt settleCycles inputs n).controller.activeFault
        ((stateAt settleCycles inputs n).controllerIn settleCycles (inputs n)) = false ↔
      Unfinished settleCycles inputs start n := by
  have quiet := pass.quiet n inside
  have empty := anyFifoEmpty_iff pass inside
  have starved : (stateAt settleCycles inputs n).anyFifoEmpty (inputs n) = false →
      (stateAt settleCycles inputs n).stream.underflow
        ((stateAt settleCycles inputs n).streamIn (inputs n)).control = false := by
    intro full
    have valid := empty.mp full
    rw [DacStream.underflow, Bool.and_eq_false_iff, DacStream.anyLane_eq_false]
    refine .inr fun ch => ?_
    cases enabled : mask settleCycles inputs start ch with
    | false =>
      have disabled := congrFun (known_in_pass pass inside).descriptor.1 ch
      rw [enabled] at disabled
      simp [DacStream.need, streamIn, disabled]
    | true =>
      have shown : (inputs n).fifoValid ch = true := by
        rw [fifoValid_in_pass pass inside enabled, decide_eq_true (valid ch enabled)]
      simp [streamIn, shown]
  rw [← empty]
  simp only [PlaybackController.activeFault, plays, controllerIn, quiet.error]
  cases full : (stateAt settleCycles inputs n).anyFifoEmpty (inputs n) with
  | true => simp
  | false => simp [starved full]

theorem fault_step (pass : Pass settleCycles inputs start) {n : Nat} (inside : InPass settleCycles inputs start n)
    (plays : (stateAt settleCycles inputs n).controller.state = .playing)
    (empty : ¬ Unfinished settleCycles inputs start n) :
    (stateAt settleCycles inputs (n + 1)).controller.state = .error := by
  have quiet := pass.quiet n inside
  have fault := (not_congr (activeFault_iff pass inside plays)).mpr empty
  rw [Bool.not_eq_false] at fault
  have aborts : ((stateAt settleCycles inputs n).controllerIn settleCycles (inputs n)).abortCmd = false := quiet.aborts
  rw [controller_succ]
  simp [PlaybackController.step, aborts, fault]

theorem free_in_pass (pass : Pass settleCycles inputs start) {n : Nat} (inside : InPass settleCycles inputs start n)
    (plays : (stateAt settleCycles inputs n).controller.state = .playing)
    (unfinished : Unfinished settleCycles inputs start n) :
    (stateAt settleCycles inputs n).controller.Uninterrupted
      ((stateAt settleCycles inputs n).controllerIn settleCycles (inputs n)) := by
  have quiet := pass.quiet n inside
  exact ⟨quiet.begins, quiet.pauses, quiet.stops, quiet.aborts, (activeFault_iff pass inside plays).mpr unfinished⟩

/-- The beat that is over in cycle `n` is the last one. -/
def completes (settleCycles : BitVec 8) (inputs : Nat → DacPathIn) (n : Nat) : Bool :=
  (stateAt settleCycles inputs n).stream.beatFire ((stateAt settleCycles inputs n).streamIn (inputs n)).control &&
    (stateAt settleCycles inputs n).stream.beatLast ((stateAt settleCycles inputs n).streamIn (inputs n)).control

theorem pass_step (pass : Pass settleCycles inputs start) {n : Nat} (inside : InPass settleCycles inputs start n)
    (plays : (stateAt settleCycles inputs n).controller.state = .playing)
    (unfinished : Unfinished settleCycles inputs start n) :
    if completes settleCycles inputs n then
      (stateAt settleCycles inputs (n + 1)).controller.state = .draining ∨
        (stateAt settleCycles inputs (n + 1)).controller.state = .prefetch
    else (stateAt settleCycles inputs (n + 1)).controller.state = .playing := by
  have free := free_in_pass pass inside plays unfinished
  have fires : ((stateAt settleCycles inputs n).controller.streamFire
        ((stateAt settleCycles inputs n).controllerIn settleCycles (inputs n)) &&
      ((stateAt settleCycles inputs n).controllerIn settleCycles (inputs n)).beatLast) =
        completes settleCycles inputs n := by
    simp [PlaybackController.streamFire, plays, controllerIn, completes]
  rw [controller_succ, free.step_state, PlaybackController.course]
  simp only [plays, fires]
  cases completes settleCycles inputs n with
  | true =>
    rw [if_pos rfl, if_pos rfl]
    split
    · exact .inr rfl
    · exact .inl rfl
  | false => rw [if_neg Bool.false_ne_true, if_neg Bool.false_ne_true]

theorem position_in_pass (pass : Pass settleCycles inputs start) {n : Nat}
    (inside : InPass settleCycles inputs start n) (plays : (stateAt settleCycles inputs n).controller.state = .playing)
    {ch : Channel} (enabled : mask settleCycles inputs start ch = true) :
    (stateAt settleCycles inputs (n + 1)).stream.position ch =
      (stateAt settleCycles inputs n).stream.position ch + (passesOn settleCycles inputs n ch).toNat :=
  DacStream.position_step (playing_of_pass pass inside plays (known_in_pass pass inside)) enabled

/-- A lane that passes on its last word does so in the last beat. -/
theorem beatLast_of_passesOn (pass : Pass settleCycles inputs start) {n : Nat}
    (inside : InPass settleCycles inputs start n) {ch : Channel} (passes : passesOn settleCycles inputs n ch = true) :
    (stateAt settleCycles inputs n).stream.beatLast ((stateAt settleCycles inputs n).streamIn (inputs n)).control =
      decide ((stateAt settleCycles inputs n).stream.position ch + 1 = (total settleCycles inputs start).toNat) := by
  obtain ⟨active, -, unsent, -⟩ := DacStream.fire_iff.mp passes
  have same : ((stateAt settleCycles inputs n).streamIn (inputs n)).control.totalBeats = total settleCycles inputs start :=
    (known_in_pass pass inside).descriptor.2
  refine decide_eq_decide.mpr ?_
  rw [← BitVec.toNat_inj, DacStream.toNat_advance active, DacStream.position, unsent, same]
  rfl

theorem position_of_completes (pass : Pass settleCycles inputs start) {n : Nat}
    (inside : InPass settleCycles inputs start n) (plays : (stateAt settleCycles inputs n).controller.state = .playing)
    (last : completes settleCycles inputs n = true) (ch : Channel) :
    (stateAt settleCycles inputs (n + 1)).stream.position ch = (total settleCycles inputs start).toNat := by
  have now := playing_of_pass pass inside plays (known_in_pass pass inside)
  obtain ⟨beat, final⟩ := Bool.and_eq_true_iff.mp last
  obtain ⟨position, sent⟩ := DacStream.step_of_unclear (s := (stateAt settleCycles inputs n).stream) now.uncleared
  rw [beat, if_pos rfl] at position sent
  rw [stream_succ, DacStream.position, position, sent, of_decide_eq_true final, now.total]
  rfl

/-- If the lanes pass on their last words together, the pass goes on until it is whole. -/
theorem unfinished_succ (pass : Pass settleCycles inputs start) (together : LastTogether settleCycles inputs start)
    {n : Nat} (inside : InPass settleCycles inputs start n)
    (plays : (stateAt settleCycles inputs n).controller.state = .playing)
    (unfinished : Unfinished settleCycles inputs start n) (goes : completes settleCycles inputs n = false) :
    Unfinished settleCycles inputs start (n + 1) := by
  intro ch enabled
  have before := unfinished ch enabled
  rw [position_in_pass pass inside plays enabled]
  by_contra ended
  have passes : passesOn settleCycles inputs n ch = true := by
    by_contra waits
    rw [Bool.not_eq_true] at waits
    rw [waits] at ended
    exact ended before
  rw [passes, Bool.toNat_true] at ended
  have last : (stateAt settleCycles inputs n).stream.position ch + 1 = (total settleCycles inputs start).toNat := by omega
  have all := together n (inside.succ plays) ch inside.1 enabled passes last
  -- the beat is over with this lane's word
  have beat : (stateAt settleCycles inputs n).stream.beatFire
      ((stateAt settleCycles inputs n).streamIn (inputs n)).control = true := by
    refine DacStream.beatFire_iff.mpr ⟨(DacStream.fire_iff.mp passes).1, fun other shown => .inr (all other ?_)⟩
    rwa [← (known_in_pass pass inside).descriptor.1]
  have final := (beatLast_of_passesOn pass inside passes).trans (decide_eq_true last)
  exact Bool.false_ne_true (goes.symm.trans (Bool.and_eq_true_iff.mpr ⟨beat, final⟩))

theorem in_pass_of_together (pass : Pass settleCycles inputs start)
    (together : LastTogether settleCycles inputs start) {n : Nat} (inside : InPass settleCycles inputs start n) :
    (stateAt settleCycles inputs n).controller.state = .playing ∧ Unfinished settleCycles inputs start n ∨
      ((stateAt settleCycles inputs n).controller.state = .draining ∨
        (stateAt settleCycles inputs n).controller.state = .prefetch) ∧
        ∀ ch, (stateAt settleCycles inputs n).stream.position ch = (total settleCycles inputs start).toNat := by
  obtain ⟨from_start, -⟩ := id inside
  induction n, from_start using Nat.le_induction with
  | base =>
    refine .inl ⟨pass.plays, fun ch enabled => ?_⟩
    rw [← ((known_at_start pass).counted ch enabled).1, taken, Nat.sub_self]
    exact pass.beats
  | succ n from_start ih =>
    obtain ⟨before, plays⟩ := inside.pred from_start
    rcases ih before with ⟨-, unfinished⟩ | ⟨ended, -⟩
    · have next := pass_step pass before plays unfinished
      cases last : completes settleCycles inputs n with
      | true =>
        rw [last, if_pos rfl] at next
        exact .inr ⟨next, position_of_completes pass before plays last⟩
      | false =>
        rw [last, if_neg Bool.false_ne_true] at next
        exact .inl ⟨next, unfinished_succ pass together before plays unfinished last⟩
    · rw [plays] at ended
      rcases ended with wrong | wrong
      · cases wrong
      · cases wrong

theorem together_of_sound (pass : Pass settleCycles inputs start)
    (sound : ∀ n, InPass settleCycles inputs start n → (stateAt settleCycles inputs n).controller.state ≠ .error) :
    LastTogether settleCycles inputs start := by
  have unfinished_at {n : Nat} (inside : InPass settleCycles inputs start n)
      (plays : (stateAt settleCycles inputs n).controller.state = .playing) : Unfinished settleCycles inputs start n := by
    by_contra empty
    exact sound (n + 1) (inside.succ plays) (fault_step pass inside plays empty)
  intro n inside ch from_start enabled passes last other shown
  obtain ⟨before, plays⟩ := inside.pred from_start
  have unfinished := unfinished_at before plays
  have now := position_in_pass pass before plays enabled
  rw [passes, Bool.toNat_true, last] at now
  -- if the session played on, the lane would be at fault
  have ends : completes settleCycles inputs n = true := by
    by_contra goes
    have next := pass_step pass before plays unfinished
    rw [if_neg goes] at next
    exact absurd (unfinished_at inside next ch enabled) (by omega)
  obtain ⟨beat, -⟩ := Bool.and_eq_true_iff.mp ends
  have others := (DacStream.beatFire_iff.mp beat).2 other
    ((congrFun (known_in_pass pass before).descriptor.1 other).trans shown)
  rcases others with sent | now
  · -- a lane that was ahead has taken its last word before
    have ahead := unfinished other shown
    have unsent := (DacStream.fire_iff.mp passes).2.2.1
    rw [DacStream.position, sent] at ahead
    rw [DacStream.position, unsent] at last
    simp only [Bool.toNat_true, Bool.toNat_false] at ahead last
    omega
  · exact now

theorem done_of_draining (pass : Pass settleCycles inputs start) {n : Nat}
    (inside : InPass settleCycles inputs start n)
    (drains : (stateAt settleCycles inputs n).controller.state = .draining) :
    (stateAt settleCycles inputs (n + 1)).controller.state = .done := by
  have quiet := pass.quiet n inside
  have free : (stateAt settleCycles inputs n).controller.Uninterrupted
      ((stateAt settleCycles inputs n).controllerIn settleCycles (inputs n)) := by
    refine ⟨quiet.begins, quiet.pauses, quiet.stops, quiet.aborts, ?_⟩
    simp [PlaybackController.activeFault, drains, controllerIn, quiet.error]
  rw [controller_succ, free.step_state, PlaybackController.course]
  simp only [drains]

/-! ## The end of a pass -/

/-- What the lane still has to do: its words, and a zero beat that is stalled. -/
def owed (settleCycles : BitVec 8) (inputs : Nat → DacPathIn) (start n : Nat) (ch : Channel) : Nat :=
  if mask settleCycles inputs start ch then
    2 * ((total settleCycles inputs start).toNat - (stateAt settleCycles inputs n).stream.position ch) +
      ((stateAt settleCycles inputs n).stream.silencePending ch).toNat
  else 0

/-- The lane does something in cycle `n`. -/
def Moves (settleCycles : BitVec 8) (inputs : Nat → DacPathIn) (n : Nat) (ch : Channel) : Prop :=
  passesOn settleCycles inputs n ch = true ∨
    (stateAt settleCycles inputs n).stream.silencePending ch = true ∧ (inputs n).dacReady ch = true

def awaited (settleCycles : BitVec 8) (inputs : Nat → DacPathIn) (start n : Nat) : Option Channel :=
  (List.finRange 8).find? fun ch =>
    mask settleCycles inputs start ch && !(stateAt settleCycles inputs n).stream.sent ch

theorem owed_step (pass : Pass settleCycles inputs start) {n : Nat} (inside : InPass settleCycles inputs start n)
    (plays : (stateAt settleCycles inputs n).controller.state = .playing)
    (unfinished : Unfinished settleCycles inputs start n) {ch : Channel}
    (enabled : mask settleCycles inputs start ch = true) :
    (Moves settleCycles inputs n ch →
        owed settleCycles inputs start (n + 1) ch < owed settleCycles inputs start n ch) ∧
      (¬ Moves settleCycles inputs n ch →
        owed settleCycles inputs start (n + 1) ch = owed settleCycles inputs start n ch) := by
  have position := position_in_pass pass inside plays enabled
  have left := unfinished ch enabled
  have silence : (stateAt settleCycles inputs (n + 1)).stream.silencePending ch =
      ((stateAt settleCycles inputs n).stream.silencePending ch && !(inputs n).dacReady ch) := by
    rw [stateAt_succ, silencePending_step, if_pos plays]
  rw [owed, owed, if_pos enabled, if_pos enabled, position, silence, Moves]
  cases passes : passesOn settleCycles inputs n ch with
  | true =>
    have started := (DacStream.fire_iff.mp passes).2.2.2.1
    rw [started]
    simp
    omega
  | false =>
    cases (stateAt settleCycles inputs n).stream.silencePending ch with
    | true => cases (inputs n).dacReady ch <;> simp
    | false => simp

/-- A lane that is awaited moves when it is ready. -/
theorem moves_of_ready (pass : Pass settleCycles inputs start) {n : Nat}
    (inside : InPass settleCycles inputs start n)
    (plays : (stateAt settleCycles inputs n).controller.state = .playing)
    (unfinished : Unfinished settleCycles inputs start n) {ch : Channel}
    (waits : awaited settleCycles inputs start n = some ch) (ready : (inputs n).dacReady ch = true) :
    Moves settleCycles inputs n ch := by
  have chosen := List.find?_some waits
  rw [Bool.and_eq_true, Bool.not_eq_true'] at chosen
  obtain ⟨enabled, unsent⟩ := chosen
  have known := known_in_pass pass inside
  have now := playing_of_pass pass inside plays known
  cases pending : (stateAt settleCycles inputs n).stream.silencePending ch with
  | true => exact .inr ⟨pending, ready⟩
  | false =>
    have left := unfinished ch enabled
    have shown : (inputs n).fifoValid ch = true := by
      rw [fifoValid_in_pass pass inside enabled, decide_eq_true left]
    have active : (stateAt settleCycles inputs n).stream.active
        ((stateAt settleCycles inputs n).streamIn (inputs n)).control = true := by
      have within : (stateAt settleCycles inputs n).stream.beatPosition < total settleCycles inputs start := by
        rw [DacStream.position, unsent] at left
        exact BitVec.lt_def.mpr left
      rw [DacStream.active, now.playing, now.total, now.mask, decide_eq_true within]
      exact (DacStream.anyLane_iff _).mpr ⟨ch, enabled⟩
    refine .inl (DacStream.fire_iff.mpr ⟨active, ?_, unsent, pending, shown, ready⟩)
    rw [now.mask]
    exact enabled

/-- The lane that is awaited stays the same until one moves. -/
theorem awaited_succ (pass : Pass settleCycles inputs start) {n : Nat}
    (inside : InPass settleCycles inputs start n)
    (plays : (stateAt settleCycles inputs n).controller.state = .playing)
    (still : ∀ ch, mask settleCycles inputs start ch = true → ¬ Moves settleCycles inputs n ch) :
    awaited settleCycles inputs start (n + 1) = awaited settleCycles inputs start n := by
  have known := known_in_pass pass inside
  have now := playing_of_pass pass inside plays known
  have idle (ch : Channel) : (stateAt settleCycles inputs n).stream.fire
      ((stateAt settleCycles inputs n).streamIn (inputs n)).control ch = false := by
    by_contra fires
    rw [Bool.not_eq_false] at fires
    have enabled := (DacStream.fire_iff.mp fires).2.1
    rw [now.mask] at enabled
    exact still ch enabled (.inl fires)
  have open_beat : (stateAt settleCycles inputs n).stream.beatFire
      ((stateAt settleCycles inputs n).streamIn (inputs n)).control = false := by
    by_contra beat
    rw [Bool.not_eq_false] at beat
    obtain ⟨ch, enabled, unsent⟩ := known.unsent
    rcases (DacStream.beatFire_iff.mp beat).2 ch (by rw [now.mask]; exact enabled) with sent | fires
    · exact Bool.false_ne_true (unsent.symm.trans sent)
    · exact Bool.false_ne_true ((idle ch).symm.trans fires)
  obtain ⟨-, sent⟩ := DacStream.step_of_unclear (s := (stateAt settleCycles inputs n).stream) now.uncleared
  rw [open_beat, if_neg Bool.false_ne_true] at sent
  have same : (stateAt settleCycles inputs (n + 1)).stream.sent = (stateAt settleCycles inputs n).stream.sent := by
    rw [stream_succ, sent]
    funext ch
    rw [idle, Bool.or_false]
  rw [awaited, awaited, same]

theorem ends_of_together (pass : Pass settleCycles inputs start)
    (together : LastTogether settleCycles inputs start)
    (ready : ∀ ch, mask settleCycles inputs start ch = true → ∀ n, ∃ m, n ≤ m ∧ (inputs m).dacReady ch = true) :
    ∃ n, InPass settleCycles inputs start n ∧ (stateAt settleCycles inputs n).controller.state ≠ .playing := by
  have ends : Clocked.LeadsTo id (InPass settleCycles inputs start) fun n =>
      InPass settleCycles inputs start n ∧ (stateAt settleCycles inputs n).controller.state ≠ .playing := by
    refine Clocked.leadsTo_of_turns (fun n => ∑ ch, owed settleCycles inputs start n ch)
      (awaited settleCycles inputs start)
      (fun turn k => ∀ ch, turn = some ch → mask settleCycles inputs start ch = true → (inputs k).dacReady ch = true)
      ?_ ?_
    · intro n inside
      change InPass settleCycles inputs start n at inside
      by_cases plays : (stateAt settleCycles inputs n).controller.state = .playing
      · refine .inr ⟨inside.succ plays, ?_⟩
        rcases in_pass_of_together pass together inside with ⟨-, unfinished⟩ | ⟨ended, -⟩
        · have lanes {ch : Channel} (enabled : mask settleCycles inputs start ch = true) :=
            owed_step pass inside plays unfinished enabled
          have disabled {ch : Channel} (off : ¬ mask settleCycles inputs start ch = true) :
              owed settleCycles inputs start (n + 1) ch = owed settleCycles inputs start n ch := by
            rw [owed, owed, if_neg off, if_neg off]
          by_cases moved : ∃ ch, mask settleCycles inputs start ch = true ∧ Moves settleCycles inputs n ch
          · left
            obtain ⟨ch, enabled, moves⟩ := moved
            refine Finset.sum_lt_sum (fun other _ => ?_) ⟨ch, Finset.mem_univ ch, (lanes enabled).1 moves⟩
            by_cases on : mask settleCycles inputs start other = true
            · by_cases moves : Moves settleCycles inputs n other
              · exact Nat.le_of_lt ((lanes on).1 moves)
              · exact Nat.le_of_eq ((lanes on).2 moves)
            · exact Nat.le_of_eq (disabled on)
          · right
            have still (ch : Channel) (enabled : mask settleCycles inputs start ch = true) :
                ¬ Moves settleCycles inputs n ch := fun moves => moved ⟨ch, enabled, moves⟩
            refine ⟨Finset.sum_congr rfl fun other _ => ?_, awaited_succ pass inside plays still, ?_⟩
            · by_cases on : mask settleCycles inputs start other = true
              · exact (lanes on).2 (still other on)
              · exact disabled on
            · -- some lane is awaited, and it would have moved
              intro acts
              obtain ⟨ch, enabled, unsent⟩ := (known_in_pass pass inside).unsent
              cases waits : awaited settleCycles inputs start n with
              | none =>
                have none := List.find?_eq_none.mp waits ch (List.mem_finRange ch)
                simp [enabled, unsent] at none
              | some turn =>
                have chosen := List.find?_some waits
                rw [Bool.and_eq_true] at chosen
                exact still turn chosen.1
                  (moves_of_ready pass inside plays unfinished waits (acts turn waits chosen.1))
        · rw [plays] at ended
          rcases ended with wrong | wrong
          · cases wrong
          · cases wrong
      · exact .inl ⟨inside, plays⟩
    · intro turn n
      cases turn with
      | none => exact ⟨n, Nat.le_refl n, nofun⟩
      | some ch =>
        by_cases enabled : mask settleCycles inputs start ch = true
        · obtain ⟨m, later, acts⟩ := ready ch enabled n
          exact ⟨m, later, fun other same _ => Option.some.inj same ▸ acts⟩
        · exact ⟨n, Nat.le_refl n, fun other same on => absurd (Option.some.inj same ▸ on) enabled⟩
  obtain ⟨m, -, ended⟩ := ends start ⟨Nat.le_refl start, fun k later before => absurd before (Nat.not_lt.mpr later)⟩
  exact ⟨m, ended⟩

/-- A pass over a descriptor that is whole in the FIFOs ends without an underflow if and only if its
lanes pass on their last words in one cycle. -/
theorem ends_whole_iff (pass : Pass settleCycles inputs start) :
    EndsWhole settleCycles inputs start ↔ LastTogether settleCycles inputs start := by
  constructor
  · intro whole
    refine together_of_sound pass fun n inside fails => ?_
    have states := whole.sound n inside
    rw [fails] at states
    rcases states with wrong | wrong | wrong
    · cases wrong
    · cases wrong
    · cases wrong
  · intro together
    refine ⟨?_, ?_, fun n => done_of_draining pass, ends_of_together pass together⟩
    · intro n inside
      rcases in_pass_of_together pass together inside with ⟨plays, -⟩ | ⟨ended, -⟩
      · exact .inl plays
      · exact .inr ended
    · intro n inside stopped ch enabled
      rcases in_pass_of_together pass together inside with ⟨plays, -⟩ | ⟨-, position⟩
      · exact absurd plays stopped
      · exact ((known_in_pass pass inside).counted ch enabled).2.trans (position ch)

end Passes

/-! ## One beat on two lanes -/

/-- One beat on the lanes 0 and 1, which is played from cycle 23 on; if `early` is not set, lane 1 is
not ready in that cycle, and takes its word in the next one. -/
def twoLanes (early : Bool) (n : Nat) : DacPathIn where
  beginDac := n = 0
  commitDac := n = 1
  playDac := false
  pauseDac := false
  stopDac := false
  abortDac := false
  descriptorValid := n = 1
  descriptor := ⟨fun ch => ch.val < 2, 1, 1⟩
  trigger := n = 22
  safe := true
  error := false
  fifoValid := fun ch => n < 24 || (ch = 1 && !early && n < 25)
  fifoData := fun _ => 1
  dacReady := fun ch => early || ch ≠ 1 || n ≠ 23

theorem twoLanes_short {early : Bool} {n : Nat} (inside : InPass 16 (twoLanes early) 23 n) :
    n = 23 ∨ n = 24 ∨ early = false ∧ n = 25 := by
  obtain ⟨from_start, plays⟩ := inside
  have stops : ∀ late, (stateAt 16 (twoLanes late) (if late then 24 else 25)).controller.state ≠ .playing := by
    decide +kernel
  have within : n ≤ if early then 24 else 25 := by
    by_contra beyond
    refine stops early (plays _ ?_ (by omega))
    cases early <;> decide
  cases early with
  | true =>
    rw [if_pos rfl] at within
    exact (show n = 23 ∨ n = 24 by omega).imp_right .inl
  | false =>
    rw [if_neg Bool.false_ne_true] at within
    exact (show n = 23 ∨ n = 24 ∨ n = 25 by omega).imp_right (.imp_right fun last => ⟨rfl, last⟩)

theorem twoLanes_pass (early : Bool) : Pass 16 (twoLanes early) 23 := by
  refine ⟨⟨22, rfl, ?_⟩, ?_, ?_, ⟨0, ?_⟩, ?_, ?_⟩
  · cases early <;> decide +kernel
  · cases early <;> decide +kernel
  · cases early <;> decide +kernel
  · cases early <;> decide +kernel
  · intro n inside
    have later := inside.1
    exact ⟨decide_eq_false (by omega), decide_eq_false (by omega), rfl, rfl, rfl, rfl, decide_eq_false (by omega), rfl⟩
  · intro n inside ch
    rcases twoLanes_short inside with rfl | rfl | ⟨rfl, rfl⟩
    · cases early <;> revert ch <;> decide +kernel
    · cases early <;> revert ch <;> decide +kernel
    · revert ch
      decide +kernel

/-- The lanes take their words in one cycle, and the session is done. -/
theorem twoLanes_whole : EndsWhole 16 (twoLanes true) 23 := by
  refine (ends_whole_iff (twoLanes_pass true)).mpr fun n inside ch from_start _ _ _ other shown => ?_
  have now : n = 23 := by
    rcases twoLanes_short inside with next | next | ⟨wrong, -⟩
    · omega
    · omega
    · cases wrong
  subst now
  revert other
  decide +kernel

theorem skewed_underflow : ¬ ∀ inputs start, Pass 16 inputs start → EndsWhole 16 inputs start := by
  intro claim
  have whole := claim (twoLanes false) 23 (twoLanes_pass false)
  have plays : ∀ k : Fin 2, (stateAt 16 (twoLanes false) (23 + k)).controller.state = .playing := by decide +kernel
  have fails : (stateAt 16 (twoLanes false) 25).controller.state = .error := by decide +kernel
  have inside : InPass 16 (twoLanes false) 23 25 := by
    refine ⟨by decide, fun k later before => ?_⟩
    have at_k := plays ⟨k - 23, by omega⟩
    rwa [show 23 + (k - 23) = k by omega] at at_k
  have states := whole.sound 25 inside
  rw [fails] at states
  rcases states with wrong | wrong | wrong
  · cases wrong
  · cases wrong
  · cases wrong

end DacPath

end Xczu47dr.Playback
