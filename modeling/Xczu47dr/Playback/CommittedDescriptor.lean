import Xczu47dr.Playback.DacPath
import Xczu47dr.Playback.GateSafety
import Xczu47dr.Upload.UploadWriter

/-! # The descriptor of the session

Commands and descriptor records come to the DAC side through two FIFOs of their own.  The
controller takes the `COMMIT` as it comes, whether its record has been read or not, and a
record is loaded whenever it is read.  So the registers hold the record of the session's
`COMMIT` only as long as the two FIFOs happen to deliver in the right order.
-/

namespace Xczu47dr.Playback

open Upload (PlaybackCommand)

namespace PlaybackController

variable {s : PlaybackController} {i : ControllerIn}

/-- A session is prefetched, waits, plays or drains. -/
def running (s : PlaybackController) : Bool :=
  s.state = .prefetch || s.state = .waitTrigger || s.state = .playing || s.state = .draining

/-- How a controller comes to run: by `COMMIT`, by `PLAY`, or because it has run before. -/
theorem running_cases (runs : (s.step i).running = true) :
    s.state = .upload ∧ i.commitCmd = true ∧ (s.step i).state = .prefetch ∨
      (s.state = .ready ∨ s.state = .done) ∧ i.playCmd = true ∨
      (s.state = .prefetch ∨ s.state = .waitTrigger ∨ s.state = .playing) ∧ Uninterrupted s i := by
  simp only [running, Bool.or_eq_true, decide_eq_true_eq] at runs
  have own : s.course i = (s.step i).state := by
    rcases runs with ((state | state) | state) | state <;> exact (course_of_step state (by simp)).trans state.symm
  have free (haltable : s.haltable = true) : Uninterrupted s i := by
    have ruled := step_state_ruling (s := s) (i := i)
    rw [ruling, haltable] at ruled
    split_ifs at ruled with aborts fault begins stops halts
    · simp [ruled] at runs
    · simp [ruled] at runs
    · simp [ruled] at runs
    · simp [ruled] at runs
    · simp [ruled] at runs
    · simp only [Bool.and_true, Bool.or_eq_true, not_or] at halts
      exact ⟨by simpa using begins, by simpa using halts.2, by simpa using halts.1, by simpa using aborts,
        by simpa using fault⟩
  rw [← own] at runs
  rw [course] at own runs
  cases state : s.state with
  | idle | draining | error => simp [state] at runs
  | upload =>
    simp only [state] at own runs
    by_cases committed : i.commitCmd = true
    · rw [if_pos committed] at own
      exact .inl ⟨rfl, committed, own.symm⟩
    · rw [if_neg committed] at runs
      simp at runs
  | ready =>
    simp only [state] at runs
    by_cases plays : i.playCmd = true
    · exact .inr (.inl ⟨.inl rfl, plays⟩)
    · rw [if_neg plays] at runs
      simp at runs
  | done =>
    simp only [state] at runs
    by_cases plays : i.playCmd = true
    · exact .inr (.inl ⟨.inr rfl, plays⟩)
    · rw [if_neg plays] at runs
      simp at runs
  | prefetch => exact .inr (.inr ⟨.inl rfl, free (by simp [haltable, state])⟩)
  | waitTrigger => exact .inr (.inr ⟨.inr (.inl rfl), free (by simp [haltable, state])⟩)
  | playing => exact .inr (.inr ⟨.inr (.inr rfl), free (by simp [haltable, state])⟩)

/-- Only what could be halted before is ready or done. -/
theorem rested_cases (rests : (s.step i).state = .ready ∨ (s.step i).state = .done) : s.haltable = true := by
  rw [step_state_ruling, ruling] at rests
  split_ifs at rests with aborts fault begins stops halts
  · simp at rests
  · simp at rests
  · simp at rests
  · simp at rests
  · exact (Bool.and_eq_true_iff.mp halts).2
  · rw [course] at rests
    cases state : s.state with
    | idle | error => simp [state] at rests
    | upload =>
      simp only [state] at rests
      split_ifs at rests <;> simp at rests
    | _ => simp [haltable, state]

end PlaybackController

/-! ## The two FIFOs -/

/-- A record of the descriptor FIFO; its base is not read on the DAC side. -/
structure DescriptorRecord where
  descriptor : DacDescriptor
  generation : BitVec 32

/-- A cycle of the DAC clock: the command at the head of its FIFO, if one is there, and
    whether a record is there. -/
structure SessionIn where
  command : Option PlaybackCommand
  record : Bool
  trigger : Bool
  safe : Bool
  error : Bool
  fifoValid : Channel → Bool
  fifoData : Channel → BitVec 256
  dacReady : Channel → Bool

/-- The DAC side and `generation_dac`, and how many records and `COMMIT`s have been read. -/
structure SessionPath where
  path : DacPath
  generation : BitVec 32
  records : Nat
  commits : Nat
  /-- the last record read, unless an `ABORT` has come with it or after it -/
  standing : Option Nat
  /-- the `COMMIT` that has started the session -/
  session : Option Nat

namespace SessionPath

def reset : SessionPath where
  path := .reset
  generation := 0
  records := 0
  commits := 0
  standing := none
  session := none

variable (settleCycles : BitVec 8) (written : Nat → DescriptorRecord) (s : SessionPath) (i : SessionIn)

/-- The commands and the record as the path takes them. -/
def pathIn : DacPathIn where
  beginDac := i.command = some .begin
  commitDac := i.command = some .commit
  playDac := i.command = some .play
  pauseDac := i.command = some .pause
  stopDac := i.command = some .stop
  abortDac := i.command = some .abort
  descriptorValid := i.record
  descriptor := (written s.records).descriptor
  trigger := i.trigger
  safe := i.safe
  error := i.error
  fifoValid := i.fifoValid
  fifoData := i.fifoData
  dacReady := i.dacReady

/-- The record that stands at the end of the cycle. -/
def stands : Option Nat :=
  if i.command = some .abort then none else if i.record then some s.records else s.standing

def controllerIn : ControllerIn := s.path.controllerIn settleCycles (s.pathIn written i)

def step : SessionPath :=
  let path := s.path.step settleCycles (s.pathIn written i)
  { path := path
    generation := if i.record then (written s.records).generation else s.generation
    records := if i.record then s.records + 1 else s.records
    commits := if i.command = some .commit then s.commits + 1 else s.commits
    standing := s.stands i
    session :=
      if s.path.controller.state = .upload ∧ path.controller.state = .prefetch then some s.commits else s.session }

/-- The registers hold the record `n`. -/
def Holds (n : Nat) : Prop :=
  s.path.descriptor = (written n).descriptor ∧ s.generation = (written n).generation

/-- A running session has the descriptor of the `COMMIT` that started it. -/
def Committed : Prop :=
  s.path.controller.running = true → ∃ n, s.session = some n ∧ s.Holds written n

/-- The FIFOs deliver in the right order: the record of a `COMMIT` with it or before it, but
    after an earlier `ABORT`, and the record of a later one not before the session ends. -/
structure Ordered : Prop where
  commit : s.path.controller.state = .upload → i.command = some .commit → s.stands i = some s.commits
  play : s.path.controller.state = .ready ∨ s.path.controller.state = .done → i.command = some .play →
    s.stands i = s.session
  record : s.path.controller.state = .prefetch ∨ s.path.controller.state = .waitTrigger ∨
      s.path.controller.state = .playing → i.record = true →
    i.command ∈ [some .begin, some .pause, some .stop, some .abort] ∨
      s.path.controller.activeFault (s.controllerIn settleCycles written i) = true

instance : Decidable (Ordered settleCycles written s i) :=
  decidable_of_iff (_ ∧ _ ∧ _)
    ⟨fun ⟨commit, play, record⟩ => ⟨commit, play, record⟩, fun ordered => ⟨ordered.commit, ordered.play, ordered.record⟩⟩

end SessionPath

def sessionPath (settleCycles : BitVec 8) (written : Nat → DescriptorRecord) : Clocked.Machine SessionIn SessionPath where
  reset := .reset
  step := .step settleCycles written

namespace SessionPath

variable {settleCycles : BitVec 8} {written : Nat → DescriptorRecord} {s : SessionPath} {i : SessionIn}

/-- What stands is held, and is what a running session needs. -/
structure Kept (written : Nat → DescriptorRecord) (s : SessionPath) : Prop where
  standing : ∀ n, s.standing = some n → s.Holds written n
  running : s.path.controller.running = true → s.standing = s.session
  session : s.path.controller.haltable = true → s.session.isSome = true

theorem Kept.committed (kept : Kept written s) : s.Committed written := by
  intro runs
  have haltable : s.path.controller.haltable = true := by
    simp only [PlaybackController.running, Bool.or_eq_true, decide_eq_true_eq] at runs
    rcases runs with ((state | state) | state) | state <;> simp [PlaybackController.haltable, state]
  obtain ⟨n, session⟩ := Option.isSome_iff_exists.mp (kept.session haltable)
  exact ⟨n, session, kept.standing n ((kept.running runs).trans session)⟩

theorem holds_step (kept : Kept written s) (n : Nat) (stands : s.stands i = some n) :
    (s.step settleCycles written i).Holds written n := by
  rw [SessionPath.stands] at stands
  by_cases aborts : i.command = some .abort
  · rw [if_pos aborts] at stands
    cases stands
  rw [if_neg aborts] at stands
  have unaborted : (s.pathIn written i).abortDac = false := decide_eq_false aborts
  have loaded : (s.step settleCycles written i).path.descriptor =
      if i.record then (written s.records).descriptor else s.path.descriptor := by
    change (s.path.loadDescriptor (s.pathIn written i)).descriptor = _
    rw [DacPath.loadDescriptor, unaborted]
    rfl
  by_cases record : i.record = true
  · rw [if_pos record] at stands loaded
    cases stands
    exact ⟨loaded, if_pos record⟩
  · rw [if_neg record] at stands loaded
    obtain ⟨descriptor, generation⟩ := kept.standing n stands
    exact ⟨loaded.trans descriptor, (if_neg record).trans generation⟩

theorem session_kept (elsewhere : s.path.controller.state ≠ .upload) :
    (s.step settleCycles written i).session = s.session :=
  if_neg fun commits => elsewhere commits.1

theorem session_committed (uploads : s.path.controller.state = .upload)
    (prefetches : (s.path.controller.step (s.controllerIn settleCycles written i)).state = .prefetch) :
    (s.step settleCycles written i).session = some s.commits :=
  if_pos ⟨uploads, prefetches⟩

theorem running_step (kept : Kept written s) (ordered : Ordered settleCycles written s i)
    (runs : (s.step settleCycles written i).path.controller.running = true) :
    (s.step settleCycles written i).standing = (s.step settleCycles written i).session := by
  change s.stands i = _
  rcases PlaybackController.running_cases runs with ⟨uploads, commits, prefetches⟩ | ⟨rests, plays⟩ | ⟨run, free⟩
  · rw [session_committed uploads prefetches]
    exact ordered.commit uploads (of_decide_eq_true commits)
  · rw [session_kept (by rcases rests with state | state <;> rw [state] <;> nofun)]
    exact ordered.play rests (of_decide_eq_true plays)
  · rw [session_kept (by rcases run with state | state | state <;> rw [state] <;> nofun)]
    have unaborted : i.command ≠ some .abort := of_decide_eq_false free.aborts
    have unread : i.record = false := by
      by_contra record
      rcases ordered.record run (by simpa using record) with halted | fault
      · simp only [List.mem_cons, List.not_mem_nil, or_false] at halted
        rcases halted with command | command | command | command
        · exact of_decide_eq_false free.begins command
        · exact of_decide_eq_false free.pauses command
        · exact of_decide_eq_false free.stops command
        · exact unaborted command
      · exact absurd fault (by rw [SessionPath.controllerIn, free.sound]; nofun)
    rw [stands, if_neg unaborted, if_neg (by rw [unread]; nofun)]
    apply kept.running
    rcases run with state | state | state <;> simp [PlaybackController.running, state]

theorem session_step (kept : Kept written s)
    (halts : (s.step settleCycles written i).path.controller.haltable = true) :
    (s.step settleCycles written i).session.isSome = true := by
  have kept_by (haltable : s.path.controller.haltable = true) :
      (s.step settleCycles written i).session.isSome = true := by
    rw [session_kept (by intro uploads; simp [PlaybackController.haltable, uploads] at haltable)]
    exact kept.session haltable
  by_cases runs : (s.step settleCycles written i).path.controller.running = true
  · rcases PlaybackController.running_cases runs with ⟨uploads, -, prefetches⟩ | ⟨rests, -⟩ | ⟨run, -⟩
    · rw [session_committed uploads prefetches]
      rfl
    · exact kept_by (by rcases rests with state | state <;> simp [PlaybackController.haltable, state])
    · exact kept_by (by rcases run with state | state | state <;> simp [PlaybackController.haltable, state])
  · refine kept_by (PlaybackController.rested_cases (i := s.controllerIn settleCycles written i) ?_)
    change (s.step settleCycles written i).path.controller.state = .ready ∨
      (s.step settleCycles written i).path.controller.state = .done
    cases state : (s.step settleCycles written i).path.controller.state <;>
      simp_all [PlaybackController.haltable, PlaybackController.running]

theorem Kept.step (kept : Kept written s) (ordered : Ordered settleCycles written s i) :
    Kept written (s.step settleCycles written i) where
  standing n stands := holds_step kept n stands
  running := running_step kept ordered
  session := session_step kept

theorem kept_reset : Kept written reset where
  standing := nofun
  running := nofun
  session := nofun

/-- As long as the FIFOs deliver in order, a running session has the descriptor of its own
    `COMMIT`. -/
theorem committed_of_ordered (settleCycles : BitVec 8) (written : Nat → DescriptorRecord) (steps : List SessionIn)
    (ordered : (sessionPath settleCycles written).Along (Ordered settleCycles written) .reset steps) :
    ((sessionPath settleCycles written).run .reset steps).Committed written := by
  have kept := (sessionPath settleCycles written).invariant_run (P := Kept written) kept_reset
    (fun _ _ kept now => kept.step now) steps ordered
  exact kept.committed

/-- Nothing but the commands and the records. -/
def delivery (command : Option PlaybackCommand) (record : Bool) : SessionIn where
  command := command
  record := record
  trigger := false
  safe := false
  error := false
  fifoValid := fun _ => false
  fifoData := fun _ => 0
  dacReady := fun _ => false

/-- Two descriptors of one and of two beats. -/
def beatsOf (n : Nat) : DescriptorRecord := ⟨⟨fun _ => true, BitVec.ofNat 32 (n + 1), 1⟩, BitVec.ofNat 32 (n + 1)⟩

/-- A session with its record, and another one whose record comes later than its `COMMIT`. -/
def lateRecord : List SessionIn :=
  [delivery (some .begin) false, delivery none true, delivery (some .commit) false, delivery (some .begin) false,
    delivery (some .commit) false]

/-- The first `COMMIT` finds its record. -/
theorem committed_in_order :
    ((sessionPath 16 beatsOf).run .reset (lateRecord.take 3)).Committed beatsOf :=
  committed_of_ordered 16 beatsOf (lateRecord.take 3) (by decide)

/-- The second session is prefetched with the descriptor of the first one. -/
theorem late_record_not_committed : ¬ ((sessionPath 16 beatsOf).run .reset lateRecord).Committed beatsOf := by
  intro committed
  obtain ⟨n, session, descriptor, -⟩ := committed (by decide)
  cases session.symm.trans (show _ = some 1 by decide)
  exact absurd (congrArg DacDescriptor.totalBeats descriptor) (by decide)

end SessionPath

end Xczu47dr.Playback
