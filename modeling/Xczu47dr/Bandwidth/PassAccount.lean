import Xczu47dr.Bandwidth.LaneCommands
import Xczu47dr.Bandwidth.ReturnedBeats
import Xczu47dr.Clocked.Ledger

/-! # The account of a pass

The moves of the sequencer, and the executor beside an account of the regions that its
program plays, of the commands it has sent in the pass, and of the beats that these still
owe. A program starts after a clear: `cur_chN_have_play` outlives it.
-/

namespace Xczu47dr.Bandwidth

open Clocked

/-! ## The moves of the sequencer -/

namespace Sequencer

/-- The channel of a PLAY that is taken, its address and its value. -/
def taken (s : Sequencer) (main : Option Instruction) : Option (ChannelSel × BitVec 64 × BitVec 32) :=
  match main with
  | none => none
  | some instr =>
    if s.st = .build ∧ instr.cmd = 2 then
      match playChannel instr.ch with
      | none => none
      | some channel => if s.havePlay channel then none else some (channel, instr.addr, instr.value)
    else none

/-- What may become of the state when no load changes. -/
inductive Quiet (s : Sequencer) (main : Option Instruction) (done : Bool) (t : Sequencer) : Prop
  | same (st : t.st = s.st) (auto : t.prefillAutoStart = s.prefillAutoStart)
      (goes_on : s.st = .playing ∨ s.st = .prefill → done = false)
  | started (building : s.st = .build) (fetched : main ≠ none) (some_play : ∃ channel, s.havePlay channel = true)
      (st : t.st = .prefill)
  | filled (prefill : s.st = .prefill) (auto : s.prefillAutoStart = true) (ends : done = true) (st : t.st = .playing)
  | ready (prefill : s.st = .prefill) (auto : s.prefillAutoStart = false) (ends : done = true) (st : t.st = .waitTrig)
  | triggered (waiting : s.st = .waitTrig) (st : t.st = .playing)

/-- One edge without a clear. -/
inductive Moves (interleaved : Bool) (s : Sequencer) (i : ExecutorIn) (done : Bool) (t : Sequencer) : Prop
  | quiet (nothing : s.taken i.main = none) (loads : t.loads = s.loads) (inter : t.inter = s.inter)
      (active : t.activeValid = s.activeValid) (plays : t.havePlay = s.havePlay) (states : s.Quiet i.main done t)
  | plays (channel : ChannelSel) (addr : BitVec 64) (value : BitVec 32)
      (taken : s.taken i.main = some (channel, addr, value)) (building : s.st = .build)
      (unplayed : s.havePlay channel = false) (after : t = { s.play channel addr value with trigD := i.trigger })
  | reloads (playing : s.st = .playing) (ends : done = true) (loops : s.loopEnable = true)
      (after : t = { s.reload interleaved with trigD := i.trigger })
  | finishes (playing : s.st = .playing) (ends : done = true) (once : s.loopEnable = false)
      (after : t = { s.finish with trigD := i.trigger })

theorem taken_none_of_st {s : Sequencer} {main : Option Instruction} (away : s.st ≠ .build) : s.taken main = none := by
  cases main with
  | none => rfl
  | some instr => exact if_neg fun both => away both.1

theorem fetch_cases {s : Sequencer} (main : Option Instruction) (building : s.st = .build) :
    (∃ channel addr value, s.taken main = some (channel, addr, value) ∧ s.havePlay channel = false ∧
      s.fetch main = s.play channel addr value) ∨
    (s.taken main = none ∧ (s.fetch main = s ∨ main ≠ none ∧ (∃ channel, s.havePlay channel = true) ∧
      ∃ pending auto loop, s.fetch main =
        { s with st := .prefill, pendingValid := pending, prefillAutoStart := auto, loopEnable := loop })) := by
  cases main with
  | none => exact .inr ⟨rfl, .inl rfl⟩
  | some instr =>
    rw [taken, fetch]
    by_cases play : instr.cmd = 2
    · rw [if_pos ⟨building, play⟩, if_pos play]
      cases playChannel instr.ch with
      | none => exact .inr ⟨rfl, .inl rfl⟩
      | some channel =>
        cases played : s.havePlay channel with
        | true =>
          refine .inr ⟨?_, .inl ?_⟩
          · exact if_pos played
          · exact if_pos played
        | false => exact .inl ⟨channel, instr.addr, instr.value, if_neg (by simp [played]), played, rfl⟩
    · rw [if_neg fun both => play both.2, if_neg play]
      refine .inr ⟨rfl, ?_⟩
      split_ifs with ends some_play
      · obtain ⟨channel, -, played⟩ := List.any_eq_true.mp some_play
        exact .inr ⟨Option.some_ne_none instr, ⟨channel, played⟩, _, _, _, rfl⟩
      · exact .inl rfl
      · exact .inl rfl

theorem moves (interleaved : Bool) (s : Sequencer) {i : ExecutorIn} (done : Bool) (running : i.clear = false) :
    Moves interleaved s i done (s.step interleaved i done) := by
  rw [step, running, if_neg Bool.false_ne_true, advance]
  cases st : s.st with
  | build =>
    dsimp only
    rcases fetch_cases i.main st with
      ⟨channel, addr, value, taken, unplayed, after⟩ | ⟨none, same | ⟨fetched, some_play, after⟩⟩
    · exact .plays channel addr value taken st unplayed (by rw [after])
    · rw [same]
      exact .quiet none rfl rfl rfl rfl (.same rfl rfl fun going => by simp [st] at going)
    · obtain ⟨pending, auto, loop, after⟩ := after
      rw [after]
      exact .quiet none rfl rfl rfl rfl (.started st fetched some_play rfl)
  | prefill =>
    have nothing : s.taken i.main = none := taken_none_of_st (by simp [st])
    dsimp only
    split_ifs with ends auto
    · exact .quiet nothing rfl rfl rfl rfl (.filled st auto ends rfl)
    · exact .quiet nothing rfl rfl rfl rfl (.ready st (by simpa using auto) ends rfl)
    · exact .quiet nothing rfl rfl rfl rfl (.same rfl rfl fun _ => by simpa using ends)
  | waitTrig =>
    have nothing : s.taken i.main = none := taken_none_of_st (by simp [st])
    dsimp only
    split_ifs with trigger
    · exact .quiet nothing rfl rfl rfl rfl (.triggered st rfl)
    · exact .quiet nothing rfl rfl rfl rfl (.same rfl rfl fun going => by simp [st] at going)
  | playing =>
    have nothing : s.taken i.main = none := taken_none_of_st (by simp [st])
    dsimp only
    split_ifs with ends loops
    · exact .reloads st ends loops rfl
    · exact .finishes st ends (by simpa using loops) rfl
    · exact .quiet nothing rfl rfl rfl rfl (.same rfl rfl fun _ => by simpa using ends)

end Sequencer

/-! ## The account -/

/-- The regions of the program, what the pass has sent of them, and what the DataMover owes. -/
structure PassBook where
  region : ChannelSel → Region
  issued : ChannelSel → List DmCommand
  owed : Owed
  /-- A program that does not loop is done, and no clear has followed. -/
  finished : Bool

namespace PassBook

def blank : PassBook := ⟨fun _ => .none, fun _ => [], [], false⟩

/-- The region of a PLAY; the interleaved one is that of all eight channels. -/
def played (interleaved : Bool) (addr : BitVec 64) (value : BitVec 32) : Region :=
  ⟨addr, if interleaved then value.toNat * 8 else value.toNat⟩

end PassBook

namespace Executor

variable (interleaved : Bool) (s : Executor) (i : ExecutorIn)

def passEnds : Bool := s.seq.st == .playing && s.prefillDone interleaved

/-- The command that is sent, and its channel. -/
def sent : List (ChannelSel × DmCommand) := if s.cmdFire i then [(s.pipe.reqSel, .ofCmdData s.pipe.cmdData)] else []

end Executor

namespace PassBook

variable (interleaved : Bool) (s : Executor) (i : ExecutorIn) (b : PassBook)

def nextRegion : ChannelSel → Region :=
  if i.clear || s.passEnds interleaved && !s.seq.loopEnable then fun _ => .none
  else match s.seq.taken i.main with
    | some (channel, addr, value) => Function.update b.region channel (played interleaved addr value)
    | none => b.region

def nextIssued (channel : ChannelSel) : List DmCommand :=
  if i.clear || s.passEnds interleaved then []
  else b.issued channel ++ ((s.sent i).filter fun entry => entry.1 = channel).map Prod.snd

def nextOwed : Owed :=
  (if i.beatFire then takeBeat b.owed else b.owed) ++ (s.sent i).map fun entry => (entry.1, entry.2.bytes / 64)

def record (_ : Executor) : PassBook where
  region := b.nextRegion interleaved s i
  issued := b.nextIssued interleaved s i
  owed := b.nextOwed s i
  finished := !i.clear && (b.finished || s.passEnds interleaved && !s.seq.loopEnable)

end PassBook

def bookedExecutor (interleaved : Bool) (base : BitVec 64) : Machine ExecutorIn (Executor × PassBook) :=
  (executor interleaved base).ledgered .blank fun s i t b => b.record interleaved s i t

/-- The lanes of a program: every channel, or CH1 for the interleaved region. -/
def Used (interleaved : Bool) (channel : ChannelSel) : Prop := interleaved = true → channel = 0

/-- The DataMover returns the beats of its commands, the host clears when it owes none,
plays regions of whole beats, and clears before the next program. -/
structure Orderly (interleaved : Bool) (s : Executor × PassBook) (i : ExecutorIn) : Prop where
  clears : i.clear = true → s.2.nextOwed s.1 i = []
  promised : i.beatFire = true → s.2.owed ≠ []
  whole : ∀ play ∈ s.1.seq.taken i.main, Used interleaved play.1 →
    64 ∣ (PassBook.played interleaved play.2.1 play.2.2).bytes
  fresh : i.clear = false → s.2.finished = true → i.main = none

instance (interleaved : Bool) (channel : ChannelSel) : Decidable (Used interleaved channel) :=
  inferInstanceAs (Decidable (_ → _))

instance (interleaved : Bool) (s : Executor × PassBook) (i : ExecutorIn) : Decidable (Orderly interleaved s i) :=
  -- regions are a finite type too, and a decision over all of them never ends
  have := Option.decidableForallMem (o := s.1.seq.taken i.main) (p := fun play => Used interleaved play.1 →
    64 ∣ (PassBook.played interleaved play.2.1 play.2.2).bytes)
  decidable_of_iff ((i.clear = true → s.2.nextOwed s.1 i = []) ∧ (i.beatFire = true → s.2.owed ≠ []) ∧
      (∀ play ∈ s.1.seq.taken i.main, Used interleaved play.1 →
        64 ∣ (PassBook.played interleaved play.2.1 play.2.2).bytes) ∧
      (i.clear = false → s.2.finished = true → i.main = none))
    ⟨fun ⟨clears, promised, whole, fresh⟩ => ⟨clears, promised, whole, fresh⟩,
      fun orderly => ⟨orderly.clears, orderly.promised, orderly.whole, orderly.fresh⟩⟩

end Xczu47dr.Bandwidth
