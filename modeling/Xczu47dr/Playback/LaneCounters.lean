import Xczu47dr.Playback.FramePath
import Xczu47dr.Playback.ReaderInvariant

/-! # The frame path over counted lane FIFOs

Each lane FIFO is a counter of capacity `fifoDepth`.  Its write count includes
every write accepted up to the previous cycle, it is ready while it is not full,
and it loses any number of words in a cycle: the read side has its own clock.
-/

namespace Xczu47dr.Playback

variable {Word : Type}

/-- The frame path with the level of every lane FIFO. -/
structure LaneCounters (Word : Type) where
  path : FramePath Word
  level : Channel → Nat
  /-- Ghost: a frame was written this many cycles and one more ago.  No wire reads it. -/
  written : Fin 5 → Bool

/-- What the counted path samples at one clock edge. -/
structure LaneCountersIn (Word : Type) where
  start : Bool
  cancel : Bool
  baseAddr : Nat
  totalBeats : Nat
  arready : Bool
  rdata : Channel → Word
  rresp : Nat
  rvalid : Bool
  rlast : Bool
  laneReads : Channel → Nat

namespace LaneCounters

variable (p : ReaderParams) (mask : Channel → Bool) (s : LaneCounters Word) (i : LaneCountersIn Word)

def reset [Inhabited Word] : LaneCounters Word where
  path := .reset
  level := fun _ => 0
  written := fun _ => false

/-- The inputs of the frame path: readies and write counts come from the levels. -/
def pathIn : FramePathIn Word where
  start := i.start
  cancel := i.cancel
  baseAddr := i.baseAddr
  totalBeats := i.totalBeats
  arready := i.arready
  rdata := i.rdata
  rresp := i.rresp
  rvalid := i.rvalid
  rlast := i.rlast
  fifoReady := fun ch => decide (s.level ch < fifoDepth)
  fifoWrCounts := s.level

def readerIn : ReaderIn Word := s.path.readerIn (s.pathIn i)

/-- All enabled lanes take the presented frame in this cycle. -/
def frameWritten : Bool := s.path.reader.frameFire (s.readerIn i)

def step : LaneCounters Word where
  path := s.path.step p mask (s.pathIn i)
  level := fun ch => s.level ch - i.laneReads ch + (s.path.laneAccepted (s.pathIn i) ch).length
  written := Fin.cons (s.frameWritten i) (Fin.init s.written)

/-- The frames written in the last `n` cycles. -/
def recentWrites (n : Nat) : Nat :=
  ((List.finRange 5).take n).countP s.written

@[simp] theorem step_reader : (s.step p mask i).path.reader = s.path.reader.step p (s.readerIn i) := rfl

@[simp] theorem step_creditMask : (s.step p mask i).path.creditMask = mask := rfl

@[simp] theorem step_adapter : (s.step p mask i).path.adapter =
    s.path.adapter.step (s.path.adapterIn (s.pathIn i)) := rfl

@[simp] theorem step_readerCredit : (s.step p mask i).path.readerCredit = s.path.adapter.creditS4 := rfl

@[simp] theorem recentWrites_zero : s.recentWrites 0 = 0 := rfl

/-- The window moves by one cycle and takes in this cycle's write. -/
theorem recentWrites_step {n : Nat} (inWindow : n < 5) :
    (s.step p mask i).recentWrites (n + 1) = (s.frameWritten i).toNat + s.recentWrites n := by
  have range : List.finRange 5 = 0 :: (List.finRange 4).map Fin.succ := List.finRange_succ
  have init : List.finRange 5 = (List.finRange 4).map Fin.castSucc ++ [Fin.last 4] :=
    List.finRange_succ_last
  have short : ((List.finRange 5).take n) = ((List.finRange 4).take n).map Fin.castSucc := by
    rw [init, List.take_append_of_le_length (by simp; omega), List.map_take]
  unfold recentWrites
  rw [short, range, List.take_succ_cons, List.countP_cons, ← List.map_take, List.countP_map,
    List.countP_map]
  have moved : (s.step p mask i).written ∘ Fin.succ = s.written ∘ Fin.castSucc := by
    funext k
    rfl
  have now : (s.step p mask i).written 0 = s.frameWritten i := rfl
  rw [moved, now, Nat.add_comm]
  cases s.frameWritten i <;> rfl

end LaneCounters

/-- The counted path as a machine, the descriptor mask held fixed. -/
def laneCounters (Word : Type) [Inhabited Word] (p : ReaderParams) (mask : Channel → Bool) :
    Clocked.Machine (LaneCountersIn Word) (LaneCounters Word) where
  reset := .reset
  step s i := s.step p mask i

end Xczu47dr.Playback
