import Mathlib.Data.Fintype.Fin
import Mathlib.Data.List.FinRange
import Mathlib.Order.Lattice
import Mathlib.Tactic.FinCases
import Xczu47dr.Playback.DdrReader

/-! # The FIFO mask adapter

`waveform_fifo_mask_adapter` fits the eight physical lane FIFOs to the channel
mask of the descriptor: the per-lane frame handshake is combinational, the
reader credit is the end of a four-stage register pipeline over the masked lane
levels.
-/

namespace Xczu47dr.Playback

/-- `FIFO_DEPTH` of the production instance. -/
def fifoDepth : Nat := 1024

/-- `COUNT_W = $clog2(FIFO_DEPTH + 1)`. -/
def countW : Nat := 11

/-- The pipeline registers of `waveform_fifo_mask_adapter`. -/
@[ext (iff := false)]
structure FifoMaskAdapter where
  lvlS1 : Channel → Nat
  haveActiveS1 : Bool
  pairS2 : Fin 4 → Nat
  haveActiveS2 : Bool
  maxS3 : Nat
  haveActiveS3 : Bool
  creditS4 : Nat

/-- The inputs of `waveform_fifo_mask_adapter`. -/
structure AdapterIn where
  channelMask : Channel → Bool
  readerValid : Bool
  fifoReadyActual : Channel → Bool
  fifoWrCounts : Channel → Nat

/-- Minimum and maximum level over the enabled lanes scanned so far. -/
structure ActiveLevels where
  haveActive : Bool
  levelMin : Nat
  levelMax : Nat

namespace AdapterIn

variable (i : AdapterIn)

/-- `fifo_ready_path`: a disabled lane counts as ready. -/
def fifoReadyPath (ch : Channel) : Bool :=
  if i.channelMask ch then i.fifoReadyActual ch else true

/-- `fifo_valid_lane`. -/
def fifoValidLane (ch : Channel) : Bool := i.readerValid && i.channelMask ch

/-- The 32-bit count saturated into `COUNT_W` bits. -/
def levelValue (ch : Channel) : Nat :=
  if i.fifoWrCounts ch / 2 ^ countW ≠ 0 ∨ fifoDepth ≤ i.fifoWrCounts ch % 2 ^ countW then fifoDepth
  else i.fifoWrCounts ch % 2 ^ countW

/-- `masked_level_c`: a disabled lane contributes 0. -/
def maskedLevel (ch : Channel) : Nat := if i.channelMask ch then i.levelValue ch else 0

def haveActive : Bool := (List.finRange 8).any i.channelMask

/-- The loop over the lanes that computes the status levels. -/
def activeLevels : ActiveLevels :=
  (List.finRange 8).foldl
    (fun acc ch =>
      if i.channelMask ch then
        { haveActive := true
          levelMin := if !acc.haveActive || i.levelValue ch < acc.levelMin then i.levelValue ch
            else acc.levelMin
          levelMax := if !acc.haveActive || acc.levelMax < i.levelValue ch then i.levelValue ch
            else acc.levelMax }
      else acc)
    { haveActive := false, levelMin := fifoDepth, levelMax := 0 }

/-- `min_level`. -/
def minLevel : Nat := if i.activeLevels.haveActive then i.activeLevels.levelMin else 0

/-- `min_free`. -/
def minFree : Nat := if i.activeLevels.haveActive then fifoDepth - i.activeLevels.levelMax else 0

/-- The saturating conversion pins an out-of-range count to the depth. -/
theorem levelValue_eq_min (ch : Channel) : i.levelValue ch = min (i.fifoWrCounts ch) fifoDepth := by
  unfold levelValue countW fifoDepth
  split
  · omega
  · rename_i inRange
    rw [not_or, not_not, not_le] at inRange
    omega

end AdapterIn

namespace FifoMaskAdapter

def reset : FifoMaskAdapter where
  lvlS1 := fun _ => 0
  haveActiveS1 := false
  pairS2 := fun _ => 0
  haveActiveS2 := false
  maxS3 := 0
  haveActiveS3 := false
  creditS4 := 0

variable (s : FifoMaskAdapter) (i : AdapterIn)

/-- The two lanes whose levels stage 2 compares into pair `k`. -/
def pairMax (k : Fin 4) : Nat :=
  max (s.lvlS1 ⟨2 * k.val, by omega⟩) (s.lvlS1 ⟨2 * k.val + 1, by omega⟩)

/-- One clock edge of the credit pipeline: masked level, pairwise maxima, overall
    maximum, free depth. -/
def step : FifoMaskAdapter where
  lvlS1 := i.maskedLevel
  haveActiveS1 := i.haveActive
  pairS2 := s.pairMax
  haveActiveS2 := s.haveActiveS1
  maxS3 := max (max (s.pairS2 0) (s.pairS2 1)) (max (s.pairS2 2) (s.pairS2 3))
  haveActiveS3 := s.haveActiveS2
  creditS4 := if s.haveActiveS3 then fifoDepth - s.maxS3 else 0

/-- `reader_credit`. -/
def readerCredit : Nat := s.creditS4

theorem lvlS1_le_pairMax (ch : Channel) : s.lvlS1 ch ≤ s.pairMax ⟨ch.val / 2, by omega⟩ := by
  fin_cases ch <;> simp [pairMax]

theorem pairS2_le_step_maxS3 (k : Fin 4) : s.pairS2 k ≤ (s.step i).maxS3 := by
  fin_cases k <;> simp [step]

end FifoMaskAdapter

end Xczu47dr.Playback
