import Xczu47dr.Clocked.Machine
import Xczu47dr.Clocked.Progress
import Xczu47dr.Codes.Thermometer

/-! # The encoder of the taps

`tdc_event_capture` from the sampled carry chain to the decision about an event: the
slots between two edges of the reference, the bubble filter, the encoder of each group
of eight taps, and the reduction of the groups one stage later.  The number of groups
is a power of two.
-/

namespace Xczu47dr.Tdc

open Clocked Machine Codes

/-- `GROUPS`, for `GROUP_BITS` -/
abbrev groupCount (groupBits : Nat) : Nat := 2 ^ groupBits

/-- `TAPS` -/
abbrev tapCount (groupBits : Nat) : Nat := groupCount groupBits * 8

/-- What is sampled at one clock edge: the carry chain, `ready || ref_changed`,
    `capture_slot` and `capture_epoch`. -/
structure Sample (groupBits : Nat) where
  carry : BitVec (tapCount groupBits)
  ready : Bool
  slot : BitVec 2
  epoch : BitVec 32

/-- The registers of the encoder, `sampled` to `epoch_s3`. -/
structure TapEncoder (groupBits : Nat) where
  sampled : BitVec (tapCount groupBits)
  slotS1 : BitVec 2
  epochS1 : BitVec 32
  readyS1 : Bool
  groupNonzero : Nat → Bool
  groupFull : Nat → Bool
  groupBoundary : Nat → Bool
  groupMultiBoundary : Nat → Bool
  groupIndex : Nat → Nat
  headS2 : Bool
  slotS2 : BitVec 2
  epochS2 : BitVec 32
  readyS2 : Bool
  armed : Bool
  validS3 : Bool
  goodS3 : Bool
  overflowS3 : Bool
  bubbleS3 : Bool
  tapS3 : Nat
  slotS3 : BitVec 2
  epochS3 : BitVec 32

namespace TapEncoder

variable {groupBits : Nat}

def reset : TapEncoder groupBits where
  sampled := 0
  slotS1 := 0
  epochS1 := 0
  readyS1 := false
  groupNonzero := fun _ => false
  groupFull := fun _ => false
  groupBoundary := fun _ => false
  groupMultiBoundary := fun _ => false
  groupIndex := fun _ => 0
  headS2 := false
  slotS2 := 0
  epochS2 := 0
  readyS2 := false
  armed := true
  validS3 := false
  goodS3 := false
  overflowS3 := false
  bubbleS3 := false
  tapS3 := 0
  slotS3 := 0
  epochS3 := 0

/-! ## A group of taps -/

/-- `wire[low +: 8]` -/
def octet (wire : Nat → Bool) (low : Nat) : BitVec 8 := .ofBoolListLE ((List.range 8).map fun q => wire (low + q))

section Group

variable (sampled : BitVec (tapCount groupBits)) (g : Nat)

/-- `filtered`: the two ends pass, every other tap is the majority of itself and its neighbours. -/
def filtered : Bool :=
  if g = 0 ∨ g + 1 = tapCount groupBits then sampled.getLsbD g
  else (sampled.getLsbD (g - 1) && sampled.getLsbD g) || (sampled.getLsbD g && sampled.getLsbD (g + 1)) ||
    (sampled.getLsbD (g - 1) && sampled.getLsbD (g + 1))

/-- `{1'b0, filtered}` -/
def sampledExtended : Bool := if g < tapCount groupBits then filtered sampled g else false

def bitsLocal : BitVec 8 := octet (filtered sampled) (g * 8)

def bitsNext : BitVec 8 := octet (sampledExtended sampled) (g * 8 + 1)

def boundary : BitVec 8 := bitsLocal sampled g &&& ~~~bitsNext sampled g

end Group

/-- The loop over the bits of a group: the last boundary wins. -/
def highestBoundaryIndex (boundary : BitVec 8) : Nat := lastHit boundary.getLsbD id 0 8

/-! ## The reduction of the groups -/

section Reduction

variable (s : TapEncoder groupBits)

def encodedGroup : Nat := lastHit s.groupBoundary (fun n => n % 2 ^ groupBits) 0 (groupCount groupBits)

def encodedLocal : Nat := lastHit s.groupBoundary s.groupIndex 0 (groupCount groupBits)

def boundaryFound : Bool := (List.range (groupCount groupBits)).any s.groupBoundary

def sampleZero : Bool := !(List.range (groupCount groupBits)).any s.groupNonzero

def sampleFull : Bool := (List.range (groupCount groupBits)).all s.groupFull

def sampleBad : Bool :=
  !s.headS2 || !s.boundaryFound || s.sampleFull || (List.range (groupCount groupBits)).any s.groupMultiBoundary

/-- `{encoded_group, encoded_local}` -/
def decodedTap : Nat := s.encodedGroup * 8 + s.encodedLocal

def captures : Bool := !s.sampleZero && s.armed && s.readyS2

def step (i : Sample groupBits) : TapEncoder groupBits where
  sampled := i.carry
  slotS1 := i.slot
  epochS1 := i.epoch
  readyS1 := i.ready
  groupNonzero g := bitsLocal s.sampled g != 0
  groupFull g := bitsLocal s.sampled g == BitVec.allOnes 8
  groupBoundary g := boundary s.sampled g != 0
  groupMultiBoundary g := boundary s.sampled g != 0 && (boundary s.sampled g &&& (boundary s.sampled g - 1)) != 0
  groupIndex g := highestBoundaryIndex (boundary s.sampled g)
  headS2 := filtered s.sampled 0
  slotS2 := s.slotS1
  epochS2 := s.epochS1
  readyS2 := s.readyS1
  armed := if s.sampleZero then true else if s.captures then false else s.armed
  validS3 := s.captures
  goodS3 := if s.captures then !s.sampleFull && !s.sampleBad else s.goodS3
  overflowS3 := if s.captures then s.sampleFull else s.overflowS3
  bubbleS3 := if s.captures then !s.sampleFull && s.sampleBad else s.bubbleS3
  tapS3 := if s.captures then (if s.sampleBad then 0 else s.decodedTap) else s.tapS3
  slotS3 := if s.captures then s.slotS2 else s.slotS3
  epochS3 := if s.captures then s.epochS2 else s.epochS3

end Reduction

end TapEncoder

/-- The encoder as a machine: one input for each edge of `sample_clk`. -/
def tapEncoder (groupBits : Nat) : Machine (Sample groupBits) (TapEncoder groupBits) where
  reset := .reset
  step := TapEncoder.step

/-! ## The reference -/

/-- The registers that place a sample between the edges of the reference, `ref_toggle_half` to
    `ready`. -/
structure Reference where
  refToggleHalf : Bool
  refEpochHalf : BitVec 32
  refSeen : Bool
  nextSlot : BitVec 2
  nextEpoch : BitVec 32
  ready : Bool

/-- The carry chain at a rising edge, and the reference at the falling edge after it. -/
structure CaptureEdge (groupBits : Nat) where
  carry : BitVec (tapCount groupBits)
  refToggle : Bool
  refEpoch : BitVec 32

namespace Reference

variable {groupBits : Nat} (r : Reference) (i : CaptureEdge groupBits)

def reset : Reference := ⟨false, 0, false, 0, 0, false⟩

def refChanged : Bool := r.refToggleHalf != r.refSeen

/-- What the encoder is given at a rising edge. -/
def sample : Sample groupBits where
  carry := i.carry
  ready := r.ready || r.refChanged
  slot := if r.refChanged then 3 else r.nextSlot
  epoch := if r.refChanged then r.refEpochHalf else r.nextEpoch

/-- A rising edge, and the falling edge after it. -/
def step : Reference where
  refToggleHalf := i.refToggle
  refEpochHalf := i.refEpoch
  refSeen := if r.refChanged then r.refToggleHalf else r.refSeen
  nextSlot := if r.refChanged then 0 else if r.ready then r.nextSlot + 1 else r.nextSlot
  nextEpoch :=
    if r.refChanged then r.refEpochHalf + 1
    else if r.ready && r.nextSlot == 3 then r.nextEpoch + 1
    else r.nextEpoch
  ready := if r.refChanged then true else r.ready && r.nextSlot != 3

end Reference

def tdcEventCapture (groupBits : Nat) : Machine (CaptureEdge groupBits) (Reference × TapEncoder groupBits) where
  reset := (.reset, .reset)
  step s i := (s.1.step i, s.2.step (s.1.sample i))

/-- In the module the encoder runs on the samples of the reference. -/
theorem capture_trace {groupBits : Nat} (edges : Nat → CaptureEdge groupBits) (n : Nat) :
    ((tdcEventCapture groupBits).trace edges n).2 =
      (tapEncoder groupBits).trace (fun k => ((tdcEventCapture groupBits).trace edges k).1.sample (edges k)) n := by
  induction n with
  | zero => rfl
  | succ n ih =>
    change TapEncoder.step _ _ = TapEncoder.step _ _
    rw [ih]

end Xczu47dr.Tdc
