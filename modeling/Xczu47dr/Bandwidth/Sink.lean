import Mathlib.Data.BitVec
import Xczu47dr.Clocked.Ledger

/-! # The sink of the bandwidth test

`bandwidth_sink`: eight levels that accepted beats fill and dividers drain, and the
counters of bytes, stalls and underflows, in total and by sample window.
-/

namespace Xczu47dr.Bandwidth

open Clocked

/-- The parameters of the module, `drainDiv` being `CH1_DRAIN_DIV` to `CH8_DRAIN_DIV`. -/
structure SinkParams where
  dataWidth : Nat
  fifoDepth : Nat
  interleavedMode : Bool
  pressureMode : Bool
  chDrainDiv : Fin 8 → Int

namespace SinkParams

variable (p : SinkParams)

/-- `FIFO_DEPTH[15:0]` -/
def depth : Nat := p.fifoDepth % 2 ^ 16

/-- `BEAT_BYTES_U64` -/
def beatBytes : BitVec 64 := BitVec.ofNat 64 (p.dataWidth / 8)

/-- `LANE_BYTES_U64` -/
def laneBytes : BitVec 64 := BitVec.ofNat 64 (p.dataWidth / 8 / 8)

def drainDiv (channel : Fin 8) : Nat :=
  if p.chDrainDiv channel ≤ 1 then 1 else (p.chDrainDiv channel).toNat % 2 ^ 16

end SinkParams

def deployedSink : SinkParams where
  dataWidth := 512
  fifoDepth := 1024
  interleavedMode := true
  pressureMode := true
  chDrainDiv channel := channel.val + 8

structure SinkTick where
  clear : Bool
  dmSel : Fin 8
  tvalid : Bool
  chArm : Fin 8 → Bool
  samplePeriodCycles : BitVec 32

structure BandwidthSink where
  chBytes : Fin 8 → BitVec 64
  chStallCount : Fin 8 → BitVec 32
  chUnderflowCount : Fin 8 → BitVec 32
  chLevel : Fin 8 → Nat
  chMinLevel : Fin 8 → Nat
  chMaxLevel : Fin 8 → Nat
  chDrainCount : Fin 8 → Nat
  totalBytes : BitVec 64
  totalStallCycles : BitVec 32
  totalUnderflows : BitVec 32
  sampleIndex : BitVec 32
  sampleCycleCount : BitVec 32
  sampleBytesAccum : BitVec 64
  sampleStallsAccum : BitVec 32
  sampleUnderflowsAccum : BitVec 32
  sampleBytesLow : BitVec 32
  sampleBytesHigh : BitVec 32
  sampleStalls : BitVec 32
  sampleUnderflows : BitVec 32
  sampleValid : Bool
  underflowSeen : Fin 8 → Bool

namespace BandwidthSink

variable (p : SinkParams) (s : BandwidthSink) (i : SinkTick)

def reset : BandwidthSink where
  chBytes _ := 0
  chStallCount _ := 0
  chUnderflowCount _ := 0
  chLevel _ := 0
  chMinLevel _ := p.depth
  chMaxLevel _ := 0
  chDrainCount _ := 0
  totalBytes := 0
  totalStallCycles := 0
  totalUnderflows := 0
  sampleIndex := 0
  sampleCycleCount := 0
  sampleBytesAccum := 0
  sampleStallsAccum := 0
  sampleUnderflowsAccum := 0
  sampleBytesLow := 0
  sampleBytesHigh := 0
  sampleStalls := 0
  sampleUnderflows := 0
  sampleValid := false
  underflowSeen _ := false

def selectedReady : Bool := s.chLevel i.dmSel < p.depth

def full (channel : Fin 8) : Bool := i.chArm channel && p.depth ≤ s.chLevel channel

def interleavedReady : Bool := !(List.finRange 8).any (s.full p i)

/-- `s_axis_tready` -/
def tready : Bool :=
  if p.interleavedMode && p.pressureMode then true
  else if p.interleavedMode then s.interleavedReady p i
  else s.selectedReady p i

def beatFire : Bool := i.tvalid && s.tready p i

def stalled : Bool := i.tvalid && !s.tready p i

def closes : Bool := i.samplePeriodCycles != 0 && i.samplePeriodCycles ≤ s.sampleCycleCount + 1

def fillDue (channel : Fin 8) : Bool :=
  if p.interleavedMode then s.beatFire p i && i.chArm channel else s.beatFire p i && i.dmSel == channel

def consumeDue (channel : Fin 8) : Bool :=
  i.chArm channel && p.drainDiv channel ≤ (s.chDrainCount channel + 1) % 2 ^ 16

/-- Something is to be consumed and nothing is there. -/
def underflows (channel : Fin 8) : Bool :=
  s.consumeDue p i channel && !s.fillDue p i channel && s.chLevel channel == 0

def nextLevel (channel : Fin 8) : Nat :=
  if s.consumeDue p i channel && s.fillDue p i channel then s.chLevel channel
  else if s.consumeDue p i channel then
    if s.chLevel channel != 0 then s.chLevel channel - 1 else s.chLevel channel
  else if s.fillDue p i channel && s.chLevel channel != p.depth then (s.chLevel channel + 1) % 2 ^ 16
  else s.chLevel channel

/-- All assignments of one cycle to the totals read the old values: of several underflows in one
cycle the last counts, and an event overrides the clearing of its accumulator. -/
def step : BandwidthSink :=
  if i.clear then reset p
  else
    { chBytes := fun channel =>
        if p.interleavedMode then
          if s.beatFire p i && i.chArm channel then s.chBytes channel + p.laneBytes else s.chBytes channel
        else if s.beatFire p i && i.dmSel == channel then s.chBytes channel + p.beatBytes
        else s.chBytes channel
      chStallCount := fun channel =>
        if s.stalled p i && (if p.interleavedMode then s.full p i channel else i.dmSel == channel) then
          s.chStallCount channel + 1
        else s.chStallCount channel
      chUnderflowCount := fun channel =>
        if s.underflows p i channel then s.chUnderflowCount channel + 1 else s.chUnderflowCount channel
      chLevel := s.nextLevel p i
      chMinLevel := fun channel =>
        if s.nextLevel p i channel < s.chMinLevel channel then s.nextLevel p i channel else s.chMinLevel channel
      chMaxLevel := fun channel =>
        if s.chMaxLevel channel < s.nextLevel p i channel then s.nextLevel p i channel else s.chMaxLevel channel
      chDrainCount := fun channel =>
        if i.chArm channel && !s.consumeDue p i channel then (s.chDrainCount channel + 1) % 2 ^ 16 else 0
      totalBytes := if s.beatFire p i then s.totalBytes + p.beatBytes else s.totalBytes
      totalStallCycles := if s.stalled p i then s.totalStallCycles + 1 else s.totalStallCycles
      totalUnderflows :=
        if (List.finRange 8).any (s.underflows p i) then s.totalUnderflows + 1 else s.totalUnderflows
      sampleIndex := if s.closes i then s.sampleIndex + 1 else s.sampleIndex
      sampleCycleCount :=
        if s.closes i then 0
        else if i.samplePeriodCycles != 0 then s.sampleCycleCount + 1
        else s.sampleCycleCount
      sampleBytesAccum :=
        if s.beatFire p i then s.sampleBytesAccum + p.beatBytes
        else if s.closes i then 0
        else s.sampleBytesAccum
      sampleStallsAccum :=
        if s.stalled p i then s.sampleStallsAccum + 1
        else if s.closes i then 0
        else s.sampleStallsAccum
      sampleUnderflowsAccum :=
        if (List.finRange 8).any (s.underflows p i) then s.sampleUnderflowsAccum + 1
        else if s.closes i then 0
        else s.sampleUnderflowsAccum
      sampleBytesLow := if s.closes i then s.sampleBytesAccum.extractLsb' 0 32 else s.sampleBytesLow
      sampleBytesHigh := if s.closes i then s.sampleBytesAccum.extractLsb' 32 32 else s.sampleBytesHigh
      sampleStalls := if s.closes i then s.sampleStallsAccum else s.sampleStalls
      sampleUnderflows := if s.closes i then s.sampleUnderflowsAccum else s.sampleUnderflows
      sampleValid := s.closes i
      underflowSeen := fun channel => s.underflowSeen channel || s.underflows p i channel }

end BandwidthSink

def bandwidthSink (p : SinkParams) : Machine SinkTick BandwidthSink where
  reset := .reset p
  step := .step p

/-! ## The ledger -/

/-- What has happened since the sink was last cleared. -/
structure SinkLedger where
  /-- Accepted beats. -/
  beats : Nat
  /-- The sums of the windows that have been reported. -/
  bytes : BitVec 64
  stalls : BitVec 32
  underflows : BitVec 32
  fills : Fin 8 → Nat
  consumptions : Fin 8 → Nat
  /-- Fills of a full channel. -/
  dropped : Fin 8 → Nat
  /-- Consumptions of an empty channel. -/
  missed : Fin 8 → Nat
  /-- The levels reached, the last one first. -/
  levels : Fin 8 → List Nat

namespace SinkLedger

def blank : SinkLedger := ⟨0, 0, 0, 0, fun _ => 0, fun _ => 0, fun _ => 0, fun _ => 0, fun _ => []⟩

/-- A window is entered as it is reported, in the cycle in which `sample_valid` is up. -/
def record (p : SinkParams) (s : BandwidthSink) (i : SinkTick) (s' : BandwidthSink) (l : SinkLedger) : SinkLedger :=
  if i.clear then blank
  else
    { beats := l.beats + (s.beatFire p i).toNat
      bytes := if s'.sampleValid then l.bytes + (s'.sampleBytesHigh ++ s'.sampleBytesLow) else l.bytes
      stalls := if s'.sampleValid then l.stalls + s'.sampleStalls else l.stalls
      underflows := if s'.sampleValid then l.underflows + s'.sampleUnderflows else l.underflows
      fills := fun channel => l.fills channel + (s.fillDue p i channel).toNat
      consumptions := fun channel => l.consumptions channel + (s.consumeDue p i channel).toNat
      dropped := fun channel => l.dropped channel +
        (s.fillDue p i channel && !s.consumeDue p i channel && s.chLevel channel == p.depth).toNat
      missed := fun channel => l.missed channel + (s.underflows p i channel).toNat
      levels := fun channel => s'.chLevel channel :: l.levels channel }

end SinkLedger

def ledgeredSink (p : SinkParams) : Machine SinkTick (BandwidthSink × SinkLedger) :=
  (bandwidthSink p).ledgered .blank (SinkLedger.record p)

end Xczu47dr.Bandwidth
