import Xczu47dr.Playback.ReaderDrain

/-! # The playback path in the DDR domain

The reader of `waveform_playback_path`, the clear of the FIFOs that every cancelled read is
followed by, the restart of the reader after it, and the count of prefetched frames that the
DAC domain is told of as one level.  The restart arrives from the DAC domain as a pulse.
-/

namespace Xczu47dr.Playback

/-- The parameters of `waveform_playback_path`. -/
structure DdrPathParams where
  reader : ReaderParams
  fifoDepthBeats : Nat
  startWatermark : Nat
  fifoResetGuardCycles : Nat
  watermark_pos : 1 ≤ startWatermark

def ddrPathParams : DdrPathParams where
  reader := playbackReaderParams
  fifoDepthBeats := 1024
  startWatermark := 768
  fifoResetGuardCycles := 16
  watermark_pos := by decide

structure DdrPathIn (Word : Type) where
  beginCmd : Bool
  commitCmd : Bool
  pauseCmd : Bool
  stopCmd : Bool
  abortCmd : Bool
  loopRestart : Bool
  descriptorBase : Nat
  descriptorTotalBeats : Nat
  fifoFreeBeats : Nat
  /-- `&fifo_write_ready` -/
  fifoWriteReady : Bool
  arready : Bool
  rdata : Channel → Word
  rresp : Nat
  rvalid : Bool
  rlast : Bool

structure DdrPath (Word : Type) where
  reader : DdrReader Word
  clearPending : Bool
  fifoClear : Bool
  loopRestartPending : Bool
  loopRestartStart : Bool
  loopRestartGuard : Nat
  prefetchedBeats : Nat
  prefetchComplete : Bool
  prefetchSafe : Bool

namespace DdrPath

variable {Word : Type} (p : DdrPathParams) (s : DdrPath Word) (i : DdrPathIn Word)

def reset [Inhabited Word] : DdrPath Word where
  reader := .reset
  clearPending := false
  fifoClear := false
  loopRestartPending := false
  loopRestartStart := false
  loopRestartGuard := 0
  prefetchedBeats := 0
  prefetchComplete := false
  prefetchSafe := false

/-! ## Wires -/

def readerStart : Bool := i.commitCmd || s.loopRestartStart

def readerCancel : Bool := i.beginCmd || i.pauseCmd || i.stopCmd || i.abortCmd

def readerIn : ReaderIn Word where
  start := s.readerStart i
  cancel := readerCancel i
  baseAddr := i.descriptorBase
  totalBeats := i.descriptorTotalBeats
  fifoFreeBeats := i.fifoFreeBeats
  arready := i.arready
  rdata := i.rdata
  rresp := i.rresp
  rvalid := i.rvalid
  rlast := i.rlast
  frameReady := i.fifoWriteReady

def readerFrameFire : Bool := s.reader.frameFire (s.readerIn i)

def prefetchTarget : Nat :=
  if i.descriptorTotalBeats ≤ p.fifoDepthBeats then i.descriptorTotalBeats else p.startWatermark

def levelSafe : Bool := decide (i.descriptorTotalBeats ≠ 0 ∧ prefetchTarget p i ≤ s.prefetchedBeats)

/-! ## The clocked processes -/

/-- The pending clear is given to the FIFOs once the reader is idle. -/
def clears : Bool := s.clearPending && !s.reader.busy

/-- The pending restart reaches the reader behind the clear and its guard. -/
def restarts : Bool :=
  s.loopRestartPending && !s.clearPending && !s.reader.busy && !s.fifoClear && decide (s.loopRestartGuard = 0)

def recounts : Bool := readerCancel i || i.commitCmd || i.loopRestart || s.loopRestartStart

def step : DdrPath Word where
  reader := s.reader.step p.reader (s.readerIn i)
  clearPending := !s.clears && (s.clearPending || readerCancel i || s.reader.error || i.loopRestart)
  fifoClear := s.clears
  loopRestartPending := !s.restarts && (i.loopRestart || (s.loopRestartPending && !readerCancel i))
  loopRestartStart := s.restarts
  loopRestartGuard := if s.clears then p.fifoResetGuardCycles % 2 ^ 8 else s.loopRestartGuard - 1
  prefetchedBeats :=
    if s.recounts i || s.fifoClear then 0
    else if s.readerFrameFire i ∧ s.prefetchedBeats < i.descriptorTotalBeats then s.prefetchedBeats + 1
    else s.prefetchedBeats
  prefetchComplete :=
    !s.reader.error && (s.reader.done || (s.prefetchComplete && !s.recounts i))
  prefetchSafe := !s.reader.error && s.levelSafe p i && (s.reader.busy || s.prefetchComplete)

end DdrPath

def ddrPath (Word : Type) [Inhabited Word] (p : DdrPathParams) : Clocked.Machine (DdrPathIn Word) (DdrPath Word) where
  reset := .reset
  step s i := s.step p i

end Xczu47dr.Playback
