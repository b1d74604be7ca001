import Mathlib.Data.List.FinRange
import Xczu47dr.Playback.FifoMaskAdapter

/-! # The frame path from the reader to the lane FIFOs

The wiring of `Top` and `waveform_playback_path` around the reader: the frame
handshake is the conjunction of the adapter's lane readies, the credit reaches
the reader through one more register, and each lane FIFO is written by its own
valid and its own ready.  The readies and write counts of the FIFOs are inputs.
-/

namespace Xczu47dr.Playback

variable {Word : Type}

/-- The registers between the AXI read channel and the lane FIFOs. -/
@[ext (iff := false)]
structure FramePath (Word : Type) where
  reader : DdrReader Word
  adapter : FifoMaskAdapter
  /-- `wave_fifo_credit_mask_ddr_reg` -/
  creditMask : Channel → Bool
  /-- `wave_fifo_reader_credit_ddr_reg` -/
  readerCredit : Nat

/-- What the path samples at one clock edge: the reader commands, the AXI read
    channel and the state of the lane FIFOs. -/
structure FramePathIn (Word : Type) where
  start : Bool
  cancel : Bool
  baseAddr : Nat
  totalBeats : Nat
  arready : Bool
  rdata : Channel → Word
  rresp : Nat
  rvalid : Bool
  rlast : Bool
  fifoReady : Channel → Bool
  fifoWrCounts : Channel → Nat

namespace FramePath

variable (p : ReaderParams) (mask : Channel → Bool) (s : FramePath Word) (i : FramePathIn Word)

def reset [Inhabited Word] : FramePath Word where
  reader := .reset
  adapter := .reset
  creditMask := fun _ => false
  readerCredit := 0

/-- The inputs of `waveform_fifo_mask_adapter_i`. -/
def adapterIn : AdapterIn where
  channelMask := s.creditMask
  readerValid := s.reader.frameValid
  fifoReadyActual := i.fifoReady
  fifoWrCounts := i.fifoWrCounts

/-- `reader_frame_ready = &fifo_write_ready`. -/
def frameReady : Bool := (List.finRange 8).all (s.adapterIn i).fifoReadyPath

/-- The inputs of `u_reader`. -/
def readerIn : ReaderIn Word where
  start := i.start
  cancel := i.cancel
  baseAddr := i.baseAddr
  totalBeats := i.totalBeats
  fifoFreeBeats := s.readerCredit
  arready := i.arready
  rdata := i.rdata
  rresp := i.rresp
  rvalid := i.rvalid
  rlast := i.rlast
  frameReady := s.frameReady i

/-- One DDR clock edge, the descriptor holding `mask`. -/
def step : FramePath Word where
  reader := s.reader.step p (s.readerIn i)
  adapter := s.adapter.step (s.adapterIn i)
  creditMask := mask
  readerCredit := s.adapter.readerCredit

/-! ## What the handshakes move -/

/-- The frame the reader retires in this cycle. -/
def retired : List (Frame Word) :=
  if s.reader.frameFire (s.readerIn i) then [s.reader.assembling] else []

/-- The word the FIFO of lane `ch` accepts in this cycle. -/
def laneAccepted (ch : Channel) : List (LaneWord Word) :=
  if (s.adapterIn i).fifoValidLane ch && i.fifoReady ch then [s.reader.assembling ch] else []

theorem frameReady_iff : s.frameReady i = true ↔ ∀ ch, s.creditMask ch = true → i.fifoReady ch = true := by
  simp only [frameReady, List.all_eq_true, List.mem_finRange, true_implies, AdapterIn.fifoReadyPath,
    adapterIn]
  refine forall_congr' fun ch => ?_
  cases s.creditMask ch <;> simp

theorem frameFire_iff : s.reader.frameFire (s.readerIn i) = true ↔
    s.reader.frameValid = true ∧ ∀ ch, s.creditMask ch = true → i.fifoReady ch = true := by
  simp only [DdrReader.frameFire, readerIn, Bool.and_eq_true, frameReady_iff]

theorem laneAccepted_disabled {ch : Channel} (disabled : s.creditMask ch = false) :
    s.laneAccepted i ch = [] := by
  simp [laneAccepted, AdapterIn.fifoValidLane, adapterIn, disabled]

theorem laneAccepted_enabled {ch : Channel} (enabled : s.creditMask ch = true) :
    s.laneAccepted i ch =
      if s.reader.frameValid && i.fifoReady ch then [s.reader.assembling ch] else [] := by
  simp [laneAccepted, AdapterIn.fifoValidLane, adapterIn, enabled]

end FramePath

/-- The frame path as a machine, the descriptor mask held fixed. -/
def framePath (Word : Type) [Inhabited Word] (p : ReaderParams) (mask : Channel → Bool) :
    Clocked.Machine (FramePathIn Word) (FramePath Word) where
  reset := .reset
  step s i := s.step p mask i

end Xczu47dr.Playback
