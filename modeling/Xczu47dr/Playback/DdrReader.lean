import Mathlib.Data.Nat.Basic
import Mathlib.Logic.Function.Basic
import Xczu47dr.Clocked.Machine

/-! # The DDR waveform reader

`waveform_ddr_reader`: one AXI4 read engine in the DDR clock domain.  Four
64-byte read beats form one frame, a 32-byte DAC beat for each of eight
channels.  The state is the register file of the module, the step function its
clocked process; the combinational wires keep their names.  The read data is
only ever moved, so a 64-bit word of it is a type parameter.
-/

namespace Xczu47dr.Playback

abbrev Channel := Fin 8

/-- The four 64-bit slices of one channel's 256-bit DAC beat. -/
abbrev LaneWord (Word : Type) := Fin 4 → Word

/-- A complete interleaved frame: `frame_data[channel*256 +: 256]` is the DAC
    beat of `channel`. -/
abbrev Frame (Word : Type) := Channel → LaneWord Word

/-- The parameters of `waveform_ddr_reader`, within the limits its `initial`
    block checks. -/
structure ReaderParams where
  maxOutstanding : Nat
  burstFrames : Nat
  timeoutCycles : Nat
  outstanding_pow : ∃ k, 1 ≤ k ∧ k ≤ 10 ∧ maxOutstanding = 2 ^ k
  burst_pos : 1 ≤ burstFrames
  burst_le : burstFrames ≤ 16
  timeout_pos : 1 ≤ timeoutCycles

/-- The values `waveform_playback_path` instantiates the reader with. -/
def playbackReaderParams : ReaderParams where
  maxOutstanding := 4
  burstFrames := 8
  timeoutCycles := 300000
  outstanding_pow := ⟨2, by decide, by decide, rfl⟩
  burst_pos := by decide
  burst_le := by decide
  timeout_pos := by decide

/-- `FIFO_CREDIT_MAX`: the 1024-entry DAC FIFO contract. -/
def fifoCreditMax : Nat := 1024

/-- The registers of `waveform_ddr_reader`. -/
@[ext (iff := false)]
structure DdrReader (Word : Type) where
  araddr : Nat
  arlen : Nat
  arvalid : Bool
  assembling : Frame Word
  frameValid : Bool
  busy : Bool
  done : Bool
  error : Bool
  errorCode : Nat
  errorOffset : Nat
  burstLengths : Nat → Nat
  head : Nat
  tail : Nat
  outstanding : Nat
  issueAddr : Nat
  returnOffset : Nat
  remaining : Nat
  reserved : Nat
  pendingFrames : Nat
  watchdog : Nat
  returnedInBurst : Nat
  slice : Fin 4
  cancelled : Bool

/-- The inputs of `waveform_ddr_reader` sampled at one clock edge. -/
structure ReaderIn (Word : Type) where
  start : Bool
  cancel : Bool
  baseAddr : Nat
  totalBeats : Nat
  fifoFreeBeats : Nat
  arready : Bool
  rdata : Channel → Word
  rresp : Nat
  rvalid : Bool
  rlast : Bool
  frameReady : Bool

namespace DdrReader

variable {Word : Type} (p : ReaderParams) (s : DdrReader Word) (i : ReaderIn Word)

def reset [Inhabited Word] : DdrReader Word where
  araddr := 0
  arlen := 0
  arvalid := false
  assembling := fun _ _ => default
  frameValid := false
  busy := false
  done := false
  error := false
  errorCode := 0
  errorOffset := 0
  burstLengths := fun _ => 0
  head := 0
  tail := 0
  outstanding := 0
  issueAddr := 0
  returnOffset := 0
  remaining := 0
  reserved := 0
  pendingFrames := 0
  watchdog := 0
  returnedInBurst := 0
  slice := 0
  cancelled := false

/-! ## Combinational wires -/

def arFire : Bool := s.arvalid && i.arready

def rready : Bool := s.busy && s.outstanding != 0 && (!s.frameValid || i.frameReady)

def rFire : Bool := i.rvalid && s.rready i

def frameFire : Bool := s.frameValid && i.frameReady

def retiring : Bool := s.rFire i && i.rlast

def rFault : Bool :=
  s.rFire i && (i.rresp != 0 || i.rlast != (s.returnedInBurst + 1 == s.burstLengths s.head))

def draining : Bool := s.cancelled || i.cancel || s.error || s.rFault i

/-- `fifo_free_credit`: the free count saturated to eleven bits. -/
def fifoFreeCredit : Nat :=
  if i.fifoFreeBeats / 2048 ≠ 0 then fifoCreditMax else i.fifoFreeBeats % 2048

/-- The burst length the parameters and the remaining count allow. -/
def burstClamp : Nat :=
  if p.burstFrames = 1 then
    if s.remaining ≠ 0 then 1 else 0
  else if s.remaining / 128 = 0 ∧ s.remaining % 128 < p.burstFrames then s.remaining % 128
  else p.burstFrames

/-- `page_frames`: the frames left in the current 4 KiB page. -/
def pageFrames : Nat := 16 - s.issueAddr / 256 % 16

/-- `proposed_frames`: the burst clamped by page and by unreserved credit. -/
def proposedFrames : Nat :=
  let clamped := min (s.pageFrames) (s.burstClamp p)
  if fifoFreeCredit i ≤ s.reserved then 0
  else min (fifoFreeCredit i - s.reserved) clamped

/-- `reserve_new`: a burst is reserved and its address presented. -/
def reserveNew : Bool :=
  s.busy && !s.draining i && !s.arvalid && s.remaining != 0 &&
    (if p.burstFrames = 1 then s.outstanding == 0 else decide (s.outstanding < p.maxOutstanding)) &&
    s.proposedFrames p i != 0

/-- The bus owes no progress, so the watchdog rests. -/
def watchdogRests : Bool :=
  s.arFire i || s.rFire i || (!s.arvalid && s.outstanding == 0) || (!s.arvalid && !s.rready i)

/-- The last burst has retired and nothing more will be issued. -/
def finished : Bool :=
  !s.arvalid && s.outstanding == 0 && !s.frameValid &&
    (s.remaining == 0 || s.cancelled || i.cancel || s.error)

def timesOut : Bool :=
  !s.watchdogRests i && !s.error && s.watchdog == p.timeoutCycles - 1

/-! ## The clocked process -/

/-- `start && !busy`. -/
def begin : DdrReader Word :=
  let bad := i.baseAddr % 256 ≠ 0 ∨ i.totalBeats = 0 ∨
    (i.baseAddr + i.totalBeats * 256) % 2 ^ 64 < i.baseAddr
  { s with
    done := false
    error := decide bad
    errorCode := if bad then 4 else 0
    errorOffset := if bad then i.baseAddr else 0
    busy := !decide bad
    cancelled := false
    issueAddr := i.baseAddr
    returnOffset := 0
    remaining := i.totalBeats
    head := 0
    tail := 0
    outstanding := 0
    reserved := 0
    watchdog := 0
    returnedInBurst := 0
    slice := 0
    frameValid := false }

/-- One cycle of a busy reader.  Each register takes the last assignment the
    process makes to it. -/
def advance : DdrReader Word :=
  let reserve := s.reserveNew p i
  let proposed := s.proposedFrames p i
  let drop := s.draining i
  { araddr := if reserve then s.issueAddr else s.araddr
    arlen := if reserve then (proposed * 4 + 255) % 256 else s.arlen
    arvalid := if s.arFire i then false else reserve || s.arvalid
    assembling := if s.rFire i && !drop then
        fun channel => Function.update (s.assembling channel) s.slice (i.rdata channel)
      else s.assembling
    frameValid := if s.rFire i && !drop && s.slice == 3 then true
      else s.frameValid && !s.frameFire i
    busy := !s.finished i
    done := s.finished i && !drop
    error := s.error || s.rFault i || s.timesOut p i
    -- a timeout is assigned after a fault, but the two never meet: a fault fires R
    errorCode := if s.timesOut p i then 3 else if s.rFault i && !s.error then 2 else s.errorCode
    errorOffset := if s.timesOut p i || (s.rFault i && !s.error) then s.returnOffset
      else s.errorOffset
    burstLengths := if s.arFire i then
        Function.update s.burstLengths s.tail (s.pendingFrames * 4 % 512)
      else s.burstLengths
    head := if s.retiring i then (s.head + 1) % p.maxOutstanding else s.head
    tail := if s.arFire i then (s.tail + 1) % p.maxOutstanding else s.tail
    outstanding := match s.arFire i, s.retiring i with
      | true, false => (s.outstanding + 1) % (2 * p.maxOutstanding)
      | false, true => (s.outstanding + (2 * p.maxOutstanding - 1)) % (2 * p.maxOutstanding)
      | _, _ => s.outstanding
    issueAddr := if s.arFire i then (s.issueAddr + s.pendingFrames * 256) % 2 ^ 64
      else s.issueAddr
    returnOffset := if s.rFire i then (s.returnOffset + 64) % 2 ^ 64 else s.returnOffset
    remaining := if s.arFire i then (s.remaining + 2 ^ 32 - s.pendingFrames) % 2 ^ 32
      else s.remaining
    reserved := if s.finished i then 0
      else match reserve, s.frameFire i with
        | true, false => (s.reserved + proposed) % 2048
        | false, true => (s.reserved + 2047) % 2048
        | true, true => (s.reserved + proposed + 2047) % 2048
        | false, false => s.reserved
    pendingFrames := if reserve then proposed else s.pendingFrames
    watchdog := if s.watchdogRests i then 0
      else if s.error || s.timesOut p i then s.watchdog
      else (s.watchdog + 1) % 2 ^ 32
    returnedInBurst := if s.rFire i then
        if i.rlast then 0
        else if s.returnedInBurst ≠ 511 then s.returnedInBurst + 1 else s.returnedInBurst
      else s.returnedInBurst
    slice := if s.finished i then 0
      else if s.rFire i && !drop then s.slice + 1 else s.slice
    cancelled := s.cancelled || i.cancel }

/-- One clock edge of `waveform_ddr_reader`. -/
def step : DdrReader Word :=
  if i.start && !s.busy then s.begin i
  else if s.busy then s.advance p i
  else { s with done := false }

end DdrReader

def ddrReader (Word : Type) [Inhabited Word] (p : ReaderParams) :
    Clocked.Machine (ReaderIn Word) (DdrReader Word) where
  reset := .reset
  step s i := s.step p i

end Xczu47dr.Playback
