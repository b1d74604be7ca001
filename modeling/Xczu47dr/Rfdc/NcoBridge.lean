import Mathlib.Data.List.OfFn
import Xczu47dr.Clocked.Machine
import Xczu47dr.Clocked.Relay

/-! # The NCO bridge

`rfdc_nco_rts_bridge`: a configuration of the eight NCOs goes into the clock of the
converter, where it is loaded while SYSREF is gated and takes effect together.
(`dst_tile_mask` and `dst_channel_mask` are written and never read, and are left
out.)
-/

namespace Xczu47dr.Rfdc

open Clocked

/-- `TIMEOUT_CYCLES` -/
structure NcoParams where
  timeoutCycles : Nat
  timeout_pos : 0 < timeoutCycles
  timeout_lt : timeoutCycles < 2 ^ 31

/-- `ERR_NONE` -/
def errNone : BitVec 2 := 0
/-- `ERR_BUSY_ASSERT` -/
def errBusyAssert : BitVec 2 := 1
/-- `ERR_BUSY_RELEASE` -/
def errBusyRelease : BitVec 2 := 2

/-- `src_channel_mask`, `src_nco_freq` and `src_nco_phase`. -/
structure NcoRequest where
  mask : BitVec 8
  freq : BitVec 384
  phase : BitVec 144
  deriving DecidableEq, Inhabited

/-- The states on `rfdc_clk`. -/
inductive NcoState
  | idle
  | settle
  | waitIdle
  | request
  | waitAssert
  | waitLoadClear
  | reenable
  | waitGateClear
  | ack
  deriving DecidableEq

/-- The registers on `src_clk`; `hold` is `src_mask_hold` to `src_phase_hold`. -/
structure NcoSource where
  requestToggle : Bool
  ackSync : Relay Bool
  errorSync : Relay (BitVec 2)
  hold : NcoRequest
  busy : Bool
  done : Bool
  error : BitVec 2
  syncReady : Bool
  syncEpoch : BitVec 32
  deriving DecidableEq

/-- The registers on `rfdc_clk`. -/
structure NcoDest where
  requestSync : Relay Bool
  ackToggle : Bool
  errorHold : BitVec 2
  state : NcoState
  settleCount : Nat
  timeoutCount : Nat
  requestMask : BitVec 4
  busySeen : BitVec 4
  ncoFreq : BitVec 384
  ncoPhase : BitVec 144
  ncoPhaseReset : BitVec 8
  ncoUpdateEnable : BitVec 48
  tileUpdateReq : BitVec 4
  sysrefIntGating : Bool
  sysrefIntReenable : Bool
  deriving DecidableEq

/-- `tile_load_busy` -/
def tileLoadBusy (tileUpdateBusy : BitVec 5) : BitVec 4 :=
  tileUpdateBusy.extractLsb' 2 3 ++ tileUpdateBusy.extractLsb' 0 1

/-- `tile0_gate_busy` -/
def tile0GateBusy (tileUpdateBusy : BitVec 5) : Bool := tileUpdateBusy.getLsbD 1

/-- The tiles of the channels, and the first one, which owns the gate. -/
def requestTiles (mask : BitVec 8) : BitVec 4 :=
  BitVec.ofBool (mask.extractLsb' 6 2 != 0) ++ BitVec.ofBool (mask.extractLsb' 4 2 != 0) ++
    BitVec.ofBool (mask.extractLsb' 2 2 != 0) ++ 1#1

def updateEnable (mask : BitVec 8) : BitVec 48 :=
  (BitVec.ofBoolListLE (List.ofFn fun bit : Fin 48 => mask.getLsbD (bit / 6))).setWidth 48

namespace NcoSource

def reset : NcoSource where
  requestToggle := false
  ackSync := ⟨false, false, false⟩
  errorSync := ⟨0, 0, false⟩
  hold := ⟨0, 0, 0⟩
  busy := false
  done := false
  error := errNone
  syncReady := false
  syncEpoch := 0

variable (s : NcoSource) (start : Bool) (request : NcoRequest)

/-- `src_start && !src_busy` -/
def accepts : Bool := start && !s.busy

def acknowledged : Bool := s.busy && s.ackSync.back == s.requestToggle

/-- One edge of `src_clk`. -/
def step (ackToggle ackCaught : Bool) (errorHold errorCaught : BitVec 2) : NcoSource :=
  let t := { s with
    ackSync := s.ackSync.edge ackToggle ackCaught
    errorSync := s.errorSync.edge errorHold errorCaught
    done := false }
  if s.accepts start then
    { t with
      hold := request
      requestToggle := !s.requestToggle
      busy := true
      error := errNone
      syncReady := false }
  else if s.acknowledged then
    let t := { t with busy := false, done := true, error := s.errorSync.back }
    if s.errorSync.back = errNone then { t with syncReady := true, syncEpoch := s.syncEpoch + 1 }
    else { t with syncReady := false }
  else t

end NcoSource

namespace NcoDest

def reset : NcoDest where
  requestSync := ⟨false, false, false⟩
  ackToggle := false
  errorHold := errNone
  state := .idle
  settleCount := 0
  timeoutCount := 0
  requestMask := 0
  busySeen := 0
  ncoFreq := 0
  ncoPhase := 0
  ncoPhaseReset := 0
  ncoUpdateEnable := 0
  tileUpdateReq := 0
  sysrefIntGating := false
  sysrefIntReenable := false

variable (p : NcoParams) (d : NcoDest) (busy : BitVec 5)

/-- `all_request_idle` -/
def allRequestIdle : Bool := tileLoadBusy busy &&& d.requestMask == 0 && !tile0GateBusy busy

/-- `all_request_seen` -/
def allRequestSeen : Bool := d.busySeen &&& d.requestMask == d.requestMask

/-- `all_load_clear` -/
def allLoadClear : Bool := tileLoadBusy busy &&& d.requestMask == 0

/-- Every tile of the request has been busy, and the gate is. -/
def allAsserted : Bool :=
  (d.busySeen ||| tileLoadBusy busy) &&& d.requestMask == d.requestMask && tile0GateBusy busy

/-- `timeout_count >= TIMEOUT_CYCLES - 1` -/
def timedOut : Bool := decide (p.timeoutCycles - 1 ≤ d.timeoutCount)

variable (t : NcoDest)

def fail (error : BitVec 2) : NcoDest := { t with errorHold := error, state := .ack }

def count : NcoDest := { t with timeoutCount := (d.timeoutCount + 1) % 2 ^ 32 }

/-- `D_IDLE` -/
def idle : NcoDest :=
  let t := { t with ncoUpdateEnable := 0, ncoPhaseReset := 0, sysrefIntGating := false }
  if d.requestSync.back != d.ackToggle then { t with settleCount := 2, errorHold := errNone, state := .settle } else t

/-- `D_SETTLE`: the words of the request are taken over. -/
def settle (hold : NcoRequest) : NcoDest :=
  if d.settleCount ≠ 0 then { t with settleCount := d.settleCount - 1 }
  else
    { t with
      requestMask := requestTiles hold.mask
      ncoFreq := hold.freq
      ncoPhase := hold.phase
      ncoPhaseReset := hold.mask
      ncoUpdateEnable := updateEnable hold.mask
      timeoutCount := 0
      state := .waitIdle }

/-- `D_WAIT_IDLE` -/
def waitIdle : NcoDest :=
  if d.allRequestIdle busy then { t with state := .request }
  else if d.timedOut p then t.fail errBusyRelease
  else d.count t

/-- `D_REQUEST` -/
def request : NcoDest :=
  { t with
    sysrefIntGating := true
    tileUpdateReq := d.requestMask
    busySeen := 0
    timeoutCount := 0
    state := .waitAssert }

/-- `D_WAIT_ASSERT` -/
def waitAssert : NcoDest :=
  let t := { t with busySeen := d.busySeen ||| tileLoadBusy busy &&& d.requestMask }
  if d.allAsserted busy then { t with timeoutCount := 0, state := .waitLoadClear }
  else if d.timedOut p then t.fail errBusyAssert
  else d.count t

/-- `D_WAIT_LOAD_CLEAR` -/
def waitLoadClear : NcoDest :=
  if d.allRequestSeen && d.allLoadClear busy && tile0GateBusy busy then { t with timeoutCount := 0, state := .reenable }
  else if !tile0GateBusy busy then t.fail errBusyRelease
  else if d.timedOut p then t.fail errBusyRelease
  else d.count t

/-- `D_WAIT_GATE_CLEAR` -/
def waitGateClear : NcoDest :=
  if !tile0GateBusy busy && d.allLoadClear busy then { t with state := .ack }
  else if d.timedOut p then t.fail errBusyRelease
  else d.count t

/-- `D_ACK` -/
def acknowledge : NcoDest :=
  { t with
    ncoUpdateEnable := 0
    ncoPhaseReset := 0
    sysrefIntGating := false
    ackToggle := d.requestSync.back
    state := .idle }

/-- The state machine, `t` being the registers with their pulses over. -/
def act (hold : NcoRequest) : NcoDest :=
  match d.state with
  | .idle => d.idle t
  | .settle => d.settle t hold
  | .waitIdle => d.waitIdle p busy t
  | .request => d.request t
  | .waitAssert => d.waitAssert p busy t
  | .waitLoadClear => d.waitLoadClear p busy t
  | .reenable => { t with sysrefIntReenable := true, timeoutCount := 0, state := .waitGateClear }
  | .waitGateClear => d.waitGateClear p busy t
  | .ack => d.acknowledge t

/-- One edge of `rfdc_clk`. -/
def step (requestToggle requestCaught : Bool) (hold holdCaught : NcoRequest) : NcoDest :=
  let t := { d with
    requestSync := d.requestSync.edge requestToggle requestCaught
    tileUpdateReq := 0
    sysrefIntReenable := false }
  -- the words are sampled directly, and change together with the toggle
  d.act p busy t (bif d.requestSync.racing then holdCaught else hold)

end NcoDest

/-- The two halves. -/
structure NcoBridge where
  source : NcoSource
  dest : NcoDest
  deriving DecidableEq

/-- An edge of `src_clk` or of `rfdc_clk`, with what the first registers catch of sources that
    are changing. -/
inductive NcoTick
  | source (start : Bool) (request : NcoRequest) (ackCaught : Bool) (errorCaught : BitVec 2)
  | rfdc (tileUpdateBusy : BitVec 5) (requestCaught : Bool) (holdCaught : NcoRequest)

namespace NcoBridge

def step (p : NcoParams) (s : NcoBridge) : NcoTick → NcoBridge
  | .source start request ackCaught errorCaught =>
    let source := s.source.step start request s.dest.ackToggle ackCaught s.dest.errorHold errorCaught
    { source := source
      dest := { s.dest with requestSync := s.dest.requestSync.race s.source.requestToggle source.requestToggle } }
  | .rfdc busy requestCaught holdCaught =>
    let dest := s.dest.step p busy s.source.requestToggle requestCaught s.source.hold holdCaught
    { source := { s.source with
        ackSync := s.source.ackSync.race s.dest.ackToggle dest.ackToggle
        errorSync := s.source.errorSync.race s.dest.errorHold dest.errorHold }
      dest := dest }

end NcoBridge

/-- `rfdc_nco_rts_bridge` as a machine. -/
def ncoBridge (p : NcoParams) : Machine NcoTick NcoBridge where
  reset := ⟨.reset, .reset⟩
  step := NcoBridge.step p

end Xczu47dr.Rfdc
