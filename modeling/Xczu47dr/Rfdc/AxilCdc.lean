import Xczu47dr.Clocked.Crossing
import Xczu47dr.Rfdc.AxilArbiter

/-! # The AXI-Lite clock crossing

`axilite_cdc_simple`: the half on `s_clk` collects one request and flips its toggle;
the half on `m_clk` carries the request out and flips its own.  The words beside the
toggles are sampled directly, once the toggle has come through its synchronizer.
(`m_req_write` to `m_req_wstrb` are written and never read, and are left out.)
-/

namespace Xczu47dr.Rfdc

open Clocked

/-- `req_is_write_s` to `req_wstrb_s`. -/
structure AxilRequest where
  write : Bool
  addr : BitVec 18
  wdata : BitVec 32
  wstrb : BitVec 4
  deriving DecidableEq, Inhabited

/-- `ack_resp_m` and `ack_rdata_m`. -/
structure AxilReply where
  resp : BitVec 2
  rdata : BitVec 32
  deriving DecidableEq, Inhabited

/-- `S_IDLE`, `S_WAIT_ACK` and `S_RESP`. -/
inductive CdcPortState
  | idle
  | waitAck
  | resp
  deriving DecidableEq

/-- `M_IDLE`, `M_WRITE` and `M_READ`. -/
inductive CdcSideState
  | idle
  | write
  | read
  deriving DecidableEq

/-- The registers on `s_clk`. -/
structure CdcPort where
  state : CdcPortState
  awready : Bool
  wready : Bool
  bresp : BitVec 2
  bvalid : Bool
  arready : Bool
  rdata : BitVec 32
  rresp : BitVec 2
  rvalid : Bool
  haveAw : Bool
  haveW : Bool
  capAwaddr : BitVec 18
  capWdata : BitVec 32
  capWstrb : BitVec 4
  reqToggle : Bool
  request : AxilRequest
  ackSeen : Bool
  ackSync : Synchronizer
  deriving DecidableEq

/-- The registers on `m_clk`; `drive` is `m_awaddr` to `m_rready`. -/
structure CdcSide where
  state : CdcSideState
  requestSync : Synchronizer
  reqSeen : Bool
  drive : AxilDrive
  awDone : Bool
  wDone : Bool
  ackToggle : Bool
  ack : AxilReply
  deriving DecidableEq

/-- What a flip-flop catches of a word that is sampled directly; `caught` when the word has
    changed since the last edge. -/
def sampled {α : Type} (unsettled : Bool) (word caught : α) : α := bif unsettled then caught else word

namespace CdcPort

def reset : CdcPort where
  state := .idle
  awready := false
  wready := false
  bresp := 0
  bvalid := false
  arready := false
  rdata := 0
  rresp := 0
  rvalid := false
  haveAw := false
  haveW := false
  capAwaddr := 0
  capWdata := 0
  capWstrb := 0
  reqToggle := false
  request := ⟨false, 0, 0, 0⟩
  ackSeen := false
  ackSync := .reset

variable (s : CdcPort) (d : AxilDrive)

def outputs : AxilIn := ⟨s.awready, s.wready, s.bresp, s.bvalid, s.arready, s.rdata, s.rresp, s.rvalid⟩

def takesAw : Bool := d.awvalid && s.awready

def takesW : Bool := d.wvalid && s.wready

def takesAr : Bool := d.arvalid && s.arready

def completesWrite : Bool := (s.haveAw || s.takesAw d) && (s.haveW || s.takesW d)

/-- `S_IDLE`: beats are taken, and a whole request is handed on. -/
def collect : CdcPort :=
  let addr := if s.takesAw d then d.awaddr else s.capAwaddr
  let wdata := if s.takesW d then d.wdata else s.capWdata
  let wstrb := if s.takesW d then d.wstrb else s.capWstrb
  let t := { s with
    awready := !s.haveAw
    wready := !s.haveW
    arready := !s.haveAw && !s.haveW && !s.bvalid && !s.rvalid
    haveAw := s.haveAw || s.takesAw d
    haveW := s.haveW || s.takesW d
    capAwaddr := addr
    capWdata := wdata
    capWstrb := wstrb }
  if s.takesAr d then
    { t with request := ⟨false, d.araddr, 0, 0⟩, reqToggle := !s.reqToggle, state := .waitAck }
  else if s.completesWrite d then
    { t with
      request := ⟨true, addr, wdata, wstrb⟩
      reqToggle := !s.reqToggle
      haveAw := false
      haveW := false
      state := .waitAck }
  else t

/-- `S_WAIT_ACK`: the reply is taken once the acknowledgement has come through. -/
def awaitAck (reply : AxilReply) : CdcPort :=
  let t := { s with awready := false, wready := false, arready := false }
  if s.ackSync.third != s.ackSeen then
    let t := { t with ackSeen := s.ackSync.third, state := .resp }
    if s.request.write then { t with bresp := reply.resp, bvalid := true }
    else { t with rdata := reply.rdata, rresp := reply.resp, rvalid := true }
  else t

/-- `S_RESP`: the response stands until it is taken. -/
def respond : CdcPort :=
  let ended := s.bvalid && d.bready || s.rvalid && d.rready
  { s with
    awready := false
    wready := false
    arready := false
    bvalid := s.bvalid && !d.bready
    rvalid := s.rvalid && !d.rready
    state := if ended then .idle else .resp }

/-- One edge of `s_clk`. -/
def step (ackToggle ackCaught : Bool) (ack replyCaught : AxilReply) : CdcPort :=
  let t := match s.state with
    | .idle => s.collect d
    | .waitAck => s.awaitAck (sampled s.ackSync.unsettled ack replyCaught)
    | .resp => s.respond d
  { t with ackSync := s.ackSync.edge ackToggle ackCaught }

end CdcPort

def AxilDrive.rest (d : AxilDrive) : AxilDrive :=
  { d with awvalid := false, wvalid := false, bready := false, arvalid := false, rready := false }

def AxilDrive.present (d : AxilDrive) (request : AxilRequest) : AxilDrive :=
  if request.write then
    { d with
      awaddr := request.addr
      awvalid := true
      wdata := request.wdata
      wstrb := request.wstrb
      wvalid := true
      bready := true }
  else { d with araddr := request.addr, arvalid := true, rready := true }

namespace CdcSide

def reset : CdcSide where
  state := .idle
  requestSync := .reset
  reqSeen := false
  drive := ⟨0, false, 0, 0, false, false, 0, false, false⟩
  awDone := false
  wDone := false
  ackToggle := false
  ack := ⟨0, 0⟩

variable (s : CdcSide) (i : AxilIn)

def notices : Bool := s.requestSync.third != s.reqSeen

def slaveTakesAw : Bool := s.drive.awvalid && i.awready

def slaveTakesW : Bool := s.drive.wvalid && i.wready

def slaveTakesAr : Bool := s.drive.arvalid && i.arready

/-- `M_IDLE`: a request that has come through is driven out. -/
def launch (request : AxilRequest) : CdcSide :=
  let t := { s with drive := s.drive.rest, awDone := false, wDone := false }
  if s.notices then
    { t with
      reqSeen := s.requestSync.third
      drive := t.drive.present request
      state := if request.write then .write else .read }
  else t

/-- The write response counts once both beats are out. -/
def endsWrite : Bool :=
  i.bvalid && s.drive.bready && (s.awDone || s.slaveTakesAw i) && (s.wDone || s.slaveTakesW i)

/-- `M_WRITE` -/
def write : CdcSide :=
  let t := { s with
    drive := { s.drive with
      awvalid := s.drive.awvalid && !i.awready
      wvalid := s.drive.wvalid && !i.wready }
    awDone := s.awDone || s.slaveTakesAw i
    wDone := s.wDone || s.slaveTakesW i }
  if s.endsWrite i then
    { t with
      ack := ⟨i.bresp, 0⟩
      ackToggle := !s.ackToggle
      drive := { t.drive with bready := false }
      state := .idle }
  else t

def endsRead : Bool := i.rvalid && s.drive.rready

/-- `M_READ` -/
def read : CdcSide :=
  let t := { s with drive := { s.drive with arvalid := s.drive.arvalid && !i.arready } }
  if s.endsRead i then
    { t with
      ack := ⟨i.rresp, i.rdata⟩
      ackToggle := !s.ackToggle
      drive := { t.drive with rready := false }
      state := .idle }
  else t

/-- One edge of `m_clk`. -/
def step (reqToggle requestCaught : Bool) (request wordCaught : AxilRequest) : CdcSide :=
  let t := match s.state with
    | .idle => s.launch (sampled s.requestSync.unsettled request wordCaught)
    | .write => s.write i
    | .read => s.read i
  { t with requestSync := s.requestSync.edge reqToggle requestCaught }

end CdcSide

end Xczu47dr.Rfdc
