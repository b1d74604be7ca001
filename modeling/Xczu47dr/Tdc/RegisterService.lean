import Xczu47dr.Clocked.Crossing
import Xczu47dr.Tdc.RegisterBank

/-! # The register service

`tdc_register_service`: the half on the DDR clock takes one access at a time and
flips `request_toggle`; the half on the sample clock performs an access whenever
the toggle it sees differs from `ack_toggle`.  Each half has its own reset, and
that of the sample half may come at any time.
-/

namespace Xczu47dr.Tdc

open Clocked

/-- The registers on the DDR clock. -/
structure RegisterPort where
  requestHold : Access
  requestToggle : Bool
  inflight : Bool
  waitRelease : Bool
  ackSync : Synchronizer
  /-- `sample_alive_sync` -/
  aliveSync : Synchronizer
  /-- `response_meta` and `response_sync` -/
  response : Passage Reply
  regReady : Bool
  reg : Reply

/-- The registers on the sample clock. -/
structure RegisterSide where
  requestSync : Synchronizer
  /-- `request_meta` and `request_data` -/
  request : Passage Access
  ackToggle : Bool
  responseHold : Reply
  bank : RegisterBank

structure RegisterService where
  port : RegisterPort
  side : RegisterSide
  /-- `sample_rst_n` -/
  alive : Bool

/-- What the port samples at one edge of the DDR clock: `reg_valid` and the access beside
    it, and what its first registers make of sources that have just changed. -/
structure PortIn where
  regValid : Bool
  access : Access
  ackCaught : Bool
  aliveCaught : Bool
  replyCaught : Reply

/-- What the side samples at one edge of the sample clock. -/
structure SideIn where
  bank : BankIn
  requestCaught : Bool
  accessCaught : Access

def noAccess : Access := ⟨false, 0, 0⟩

def noReply : Reply := ⟨0, 0⟩

namespace RegisterPort

def reset : RegisterPort where
  requestHold := noAccess
  requestToggle := false
  inflight := false
  waitRelease := false
  ackSync := .reset
  aliveSync := .reset
  response := ⟨noReply, noReply, false⟩
  regReady := false
  reg := noReply

variable (s : RegisterPort) (i : PortIn)

def takes : Bool := i.regValid && !s.inflight && !s.waitRelease

/-- The access in flight is given up, the sample half being in reset. -/
def givesUp : Bool := s.inflight && !s.aliveSync.third

def acknowledged : Bool := s.inflight && s.aliveSync.third && s.ackSync.third == s.requestToggle

/-- One edge of the DDR clock, `ack`, `alive` and `reply` being what the sample half drives. -/
def step (ack alive : Bool) (reply : Reply) : RegisterPort where
  requestHold := if s.takes i then i.access else s.requestHold
  requestToggle := if s.takes i then !s.requestToggle else s.requestToggle
  inflight := (s.inflight || s.takes i) && !s.givesUp && !s.acknowledged
  waitRelease := s.takes i || (s.waitRelease && i.regValid)
  ackSync := s.ackSync.edge ack i.ackCaught
  aliveSync := s.aliveSync.edge alive i.aliveCaught
  response := s.response.edge reply i.replyCaught
  regReady := s.givesUp || s.acknowledged
  reg := if s.givesUp then ⟨9, 0⟩ else if s.acknowledged then s.response.back else s.reg

end RegisterPort

namespace RegisterSide

/-- The registers of the sample half in reset; what has changed in front of them stays changed. -/
def inReset (s : RegisterSide) : RegisterSide where
  requestSync := ⟨false, false, false, s.requestSync.unsettled⟩
  request := ⟨noAccess, noAccess, s.request.unsettled⟩
  ackToggle := false
  responseHold := noReply
  bank := .reset s.bank.histogram

def reset : RegisterSide where
  requestSync := .reset
  request := ⟨noAccess, noAccess, false⟩
  ackToggle := false
  responseHold := noReply
  bank := .reset fun _ => 0

variable (s : RegisterSide) (i : SideIn)

def performs : Bool := s.requestSync.third != s.ackToggle

/-- The registers and the reply that the access at the end of the passage leaves. -/
def performed : RegisterBank × Reply := s.bank.perform (s.bank.measure i.bank) i.bank s.request.back

/-- One edge of the sample clock out of reset. -/
def step (request : Bool) (access : Access) : RegisterSide where
  requestSync := s.requestSync.edge request i.requestCaught
  request := s.request.edge access i.accessCaught
  ackToggle := s.requestSync.third
  responseHold := if s.performs then (s.performed i).2 else s.responseHold
  bank := if s.performs then (s.performed i).1 else s.bank.measure i.bank

def hold : RegisterSide :=
  { s with
    requestSync := { s.requestSync with unsettled := false }
    request := { s.request with unsettled := false }
    bank := { s.bank with histogram := s.bank.stepHistogram i.bank } }

end RegisterSide

namespace RegisterService

/-- Both halves after power-up, the sample half in reset. -/
def reset : RegisterService := ⟨.reset, .reset, false⟩

variable (s : RegisterService)

def portEdge (i : PortIn) : RegisterService :=
  let port := s.port.step i s.side.ackToggle s.alive s.side.responseHold
  { s with
    port := port
    side := { s.side with
      requestSync := s.side.requestSync.disturb s.port.requestToggle port.requestToggle
      request := s.side.request.disturb s.port.requestHold port.requestHold } }

/-- The sample half changes from the one in `s` to `side`, and its reset to `alive`. -/
def becomes (side : RegisterSide) (alive : Bool) : RegisterService where
  port := { s.port with
    ackSync := s.port.ackSync.disturb s.side.ackToggle side.ackToggle
    aliveSync := s.port.aliveSync.disturb s.alive alive
    response := s.port.response.disturb s.side.responseHold side.responseHold }
  side := side
  alive := alive

def sideEdge (i : SideIn) : RegisterService :=
  s.becomes (if s.alive then s.side.step i s.port.requestToggle s.port.requestHold else s.side.hold i) s.alive

/-- The reset of the sample half is asserted or released. -/
def resetEdge (asserted : Bool) : RegisterService :=
  s.becomes (if asserted then s.side.inReset else s.side) (!asserted)

end RegisterService

end Xczu47dr.Tdc
