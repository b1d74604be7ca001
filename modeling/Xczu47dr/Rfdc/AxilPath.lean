import Xczu47dr.Clocked.Channel
import Xczu47dr.Rfdc.AxilCdc

/-! # The path of two masters

`axilite_arbiter_2to1` before `axilite_cdc_simple`, on two clocks whose edges come in
any order.  The masters and the slave are not part of it; books are kept of what they
have offered and accepted, so that it can be said how they behave.
-/

namespace Xczu47dr.Rfdc

open Clocked

/-! ## The masters and the slave -/

/-- How far a master is with the beats of its transaction. -/
structure MasterBook where
  aw : Channel (BitVec 18)
  w : Channel (BitVec 32 × BitVec 4)
  ar : Channel (BitVec 18)
  deriving DecidableEq

namespace MasterBook

def empty : MasterBook := ⟨.quiet, .quiet, .quiet⟩

variable (b : MasterBook) (d : AxilDrive) (r : AxilIn)

/-- A response is taken, and with it the transaction is over. -/
def ends (d : AxilDrive) (r : AxilIn) : Bool := r.bvalid && d.bready || r.rvalid && d.rready

def step : MasterBook :=
  if ends d r then empty
  else
    { aw := b.aw.step d.awvalid r.awready d.awaddr
      w := b.w.step d.wvalid r.wready (d.wdata, d.wstrb)
      ar := b.ar.step d.arvalid r.arready d.araddr }

def writes : Bool := b.aw.busy || b.w.busy || d.awvalid || d.wvalid

def reads : Bool := b.ar.busy || d.arvalid

def busy : Bool := b.aw.busy || b.w.busy || b.ar.busy

/-- The master holds what it has offered until it is accepted, and has one transaction open
    at most. -/
def Behaves : Prop :=
  b.aw.Holds d.awvalid d.awaddr ∧ b.w.Holds d.wvalid (d.wdata, d.wstrb) ∧ b.ar.Holds d.arvalid d.araddr ∧
    (b.writes d && b.reads d) = false

instance : Decidable (b.Behaves d) := inferInstanceAs (Decidable (_ ∧ _ ∧ _ ∧ _))

end MasterBook

/-- Which beats the slave has accepted and not answered. -/
structure SlaveBook where
  aw : Bool
  w : Bool
  ar : Bool
  deriving DecidableEq

namespace SlaveBook

def empty : SlaveBook := ⟨false, false, false⟩

variable (b : SlaveBook) (d : AxilDrive) (i : AxilIn)

/-- The slave has accepted the beats, those of this cycle included. -/
def accepts : SlaveBook := ⟨b.aw || d.awvalid && i.awready, b.w || d.wvalid && i.wready, b.ar || d.arvalid && i.arready⟩

def step : SlaveBook :=
  let t := b.accepts d i
  let written := i.bvalid && d.bready
  let sent := i.rvalid && d.rready
  ⟨t.aw && !written, t.w && !written, t.ar && !sent⟩

/-- The slave answers only what it has accepted. -/
def Behaves : Prop :=
  (i.bvalid = true → (b.accepts d i).aw = true ∧ (b.accepts d i).w = true) ∧
    (i.rvalid = true → (b.accepts d i).ar = true)

instance : Decidable (b.Behaves d i) := inferInstanceAs (Decidable ((_ → _ ∧ _) ∧ (_ → _)))

end SlaveBook

/-! ## The machine -/

@[ext] structure AxilPath where
  grant : Grant
  port : CdcPort
  side : CdcSide
  masters : Master → MasterBook
  slave : SlaveBook

/-- What the registers of the crossing catch of a toggle and of the word beside it that have
    just changed. -/
structure Caught (α : Type) where
  bit : Bool
  word : α
  deriving Inhabited

/-- An edge of `s_clk` or of `m_clk`. -/
inductive AxilTick
  | source (drives : Master → AxilDrive) (caught : Caught AxilReply)
  | slave (answers : AxilIn) (caught : Caught AxilRequest)

namespace AxilPath

variable (s : AxilPath)

/-- What the arbiter shows the master `m`. -/
def shows (d : Master → AxilDrive) (m : Master) : AxilIn := s.grant.reply d s.port.outputs m

def step : AxilTick → AxilPath
  | .source d k =>
    let port := s.port.step (s.grant.drive d) s.side.ackToggle k.bit s.side.ack k.word
    { s with
      grant := s.grant.step d s.port.outputs
      port := port
      side := { s.side with requestSync := s.side.requestSync.disturb s.port.reqToggle port.reqToggle }
      masters := fun m => (s.masters m).step (d m) (s.shows d m) }
  | .slave i o =>
    let side := s.side.step i s.port.reqToggle o.bit s.port.request o.word
    { s with
      port := { s.port with ackSync := s.port.ackSync.disturb s.side.ackToggle side.ackToggle }
      side := side
      slave := s.slave.step s.side.drive i }

/-- The masters hold what they offer, and the slave answers what it has accepted. -/
def Behaves : AxilTick → Prop
  | .source d _ => (s.masters .s0).Behaves (d .s0) ∧ (s.masters .s1).Behaves (d .s1)
  | .slave i _ => s.slave.Behaves s.side.drive i

instance : (tick : AxilTick) → Decidable (s.Behaves tick)
  | .source _ _ => inferInstanceAs (Decidable (_ ∧ _))
  | .slave i _ => inferInstanceAs (Decidable (s.slave.Behaves s.side.drive i))

end AxilPath

def axilPath : Machine AxilTick AxilPath where
  reset := ⟨.idle, .reset, .reset, fun _ => .empty, .empty⟩
  step := AxilPath.step

/-! ## Transactions -/

/-- What happens at the masters and at the slave. -/
inductive AxilEvent
  | awAccepted (m : Master) (addr : BitVec 18)
  | wAccepted (m : Master) (wdata : BitVec 32) (wstrb : BitVec 4)
  | arAccepted (m : Master) (addr : BitVec 18)
  | awPresented (addr : BitVec 18)
  | wPresented (wdata : BitVec 32) (wstrb : BitVec 4)
  | arPresented (addr : BitVec 18)
  | bReplied (resp : BitVec 2)
  | rReplied (resp : BitVec 2) (rdata : BitVec 32)
  | bTaken (m : Master) (resp : BitVec 2)
  | rTaken (m : Master) (resp : BitVec 2) (rdata : BitVec 32)
  deriving DecidableEq

/-- How far the slave is with a request: the beats it has been presented with, or its reply. -/
inductive Service
  | presented (aw w : Bool)
  | replied (r : AxilReply)
  deriving DecidableEq

/-- The one transaction that may be open: a write of which one beat has been accepted, or a
    whole request of the master `m`. -/
inductive Transaction
  | free
  | opened (m : Master) (aw : Option (BitVec 18)) (w : Option (BitVec 32 × BitVec 4))
  | accepted (m : Master) (q : AxilRequest) (v : Service)
  deriving DecidableEq

def writeRequest (addr : BitVec 18) (w : BitVec 32 × BitVec 4) : AxilRequest := ⟨true, addr, w.1, w.2⟩

def readRequest (addr : BitVec 18) : AxilRequest := ⟨false, addr, 0, 0⟩

namespace Transaction

/-- The beats of a write that have been accepted. -/
def collected (m : Master) : Option (BitVec 18) → Option (BitVec 32 × BitVec 4) → Transaction
  | none, none => free
  | some addr, some w => accepted m (writeRequest addr w) (.presented false false)
  | aw, w => opened m aw w

/-- Where an event leads, if it may happen. -/
def next : Transaction → AxilEvent → Option Transaction
  | free, .awAccepted m addr => some (collected m (some addr) none)
  | free, .wAccepted m wdata wstrb => some (collected m none (some (wdata, wstrb)))
  | free, .arAccepted m addr => some (accepted m (readRequest addr) (.presented false false))
  | opened m none w, .awAccepted n addr => if n = m then some (collected m (some addr) w) else none
  | opened m aw none, .wAccepted n wdata wstrb => if n = m then some (collected m aw (some (wdata, wstrb))) else none
  | accepted m q (.presented false w), .awPresented addr =>
    if q.write && addr = q.addr then some (accepted m q (.presented true w)) else none
  | accepted m q (.presented aw false), .wPresented wdata wstrb =>
    if q.write && wdata = q.wdata && wstrb = q.wstrb then some (accepted m q (.presented aw true)) else none
  | accepted m q (.presented false false), .arPresented addr =>
    if !q.write && addr = q.addr then some (accepted m q (.presented true true)) else none
  | accepted m q (.presented true true), .bReplied resp =>
    if q.write then some (accepted m q (.replied ⟨resp, 0⟩)) else none
  | accepted m q (.presented true true), .rReplied resp rdata =>
    if !q.write then some (accepted m q (.replied ⟨resp, rdata⟩)) else none
  | accepted m q (.replied r), .bTaken n resp => if n = m && q.write && resp = r.resp then some free else none
  | accepted m q (.replied r), .rTaken n resp rdata =>
    if n = m && !q.write && ⟨resp, rdata⟩ = r then some free else none
  | _, _ => none

variable {m : Master} {q : AxilRequest}

@[simp] theorem next_aw {w : Bool} (write : q.write = true) :
    (accepted m q (.presented false w)).next (.awPresented q.addr) = some (accepted m q (.presented true w)) := by
  cases w <;> exact if_pos (by rw [write]; exact decide_eq_true rfl)

@[simp] theorem next_w {aw : Bool} (write : q.write = true) :
    (accepted m q (.presented aw false)).next (.wPresented q.wdata q.wstrb) =
      some (accepted m q (.presented aw true)) := by
  cases aw <;> exact if_pos (by rw [write, Bool.true_and, decide_eq_true rfl]; exact decide_eq_true rfl)

@[simp] theorem next_ar (read : q.write = false) :
    (accepted m q (.presented false false)).next (.arPresented q.addr) =
      some (accepted m q (.presented true true)) :=
  if_pos (by rw [read]; exact decide_eq_true rfl)

@[simp] theorem next_b {resp : BitVec 2} (write : q.write = true) :
    (accepted m q (.presented true true)).next (.bReplied resp) = some (accepted m q (.replied ⟨resp, 0⟩)) :=
  if_pos write

@[simp] theorem next_r {resp : BitVec 2} {rdata : BitVec 32} (read : q.write = false) :
    (accepted m q (.presented true true)).next (.rReplied resp rdata) =
      some (accepted m q (.replied ⟨resp, rdata⟩)) :=
  if_pos (by rw [read]; rfl)

end Transaction

/-- The events lead from `a` to `b`. -/
def Leads (events : List AxilEvent) (a b : Transaction) : Prop := events.foldlM Transaction.next a = some b

theorem leads_nil (a : Transaction) : Leads [] a a := rfl

theorem Leads.append {events more : List AxilEvent} {a b c : Transaction} (first : Leads events a b)
    (second : Leads more b c) : Leads (events ++ more) a c := by
  rw [Leads, List.foldlM_append, first]
  exact second

/-- One transaction after the other: the beats of a master are accepted, presented to the
    slave once as they are, replied to, and the reply goes to that master. -/
def AtomicTransactions (events : List AxilEvent) : Prop :=
  (events.foldlM Transaction.next .free).isSome = true

instance (events : List AxilEvent) : Decidable (AtomicTransactions events) :=
  inferInstanceAs (Decidable (_ = true))

namespace AxilPath

variable (s : AxilPath)

/-- What happens at the master `m`. -/
def masterEvents (d : Master → AxilDrive) (m : Master) : List AxilEvent :=
  let r := s.shows d m
  (if (d m).awvalid && r.awready then [.awAccepted m (d m).awaddr] else []) ++
    (if (d m).wvalid && r.wready then [.wAccepted m (d m).wdata (d m).wstrb] else []) ++
    (if (d m).arvalid && r.arready then [.arAccepted m (d m).araddr] else []) ++
    (if r.bvalid && (d m).bready then [.bTaken m r.bresp] else []) ++
    (if r.rvalid && (d m).rready then [.rTaken m r.rresp r.rdata] else [])

def slaveEvents (i : AxilIn) : List AxilEvent :=
  let d := s.side.drive
  (if d.awvalid && i.awready then [.awPresented d.awaddr] else []) ++
    (if d.wvalid && i.wready then [.wPresented d.wdata d.wstrb] else []) ++
    (if d.arvalid && i.arready then [.arPresented d.araddr] else []) ++
    (if i.bvalid && d.bready then [.bReplied i.bresp] else []) ++
    (if i.rvalid && d.rready then [.rReplied i.rresp i.rdata] else [])

def events : AxilTick → List AxilEvent
  | .source d _ => s.masterEvents d .s0 ++ s.masterEvents d .s1
  | .slave i _ => s.slaveEvents i

end AxilPath

end Xczu47dr.Rfdc
