import Xczu47dr.Rfdc.AxilPath

/-! # The phases of a transaction

The grant goes to a master, its beats are collected, the request travels to the
slave, is presented and answered, the reply travels back and is taken.
-/

namespace Xczu47dr.Rfdc

open Clocked

/-- All channels of a drive are at rest. -/
structure AxilDrive.Rests (d : AxilDrive) : Prop where
  awvalid : d.awvalid = false
  wvalid : d.wvalid = false
  bready : d.bready = false
  arvalid : d.arvalid = false
  rready : d.rready = false

/-- The channels show the write `q`, of which these beats have been accepted. -/
structure AxilDrive.ShowsWrite (d : AxilDrive) (q : AxilRequest) (aw w : Bool) : Prop where
  awaddr : d.awaddr = q.addr
  awvalid : d.awvalid = !aw
  wdata : d.wdata = q.wdata
  wstrb : d.wstrb = q.wstrb
  wvalid : d.wvalid = !w
  bready : d.bready = true
  arvalid : d.arvalid = false
  rready : d.rready = false

/-- The channels show the read `q`. -/
structure AxilDrive.ShowsRead (d : AxilDrive) (q : AxilRequest) (ar : Bool) : Prop where
  araddr : d.araddr = q.addr
  arvalid : d.arvalid = !ar
  rready : d.rready = true
  awvalid : d.awvalid = false
  wvalid : d.wvalid = false
  bready : d.bready = false

theorem AxilDrive.rest_rests (d : AxilDrive) : d.rest.Rests := ⟨rfl, rfl, rfl, rfl, rfl⟩

/-- No beat of the master has been accepted. -/
structure MasterBook.Untaken (b : MasterBook) : Prop where
  aw : b.aw ≠ .taken
  w : b.w ≠ .taken
  ar : b.ar ≠ .taken

/-- The beats of the request have been accepted. -/
structure MasterBook.Taken (b : MasterBook) (q : AxilRequest) : Prop where
  aw : q.write = true → b.aw = .taken
  w : q.write = true → b.w = .taken
  ar : q.write = false → b.ar = .taken

/-- The grant under which a request has come. -/
def AxilRequest.grant (q : AxilRequest) (m : Master) : Grant := bif q.write then .write m else .read m

/-- The beat of a channel has been accepted if there is one. -/
def Accepted {α β : Type} (c : Channel α) : Option β → Prop
  | none => c ≠ .taken
  | some _ => c = .taken

/-- `S_IDLE` with these beats of a write. -/
structure CdcPort.Collecting (p : CdcPort) (aw : Option (BitVec 18)) (w : Option (BitVec 32 × BitVec 4)) : Prop where
  state : p.state = .idle
  bvalid : p.bvalid = false
  rvalid : p.rvalid = false
  haveAw : p.haveAw = aw.isSome
  haveW : p.haveW = w.isSome
  capAw : ∀ addr, aw = some addr → p.capAwaddr = addr
  capW : ∀ x, w = some x → (p.capWdata, p.capWstrb) = x

theorem CdcPort.Collecting.ackSync {p : CdcPort} {aw : Option (BitVec 18)} {w : Option (BitVec 32 × BitVec 4)}
    (collecting : p.Collecting aw w) (sync : Synchronizer) : ({ p with ackSync := sync } : CdcPort).Collecting aw w :=
  ⟨collecting.state, collecting.bvalid, collecting.rvalid, collecting.haveAw, collecting.haveW, collecting.capAw,
    collecting.capW⟩

/-- `S_RESP` with the reply `r` to the request `q`. -/
structure CdcPort.Responds (p : CdcPort) (q : AxilRequest) (r : AxilReply) : Prop where
  state : p.state = .resp
  bvalid : p.bvalid = q.write
  rvalid : p.rvalid = !q.write
  bresp : q.write = true → p.bresp = r.resp
  read : q.write = false → (⟨p.rresp, p.rdata⟩ : AxilReply) = r

theorem CdcPort.Responds.ackSync {p : CdcPort} {q : AxilRequest} {r : AxilReply} (responds : p.Responds q r)
    (sync : Synchronizer) : ({ p with ackSync := sync } : CdcPort).Responds q r :=
  ⟨responds.state, responds.bvalid, responds.rvalid, responds.bresp, responds.read⟩

namespace AxilPath

variable (s : AxilPath)

/-- The slave side has seen the last request, and the masters' side the last reply. -/
structure Settled : Prop where
  request : s.side.requestSync.Shows s.port.reqToggle
  seen : s.side.reqSeen = s.port.reqToggle
  acked : s.side.ackToggle = s.port.ackSeen
  ack : s.port.ackSync.Shows s.port.ackSeen

/-- The slave has nothing to do. -/
structure SlaveRests : Prop where
  idle : s.side.state = .idle
  drive : s.side.drive.Rests
  slave : s.slave = .empty

/-- The slave is with a write of which it has accepted these beats. -/
structure SlaveWrites (q : AxilRequest) (aw w : Bool) : Prop where
  state : s.side.state = .write
  drive : s.side.drive.ShowsWrite q aw w
  awDone : s.side.awDone = aw
  wDone : s.side.wDone = w
  slave : s.slave = ⟨aw, w, false⟩

/-- The slave is with a read. -/
structure SlaveReads (q : AxilRequest) (ar : Bool) : Prop where
  state : s.side.state = .read
  drive : s.side.drive.ShowsRead q ar
  slave : s.slave = ⟨false, false, ar⟩

/-- The request `q` is on its way to the slave, there, or on its way back. -/
inductive Link (q : AxilRequest) : Service → Prop
  | travelling : s.SlaveRests → s.side.reqSeen = (!s.port.reqToggle) →
      s.side.requestSync.Arriving s.port.reqToggle → s.side.ackToggle = s.port.ackSeen →
      s.port.ackSync.Shows s.port.ackSeen → Link q (.presented false false)
  | writing {aw w : Bool} : q.write = true → s.SlaveWrites q aw w → s.Settled → Link q (.presented aw w)
  | reading {ar : Bool} : q.write = false → s.SlaveReads q ar → s.Settled → Link q (.presented ar ar)
  | returning {r : AxilReply} : s.SlaveRests → s.side.requestSync.Shows s.port.reqToggle →
      s.side.reqSeen = s.port.reqToggle → s.side.ackToggle = (!s.port.ackSeen) →
      s.port.ackSync.Arriving s.side.ackToggle → s.side.ack = r → Link q (.replied r)

/-- The other masters have had no beat accepted. -/
def OthersWait (m : Master) : Prop := ∀ n, n ≠ m → (s.masters n).Untaken

/-- A whole request has been collected. -/
structure Engaged (m : Master) (q : AxilRequest) : Prop where
  grant : s.grant = q.grant m
  request : s.port.request = q
  haveAw : s.port.haveAw = false
  haveW : s.port.haveW = false
  others : s.OthersWait m
  taken : (s.masters m).Taken q

/-- Where the open transaction is. -/
inductive Phase : Transaction → Prop
  | free : s.grant = .idle → s.port.Collecting none none → s.SlaveRests → s.Settled → (∀ m, (s.masters m).Untaken) → Phase .free
  | opening {m : Master} {aw : Option (BitVec 18)} {w : Option (BitVec 32 × BitVec 4)} :
      s.grant = .write m → s.port.Collecting aw w → (aw = none → s.port.awready = true) →
      (w = none → s.port.wready = true) → aw = none ∨ w = none → s.SlaveRests → s.Settled → s.OthersWait m →
      Accepted (s.masters m).aw aw → Accepted (s.masters m).w w → (s.masters m).ar ≠ .taken →
      ((s.masters m).aw.busy || (s.masters m).w.busy) = true → Phase (.collected m aw w)
  | reading {m : Master} : s.grant = .read m → s.port.Collecting none none → s.port.arready = true → s.SlaveRests → s.Settled →
      (∀ m, (s.masters m).Untaken) → (s.masters m).ar.busy = true → Phase .free
  | serving {m : Master} {q : AxilRequest} {v : Service} : s.Engaged m q → s.port.state = .waitAck →
      s.port.bvalid = false → s.port.rvalid = false → s.Link q v → Phase (.accepted m q v)
  | responding {m : Master} {q : AxilRequest} {r : AxilReply} : s.Engaged m q → s.port.Responds q r →
      s.SlaveRests → s.Settled → Phase (.accepted m q (.replied r))

/-! ## Edges at the slave -/

variable {s} {i : AxilIn} {o : Caught AxilRequest} {q : AxilRequest} {v : Service}
  {m : Master}

theorem slaveEvents_rests (rests : s.side.drive.Rests) : s.slaveEvents i = [] := by
  simp [slaveEvents, rests.awvalid, rests.wvalid, rests.bready, rests.arvalid, rests.rready]

theorem slave_rests (rests : s.side.drive.Rests) (empty : s.slave = .empty) :
    s.slave.step s.side.drive i = .empty := by
  simp [SlaveBook.step, SlaveBook.accepts, SlaveBook.empty, empty, rests.awvalid, rests.wvalid, rests.arvalid]

/-! ### What the slave accepts and answers -/

theorem next_awPresented {aw w ready : Bool} (write : q.write = true) :
    Leads (if !aw && ready then [.awPresented q.addr] else []) (.accepted m q (.presented aw w))
      (.accepted m q (.presented (aw || ready) w)) := by
  cases aw <;> cases ready <;> simp [Leads, write]

theorem next_wPresented {aw w ready : Bool} (write : q.write = true) :
    Leads (if !w && ready then [.wPresented q.wdata q.wstrb] else []) (.accepted m q (.presented aw w))
      (.accepted m q (.presented aw (w || ready))) := by
  cases aw <;> cases w <;> cases ready <;> simp [Leads, write]

theorem next_arPresented {ar ready : Bool} (read : q.write = false) :
    Leads (if !ar && ready then [.arPresented q.addr] else []) (.accepted m q (.presented ar ar))
      (.accepted m q (.presented (ar || ready) (ar || ready))) := by
  cases ar <;> cases ready <;> simp [Leads, read]

def written (i : AxilIn) (aw w : Bool) : Service :=
  bif i.bvalid then .replied ⟨i.bresp, 0⟩ else .presented (aw || i.awready) (w || i.wready)

theorem next_written {aw w : Bool} (write : q.write = true)
    (whole : i.bvalid = true → (aw || i.awready) = true ∧ (w || i.wready) = true) :
    Leads (if i.bvalid then [.bReplied i.bresp] else [])
      (.accepted m q (.presented (aw || i.awready) (w || i.wready))) (.accepted m q (written i aw w)) := by
  cases replied : i.bvalid with
  | false => simp [Leads, written, replied]
  | true =>
    obtain ⟨addressed, filled⟩ := whole replied
    simp [Leads, written, replied, write, addressed, filled]

def fetched (i : AxilIn) (ar : Bool) : Service :=
  bif i.rvalid then .replied ⟨i.rresp, i.rdata⟩ else .presented (ar || i.arready) (ar || i.arready)

theorem next_fetched {ar : Bool} (read : q.write = false) (whole : i.rvalid = true → (ar || i.arready) = true) :
    Leads (if i.rvalid then [.rReplied i.rresp i.rdata] else [])
      (.accepted m q (.presented (ar || i.arready) (ar || i.arready))) (.accepted m q (fetched i ar)) := by
  cases replied : i.rvalid with
  | false => simp [Leads, fetched, replied]
  | true => simp [Leads, fetched, replied, read, whole replied]

/-! ### The link -/

/-- Without a new acknowledgement the masters' side is as before. -/
theorem slave_ackSync (same : (s.step (.slave i o)).side.ackToggle = s.side.ackToggle) :
    (s.step (.slave i o)).port.ackSync = s.port.ackSync := by
  change s.port.ackSync.disturb s.side.ackToggle (s.step (.slave i o)).side.ackToggle = _
  rw [same, Synchronizer.disturb_self]

theorem Settled.slaveEdge (settled : s.Settled)
    (seen : (s.step (.slave i o)).side.reqSeen = s.side.reqSeen)
    (acked : (s.step (.slave i o)).side.ackToggle = s.side.ackToggle) :
    (s.step (.slave i o)).Settled where
  request := settled.request.edge o.bit
  seen := seen.trans settled.seen
  acked := acked.trans settled.acked
  ack := by
    rw [slave_ackSync acked]
    exact settled.ack

/-- Without a new request the slave is left at rest. -/
theorem SlaveRests.slaveEdge (rests : s.SlaveRests) (none : s.side.notices = false) :
    (s.step (.slave i o)).SlaveRests ∧
      (s.step (.slave i o)).side.reqSeen = s.side.reqSeen ∧
      (s.step (.slave i o)).side.ackToggle = s.side.ackToggle ∧
      (s.step (.slave i o)).side.ack = s.side.ack := by
  have launches : s.side.launch (sampled s.side.requestSync.unsettled s.port.request o.word) =
      { s.side with drive := s.side.drive.rest, awDone := false, wDone := false } := by
    rw [CdcSide.launch, none]
    rfl
  refine ⟨⟨?_, ?_, slave_rests rests.drive rests.slave⟩, ?_, ?_, ?_⟩ <;>
    simp only [step, CdcSide.step, rests.idle, launches]
  exact s.side.drive.rest_rests

/-- A request that has come through is presented to the slave as it is. -/
theorem SlaveRests.present (rests : s.SlaveRests) (notices : s.side.notices = true)
    (word : sampled s.side.requestSync.unsettled s.port.request o.word = q) :
    (q.write = true → (s.step (.slave i o)).SlaveWrites q false false) ∧
      (q.write = false → (s.step (.slave i o)).SlaveReads q false) ∧
      (s.step (.slave i o)).side.reqSeen = s.side.requestSync.third ∧
      (s.step (.slave i o)).side.ackToggle = s.side.ackToggle := by
  have launches : s.side.launch (sampled s.side.requestSync.unsettled s.port.request o.word) =
      { s.side with
        drive := s.side.drive.rest.present q
        awDone := false
        wDone := false
        reqSeen := s.side.requestSync.third
        state := if q.write then .write else .read } := by
    rw [word, CdcSide.launch, notices]
    rfl
  have slave := slave_rests (i := i) rests.drive rests.slave
  refine ⟨fun write => ⟨?_, ?_, ?_, ?_, slave⟩, fun read => ⟨?_, ?_, slave⟩, ?_, ?_⟩ <;>
    simp only [step, CdcSide.step, rests.idle, launches]
  · rw [if_pos write]
  · rw [AxilDrive.present, if_pos write]
    exact ⟨rfl, rfl, rfl, rfl, rfl, rfl, rfl, rfl⟩
  · rw [read]
    rfl
  · rw [AxilDrive.present, read]
    exact ⟨rfl, rfl, rfl, rfl, rfl, rfl⟩

/-- What has been accepted of a write after one more cycle. -/
theorem SlaveWrites.accepts {aw w : Bool} (writes : s.SlaveWrites q aw w) :
    s.slave.accepts s.side.drive i = ⟨aw || i.awready, w || i.wready, false⟩ := by
  rw [SlaveBook.accepts, writes.slave, writes.drive.awvalid, writes.drive.wvalid, writes.drive.arvalid]
  cases aw <;> cases w <;> simp

/-- A slave that replies has the whole write. -/
theorem SlaveWrites.whole {aw w : Bool} (writes : s.SlaveWrites q aw w)
    (behaves : s.slave.Behaves s.side.drive i) (replied : i.bvalid = true) :
    (aw || i.awready) = true ∧ (w || i.wready) = true := by
  have whole := behaves.1 replied
  rw [writes.accepts] at whole
  exact whole

/-- The slave accepts beats of the write, or replies to it. -/
theorem SlaveWrites.leads {aw w : Bool} (writes : s.SlaveWrites q aw w) (write : q.write = true)
    (behaves : s.slave.Behaves s.side.drive i) :
    Leads (s.slaveEvents i) (.accepted m q (.presented aw w)) (.accepted m q (written i aw w)) := by
  have shown := writes.drive
  have events : s.slaveEvents i =
      (if !aw && i.awready then [.awPresented q.addr] else []) ++
        (if !w && i.wready then [.wPresented q.wdata q.wstrb] else []) ++
        (if i.bvalid then [.bReplied i.bresp] else []) := by
    simp [slaveEvents, shown.awaddr, shown.awvalid, shown.wdata, shown.wstrb, shown.wvalid, shown.bready,
      shown.arvalid, shown.rready]
  rw [events]
  exact ((next_awPresented write).append (next_wPresented write)).append (next_written write (writes.whole behaves))

/-- What one edge makes of a write at the slave. -/
theorem SlaveWrites.write_eq {aw w : Bool} (writes : s.SlaveWrites q aw w)
    (behaves : s.slave.Behaves s.side.drive i) :
    s.side.write i =
      { s.side with
        drive := { s.side.drive with
          awvalid := !(aw || i.awready), wvalid := !(w || i.wready), bready := !i.bvalid }
        awDone := aw || i.awready
        wDone := w || i.wready
        state := bif i.bvalid then .idle else .write
        ack := bif i.bvalid then ⟨i.bresp, 0⟩ else s.side.ack
        ackToggle := bif i.bvalid then !s.side.ackToggle else s.side.ackToggle } := by
  have shown := writes.drive
  have aw_eq : (aw || !aw && i.awready) = (aw || i.awready) := by cases aw <;> rfl
  have w_eq : (w || !w && i.wready) = (w || i.wready) := by cases w <;> rfl
  have ends : s.side.endsWrite i = i.bvalid := by
    rw [CdcSide.endsWrite, CdcSide.slaveTakesAw, CdcSide.slaveTakesW, shown.awvalid, shown.wvalid, shown.bready,
      writes.awDone, writes.wDone, aw_eq, w_eq]
    cases replied : i.bvalid with
    | false => rfl
    | true =>
      obtain ⟨addressed, filled⟩ := writes.whole behaves replied
      rw [addressed, filled]
      rfl
  unfold CdcSide.write
  rw [ends]
  simp only [CdcSide.slaveTakesAw, CdcSide.slaveTakesW, shown.awvalid, shown.wvalid, writes.awDone, writes.wDone, aw_eq,
    w_eq, Bool.not_or]
  cases replied : i.bvalid with
  | false => simp [writes.state, shown.bready]
  | true => rfl

theorem SlaveWrites.slaveEdge {aw w : Bool} (writes : s.SlaveWrites q aw w)
    (behaves : s.slave.Behaves s.side.drive i) (quiet : i.bvalid = false) :
    (s.step (.slave i o)).SlaveWrites q (aw || i.awready) (w || i.wready) ∧
      (s.step (.slave i o)).side.reqSeen = s.side.reqSeen ∧
      (s.step (.slave i o)).side.ackToggle = s.side.ackToggle := by
  have edge := writes.write_eq behaves
  have shown := writes.drive
  rw [quiet] at edge
  refine ⟨⟨?_, ?_, ?_, ?_, ?_⟩, ?_, ?_⟩ <;> simp only [step, CdcSide.step, writes.state, edge]
  · rfl
  · exact ⟨shown.awaddr, rfl, shown.wdata, shown.wstrb, rfl, rfl, shown.arvalid, shown.rready⟩
  · rw [SlaveBook.step, writes.accepts, quiet]
    simp
  · rfl

theorem SlaveWrites.replies {aw w : Bool} (writes : s.SlaveWrites q aw w)
    (behaves : s.slave.Behaves s.side.drive i) (replied : i.bvalid = true) :
    (s.step (.slave i o)).SlaveRests ∧
      (s.step (.slave i o)).side.reqSeen = s.side.reqSeen ∧
      (s.step (.slave i o)).side.ackToggle = (!s.side.ackToggle) ∧
      (s.step (.slave i o)).side.ack = ⟨i.bresp, 0⟩ := by
  have edge := writes.write_eq behaves
  have shown := writes.drive
  obtain ⟨addressed, filled⟩ := writes.whole behaves replied
  rw [replied] at edge
  refine ⟨⟨?_, ?_, ?_⟩, ?_, ?_, ?_⟩ <;> simp only [step, CdcSide.step, writes.state, edge]
  · rfl
  · rw [addressed, filled]
    exact ⟨rfl, rfl, rfl, shown.arvalid, shown.rready⟩
  · rw [SlaveBook.step, writes.accepts, replied, shown.bready]
    simp [SlaveBook.empty]
  · rfl
  · rfl

/-- What has been accepted of a read after one more cycle. -/
theorem SlaveReads.accepts {ar : Bool} (reads : s.SlaveReads q ar) :
    s.slave.accepts s.side.drive i = ⟨false, false, ar || i.arready⟩ := by
  rw [SlaveBook.accepts, reads.slave, reads.drive.awvalid, reads.drive.wvalid, reads.drive.arvalid]
  cases ar <;> simp

theorem SlaveReads.whole {ar : Bool} (reads : s.SlaveReads q ar) (behaves : s.slave.Behaves s.side.drive i)
    (replied : i.rvalid = true) : (ar || i.arready) = true := by
  have whole := behaves.2 replied
  rw [reads.accepts] at whole
  exact whole

/-- The slave accepts the address of the read, or replies to it. -/
theorem SlaveReads.leads {ar : Bool} (reads : s.SlaveReads q ar) (read : q.write = false)
    (behaves : s.slave.Behaves s.side.drive i) :
    Leads (s.slaveEvents i) (.accepted m q (.presented ar ar)) (.accepted m q (fetched i ar)) := by
  have shown := reads.drive
  have events : s.slaveEvents i =
      (if !ar && i.arready then [.arPresented q.addr] else []) ++
        (if i.rvalid then [.rReplied i.rresp i.rdata] else []) := by
    simp [slaveEvents, shown.araddr, shown.arvalid, shown.rready, shown.awvalid, shown.wvalid, shown.bready]
  rw [events]
  exact (next_arPresented read).append (next_fetched read (reads.whole behaves))

/-- What one edge makes of a read at the slave. -/
theorem SlaveReads.read_eq {ar : Bool} (reads : s.SlaveReads q ar) :
    s.side.read i =
      { s.side with
        drive := { s.side.drive with arvalid := !(ar || i.arready), rready := !i.rvalid }
        state := bif i.rvalid then .idle else .read
        ack := bif i.rvalid then ⟨i.rresp, i.rdata⟩ else s.side.ack
        ackToggle := bif i.rvalid then !s.side.ackToggle else s.side.ackToggle } := by
  have shown := reads.drive
  have ends : s.side.endsRead i = i.rvalid := by
    rw [CdcSide.endsRead, shown.rready, Bool.and_true]
  unfold CdcSide.read
  rw [ends]
  simp only [shown.arvalid, Bool.not_or]
  cases replied : i.rvalid with
  | false => simp [reads.state, shown.rready]
  | true => rfl

theorem SlaveReads.slaveEdge {ar : Bool} (reads : s.SlaveReads q ar) (quiet : i.rvalid = false) :
    (s.step (.slave i o)).SlaveReads q (ar || i.arready) ∧
      (s.step (.slave i o)).side.reqSeen = s.side.reqSeen ∧
      (s.step (.slave i o)).side.ackToggle = s.side.ackToggle := by
  have edge := reads.read_eq (i := i)
  have shown := reads.drive
  rw [quiet] at edge
  refine ⟨⟨?_, ?_, ?_⟩, ?_, ?_⟩ <;> simp only [step, CdcSide.step, reads.state, edge]
  · rfl
  · exact ⟨shown.araddr, rfl, rfl, shown.awvalid, shown.wvalid, shown.bready⟩
  · rw [SlaveBook.step, reads.accepts, quiet]
    simp
  · rfl

theorem SlaveReads.replies {ar : Bool} (reads : s.SlaveReads q ar) (behaves : s.slave.Behaves s.side.drive i)
    (replied : i.rvalid = true) :
    (s.step (.slave i o)).SlaveRests ∧
      (s.step (.slave i o)).side.reqSeen = s.side.reqSeen ∧
      (s.step (.slave i o)).side.ackToggle = (!s.side.ackToggle) ∧
      (s.step (.slave i o)).side.ack = ⟨i.rresp, i.rdata⟩ := by
  have edge := reads.read_eq (i := i)
  have shown := reads.drive
  rw [replied] at edge
  refine ⟨⟨?_, ?_, ?_⟩, ?_, ?_, ?_⟩ <;> simp only [step, CdcSide.step, reads.state, edge]
  · rfl
  · rw [reads.whole behaves replied]
    exact ⟨shown.awvalid, shown.wvalid, shown.bready, rfl, rfl⟩
  · rw [SlaveBook.step, reads.accepts, replied, shown.rready]
    simp [SlaveBook.empty]
  · rfl
  · rfl

theorem Settled.replies {r : AxilReply} (settled : s.Settled)
    (rests : (s.step (.slave i o)).SlaveRests)
    (seen : (s.step (.slave i o)).side.reqSeen = s.side.reqSeen)
    (acked : (s.step (.slave i o)).side.ackToggle = (!s.side.ackToggle))
    (ack : (s.step (.slave i o)).side.ack = r) :
    (s.step (.slave i o)).Link q (.replied r) := by
  refine .returning rests (settled.request.edge o.bit) (seen.trans settled.seen)
    (acked.trans (congrArg _ settled.acked)) ?_ ack
  change (s.port.ackSync.disturb s.side.ackToggle (s.step (.slave i o)).side.ackToggle).Arriving _
  rw [acked]
  have shows : s.port.ackSync.Shows (!!s.side.ackToggle) := by
    rw [Bool.not_not, settled.acked]
    exact settled.ack
  have changes := shows.changes
  rw [Bool.not_not] at changes
  exact changes

/-- An edge at the slave brings the request on. -/
theorem Link.slaveEdge (link : s.Link q v) (request : s.port.request = q)
    (behaves : s.slave.Behaves s.side.drive i) (m : Master) :
    ∃ v', Leads (s.slaveEvents i) (.accepted m q v) (.accepted m q v') ∧
      (s.step (.slave i o)).Link q v' := by
  cases link with
  | travelling rests seen arriving acked ack =>
    rw [slaveEvents_rests rests.drive]
    refine ⟨_, leads_nil _, ?_⟩
    cases notices : s.side.notices with
    | false =>
      obtain ⟨rests', seen', acked', -⟩ := rests.slaveEdge (i := i) (o := o) notices
      refine .travelling rests' (seen'.trans seen) (arriving.edge o.bit) (acked'.trans acked) ?_
      rw [slave_ackSync acked']
      exact ack
    | true =>
      have third : s.side.requestSync.third = s.port.reqToggle := by
        rw [CdcSide.notices, seen] at notices
        revert notices
        cases s.side.requestSync.third <;> cases s.port.reqToggle <;> decide
      have shows := arriving.shows third
      have word : sampled s.side.requestSync.unsettled s.port.request o.word = q := by
        rw [shows.settled, request]
        rfl
      obtain ⟨writes, reads, seen', acked'⟩ := rests.present (i := i) (o := o) notices word
      have settled : (s.step (.slave i o)).Settled := by
        refine ⟨shows.edge o.bit, seen'.trans third, acked'.trans acked, ?_⟩
        rw [slave_ackSync acked']
        exact ack
      cases write : q.write with
      | true => exact .writing write (writes write) settled
      | false => exact .reading write (reads write) settled
  | writing write writes settled =>
    refine ⟨_, writes.leads write behaves, ?_⟩
    cases replied : i.bvalid with
    | false =>
      obtain ⟨writes', seen', acked'⟩ := writes.slaveEdge (o := o) behaves replied
      rw [written, replied, cond_false]
      exact .writing write writes' (settled.slaveEdge seen' acked')
    | true =>
      obtain ⟨rests', seen', acked', ack⟩ := writes.replies (o := o) behaves replied
      rw [written, replied, cond_true]
      exact settled.replies rests' seen' acked' ack
  | reading read reads settled =>
    refine ⟨_, reads.leads read behaves, ?_⟩
    cases replied : i.rvalid with
    | false =>
      obtain ⟨reads', seen', acked'⟩ := reads.slaveEdge (o := o) replied
      rw [fetched, replied, cond_false]
      exact .reading read reads' (settled.slaveEdge seen' acked')
    | true =>
      obtain ⟨rests', seen', acked', ack⟩ := reads.replies (o := o) behaves replied
      rw [fetched, replied, cond_true]
      exact settled.replies rests' seen' acked' ack
  | returning rests shows seen acked arriving ack =>
    have none : s.side.notices = false := by
      rw [CdcSide.notices, shows.third, seen, bne_self_eq_false]
    obtain ⟨rests', seen', acked', ack'⟩ := rests.slaveEdge (i := i) (o := o) none
    rw [slaveEvents_rests rests.drive]
    refine ⟨_, leads_nil _, .returning rests' (shows.edge o.bit) (seen'.trans seen) (acked'.trans acked) ?_
      (ack'.trans ack)⟩
    rw [slave_ackSync acked', acked']
    exact arriving

theorem Engaged.slaveEdge (engaged : s.Engaged m q) : (s.step (.slave i o)).Engaged m q :=
  ⟨engaged.grant, engaged.request, engaged.haveAw, engaged.haveW, engaged.others, engaged.taken⟩

variable {a : Transaction}

theorem Phase.slaveEdge (phase : s.Phase a) (behaves : s.slave.Behaves s.side.drive i) :
    ∃ b, Leads (s.slaveEvents i) a b ∧ (s.step (.slave i o)).Phase b := by
  have quiet : s.SlaveRests → s.Settled → s.slaveEvents i = [] ∧
      (s.step (.slave i o)).SlaveRests ∧ (s.step (.slave i o)).Settled := by
    intro rests settled
    have none : s.side.notices = false := by
      rw [CdcSide.notices, settled.request.third, settled.seen, bne_self_eq_false]
    obtain ⟨rests', seen', acked', -⟩ := rests.slaveEdge (i := i) (o := o) none
    exact ⟨slaveEvents_rests rests.drive, rests', settled.slaveEdge seen' acked'⟩
  cases phase with
  | free grant collecting rests settled untaken =>
    obtain ⟨none, rests', settled'⟩ := quiet rests settled
    rw [none]
    exact ⟨_, leads_nil _, .free grant (collecting.ackSync _) rests' settled' untaken⟩
  | opening grant collecting awready wready missing rests settled others aw w ar busy =>
    obtain ⟨none, rests', settled'⟩ := quiet rests settled
    rw [none]
    exact ⟨_, leads_nil _,
      .opening grant (collecting.ackSync _) awready wready missing rests' settled' others aw w ar busy⟩
  | reading grant collecting arready rests settled untaken busy =>
    obtain ⟨none, rests', settled'⟩ := quiet rests settled
    rw [none]
    exact ⟨_, leads_nil _, .reading grant (collecting.ackSync _) arready rests' settled' untaken busy⟩
  | serving engaged state bvalid rvalid link =>
    obtain ⟨v', leads, link'⟩ := link.slaveEdge (o := o)
      engaged.request behaves _
    exact ⟨_, leads, .serving engaged.slaveEdge state bvalid rvalid link'⟩
  | responding engaged responds rests settled =>
    obtain ⟨none, rests', settled'⟩ := quiet rests settled
    rw [none]
    exact ⟨_, leads_nil _, .responding engaged.slaveEdge (responds.ackSync _) rests' settled'⟩

end AxilPath

end Xczu47dr.Rfdc
