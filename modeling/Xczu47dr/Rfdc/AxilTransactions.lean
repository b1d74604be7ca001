import Xczu47dr.Rfdc.AxilPhases

/-! # Transactions are atomic

The edges of the masters' clock: beats are collected under a grant, and the reply is
taken by the master that the grant belongs to.
-/

namespace Xczu47dr.Rfdc

open Clocked

theorem MasterBook.untaken_empty : MasterBook.empty.Untaken :=
  ⟨nofun, nofun, nofun⟩

/-! ## The beats of a channel -/

section Channel

variable {α β : Type} {c : Channel α} {o : Option β} {valid ready : Bool} {x : α}

theorem Accepted.unoffered (accepted : Accepted c o) (holds : c.Holds valid x) (some_ : o.isSome = true) :
    valid = false := by
  cases o with
  | none => exact Bool.noConfusion some_
  | some y =>
    change c = .taken at accepted
    rw [accepted] at holds
    exact holds

theorem Accepted.step (accepted : Accepted c o) (holds : c.Holds valid x) (ready : Bool) (y : β) :
    Accepted (c.step valid ready x) (if valid && ready then some y else o) := by
  cases valid with
  | false => exact accepted
  | true =>
    cases ready with
    | true => rfl
    | false =>
      cases o with
      | none => exact nofun
      | some z => exact absurd (accepted.unoffered holds rfl) (by decide)

theorem busy_step_or (busy : (c.busy || valid) = true) : (c.step valid ready x).busy = true := by
  cases valid with
  | false => simpa using busy
  | true => cases ready <;> rfl

theorem step_taken_eq (taken : c = .taken) (holds : c.Holds valid x) : c.step valid ready x = .taken := by
  rw [taken] at holds ⊢
  rw [show valid = false from holds]
  rfl

end Channel

namespace AxilPath

variable {s : AxilPath} {d : Master → AxilDrive} {m n : Master} {k : Caught AxilReply}

/-! ## What a grant shows the masters -/

/-- Without the grant nothing happens at a master. -/
theorem masterEvents_gated (unwritten : s.grant.use d ≠ .write n) (unread : s.grant.use d ≠ .read n) :
    s.masterEvents d n = [] := by
  simp [masterEvents, shows, Grant.reply, unwritten, unread]

theorem untaken_gated (unwritten : s.grant.use d ≠ .write n) (unread : s.grant.use d ≠ .read n)
    (untaken : (s.masters n).Untaken) : ((s.masters n).step (d n) (s.shows d n)).Untaken := by
  have shown : s.shows d n = { s.port.outputs with
      awready := false, wready := false, bvalid := false, arready := false, rvalid := false } := by
    simp [shows, Grant.reply, unwritten, unread]
  rw [shown, MasterBook.step, MasterBook.ends]
  exact ⟨Channel.step_ne_taken untaken.aw fun _ => rfl, Channel.step_ne_taken untaken.w fun _ => rfl,
    Channel.step_ne_taken untaken.ar fun _ => rfl⟩

/-- What happens is what happens at the master with the grant. -/
theorem events_granted (gated : ∀ n, n ≠ m → s.masterEvents d n = []) :
    s.events (.source d k) = s.masterEvents d m := by
  rw [events]
  cases m with
  | s0 => rw [gated .s1 (by decide), List.append_nil]
  | s1 => rw [gated .s0 (by decide), List.nil_append]

theorem shows_write (used : s.grant.use d = .write m) :
    s.shows d m = { s.port.outputs with arready := false, rvalid := false } := by
  simp [shows, Grant.reply, used]

theorem shows_read (used : s.grant.use d = .read m) :
    s.shows d m = { s.port.outputs with awready := false, wready := false, bvalid := false } := by
  simp [shows, Grant.reply, used]

theorem others_gated (used : s.grant.use d = .write m ∨ s.grant.use d = .read m) (different : n ≠ m) :
    s.grant.use d ≠ .write n ∧ s.grant.use d ≠ .read n := by
  rcases used with used | used <;> rw [used] <;> simp [different.symm]

theorem OthersWait.sourceEdge (used : s.grant.use d = .write m ∨ s.grant.use d = .read m) (others : s.OthersWait m) :
    (s.step (.source d k)).OthersWait m := by
  intro n different
  obtain ⟨unwritten, unread⟩ := others_gated used different
  exact untaken_gated unwritten unread (others n different)

/-- The events under a grant are those of its master. -/
theorem events_of_used (used : s.grant.use d = .write m ∨ s.grant.use d = .read m) :
    s.events (.source d k) = s.masterEvents d m :=
  events_granted fun _ different =>
    have ⟨unwritten, unread⟩ := others_gated used different
    masterEvents_gated unwritten unread

theorem masterEvents_write (used : s.grant.use d = .write m) : s.masterEvents d m =
    (if (d m).awvalid && s.port.awready then [.awAccepted m (d m).awaddr] else []) ++
      (if (d m).wvalid && s.port.wready then [.wAccepted m (d m).wdata (d m).wstrb] else []) ++
      (if s.port.bvalid && (d m).bready then [.bTaken m s.port.bresp] else []) := by
  simp [masterEvents, shows_write used, CdcPort.outputs]

theorem masterEvents_read (used : s.grant.use d = .read m) : s.masterEvents d m =
    (if (d m).arvalid && s.port.arready then [.arAccepted m (d m).araddr] else []) ++
      (if s.port.rvalid && (d m).rready then [.rTaken m s.port.rresp s.port.rdata] else []) := by
  simp [masterEvents, shows_read used, CdcPort.outputs]

theorem masters_write (used : s.grant.use d = .write m) :
    (s.step (.source d k)).masters m =
      if s.port.bvalid && (d m).bready then .empty
      else
        ⟨(s.masters m).aw.step (d m).awvalid s.port.awready (d m).awaddr,
          (s.masters m).w.step (d m).wvalid s.port.wready ((d m).wdata, (d m).wstrb),
          (s.masters m).ar.step (d m).arvalid false (d m).araddr⟩ := by
  change (s.masters m).step (d m) (s.shows d m) = _
  simp [shows_write used, MasterBook.step, MasterBook.ends, CdcPort.outputs]

theorem masters_read (used : s.grant.use d = .read m) :
    (s.step (.source d k)).masters m =
      if s.port.rvalid && (d m).rready then .empty
      else
        ⟨(s.masters m).aw.step (d m).awvalid false (d m).awaddr,
          (s.masters m).w.step (d m).wvalid false ((d m).wdata, (d m).wstrb),
          (s.masters m).ar.step (d m).arvalid s.port.arready (d m).araddr⟩ := by
  change (s.masters m).step (d m) (s.shows d m) = _
  simp [shows_read used, MasterBook.step, MasterBook.ends, CdcPort.outputs]

/-! ## The other half -/

theorem SlaveRests.sourceEdge (rests : s.SlaveRests) : (s.step (.source d k)).SlaveRests :=
  ⟨rests.idle, rests.drive, rests.slave⟩

theorem Settled.sourceEdge (settled : s.Settled)
    (toggle : (s.step (.source d k)).port.reqToggle = s.port.reqToggle)
    (seen : (s.step (.source d k)).port.ackSeen = s.port.ackSeen) :
    (s.step (.source d k)).Settled where
  request := by
    change (s.side.requestSync.disturb s.port.reqToggle
      (s.step (.source d k)).port.reqToggle).Shows _
    rw [toggle, Synchronizer.disturb_self]
    exact settled.request
  seen := settled.seen.trans toggle.symm
  acked := settled.acked.trans seen.symm
  ack := by
    change (s.port.ackSync.edge s.side.ackToggle k.bit).Shows _
    rw [seen, settled.acked]
    exact settled.ack.edge k.bit

theorem Settled.sendsOut {q : AxilRequest} (settled : s.Settled) (rests : s.SlaveRests)
    (toggle : (s.step (.source d k)).port.reqToggle = !s.port.reqToggle)
    (seen : (s.step (.source d k)).port.ackSeen = s.port.ackSeen) :
    (s.step (.source d k)).Link q (.presented false false) := by
  refine .travelling rests.sourceEdge ?_ ?_ (settled.acked.trans seen.symm) ?_
  · rw [toggle, Bool.not_not]
    exact settled.seen
  · change (s.side.requestSync.disturb s.port.reqToggle
      (s.step (.source d k)).port.reqToggle).Arriving _
    rw [toggle]
    have shows : s.side.requestSync.Shows (!!s.port.reqToggle) := by
      rw [Bool.not_not]
      exact settled.request
    have changes := shows.changes
    rw [Bool.not_not] at changes
    exact changes
  · change (s.port.ackSync.edge s.side.ackToggle k.bit).Shows _
    rw [seen, settled.acked]
    exact settled.ack.edge k.bit

/-! ## Collecting a request -/

theorem next_awAccepted (addr : BitVec 18) (w : Option (BitVec 32 × BitVec 4)) :
    Leads [.awAccepted m addr] (.collected m none w) (.collected m (some addr) w) := by
  cases w <;> simp [Leads, Transaction.collected, Transaction.next]

theorem next_wAccepted (aw : Option (BitVec 18)) (wdata : BitVec 32) (wstrb : BitVec 4) :
    Leads [.wAccepted m wdata wstrb] (.collected m aw none) (.collected m aw (some (wdata, wstrb))) := by
  cases aw <;> simp [Leads, Transaction.collected, Transaction.next]

/-- Accepting what has not been accepted leads on. -/
theorem leads_aw {aw : Option (BitVec 18)} {w : Option (BitVec 32 × BitVec 4)} {takes : Bool} {addr : BitVec 18}
    (fresh : aw.isSome = true → takes = false) :
    Leads (if takes then [.awAccepted m addr] else []) (.collected m aw w)
      (.collected m (if takes then some addr else aw) w) := by
  cases takes with
  | false => exact leads_nil _
  | true =>
    cases aw with
    | none => exact next_awAccepted addr w
    | some _ => exact absurd (fresh rfl) (by decide)

theorem leads_w {aw : Option (BitVec 18)} {w : Option (BitVec 32 × BitVec 4)} {takes : Bool} {wdata : BitVec 32}
    {wstrb : BitVec 4} (fresh : w.isSome = true → takes = false) :
    Leads (if takes then [.wAccepted m wdata wstrb] else []) (.collected m aw w)
      (.collected m aw (if takes then some (wdata, wstrb) else w)) := by
  cases takes with
  | false => exact leads_nil _
  | true =>
    cases w with
    | none => exact next_wAccepted aw wdata wstrb
    | some _ => exact absurd (fresh rfl) (by decide)

end AxilPath

namespace CdcPort

variable {p : CdcPort} {u : AxilDrive} {aw : Option (BitVec 18)} {w : Option (BitVec 32 × BitVec 4)}

/-- The beats of a write after one more cycle. -/
def gainsAw (p : CdcPort) (u : AxilDrive) (aw : Option (BitVec 18)) : Option (BitVec 18) :=
  if p.takesAw u then some u.awaddr else aw

def gainsW (p : CdcPort) (u : AxilDrive) (w : Option (BitVec 32 × BitVec 4)) : Option (BitVec 32 × BitVec 4) :=
  if p.takesW u then some (u.wdata, u.wstrb) else w

theorem isSome_gainsAw (collecting : p.Collecting aw w) : (p.gainsAw u aw).isSome = (p.haveAw || p.takesAw u) := by
  rw [collecting.haveAw, gainsAw]
  cases p.takesAw u <;> simp

theorem isSome_gainsW (collecting : p.Collecting aw w) : (p.gainsW u w).isSome = (p.haveW || p.takesW u) := by
  rw [collecting.haveW, gainsW]
  cases p.takesW u <;> simp

/-- The address of a beat that has been accepted is the captured one, or it is just coming. -/
theorem gainsAw_eq (collecting : p.Collecting aw w) {addr : BitVec 18} (gains : p.gainsAw u aw = some addr) :
    (if p.takesAw u then u.awaddr else p.capAwaddr) = addr := by
  rw [gainsAw] at gains
  cases takes : p.takesAw u with
  | true =>
    rw [takes, if_pos rfl] at gains
    exact Option.some.inj gains
  | false =>
    rw [takes] at gains
    exact collecting.capAw addr gains

theorem gainsW_eq (collecting : p.Collecting aw w) {x : BitVec 32 × BitVec 4} (gains : p.gainsW u w = some x) :
    ((if p.takesW u then u.wdata else p.capWdata), if p.takesW u then u.wstrb else p.capWstrb) = x := by
  rw [gainsW] at gains
  cases takes : p.takesW u with
  | true =>
    rw [takes, if_pos rfl] at gains
    exact Option.some.inj gains
  | false =>
    rw [takes] at gains
    exact collecting.capW x gains

/-- As long as a beat is missing the port goes on collecting. -/
theorem Collecting.collect (collecting : p.Collecting aw w) (unread : p.takesAr u = false)
    (missing : p.gainsAw u aw = none ∨ p.gainsW u w = none) :
    (p.collect u).Collecting (p.gainsAw u aw) (p.gainsW u w) ∧ (p.collect u).reqToggle = p.reqToggle ∧
      (p.collect u).ackSeen = p.ackSeen ∧ (p.collect u).awready = !p.haveAw ∧ (p.collect u).wready = !p.haveW ∧
      (p.collect u).arready = (!p.haveAw && !p.haveW) := by
  have partial_ : p.completesWrite u = false := by
    rw [completesWrite, ← isSome_gainsAw collecting, ← isSome_gainsW collecting]
    rcases missing with missing | missing <;> rw [missing] <;> simp
  have unfolded : p.collect u = { p with
      awready := !p.haveAw
      wready := !p.haveW
      arready := !p.haveAw && !p.haveW && !p.bvalid && !p.rvalid
      haveAw := p.haveAw || p.takesAw u
      haveW := p.haveW || p.takesW u
      capAwaddr := if p.takesAw u then u.awaddr else p.capAwaddr
      capWdata := if p.takesW u then u.wdata else p.capWdata
      capWstrb := if p.takesW u then u.wstrb else p.capWstrb } := by
    simp [CdcPort.collect, unread, partial_]
  rw [unfolded]
  refine ⟨⟨collecting.state, collecting.bvalid, collecting.rvalid, ?_, ?_, ?_, ?_⟩, rfl, rfl, rfl, rfl, ?_⟩
  · exact (isSome_gainsAw collecting).symm
  · exact (isSome_gainsW collecting).symm
  · exact fun addr gains => gainsAw_eq collecting gains
  · exact fun x gains => gainsW_eq collecting gains
  · simp [collecting.bvalid, collecting.rvalid]

/-- The reply that has come through is shown. -/
theorem awaitAck_comes (reply : AxilReply) (comes : p.ackSync.third ≠ p.ackSeen) (bvalid : p.bvalid = false)
    (rvalid : p.rvalid = false) :
    (p.awaitAck reply).Responds p.request reply ∧ (p.awaitAck reply).ackSeen = p.ackSync.third ∧
      (p.awaitAck reply).reqToggle = p.reqToggle ∧ (p.awaitAck reply).request = p.request ∧
      (p.awaitAck reply).haveAw = p.haveAw ∧ (p.awaitAck reply).haveW = p.haveW := by
  have differs : (p.ackSync.third != p.ackSeen) = true := bne_iff_ne.mpr comes
  unfold awaitAck
  rw [differs]
  cases write : p.request.write with
  | true => exact ⟨⟨rfl, write.symm, rvalid.trans (by rw [write]; rfl), fun _ => rfl,
      fun read => absurd (write.symm.trans read) (by decide)⟩, rfl, rfl, rfl, rfl, rfl⟩
  | false => exact ⟨⟨rfl, bvalid.trans write.symm, by rw [write]; rfl, fun wrote => absurd (write.symm.trans wrote) (by decide),
      fun _ => rfl⟩, rfl, rfl, rfl, rfl, rfl⟩

/-- The response stands until it is taken. -/
theorem Responds.respond {q : AxilRequest} {r : AxilReply} (responds : p.Responds q r) :
    if p.bvalid && u.bready || p.rvalid && u.rready then
      (p.respond u).state = .idle ∧ (p.respond u).bvalid = false ∧ (p.respond u).rvalid = false
    else (p.respond u).Responds q r := by
  unfold CdcPort.respond
  have bvalid := responds.bvalid
  have rvalid := responds.rvalid
  cases write : q.write with
  | true =>
    rw [write] at bvalid rvalid
    rw [bvalid, rvalid, Bool.not_true, Bool.false_and, Bool.or_false, Bool.true_and]
    cases u.bready with
    | true => exact ⟨rfl, rfl, rfl⟩
    | false => exact ⟨rfl, write.symm, by rw [write]; rfl, responds.bresp, responds.read⟩
  | false =>
    rw [write] at bvalid rvalid
    rw [bvalid, rvalid, Bool.not_false, Bool.false_and, Bool.false_or, Bool.true_and]
    cases u.rready with
    | true => exact ⟨rfl, rfl, rfl⟩
    | false => exact ⟨rfl, write.symm, by rw [write]; rfl, responds.bresp, responds.read⟩

/-- The port `t` comes after `p` and has handed on the request `q`. -/
structure HandedOn (p t : CdcPort) (q : AxilRequest) : Prop where
  state : t.state = .waitAck
  request : t.request = q
  toggle : t.reqToggle = !p.reqToggle
  seen : t.ackSeen = p.ackSeen
  haveAw : t.haveAw = false
  haveW : t.haveW = false
  bvalid : t.bvalid = false
  rvalid : t.rvalid = false

theorem Collecting.handsOn (collecting : p.Collecting aw w) (unread : p.takesAr u = false) {addr : BitVec 18}
    {x : BitVec 32 × BitVec 4} (gainsAw : p.gainsAw u aw = some addr) (gainsW : p.gainsW u w = some x) :
    p.HandedOn (p.collect u) (writeRequest addr x) := by
  have whole : p.completesWrite u = true := by
    rw [completesWrite, ← isSome_gainsAw collecting, ← isSome_gainsW collecting, gainsAw, gainsW]
    rfl
  have word : (⟨true, if p.takesAw u then u.awaddr else p.capAwaddr, if p.takesW u then u.wdata else p.capWdata,
      if p.takesW u then u.wstrb else p.capWstrb⟩ : AxilRequest) = writeRequest addr x := by
    rw [writeRequest, ← gainsAw_eq collecting gainsAw, ← gainsW_eq collecting gainsW]
  unfold CdcPort.collect
  rw [unread, whole]
  exact ⟨rfl, word, rfl, rfl, rfl, rfl, collecting.bvalid, collecting.rvalid⟩

theorem Collecting.handsOnRead (collecting : p.Collecting none none) (takes : p.takesAr u = true)
    (noAw : u.awvalid = false) (noW : u.wvalid = false) : p.HandedOn (p.collect u) (readRequest u.araddr) := by
  have haveAw : (p.haveAw || p.takesAw u) = false := by rw [takesAw, noAw, collecting.haveAw]; rfl
  have haveW : (p.haveW || p.takesW u) = false := by rw [takesW, noW, collecting.haveW]; rfl
  unfold CdcPort.collect
  rw [takes]
  exact ⟨rfl, rfl, rfl, rfl, haveAw, haveW, collecting.bvalid, collecting.rvalid⟩

end CdcPort

namespace AxilPath

variable {s : AxilPath} {d : Master → AxilDrive} {m : Master} {k : Caught AxilReply}

theorem port_collects (idle : s.port.state = .idle) : (s.step (.source d k)).port =
    { s.port.collect (s.grant.drive d) with ackSync := s.port.ackSync.edge s.side.ackToggle k.bit } := by
  simp only [step, CdcPort.step, idle]

/-- A request that has been handed on is served. -/
theorem Phase.handedOn {q : AxilRequest} (idle : s.port.state = .idle)
    (handed : s.port.HandedOn (s.port.collect (s.grant.drive d)) q)
    (grant : (s.step (.source d k)).grant = q.grant m)
    (rests : s.SlaveRests) (settled : s.Settled) (others : (s.step (.source d k)).OthersWait m)
    (taken : ((s.step (.source d k)).masters m).Taken q) :
    (s.step (.source d k)).Phase (.accepted m q (.presented false false)) := by
  have port := port_collects (d := d) (k := k) idle
  refine .serving ⟨grant, ?_, ?_, ?_, others, taken⟩ ?_ ?_ ?_ (settled.sendsOut rests ?_ ?_) <;> rw [port]
  · exact handed.request
  · exact handed.haveAw
  · exact handed.haveW
  · exact handed.state
  · exact handed.bvalid
  · exact handed.rvalid
  · exact handed.toggle
  · exact handed.seen

/-- Under a write grant the beats of its master are collected. -/
theorem gather_write {aw : Option (BitVec 18)} {w : Option (BitVec 32 × BitVec 4)}
    (used : s.grant.use d = .write m) (next : s.grant.step d s.port.outputs = .write m)
    (collecting : s.port.Collecting aw w) (rests : s.SlaveRests) (settled : s.Settled) (others : s.OthersWait m)
    (aw_ : Accepted (s.masters m).aw aw) (w_ : Accepted (s.masters m).w w) (ar : (s.masters m).ar ≠ .taken)
    (behaves : (s.masters m).Behaves (d m)) (busy : (s.masters m).writes (d m) = true) :
    ∃ b, Leads (s.events (.source d k)) (.collected m aw w) b ∧
      (s.step (.source d k)).Phase b := by
  obtain ⟨holdsAw, holdsW, -, -⟩ := behaves
  have lets := Grant.drive_write used
  have takesAw : s.port.takesAw (s.grant.drive d) = ((d m).awvalid && s.port.awready) := by
    rw [CdcPort.takesAw, lets.awvalid]
  have takesW : s.port.takesW (s.grant.drive d) = ((d m).wvalid && s.port.wready) := by
    rw [CdcPort.takesW, lets.wvalid]
  have unread : s.port.takesAr (s.grant.drive d) = false := by
    rw [CdcPort.takesAr, lets.arvalid, Bool.false_and]
  have gainsAw : s.port.gainsAw (s.grant.drive d) aw =
      if (d m).awvalid && s.port.awready then some (d m).awaddr else aw := by
    rw [CdcPort.gainsAw, takesAw, lets.awaddr]
  have gainsW : s.port.gainsW (s.grant.drive d) w =
      if (d m).wvalid && s.port.wready then some ((d m).wdata, (d m).wstrb) else w := by
    rw [CdcPort.gainsW, takesW, lets.wdata, lets.wstrb]
  have masters := masters_write (k := k) used
  rw [collecting.bvalid, Bool.false_and, if_neg Bool.false_ne_true] at masters
  have awNext := aw_.step holdsAw s.port.awready (d m).awaddr
  have wNext := w_.step holdsW s.port.wready ((d m).wdata, (d m).wstrb)
  rw [← gainsAw] at awNext
  rw [← gainsW] at wNext
  have others' := others.sourceEdge (k := k) (.inl used)
  refine ⟨.collected m (s.port.gainsAw (s.grant.drive d) aw) (s.port.gainsW (s.grant.drive d) w), ?_, ?_⟩
  · rw [events_of_used (.inl used), masterEvents_write used, collecting.bvalid, Bool.false_and, if_neg Bool.false_ne_true,
      List.append_nil, gainsAw, gainsW]
    refine (leads_aw fun gained => ?_).append (leads_w fun gained => ?_)
    · rw [aw_.unoffered holdsAw gained, Bool.false_and]
    · rw [w_.unoffered holdsW gained, Bool.false_and]
  · by_cases missing : s.port.gainsAw (s.grant.drive d) aw = none ∨ s.port.gainsW (s.grant.drive d) w = none
    · obtain ⟨collects, toggle, seen, awready, wready, -⟩ := collecting.collect unread missing
      have port := port_collects (d := d) (k := k) collecting.state
      refine .opening next ?_ ?_ ?_ missing rests.sourceEdge (settled.sourceEdge ?_ ?_) others' ?_ ?_ ?_ ?_
      · rw [port]
        exact collects.ackSync _
      · intro none
        have kept : aw = Option.none := by
          rw [gainsAw] at none
          split at none
          · exact absurd none (by simp)
          · exact none
        rw [port]
        change (s.port.collect (s.grant.drive d)).awready = true
        rw [awready, collecting.haveAw, kept]
        rfl
      · intro none
        have kept : w = Option.none := by
          rw [gainsW] at none
          split at none
          · exact absurd none (by simp)
          · exact none
        rw [port]
        change (s.port.collect (s.grant.drive d)).wready = true
        rw [wready, collecting.haveW, kept]
        rfl
      · rw [port]
        exact toggle
      · rw [port]
        exact seen
      · rw [masters]
        exact awNext
      · rw [masters]
        exact wNext
      · rw [masters]
        exact Channel.step_ne_taken ar fun _ => rfl
      · rw [masters]
        rw [MasterBook.writes, Bool.or_eq_true, Bool.or_eq_true, Bool.or_eq_true] at busy
        rw [Bool.or_eq_true]
        rcases busy with ((busy | busy) | valid) | valid
        · exact .inl (busy_step_or (by rw [busy, Bool.true_or]))
        · exact .inr (busy_step_or (by rw [busy, Bool.true_or]))
        · exact .inl (busy_step_or (by rw [valid, Bool.or_true]))
        · exact .inr (busy_step_or (by rw [valid, Bool.or_true]))
    · obtain ⟨addr, hasAw⟩ := Option.ne_none_iff_exists'.mp (fun none => missing (.inl none))
      obtain ⟨x, hasW⟩ := Option.ne_none_iff_exists'.mp (fun none => missing (.inr none))
      rw [hasAw] at awNext
      rw [hasW] at wNext
      rw [hasAw, hasW]
      refine .handedOn collecting.state (collecting.handsOn unread hasAw hasW) next rests settled others' ?_
      rw [masters]
      exact ⟨fun _ => awNext, fun _ => wNext, fun read => Bool.noConfusion read⟩

/-- Under a read grant the address of its master is taken. -/
theorem gather_read (used : s.grant.use d = .read m) (next : s.grant.step d s.port.outputs = .read m)
    (collecting : s.port.Collecting none none) (rests : s.SlaveRests) (settled : s.Settled)
    (untaken : ∀ n, (s.masters n).Untaken) (busy : (s.masters m).reads (d m) = true) :
    ∃ b, Leads (s.events (.source d k)) .free b ∧
      (s.step (.source d k)).Phase b := by
  have lets := Grant.drive_read used
  have takesAr : s.port.takesAr (s.grant.drive d) = ((d m).arvalid && s.port.arready) := by
    rw [CdcPort.takesAr, lets.arvalid]
  have masters := masters_read (k := k) used
  rw [collecting.rvalid, Bool.false_and, if_neg Bool.false_ne_true] at masters
  have others' : (s.step (.source d k)).OthersWait m :=
    OthersWait.sourceEdge (.inr used) fun n _ => untaken n
  rw [events_of_used (.inr used), masterEvents_read used, collecting.rvalid, Bool.false_and, if_neg Bool.false_ne_true,
    List.append_nil]
  cases takes : (d m).arvalid && s.port.arready with
  | true =>
    rw [takes] at takesAr
    refine ⟨.accepted m (readRequest (d m).araddr) (.presented false false), rfl, ?_⟩
    have handed := collecting.handsOnRead takesAr lets.awvalid lets.wvalid
    rw [lets.araddr] at handed
    refine .handedOn collecting.state handed next rests settled others' ?_
    rw [Bool.and_eq_true] at takes
    rw [masters, takes.1, takes.2]
    exact ⟨fun write => Bool.noConfusion write, fun write => Bool.noConfusion write, fun _ => rfl⟩
  | false =>
    rw [takes] at takesAr
    have gainsAw : s.port.gainsAw (s.grant.drive d) none = none := by
      rw [CdcPort.gainsAw, CdcPort.takesAw, lets.awvalid]
      rfl
    have gainsW : s.port.gainsW (s.grant.drive d) none = none := by
      rw [CdcPort.gainsW, CdcPort.takesW, lets.wvalid]
      rfl
    obtain ⟨collects, toggle, seen, -, -, arready⟩ := collecting.collect takesAr (.inl gainsAw)
    rw [gainsAw, gainsW] at collects
    have port := port_collects (d := d) (k := k) collecting.state
    have untaken' : ((s.step (.source d k)).masters m).Untaken := by
      rw [masters]
      refine ⟨Channel.step_ne_taken (untaken m).aw fun _ => rfl, Channel.step_ne_taken (untaken m).w fun _ => rfl,
        Channel.step_ne_taken (untaken m).ar fun valid => ?_⟩
      rw [valid, Bool.true_and] at takes
      exact takes
    refine ⟨.free, leads_nil _, .reading next ?_ ?_ rests.sourceEdge (settled.sourceEdge ?_ ?_) ?_ ?_⟩
    · rw [port]
      exact collects.ackSync _
    · rw [port]
      change (s.port.collect (s.grant.drive d)).arready = true
      rw [arready, collecting.haveAw, collecting.haveW]
      rfl
    · rw [port]
      exact toggle
    · rw [port]
      exact seen
    · intro n
      by_cases same : n = m
      · exact same ▸ untaken'
      · exact others' n same
    · rw [masters]
      exact busy_step_or busy

/-! ## Waiting for the reply -/

variable {q : AxilRequest} {v : Service} {r : AxilReply}

/-- The master `m` takes the response that stands. -/
def answers (s : AxilPath) (d : Master → AxilDrive) (m : Master) : Bool :=
  s.port.bvalid && (d m).bready || s.port.rvalid && (d m).rready

theorem Engaged.used (engaged : s.Engaged m q) : s.grant.use d = s.grant := by
  rw [engaged.grant, AxilRequest.grant]
  cases q.write <;> rfl

theorem Engaged.used_or (engaged : s.Engaged m q) : s.grant.use d = .write m ∨ s.grant.use d = .read m := by
  rw [engaged.used, engaged.grant, AxilRequest.grant]
  cases q.write
  · exact .inr rfl
  · exact .inl rfl

/-- Of a write whose beats are in only the response is left. -/
theorem Engaged.events_write (engaged : s.Engaged m q) (write : q.write = true)
    (behaves : (s.masters m).Behaves (d m)) : s.events (.source d k) =
      if s.port.bvalid && (d m).bready then [.bTaken m s.port.bresp] else [] := by
  obtain ⟨holdsAw, holdsW, -, -⟩ := behaves
  have used : s.grant.use d = .write m := by
    rw [engaged.used, engaged.grant, AxilRequest.grant, write, cond_true]
  rw [engaged.taken.aw write] at holdsAw
  rw [engaged.taken.w write] at holdsW
  rw [events_of_used (.inl used), masterEvents_write used, holdsAw.quiet_of_taken, holdsW.quiet_of_taken]
  rfl

theorem Engaged.events_read (engaged : s.Engaged m q) (read : q.write = false)
    (behaves : (s.masters m).Behaves (d m)) : s.events (.source d k) =
      if s.port.rvalid && (d m).rready then [.rTaken m s.port.rresp s.port.rdata] else [] := by
  obtain ⟨-, -, holdsAr, -⟩ := behaves
  have used : s.grant.use d = .read m := by
    rw [engaged.used, engaged.grant, AxilRequest.grant, read, cond_false]
  rw [engaged.taken.ar read] at holdsAr
  rw [events_of_used (.inr used), masterEvents_read used, holdsAr.quiet_of_taken]
  rfl

/-- The beats stay accepted until the response is taken. -/
theorem Engaged.taken_step (engaged : s.Engaged m q) (behaves : (s.masters m).Behaves (d m))
    (waits : s.answers d m = false) : ((s.step (.source d k)).masters m).Taken q := by
  obtain ⟨holdsAw, holdsW, holdsAr, -⟩ := behaves
  rw [answers, Bool.or_eq_false_iff] at waits
  cases write : q.write with
  | true =>
    have used : s.grant.use d = .write m := by
      rw [engaged.used, engaged.grant, AxilRequest.grant, write, cond_true]
    rw [masters_write used, waits.1, if_neg Bool.false_ne_true]
    exact ⟨fun _ => step_taken_eq (engaged.taken.aw write) holdsAw, fun _ => step_taken_eq (engaged.taken.w write) holdsW,
      fun read => absurd (write.symm.trans read) (by decide)⟩
  | false =>
    have used : s.grant.use d = .read m := by
      rw [engaged.used, engaged.grant, AxilRequest.grant, write, cond_false]
    rw [masters_read used, waits.2, if_neg Bool.false_ne_true]
    exact ⟨fun read => absurd (write.symm.trans read) (by decide),
      fun read => absurd (write.symm.trans read) (by decide), fun _ => step_taken_eq (engaged.taken.ar write) holdsAr⟩

theorem Engaged.grant_step (engaged : s.Engaged m q) : s.grant.step d s.port.outputs =
    if (bif q.write then s.port.bvalid && (d m).bready else s.port.rvalid && (d m).rready) then .idle
    else q.grant m := by
  rw [engaged.grant, AxilRequest.grant]
  cases q.write <;> rfl

/-- The port goes on waiting for an acknowledgement that has not come through. -/
theorem port_waits (state : s.port.state = .waitAck) (none : s.port.ackSync.third = s.port.ackSeen) :
    (s.step (.source d k)).port =
      { s.port with
        awready := false
        wready := false
        arready := false
        ackSync := s.port.ackSync.edge s.side.ackToggle k.bit } := by
  simp [step, CdcPort.step, state, CdcPort.awaitAck, none]

/-- An edge of the masters' clock leaves the request on its way. -/
theorem Link.waits (link : s.Link q v) (state : s.port.state = .waitAck)
    (none : s.port.ackSync.third = s.port.ackSeen) : (s.step (.source d k)).Link q v := by
  have port := port_waits (d := d) (k := k) state none
  have toggle : (s.step (.source d k)).port.reqToggle = s.port.reqToggle := by rw [port]
  have seen : (s.step (.source d k)).port.ackSeen = s.port.ackSeen := by rw [port]
  have sync : (s.step (.source d k)).side.requestSync = s.side.requestSync := by
    change s.side.requestSync.disturb s.port.reqToggle (s.step (.source d k)).port.reqToggle = _
    rw [toggle, Synchronizer.disturb_self]
  have ack : (s.step (.source d k)).port.ackSync =
      s.port.ackSync.edge s.side.ackToggle k.bit := rfl
  cases link with
  | travelling rests reqSeen arriving acked shows =>
    refine .travelling rests.sourceEdge (reqSeen.trans (by rw [toggle])) ?_ (acked.trans seen.symm) ?_
    · rw [sync, toggle]
      exact arriving
    · rw [ack, seen, acked]
      exact shows.edge k.bit
  | writing write writes settled =>
    exact .writing write ⟨writes.state, writes.drive, writes.awDone, writes.wDone, writes.slave⟩
      (settled.sourceEdge toggle seen)
  | reading read reads settled =>
    exact .reading read ⟨reads.state, reads.drive, reads.slave⟩ (settled.sourceEdge toggle seen)
  | returning rests shows reqSeen acked arriving replied =>
    refine .returning rests.sourceEdge ?_ (reqSeen.trans toggle.symm) (acked.trans (by rw [seen])) ?_ replied
    · rw [sync, toggle]
      exact shows
    · rw [ack]
      exact arriving.edge k.bit

/-- A reply that has come through is shown to the masters. -/
theorem Link.comes (link : s.Link q v)
    (comes : s.port.ackSync.third ≠ s.port.ackSeen) :
    ∃ r, v = .replied r ∧ s.SlaveRests ∧ s.side.requestSync.Shows s.port.reqToggle ∧
      s.side.reqSeen = s.port.reqToggle ∧ s.port.ackSync.Shows s.side.ackToggle ∧ s.side.ack = r ∧
      s.port.ackSync.third = s.side.ackToggle := by
  cases link with
  | travelling _ _ _ _ shows => exact absurd shows.third comes
  | writing _ _ settled => exact absurd settled.ack.third comes
  | reading _ _ settled => exact absurd settled.ack.third comes
  | returning rests shows reqSeen acked arriving replied =>
    have third : s.port.ackSync.third = s.side.ackToggle := by
      rw [acked]
      revert comes
      cases s.port.ackSync.third <;> cases s.port.ackSeen <;> decide
    exact ⟨_, rfl, rests, shows, reqSeen, arriving.shows third, replied, third⟩

theorem Phase.serving_sourceEdge (engaged : s.Engaged m q) (state : s.port.state = .waitAck)
    (bvalid : s.port.bvalid = false) (rvalid : s.port.rvalid = false) (link : s.Link q v)
    (behaves : (s.masters m).Behaves (d m)) :
    ∃ b, Leads (s.events (.source d k)) (.accepted m q v) b ∧
      (s.step (.source d k)).Phase b := by
  have silent : s.events (.source d k) = [] := by
    cases write : q.write with
    | true => rw [engaged.events_write write behaves, bvalid]; rfl
    | false => rw [engaged.events_read write behaves, rvalid]; rfl
  have waiting : s.answers d m = false := by rw [answers, bvalid, rvalid]; rfl
  have taken := engaged.taken_step (k := k) behaves waiting
  have grant : (s.step (.source d k)).grant = q.grant m := by
    change s.grant.step d s.port.outputs = _
    rw [engaged.grant_step, bvalid, rvalid]
    cases q.write <;> rfl
  have others := engaged.others.sourceEdge (k := k) (engaged.used_or (d := d))
  rw [silent]
  refine ⟨_, leads_nil _, ?_⟩
  by_cases none : s.port.ackSync.third = s.port.ackSeen
  · have port := port_waits (d := d) (k := k) state none
    refine .serving ⟨grant, ?_, ?_, ?_, others, taken⟩ ?_ ?_ ?_ (link.waits state none) <;> rw [port]
    · exact engaged.request
    · exact engaged.haveAw
    · exact engaged.haveW
    · exact state
    · exact bvalid
    · exact rvalid
  · obtain ⟨r, rfl, rests, shows, reqSeen, acked, replied, third⟩ := link.comes none
    have word : sampled s.port.ackSync.unsettled s.side.ack k.word = r := by
      rw [acked.settled, replied]
      rfl
    obtain ⟨responds, seen, toggle, request, haveAw, haveW⟩ := CdcPort.awaitAck_comes r none bvalid rvalid
    rw [engaged.request] at responds
    have port : (s.step (.source d k)).port =
        { s.port.awaitAck r with ackSync := s.port.ackSync.edge s.side.ackToggle k.bit } := by
      simp only [step, CdcPort.step, state, word]
    refine .responding ⟨grant, ?_, ?_, ?_, others, taken⟩ ?_ rests.sourceEdge ⟨?_, ?_, ?_, ?_⟩
    · rw [port]
      exact request.trans engaged.request
    · rw [port]
      exact haveAw.trans engaged.haveAw
    · rw [port]
      exact haveW.trans engaged.haveW
    · rw [port]
      exact responds.ackSync _
    · change (s.side.requestSync.disturb s.port.reqToggle
        (s.step (.source d k)).port.reqToggle).Shows (s.step (.source d k)).port.reqToggle
      rw [port, toggle, Synchronizer.disturb_self]
      exact shows
    · rw [port]
      exact reqSeen.trans toggle.symm
    · rw [port]
      exact third.symm.trans seen.symm
    · rw [port, seen, third]
      exact acked.edge k.bit

theorem Engaged.port_answers (engaged : s.Engaged m q) (responds : s.port.Responds q r) :
    (s.port.bvalid && (s.grant.drive d).bready || s.port.rvalid && (s.grant.drive d).rready) = s.answers d m := by
  have granted : s.grant.use d = q.grant m := engaged.used.trans engaged.grant
  rw [answers, responds.bvalid, responds.rvalid]
  cases write : q.write with
  | true =>
    rw [AxilRequest.grant, write, cond_true] at granted
    rw [(Grant.drive_write granted).bready]
    rfl
  | false =>
    rw [AxilRequest.grant, write, cond_false] at granted
    rw [(Grant.drive_read granted).rready]
    rfl

/-- With the response the transaction of its master is over. -/
theorem Engaged.emptied (engaged : s.Engaged m q) (responds : s.port.Responds q r) (answered : s.answers d m = true) :
    (s.step (.source d k)).masters m = .empty := by
  have granted : s.grant.use d = q.grant m := engaged.used.trans engaged.grant
  rw [answers, responds.bvalid, responds.rvalid] at answered
  cases write : q.write with
  | true =>
    rw [AxilRequest.grant, write, cond_true] at granted
    rw [write, Bool.not_true, Bool.false_and, Bool.or_false] at answered
    rw [masters_write granted, responds.bvalid, write, if_pos answered]
  | false =>
    rw [AxilRequest.grant, write, cond_false] at granted
    rw [write, Bool.not_false, Bool.false_and, Bool.false_or] at answered
    rw [masters_read granted, responds.rvalid, write, Bool.not_false, if_pos answered]

/-- The response is taken by the master it belongs to. -/
theorem Phase.responding_sourceEdge (engaged : s.Engaged m q) (responds : s.port.Responds q r) (rests : s.SlaveRests)
    (settled : s.Settled) (behaves : (s.masters m).Behaves (d m)) :
    ∃ b, Leads (s.events (.source d k)) (.accepted m q (.replied r)) b ∧
      (s.step (.source d k)).Phase b := by
  have port : (s.step (.source d k)).port =
      { s.port.respond (s.grant.drive d) with ackSync := s.port.ackSync.edge s.side.ackToggle k.bit } := by
    simp only [step, CdcPort.step, responds.state]
  have settled' : (s.step (.source d k)).Settled :=
    settled.sourceEdge (by rw [port]; rfl) (by rw [port]; rfl)
  have others := engaged.others.sourceEdge (k := k) (engaged.used_or (d := d))
  have stands := responds.respond (u := s.grant.drive d)
  have grant : (s.step (.source d k)).grant = if s.answers d m then .idle else q.grant m := by
    change s.grant.step d s.port.outputs = _
    rw [engaged.grant_step, answers, responds.bvalid, responds.rvalid]
    cases q.write <;> simp
  have leads : Leads (s.events (.source d k)) (.accepted m q (.replied r))
      (if s.answers d m then .free else .accepted m q (.replied r)) := by
    rw [answers, responds.bvalid, responds.rvalid]
    cases write : q.write with
    | true =>
      rw [engaged.events_write write behaves, responds.bvalid, write]
      cases (d m).bready with
      | true => simp [Leads, Transaction.next, write, responds.bresp write]
      | false => rfl
    | false =>
      rw [engaged.events_read write behaves, responds.rvalid, write]
      cases (d m).rready with
      | true => simp [Leads, Transaction.next, write, responds.read write]
      | false => rfl
  rw [engaged.port_answers responds] at stands
  cases answered : s.answers d m with
  | true =>
    rw [answered, if_pos rfl] at stands grant leads
    obtain ⟨state, bvalid, rvalid⟩ := stands
    have empty := engaged.emptied (k := k) responds answered
    refine ⟨_, leads, .free grant ⟨?_, ?_, ?_, ?_, ?_, ?_, ?_⟩ rests.sourceEdge settled' fun n => ?_⟩
    · rw [port]
      exact state
    · rw [port]
      exact bvalid
    · rw [port]
      exact rvalid
    · rw [port]
      exact engaged.haveAw
    · rw [port]
      exact engaged.haveW
    · rintro _ ⟨⟩
    · rintro _ ⟨⟩
    · by_cases same : n = m
      · rw [same, empty]
        exact MasterBook.untaken_empty
      · exact others n same
  | false =>
    rw [answered, if_neg Bool.false_ne_true] at stands grant leads
    refine ⟨_, leads, .responding ⟨grant, ?_, ?_, ?_, others, engaged.taken_step behaves answered⟩ ?_ rests.sourceEdge settled'⟩ <;>
      rw [port]
    · exact engaged.request
    · exact engaged.haveAw
    · exact engaged.haveW
    · exact stands.ackSync _

/-! ## All edges -/

variable {a : Transaction} {tick : AxilTick}

/-- A cycle without requests changes nothing. -/
theorem Phase.stays_free (unused : s.grant.use d = .idle) (grant : s.grant = .idle)
    (collecting : s.port.Collecting none none) (rests : s.SlaveRests) (settled : s.Settled)
    (untaken : ∀ m, (s.masters m).Untaken) :
    s.events (.source d k) = [] ∧ (s.step (.source d k)).Phase .free := by
  have gated : ∀ m, s.grant.use d ≠ .write m ∧ s.grant.use d ≠ .read m := fun m => by rw [unused]; simp
  obtain ⟨noAw, noW, noAr⟩ := Grant.drive_idle unused
  have gainsAw : s.port.gainsAw (s.grant.drive d) none = none := by
    rw [CdcPort.gainsAw, CdcPort.takesAw, noAw]
    rfl
  have gainsW : s.port.gainsW (s.grant.drive d) none = none := by
    rw [CdcPort.gainsW, CdcPort.takesW, noW]
    rfl
  have unread : s.port.takesAr (s.grant.drive d) = false := by rw [CdcPort.takesAr, noAr, Bool.false_and]
  obtain ⟨collects, toggle, seen, -⟩ := collecting.collect unread (.inl gainsAw)
  rw [gainsAw, gainsW] at collects
  have port := port_collects (d := d) (k := k) collecting.state
  constructor
  · rw [events, masterEvents_gated (gated .s0).1 (gated .s0).2, masterEvents_gated (gated .s1).1 (gated .s1).2]
    rfl
  · refine .free ?_ ?_ rests.sourceEdge (settled.sourceEdge ?_ ?_) fun m =>
      untaken_gated (gated m).1 (gated m).2 (untaken m)
    · change s.grant.step d s.port.outputs = _
      rw [grant] at unused ⊢
      exact unused
    · rw [port]
      exact collects.ackSync _
    · rw [port]
      exact toggle
    · rw [port]
      exact seen

/-- An edge of the masters' clock leads on. -/
theorem Phase.sourceEdge (phase : s.Phase a) (behaves : ∀ m, (s.masters m).Behaves (d m)) :
    ∃ b, Leads (s.events (.source d k)) a b ∧
      (s.step (.source d k)).Phase b := by
  cases phase with
  | free grant collecting rests settled untaken =>
    have next : s.grant.step d s.port.outputs = s.grant.use d := by rw [grant]; rfl
    have requests := Grant.use_cases (d := d) grant
    rcases requests with ⟨unused, -⟩ | ⟨m, used, busy⟩ | ⟨m, used, busy⟩
    · obtain ⟨silent, free⟩ := Phase.stays_free (k := k) unused grant
        collecting rests settled untaken
      rw [silent]
      exact ⟨_, leads_nil _, free⟩
    · have begun : (s.masters m).writes (d m) = true := by
        rw [MasterBook.writes, Bool.or_assoc, busy, Bool.or_true]
      have gathers := gather_write (k := k) used (next.trans used) collecting rests settled (fun n _ => untaken n)
        (untaken m).aw (untaken m).w (untaken m).ar (behaves m) begun
      exact gathers
    · refine gather_read used (next.trans used) collecting rests settled untaken ?_
      rw [MasterBook.reads, busy, Bool.or_true]
  | opening grant collecting _ _ _ rests settled others aw w ar busy =>
    refine gather_write (by rw [grant]; rfl) ?_ collecting rests settled others aw w ar (behaves _) ?_
    · rw [grant]
      change (if s.port.bvalid && _ then _ else _) = _
      rw [collecting.bvalid]
      rfl
    · rw [MasterBook.writes, busy]
      rfl
  | reading grant collecting _ rests settled untaken busy =>
    refine gather_read (by rw [grant]; rfl) ?_ collecting rests settled untaken ?_
    · rw [grant]
      change (if s.port.rvalid && _ then _ else _) = _
      rw [collecting.rvalid]
      rfl
    · rw [MasterBook.reads, busy]
      rfl
  | serving engaged state bvalid rvalid link =>
    exact Phase.serving_sourceEdge engaged state bvalid rvalid link (behaves _)
  | responding engaged responds rests settled =>
    exact Phase.responding_sourceEdge engaged responds rests settled (behaves _)

theorem Phase.step (phase : s.Phase a) (behaves : s.Behaves tick) :
    ∃ b, Leads (s.events tick) a b ∧ (s.step tick).Phase b := by
  cases tick with
  | source d k =>
    refine phase.sourceEdge fun m => ?_
    cases m with
    | s0 => exact behaves.1
    | s1 => exact behaves.2
  | slave i o => exact phase.slaveEdge behaves

theorem phase_reset : axilPath.reset.Phase .free :=
  .free rfl ⟨rfl, rfl, rfl, rfl, rfl, nofun, nofun⟩
    ⟨rfl, ⟨rfl, rfl, rfl, rfl, rfl⟩, rfl⟩ ⟨⟨rfl, rfl, rfl, rfl⟩, rfl, rfl, ⟨rfl, rfl, rfl, rfl⟩⟩
    fun _ => MasterBook.untaken_empty

end AxilPath

/-- In every run of masters and a slave that behave the transactions are atomic, and the path
    is in the phase that they have come to. -/
theorem phase_of_run (ticks : List AxilTick) (behaves : axilPath.Along AxilPath.Behaves axilPath.reset ticks) :
    ∃ a, Leads (axilPath.log AxilPath.events axilPath.reset ticks) .free a ∧
      (axilPath.run axilPath.reset ticks).Phase a :=
  axilPath.run_induction (C := AxilPath.Behaves)
    (P := fun ticks s => ∃ a, Leads (axilPath.log AxilPath.events axilPath.reset ticks) .free a ∧ s.Phase a)
    ⟨.free, leads_nil _, AxilPath.phase_reset⟩
    (fun ticks tick _ before now => by
      obtain ⟨a, sofar, phase⟩ := before
      obtain ⟨b, leads, after⟩ := phase.step now
      refine ⟨b, ?_, after⟩
      rw [Machine.log_append, Machine.log_cons, Machine.log_nil, List.append_nil]
      exact sofar.append leads) ticks behaves

end Xczu47dr.Rfdc
