import Xczu47dr.Clocked.Progress
import Xczu47dr.Rfdc.AxilTransactions

/-! # Transactions are answered

A transaction that has been begun is answered, whatever the clocks and the slave's
latency, as long as the masters and the slave act again and again.
-/

namespace Xczu47dr.Rfdc

open Clocked

def AxilEvent.ends : AxilEvent → Bool
  | .bTaken _ _ => true
  | .rTaken _ _ _ => true
  | _ => false

def AxilDrive.pending (d : AxilDrive) : Nat := d.awvalid.toNat + d.wvalid.toNat + d.arvalid.toNat

/-- Who has to act. -/
inductive Turn
  | master (m : Master)
  | slave

def Grant.owner : Grant → Master
  | idle => .s0
  | write m => m
  | read m => m

namespace AxilPath

variable (s : AxilPath)

def Busy : Prop := ∃ m, (s.masters m).busy = true

/-- The master offers all beats of a write that it has begun, and takes the response it is
    shown; the slave accepts and answers what it can. -/
def Acts : Turn → AxilTick → Prop
  | .master m, .source d _ =>
    ((s.masters m).writes (d m) = true → ((s.masters m).aw = .taken ∨ (d m).awvalid = true) ∧
      ((s.masters m).w = .taken ∨ (d m).wvalid = true)) ∧
      ((s.shows d m).bvalid = true → (d m).bready = true) ∧ ((s.shows d m).rvalid = true → (d m).rready = true)
  | .slave, .slave i _ =>
    (s.side.drive.awvalid = true → i.awready = true) ∧ (s.side.drive.wvalid = true → i.wready = true) ∧
      (s.side.drive.arvalid = true → i.arready = true) ∧ (s.slave.aw = true ∧ s.slave.w = true → i.bvalid = true) ∧
      (s.slave.ar = true → i.rvalid = true)
  | _, _ => False

instance : (t : Turn) → (tick : AxilTick) → Decidable (s.Acts t tick)
  | .master _, .source _ _ => inferInstanceAs (Decidable ((_ → _ ∧ _) ∧ (_ → _) ∧ (_ → _)))
  | .slave, .slave _ _ => inferInstanceAs (Decidable ((_ → _) ∧ (_ → _) ∧ (_ → _) ∧ (_ ∧ _ → _) ∧ (_ → _)))
  | .master _, .slave _ _ => inferInstanceAs (Decidable False)
  | .slave, .source _ _ => inferInstanceAs (Decidable False)

/-- A bound on the edges that matter until the response is taken. -/
def rank : Nat :=
  match s.port.state with
  | .idle => if s.grant = .idle then 20 else 19
  | .waitAck =>
    if s.side.ackToggle = s.port.ackSeen then
      if s.side.state = .idle then 14 + s.side.requestSync.left s.port.reqToggle else 8 + s.side.drive.pending
    else 2 + s.port.ackSync.left s.side.ackToggle
  | .resp => 1

def turn : Turn :=
  if s.port.state = .waitAck ∧ s.side.ackToggle = s.port.ackSeen then .slave else .master s.grant.owner

variable {s} {d : Master → AxilDrive} {m : Master} {k : Caught AxilReply}

theorem rank_idle (idle : s.port.state = .idle) : s.rank = if s.grant = .idle then 20 else 19 := by
  rw [rank, idle]

theorem rank_resp (resp : s.port.state = .resp) : s.rank = 1 := by rw [rank, resp]

theorem rank_coming (state : s.port.state = .waitAck) (acked : s.side.ackToggle ≠ s.port.ackSeen) :
    s.rank = 2 + s.port.ackSync.left s.side.ackToggle := by
  rw [rank, state]
  exact if_neg acked

theorem rank_travelling (state : s.port.state = .waitAck) (acked : s.side.ackToggle = s.port.ackSeen)
    (idle : s.side.state = .idle) : s.rank = 14 + s.side.requestSync.left s.port.reqToggle := by
  rw [rank, state]
  exact (if_pos acked).trans (if_pos idle)

theorem rank_presented (state : s.port.state = .waitAck) (acked : s.side.ackToggle = s.port.ackSeen)
    (busy : s.side.state ≠ .idle) : s.rank = 8 + s.side.drive.pending := by
  rw [rank, state]
  exact (if_pos acked).trans (if_neg busy)

theorem pending_le (d : AxilDrive) : d.pending ≤ 3 := by
  have one : ∀ b : Bool, b.toNat ≤ 1 := fun b => by cases b <;> decide
  have aw := one d.awvalid
  have w := one d.wvalid
  have ar := one d.arvalid
  unfold AxilDrive.pending
  omega

theorem rank_waitAck (state : s.port.state = .waitAck) : s.rank ≤ 18 := by
  by_cases acked : s.side.ackToggle = s.port.ackSeen
  · by_cases idle : s.side.state = .idle
    · have left := s.side.requestSync.left_le s.port.reqToggle
      rw [rank_travelling state acked idle]
      omega
    · have pending := pending_le s.side.drive
      rw [rank_presented state acked idle]
      omega
  · have left := s.port.ackSync.left_le s.side.ackToggle
    rw [rank_coming state acked]
    omega

/-- Once a grant has been given, the rank is below that of a free path. -/
theorem rank_granted (granted : s.grant ≠ .idle) : s.rank ≤ 19 := by
  cases state : s.port.state with
  | idle => rw [rank_idle state, if_neg granted]
  | waitAck => exact (rank_waitAck state).trans (by decide)
  | resp => rw [rank_resp state]; decide

/-- A begun transaction goes on until a response is taken. -/
theorem busy_sourceEdge (busy : s.Busy) (unended : ∀ e ∈ s.events (.source d k), e.ends = false) :
    (s.step (.source d k)).Busy := by
  obtain ⟨m, busy⟩ := busy
  have ends : MasterBook.ends (d m) (s.shows d m) = false := by
    have among : ∀ e ∈ s.masterEvents d m, e.ends = false := by
      intro e mem
      refine unended e ?_
      rw [events]
      cases m
      · exact List.mem_append_left _ mem
      · exact List.mem_append_right _ mem
    rw [MasterBook.ends, Bool.or_eq_false_iff]
    refine ⟨eq_false_of_ne_true fun taken => ?_, eq_false_of_ne_true fun taken => ?_⟩
    · have mem : .bTaken m (s.shows d m).bresp ∈ s.masterEvents d m := by simp [masterEvents, taken]
      exact Bool.noConfusion (show true = false from among _ mem)
    · have mem : .rTaken m (s.shows d m).rresp (s.shows d m).rdata ∈ s.masterEvents d m := by
        simp [masterEvents, taken]
      exact Bool.noConfusion (show true = false from among _ mem)
  refine ⟨m, ?_⟩
  change ((s.masters m).step (d m) (s.shows d m)).busy = true
  rw [MasterBook.step, ends, if_neg Bool.false_ne_true]
  simp only [MasterBook.busy, Bool.or_eq_true] at busy ⊢
  rcases busy with (aw | w) | ar
  · exact .inl (.inl (Channel.busy_step aw))
  · exact .inl (.inr (Channel.busy_step w))
  · exact .inr (Channel.busy_step ar)

/-! ## Edges at the slave -/

variable {i : AxilIn} {o : Caught AxilRequest} {q : AxilRequest} {v : Service}
  {a : Transaction} {tick : AxilTick}

/-- The path comes nearer to the response, or it stays as near and waits for another edge. -/
def Nears (s : AxilPath) (tick : AxilTick) : Prop :=
  (s.step tick).rank < s.rank ∨
    (s.step tick).rank = s.rank ∧ (s.step tick).turn = s.turn ∧ ¬ s.Acts s.turn tick

theorem turn_master (state : s.port.state ≠ .waitAck) : s.turn = .master s.grant.owner :=
  if_neg fun waits => state waits.1

theorem turn_coming (acked : s.side.ackToggle ≠ s.port.ackSeen) : s.turn = .master s.grant.owner :=
  if_neg fun waits => acked waits.2

theorem turn_slave (state : s.port.state = .waitAck) (acked : s.side.ackToggle = s.port.ackSeen) : s.turn = .slave :=
  if_pos ⟨state, acked⟩

theorem slave_state : (s.step (.slave i o)).port.state = s.port.state := rfl

/-- While the masters' side collects or responds, an edge at the slave changes nothing. -/
theorem nears_slave_idle (state : s.port.state ≠ .waitAck) : s.Nears (.slave i o) := by
  refine .inr ⟨?_, ?_, ?_⟩
  · cases now : s.port.state with
    | idle =>
      rw [rank_idle now]
      exact rank_idle (s := s.step (.slave i o)) now
    | waitAck => exact absurd now state
    | resp =>
      rw [rank_resp now]
      exact rank_resp (s := s.step (.slave i o)) now
  · rw [turn_master state]
    exact turn_master (s := s.step (.slave i o)) state
  · rw [turn_master state]
    exact fun acts => acts

theorem pending_write {aw w : Bool} (shown : s.side.drive.ShowsWrite q aw w) :
    s.side.drive.pending = (!aw).toNat + (!w).toNat := by
  rw [AxilDrive.pending, shown.awvalid, shown.wvalid, shown.arvalid]
  rfl

theorem pending_read {ar : Bool} (shown : s.side.drive.ShowsRead q ar) : s.side.drive.pending = (!ar).toNat := by
  rw [AxilDrive.pending, shown.awvalid, shown.wvalid, shown.arvalid]
  simp

/-- A beat that is accepted is no longer pending, or nothing has changed. -/
theorem accepts_or (taken ready : Bool) :
    (!(taken || ready)).toNat < (!taken).toNat ∨ (taken || ready) = taken := by
  cases taken <;> cases ready <;> decide

theorem accepts_le (taken ready : Bool) : (!(taken || ready)).toNat ≤ (!taken).toNat := by
  cases taken <;> cases ready <;> decide

/-- What is still pending has not met a slave that accepts it. -/
theorem accepted_all {taken ready : Bool} (same : (taken || ready) = taken) (takes : (!taken) = true → ready = true) :
    taken = true := by
  cases taken with
  | true => rfl
  | false => exact same.symm.trans (takes rfl)

theorem nears_replied (state : s.port.state = .waitAck) (acked : s.side.ackToggle = s.port.ackSeen)
    (busy : s.side.state ≠ .idle)
    (flips : (s.step (.slave i o)).side.ackToggle = (!s.side.ackToggle)) :
    s.Nears (.slave i o) := by
  have apart : (s.step (.slave i o)).side.ackToggle ≠
      (s.step (.slave i o)).port.ackSeen := by
    rw [flips]
    change (!s.side.ackToggle) ≠ s.port.ackSeen
    rw [← acked]
    cases s.side.ackToggle <;> decide
  have left := (s.step (.slave i o)).port.ackSync.left_le
    (s.step (.slave i o)).side.ackToggle
  refine .inl ?_
  rw [rank_coming (slave_state.trans state) apart, rank_presented state acked busy]
  omega

theorem Link.nears_slaveEdge (link : s.Link q v) (state : s.port.state = .waitAck)
    (behaves : s.slave.Behaves s.side.drive i) : s.Nears (.slave i o) := by
  cases link with
  | travelling rests seen arriving acked ack =>
    refine .inl ?_
    rw [rank_travelling state acked rests.idle]
    cases notices : s.side.notices with
    | false =>
      obtain ⟨rests', -, acked', -⟩ := rests.slaveEdge (i := i) (o := o) notices
      have late : s.side.requestSync.third ≠ s.port.reqToggle := by
        rw [CdcSide.notices, seen] at notices
        revert notices
        cases s.side.requestSync.third <;> cases s.port.reqToggle <;> decide
      have less := Synchronizer.left_edge late o.bit
      rw [rank_travelling (slave_state.trans state) (acked'.trans acked) rests'.idle]
      exact Nat.add_lt_add_left less 14
    | true =>
      obtain ⟨writes, reads, -, acked'⟩ := rests.present (i := i) (o := o) notices rfl
      have busy : (s.step (.slave i o)).side.state ≠ .idle := by
        cases write : (sampled s.side.requestSync.unsettled s.port.request o.word).write with
        | true => rw [(writes write).state]; decide
        | false => rw [(reads write).state]; decide
      have pending := pending_le (s.step (.slave i o)).side.drive
      rw [rank_presented (slave_state.trans state) (acked'.trans acked) busy]
      omega
  | @writing aw w write writes settled =>
    have busy : s.side.state ≠ .idle := by rw [writes.state]; decide
    cases replied : i.bvalid with
    | true =>
      obtain ⟨-, -, flips, -⟩ := writes.replies (o := o) behaves replied
      exact nears_replied state settled.acked busy flips
    | false =>
      obtain ⟨writes', -, acked'⟩ := writes.slaveEdge (o := o)
        behaves replied
      have busy' : (s.step (.slave i o)).side.state ≠ .idle := by rw [writes'.state]; decide
      have shown := writes.drive
      rw [Nears, rank_presented state settled.acked busy, rank_presented (slave_state.trans state) (acked'.trans settled.acked) busy',
        turn_slave state settled.acked, turn_slave (slave_state.trans state) (acked'.trans settled.acked), pending_write writes.drive,
        pending_write writes'.drive]
      rcases accepts_or aw i.awready with less | same
      · have others := accepts_le w i.wready
        exact .inl (by omega)
      · rcases accepts_or w i.wready with less | same'
        · exact .inl (by rw [same]; omega)
        · rw [same, same']
          refine .inr ⟨rfl, rfl, ?_⟩
          rintro ⟨takesAw, takesW, -, replies, -⟩
          rw [shown.awvalid] at takesAw
          rw [shown.wvalid] at takesW
          rw [writes.slave, replied, accepted_all same takesAw, accepted_all same' takesW] at replies
          exact Bool.noConfusion (replies ⟨rfl, rfl⟩)
  | @reading ar read reads settled =>
    have busy : s.side.state ≠ .idle := by rw [reads.state]; decide
    cases replied : i.rvalid with
    | true =>
      obtain ⟨-, -, flips, -⟩ := reads.replies (o := o) behaves replied
      exact nears_replied state settled.acked busy flips
    | false =>
      obtain ⟨reads', -, acked'⟩ := reads.slaveEdge (o := o) replied
      have busy' : (s.step (.slave i o)).side.state ≠ .idle := by rw [reads'.state]; decide
      have shown := reads.drive
      rw [Nears, rank_presented state settled.acked busy, rank_presented (slave_state.trans state) (acked'.trans settled.acked) busy',
        turn_slave state settled.acked, turn_slave (slave_state.trans state) (acked'.trans settled.acked), pending_read reads.drive,
        pending_read reads'.drive]
      rcases accepts_or ar i.arready with less | same
      · exact .inl (by omega)
      · rw [same]
        refine .inr ⟨rfl, rfl, ?_⟩
        rintro ⟨-, -, takesAr, -, replies⟩
        rw [shown.arvalid] at takesAr
        rw [reads.slave, replied, accepted_all same takesAr] at replies
        exact Bool.noConfusion (replies rfl)
  | returning rests shows seen acked arriving replied =>
    have none : s.side.notices = false := by
      rw [CdcSide.notices, shows.third, seen, bne_self_eq_false]
    obtain ⟨-, -, acked', -⟩ := rests.slaveEdge (i := i) (o := o) none
    have apart : s.side.ackToggle ≠ s.port.ackSeen := by
      rw [acked]
      cases s.port.ackSeen <;> decide
    have apart' : (s.step (.slave i o)).side.ackToggle ≠
        (s.step (.slave i o)).port.ackSeen := by
      rw [acked']
      exact apart
    refine .inr ⟨?_, ?_, ?_⟩
    · rw [rank_coming state apart, rank_coming (slave_state.trans state) apart', slave_ackSync acked', acked']
    · rw [turn_coming apart]
      exact turn_coming apart'
    · rw [turn_coming apart]
      exact fun acts => acts

/-! ## Edges of the masters' clock -/

/-- Under a grant the path waits for its master to hand on the request. -/
theorem nears_granted (state : s.port.state = .idle) (granted : s.grant ≠ .idle)
    (kept : (s.step tick).grant = s.grant)
    (hands : s.Acts (.master s.grant.owner) tick → (s.step tick).port.state = .waitAck) : s.Nears tick := by
  have now : s.rank = 19 := by rw [rank_idle state, if_neg granted]
  rw [Nears, now]
  cases state' : (s.step tick).port.state with
  | idle =>
    refine .inr ⟨?_, ?_, ?_⟩
    · rw [rank_idle state', kept, if_neg granted]
    · rw [turn_master (by rw [state']; decide), turn_master (by rw [state]; decide), kept]
    · rw [turn_master (by rw [state]; decide)]
      exact fun acts => absurd (state'.symm.trans (hands acts)) (by decide)
  | waitAck => exact .inl (Nat.lt_of_le_of_lt (rank_waitAck state') (by decide))
  | resp => exact .inl (by rw [rank_resp state']; decide)

/-- A master that offers the missing beats has its write handed on. -/
theorem write_hands {aw : Option (BitVec 18)} {w : Option (BitVec 32 × BitVec 4)} (grant : s.grant = .write m)
    (collecting : s.port.Collecting aw w) (awready : aw = none → s.port.awready = true)
    (wready : w = none → s.port.wready = true) (aw_ : Accepted (s.masters m).aw aw) (w_ : Accepted (s.masters m).w w)
    (busy : ((s.masters m).aw.busy || (s.masters m).w.busy) = true)
    (acts : s.Acts (.master m) (.source d k)) :
    (s.step (.source d k)).port.state = .waitAck := by
  obtain ⟨offers, -, -⟩ := acts
  have lets : Grant.Writes (s.grant.drive d) (d m) := Grant.drive_write (by rw [grant]; rfl)
  obtain ⟨hasAw, hasW⟩ := offers (by rw [MasterBook.writes, busy]; rfl)
  have gainsAw : (s.port.gainsAw (s.grant.drive d) aw).isSome = true := by
    rw [CdcPort.isSome_gainsAw collecting, collecting.haveAw, CdcPort.takesAw, lets.awvalid]
    cases aw with
    | some addr => rfl
    | none =>
      rw [hasAw.resolve_left aw_, awready rfl]
      rfl
  have gainsW : (s.port.gainsW (s.grant.drive d) w).isSome = true := by
    rw [CdcPort.isSome_gainsW collecting, collecting.haveW, CdcPort.takesW, lets.wvalid]
    cases w with
    | some x => rfl
    | none =>
      rw [hasW.resolve_left w_, wready rfl]
      rfl
  obtain ⟨addr, gainsAw⟩ := Option.isSome_iff_exists.mp gainsAw
  obtain ⟨x, gainsW⟩ := Option.isSome_iff_exists.mp gainsW
  have unread : s.port.takesAr (s.grant.drive d) = false := by rw [CdcPort.takesAr, lets.arvalid, Bool.false_and]
  rw [port_collects collecting.state]
  exact (collecting.handsOn unread gainsAw gainsW).state

/-- An open read is handed on at the next edge. -/
theorem read_hands (grant : s.grant = .read m) (collecting : s.port.Collecting none none)
    (arready : s.port.arready = true) (untaken : (s.masters m).Untaken) (busy : (s.masters m).ar.busy = true)
    (behaves : (s.masters m).Behaves (d m)) : (s.step (.source d k)).port.state = .waitAck := by
  obtain ⟨-, -, holdsAr, -⟩ := behaves
  have lets : Grant.Reads (s.grant.drive d) (d m) := Grant.drive_read (by rw [grant]; rfl)
  have takes : s.port.takesAr (s.grant.drive d) = true := by
    rw [CdcPort.takesAr, lets.arvalid, holdsAr.offers busy untaken.ar, arready]
    rfl
  rw [port_collects collecting.state]
  exact (collecting.handsOnRead takes lets.awvalid lets.wvalid).state

/-- A busy master that has had no beat accepted has a beat on offer. -/
theorem offers_of_busy (busy : (s.masters m).busy = true) (untaken : (s.masters m).Untaken)
    (behaves : (s.masters m).Behaves (d m)) :
    ¬ ((d m).awvalid = false ∧ (d m).wvalid = false ∧ (d m).arvalid = false) := by
  obtain ⟨holdsAw, holdsW, holdsAr, -⟩ := behaves
  rintro ⟨noAw, noW, noAr⟩
  rw [MasterBook.busy, Bool.or_eq_true, Bool.or_eq_true] at busy
  rcases busy with (aw | w) | ar
  · exact Bool.noConfusion (noAw.symm.trans (holdsAw.offers aw untaken.aw))
  · exact Bool.noConfusion (noW.symm.trans (holdsW.offers w untaken.w))
  · exact Bool.noConfusion (noAr.symm.trans (holdsAr.offers ar untaken.ar))

theorem Link.nears_sourceEdge (link : s.Link q v) (state : s.port.state = .waitAck) (bvalid : s.port.bvalid = false)
    (rvalid : s.port.rvalid = false) : s.Nears (.source d k) := by
  by_cases none : s.port.ackSync.third = s.port.ackSeen
  · have port := port_waits (d := d) (k := k) state none
    have state' : (s.step (.source d k)).port.state = .waitAck := by rw [port]; exact state
    have seen : (s.step (.source d k)).port.ackSeen = s.port.ackSeen := by rw [port]
    have toggle : (s.step (.source d k)).port.reqToggle = s.port.reqToggle := by rw [port]
    have sync : (s.step (.source d k)).side.requestSync = s.side.requestSync := by
      change s.side.requestSync.disturb s.port.reqToggle (s.step (.source d k)).port.reqToggle = _
      rw [toggle, Synchronizer.disturb_self]
    -- before the reply is under way the slave has to act, and nothing changes
    have unchanged : s.side.ackToggle = s.port.ackSeen → s.Nears (.source d k) := by
      intro acked
      have acked' := acked.trans seen.symm
      refine .inr ⟨?_, ?_, ?_⟩
      · by_cases idle : s.side.state = .idle
        · rw [rank_travelling state acked idle, rank_travelling state' acked' idle, sync, toggle]
        · rw [rank_presented state acked idle]
          exact rank_presented state' acked' idle
      · rw [turn_slave state acked, turn_slave state' acked']
      · rw [turn_slave state acked]
        exact fun acts => acts
    cases link with
    | travelling _ _ _ acked _ => exact unchanged acked
    | writing _ _ settled => exact unchanged settled.acked
    | reading _ _ settled => exact unchanged settled.acked
    | returning _ _ _ acked _ _ =>
      have apart : s.side.ackToggle ≠ s.port.ackSeen := by
        rw [acked]
        cases s.port.ackSeen <;> decide
      have apart' : (s.step (.source d k)).side.ackToggle ≠
          (s.step (.source d k)).port.ackSeen := by
        rw [seen]
        exact apart
      have late : s.port.ackSync.third ≠ s.side.ackToggle := by
        rw [none]
        exact apart.symm
      refine .inl ?_
      rw [rank_coming state apart, rank_coming state' apart']
      exact Nat.add_lt_add_left (Synchronizer.left_edge late k.bit) 2
  · obtain ⟨r, -, -, -, -, -, -, third⟩ := link.comes none
    have apart : s.side.ackToggle ≠ s.port.ackSeen := third ▸ none
    have responds := (CdcPort.awaitAck_comes (sampled s.port.ackSync.unsettled s.side.ack k.word) none
      bvalid rvalid).1
    have state' : (s.step (.source d k)).port.state = .resp := by
      simp only [step, CdcPort.step, state]
      exact responds.state
    refine .inl ?_
    rw [rank_coming state apart, rank_resp state']
    omega

/-- A response that stands and is not taken waits for its master. -/
theorem Engaged.nears_sourceEdge {r : AxilReply} (engaged : s.Engaged m q) (responds : s.port.Responds q r)
    (behaves : (s.masters m).Behaves (d m))
    (unended : ∀ e ∈ s.events (.source d k), e.ends = false) :
    s.Nears (.source d k) := by
  have owner : s.grant.owner = m := by
    rw [engaged.grant, AxilRequest.grant]
    cases q.write <;> rfl
  have waits : s.answers d m = false := by
    refine eq_false_of_ne_true fun answered => ?_
    rw [answers, responds.bvalid, responds.rvalid] at answered
    cases write : q.write with
    | true =>
      rw [write, Bool.not_true, Bool.false_and, Bool.or_false] at answered
      rw [engaged.events_write write behaves, responds.bvalid, write, if_pos answered] at unended
      exact Bool.noConfusion (show true = false from unended _ List.mem_cons_self)
    | false =>
      rw [write, Bool.not_false, Bool.false_and, Bool.false_or] at answered
      rw [engaged.events_read write behaves, responds.rvalid, write, Bool.not_false, if_pos answered] at unended
      exact Bool.noConfusion (show true = false from unended _ List.mem_cons_self)
  have stands := responds.respond (u := s.grant.drive d)
  rw [engaged.port_answers responds, waits, if_neg Bool.false_ne_true] at stands
  have state' : (s.step (.source d k)).port.state = .resp := by
    simp only [step, CdcPort.step, responds.state]
    exact stands.state
  have grant : (s.step (.source d k)).grant = s.grant := by
    rw [engaged.grant]
    change s.grant.step d s.port.outputs = _
    rw [engaged.grant_step]
    rw [answers, Bool.or_eq_false_iff] at waits
    rw [waits.1, waits.2]
    cases q.write <;> rfl
  refine .inr ⟨?_, ?_, ?_⟩
  · rw [rank_resp responds.state, rank_resp state']
  · rw [turn_master (by rw [state']; decide), turn_master (by rw [responds.state]; decide), grant]
  · rw [turn_master (by rw [responds.state]; decide), owner]
    rintro ⟨-, takesB, takesR⟩
    rw [answers, responds.bvalid, responds.rvalid, Bool.or_eq_false_iff] at waits
    have granted : s.grant.use d = q.grant m := engaged.used.trans engaged.grant
    cases write : q.write with
    | true =>
      rw [AxilRequest.grant, write, cond_true] at granted
      rw [shows_write granted] at takesB
      rw [takesB (responds.bvalid.trans write), write] at waits
      exact Bool.noConfusion waits.1
    | false =>
      rw [AxilRequest.grant, write, cond_false] at granted
      rw [shows_read granted] at takesR
      rw [takesR (responds.rvalid.trans (by rw [write]; rfl)), write] at waits
      exact Bool.noConfusion waits.2

/-- Every edge of the masters' clock brings a begun transaction nearer to its response. -/
theorem Phase.nears_sourceEdge (phase : s.Phase a) (behaves : ∀ m, (s.masters m).Behaves (d m)) (busy : s.Busy)
    (unended : ∀ e ∈ s.events (.source d k), e.ends = false) :
    s.Nears (.source d k) := by
  cases phase with
  | free grant collecting _ _ untaken =>
    refine .inl ?_
    rw [rank_idle collecting.state, if_pos grant]
    refine Nat.lt_succ_of_le (rank_granted ?_)
    change s.grant.step d s.port.outputs ≠ .idle
    rw [show s.grant.step d s.port.outputs = s.grant.use d by rw [grant]; rfl]
    obtain ⟨m, busy⟩ := busy
    rcases Grant.use_cases (d := d) grant with ⟨-, silent⟩ | ⟨n, used, -⟩ | ⟨n, used, -⟩
    · exact absurd (silent m) (offers_of_busy busy (untaken m) (behaves m))
    · rw [used]
      simp
    · rw [used]
      simp
  | opening grant collecting awready wready _ _ _ _ aw w _ begun =>
    refine nears_granted collecting.state (by rw [grant]; simp) ?_ fun acts => ?_
    · rw [grant]
      change s.grant.step d s.port.outputs = _
      rw [grant]
      change (if s.port.bvalid && _ then _ else _) = _
      rw [collecting.bvalid]
      rfl
    · rw [grant] at acts
      exact write_hands grant collecting awready wready aw w begun acts
  | reading grant collecting arready _ _ untaken begun =>
    refine nears_granted collecting.state (by rw [grant]; simp) ?_ fun _ =>
      read_hands grant collecting arready (untaken _) begun (behaves _)
    rw [grant]
    change s.grant.step d s.port.outputs = _
    rw [grant]
    change (if s.port.rvalid && _ then _ else _) = _
    rw [collecting.rvalid]
    rfl
  | serving _ state bvalid rvalid link => exact link.nears_sourceEdge state bvalid rvalid
  | responding engaged responds _ _ => exact engaged.nears_sourceEdge responds (behaves _) unended

/-- Every edge brings a begun transaction nearer to its response, if it does not end one. -/
theorem Phase.nears (phase : s.Phase a) (behaves : s.Behaves tick) (busy : s.Busy)
    (unended : ∀ e ∈ s.events tick, e.ends = false) : (s.step tick).Busy ∧ s.Nears tick := by
  cases tick with
  | source d k =>
    refine ⟨busy_sourceEdge busy unended, phase.nears_sourceEdge (fun m => ?_) busy unended⟩
    cases m with
    | s0 => exact behaves.1
    | s1 => exact behaves.2
  | slave i o =>
    refine ⟨busy, ?_⟩
    cases phase with
    | free _ collecting => exact nears_slave_idle (by rw [collecting.state]; decide)
    | opening _ collecting => exact nears_slave_idle (by rw [collecting.state]; decide)
    | reading _ collecting => exact nears_slave_idle (by rw [collecting.state]; decide)
    | serving _ state _ _ link => exact link.nears_slaveEdge state behaves
    | responding _ responds => exact nears_slave_idle (by rw [responds.state]; decide)

end AxilPath

/-- The states of an endless run of masters and a slave that behave are in a phase. -/
theorem phase_of_trace (ticks : Nat → AxilTick) (behaves : ∀ n, (axilPath.trace ticks n).Behaves (ticks n)) (n : Nat) :
    ∃ a, (axilPath.trace ticks n).Phase a := by
  induction n with
  | zero => exact ⟨.free, AxilPath.phase_reset⟩
  | succ n ih =>
    obtain ⟨a, phase⟩ := ih
    obtain ⟨b, -, after⟩ := phase.step (behaves n)
    exact ⟨b, after⟩

theorem atomic_of_run (ticks : List AxilTick) (behaves : axilPath.Along AxilPath.Behaves axilPath.reset ticks) :
    AtomicTransactions (axilPath.log AxilPath.events axilPath.reset ticks) := by
  obtain ⟨a, leads, -⟩ := phase_of_run ticks behaves
  rw [AtomicTransactions, show List.foldlM _ _ _ = some a from leads]
  rfl

theorem ends_of_trace (ticks : Nat → AxilTick) (behaves : ∀ n, (axilPath.trace ticks n).Behaves (ticks n))
    (fair : ∀ t n, ∃ k, n ≤ k ∧ (axilPath.trace ticks k).Acts t (ticks k)) (n : Nat)
    (busy : (axilPath.trace ticks n).Busy) :
    ∃ k, n ≤ k ∧ ∃ e ∈ (axilPath.trace ticks k).events (ticks k), e.ends = true := by
  refine leadsTo_of_turns (σ := fun n => (axilPath.trace ticks n, ticks n))
    (P := fun now => now.1.Busy) (Q := fun now => ∃ e ∈ now.1.events now.2, e.ends = true)
    (fun now => now.1.rank) (fun now => now.1.turn) (fun t n => (axilPath.trace ticks n).Acts t (ticks n))
    (fun n busy => ?_) fair n busy
  obtain ⟨a, phase⟩ := phase_of_trace ticks behaves n
  by_cases ended : ∃ e ∈ (axilPath.trace ticks n).events (ticks n), e.ends = true
  · exact .inl ended
  · refine .inr (phase.nears (behaves n) busy fun e mem => ?_)
    exact eq_false_of_ne_true fun ends => ended ⟨e, mem, ends⟩

/-- Two masters that have one transaction open at most and hold what they offer, and a slave
    that answers what it has accepted, in any order of the edges of both clocks: transactions
    are atomic, and one that has been begun ends if everybody acts again and again. -/
theorem transactions_atomic_and_end :
    (∀ ticks : List AxilTick, axilPath.Along AxilPath.Behaves axilPath.reset ticks →
      AtomicTransactions (axilPath.log AxilPath.events axilPath.reset ticks)) ∧
      ∀ ticks : Nat → AxilTick, (∀ n, (axilPath.trace ticks n).Behaves (ticks n)) →
        (∀ t n, ∃ k, n ≤ k ∧ (axilPath.trace ticks k).Acts t (ticks k)) →
          ∀ n, (axilPath.trace ticks n).Busy →
            ∃ k, n ≤ k ∧ ∃ e ∈ (axilPath.trace ticks k).events (ticks k), e.ends = true :=
  ⟨atomic_of_run, ends_of_trace⟩

/-! ## A write of the second master -/

/-- An edge of the masters' clock at which the second master drives `d`. -/
def sourceEdge (d : AxilDrive) : AxilTick := .source (fun m => if m = .s1 then d else default) ⟨true, default⟩

def slaveEdge (i : AxilIn) : AxilTick := .slave i ⟨true, default⟩

/-- The write of 0xCAFE to 0x1234, its address and its data being offered or not. -/
def writeDrive (aw w : Bool) : AxilDrive :=
  { (default : AxilDrive) with awaddr := 0x1234, awvalid := aw, wdata := 0xCAFE, wstrb := 15, wvalid := w, bready := true }

/-- The data beat comes before the address. -/
def lateAddress : List AxilTick :=
  [sourceEdge (writeDrive false true), sourceEdge (writeDrive false true), sourceEdge (writeDrive true false)] ++
    List.replicate 4 (slaveEdge default) ++
    [slaveEdge { (default : AxilIn) with wready := true }, slaveEdge { (default : AxilIn) with awready := true },
      slaveEdge { (default : AxilIn) with bvalid := true, bresp := 2 }] ++
    List.replicate 5 (sourceEdge (writeDrive false false)) ++ [sourceEdge default, slaveEdge default]

def lateAddressEndless (n : Nat) : AxilTick :=
  lateAddress.getD n (if n % 2 = 0 then sourceEdge default else slaveEdge default)

theorem lateAddressEndless_late {n : Nat} (late : 17 ≤ n) :
    lateAddressEndless n = if n % 2 = 0 then sourceEdge default else slaveEdge default :=
  List.getD_eq_default _ _ late

/-- The write is over, and the edges change nothing more. -/
theorem trace_lateAddress {n : Nat} (late : 17 ≤ n) :
    axilPath.trace lateAddressEndless n = axilPath.trace lateAddressEndless 17 := by
  induction n, late using Nat.le_induction with
  | base => rfl
  | succ n late ih =>
    rw [Machine.trace_succ, ih, lateAddressEndless_late late]
    split
    · refine AxilPath.ext (by decide) (by decide) (by decide) ?_ (by decide)
      funext m
      cases m <;> decide
    · exact AxilPath.ext (by decide) (by decide) (by decide) rfl (by decide)

theorem behaves_lateAddress (n : Nat) : (axilPath.trace lateAddressEndless n).Behaves (lateAddressEndless n) := by
  by_cases late : 17 ≤ n
  · rw [trace_lateAddress late, lateAddressEndless_late late]
    split <;> decide
  · have early : ∀ n < 17, (axilPath.trace lateAddressEndless n).Behaves (lateAddressEndless n) := by decide
    exact early n (Nat.lt_of_not_le late)

theorem fair_lateAddress (t : Turn) (n : Nat) :
    ∃ k, n ≤ k ∧ (axilPath.trace lateAddressEndless k).Acts t (lateAddressEndless k) := by
  cases t with
  | master m =>
    refine ⟨2 * (n + 17), by omega, ?_⟩
    rw [trace_lateAddress (by omega), lateAddressEndless_late (by omega), if_pos (by omega)]
    cases m <;> decide
  | slave =>
    refine ⟨2 * (n + 17) + 1, by omega, ?_⟩
    rw [trace_lateAddress (by omega), lateAddressEndless_late (by omega), if_neg (by omega)]
    decide

theorem transactions_atomic_and_end_lateAddress :
    AtomicTransactions (axilPath.log AxilPath.events axilPath.reset lateAddress) ∧
      (axilPath.log AxilPath.events axilPath.reset lateAddress).length = 6 ∧
      ∃ k, 1 ≤ k ∧ ∃ e ∈ (axilPath.trace lateAddressEndless k).events (lateAddressEndless k), e.ends = true :=
  ⟨transactions_atomic_and_end.1 lateAddress (by decide), by decide,
    transactions_atomic_and_end.2 lateAddressEndless behaves_lateAddress fair_lateAddress 1 ⟨.s1, by decide⟩⟩

end Xczu47dr.Rfdc
