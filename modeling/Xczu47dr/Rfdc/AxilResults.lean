import Xczu47dr.Rfdc.ApplyHandshake
import Xczu47dr.Rfdc.AxilProgress

/-! # Transactions and their results

`rfdc_axil_transaction` as the second master of the path.  It gives a transaction up
after its time, but the arbiter and the crossing go on with it: their response meets
the next transaction.  Without a timeout every transaction gets its own.
-/

namespace Xczu47dr.Rfdc

open Clocked

namespace AxilTransaction

/-- The outputs `m_awaddr` to `m_rready`. -/
def drive (t : AxilTransaction) : AxilDrive :=
  ⟨t.awaddr, t.awvalid, t.wdata, t.wstrb, t.wvalid, t.bready, t.araddr, t.arvalid, t.rready⟩

/-- A transaction without a response is given up. -/
def timesOut (timeoutCycles : Nat) (t : AxilTransaction) (i : AxilIn) : Bool :=
  t.busy && !(i.bvalid && t.bready) && !(i.rvalid && t.rready) && decide (timeoutCycles - 1 ≤ t.timeoutCount)

end AxilTransaction

def AxilCommand.request (c : AxilCommand) : AxilRequest :=
  if c.write then ⟨true, c.address, c.writeData, c.writeStrobe⟩ else readRequest c.address

/-! ## The machine -/

@[ext] structure ResultPath where
  transaction : AxilTransaction
  path : AxilPath

/-- An edge of one of the clocks; at those of the masters the owner of the transaction gives
    the command `c`, and the first master drives `other`. -/
inductive ResultTick
  | source (c : AxilCommand) (other : AxilDrive) (caught : Caught AxilReply)
  | slave (answers : AxilIn) (caught : Caught AxilRequest)

namespace ResultPath

variable (s : ResultPath) (p : RuntimeParams)

def drives (other : AxilDrive) : Master → AxilDrive
  | .s0 => other
  | .s1 => s.transaction.drive

def shows (other : AxilDrive) : AxilIn := s.path.shows (s.drives other) .s1

def axilTick : ResultTick → AxilTick
  | .source _ other k => .source (s.drives other) k
  | .slave i o => .slave i o

def step (tick : ResultTick) : ResultPath where
  transaction :=
    match tick with
    | .source c other _ => s.transaction.step p.axiTimeoutCycles c (s.shows other)
    | .slave _ _ => s.transaction
  path := s.path.step (s.axilTick tick)

/-- The first master holds what it offers, and the slave answers what it has accepted. -/
def Behaves : ResultTick → Prop
  | .source _ other _ => (s.path.masters .s0).Behaves other
  | .slave i _ => s.path.slave.Behaves s.path.side.drive i

instance : (tick : ResultTick) → Decidable (s.Behaves tick)
  | .source _ other _ => inferInstanceAs (Decidable ((s.path.masters .s0).Behaves other))
  | .slave i _ => inferInstanceAs (Decidable (s.path.slave.Behaves s.path.side.drive i))

def InTime : ResultTick → Prop
  | .source _ other _ => s.transaction.timesOut p.axiTimeoutCycles (s.shows other) = false
  | .slave _ _ => True

instance : (tick : ResultTick) → Decidable (s.InTime p tick)
  | .source _ _ _ => inferInstanceAs (Decidable (_ = false))
  | .slave _ _ => inferInstanceAs (Decidable True)

end ResultPath

def resultPath (p : RuntimeParams) : Machine ResultTick ResultPath where
  reset := ⟨.reset, axilPath.reset⟩
  step s tick := s.step p tick

/-! ## Results -/

inductive ResultEvent
  | begun (q : AxilRequest)
  | path (e : AxilEvent)
  | reported (error : BitVec 3) (response : BitVec 2) (readData : BitVec 32)
  | timedOut

/-- The command that is open, whether an earlier one has been given up on the way, the last
    reply that the transaction has taken, and what is open on the path. -/
structure Results where
  command : Option AxilRequest
  stale : Bool
  result : Option AxilReply
  path : Transaction

namespace Results

variable (r : Results)

/-- What happens at the transaction belongs to its command. -/
def fits : AxilEvent → Bool
  | .awAccepted .s1 addr => r.command.any fun q => q.write && q.addr = addr
  | .wAccepted .s1 wdata wstrb => r.command.any fun q => q.write && q.wdata = wdata && q.wstrb = wstrb
  | .arAccepted .s1 addr => r.command.any fun q => !q.write && q.addr = addr
  | .bTaken .s1 _ => !r.stale && r.command.any fun q => q.write
  | .rTaken .s1 _ _ => !r.stale && r.command.any fun q => !q.write
  | _ => true

def takes : AxilEvent → Option AxilReply
  | .bTaken .s1 resp => some ⟨resp, 0⟩
  | .rTaken .s1 resp rdata => some ⟨resp, rdata⟩
  | _ => none

/-- The code of a response that is not `OKAY`. -/
def errorOf (q : AxilRequest) (reply : AxilReply) : BitVec 3 :=
  if reply.resp = 0 then 0 else if q.write then 1 else 2

/-- Where an event leads, if it may happen.  A command may be given up once its beats have
    been accepted. -/
def next : ResultEvent → Option Results
  | .begun q => if r.command.isNone then some { r with command := some q, result := none } else none
  | .path e =>
    if r.fits e then (r.path.next e).map fun a => { r with path := a, result := takes e <|> r.result } else none
  | .reported error response readData =>
    match r.command, r.result with
    | some q, some reply =>
      if response = reply.resp && (q.write || readData = reply.rdata) && error = errorOf q reply then
        some { r with command := none }
      else none
    | _, _ => none
  | .timedOut =>
    match r.command, r.path with
    | some _, .accepted .s1 _ _ => some { r with command := none, stale := true }
    | _, _ => none

end Results

/-- Transactions are atomic on the path, and every command reports the reply to itself. -/
def OwnResults (events : List ResultEvent) : Prop :=
  (events.foldlM Results.next ⟨none, false, none, .free⟩).isSome = true

instance (events : List ResultEvent) : Decidable (OwnResults events) := inferInstanceAs (Decidable (_ = true))

/-- What is valid and not accepted under `d` is still offered under `e`. -/
def AxilDrive.HeldBy (d : AxilDrive) (i : AxilIn) (e : AxilDrive) : Prop :=
  (d.awvalid = true → i.awready = false → e.awvalid = true ∧ e.awaddr = d.awaddr) ∧
    (d.wvalid = true → i.wready = false → e.wvalid = true ∧ e.wdata = d.wdata ∧ e.wstrb = d.wstrb) ∧
    (d.arvalid = true → i.arready = false → e.arvalid = true ∧ e.araddr = d.araddr)

namespace ResultPath

variable (s : ResultPath) (p : RuntimeParams)

def events (tick : ResultTick) : List ResultEvent :=
  (s.path.events (s.axilTick tick)).map .path ++
    match tick with
    | .source c other _ =>
      let t := (s.step p tick).transaction
      (if c.start && !s.transaction.busy then [.begun c.request] else []) ++
        (if s.transaction.timesOut p.axiTimeoutCycles (s.shows other) then [.timedOut]
        else if s.transaction.busy && t.done then [.reported t.error t.response t.readData]
        else [])
    | .slave _ _ => []

/-- The transaction and the crossing hold what they offer. -/
def Held (tick : ResultTick) : Prop :=
  match tick with
  | .source _ other _ => s.transaction.drive.HeldBy (s.shows other) (s.step p tick).transaction.drive
  | .slave i _ => s.path.side.drive.HeldBy i (s.step p tick).path.side.drive

end ResultPath

/-! ## The transaction and its channels -/

/-- A beat with payload `x` is valid until it has been accepted. -/
def Mirrors {α : Type} (c : Channel α) (valid : Bool) (x : α) : Prop :=
  c = .taken ∧ valid = false ∨ (c = .quiet ∨ c = .offered x) ∧ valid = true

namespace Mirrors

variable {α : Type} {c : Channel α} {valid ready : Bool} {x : α}

theorem holds (mirrors : Mirrors c valid x) : c.Holds valid x := by
  rcases mirrors with ⟨rfl, down⟩ | ⟨rfl | rfl, up⟩
  · exact down
  · trivial
  · exact ⟨up, rfl⟩

theorem step (mirrors : Mirrors c valid x) : Mirrors (c.step valid ready x) (valid && !ready) x := by
  rcases mirrors with ⟨rfl, rfl⟩ | ⟨-, rfl⟩
  · exact .inl ⟨rfl, rfl⟩
  · cases ready with
    | true => exact .inl ⟨rfl, rfl⟩
    | false => exact .inr ⟨.inr rfl, rfl⟩

theorem taken_or (mirrors : Mirrors c valid x) : c = .taken ∨ valid = true :=
  mirrors.imp (fun taken => taken.1) fun unanswered => unanswered.2

theorem low (mirrors : Mirrors c valid x) (taken : c = .taken) : valid = false := by
  rcases mirrors with ⟨-, down⟩ | ⟨quiet | offered, -⟩
  · exact down
  · exact nomatch taken.symm.trans quiet
  · exact nomatch taken.symm.trans offered

end Mirrors

/-- The transaction drives the write `q`. -/
structure AxilTransaction.Writes (t : AxilTransaction) (b : MasterBook) (q : AxilRequest) : Prop where
  busy : t.busy = true
  write : q.write = true
  awaddr : t.awaddr = q.addr
  wdata : t.wdata = q.wdata
  wstrb : t.wstrb = q.wstrb
  bready : t.bready = true
  arvalid : t.arvalid = false
  rready : t.rready = false
  aw : Mirrors b.aw t.awvalid q.addr
  w : Mirrors b.w t.wvalid (q.wdata, q.wstrb)
  ar : b.ar = .quiet

/-- The transaction drives the read `q`. -/
structure AxilTransaction.Reads (t : AxilTransaction) (b : MasterBook) (q : AxilRequest) : Prop where
  busy : t.busy = true
  read : q.write = false
  araddr : t.araddr = q.addr
  rready : t.rready = true
  awvalid : t.awvalid = false
  wvalid : t.wvalid = false
  bready : t.bready = false
  ar : Mirrors b.ar t.arvalid q.addr
  aw : b.aw = .quiet
  w : b.w = .quiet

/-- What the transaction drives for its command, if there is one. -/
inductive AxilTransaction.Serves (t : AxilTransaction) (b : MasterBook) : Option AxilRequest → Prop
  | idle : t.busy = false → t.drive.Rests → b = .empty → Serves t b none
  | write {q : AxilRequest} : t.Writes b q → Serves t b (some q)
  | read {q : AxilRequest} : t.Reads b q → Serves t b (some q)

namespace AxilTransaction

variable {t : AxilTransaction} {b : MasterBook} {q : AxilRequest} {command : Option AxilRequest} {i : AxilIn}
  {n : Nat}

/-- The transaction is a master that behaves. -/
theorem Serves.behaves (serves : t.Serves b command) : b.Behaves t.drive := by
  cases serves with
  | idle _ rests empty =>
    rw [empty]
    refine ⟨trivial, trivial, trivial, ?_⟩
    rw [MasterBook.reads, rests.arvalid]
    exact Bool.and_false _
  | write writes =>
    refine ⟨?_, ?_, ?_, ?_⟩
    · rw [drive, writes.awaddr]
      exact writes.aw.holds
    · rw [drive, writes.wdata, writes.wstrb]
      exact writes.w.holds
    · rw [writes.ar]
      trivial
    · rw [MasterBook.reads, drive, writes.arvalid, writes.ar]
      exact Bool.and_false _
  | read reads =>
    refine ⟨?_, ?_, ?_, ?_⟩
    · rw [reads.aw]
      trivial
    · rw [reads.w]
      trivial
    · rw [drive, reads.araddr]
      exact reads.ar.holds
    · rw [MasterBook.writes, drive, reads.awvalid, reads.wvalid, reads.aw, reads.w]
      rfl

theorem step_busy (busy : t.busy = true) (c : AxilCommand) : t.step n c i = t.wait n i := by
  simp [AxilTransaction.step, busy]

/-- A transaction that is answered or goes on. -/
theorem wait_inTime (inTime : t.timesOut n i = false) (busy : t.busy = true) :
    t.wait n i =
      if i.bvalid && t.bready then
        { t.handshake i with
          response := i.bresp, error := if i.bresp = 0 then 0 else 1, bready := false, busy := false, done := true }
      else if i.rvalid && t.rready then
        { t.handshake i with
          readData := i.rdata
          response := i.rresp
          error := if i.rresp = 0 then 0 else 2
          rready := false
          busy := false
          done := true }
      else t.handshake i := by
  unfold wait
  cases answered : i.bvalid && t.bready with
  | true => rfl
  | false =>
    cases sent : i.rvalid && t.rready with
    | true => rfl
    | false =>
      rw [timesOut, busy, answered, sent] at inTime
      have early : ¬ n - 1 ≤ t.timeoutCount := by simpa using inTime
      simp [early]

theorem rests_unended {d : AxilDrive} (rests : d.Rests) : MasterBook.ends d i = false := by
  rw [MasterBook.ends, rests.bready, rests.rready, Bool.and_false, Bool.and_false]
  rfl

/-- Without a command the transaction rests. -/
theorem step_idle (busy : t.busy = false) (rests : t.drive.Rests) {c : AxilCommand} (start : c.start = false) :
    (t.step n c i).Serves (MasterBook.empty.step t.drive i) none := by
  have same : t.step n c i = { t with done := false } := by simp [AxilTransaction.step, start, busy]
  rw [same]
  refine .idle busy rests ?_
  rw [MasterBook.step, rests_unended rests, if_neg Bool.false_ne_true, rests.awvalid, rests.wvalid, rests.arvalid]
  rfl

theorem step_begin (busy : t.busy = false) (rests : t.drive.Rests) {c : AxilCommand} (start : c.start = true) :
    (t.step n c i).Serves (MasterBook.empty.step t.drive i) (some c.request) ∧
      (t.step n c i).done = false := by
  have begins : t.step n c i = t.begin c := by simp [AxilTransaction.step, start, busy]
  have empty : MasterBook.empty.step t.drive i = .empty := by
    rw [MasterBook.step, rests_unended rests, if_neg Bool.false_ne_true, rests.awvalid, rests.wvalid, rests.arvalid]
    rfl
  rw [begins, empty, AxilCommand.request, begin]
  cases write : c.write with
  | true =>
    rw [if_pos rfl, if_pos rfl]
    exact ⟨.write ⟨rfl, rfl, rfl, rfl, rfl, rfl, rests.arvalid, rests.rready, .inr ⟨.inl rfl, rfl⟩, .inr ⟨.inl rfl, rfl⟩,
      rfl⟩, rfl⟩
  | false =>
    rw [if_neg Bool.false_ne_true, if_neg Bool.false_ne_true]
    exact ⟨.read ⟨rfl, rfl, rfl, rfl, rests.awvalid, rests.wvalid, rests.bready, .inr ⟨.inl rfl, rfl⟩, rfl, rfl⟩, rfl⟩

theorem Writes.goesOn (writes : t.Writes b q) (unanswered : i.bvalid = false) (inTime : t.timesOut n i = false)
    (c : AxilCommand) :
    (t.step n c i).Writes (b.step t.drive i) q ∧ (t.step n c i).done = false := by
  have waits : t.step n c i = t.handshake i := by
    rw [step_busy writes.busy, wait_inTime inTime writes.busy, unanswered, writes.rready]
    simp
  have unended : MasterBook.ends t.drive i = false := by
    rw [MasterBook.ends, unanswered, drive, writes.rready, Bool.and_false]
    rfl
  rw [waits, MasterBook.step, unended, if_neg Bool.false_ne_true]
  refine ⟨⟨writes.busy, writes.write, writes.awaddr, writes.wdata, writes.wstrb, writes.bready, ?_, writes.rready, ?_, ?_,
    ?_⟩, rfl⟩
  · rw [handshake, writes.arvalid]
    rfl
  · rw [drive, writes.awaddr]
    exact writes.aw.step
  · rw [drive, writes.wdata, writes.wstrb]
    exact writes.w.step
  · rw [writes.ar, drive, writes.arvalid]
    rfl

/-- A write is answered once its beats have been accepted. -/
theorem Writes.ends (writes : t.Writes b q) (answered : i.bvalid = true) (aw : b.aw = .taken) (w : b.w = .taken)
    (inTime : t.timesOut n i = false) (c : AxilCommand) :
    (t.step n c i).Serves (b.step t.drive i) none ∧ (t.step n c i).done = true ∧
      (t.step n c i).error = Results.errorOf q ⟨i.bresp, 0⟩ ∧
      (t.step n c i).response = i.bresp := by
  have ends : MasterBook.ends t.drive i = true := by
    rw [MasterBook.ends, answered, drive, writes.bready]
    rfl
  have answers : t.step n c i =
      { t.handshake i with
        response := i.bresp, error := if i.bresp = 0 then 0 else 1, bready := false, busy := false, done := true } := by
    rw [step_busy writes.busy, wait_inTime inTime writes.busy, answered, writes.bready]
    rfl
  rw [answers, MasterBook.step, ends, if_pos rfl]
  refine ⟨.idle rfl ⟨?_, ?_, rfl, ?_, writes.rready⟩ rfl, rfl, ?_, rfl⟩
  · change (t.awvalid && !i.awready) = false
    rw [writes.aw.low aw, Bool.false_and]
  · change (t.wvalid && !i.wready) = false
    rw [writes.w.low w, Bool.false_and]
  · change (t.arvalid && !i.arready) = false
    rw [writes.arvalid, Bool.false_and]
  · rw [Results.errorOf, writes.write, if_pos rfl]

theorem Reads.goesOn (reads : t.Reads b q) (unanswered : i.rvalid = false) (inTime : t.timesOut n i = false)
    (c : AxilCommand) :
    (t.step n c i).Reads (b.step t.drive i) q ∧ (t.step n c i).done = false := by
  have waits : t.step n c i = t.handshake i := by
    rw [step_busy reads.busy, wait_inTime inTime reads.busy, unanswered, reads.bready]
    simp
  have unended : MasterBook.ends t.drive i = false := by
    rw [MasterBook.ends, unanswered, drive, reads.bready, Bool.and_false]
    rfl
  rw [waits, MasterBook.step, unended, if_neg Bool.false_ne_true]
  refine ⟨⟨reads.busy, reads.read, reads.araddr, reads.rready, ?_, ?_, reads.bready, ?_, ?_, ?_⟩, rfl⟩
  · rw [handshake, reads.awvalid]
    rfl
  · rw [handshake, reads.wvalid]
    rfl
  · rw [drive, reads.araddr]
    exact reads.ar.step
  · rw [reads.aw, drive, reads.awvalid]
    rfl
  · rw [reads.w, drive, reads.wvalid]
    rfl

/-- A read is answered once its address has been accepted. -/
theorem Reads.ends (reads : t.Reads b q) (answered : i.rvalid = true) (ar : b.ar = .taken)
    (inTime : t.timesOut n i = false) (c : AxilCommand) :
    (t.step n c i).Serves (b.step t.drive i) none ∧ (t.step n c i).done = true ∧
      (t.step n c i).error = Results.errorOf q ⟨i.rresp, i.rdata⟩ ∧
      (t.step n c i).response = i.rresp ∧ (t.step n c i).readData = i.rdata := by
  have ends : MasterBook.ends t.drive i = true := by
    rw [MasterBook.ends, answered, drive, reads.rready, Bool.and_self, Bool.or_true]
  have answers : t.step n c i =
      { t.handshake i with
        readData := i.rdata
        response := i.rresp
        error := if i.rresp = 0 then 0 else 2
        rready := false
        busy := false
        done := true } := by
    rw [step_busy reads.busy, wait_inTime inTime reads.busy, answered, reads.bready, reads.rready, Bool.and_false]
    rfl
  rw [answers, MasterBook.step, ends, if_pos rfl]
  refine ⟨.idle rfl ⟨?_, ?_, reads.bready, ?_, rfl⟩ rfl, rfl, ?_, rfl, rfl⟩
  · change (t.awvalid && !i.awready) = false
    rw [reads.awvalid, Bool.false_and]
  · change (t.wvalid && !i.wready) = false
    rw [reads.wvalid, Bool.false_and]
  · change (t.arvalid && !i.arready) = false
    rw [reads.ar.low ar, Bool.false_and]
  · rw [Results.errorOf, reads.read]
    rfl

end AxilTransaction

namespace AxilPath

variable {s : AxilPath} {a : Transaction} {d : Master → AxilDrive} {m : Master} {k : Caught AxilReply}

/-- A write response is shown to the master whose write has been answered. -/
theorem Phase.of_bvalid (phase : s.Phase a) (shown : (s.shows d m).bvalid = true) :
    ∃ q r, a = .accepted m q (.replied r) ∧ s.Engaged m q ∧ s.port.Responds q r ∧ q.write = true := by
  rw [shows, Grant.reply, Bool.and_eq_true, decide_eq_true_eq] at shown
  obtain ⟨used, bvalid⟩ := shown
  change s.port.bvalid = true at bvalid
  cases phase with
  | free _ collecting => exact Bool.noConfusion (collecting.bvalid.symm.trans bvalid)
  | opening _ collecting => exact Bool.noConfusion (collecting.bvalid.symm.trans bvalid)
  | reading _ collecting => exact Bool.noConfusion (collecting.bvalid.symm.trans bvalid)
  | serving _ _ low => exact Bool.noConfusion (low.symm.trans bvalid)
  | @responding n q r engaged responds =>
    have write : q.write = true := responds.bvalid.symm.trans bvalid
    have granted := used.symm.trans (engaged.used.trans engaged.grant)
    rw [AxilRequest.grant, write, cond_true] at granted
    obtain rfl := Grant.write.inj granted
    exact ⟨q, r, rfl, engaged, responds, write⟩

theorem Phase.of_rvalid (phase : s.Phase a) (shown : (s.shows d m).rvalid = true) :
    ∃ q r, a = .accepted m q (.replied r) ∧ s.Engaged m q ∧ s.port.Responds q r ∧ q.write = false := by
  rw [shows, Grant.reply, Bool.and_eq_true, decide_eq_true_eq] at shown
  obtain ⟨used, rvalid⟩ := shown
  change s.port.rvalid = true at rvalid
  cases phase with
  | free _ collecting => exact Bool.noConfusion (collecting.rvalid.symm.trans rvalid)
  | opening _ collecting => exact Bool.noConfusion (collecting.rvalid.symm.trans rvalid)
  | reading _ collecting => exact Bool.noConfusion (collecting.rvalid.symm.trans rvalid)
  | serving _ _ _ low => exact Bool.noConfusion (low.symm.trans rvalid)
  | @responding n q r engaged responds =>
    have write : q.write = false := by
      rw [responds.rvalid, Bool.not_eq_true'] at rvalid
      exact rvalid
    have granted := used.symm.trans (engaged.used.trans engaged.grant)
    rw [AxilRequest.grant, write, cond_false] at granted
    obtain rfl := Grant.read.inj granted
    exact ⟨q, r, rfl, engaged, responds, write⟩

end AxilPath

/-! ## Results are one's own -/

namespace Results

variable {r : Results} {a b : Transaction}

/-- Events of the path that fit the command lead on. -/
theorem leads_path {events : List AxilEvent} (leads : Leads events r.path b) (fit : ∀ e ∈ events, r.fits e = true) :
    (events.map ResultEvent.path).foldlM Results.next r =
      some { r with path := b, result := events.foldl (fun result e => takes e <|> result) r.result } := by
  induction events generalizing r with
  | nil =>
    obtain rfl := Option.some.inj leads
    rfl
  | cons e events ih =>
    obtain ⟨c, first, rest⟩ := Option.bind_eq_some_iff.mp leads
    have here := fit e List.mem_cons_self
    have step : r.next (.path e) = some { r with path := c, result := takes e <|> r.result } := by
      rw [next, if_pos here, first]
      rfl
    rw [List.map_cons, List.foldlM_cons, step]
    exact ih (r := { r with path := c, result := takes e <|> r.result }) rest fun e mem =>
      fit e (List.mem_cons_of_mem _ mem)

end Results

namespace ResultPath

variable {s : ResultPath} {p : RuntimeParams} {r : Results} {tick : ResultTick}

/-- The results so far, the transaction and the path belong together. -/
structure Inv (s : ResultPath) (r : Results) : Prop where
  phase : s.path.Phase r.path
  serves : s.transaction.Serves (s.path.masters .s1) r.command
  fresh : r.stale = false

/-- What happens at the first master fits every command. -/
theorem fits_other {d : Master → AxilDrive} {e : AxilEvent} (mem : e ∈ s.path.masterEvents d .s0) : r.fits e = true := by
  simp only [AxilPath.masterEvents, List.mem_append, List.mem_ite_nil_right, List.mem_singleton] at mem
  rcases mem with (((⟨-, rfl⟩ | ⟨-, rfl⟩) | ⟨-, rfl⟩) | ⟨-, rfl⟩) | ⟨-, rfl⟩ <;> rfl

/-- What happens at the slave fits every command. -/
theorem fits_slave {i : AxilIn} {e : AxilEvent} (mem : e ∈ s.path.slaveEvents i) : r.fits e = true := by
  simp only [AxilPath.slaveEvents, List.mem_append, List.mem_ite_nil_right, List.mem_singleton] at mem
  rcases mem with (((⟨-, rfl⟩ | ⟨-, rfl⟩) | ⟨-, rfl⟩) | ⟨-, rfl⟩) | ⟨-, rfl⟩ <;> rfl

/-- What happens at the transaction belongs to its command. -/
theorem Inv.fits_own (inv : s.Inv r) {other : AxilDrive} {e : AxilEvent}
    (mem : e ∈ s.path.masterEvents (s.drives other) .s1) : r.fits e = true := by
  simp only [AxilPath.masterEvents, List.mem_append, List.mem_ite_nil_right, List.mem_singleton, Bool.and_eq_true] at mem
  have fresh : (!r.stale) = true := by rw [inv.fresh]; rfl
  have serves := inv.serves
  generalize commanded : r.command = command at serves
  cases serves with
  | idle _ rests _ =>
    rcases mem with (((⟨⟨up, -⟩, -⟩ | ⟨⟨up, -⟩, -⟩) | ⟨⟨up, -⟩, -⟩) | ⟨⟨-, up⟩, -⟩) | ⟨⟨-, up⟩, -⟩
    · exact Bool.noConfusion (rests.awvalid.symm.trans up)
    · exact Bool.noConfusion (rests.wvalid.symm.trans up)
    · exact Bool.noConfusion (rests.arvalid.symm.trans up)
    · exact Bool.noConfusion (rests.bready.symm.trans up)
    · exact Bool.noConfusion (rests.rready.symm.trans up)
  | write writes =>
    rcases mem with (((⟨-, rfl⟩ | ⟨-, rfl⟩) | ⟨⟨up, -⟩, -⟩) | ⟨-, rfl⟩) | ⟨⟨-, up⟩, -⟩
    · simp [Results.fits, commanded, writes.write, drives, AxilTransaction.drive, writes.awaddr]
    · simp [Results.fits, commanded, writes.write, drives, AxilTransaction.drive, writes.wdata, writes.wstrb]
    · exact Bool.noConfusion (writes.arvalid.symm.trans up)
    · simp [Results.fits, commanded, writes.write, inv.fresh]
    · exact Bool.noConfusion (writes.rready.symm.trans up)
  | read reads =>
    rcases mem with (((⟨⟨up, -⟩, -⟩ | ⟨⟨up, -⟩, -⟩) | ⟨-, rfl⟩) | ⟨⟨-, up⟩, -⟩) | ⟨-, rfl⟩
    · exact Bool.noConfusion (reads.awvalid.symm.trans up)
    · exact Bool.noConfusion (reads.wvalid.symm.trans up)
    · simp [Results.fits, commanded, reads.read, drives, AxilTransaction.drive, reads.araddr]
    · exact Bool.noConfusion (reads.bready.symm.trans up)
    · simp [Results.fits, commanded, reads.read, inv.fresh]

/-- The masters of the path behave if the first one does. -/
theorem Inv.behaves (inv : s.Inv r) (behaves : s.Behaves tick) : s.path.Behaves (s.axilTick tick) := by
  cases tick with
  | source c other k => exact ⟨behaves, inv.serves.behaves⟩
  | slave i o => exact behaves

variable {c : AxilCommand} {other : AxilDrive} {k : Caught AxilReply}

/-- What the transaction itself does at an edge. -/
def ownEvents (s : ResultPath) (p : RuntimeParams) (c : AxilCommand) (other : AxilDrive) : List ResultEvent :=
  let t := s.transaction.step p.axiTimeoutCycles c (s.shows other)
  (if c.start && !s.transaction.busy then [.begun c.request] else []) ++
    (if s.transaction.busy && t.done then [.reported t.error t.response t.readData] else [])

theorem events_inTime (inTime : s.InTime p (.source c other k)) :
    s.events p (.source c other k) =
      (s.path.events (.source (s.drives other) k)).map .path ++ s.ownEvents p c other := by
  have none : s.transaction.timesOut p.axiTimeoutCycles (s.shows other) = false := inTime
  simp only [events, none, Bool.false_eq_true, if_false]
  rfl

/-- Between its beginning and its end a command does nothing of its own. -/
theorem ownEvents_goesOn (busy : s.transaction.busy = true)
    (undone : (s.transaction.step p.axiTimeoutCycles c (s.shows other)).done = false) : s.ownEvents p c other = [] := by
  simp [ownEvents, busy, undone]

theorem ownEvents_ends (busy : s.transaction.busy = true)
    (done : (s.transaction.step p.axiTimeoutCycles c (s.shows other)).done = true) :
    s.ownEvents p c other =
      [.reported (s.transaction.step p.axiTimeoutCycles c (s.shows other)).error
        (s.transaction.step p.axiTimeoutCycles c (s.shows other)).response
        (s.transaction.step p.axiTimeoutCycles c (s.shows other)).readData] := by
  simp [ownEvents, busy, done]

/-- The reply that the transaction has taken is the last one. -/
def lastReply (events : List AxilEvent) (before : Option AxilReply) : Option AxilReply :=
  events.foldl (fun result e => Results.takes e <|> result) before

/-- An edge that ends the command reports the reply to it. -/
theorem Inv.ends {q : AxilRequest} {b : Transaction} (inv : s.Inv r) (reply : AxilReply)
    (commanded : r.command = some q)
    (result : lastReply (s.path.events (.source (s.drives other) k)) r.result = some reply)
    (phase : (s.path.step (.source (s.drives other) k)).Phase b)
    (serves : (s.transaction.step p.axiTimeoutCycles c (s.shows other)).Serves
      ((s.path.masters .s1).step s.transaction.drive (s.shows other)) none)
    (done : (s.transaction.step p.axiTimeoutCycles c (s.shows other)).done = true) (busy : s.transaction.busy = true)
    (error : (s.transaction.step p.axiTimeoutCycles c (s.shows other)).error = Results.errorOf q reply)
    (response : (s.transaction.step p.axiTimeoutCycles c (s.shows other)).response = reply.resp)
    (data : q.write = false → (s.transaction.step p.axiTimeoutCycles c (s.shows other)).readData = reply.rdata) :
    ∃ r', (s.ownEvents p c other).foldlM Results.next
        { r with
          path := b
          result := lastReply (s.path.events (.source (s.drives other) k)) r.result } = some r' ∧
      (s.step p (.source c other k)).Inv r' := by
  refine ⟨{ r with
    command := none
    path := b
    result := lastReply (s.path.events (.source (s.drives other) k)) r.result },
    ?_, ⟨phase, serves, inv.fresh⟩⟩
  rw [ownEvents_ends busy done, List.foldlM_cons, Results.next, commanded, result, error, response]
  cases write : q.write with
  | true => simp [write]
  | false => simp [data write]

/-- An edge of the masters' clock that gives nothing up. -/
theorem Inv.sourceEdge (inv : s.Inv r) (behaves : s.Behaves (.source c other k))
    (inTime : s.InTime p (.source c other k)) :
    ∃ r', (s.events p (.source c other k)).foldlM Results.next r = some r' ∧
      (s.step p (.source c other k)).Inv r' := by
  have all : ∀ m, (s.path.masters m).Behaves (s.drives other m) := fun m => by
    cases m with
    | s0 => exact behaves
    | s1 => exact inv.serves.behaves
  obtain ⟨b, leads, phase⟩ := inv.phase.sourceEdge (k := k) all
  have fit : ∀ e ∈ s.path.events (.source (s.drives other) k), r.fits e = true := by
    intro e mem
    rw [AxilPath.events, List.mem_append] at mem
    exact mem.elim fits_other inv.fits_own
  rw [events_inTime inTime, List.foldlM_append, Results.leads_path leads fit]
  obtain ⟨command, commanded⟩ : ∃ command, r.command = command := ⟨_, rfl⟩
  have serves := inv.serves
  rw [commanded] at serves
  cases serves with
  | idle busy rests empty =>
    cases start : c.start with
    | false =>
      have serves' := AxilTransaction.step_idle (n := p.axiTimeoutCycles) (i := s.shows other) busy rests start
      have nothing : s.ownEvents p c other = [] := by simp [ownEvents, busy, start]
      rw [nothing]
      refine ⟨_, rfl, phase, ?_, inv.fresh⟩
      change (s.transaction.step _ _ _).Serves ((s.path.masters .s1).step s.transaction.drive (s.shows other)) r.command
      rw [commanded, empty]
      exact serves'
    | true =>
      obtain ⟨serves', undone⟩ := AxilTransaction.step_begin (n := p.axiTimeoutCycles) (i := s.shows other)
        busy rests start
      have begins : s.ownEvents p c other = [.begun c.request] := by simp [ownEvents, busy, start]
      rw [begins]
      refine ⟨{ r with command := some c.request, path := b, result := none }, ?_, phase, ?_, inv.fresh⟩
      · simp [Results.next, commanded]
      · change (s.transaction.step _ _ _).Serves ((s.path.masters .s1).step s.transaction.drive (s.shows other)) _
        rw [empty]
        exact serves'
  | @write q writes =>
    cases shown : (s.shows other).bvalid with
    | false =>
      obtain ⟨writes', undone⟩ := writes.goesOn shown inTime c
      rw [ownEvents_goesOn writes.busy undone]
      refine ⟨_, rfl, phase, ?_, inv.fresh⟩
      change (s.transaction.step _ _ _).Serves ((s.path.masters .s1).step s.transaction.drive (s.shows other)) r.command
      rw [commanded]
      exact .write writes'
    | true =>
      obtain ⟨q', reply, -, engaged, responds, write⟩ := inv.phase.of_bvalid shown
      obtain ⟨serves', done, error, response⟩ := writes.ends shown (engaged.taken.aw write) (engaged.taken.w write)
        inTime c
      have events := engaged.events_write (k := k) write
        (show (s.path.masters .s1).Behaves (s.drives other .s1) from inv.serves.behaves)
      have taken : (s.path.port.bvalid && (s.drives other .s1).bready) = true := by
        rw [responds.bvalid, write, Bool.true_and]
        exact writes.bready
      rw [if_pos taken] at events
      refine inv.ends ⟨(s.shows other).bresp, 0⟩ commanded ?_ phase serves' done writes.busy error response
        fun read => Bool.noConfusion (writes.write.symm.trans read)
      rw [events]
      rfl
  | @read q reads =>
    cases shown : (s.shows other).rvalid with
    | false =>
      obtain ⟨reads', undone⟩ := reads.goesOn shown inTime c
      rw [ownEvents_goesOn reads.busy undone]
      refine ⟨_, rfl, phase, ?_, inv.fresh⟩
      change (s.transaction.step _ _ _).Serves ((s.path.masters .s1).step s.transaction.drive (s.shows other)) r.command
      rw [commanded]
      exact .read reads'
    | true =>
      obtain ⟨q', reply, -, engaged, responds, read⟩ := inv.phase.of_rvalid shown
      obtain ⟨serves', done, error, response, data⟩ := reads.ends shown (engaged.taken.ar read) inTime c
      have events := engaged.events_read (k := k) read
        (show (s.path.masters .s1).Behaves (s.drives other .s1) from inv.serves.behaves)
      have taken : (s.path.port.rvalid && (s.drives other .s1).rready) = true := by
        rw [responds.rvalid, read, Bool.not_false, Bool.true_and]
        exact reads.rready
      rw [if_pos taken] at events
      refine inv.ends ⟨(s.shows other).rresp, (s.shows other).rdata⟩ commanded ?_ phase serves' done
        reads.busy error response fun _ => data
      rw [events]
      rfl

theorem Inv.step (inv : s.Inv r) (behaves : s.Behaves tick) (inTime : s.InTime p tick) :
    ∃ r', (s.events p tick).foldlM Results.next r = some r' ∧ (s.step p tick).Inv r' := by
  cases tick with
  | source c other k => exact inv.sourceEdge behaves inTime
  | slave i o =>
    obtain ⟨b, leads, phase⟩ := inv.phase.slaveEdge (o := o) behaves
    refine ⟨{ r with path := b, result := lastReply (s.path.slaveEvents i) r.result }, ?_, phase, inv.serves, inv.fresh⟩
    rw [events, List.append_nil]
    exact Results.leads_path leads fun e mem => fits_slave mem

/-! ## What is offered is held -/

theorem held_wait {t : AxilTransaction} {i : AxilIn} {timeoutCycles : Nat} (busy : t.busy = true)
    (inTime : t.timesOut timeoutCycles i = false) (c : AxilCommand) :
    t.drive.HeldBy i (t.step timeoutCycles c i).drive := by
  have kept : (t.step timeoutCycles c i).drive.awvalid = (t.awvalid && !i.awready) ∧
      (t.step timeoutCycles c i).drive.wvalid = (t.wvalid && !i.wready) ∧
      (t.step timeoutCycles c i).drive.arvalid = (t.arvalid && !i.arready) ∧
      (t.step timeoutCycles c i).drive.awaddr = t.awaddr ∧ (t.step timeoutCycles c i).drive.wdata = t.wdata ∧
      (t.step timeoutCycles c i).drive.wstrb = t.wstrb ∧ (t.step timeoutCycles c i).drive.araddr = t.araddr := by
    rw [AxilTransaction.step_busy busy, AxilTransaction.wait_inTime inTime busy]
    split_ifs <;> exact ⟨rfl, rfl, rfl, rfl, rfl, rfl, rfl⟩
  obtain ⟨awvalid, wvalid, arvalid, awaddr, wdata, wstrb, araddr⟩ := kept
  refine ⟨fun up unready => ⟨?_, awaddr⟩, fun up unready => ⟨?_, wdata, wstrb⟩, fun up unready => ⟨?_, araddr⟩⟩
  · rw [awvalid, show t.awvalid = true from up, unready]
    rfl
  · rw [wvalid, show t.wvalid = true from up, unready]
    rfl
  · rw [arvalid, show t.arvalid = true from up, unready]
    rfl

theorem held_rests {d e : AxilDrive} {i : AxilIn} (rests : d.Rests) : d.HeldBy i e :=
  ⟨fun up => Bool.noConfusion (rests.awvalid.symm.trans up), fun up => Bool.noConfusion (rests.wvalid.symm.trans up),
    fun up => Bool.noConfusion (rests.arvalid.symm.trans up)⟩

theorem phase_rests {path : AxilPath} {a : Transaction} (phase : path.Phase a) (idle : path.side.state = .idle) :
    path.side.drive.Rests := by
  cases phase with
  | free _ _ rests => exact rests.drive
  | opening _ _ _ _ _ rests => exact rests.drive
  | reading _ _ _ rests => exact rests.drive
  | responding _ _ rests => exact rests.drive
  | serving _ _ _ _ link =>
    cases link with
    | travelling rests => exact rests.drive
    | returning rests => exact rests.drive
    | writing _ writes => exact absurd (idle.symm.trans writes.state) (by decide)
    | reading _ reads => exact absurd (idle.symm.trans reads.state) (by decide)

/-- The crossing holds what it offers the slave. -/
theorem held_slave {side : CdcSide} {i : AxilIn} {toggle caught : Bool} {request word : AxilRequest}
    (rests : side.state = .idle → side.drive.Rests) : side.drive.HeldBy i (side.step i toggle caught request word).drive := by
  cases state : side.state with
  | idle => exact held_rests (rests state)
  | write =>
    have kept : (side.step i toggle caught request word).drive =
        { (side.step i toggle caught request word).drive with
          awaddr := side.drive.awaddr, awvalid := side.drive.awvalid && !i.awready, wdata := side.drive.wdata
          wstrb := side.drive.wstrb, wvalid := side.drive.wvalid && !i.wready, araddr := side.drive.araddr
          arvalid := side.drive.arvalid } := by
      simp only [CdcSide.step, state, CdcSide.write]
      split_ifs <;> rfl
    rw [kept]
    refine ⟨fun up unready => ⟨?_, rfl⟩, fun up unready => ⟨?_, rfl, rfl⟩, fun up _ => ⟨up, rfl⟩⟩ <;>
      simp [up, unready]
  | read =>
    have kept : (side.step i toggle caught request word).drive =
        { (side.step i toggle caught request word).drive with
          awaddr := side.drive.awaddr, awvalid := side.drive.awvalid, wdata := side.drive.wdata
          wstrb := side.drive.wstrb, wvalid := side.drive.wvalid, araddr := side.drive.araddr
          arvalid := side.drive.arvalid && !i.arready } := by
      simp only [CdcSide.step, state, CdcSide.read]
      split_ifs <;> rfl
    rw [kept]
    refine ⟨fun up _ => ⟨up, rfl⟩, fun up _ => ⟨up, rfl, rfl⟩, fun up unready => ⟨?_, rfl⟩⟩
    simp [up, unready]

theorem Inv.held (inv : s.Inv r) (inTime : s.InTime p tick) : s.Held p tick := by
  cases tick with
  | slave i o => exact held_slave (phase_rests inv.phase)
  | source c other k =>
    have serves := inv.serves
    generalize r.command = command at serves
    cases serves with
    | idle _ rests _ => exact held_rests rests
    | write writes => exact held_wait writes.busy inTime c
    | read reads => exact held_wait reads.busy inTime c

/-- The transaction acts at every edge of its clock. -/
theorem Inv.acts (inv : s.Inv r) : s.path.Acts (.master .s1) (.source (s.drives other) k) := by
  have serves := inv.serves
  generalize r.command = command at serves
  refine ⟨fun unanswered => ?_, fun shown => ?_, fun shown => ?_⟩
  · cases serves with
    | idle _ rests empty =>
      rw [empty, MasterBook.writes] at unanswered
      change (false || false || s.transaction.drive.awvalid || s.transaction.drive.wvalid) = true at unanswered
      rw [rests.awvalid, rests.wvalid] at unanswered
      exact Bool.noConfusion unanswered
    | write writes => exact ⟨writes.aw.taken_or, writes.w.taken_or⟩
    | read reads =>
      rw [MasterBook.writes, reads.aw, reads.w] at unanswered
      change (false || false || s.transaction.awvalid || s.transaction.wvalid) = true at unanswered
      rw [reads.awvalid, reads.wvalid] at unanswered
      exact Bool.noConfusion unanswered
  · obtain ⟨q, reply, -, engaged, -, write⟩ := inv.phase.of_bvalid shown
    have taken := engaged.taken.aw write
    cases serves with
    | idle _ _ empty => cases taken.symm.trans (congrArg MasterBook.aw empty)
    | write writes => exact writes.bready
    | read reads => cases taken.symm.trans reads.aw
  · obtain ⟨q, reply, -, engaged, -, read⟩ := inv.phase.of_rvalid shown
    have taken := engaged.taken.ar read
    cases serves with
    | idle _ _ empty => cases taken.symm.trans (congrArg MasterBook.ar empty)
    | write writes => cases taken.symm.trans writes.ar
    | read reads => exact reads.rready

end ResultPath

theorem results_of_run (p : RuntimeParams) (ticks : List ResultTick)
    (inTime : (resultPath p).Along (fun s tick => s.Behaves tick ∧ s.InTime p tick) (resultPath p).reset ticks) :
    ∃ r, ((resultPath p).log (ResultPath.events · p) (resultPath p).reset ticks).foldlM Results.next
        ⟨none, false, none, .free⟩ = some r ∧ ((resultPath p).run (resultPath p).reset ticks).Inv r :=
  (resultPath p).run_induction (C := fun s tick => s.Behaves tick ∧ s.InTime p tick)
    (P := fun ticks s => ∃ r, ((resultPath p).log (ResultPath.events · p) (resultPath p).reset ticks).foldlM Results.next
      ⟨none, false, none, .free⟩ = some r ∧ s.Inv r)
    ⟨_, rfl, AxilPath.phase_reset, .idle rfl ⟨rfl, rfl, rfl, rfl, rfl⟩ rfl, rfl⟩
    (fun ticks tick _ before now => by
      obtain ⟨r, sofar, inv⟩ := before
      obtain ⟨r', leads, after⟩ := inv.step now.1 now.2
      refine ⟨r', ?_, after⟩
      rw [Machine.log_append, List.foldlM_append, sofar, Machine.log_cons, Machine.log_nil, List.append_nil]
      exact leads) ticks inTime

theorem held_of_run (p : RuntimeParams) (ticks : List ResultTick)
    (inTime : (resultPath p).Along (fun s tick => s.Behaves tick ∧ s.InTime p tick) (resultPath p).reset ticks) :
    (resultPath p).Along (fun s tick => s.Held p tick) (resultPath p).reset ticks := by
  induction ticks using List.reverseRecOn with
  | nil => trivial
  | append_singleton ticks tick ih =>
    rw [Machine.along_append] at inTime ⊢
    obtain ⟨before, now, -⟩ := inTime
    obtain ⟨r, -, inv⟩ := results_of_run p ticks before
    exact ⟨ih before, inv.held now.2, trivial⟩

section Endless

variable (p : RuntimeParams) (ticks : Nat → ResultTick)

/-- The state of an endless run before its edge `n`, and the edge as the path sees it. -/
def resultTrace (n : Nat) : ResultPath := (resultPath p).trace ticks n

def resultTicks (n : Nat) : AxilTick := (resultTrace p ticks n).axilTick (ticks n)

theorem path_trace (n : Nat) : (resultTrace p ticks n).path = axilPath.trace (resultTicks p ticks) n := by
  induction n with
  | zero => rfl
  | succ n ih => exact congrArg (AxilPath.step · (resultTicks p ticks n)) ih

theorem inv_of_trace
    (inTime : ∀ n, (resultTrace p ticks n).Behaves (ticks n) ∧ (resultTrace p ticks n).InTime p (ticks n)) (n : Nat) :
    ∃ r, (resultTrace p ticks n).Inv r := by
  induction n with
  | zero => exact ⟨⟨none, false, none, .free⟩, AxilPath.phase_reset, .idle rfl ⟨rfl, rfl, rfl, rfl, rfl⟩ rfl, rfl⟩
  | succ n ih =>
    obtain ⟨r, inv⟩ := ih
    obtain ⟨r', -, after⟩ := inv.step (inTime n).1 (inTime n).2
    exact ⟨r', after⟩

theorem result_ends
    (inTime : ∀ n, (resultTrace p ticks n).Behaves (ticks n) ∧ (resultTrace p ticks n).InTime p (ticks n))
    (master : ∀ n, ∃ k, n ≤ k ∧ (resultTrace p ticks k).path.Acts (.master .s0) (resultTicks p ticks k))
    (slave : ∀ n, ∃ k, n ≤ k ∧ (resultTrace p ticks k).path.Acts .slave (resultTicks p ticks k)) (n : Nat)
    (busy : (resultTrace p ticks n).path.Busy) :
    ∃ k, n ≤ k ∧ ∃ e ∈ (resultTrace p ticks k).path.events (resultTicks p ticks k), e.ends = true := by
  have behaves : ∀ n, (axilPath.trace (resultTicks p ticks) n).Behaves (resultTicks p ticks n) := by
    intro n
    obtain ⟨r, inv⟩ := inv_of_trace p ticks inTime n
    rw [← path_trace]
    exact inv.behaves (inTime n).1
  rw [path_trace] at busy
  have fair : ∀ t n, ∃ k, n ≤ k ∧ (axilPath.trace (resultTicks p ticks) k).Acts t (resultTicks p ticks k) := by
    intro t n
    cases t with
    | slave =>
      obtain ⟨k, later, acts⟩ := slave n
      exact ⟨k, later, path_trace p ticks k ▸ acts⟩
    | master m =>
      obtain ⟨k, later, acts⟩ := master n
      refine ⟨k, later, ?_⟩
      cases m with
      | s0 => exact path_trace p ticks k ▸ acts
      | s1 =>
        -- where the first master acts its clock has an edge
        obtain ⟨r, inv⟩ := inv_of_trace p ticks inTime k
        rw [← path_trace]
        rw [resultTicks] at acts ⊢
        cases tick : ticks k with
        | source c other k => exact inv.acts
        | slave i o =>
          rw [tick] at acts
          exact acts.elim
  obtain ⟨k, later, e, mem, ends⟩ := ends_of_trace (resultTicks p ticks) behaves fair n busy
  exact ⟨k, later, e, path_trace p ticks k ▸ mem, ends⟩

end Endless

/-- As long as no transaction is given up: what is offered is held, every command is performed
    once and reports the reply to itself, and a transaction that has been begun ends if the
    first master and the slave act again and again. -/
theorem results_own (p : RuntimeParams) :
    (∀ ticks : List ResultTick,
      (resultPath p).Along (fun s tick => s.Behaves tick ∧ s.InTime p tick) (resultPath p).reset ticks →
        (resultPath p).Along (fun s tick => s.Held p tick) (resultPath p).reset ticks ∧
          OwnResults ((resultPath p).log (ResultPath.events · p) (resultPath p).reset ticks)) ∧
      ∀ ticks : Nat → ResultTick,
        (∀ n, (resultTrace p ticks n).Behaves (ticks n) ∧ (resultTrace p ticks n).InTime p (ticks n)) →
          (∀ n, ∃ k, n ≤ k ∧ (resultTrace p ticks k).path.Acts (.master .s0) (resultTicks p ticks k)) →
            (∀ n, ∃ k, n ≤ k ∧ (resultTrace p ticks k).path.Acts .slave (resultTicks p ticks k)) →
              ∀ n, (resultTrace p ticks n).path.Busy →
                ∃ k, n ≤ k ∧ ∃ e ∈ (resultTrace p ticks k).path.events (resultTicks p ticks k), e.ends = true := by
  refine ⟨fun ticks inTime => ⟨held_of_run p ticks inTime, ?_⟩, fun ticks => result_ends p ticks⟩
  obtain ⟨r, leads, -⟩ := results_of_run p ticks inTime
  rw [OwnResults, leads]
  rfl

/-! ## A response that comes late -/

section LateReply

open RfdcControl (topParams)

/-- The owner has no command for the transaction, or a write. -/
def noCommand : AxilCommand := ⟨false, false, 0, 0, 0⟩

def writeCommand (address : BitVec 18) (data : BitVec 32) : AxilCommand := ⟨true, true, address, data, 15⟩

/-- An edge of the masters' clock while the first master does nothing. -/
def commandEdge (c : AxilCommand) : ResultTick := .source c default ⟨true, default⟩

def answerEdge (i : AxilIn) : ResultTick := .slave i ⟨true, default⟩

def writeAccepted : List ResultTick :=
  [commandEdge (writeCommand 0x1234 0xCAFE), commandEdge noCommand, commandEdge noCommand] ++
    List.replicate 4 (answerEdge default) ++ [answerEdge { (default : AxilIn) with awready := true, wready := true }]

/-- It answers the write after the timeout, with an error, and then there is a write to 0x2000. -/
def writeLate : List ResultTick :=
  [commandEdge noCommand, answerEdge { (default : AxilIn) with bvalid := true, bresp := 2 }] ++
    List.replicate 4 (commandEdge noCommand) ++ [commandEdge (writeCommand 0x2000 1), commandEdge noCommand]

/-- The first 100000 cycles of the write pass without a response. -/
def lateReply : List ResultTick := writeAccepted ++ List.replicate 99997 (commandEdge noCommand) ++ writeLate

def accepted : ResultPath := (resultPath topParams).run (resultPath topParams).reset writeAccepted

/-- The accepted write after `n` cycles. -/
def acceptedFor (n : Nat) : ResultPath := { accepted with transaction := { accepted.transaction with timeoutCount := n } }

theorem acceptedFor_two : acceptedFor 2 = accepted := by
  rw [acceptedFor, show 2 = accepted.transaction.timeoutCount by decide]

/-- Nothing happens while the slave does not answer. -/
theorem acceptedFor_waits {n : Nat} (early : n < 99999) :
    (acceptedFor n).step topParams (commandEdge noCommand) = acceptedFor (n + 1) ∧
      (acceptedFor n).events topParams (commandEdge noCommand) = [] ∧
      (acceptedFor n).Behaves (commandEdge noCommand) := by
  have shown : (acceptedFor n).shows default = accepted.shows default := rfl
  have quiet : (accepted.shows default).bvalid = false ∧ (accepted.shows default).rvalid = false := by decide
  have inTime : (acceptedFor n).transaction.timesOut topParams.axiTimeoutCycles ((acceptedFor n).shows default) = false := by
    rw [AxilTransaction.timesOut, show decide (topParams.axiTimeoutCycles - 1 ≤ (acceptedFor n).transaction.timeoutCount) = false
      from decide_eq_false (Nat.not_le.mpr early), Bool.and_false]
  have busy : (acceptedFor n).transaction.busy = true := by
    change accepted.transaction.busy = true
    decide
  have waits : (acceptedFor n).transaction.step topParams.axiTimeoutCycles noCommand ((acceptedFor n).shows default) =
      (acceptedFor (n + 1)).transaction := by
    rw [AxilTransaction.step_busy busy, AxilTransaction.wait_inTime inTime busy, shown, quiet.1, quiet.2]
    have low : accepted.transaction.done = false ∧ accepted.transaction.awvalid = false ∧
        accepted.transaction.wvalid = false ∧ accepted.transaction.arvalid = false := by decide
    simp [acceptedFor, AxilTransaction.handshake, low]
    omega
  have path : accepted.path.step (.source (accepted.drives default) ⟨true, default⟩) = accepted.path := by
    refine AxilPath.ext (by decide) (by decide) (by decide) ?_ (by decide)
    funext m
    cases m <;> decide
  refine ⟨?_, ?_, ?_⟩
  · change (⟨(acceptedFor n).transaction.step topParams.axiTimeoutCycles noCommand ((acceptedFor n).shows default),
      accepted.path.step (.source (accepted.drives default) ⟨true, default⟩)⟩ : ResultPath) = _
    rw [path, waits]
    rfl
  · have undone : ((acceptedFor n).transaction.step topParams.axiTimeoutCycles noCommand ((acceptedFor n).shows default)).done =
        false := by
      rw [waits]
      change accepted.transaction.done = false
      decide
    have silent : accepted.path.events (.source (accepted.drives default) ⟨true, default⟩) = [] := by decide
    rw [commandEdge, ResultPath.events_inTime inTime, ResultPath.ownEvents_goesOn busy undone, List.append_nil]
    exact congrArg (List.map ResultEvent.path) silent
  · change (accepted.path.masters .s0).Behaves default
    decide

theorem run_acceptedFor (n : Nat) (k : Nat) (early : k + n ≤ 99999) :
    (resultPath topParams).run (acceptedFor k) (List.replicate n (commandEdge noCommand)) = acceptedFor (k + n) ∧
      (resultPath topParams).log (ResultPath.events · topParams) (acceptedFor k)
        (List.replicate n (commandEdge noCommand)) = [] ∧
      (resultPath topParams).Along (fun s tick => s.Behaves tick) (acceptedFor k)
        (List.replicate n (commandEdge noCommand)) := by
  induction n generalizing k with
  | zero => exact ⟨rfl, rfl, trivial⟩
  | succ n ih =>
    obtain ⟨step, silent, behaves⟩ := acceptedFor_waits (n := k) (by omega)
    obtain ⟨run, log, along⟩ := ih (k + 1) (by omega)
    have next : (resultPath topParams).step (acceptedFor k) (commandEdge noCommand) = acceptedFor (k + 1) := step
    rw [List.replicate_succ, Machine.run_cons, Machine.log_cons, Machine.along_cons, next]
    refine ⟨run.trans (congrArg acceptedFor (by omega)), ?_, behaves, along⟩
    rw [log, List.append_nil]
    exact silent

/-- The second write reports the error response of the first, which has been given up. -/
theorem lateReply_taken :
    (resultPath topParams).Along (fun s tick => s.Behaves tick) (resultPath topParams).reset lateReply ∧
      ¬ OwnResults ((resultPath topParams).log (ResultPath.events · topParams) (resultPath topParams).reset lateReply) := by
  obtain ⟨run, log, along⟩ := run_acceptedFor 99997 2 (by omega)
  rw [acceptedFor_two] at run log along
  rw [lateReply, Machine.along_append, Machine.along_append, Machine.log_append, Machine.log_append, Machine.run_append,
    show (resultPath topParams).run (resultPath topParams).reset writeAccepted = accepted from rfl, run, log]
  exact ⟨⟨⟨by decide, along⟩, by decide⟩, by decide⟩

/-! ## A response in time -/

def writeInTime : List ResultTick :=
  writeAccepted ++ [answerEdge { (default : AxilIn) with bvalid := true }] ++
    List.replicate 6 (commandEdge noCommand) ++ [answerEdge default]

def writeEndless (n : Nat) : ResultTick :=
  writeInTime.getD n (if n % 2 = 0 then commandEdge noCommand else answerEdge default)

theorem writeEndless_late {n : Nat} (late : 16 ≤ n) :
    writeEndless n = if n % 2 = 0 then commandEdge noCommand else answerEdge default :=
  List.getD_eq_default _ _ late

/-- The write is over, and the edges change nothing more. -/
theorem trace_writeEndless {n : Nat} (late : 16 ≤ n) :
    resultTrace topParams writeEndless n = resultTrace topParams writeEndless 16 := by
  induction n, late using Nat.le_induction with
  | base => rfl
  | succ n late ih =>
    change (resultTrace topParams writeEndless n).step topParams (writeEndless n) = _
    rw [ih, writeEndless_late late]
    split
    · have ended : (resultTrace topParams writeEndless 16).transaction.busy = false ∧
          (resultTrace topParams writeEndless 16).transaction.done = false := by decide
      have transaction (i : AxilIn) : (resultTrace topParams writeEndless 16).transaction.step
          topParams.axiTimeoutCycles noCommand i = (resultTrace topParams writeEndless 16).transaction := by
        rw [AxilTransaction.step, ended.1, ← ended.2]
        rfl
      have path : (resultTrace topParams writeEndless 16).path.step
          (.source ((resultTrace topParams writeEndless 16).drives default) ⟨true, default⟩) =
            (resultTrace topParams writeEndless 16).path := by
        refine AxilPath.ext (by decide) (by decide) (by decide) ?_ (by decide)
        funext m
        cases m <;> decide
      exact ResultPath.ext (transaction ((resultTrace topParams writeEndless 16).shows default)) path
    · exact ResultPath.ext rfl
        (AxilPath.ext (by decide) (by decide) (by decide) rfl (by decide))

theorem inTime_writeEndless (n : Nat) : (resultTrace topParams writeEndless n).Behaves (writeEndless n) ∧
    (resultTrace topParams writeEndless n).InTime topParams (writeEndless n) := by
  by_cases late : 16 ≤ n
  · rw [trace_writeEndless late, writeEndless_late late]
    split <;> decide
  · have early : ∀ n < 16, (resultTrace topParams writeEndless n).Behaves (writeEndless n) ∧
        (resultTrace topParams writeEndless n).InTime topParams (writeEndless n) := by decide
    exact early n (Nat.lt_of_not_le late)

theorem acts_writeEndless (n : Nat) :
    (∃ k, n ≤ k ∧ (resultTrace topParams writeEndless k).path.Acts (.master .s0) (resultTicks topParams writeEndless k)) ∧
      ∃ k, n ≤ k ∧ (resultTrace topParams writeEndless k).path.Acts .slave (resultTicks topParams writeEndless k) := by
  constructor
  · refine ⟨2 * (n + 16), by omega, ?_⟩
    rw [resultTicks, trace_writeEndless (by omega), writeEndless_late (by omega), if_pos (by omega)]
    decide
  · refine ⟨2 * (n + 16) + 1, by omega, ?_⟩
    rw [resultTicks, trace_writeEndless (by omega), writeEndless_late (by omega), if_neg (by omega)]
    decide

theorem results_own_write :
    (OwnResults ((resultPath topParams).log (ResultPath.events · topParams) (resultPath topParams).reset writeInTime) ∧
      ((resultPath topParams).log (ResultPath.events · topParams) (resultPath topParams).reset writeInTime).length = 8) ∧
      ∃ k, 2 ≤ k ∧ ∃ e ∈ (resultTrace topParams writeEndless k).path.events (resultTicks topParams writeEndless k),
        e.ends = true :=
  ⟨⟨((results_own topParams).1 writeInTime (by decide)).2, by decide⟩,
    (results_own topParams).2 writeEndless inTime_writeEndless (fun n => (acts_writeEndless n).1)
      (fun n => (acts_writeEndless n).2) 2 ⟨.s1, by decide⟩⟩

end LateReply

end Xczu47dr.Rfdc
