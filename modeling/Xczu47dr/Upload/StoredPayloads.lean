import Xczu47dr.Upload.RequestRoundTrip

/-! # The payloads of a session

What the answered packets of a run have uploaded: the payloads of the DATA packets that were
answered OK since a BEGIN was accepted.  The registers of an open or committed session count
them.
-/

namespace Xczu47dr.Upload

open UploadWriter

namespace Transaction

variable (t : Transaction)

def payload : List Wire.Byte := Wire.wordBytes (t.words.drop 5)

/-- The payloads of the upload after the packet: an accepted BEGIN starts over, and a DATA that is
    sent again adds nothing. -/
def uploads (payloads : List (List Wire.Byte)) : List (List Wire.Byte) :=
  if t.pulses = [.begin] then []
  else if t.opcode = opData ∧ t.status = statusOk ∧ t.request.dataRepeated t.before = false then
    payloads ++ [t.payload]
  else payloads

/-- A packet that pulses nothing adds a payload only if it is a new DATA that is answered OK. -/
theorem uploads_none {t : Transaction} {payloads : List (List Wire.Byte)} (pulses : t.pulses = [])
    (none : ¬ (t.opcode = opData ∧ t.status = statusOk ∧ t.request.dataRepeated t.before = false)) :
    t.uploads payloads = payloads := by
  rw [uploads, pulses, if_neg (by decide), if_neg none]

end Transaction

/-- The payloads of the upload that the answered packets have left. -/
def uploaded (ts : List Transaction) : List (List Wire.Byte) := ts.foldl (fun payloads t => t.uploads payloads) []

/-- The session counts the payloads of its upload. -/
structure Counts (p : WriterParams) (c : UploadCore) (payloads : List (List Wire.Byte)) : Prop where
  base : c.ddrBaseAddr = p.ddrAddrBase
  once : c.uploadActive = true → c.committed = false
  sized : ∀ payload ∈ payloads, 32 ≤ payload.length ∧ payload.length % 32 = 0
  packets : c.uploadActive = true ∨ c.committed = true → c.nextPacketSeq = payloads.length
  received : c.uploadActive = true ∨ c.committed = true → c.receivedBytes = payloads.flatten.length
  within : c.uploadActive = true ∨ c.committed = true →
    c.receivedBytes ≤ c.totalBytes ∧ c.totalBytes ≤ ddrCapacityBytes ∧ c.totalBytes = c.totalBeats * 256
  whole : c.committed = true → c.receivedBytes = c.totalBytes

section Counting

variable {p : WriterParams} {c : UploadCore} {payloads : List (List Wire.Byte)} {q : UploadRequest} {playback : Nat}

/-- A session that has ended counts nothing. -/
theorem counts_ended (base : c.ddrBaseAddr = p.ddrAddrBase)
    (sized : ∀ payload ∈ payloads, 32 ≤ payload.length ∧ payload.length % 32 = 0) (idle : c.uploadActive = false)
    (uncommitted : c.committed = false) : Counts p c payloads := by
  have gone : ¬ (c.uploadActive = true ∨ c.committed = true) := by
    rw [idle, uncommitted]
    decide
  refine ⟨base, fun _ => uncommitted, sized, fun live => absurd live gone, fun live => absurd live gone,
    fun live => absurd live gone, fun done => absurd (.inr done) gone⟩

/-- A request that is accepted without data leaves the payloads, or starts over. -/
theorem Counts.accept (counts : Counts p c payloads) {after : UploadCore} {pulse : Option PlaybackCommand}
    (verdict : q.judge p c playback = .accept after pulse) :
    Counts p after (if pulse = some .begin then [] else payloads) := by
  unfold UploadRequest.judge at verdict
  split_ifs at verdict with begins data differs commit play halt abort
  · unfold UploadRequest.judgeBegin at verdict
    split_ifs at verdict with malformed repeated
    · cases verdict
      exact counts
    · cases verdict
      simp only [UploadRequest.beginMalformed, decide_eq_true_eq, not_or, not_not, Nat.not_lt] at malformed
      obtain ⟨-, -, -, -, -, -, -, capacity, beats⟩ := malformed
      exact ⟨rfl, fun _ => rfl, fun _ none => absurd none List.not_mem_nil, fun _ => rfl, fun _ => rfl,
        fun _ => ⟨Nat.zero_le _, capacity, beats⟩, by rintro ⟨⟩⟩
  · unfold UploadRequest.judgeData at verdict
    split_ifs at verdict
  · unfold UploadRequest.judgeCommit at verdict
    split_ifs at verdict with again closed short
    · cases verdict
      exact counts
    · cases verdict
      have active : c.uploadActive = true := by
        rw [not_or, Bool.not_eq_false] at closed
        exact closed.1
      rw [not_not] at short
      exact ⟨counts.base, by rintro ⟨⟩, counts.sized, fun _ => counts.packets (.inl active),
        fun _ => counts.received (.inl active), fun _ => counts.within (.inl active), fun _ => short⟩
  · unfold UploadRequest.judgePlay at verdict
    split_ifs at verdict
    · cases verdict
      exact counts
    · cases verdict
      exact ⟨counts.base, counts.once, counts.sized, counts.packets, counts.received, counts.within, counts.whole⟩
  · unfold UploadRequest.judgeHalt at verdict
    split_ifs at verdict with drops unsafe' stops
    · cases verdict
      exact counts_ended counts.base counts.sized rfl (counts.once drops.1)
    · cases verdict
      exact counts
    · cases verdict
      exact counts
  · cases verdict
    exact counts_ended counts.base counts.sized rfl rfl
  · cases verdict
    exact counts

theorem judge_accept_no_data {after : UploadCore} {pulse : Option PlaybackCommand} (opcode : q.opcode = opData) :
    q.judge p c playback ≠ .accept after pulse := by
  intro verdict
  rw [judge_data opcode, UploadRequest.judgeData] at verdict
  split_ifs at verdict

/-- The place of a DATA that is stored is behind what the session has received. -/
theorem checked_place {words : List Word} (good : WellFormed words)
    (verdict : (requestOf c words).judge p c playback = .check false) :
    (requestOf c words).data.offset = c.receivedBytes ∧
      (requestOf c words).data.offset + (requestOf c words).data.length ≤ c.totalBytes := by
  obtain ⟨opcode, -, -, -, -, -, order⟩ := judge_check verdict
  have placed := (order rfl).2
  have long : 3 ≤ (words.drop 2).length := Nat.le_trans (by decide) (good.count.2.1 opcode)
  obtain ⟨x, y, z, rest, split⟩ : ∃ x y z rest, words.drop 2 = x :: y :: z :: rest := by
    generalize words.drop 2 = payload at long
    match payload, long with
    | x :: y :: z :: rest, _ => exact ⟨x, y, z, rest, rfl⟩
  simp only [requestOf, split, dataOf_header] at placed ⊢
  simp only [dataOf, List.zipIdx_cons, List.zipIdx_nil, List.foldl_cons, List.foldl_nil, takeData,
    decide_eq_true_eq] at placed ⊢
  omega

theorem length_payload {t : Transaction} (good : WellFormed t.words) (opcode : opcodeOf t.words = opData)
    (inRange : t.request.data.rangeOk = true) : t.payload.length = t.request.data.length := by
  rw [Transaction.payload, Wire.length_wordBytes]
  exact (eq_dataWords good opcode inRange).2

/-- No more payloads than fit in the memory. -/
theorem Counts.few (counts : Counts p c payloads) : 32 * payloads.length ≤ payloads.flatten.length := by
  have sized := counts.sized
  clear counts
  induction payloads with
  | nil => exact Nat.zero_le _
  | cons payload rest ih =>
    have first := sized payload List.mem_cons_self
    have others := ih fun other among => sized other (List.mem_cons_of_mem _ among)
    rw [List.length_cons, List.flatten_cons, List.length_append]
    omega

/-- A DATA that is stored adds its payload. -/
theorem Counts.stores {t : Transaction} (counts : Counts p t.before payloads) (good : WellFormed t.words)
    (verdict : t.verdict p = .check false) :
    Counts p (t.before.stores t.request t.request.data.length) (payloads ++ [t.payload]) := by
  obtain ⟨opcode, -, active, -, inRange, -, -⟩ := judge_check verdict
  obtain ⟨place, room⟩ := checked_place good verdict
  have length := length_payload good opcode inRange
  have long := good.count.2.1 opcode
  rw [List.length_drop] at long
  obtain ⟨some_data, -, beats, -⟩ := range_of_rangeOk (by omega) inRange
  have live : t.before.uploadActive = true ∨ t.before.committed = true := .inl active
  have received := counts.received live
  obtain ⟨-, capacity, frames⟩ := counts.within live
  have few := counts.few
  have packets := counts.packets live
  rw [ddrCapacityBytes] at capacity
  have request : t.request = requestOf t.before t.words := rfl
  rw [← request] at place room some_data beats
  refine ⟨counts.base, counts.once, fun payload among => ?_, fun _ => ?_, fun _ => ?_, fun _ => ?_, fun done => ?_⟩
  · rcases List.mem_append.mp among with earlier | last
    · exact counts.sized payload earlier
    · rw [List.mem_singleton.mp last, length]
      omega
  · change (t.before.nextPacketSeq + 1) % 2 ^ 32 = _
    rw [List.length_append, List.length_singleton]
    omega
  · change (t.before.receivedBytes + t.request.data.length) % 2 ^ 64 = _
    rw [List.flatten_append, List.length_append, List.flatten_singleton, length]
    omega
  · change (t.before.receivedBytes + t.request.data.length) % 2 ^ 64 ≤ t.before.totalBytes ∧
      t.before.totalBytes ≤ ddrCapacityBytes ∧ _
    rw [ddrCapacityBytes]
    exact ⟨by omega, capacity, frames⟩
  · exact absurd (done.symm.trans (counts.once active)) Bool.noConfusion

/-- A new DATA that is answered OK has been written as a whole. -/
theorem Transaction.Lawful.written {t : Transaction} (lawful : t.Lawful p) (opcode : t.opcode = opData)
    (status : t.status = statusOk) (fresh : t.request.dataRepeated t.before = false) :
    WellFormed t.words ∧ t.verdict p = .check false ∧ t.WritesFirst p (t.request.data.length / 32) ∧
      t.axiFails = false := by
  cases lawful.outcome with
  | malformed _ bad _ => exact absurd (bad.symm.trans status) (by decide)
  | status _ other _ => exact absurd (other.symm.trans (lawful.opcode.symm.trans opcode)) (by decide)
  | refused _ _ offset verdict _ => exact absurd status (judge_refuse verdict).1
  | accepted _ _ pulse verdict => exact absurd verdict (judge_accept_no_data (lawful.opcode.symm.trans opcode))
  | badCrc _ _ _ _ _ bad _ => exact absurd (bad.symm.trans status) (by decide)
  | repeated _ _ verdict _ _ _ =>
    have again : t.request.dataRepeated t.before = true := (judge_check verdict).2.2.2.2.2.1
    exact absurd (again.symm.trans fresh) Bool.noConfusion
  | stored good _ verdict _ _ _ _ writes axi => exact ⟨good, verdict, writes, axi⟩
  | failed _ _ _ _ bad =>
    rw [status] at bad
    exact absurd bad (by decide)

/-- Every answered packet keeps the count. -/
theorem Counts.lawful {t : Transaction} (counts : Counts p t.before payloads) (lawful : t.Lawful p) :
    Counts p t.after (t.uploads payloads) := by
  have kept (unchanged : t.Unchanged) (no_data : ¬ (t.opcode = opData ∧ t.status = statusOk ∧
      t.request.dataRepeated t.before = false)) : Counts p t.after (t.uploads payloads) := by
    rw [Transaction.uploads_none unchanged.pulses no_data, unchanged.after]
    exact counts
  cases lawful.outcome with
  | malformed _ status unchanged =>
    refine kept unchanged fun stored => ?_
    exact absurd (status.symm.trans stored.2.1) (by decide)
  | status _ opcode unchanged =>
    refine kept unchanged fun stored => ?_
    rw [lawful.opcode, opcode] at stored
    exact absurd stored.1 (by decide)
  | refused _ _ offset verdict unchanged =>
    exact kept unchanged fun stored => (judge_refuse verdict).1 stored.2.1
  | badCrc _ _ _ _ _ status unchanged =>
    refine kept unchanged fun stored => ?_
    exact absurd (status.symm.trans stored.2.1) (by decide)
  | repeated _ _ verdict _ _ unchanged =>
    refine kept unchanged fun stored => ?_
    have again : t.request.dataRepeated t.before = true := (judge_check verdict).2.2.2.2.2.1
    exact absurd (again.symm.trans stored.2.2) Bool.noConfusion
  | accepted _ _ pulse verdict _ pulses =>
    have no_data : t.opcode ≠ opData := fun data => judge_accept_no_data (lawful.opcode.symm.trans data) verdict
    have none : ¬ (t.opcode = opData ∧ t.status = statusOk ∧ t.request.dataRepeated t.before = false) :=
      fun stored => no_data stored.1
    have starts : t.pulses = [.begin] ↔ pulse = some .begin := by
      rw [pulses]
      cases pulse <;> simp
    have same : t.uploads payloads = if pulse = some .begin then [] else payloads := by
      simp only [Transaction.uploads, starts, if_neg none]
    rw [same]
    exact counts.accept verdict
  | stored good opcode verdict _ status after pulses =>
    have fresh : t.request.dataRepeated t.before = false := (judge_check verdict).2.2.2.2.2.1
    rw [Transaction.uploads, pulses, if_neg (by decide), if_pos ⟨lawful.opcode.trans opcode, status, fresh⟩, after]
    exact counts.stores good verdict
  | failed _ _ _ _ status after pulses =>
    have bad : t.status ≠ statusOk := by
      rcases status with status | status <;> rw [status] <;> decide
    rw [Transaction.uploads_none pulses fun stored => bad stored.2.1, after]
    exact counts_ended counts.base counts.sized rfl rfl

theorem Counts.chained {c' : UploadCore} {ts : List Transaction} (counts : Counts p c payloads)
    (chained : Chained c ts c') (lawful : ∀ t ∈ ts, t.Lawful p) :
    Counts p c' (ts.foldl (fun payloads t => t.uploads payloads) payloads) := by
  induction ts generalizing c payloads with
  | nil =>
    cases chained
    exact counts
  | cons t ts ih =>
    obtain ⟨before, rest⟩ := chained
    have first : Counts p t.before payloads := before ▸ counts
    exact ih (first.lawful (lawful t List.mem_cons_self)) rest fun u later => lawful u (List.mem_cons_of_mem _ later)

/-- The session that the answered packets of a run have left counts their payloads. -/
theorem counts_run (p : WriterParams) (is : List WriterIn) :
    Counts p ((accountedWriter p).run (.reset p) is).settled (uploaded (answers p is)) := by
  obtain ⟨-, chained, lawful⟩ := run_lawful p is
  have fresh : Counts p (.reset p) [] := counts_ended rfl (fun _ none => absurd none List.not_mem_nil) rfl rfl
  exact fresh.chained chained lawful

end Counting

end Xczu47dr.Upload
