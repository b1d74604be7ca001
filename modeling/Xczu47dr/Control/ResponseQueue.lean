import Xczu47dr.Control.ResponseStream
import Xczu47dr.Control.RiscvControl

/-! # One answer for every command

What becomes of a decoded command: its response is queued at once, or the command
waits for the RFDC controller, the network controller, the TDC or the diagnostic
snapshot.  The queue loses none of this as long as at most one stage queues a
response in a cycle and none does while the head of the queue leaves.
-/

namespace Xczu47dr.Control

open Clocked Machine

/-- Opcode and sequence number of a command. -/
abbrev Answer := BitVec 32 × BitVec 32

/-- The commands whose response is deferred, by what they wait for. -/
structure Waiting where
  rfdc : Option Answer
  network : Option Answer
  tdc : Option Answer
  diag : Option Answer

namespace Waiting

def all (w : Waiting) : List Answer :=
  w.rfdc.toList ++ w.network.toList ++ w.tdc.toList ++ w.diag.toList

theorem count_all (w : Waiting) (answer : Answer) : w.all.count answer =
    w.rfdc.toList.count answer + w.network.toList.count answer + w.tdc.toList.count answer +
      w.diag.toList.count answer := by
  simp only [all, List.count_append]

end Waiting

namespace ResponseSlots

def entries (q : ResponseSlots) : List ResponseRequest := q.first.toList ++ q.second.toList

def NoGap (q : ResponseSlots) : Prop := q.second.isSome = true → q.first.isSome = true

instance (q : ResponseSlots) : Decidable q.NoGap := inferInstanceAs (Decidable (_ → _))

/-- With at most one call, none while the head leaves and none when both entries are
    taken, the queue is a queue. -/
theorem entries_step {q : ResponseSlots} {shifts : Bool} {calls : List ResponseRequest} (noGap : q.NoGap)
    (one : calls.length ≤ 1) (rests : shifts = true → calls = [] ∧ q.first.isSome = true)
    (room : calls ≠ [] → q.second = none) :
    (q.step shifts calls).NoGap ∧
      (if shifts then q.first.toList else []) ++ (q.step shifts calls).entries = q.entries ++ calls := by
  obtain ⟨first, second⟩ := q
  rcases calls with - | ⟨call, - | ⟨_, _⟩⟩
  · cases shifts with
    | false => simpa [step, entries] using noGap
    | true =>
      obtain ⟨-, head⟩ := rests rfl
      cases first with
      | none => contradiction
      | some head => simp [step, shift, entries, NoGap]
  · cases shifts with
    | true => exact absurd (rests rfl).1 (by simp)
    | false =>
      obtain rfl : second = none := room (by simp)
      cases first with
      | none => simp [step, entries, NoGap]
      | some head => simp [step, entries, NoGap]
  · simp at one

end ResponseSlots

namespace RiscvControl

variable {ids : BuildIds} {s t : RiscvControl} {i : RiscvIn}

/-- The commands waiting in `s`. -/
def waiting (s : RiscvControl) : Waiting where
  rfdc := if s.rfdcResponsePending then some (s.rfdcResponseOpcode, s.rfdcResponseSequence) else none
  network :=
    if s.networkResponsePending then some (s.networkResponseOpcode, s.networkResponseSequence) else none
  tdc := if s.tdcRegValid || s.tdcResponsePending then some (rf2OpTdcReg, s.tdcResponseSequence) else none
  diag := if s.diagSnapshotWait then some (rf2OpDiagSnapshot, s.diagSnapshotPendingSeq) else none

/-- The command the decoder takes in this cycle. -/
def accepted (s : RiscvControl) (i : RiscvIn) : List Answer :=
  if s.decodes i then [(s.cmdOpcode, s.cmdSeq)] else []

/-- The response packet that goes to the output stage in this cycle. -/
def loaded (ids : BuildIds) (s : RiscvControl) (i : RiscvIn) : List (List (BitVec 64)) :=
  (s.loadedWords ids i).toList

def dequeued (s : RiscvControl) : List ResponseRequest := if s.loads then s.slots.first.toList else []

/-- The response word handed over in this cycle. -/
def delivered (s : RiscvControl) (i : RiscvIn) : List (BitVec 64 × Bool) := s.output.delivered i.rvrespReady

/-! ## The decoder -/

/-- The command is a network command that goes to the network controller. -/
def startsNetwork (s : RiscvControl) (i : RiscvIn) : Bool :=
  s.cmdVersionValid && !i.networkBusy &&
    (s.cmdKind == .networkApply && s.cmdPayloadBytes == 32 && s.rxExpectedWords == 12 ||
      s.cmdKind == .networkRestart && s.cmdPayloadBytes == 0 && s.rxExpectedWords == 4)

/-- A command is answered at once, or it joins the waiting commands `w`. -/
inductive Outcome (s : RiscvControl) (i : RiscvIn) (w : Waiting) (d : Decoded) : Prop
  | answered (response : ResponseRequest) : d.response = some response →
      response.answer = (s.cmdOpcode, s.cmdSeq) → d.next.waiting = w → Outcome s i w d
  | rfdc : d.response = none →
      d.next.waiting = { w with rfdc := some (s.cmdOpcode, s.cmdSeq) } → Outcome s i w d
  | network : d.response = none → s.startsNetwork i = true →
      d.next.waiting = { w with network := some (s.cmdOpcode, s.cmdSeq) } → Outcome s i w d
  | tdc : d.response = none → s.waiting.tdc = none →
      d.next.waiting = { w with tdc := some (s.cmdOpcode, s.cmdSeq) } → Outcome s i w d
  | diag : d.response = none → s.waiting.diag = none →
      d.next.waiting = { w with diag := some (s.cmdOpcode, s.cmdSeq) } → Outcome s i w d

/-- What a decoded kind says about the opcode. -/
def Names (opcode : BitVec 32) : CommandKind → Prop
  | .unsupported => True
  | .hello => opcode = rf2OpHello
  | .status => opcode = rf2OpStatus
  | .networkGet => opcode = rf2OpNetworkGet
  | .networkApply => opcode = rf2OpNetworkApply
  | .networkRestart => opcode = rf2OpNetworkRestart
  | .rfdcApply => opcode = rf2OpRfdcApply
  | .rfdcGet => opcode = rf2OpRfdcGetConfig
  | .syncEpoch => opcode = rf2OpSyncEpoch
  | .tdcReg => opcode = rf2OpTdcReg
  | .diagSnapshot => opcode = rf2OpDiagSnapshot
  | .diagControl => opcode = rf2OpDiagControl

theorem names_decodeKind (opcode : BitVec 32) : Names opcode (decodeKind opcode) := by
  unfold decodeKind
  iterate 11 refine iteInduction (motive := Names opcode) id fun _ => ?_
  trivial

theorem outcome_refuse {opcode : BitVec 32} (own : s.cmdOpcode = opcode) (code : BitVec 16) :
    Outcome s i t.waiting (s.refuse t opcode code) :=
  .answered _ rfl (by rw [own]; rfl) rfl

theorem outcome_decode (kind : s.cmdKind = decodeKind s.cmdOpcode) :
    Outcome s i t.waiting (s.decode i t) := by
  have base : t.waiting = ({ t with decodePending := false } : RiscvControl).waiting := rfl
  rw [base]
  have own := names_decodeKind s.cmdOpcode
  rw [← kind] at own
  unfold decode
  split
  · exact outcome_refuse rfl 1
  case isFalse valid =>
    cases command : s.cmdKind <;> rw [command] at own <;> dsimp only [Names] at own ⊢
    case unsupported => exact outcome_refuse rfl 2
    case hello | status | networkGet | rfdcGet => exact .answered _ rfl (by rw [own]; rfl) rfl
    case tdcReg =>
      unfold decodeTdcReg
      split_ifs with malformed busy
      · exact outcome_refuse own 3
      · exact outcome_refuse own 4
      · refine .tdc rfl ?_ (by rw [own]; rfl)
        simpa [waiting] using busy
    case diagSnapshot =>
      unfold decodeDiagSnapshot
      split_ifs with malformed busy
      · exact outcome_refuse own 3
      · exact outcome_refuse own 4
      · refine .diag rfl ?_ (by rw [own]; rfl)
        simp only [Bool.or_eq_true, not_or] at busy
        simpa [waiting] using busy.1.1.1
    case diagControl =>
      unfold decodeDiagControl
      split_ifs with malformed
      · exact outcome_refuse own 3
      · exact .answered _ rfl (by rw [own]; rfl) rfl
    case networkApply =>
      unfold decodeNetworkApply
      split_ifs with malformed busy
      · exact outcome_refuse own 3
      · exact outcome_refuse own 4
      · refine .network rfl ?_ (by rw [own]; rfl)
        rw [not_or, not_not, not_not] at malformed
        simp_all [startsNetwork]
    case networkRestart =>
      unfold decodeNetworkRestart
      split_ifs with malformed busy
      · exact outcome_refuse own 3
      · exact outcome_refuse own 4
      · refine .network rfl ?_ (by rw [own]; rfl)
        rw [not_or, not_not, not_not] at malformed
        simp_all [startsNetwork]
    case rfdcApply =>
      unfold decodeRfdcApply
      split_ifs with malformed unready busy
      · exact outcome_refuse own 3
      · exact outcome_refuse own 5
      · exact outcome_refuse own 4
      · exact .rfdc rfl (by rw [own]; rfl)
    case syncEpoch =>
      unfold decodeSyncEpoch
      split_ifs with malformed busy
      · exact outcome_refuse own 6
      · exact outcome_refuse own 4
      · exact .answered _ rfl (by rw [own]; rfl) rfl

/-! ## One clock edge -/

/-- What holds of the registers outside the queue in every reachable state. -/
structure Consistent (s : RiscvControl) : Prop where
  kind : s.cmdKind = decodeKind s.cmdOpcode
  blocked : s.rfdcResponsePending = true → s.processPending = false ∧ s.decodePending = false
  access : s.tdcRegValid = true → s.tdcResponsePending = false

theorem accessTdc_cases (t : RiscvControl) (i : RiscvIn) :
    (s.accessTdc i t).waiting = { t.waiting with tdc := (s.accessTdc i t).waiting.tdc } := by
  unfold accessTdc
  split_ifs <;> rfl

theorem waiting_tdc_settled : (s.settled i).waiting.tdc = s.waiting.tdc := by
  cases valid : s.tdcRegValid <;> simp [settled, accessTdc, valid]
  · rfl
  · split_ifs <;> simp [waiting, complete, clearPulses, valid]

/-- The completions that do not wait for the queue take their commands away. -/
theorem waiting_settled : (s.settled i).waiting =
    { s.waiting with
      rfdc := if s.rfdcCompletes i then none else s.waiting.rfdc
      network := if s.networkCompletes i then none else s.waiting.network } := by
  have rest := accessTdc_cases (s := s) (s.complete i s.clearPulses) i
  rw [show s.accessTdc i (s.complete i s.clearPulses) = s.settled i from rfl, waiting_tdc_settled] at rest
  rw [rest]
  cases rfdc : s.rfdcCompletes i <;> cases network : s.networkCompletes i <;>
    simp [waiting, complete, clearPulses, rfdc, network]

/-- A TDC access only starts when there is none, and nothing else touches it. -/
theorem decode_access : (s.decode i t).next.tdcResponsePending = t.tdcResponsePending ∧
    ((s.decode i t).next.tdcRegValid = t.tdcRegValid ∨
      s.tdcRegValid = false ∧ s.tdcResponsePending = false) := by
  unfold decode
  split
  · exact ⟨rfl, Or.inl rfl⟩
  · cases s.cmdKind
    case tdcReg =>
      dsimp only [decodeTdcReg]
      split_ifs with malformed busy
      · exact ⟨rfl, Or.inl rfl⟩
      · exact ⟨rfl, Or.inl rfl⟩
      · exact ⟨rfl, Or.inr (by simpa using busy)⟩
    case diagSnapshot => dsimp only [decodeDiagSnapshot]; split_ifs <;> exact ⟨rfl, Or.inl rfl⟩
    case diagControl => dsimp only [decodeDiagControl]; split_ifs <;> exact ⟨rfl, Or.inl rfl⟩
    case networkApply => dsimp only [decodeNetworkApply]; split_ifs <;> exact ⟨rfl, Or.inl rfl⟩
    case networkRestart => dsimp only [decodeNetworkRestart]; split_ifs <;> exact ⟨rfl, Or.inl rfl⟩
    case rfdcApply => dsimp only [decodeRfdcApply]; split_ifs <;> exact ⟨rfl, Or.inl rfl⟩
    case syncEpoch => dsimp only [decodeSyncEpoch]; split_ifs <;> exact ⟨rfl, Or.inl rfl⟩
    all_goals exact ⟨rfl, Or.inl rfl⟩

theorem access_settled (held : Consistent s) :
    (s.settled i).tdcRegValid = true → (s.settled i).tdcResponsePending = false := by
  unfold settled accessTdc
  split_ifs with valid done
  · intro later
    contradiction
  · exact fun _ => held.access valid
  · exact held.access

theorem consistent_reset : Consistent reset :=
  ⟨by decide, fun pending => Bool.noConfusion pending, fun valid => Bool.noConfusion valid⟩

theorem consistent_chain (held : Consistent s) : Consistent (s.chain i (s.settled i)).next := by
  have access := access_settled (i := i) held
  have kept : (s.settled i).cmdKind = decodeKind (s.settled i).cmdOpcode := by
    have same := settled_command (s := s) (i := i)
    rw [show (s.settled i).cmdKind = s.cmdKind from congrArg CommandRegisters.cmdKind same,
      show (s.settled i).cmdOpcode = s.cmdOpcode from congrArg CommandRegisters.cmdOpcode same]
    exact held.kind
  have parked : (s.settled i).processPending = s.processPending :=
    congrArg CommandRegisters.processPending settled_command
  have rests (pending : (s.settled i).rfdcResponsePending = true) :
      s.rfdcResponsePending = true ∧ s.processPending = false ∧ s.decodePending = false := by
    rw [settled_rfdcResponsePending, Bool.and_eq_true] at pending
    exact ⟨pending.1, held.blocked pending.1⟩
  unfold chain
  split_ifs with receives process diag tdc decodes
  · refine ⟨kept, fun pending => ?_, access⟩
    rw [RiscvControl.receives, (rests pending).1] at receives
    simp at receives
  · refine ⟨rfl, fun pending => ?_, access⟩
    rw [(rests pending).2.1] at process
    contradiction
  · refine ⟨kept, fun pending => ?_, access⟩
    exact ⟨parked.trans (rests pending).2.1, settled_decodePending.trans (rests pending).2.2⟩
  · refine ⟨kept, fun pending => ?_, fun _ => rfl⟩
    exact ⟨parked.trans (rests pending).2.1, settled_decodePending.trans (rests pending).2.2⟩
  · obtain ⟨command, done⟩ := decode_command (s := s) (i := i) (t := s.settled i)
    obtain ⟨pending, valid⟩ := decode_access (s := s) (i := i) (t := s.settled i)
    refine ⟨?_, fun _ => ⟨?_, done⟩, fun starts => ?_⟩
    · rw [show (s.decode i (s.settled i)).next.cmdKind = _ from congrArg CommandRegisters.cmdKind command,
        show (s.decode i (s.settled i)).next.cmdOpcode = _ from congrArg CommandRegisters.cmdOpcode command]
      exact kept
    · rw [show (s.decode i (s.settled i)).next.processPending = _ from
        congrArg CommandRegisters.processPending command]
      exact parked.trans (Bool.not_eq_true _ ▸ process)
    · rw [pending]
      rcases valid with same | ⟨idle, free⟩
      · exact access (same ▸ starts)
      · rw [settled, accessTdc, idle]
        exact free
  · refine ⟨kept, fun pending => ?_, access⟩
    exact ⟨parked.trans (rests pending).2.1, settled_decodePending.trans (rests pending).2.2⟩

theorem consistent_step (held : Consistent s) : Consistent (s.step ids i) :=
  have next := consistent_chain (i := i) held
  ⟨next.kind, next.blocked, next.access⟩

/-- A command that goes to the network controller finds no other command waiting for
    it, but perhaps one that completes. -/
def NetworkFree (s : RiscvControl) (i : RiscvIn) : Prop :=
  s.decodes i = true → s.startsNetwork i = true → s.networkResponsePending = true → i.networkDone = true

/-- The priority chain answers a waiting command, or takes one and answers it or
    lets it wait. -/
theorem chain_waiting (held : Consistent s) (free : s.NetworkFree i) :
    ((s.chain i (s.settled i)).response.toList.map ResponseRequest.answer ++
      (s.chain i (s.settled i)).next.waiting.all).Perm
      ((s.settled i).waiting.all ++ s.accepted i) := by
  rw [List.perm_iff_count]
  intro answer
  rw [List.count_append, List.count_append, Waiting.count_all, Waiting.count_all]
  have settles := waiting_settled (s := s) (i := i)
  by_cases decoded : s.decodes i = true
  · have takes : s.accepted i = [(s.cmdOpcode, s.cmdSeq)] := if_pos decoded
    have executes : s.chain i (s.settled i) = s.decode i (s.settled i) := by
      simp only [decodes, Bool.and_eq_true, Bool.not_eq_true'] at decoded
      obtain ⟨⟨⟨⟨receives, process⟩, diag⟩, tdc⟩, decode⟩ := decoded
      simp [chain, receives, process, diag, tdc, decode]
    have unblocked : s.waiting.rfdc = none := by
      simp only [decodes, Bool.and_eq_true] at decoded
      cases pending : s.rfdcResponsePending with
      | false => simp [waiting, pending]
      | true =>
        have idle := (held.blocked pending).2
        rw [idle] at decoded
        simp at decoded
    rw [takes, executes]
    rcases outcome_decode (i := i) (t := s.settled i) held.kind with
      ⟨response, responds, own, same⟩ | ⟨none, joins⟩ | ⟨none, starts, joins⟩ | ⟨none, idle, joins⟩ |
        ⟨none, idle, joins⟩
    · rw [responds, same, Option.toList_some, List.map_cons, own, List.map_nil]
      omega
    · have empty : (s.settled i).waiting.rfdc = .none := by rw [settles, unblocked]; exact ite_self _
      simp only [none, joins, empty, Option.toList_none, Option.toList_some, List.map_nil, List.count_nil]
      omega
    · have empty : (s.settled i).waiting.network = .none := by
        rw [settles]
        cases pending : s.networkResponsePending with
        | false => simp [waiting, pending]
        | true => simp [networkCompletes, pending, free decoded starts pending]
      simp only [none, joins, empty, Option.toList_none, Option.toList_some, List.map_nil, List.count_nil]
      omega
    · have empty : (s.settled i).waiting.tdc = .none := waiting_tdc_settled.trans idle
      simp only [none, joins, empty, Option.toList_none, Option.toList_some, List.map_nil, List.count_nil]
      omega
    · have empty : (s.settled i).waiting.diag = .none := by rw [settles]; exact idle
      simp only [none, joins, empty, Option.toList_none, Option.toList_some, List.map_nil, List.count_nil]
      omega
  · have none : s.accepted i = [] := if_neg decoded
    rw [none]
    unfold chain
    split_ifs with receives process diag tdc decodes
    · simp [receive, waiting]
    · simp [RiscvControl.process, waiting]
    · have waits : s.diagSnapshotWait = true := by
        simp only [diagCompletes, Bool.and_eq_true] at diag
        exact diag.1.1.1.1
      have own : (s.settled i).waiting.diag = some (rf2OpDiagSnapshot, s.diagSnapshotPendingSeq) := by
        rw [settles]
        exact if_pos waits
      have leaves : (s.completeDiag i (s.settled i)).waiting = { (s.settled i).waiting with diag := .none } := rfl
      rw [leaves, own]
      simp only [Option.toList_some, Option.toList_none, List.map_cons, List.map_nil, List.count_nil]
      rw [show (rf2Diag rf2OpDiagSnapshot s.diagSnapshotPendingSeq).answer =
        (rf2OpDiagSnapshot, s.diagSnapshotPendingSeq) from rfl]
      omega
    · have pending : s.tdcResponsePending = true := by
        simp only [tdcCompletes, Bool.and_eq_true] at tdc
        exact tdc.1.1.1.1
      have idle : s.tdcRegValid = false := by
        cases valid : s.tdcRegValid with
        | false => rfl
        | true => exact absurd pending (by simp [held.access valid])
      have own : (s.settled i).waiting.tdc = some (rf2OpTdcReg, s.tdcResponseSequence) := by
        rw [waiting_tdc_settled]
        exact if_pos (by rw [idle, pending]; rfl)
      have leaves : ({ s.settled i with tdcResponsePending := false } : RiscvControl).waiting =
          { (s.settled i).waiting with tdc := .none } := by
        simp [waiting, settled, accessTdc, idle, complete, clearPulses]
      rw [leaves, own]
      simp only [Option.toList_some, Option.toList_none, List.map_cons, List.map_nil, List.count_nil]
      rw [show s.tdcResponse.answer = (rf2OpTdcReg, s.tdcResponseSequence) from rfl]
      omega
    · simp [RiscvControl.decodes, receives, process, diag, tdc, decodes] at decoded
    · simp

variable (ids)

/-- What waits and the command that is taken are what is queued and what waits next. -/
theorem step_waiting (held : Consistent s) (free : s.NetworkFree i) :
    ((s.requests i).map ResponseRequest.answer ++ (s.step ids i).waiting.all).Perm
      (s.waiting.all ++ s.accepted i) := by
  have chained := List.perm_iff_count.mp (chain_waiting held free)
  rw [List.perm_iff_count]
  intro answer
  have count := chained answer
  have calls : (s.requests i).map ResponseRequest.answer =
      (if s.rfdcCompletes i then s.waiting.rfdc.toList else []) ++
        (if s.networkCompletes i then s.waiting.network.toList else []) ++
          (s.chain i (s.settled i)).response.toList.map ResponseRequest.answer := by
    rw [requests, List.map_append, List.map_append, chain_response (t := s) (u := s.settled i)]
    congr 2
    · unfold rfdcCompletes
      split_ifs with done
      · rw [Bool.and_eq_true] at done
        simp [waiting, done.1, rfdcResponse, ResponseRequest.answer]
      · rfl
    · unfold networkCompletes
      split_ifs with done
      · rw [Bool.and_eq_true] at done
        simp [waiting, done.1, networkResponse, ResponseRequest.answer]
      · rfl
  have same : (s.step ids i).waiting = (s.chain i (s.settled i)).next.waiting := rfl
  rw [calls, same]
  rw [waiting_settled] at count
  simp only [List.count_append, Waiting.count_all] at count ⊢
  split_ifs at count ⊢ <;> simp only [Option.toList_none, List.count_nil] at count ⊢ <;> omega

/-! ## Whole runs -/

/-- As many commands are unanswered, queued or waiting, as the queue has entries. -/
def Within (s : RiscvControl) (i : RiscvIn) : Prop :=
  s.slots.entries.length + s.waiting.all.length + (s.accepted i).length ≤ 2

/-- The queue is called at most once in a cycle, and not in a cycle in which its head
    leaves. -/
def Spaced (s : RiscvControl) (i : RiscvIn) : Prop := (s.requests i).length + s.loads.toNat ≤ 1

instance : Decidable (s.Within i) := inferInstanceAs (Decidable (_ ≤ _))

instance : Decidable (s.Spaced i) := inferInstanceAs (Decidable (_ ≤ _))

instance : Decidable (s.NetworkFree i) := inferInstanceAs (Decidable (_ → _ → _ → _))

/-- What one clock edge needs of the state before it. -/
structure Orderly (s : RiscvControl) : Prop where
  consistent : Consistent s
  noGap : s.slots.NoGap
  shows : s.output.Shows

theorem orderly_reset : Orderly reset :=
  ⟨consistent_reset, fun later => Bool.noConfusion later, ResponseOutput.shows_reset⟩

theorem room_of_within (orderly : Orderly s) (free : s.NetworkFree i) (within : s.Within i)
    (calls : s.requests i ≠ []) : s.slots.second = none := by
  have lengths := (step_waiting ⟨0, 0, 0⟩ orderly.consistent free).length_eq
  simp only [List.length_append, List.length_map] at lengths
  have called := List.length_pos_iff.mpr calls
  cases second : s.slots.second with
  | none => rfl
  | some later =>
    have head := orderly.noGap (by rw [second]; rfl)
    obtain ⟨first, head⟩ := Option.isSome_iff_exists.mp head
    simp only [Within, ResponseSlots.entries, head, second, Option.toList_some, List.length_append,
      List.length_cons, List.length_nil] at within
    omega

theorem step_slots (orderly : Orderly s) (free : s.NetworkFree i) (within : s.Within i)
    (spaced : s.Spaced i) : (s.step ids i).slots.NoGap ∧
      s.dequeued ++ (s.step ids i).slots.entries = s.slots.entries ++ s.requests i := by
  refine ResponseSlots.entries_step orderly.noGap ?_ (fun leaves => ⟨?_, ?_⟩)
    (room_of_within orderly free within)
  · exact (Nat.le_add_right _ _).trans spaced
  · rw [Spaced, leaves, Bool.toNat_true] at spaced
    exact List.length_eq_zero_iff.mp (by omega)
  · rw [loads, Bool.and_eq_true] at leaves
    exact leaves.1

theorem loaded_dequeued :
    (s.loaded ids i).map packetAnswer = s.dequeued.map ResponseRequest.answer := by
  unfold loaded loadedWords dequeued
  split_ifs
  · cases s.slots.first with
    | none => rfl
    | some q => simp [packetAnswer_words]
  · rfl

theorem step_output (orderly : Orderly s) : (s.step ids i).output.Shows ∧
    s.delivered i ++ (s.step ids i).output.rest = s.output.rest ++ (s.loaded ids i).flatMap framed := by
  refine ResponseOutput.step_spec orderly.shows (fun loaded => ?_) (fun words loaded => ?_) i.rvrespReady
  · unfold loadedWords at loaded
    split_ifs at loaded with leaves
    · simp only [loads, Bool.and_eq_true, Bool.not_eq_true'] at leaves
      exact leaves.2
    · contradiction
  · unfold loadedWords at loaded
    split_ifs at loaded
    · obtain ⟨q, -, rfl⟩ := Option.map_eq_some_iff.mp loaded
      have lengths := ResponseRequest.words_length q ids i.status s.diagGeneration
      omega
    · contradiction

theorem orderly_step (orderly : Orderly s) (free : s.NetworkFree i) (within : s.Within i)
    (spaced : s.Spaced i) : Orderly (s.step ids i) :=
  ⟨consistent_step orderly.consistent, (step_slots ids orderly free within spaced).1,
    (step_output ids orderly).1⟩

/-- The answers given and still owed in `s` after the packets `packets`. -/
def answers (packets : List (List (BitVec 64))) (s : RiscvControl) : List Answer :=
  packets.map packetAnswer ++ s.slots.entries.map ResponseRequest.answer ++ s.waiting.all

/-- What becomes of the answers in one clock edge. -/
theorem answers_step {packets : List (List (BitVec 64))} (orderly : Orderly s) (free : s.NetworkFree i)
    (within : s.Within i) (spaced : s.Spaced i) :
    answers (packets ++ s.loaded ids i) (s.step ids i) =
      packets.map packetAnswer ++ s.slots.entries.map ResponseRequest.answer ++
        ((s.requests i).map ResponseRequest.answer ++ (s.step ids i).waiting.all) := by
  have queue := congrArg (List.map ResponseRequest.answer)
    (step_slots ids orderly free within spaced).2
  rw [List.map_append, List.map_append] at queue
  rw [answers, List.map_append, loaded_dequeued]
  simp only [List.append_assoc]
  rw [← List.append_assoc (s.dequeued.map _), queue, List.append_assoc]

/-- The command machine, from the stream of its inputs. -/
abbrev runOf (ids : BuildIds) (is : List RiscvIn) : RiscvControl := (riscvControl ids).run .reset is

abbrev logOf {Event : Type} (ids : BuildIds) (emit : RiscvControl → RiscvIn → List Event)
    (is : List RiscvIn) : List Event :=
  (riscvControl ids).log emit .reset is

/-- No command is taken while another one waits. -/
def Solitary (s : RiscvControl) (i : RiscvIn) : Prop := s.decodes i = true → s.waiting.all = []

/-- The account of a run: every command taken is answered once, by a response packet
    with its opcode and sequence number, which was loaded, or is queued, or is still to be
    queued by the unit the command waits for. -/
structure Ledger (ids : BuildIds) (is : List RiscvIn) : Prop where
  once : (logOf ids accepted is).Perm (answers (logOf ids (loaded ids) is) (runOf ids is))
  /-- Commands are answered in the order they are taken, unless one overtakes a waiting
      one. -/
  inOrder : (riscvControl ids).Along Solitary .reset is →
    logOf ids accepted is = answers (logOf ids (loaded ids) is) (runOf ids is)
  /-- Responses leave the queue in the order they were queued. -/
  queued : logOf ids (fun s _ => s.dequeued) is ++ (runOf ids is).slots.entries = logOf ids requests is
  /-- The words sent are the words of the packets, one packet after the other. -/
  sent : logOf ids delivered is ++ (runOf ids is).output.rest = (logOf ids (loaded ids) is).flatMap framed

/-- Every command of the run is answered once, and no response is stranded. -/
structure Answered (ids : BuildIds) (is : List RiscvIn) : Prop extends Ledger ids is where
  noGap : (runOf ids is).slots.NoGap
  /-- A queued response is loaded as soon as the output stage is free. -/
  loads : (runOf ids is).slots.entries ≠ [] → (runOf ids is).output.tvalid = false →
    (runOf ids is).loads = true

/-- Lists of at most one element that are permutations of each other are equal. -/
theorem eq_of_perm_of_short {as bs : List Answer} (perm : as.Perm bs) (short : bs.length ≤ 1) : as = bs := by
  rcases bs with - | ⟨b, - | ⟨_, _⟩⟩
  · exact List.perm_nil.mp perm
  · exact List.perm_singleton.mp perm
  · simp at short

/-- The account, with what carries it from one clock edge to the next. -/
structure Accounted (ids : BuildIds) (is : List RiscvIn) : Prop extends Ledger ids is where
  orderly : Orderly (runOf ids is)
  solitary : (riscvControl ids).Along Solitary .reset is → (runOf ids is).waiting.all.length ≤ 1

variable {ids} in
theorem accounted_next {is : List RiscvIn} (before : Accounted ids is)
    (free : (runOf ids is).NetworkFree i) (within : (runOf ids is).Within i)
    (spaced : (runOf ids is).Spaced i) : Accounted ids (is ++ [i]) := by
  obtain ⟨⟨once, inOrder, queued, sent⟩, orderly, solitary⟩ := before
  have state : runOf ids (is ++ [i]) = (runOf ids is).step ids i := run_append ..
  have log {Event : Type} (emit : RiscvControl → RiscvIn → List Event) :
      logOf ids emit (is ++ [i]) = logOf ids emit is ++ emit (runOf ids is) i := by
    simp [logOf, runOf]
  have waits := step_waiting ids orderly.consistent free
  have slots := step_slots ids orderly free within spaced
  have output := step_output ids (i := i) orderly
  have alone (along : (riscvControl ids).Along Solitary .reset (is ++ [i])) :
      (riscvControl ids).Along Solitary .reset is ∧
        ((runOf ids is).waiting.all ++ (runOf ids is).accepted i).length ≤ 1 := by
    obtain ⟨earlier, now, -⟩ := (along_append ..).mp along
    refine ⟨earlier, ?_⟩
    unfold accepted
    split_ifs with decodes
    · simp [now decodes]
    · simpa using solitary earlier
  refine ⟨⟨?_, fun along => ?_, ?_, ?_⟩, ?_, fun along => ?_⟩
  · rw [log, log, state, answers_step ids orderly free within spaced]
    refine (once.append_right _).trans ?_
    rw [answers, List.append_assoc _ _ (accepted _ i)]
    exact waits.symm.append_left _
  · rw [log, log, state, answers_step ids orderly free within spaced, inOrder (alone along).1, answers,
      List.append_assoc, eq_of_perm_of_short waits (alone along).2]
  · rw [log, log, state, List.append_assoc, slots.2, ← List.append_assoc, queued]
  · rw [log, log, state, List.append_assoc, output.2, ← List.append_assoc, sent, List.flatMap_append]
  · rw [state]
    exact orderly_step ids orderly free within spaced
  · have lengths := waits.length_eq
    have short := (alone along).2
    rw [List.length_append] at lengths
    rw [state]
    omega

variable {ids} in
theorem accounted_reset : Accounted ids [] where
  once := .refl _
  inOrder _ := rfl
  queued := rfl
  sent := rfl
  orderly := orderly_reset
  solitary _ := Nat.zero_le _

theorem loads_of_noGap (noGap : s.slots.NoGap) (queued : s.slots.entries ≠ [])
    (idle : s.output.tvalid = false) : s.loads = true := by
  cases first : s.slots.first with
  | some _ => simp [RiscvControl.loads, first, idle]
  | none =>
    cases second : s.slots.second with
    | none => simp [ResponseSlots.entries, first, second] at queued
    | some _ =>
      have head := noGap (by rw [second]; rfl)
      rw [first] at head
      contradiction

/-- Every command is answered once, in every run with no more unanswered commands than
    queue entries in which the queue is called at most once in a cycle and not in a cycle
    in which its head leaves, and no network command is taken while another one waits. -/
theorem answered_of_spaced (ids : BuildIds) (is : List RiscvIn)
    (spaced : (riscvControl ids).Along (fun s i => s.Within i ∧ s.Spaced i ∧ s.NetworkFree i) .reset is) :
    Answered ids is := by
  have accounted : Accounted ids is := by
    induction is using List.reverseRecOn with
    | nil => exact accounted_reset
    | append_singleton is i ih =>
      obtain ⟨earlier, ⟨within, calls, free⟩, -⟩ := (along_append ..).mp spaced
      exact accounted_next (ih earlier) free within calls
  exact ⟨accounted.toLedger, accounted.orderly.noGap, loads_of_noGap accounted.orderly.noGap⟩

/-- The two words of a command without payload. -/
def bareCommand (opcode sequence : BitVec 32) : List RiscvIn :=
  [{ (default : RiscvIn) with
      rvctrlValid := true
      rvctrl := ⟨opcode ++ 3#32, true, false, 4, 2⟩ },
    { (default : RiscvIn) with
      rvctrlValid := true
      rvctrl := ⟨0#32 ++ sequence, false, true, 4, 2⟩ }]

/-- A network restart, and then a status request. -/
def restartThenStatus : List RiscvIn :=
  bareCommand rf2OpNetworkRestart 1 ++ List.replicate 4 default ++ bareCommand rf2OpStatus 2 ++ [default]

def networkDoneInput : RiscvIn := { (default : RiscvIn) with networkDone := true, rvrespReady := true }

/-- The restart completes two cycles after the status request was decoded. -/
theorem doneAfterLoad_answered :
    Answered ⟨0, 0, 0⟩ (restartThenStatus ++ [default, default, networkDoneInput, default]) :=
  answered_of_spaced _ _ (by decide)

/-- When it completes in the very cycle in which the status request is decoded, its
    response is overwritten. -/
theorem doneAtDecode_not_answered :
    (riscvControl ⟨0, 0, 0⟩).Along Within .reset (restartThenStatus ++ [networkDoneInput]) ∧
      ¬ Answered ⟨0, 0, 0⟩ (restartThenStatus ++ [networkDoneInput]) := by
  refine ⟨by decide, fun answered => ?_⟩
  have lengths := answered.once.length_eq
  revert lengths
  decide

/-- One cycle later, as the status response leaves the queue, its response is queued
    behind an empty entry. -/
example : ¬ (runOf ⟨0, 0, 0⟩ (restartThenStatus ++ [default, networkDoneInput])).slots.NoGap := by
  decide

end RiscvControl

end Xczu47dr.Control
