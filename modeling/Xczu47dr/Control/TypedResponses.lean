import Xczu47dr.Control.TypedControl

/-! # Typed responses

The queue of responses stores the kind, the opcode and the sequence number of a
typed response, and for the network its status; the rest is read from the
controllers when the response is loaded.  So it shows what its own command came to
as long as the controllers take nothing that changes it while the response waits.
-/

namespace Xczu47dr.Control

open Clocked Xczu47dr.Rfdc

/-! ## The machine -/

/-- The command machine and the controllers behind it. -/
structure TypedControl where
  control : RiscvControl
  runtime : RuntimeConfig
  network : NetworkConfig

/-- What they sample at one clock edge from the rest of the design. -/
structure TypedIn where
  rfdc : RfdcControlIn
  dna : Dna

/-- The outputs of the network controller among the inputs of the command machine. -/
def networkControlIn (n : NetworkConfig) (i : RiscvIn) : RiscvIn :=
  { i with
    networkBusy := n.busy
    networkDone := n.done
    status := { i.status with
      networkStatus := n.status
      networkResultRevision := n.resultRevision
      networkCurrentIp := n.current.ip
      networkCurrentMac := n.current.mac
      networkCurrentSubnet := n.current.subnet
      networkCurrentGateway := n.current.gateway
      networkCurrentPort := n.current.port
      networkDeviceUid := n.deviceUid
      networkBootstrapMac := n.bootstrapMac
      networkStatusFlags := i.status.networkStatusFlags.extractLsb' 2 30 ++ bit n.busy ++ bit n.dnaReady } }

namespace TypedControl

variable (s : TypedControl) (i : TypedIn)

def riscvIn : RiscvIn := networkControlIn s.network (controlIn s.runtime i.rfdc.control)

/-- The outputs of the command machine among the inputs of the network controller. -/
def networkIn : NetworkIn where
  applyStart := s.control.networkApplyStart
  apply := s.control.networkRequest
  restartStart := s.control.networkRestartStart
  playbackArmed := i.rfdc.control.status.playbackArmed
  playbackPrepared := i.rfdc.control.status.playbackPrepared
  playbackRunning := i.rfdc.control.status.playbackRunning
  dna := i.dna

def step (ids : BuildIds) (p : RuntimeParams) : TypedControl where
  control := s.control.step ids (s.riscvIn i)
  runtime := s.runtime.step p (runtimeIn s.control i.rfdc)
  network := s.network.step (s.networkIn i)

end TypedControl

def typedControl (ids : BuildIds) (p : RuntimeParams) : Machine TypedIn TypedControl where
  reset := ⟨.reset, .reset p, .reset⟩
  step s i := s.step i ids p

/-! ## Outcomes and responses -/

/-- The status, the revision and the masks of an RFDC response. -/
structure RfdcReport where
  status : BitVec 16
  revision : BitVec 32
  appliedMask : BitVec 8
  errorMask : BitVec 8
  configValidMask : BitVec 8
  deriving DecidableEq

/-- What a typed response says its command came to. -/
inductive Outcome
  | rfdc (report : RfdcReport)
  | network (status : BitVec 16) (report : NetworkReport)
  deriving DecidableEq

/-- The outcome of the command with this opcode and sequence number. -/
structure TypedReport where
  opcode : BitVec 32
  sequence : BitVec 32
  outcome : Outcome
  deriving DecidableEq

inductive TypedEvent
  | finished (r : TypedReport)
  | reported (r : TypedReport)

/-- Every response reports what a command with its sequence number has come to before. -/
def OwnOutcomes (events : List TypedEvent) : Prop :=
  ∀ before r after, events = before ++ .reported r :: after → .finished r ∈ before

/-- `OwnOutcomes` computed from the front, `seen` being what has finished. -/
def ownOutcomes (seen : List TypedReport) : List TypedEvent → Bool
  | [] => true
  | .finished r :: events => ownOutcomes (r :: seen) events
  | .reported r :: events => r ∈ seen && ownOutcomes seen events

theorem ownOutcomes_iff {seen : List TypedReport} {events : List TypedEvent} : ownOutcomes seen events = true ↔
    ∀ before r after, events = before ++ .reported r :: after → r ∈ seen ∨ .finished r ∈ before := by
  induction events generalizing seen with
  | nil => simp [ownOutcomes]
  | cons event events ih =>
    cases event with
    | finished f =>
      rw [ownOutcomes, ih]
      constructor
      · intro own before r after eq
        cases before with
        | nil => simp at eq
        | cons first before =>
          obtain ⟨rfl, rfl⟩ := List.cons.inj eq
          rcases own before r after rfl with seen | earlier
          · rcases List.mem_cons.mp seen with rfl | seen
            · exact .inr List.mem_cons_self
            · exact .inl seen
          · exact .inr (List.mem_cons_of_mem _ earlier)
      · intro own before r after eq
        rcases own (.finished f :: before) r after (by rw [eq]; rfl) with seen | earlier
        · exact .inl (List.mem_cons_of_mem _ seen)
        · rcases List.mem_cons.mp earlier with same | earlier
          · exact .inl (TypedEvent.finished.inj same ▸ List.mem_cons_self)
          · exact .inr earlier
    | reported f =>
      rw [ownOutcomes, Bool.and_eq_true, decide_eq_true_eq, ih]
      constructor
      · rintro ⟨seen, own⟩ before r after eq
        cases before with
        | nil =>
          obtain ⟨same, -⟩ := List.cons.inj eq
          exact .inl (TypedEvent.reported.inj same ▸ seen)
        | cons first before =>
          obtain ⟨rfl, rfl⟩ := List.cons.inj eq
          exact (own before r after rfl).imp_right (List.mem_cons_of_mem _)
      · intro own
        refine ⟨(own [] f events rfl).resolve_right (by simp), fun before r after eq => ?_⟩
        rcases own (.reported f :: before) r after (by rw [eq]; rfl) with seen | earlier
        · exact .inl seen
        · exact .inr ((List.mem_cons.mp earlier).resolve_left (by simp))

instance (events : List TypedEvent) : Decidable (OwnOutcomes events) :=
  decidable_of_iff (ownOutcomes [] events = true) (by simp [ownOutcomes_iff, OwnOutcomes])

/-- More responses may report what has finished before them. -/
theorem OwnOutcomes.append {events : List TypedEvent} (own : OwnOutcomes events) {reported finished : List TypedReport}
    (known : ∀ r ∈ reported, .finished r ∈ events) :
    OwnOutcomes (events ++ (reported.map .reported ++ finished.map .finished)) := by
  intro before r after eq
  have listed : .reported r ∈ reported.map TypedEvent.reported ++ finished.map .finished → .finished r ∈ events := by
    intro mem
    exact known r (by simpa using mem)
  rcases List.append_eq_append_iff.mp eq with ⟨more, rfl, rest⟩ | ⟨more, rfl, rest⟩
  · have mem := List.mem_append_right more (List.mem_cons_self (a := TypedEvent.reported r) (l := after))
    exact List.mem_append_left _ (listed (rest ▸ mem))
  · cases more with
    | nil =>
      have mem := List.mem_cons_self (a := TypedEvent.reported r) (l := after)
      simpa using listed (by simpa [rest] using mem)
    | cons first more =>
      obtain ⟨rfl, -⟩ := List.cons.inj rest
      exact own before r more rfl

namespace ControlStatus

variable (st : ControlStatus)

def rfdcReport : RfdcReport :=
  ⟨st.rfdcApplyStatus, st.rfdcResultRevision, st.rfdcResultAppliedMask, st.rfdcResultErrorMask, st.rfdcConfigValidMask⟩

def networkReport : NetworkReport :=
  ⟨st.networkResultRevision, ⟨st.networkCurrentIp, st.networkCurrentMac, st.networkCurrentSubnet,
    st.networkCurrentGateway, st.networkCurrentPort⟩, st.networkDeviceUid, st.networkBootstrapMac⟩

end ControlStatus

namespace ResponseRequest

variable (q : ResponseRequest)

/-- The response of an `RFDC_APPLY`. -/
def isRfdcApply : Bool := q.kind = .rfdc && q.opcode = rf2OpRfdcApply

/-- The response of a `NETWORK_APPLY` or a `NETWORK_RESTART`. -/
def isNetworkOperation : Bool :=
  q.kind = .network && (q.opcode = rf2OpNetworkApply || q.opcode = rf2OpNetworkRestart)

/-- What a typed response reports when it is loaded. -/
def typedReport (st : ControlStatus) : Option TypedReport :=
  if q.isRfdcApply then some ⟨q.opcode, q.sequence, .rfdc st.rfdcReport⟩
  else if q.isNetworkOperation then some ⟨q.opcode, q.sequence, .network q.status st.networkReport⟩
  else none

end ResponseRequest

/-- What the RFDC controller has made of a command.  A command that was answered at once has
    applied nothing, whatever the mask still says. -/
def rfdcOutcome (r : RuntimeConfig) : RfdcReport where
  status := r.result.status
  revision := r.result.revision
  appliedMask := if r.cachedResponseValid then r.result.appliedMask else 0
  errorMask := r.result.errorMask
  configValidMask := r.result.configValidMask

namespace TypedControl

variable (s : TypedControl) (i : TypedIn) (p : RuntimeParams)

/-- The commands that finish in this cycle, with their outcomes. -/
def finished : List TypedReport :=
  (if s.runtime.done then [⟨rf2OpRfdcApply, s.control.rfdcRequest.sequence, .rfdc (rfdcOutcome s.runtime)⟩] else []) ++
    (if s.network.takes (s.networkIn i) then
      [⟨s.control.networkResponseOpcode, s.control.networkResponseSequence,
        .network (s.network.step (s.networkIn i)).status (s.network.step (s.networkIn i)).report⟩]
    else [])

/-- What the response that is loaded in this cycle reports. -/
def reported : List TypedReport :=
  if s.control.loads then
    s.control.slots.first.toList.filterMap fun q => q.typedReport (s.riscvIn i).status
  else []

def events : List TypedEvent := (s.reported i).map .reported ++ (s.finished i).map .finished

/-- The responses that are still queued after this cycle. -/
def remaining : List ResponseRequest :=
  (if s.control.loads then s.control.slots.shift else s.control.slots).entries

/-- Nothing changes what a typed response on its way shows, and no apply is answered at once
    while the mask of an earlier one stands. -/
def Undisturbed : Prop :=
  (s.control.rfdcApplyStart = true → s.runtime.state = .idle → ∀ q ∈ s.remaining, q.isRfdcApply = false) ∧
    (s.network.stages (s.networkIn i) = true → ∀ q ∈ s.remaining, q.isNetworkOperation = false) ∧
    ((s.network.commits || s.network.takesDna) = true → s.control.networkResponsePending = false ∧
      ∀ q ∈ s.remaining, q.isNetworkOperation = false) ∧
    (s.runtime.done = true → s.runtime.cachedResponseValid = true ∨ s.runtime.result.appliedMask = 0)

instance : Decidable (s.Undisturbed i) :=
  inferInstanceAs (Decidable ((_ → _ → _) ∧ (_ → _) ∧ (_ → _ ∧ _) ∧ (_ → _ ∨ _)))

end TypedControl

/-! ## The queue -/

/-- Nothing gets into the queue but what is called for. -/
theorem ResponseSlots.mem_step {slots : ResponseSlots} {shifts : Bool} {calls : List ResponseRequest}
    {q : ResponseRequest} (mem : q ∈ (slots.step shifts calls).entries) :
    q ∈ (if shifts then slots.shift else slots).entries ∨ q ∈ calls := by
  unfold ResponseSlots.step at mem
  cases last : calls.getLast? with
  | none =>
    rw [last] at mem
    exact .inl mem
  | some call =>
    rw [last] at mem
    have called : call ∈ calls := List.mem_of_getLast? last
    dsimp only at mem
    split_ifs at mem with first second <;>
      simp only [ResponseSlots.entries, Option.toList_some, List.mem_append, List.mem_singleton] at mem ⊢ <;>
      grind

/-- A response that the decoder queues is not that of an apply or a restart. -/
theorem RiscvControl.decode_untyped {s t : RiscvControl} {i : RiscvIn} {q : ResponseRequest}
    (response : (s.decode i t).response = some q) : q.isRfdcApply = false ∧ q.isNetworkOperation = false := by
  unfold decode at response
  split_ifs at response
  · obtain rfl := Option.some.inj response
    exact ⟨rfl, rfl⟩
  · cases kind : s.cmdKind <;> rw [kind] at response <;> dsimp only at response
    case tdcReg =>
      unfold decodeTdcReg at response
      split_ifs at response <;> obtain rfl := Option.some.inj response <;> exact ⟨rfl, rfl⟩
    case diagSnapshot =>
      unfold decodeDiagSnapshot at response
      split_ifs at response <;> obtain rfl := Option.some.inj response <;> exact ⟨rfl, rfl⟩
    case diagControl =>
      unfold decodeDiagControl at response
      split_ifs at response <;> obtain rfl := Option.some.inj response <;> exact ⟨rfl, rfl⟩
    case networkApply =>
      unfold decodeNetworkApply at response
      split_ifs at response <;> obtain rfl := Option.some.inj response <;> exact ⟨rfl, rfl⟩
    case networkRestart =>
      unfold decodeNetworkRestart at response
      split_ifs at response <;> obtain rfl := Option.some.inj response <;> exact ⟨rfl, rfl⟩
    case rfdcApply =>
      unfold decodeRfdcApply at response
      split_ifs at response <;> obtain rfl := Option.some.inj response <;> exact ⟨rfl, rfl⟩
    case syncEpoch =>
      unfold decodeSyncEpoch at response
      split_ifs at response <;> obtain rfl := Option.some.inj response <;> exact ⟨rfl, rfl⟩
    all_goals
      obtain rfl := Option.some.inj response
      exact ⟨rfl, rfl⟩

theorem RiscvControl.chain_untyped {s t : RiscvControl} {i : RiscvIn} {q : ResponseRequest}
    (response : (s.chain i t).response = some q) : q.isRfdcApply = false ∧ q.isNetworkOperation = false := by
  unfold chain at response
  split_ifs at response
  · obtain rfl := Option.some.inj response
    exact ⟨rfl, rfl⟩
  · obtain rfl := Option.some.inj response
    exact ⟨rfl, rfl⟩
  · exact decode_untyped response

/-- The response of an RFDC apply is queued when the controller is done. -/
theorem RiscvControl.mem_requests {s : RiscvControl} {i : RiscvIn} {q : ResponseRequest} (mem : q ∈ s.requests i) :
    (s.rfdcCompletes i = true ∧ q = rfdcResponse s.rfdcResponseOpcode s.rfdcResponseSequence) ∨
      (s.networkCompletes i = true ∧ q = networkResponse i s.networkResponseOpcode s.networkResponseSequence) ∨
      (q.isRfdcApply = false ∧ q.isNetworkOperation = false) := by
  simp only [requests, List.mem_append, List.mem_ite_nil_right, List.mem_singleton, Option.mem_toList] at mem
  rcases mem with (rfdc | network) | response
  · exact .inl rfdc
  · exact .inr (.inl network)
  · exact .inr (.inr (chain_untyped response))

/-- Without an apply the RFDC controller keeps its result. -/
theorem runtime_result {r : RuntimeConfig} {i : RuntimeIn} (p : RuntimeParams) (outside : r.state.serves = false)
    (quiet : r.state = .idle → i.start = false) :
    (r.step p i).result = r.result ∧ (r.step p i).cachedResponseValid = r.cachedResponseValid := by
  change (r.act p i).result = r.result ∧ (r.act p i).cachedResponseValid = r.cachedResponseValid
  cases now : r.state <;> rw [now] at outside <;> simp only [RuntimeConfig.act, now]
  case idle =>
    simp only [RuntimeConfig.idle, quiet now, Bool.false_eq_true, if_false]
    split_ifs <;> exact ⟨rfl, rfl⟩
  case launch a =>
    cases a <;> first | contradiction | exact ⟨rfl, rfl⟩
  case await a =>
    cases a
    case readyProbe =>
      split_ifs
      · rw [RuntimeConfig.finishAccess, if_neg (by simp)]
        dsimp only [RuntimeConfig.accessed, RuntimeConfig.probed]
        split_ifs <;> exact ⟨rfl, rfl⟩
      · exact ⟨rfl, rfl⟩
    all_goals contradiction
  all_goals contradiction

/-! ## The invariant -/

/-- What a response shows of the RFDC controller. -/
def shown (r : RuntimeConfig) : RfdcReport :=
  ⟨r.result.status, r.result.revision, r.result.appliedMask, r.result.errorMask, r.result.configValidMask⟩

namespace TypedControl

/-- Where the network command is: there is none, or it is started, acknowledged or done, and
    `known` has its outcome. -/
inductive NetworkStage (known : TypedReport → Prop) (s : TypedControl) : Prop
  | rest : s.control.networkResponsePending = false → s.control.networkApplyStart = false →
      s.control.networkRestartStart = false → s.network.operationAckPending = false → s.network.done = false →
      NetworkStage known s
  | started : s.control.networkResponsePending = true →
      (s.control.networkApplyStart || s.control.networkRestartStart) = true → s.network.operationAckPending = false →
      s.network.done = false → s.control.processPending = false → s.control.decodePending = false →
      s.network.restartPending = false → NetworkStage known s
  | acknowledged : s.control.networkResponsePending = true → s.control.networkApplyStart = false →
      s.control.networkRestartStart = false → s.network.operationAckPending = true → s.network.done = false →
      s.control.decodePending = false →
      known ⟨s.control.networkResponseOpcode, s.control.networkResponseSequence,
        .network s.network.status s.network.report⟩ → NetworkStage known s
  | done : s.control.networkResponsePending = true → s.control.networkApplyStart = false →
      s.control.networkRestartStart = false → s.network.operationAckPending = false → s.network.done = true →
      known ⟨s.control.networkResponseOpcode, s.control.networkResponseSequence,
        .network s.network.status s.network.report⟩ → NetworkStage known s

/-- What holds of a run in which nothing disturbs a typed response, `known` being the
    outcomes so far. -/
structure Inv (known : TypedReport → Prop) (s : TypedControl) : Prop where
  consistent : s.control.Consistent
  addressed : s.control.RfdcAddressed
  rests : s.control.rfdcResponsePending = false → s.runtime.Rests ∧ s.control.rfdcApplyStart = false
  fresh : s.control.rfdcApplyStart = true → s.runtime.Rests
  ended : s.runtime.done = true → s.runtime.state.serves = false
  rfdc : ∀ q ∈ s.control.slots.entries, q.isRfdcApply = true →
    known ⟨q.opcode, q.sequence, .rfdc (shown s.runtime)⟩ ∧ s.runtime.state.serves = false
  coherent : s.network.Coherent
  stage : s.NetworkStage known
  network : ∀ q ∈ s.control.slots.entries, q.isNetworkOperation = true →
    known ⟨q.opcode, q.sequence, .network q.status s.network.report⟩

variable {known : TypedReport → Prop} {s : TypedControl} {i : TypedIn}

theorem mem_remaining {q : ResponseRequest} (mem : q ∈ s.remaining) : q ∈ s.control.slots.entries := by
  unfold remaining at mem
  split_ifs at mem
  · simp only [ResponseSlots.shift, ResponseSlots.entries, Option.toList_none, List.append_nil] at mem
    exact List.mem_append_right _ mem
  · exact mem

/-- What a response reports has come to pass. -/
theorem Inv.reported (inv : s.Inv known) {r : TypedReport} (mem : r ∈ s.reported i) : known r := by
  unfold TypedControl.reported at mem
  split_ifs at mem
  · obtain ⟨q, first, report⟩ := List.mem_filterMap.mp mem
    have queued : q ∈ s.control.slots.entries := List.mem_append_left _ first
    unfold ResponseRequest.typedReport at report
    split_ifs at report with rfdc network
    · obtain rfl := Option.some.inj report
      exact (inv.rfdc q queued rfdc).1
    · obtain rfl := Option.some.inj report
      exact inv.network q queued network
  · exact absurd mem List.not_mem_nil

theorem takes_eq : s.network.takes (s.networkIn i) =
    (!s.network.restartPending && (s.control.networkApplyStart || s.control.networkRestartStart)) := rfl

/-- Without a start the network controller takes nothing and stages nothing. -/
theorem unstarted (apply : s.control.networkApplyStart = false) (restart : s.control.networkRestartStart = false) :
    s.network.takes (s.networkIn i) = false ∧ s.network.stages (s.networkIn i) = false := by
  have unapplied : (s.networkIn i).applyStart = false := apply
  rw [takes_eq, apply, restart, NetworkConfig.stages, unapplied]
  simp

variable (ids : BuildIds) (p : RuntimeParams)

/-! ## One clock edge -/

theorem rfdcDone_eq : (s.riscvIn i).rfdcApplyDone = s.runtime.done := rfl

/-- A started apply finds the RFDC controller at rest. -/
theorem Inv.begins_rests (inv : s.Inv known) (starts : s.control.startsRfdc (s.riscvIn i) = true) :
    s.runtime.Rests ∧ s.control.rfdcApplyStart = false :=
  inv.rests (RiscvControl.startsRfdc_spec inv.consistent starts).1

theorem Inv.step_rests (inv : s.Inv known) :
    (s.step i ids p).control.rfdcResponsePending = false →
      (s.step i ids p).runtime.Rests ∧ (s.step i ids p).control.rfdcApplyStart = false := by
  change (s.control.step ids (s.riscvIn i)).rfdcResponsePending = false →
    (s.runtime.step p (runtimeIn s.control i.rfdc)).Rests ∧ (s.control.step ids (s.riscvIn i)).rfdcApplyStart = false
  rw [RiscvControl.step_rfdcResponsePending, RiscvControl.step_rfdcApplyStart, rfdcDone_eq, Bool.or_eq_false_iff]
  rintro ⟨answered, unstarted⟩
  refine ⟨?_, unstarted⟩
  cases pending : s.control.rfdcResponsePending with
  | false =>
    obtain ⟨⟨outside, -⟩, quiet⟩ := inv.rests pending
    exact RuntimeConfig.step_quiet outside fun _ => quiet
  | true =>
    have done : s.runtime.done = true := by
      rw [pending] at answered
      simpa using answered
    refine RuntimeConfig.step_quiet (inv.ended done) fun _ => eq_false_of_ne_true fun start => ?_
    exact Bool.noConfusion ((inv.fresh start).2.symm.trans done)

theorem Inv.step_fresh (inv : s.Inv known) (start : (s.step i ids p).control.rfdcApplyStart = true) :
    (s.step i ids p).runtime.Rests := by
  have starts : s.control.startsRfdc (s.riscvIn i) = true := (RiscvControl.step_rfdcApplyStart).symm.trans start
  obtain ⟨⟨outside, -⟩, quiet⟩ := inv.begins_rests starts
  exact RuntimeConfig.step_quiet outside fun _ => quiet

theorem Inv.step_ended (done : (s.step i ids p).runtime.done = true) :
    (s.step i ids p).runtime.state.serves = false := by
  change (s.runtime.step p (runtimeIn s.control i.rfdc)).done = true at done
  change (s.runtime.step p (runtimeIn s.control i.rfdc)).state.serves = false
  have goes : (s.runtime.step p (runtimeIn s.control i.rfdc)).Goes →
      (s.runtime.step p (runtimeIn s.control i.rfdc)).state.serves = false := by
    rintro (⟨idle, -⟩ | ⟨-, unfinished⟩)
    · rw [idle]
      rfl
    · exact Bool.noConfusion (unfinished.symm.trans done)
  cases serves : s.runtime.state.serves with
  | true => exact goes (RuntimeConfig.step_serves serves)
  | false =>
    by_cases started : s.runtime.state = .idle ∧ s.control.rfdcApplyStart = true
    · exact goes (RuntimeConfig.step_start started.1 started.2)
    · refine (RuntimeConfig.step_quiet serves fun idle => ?_).1
      exact eq_false_of_ne_true fun start => started ⟨idle, start⟩

/-- The responses of RFDC applies go on showing their outcomes. -/
theorem Inv.step_rfdc {next : TypedReport → Prop} (inv : s.Inv known) (calm : s.Undisturbed i)
    (grows : ∀ r, known r → next r) (learns : ∀ r ∈ s.finished i, next r) {q : ResponseRequest}
    (mem : q ∈ (s.step i ids p).control.slots.entries) (typed : q.isRfdcApply = true) :
    next ⟨q.opcode, q.sequence, .rfdc (shown (s.step i ids p).runtime)⟩ ∧
      (s.step i ids p).runtime.state.serves = false := by
  obtain ⟨alone, -, -, clean⟩ := calm
  have kept : s.runtime.state.serves = false → (s.runtime.state = .idle → s.control.rfdcApplyStart = false) →
      shown (s.step i ids p).runtime = shown s.runtime ∧ (s.step i ids p).runtime.state.serves = false := by
    intro outside quiet
    have rests := RuntimeConfig.step_quiet (p := p) (i := runtimeIn s.control i.rfdc) outside quiet
    obtain ⟨result, -⟩ := runtime_result (i := runtimeIn s.control i.rfdc) p outside quiet
    refine ⟨?_, rests.1⟩
    change shown (s.runtime.step p (runtimeIn s.control i.rfdc)) = shown s.runtime
    rw [shown, result, shown]
  rcases ResponseSlots.mem_step mem with waits | called
  · obtain ⟨has, outside⟩ := inv.rfdc q (mem_remaining waits) typed
    obtain ⟨same, after⟩ := kept outside fun idle => eq_false_of_ne_true fun start =>
      Bool.noConfusion ((alone start idle q waits).symm.trans typed)
    rw [same]
    exact ⟨grows _ has, after⟩
  · rcases RiscvControl.mem_requests called with ⟨completes, rfl⟩ | ⟨-, rfl⟩ | ⟨untyped, -⟩
    · rw [RiscvControl.rfdcCompletes, Bool.and_eq_true, rfdcDone_eq] at completes
      obtain ⟨pending, done⟩ := completes
      have quiet : s.control.rfdcApplyStart = false :=
        eq_false_of_ne_true fun start => Bool.noConfusion ((inv.fresh start).2.symm.trans done)
      obtain ⟨same, after⟩ := kept (inv.ended done) fun _ => quiet
      obtain ⟨opcode, sequence⟩ := inv.addressed pending
      have own : rfdcOutcome s.runtime = shown s.runtime := by
        rcases clean done with cached | zero
        · rw [rfdcOutcome, cached]
          rfl
        · rw [rfdcOutcome, zero, ite_self, shown, zero]
      refine ⟨?_, after⟩
      rw [same, ← own]
      apply learns
      rw [finished, done]
      refine List.mem_append_left _ (List.mem_singleton.mpr ?_)
      change TypedReport.mk s.control.rfdcResponseOpcode s.control.rfdcResponseSequence _ = _
      rw [opcode, sequence]
    · exact Bool.noConfusion typed
    · exact Bool.noConfusion (untyped.symm.trans typed)

/-- While a network command is acknowledged or its response waits, the network keeps what it
    shows. -/
theorem Inv.step_report (inv : s.Inv known) (kept : (s.network.commits || s.network.takesDna) = false)
    (unstaged : s.network.stages (s.networkIn i) = false) :
    (s.step i ids p).network.report = s.network.report := by
  rw [Bool.or_eq_false_iff] at kept
  exact NetworkConfig.step_report inv.coherent kept.1 kept.2 unstaged

theorem networkCommand_step : (s.step i ids p).control.networkCommand =
    bif s.control.beginsNetwork (s.riscvIn i) then s.control.startedNetwork
    else
      { s.control.networkCommand with
        applyStart := false
        restartStart := false
        pending := s.control.networkResponsePending && !s.network.done } :=
  RiscvControl.step_networkCommand ids

/-- A network command that is started finds the network controller free. -/
theorem NetworkStage.begins {next : TypedReport → Prop} (coherent : s.network.Coherent)
    (begins : s.control.beginsNetwork (s.riscvIn i) = true) (rests : s.network.takes (s.networkIn i) = false)
    (unacked : s.network.operationAckPending = false) : (s.step i ids p).NetworkStage next := by
  have command := networkCommand_step (s := s) (i := i) ids p
  rw [begins, cond_true] at command
  simp only [RiscvControl.networkCommand, RiscvControl.startedNetwork, RiscvControl.NetworkCommand.mk.injEq] at command
  obtain ⟨apply, restart, pending, -, -⟩ := command
  rw [RiscvControl.beginsNetwork, Bool.and_eq_true] at begins
  obtain ⟨decodes, starts⟩ := begins
  obtain ⟨process, decode⟩ := RiscvControl.step_decoded ids decodes
  have free : s.network.busy = false ∧ (s.control.cmdKind = .networkApply ∨ s.control.cmdKind = .networkRestart) := by
    simp only [RiscvControl.startsNetwork, Bool.and_eq_true, Bool.or_eq_true, Bool.not_eq_true', beq_iff_eq] at starts
    obtain ⟨⟨-, free⟩, ⟨⟨kind, -⟩, -⟩ | ⟨⟨kind, -⟩, -⟩⟩ := starts
    · exact ⟨free, .inl kind⟩
    · exact ⟨free, .inr kind⟩
  have waits : s.network.restartPending = false :=
    eq_false_of_ne_true fun waits => Bool.noConfusion (free.1.symm.trans (coherent.busy waits))
  refine .started pending ?_ ?_ ?_ process decode (NetworkConfig.step_restartPending rests waits)
  · rw [apply, restart]
    rcases free.2 with kind | kind <;> rw [kind] <;> rfl
  · exact NetworkConfig.step_operationAckPending.trans rests
  · exact NetworkConfig.step_done.trans unacked

theorem Inv.step_stage {next : TypedReport → Prop} (inv : s.Inv known) (calm : s.Undisturbed i)
    (grows : ∀ r, known r → next r) (learns : ∀ r ∈ s.finished i, next r) : (s.step i ids p).NetworkStage next := by
  obtain ⟨-, -, settled, -⟩ := calm
  have command := networkCommand_step (s := s) (i := i) ids p
  have done : (s.step i ids p).network.done = s.network.operationAckPending := NetworkConfig.step_done
  have acked : (s.step i ids p).network.operationAckPending = s.network.takes (s.networkIn i) :=
    NetworkConfig.step_operationAckPending
  have undecoded : s.control.decodePending = false → s.control.beginsNetwork (s.riscvIn i) = false := by
    intro decode
    simp [RiscvControl.beginsNetwork, RiscvControl.decodes, decode]
  have kept : s.control.networkResponsePending = true → (s.network.commits || s.network.takesDna) = false :=
    fun pending => eq_false_of_ne_true fun moved => Bool.noConfusion ((settled moved).1.symm.trans pending)
  cases inv.stage with
  | rest answered apply restart unacked unfinished =>
    obtain ⟨rests, -⟩ := unstarted (i := i) apply restart
    cases begins : s.control.beginsNetwork (s.riscvIn i) with
    | true => exact NetworkStage.begins ids p inv.coherent begins rests unacked
    | false =>
      rw [begins, cond_false, RiscvControl.networkCommand, RiscvControl.NetworkCommand.mk.injEq] at command
      obtain ⟨apply', restart', pending', -, -⟩ := command
      rw [answered, Bool.false_and] at pending'
      exact .rest pending' apply' restart' (acked.trans rests) (done.trans unacked)
  | started pending starts unacked unfinished process decode waits =>
    have takes : s.network.takes (s.networkIn i) = true := by
      rw [takes_eq, waits, starts]
      rfl
    rw [undecoded decode, cond_false, RiscvControl.networkCommand, RiscvControl.NetworkCommand.mk.injEq] at command
    obtain ⟨apply', restart', pending', opcode', sequence'⟩ := command
    rw [pending, unfinished] at pending'
    refine .acknowledged pending' apply' restart' (acked.trans takes) (done.trans unacked)
      (RiscvControl.step_unprocessed ids process decode) ?_
    rw [opcode', sequence']
    apply learns
    rw [finished, takes]
    exact List.mem_append_right _ List.mem_cons_self
  | acknowledged pending apply restart waits unfinished decode has =>
    obtain ⟨rests, unstaged⟩ := unstarted (i := i) apply restart
    rw [undecoded decode, cond_false, RiscvControl.networkCommand, RiscvControl.NetworkCommand.mk.injEq] at command
    obtain ⟨apply', restart', pending', opcode', sequence'⟩ := command
    rw [pending, unfinished] at pending'
    refine .done pending' apply' restart' (acked.trans rests) (done.trans waits) ?_
    have status : (s.step i ids p).network.status = s.network.status := NetworkConfig.step_status rests
    rw [opcode', sequence', status, inv.step_report ids p (kept pending) unstaged]
    exact grows _ has
  | done pending apply restart unacked finished has =>
    obtain ⟨rests, -⟩ := unstarted (i := i) apply restart
    cases begins : s.control.beginsNetwork (s.riscvIn i) with
    | true => exact NetworkStage.begins ids p inv.coherent begins rests unacked
    | false =>
      rw [begins, cond_false, RiscvControl.networkCommand, RiscvControl.NetworkCommand.mk.injEq] at command
      obtain ⟨apply', restart', pending', -, -⟩ := command
      rw [pending, finished] at pending'
      exact .rest pending' apply' restart' (acked.trans rests) (done.trans unacked)

/-- The responses of network commands go on showing their outcomes. -/
theorem Inv.step_network {next : TypedReport → Prop} (inv : s.Inv known) (calm : s.Undisturbed i)
    (grows : ∀ r, known r → next r) {q : ResponseRequest} (mem : q ∈ (s.step i ids p).control.slots.entries)
    (typed : q.isNetworkOperation = true) :
    next ⟨q.opcode, q.sequence, .network q.status (s.step i ids p).network.report⟩ := by
  obtain ⟨-, staged, settled, -⟩ := calm
  rcases ResponseSlots.mem_step mem with waits | called
  · have unstaged : s.network.stages (s.networkIn i) = false :=
      eq_false_of_ne_true fun stages => Bool.noConfusion ((staged stages q waits).symm.trans typed)
    have kept : (s.network.commits || s.network.takesDna) = false :=
      eq_false_of_ne_true fun moved => Bool.noConfusion (((settled moved).2 q waits).symm.trans typed)
    rw [inv.step_report ids p kept unstaged]
    exact grows _ (inv.network q (mem_remaining waits) typed)
  · rcases RiscvControl.mem_requests called with ⟨-, rfl⟩ | ⟨completes, rfl⟩ | ⟨-, untyped⟩
    · exact Bool.noConfusion typed
    · rw [RiscvControl.networkCompletes, Bool.and_eq_true] at completes
      obtain ⟨pending, done⟩ := completes
      change s.network.done = true at done
      have kept : (s.network.commits || s.network.takesDna) = false :=
        eq_false_of_ne_true fun moved => Bool.noConfusion ((settled moved).1.symm.trans pending)
      cases inv.stage with
      | rest answered _ _ _ _ => exact Bool.noConfusion (answered.symm.trans pending)
      | started _ _ _ unfinished _ _ _ => exact Bool.noConfusion (unfinished.symm.trans done)
      | acknowledged _ _ _ _ unfinished _ _ => exact Bool.noConfusion (unfinished.symm.trans done)
      | done _ apply restart _ _ has =>
        rw [inv.step_report ids p kept (unstarted apply restart).2]
        exact grows _ has
    · exact Bool.noConfusion (untyped.symm.trans typed)

theorem Inv.step {next : TypedReport → Prop} (inv : s.Inv known) (calm : s.Undisturbed i)
    (grows : ∀ r, known r → next r) (learns : ∀ r ∈ s.finished i, next r) : (s.step i ids p).Inv next where
  consistent := RiscvControl.consistent_step inv.consistent
  addressed := RiscvControl.step_rfdcAddressed ids _ inv.addressed
  rests := inv.step_rests ids p
  fresh := inv.step_fresh ids p
  ended := Inv.step_ended ids p
  rfdc _ mem typed := inv.step_rfdc ids p calm grows learns mem typed
  coherent := inv.coherent.step _
  stage := inv.step_stage ids p calm grows learns
  network _ mem typed := inv.step_network ids p calm grows mem typed

theorem inv_reset : ((typedControl ids p).reset).Inv known where
  consistent := RiscvControl.consistent_reset
  addressed pending := Bool.noConfusion pending
  rests _ := ⟨⟨rfl, rfl⟩, rfl⟩
  fresh start := Bool.noConfusion start
  ended done := Bool.noConfusion done
  rfdc _ mem _ := absurd mem List.not_mem_nil
  coherent := NetworkConfig.coherent_reset
  stage := .rest rfl rfl rfl rfl rfl
  network _ mem _ := absurd mem List.not_mem_nil

end TypedControl

/-- In every run in which nothing disturbs a typed response, each reports the outcome of a
    command with its own sequence number. -/
theorem typed_responses_own (ids : BuildIds) (p : RuntimeParams) (inputs : List TypedIn)
    (calm : (typedControl ids p).Along TypedControl.Undisturbed (typedControl ids p).reset inputs) :
    OwnOutcomes ((typedControl ids p).log TypedControl.events (typedControl ids p).reset inputs) := by
  have own := (typedControl ids p).run_induction (C := TypedControl.Undisturbed)
    (P := fun inputs s =>
      OwnOutcomes ((typedControl ids p).log TypedControl.events (typedControl ids p).reset inputs) ∧
        s.Inv fun r => .finished r ∈ (typedControl ids p).log TypedControl.events (typedControl ids p).reset inputs)
    ⟨fun before _ _ eq => by simp at eq, TypedControl.inv_reset ids p⟩
    (fun inputs i _ before now => by
      obtain ⟨own, inv⟩ := before
      rw [Machine.log_append, Machine.log_cons, Machine.log_nil, List.append_nil]
      refine ⟨own.append fun r mem => inv.reported mem, inv.step ids p now ?_ ?_⟩
      · exact fun r earlier => List.mem_append_left _ earlier
      · exact fun r mem => List.mem_append_right _ (List.mem_append_right _ (List.mem_map_of_mem mem))) inputs calm
  exact own.1

/-! ## A response that shows the next command's outcome -/

/-- A cycle in which the command word `w` arrives, if there is one. -/
def typedCycle (ready : Bool) (w : Option RvctrlWord) : TypedIn where
  rfdc :=
    { control :=
        { (default : RiscvIn) with rvctrlValid := w.isSome, rvctrl := w.getD default, rvrespReady := ready }
      ncoCommitBusy := false
      ncoCommitDone := false
      ncoCommitError := 0
      axil := default }
  dna := default

/-- The words of a `NETWORK_APPLY` to 192.168.1.10. -/
def networkApplyWords (sequence revision : BitVec 32) : List RvctrlWord :=
  [⟨rf2OpNetworkApply ++ rf2Version.zeroExtend 32, true, false, 12, 2⟩,
    ⟨32#32 ++ sequence, false, false, 12, 2⟩,
    ⟨0xC0A8010A#32 ++ revision, false, false, 12, 2⟩,
    ⟨0x0200#32 ++ 1#32, false, false, 12, 2⟩,
    ⟨0xC0A80101#32 ++ 0xFFFFFF00#32, false, false, 12, 2⟩,
    ⟨0#32 ++ 1234#32, false, true, 12, 2⟩]

/-- The command is received, processed, decoded, taken and acknowledged. -/
def applyNetwork (ready : Bool) (sequence revision : BitVec 32) : List TypedIn :=
  (networkApplyWords sequence revision).map (fun w => typedCycle ready (some w)) ++
    List.replicate 7 (typedCycle ready none)

/-- The first response is held back in the output, and the second one waits in the queue
    while the third command is taken. -/
def responseHeld : List TypedIn :=
  applyNetwork false 1 101 ++ applyNetwork false 2 102 ++ applyNetwork false 3 103 ++
    List.replicate 40 (typedCycle true none)

/-- The second response shows the revision of the third command. -/
theorem responseHeld_stale :
    ¬ OwnOutcomes ((typedControl ⟨0, 0, 0⟩ RfdcControl.topParams).log TypedControl.events
      (typedControl ⟨0, 0, 0⟩ RfdcControl.topParams).reset responseHeld) := by
  decide

/-- Two commands, the response of the first having left before the second. -/
def responsesTaken : List TypedIn :=
  applyNetwork true 1 101 ++ List.replicate 14 (typedCycle true none) ++ applyNetwork true 2 102

theorem typed_responses_own_taken :
    OwnOutcomes ((typedControl ⟨0, 0, 0⟩ RfdcControl.topParams).log TypedControl.events
        (typedControl ⟨0, 0, 0⟩ RfdcControl.topParams).reset responsesTaken) ∧
      ((typedControl ⟨0, 0, 0⟩ RfdcControl.topParams).log TypedControl.events
        (typedControl ⟨0, 0, 0⟩ RfdcControl.topParams).reset responsesTaken).length = 4 :=
  ⟨typed_responses_own ⟨0, 0, 0⟩ RfdcControl.topParams responsesTaken (by decide +kernel), by decide +kernel⟩

end Xczu47dr.Control
