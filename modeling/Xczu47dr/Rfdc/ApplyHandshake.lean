import Xczu47dr.Control.ResponseQueue
import Xczu47dr.Rfdc.ApplyProgress

/-! # The RFDC apply handshake

`pl_riscv_control_v1` and `rfdc_runtime_config_pl` as `Top` wires them: on one clock,
`busy` and `done` registered on the one side and `start` on the other.  A command
that the decoder lets through in the very cycle in which the readiness probe begins
is started a cycle too late.
-/

namespace Xczu47dr.Control.RiscvControl

variable {ids : BuildIds} {s t : RiscvControl} {i : RiscvIn}

/-- The command is an RFDC apply that goes to the runtime controller. -/
def acceptsRfdc (s : RiscvControl) (i : RiscvIn) : Bool :=
  s.cmdVersionValid && s.cmdKind == .rfdcApply && s.cmdPayloadBytes == 200 && s.rxExpectedWords == 54 &&
    !s.rfdcPayloadFieldsInvalid && i.status.rfdcReady && i.status.dacMtsReady && !i.status.dacMtsFailed &&
    !i.status.syncAlignBusy && !i.status.syncAlignFailed && !i.status.rfdcApplyBusy

/-- The decoder lets an RFDC apply through in this cycle. -/
def startsRfdc (s : RiscvControl) (i : RiscvIn) : Bool := s.decodes i && s.acceptsRfdc i

/-- The registers of the handshake: `rfdc_apply_start` and `rfdc_response_pending`. -/
def handshake (s : RiscvControl) : Bool × Bool := (s.rfdcApplyStart, s.rfdcResponsePending)

theorem decode_handshake (fresh : t.rfdcApplyStart = false) : (s.decode i t).next.handshake =
    (s.acceptsRfdc i, t.rfdcResponsePending || s.acceptsRfdc i) := by
  have rests {u : RiscvControl} (same : u.handshake = t.handshake) (refuses : s.acceptsRfdc i = false) :
      u.handshake = (s.acceptsRfdc i, t.rfdcResponsePending || s.acceptsRfdc i) := by
    rw [same, refuses, Bool.or_false, handshake, fresh]
  unfold decode
  split
  case isTrue invalid => exact rests rfl (by simp_all [acceptsRfdc])
  case isFalse valid =>
    cases kind : s.cmdKind <;> dsimp only
    case rfdcApply =>
      unfold decodeRfdcApply
      split_ifs with malformed unready busy
      · exact rests rfl (by grind [acceptsRfdc])
      · exact rests rfl (by grind [acceptsRfdc])
      · exact rests rfl (by simp [acceptsRfdc, busy])
      · have accepts : s.acceptsRfdc i = true := by
          simp only [acceptsRfdc, kind]
          simp_all
        rw [accepts, Bool.or_true]
        rfl
    all_goals
      have refuses : s.acceptsRfdc i = false := by simp [acceptsRfdc, kind]
    case tdcReg =>
      dsimp only [decodeTdcReg]
      split_ifs <;> exact rests rfl refuses
    case diagSnapshot =>
      dsimp only [decodeDiagSnapshot]
      split_ifs <;> exact rests rfl refuses
    case diagControl =>
      dsimp only [decodeDiagControl]
      split_ifs <;> exact rests rfl refuses
    case networkApply =>
      dsimp only [decodeNetworkApply]
      split_ifs <;> exact rests rfl refuses
    case networkRestart =>
      dsimp only [decodeNetworkRestart]
      split_ifs <;> exact rests rfl refuses
    case syncEpoch =>
      dsimp only [decodeSyncEpoch]
      split_ifs <;> exact rests rfl refuses
    all_goals exact rests rfl refuses

variable (ids) in
/-- One clock edge: a command that is let through is started, and its answer is
    pending until `done`. -/
theorem step_handshake : (s.step ids i).handshake =
    (s.startsRfdc i, s.rfdcResponsePending && !i.rfdcApplyDone || s.startsRfdc i) := by
  have fresh : (s.settled i).rfdcApplyStart = false := by
    unfold settled accessTdc
    split_ifs <;> rfl
  have pending : (s.settled i).rfdcResponsePending = (s.rfdcResponsePending && !i.rfdcApplyDone) := by
    rw [settled_rfdcResponsePending, rfdcCompletes]
    cases s.rfdcResponsePending <;> rfl
  have rests {u : RiscvControl} (same : u.handshake = (s.settled i).handshake) (waits : s.decodes i = false) :
      u.handshake = (s.startsRfdc i, s.rfdcResponsePending && !i.rfdcApplyDone || s.startsRfdc i) := by
    rw [same, startsRfdc, waits, Bool.false_and, Bool.or_false, handshake, fresh, pending]
  change (s.chain i (s.settled i)).next.handshake = _
  unfold chain
  split_ifs with receives process diag tdc decodes
  · exact rests rfl (by simp [RiscvControl.decodes, receives])
  · exact rests rfl (by simp [RiscvControl.decodes, process])
  · exact rests rfl (by simp [RiscvControl.decodes, diag])
  · exact rests rfl (by simp [RiscvControl.decodes, tdc])
  · have executes : s.decodes i = true := by simp [RiscvControl.decodes, receives, process, diag, tdc, decodes]
    rw [decode_handshake fresh, pending, startsRfdc, executes, Bool.true_and]
  · exact rests rfl (by simp [RiscvControl.decodes, decodes])

theorem step_rfdcApplyStart : (s.step ids i).rfdcApplyStart = s.startsRfdc i :=
  congrArg Prod.fst (step_handshake ids)

theorem step_rfdcResponsePending : (s.step ids i).rfdcResponsePending =
    (s.rfdcResponsePending && !i.rfdcApplyDone || s.startsRfdc i) :=
  congrArg Prod.snd (step_handshake ids)

theorem startsRfdc_spec (held : Consistent s) (starts : s.startsRfdc i = true) :
    s.rfdcResponsePending = false ∧ i.status.rfdcApplyBusy = false := by
  rw [startsRfdc, Bool.and_eq_true] at starts
  obtain ⟨decodes, accepts⟩ := starts
  constructor
  · cases pending : s.rfdcResponsePending with
    | false => rfl
    | true =>
      have idle := (held.blocked pending).2
      simp [RiscvControl.decodes, idle] at decodes
  · rw [acceptsRfdc, Bool.and_eq_true] at accepts
    simpa using accepts.2

end Xczu47dr.Control.RiscvControl

namespace Xczu47dr.Rfdc

open Clocked Machine Control

namespace RuntimeConfig

variable {p : RuntimeParams} {s : RuntimeConfig} {i : RuntimeIn}

/-! ## `start` and `done` -/

/-- The apply is done and the controller idle, or it goes on. -/
def Goes (t : RuntimeConfig) : Prop :=
  t.state = .idle ∧ t.done = true ∨ t.state.serves = true ∧ t.done = false

def Rests (t : RuntimeConfig) : Prop := t.state.serves = false ∧ t.done = false

theorem step_start (idle : s.state = .idle) (start : i.start = true) : Goes (s.step p i) := by
  change Goes (s.act p i)
  simp only [act, idle, RuntimeConfig.idle, if_pos start, accept, answerAtOnce]
  split_ifs
  · exact .inl ⟨idle, rfl⟩
  · exact .inl ⟨idle, rfl⟩
  · exact .inl ⟨idle, rfl⟩
  · exact .inr ⟨rfl, rfl⟩

/-- The probe begins when its count is up. -/
theorem step_idle (idle : s.state = .idle) (rests : i.start = false) :
    (s.step p i).state = if s.readyProbeCount = 0 then .launch .readyProbe else .idle := by
  change (s.act p i).state = _
  simp only [act, idle, RuntimeConfig.idle, rests, Bool.false_eq_true, if_false]
  split_ifs
  · rfl
  · exact idle

/-- Without an apply the controller probes or rests. -/
theorem step_quiet (outside : s.state.serves = false) (quiet : s.state = .idle → i.start = false) :
    Rests (s.step p i) := by
  change Rests (s.act p i)
  cases now : s.state <;> rw [now] at outside <;> simp only [act, now]
  case idle =>
    simp only [RuntimeConfig.idle, quiet now, Bool.false_eq_true, if_false]
    split_ifs
    · exact ⟨rfl, rfl⟩
    · exact ⟨by simp [clearPulses, now, RuntimeState.serves], rfl⟩
  case launch a =>
    cases a <;> first | contradiction | exact ⟨rfl, rfl⟩
  case await a =>
    cases a
    case readyProbe =>
      split_ifs
      · rw [finishAccess, if_neg (by simp)]
        dsimp only [accessed, probed]
        split_ifs <;> exact ⟨rfl, rfl⟩
      · exact ⟨by simp [clearPulses, now, RuntimeState.serves], rfl⟩
    all_goals contradiction
  all_goals contradiction

theorem goes_finishAccess {a : Access} (apply : a ≠ .readyProbe) : Goes (s.finishAccess p s.clearPulses a) := by
  unfold finishAccess
  refine iteInduction (motive := Goes) (fun _ => .inr ⟨rfl, rfl⟩) fun _ => ?_
  cases a
  case readyProbe => contradiction
  case tile =>
    dsimp only [accessed, tileRead]
    split_ifs <;> exact .inr ⟨rfl, rfl⟩
  case rbCfg3 =>
    dsimp only [accessed]
    split_ifs <;> exact .inr ⟨rfl, rfl⟩
  all_goals exact .inr ⟨rfl, rfl⟩

theorem step_serves (serves : s.state.serves = true) : Goes (s.step p i) := by
  change Goes (s.act p i)
  have stays {t : RuntimeConfig} (same : t.state = s.state) (unfinished : t.done = false) : Goes t :=
    .inr ⟨same ▸ serves, unfinished⟩
  cases now : s.state <;> rw [now] at serves <;> simp only [act, now]
  case idle => contradiction
  case validate =>
    unfold validate
    split_ifs
    · exact .inl ⟨rfl, rfl⟩
    · exact .inr ⟨rfl, rfl⟩
  case select =>
    dsimp only [select]
    split_ifs
    · exact .inr ⟨rfl, rfl⟩
    · exact stays rfl rfl
    · exact .inr ⟨rfl, rfl⟩
  case vopPrep =>
    dsimp only [vopPrep]
    split_ifs <;> exact .inr ⟨rfl, rfl⟩
  case calcStep d =>
    dsimp only [calcStep]
    split_ifs <;> exact .inr ⟨rfl, rfl⟩
  case calcDone d =>
    cases d
    case vopQuant =>
      dsimp only [calcDone]
      split_ifs <;> exact .inr ⟨rfl, rfl⟩
    all_goals exact .inr ⟨rfl, rfl⟩
  case launch a =>
    cases a <;> first | contradiction | exact .inr ⟨rfl, rfl⟩
  case await a =>
    split_ifs
    · exact goes_finishAccess (by rintro rfl; contradiction)
    · exact stays rfl rfl
  case vopDelay =>
    unfold vopDelay
    split_ifs
    · exact .inr ⟨rfl, rfl⟩
    · exact stays rfl rfl
  case channelDone =>
    dsimp only [channelDone]
    split_ifs <;> exact .inr ⟨rfl, rfl⟩
  case ncoCommitStart =>
    unfold ncoCommitStart
    split_ifs
    · exact .inr ⟨rfl, rfl⟩
    · exact stays rfl rfl
  case ncoCommitWait =>
    unfold ncoCommitWait
    split_ifs
    · exact stays rfl rfl
    · exact .inr ⟨rfl, rfl⟩
    · exact .inr ⟨rfl, rfl⟩
  case finish => exact .inl ⟨rfl, rfl⟩
  all_goals exact .inr ⟨rfl, rfl⟩

end RuntimeConfig

/-! ## The two machines together -/

/-- The registers of both. -/
structure RfdcControl where
  control : RiscvControl
  runtime : RuntimeConfig

/-- What both sample at one clock edge from the rest of the design. -/
structure RfdcControlIn where
  control : RiscvIn
  ncoCommitBusy : Bool
  ncoCommitDone : Bool
  ncoCommitError : BitVec 2
  axil : AxilIn

/-- The outputs of the runtime controller among the inputs of the command machine;
    `rfdc_ready` is `rfdc_operational_ready`. -/
def controlIn (r : RuntimeConfig) (i : RiscvIn) : RiscvIn :=
  { i with
    rfdcApplyDone := r.done
    status := { i.status with
      rfdcApplyBusy := r.busy
      rfdcApplyStatus := r.result.status
      rfdcResultRevision := r.result.revision
      rfdcResultAppliedMask := r.result.appliedMask
      rfdcResultErrorMask := r.result.errorMask
      rfdcConfigValidMask := r.result.configValidMask
      rfdcFailureStage := r.result.failureStage
      rfdcFailureAddress := r.result.failureAddress
      rfdcFailureAxiResponse := r.result.failureAxiResponse
      rfdcReady := r.rfdcReady && i.status.dacMtsRequired && i.status.dacMtsReady && !i.status.dacMtsFailed
      rfdcChannels := fun c =>
        { actualNcoHz := r.actual.ncoHz c
          actualNyquistZone := r.actual.nyquistZone c
          actualPhaseMdeg := r.actual.phaseMdeg c
          actualCurrentUa := r.actual.currentUa c
          channelStatus := r.result.channelStatus c
          actualNcoWord := r.actual.ncoWord c
          actualPhaseWord := r.actual.phaseWord c
          actualVopCode := r.actual.vopCode c } } }

/-- The outputs of the command machine among the inputs of the runtime controller. -/
def runtimeIn (c : RiscvControl) (i : RfdcControlIn) : RuntimeIn where
  start := c.rfdcApplyStart
  cmd := c.rfdcRequest
  playbackArmed := i.control.status.playbackArmed
  playbackRunning := i.control.status.playbackRunning
  ncoCommitBusy := i.ncoCommitBusy
  ncoCommitDone := i.ncoCommitDone
  ncoCommitError := i.ncoCommitError
  axil := i.axil

def rfdcControl (ids : BuildIds) (p : RuntimeParams) : Machine RfdcControlIn RfdcControl where
  reset := ⟨.reset, .reset p⟩
  step s i := ⟨s.control.step ids (controlIn s.runtime i.control), s.runtime.step p (runtimeIn s.control i)⟩

namespace RfdcControl

variable {ids : BuildIds} {p : RuntimeParams} {s : RfdcControl} {i : RfdcControlIn}

/-! ## The stages of an apply -/

/-- What holds of both machines in every reachable state. -/
structure Wired (p : RuntimeParams) (s : RfdcControl) : Prop where
  consistent : RiscvControl.Consistent s.control
  awaited : s.control.rfdcApplyStart = true → s.control.rfdcResponsePending = true
  ported : s.runtime.Ported p
  sound : s.runtime.Sound

/-- Where an apply stands: there is none, it is started, served, or done. -/
inductive Stage (s : RfdcControl) : Prop
  | quiet : s.control.rfdcApplyStart = false → s.control.rfdcResponsePending = false → s.runtime.Rests → Stage s
  | started : s.control.rfdcApplyStart = true → s.control.rfdcResponsePending = true →
      s.runtime.state = .idle → s.runtime.done = false → Stage s
  | served : s.control.rfdcApplyStart = false → s.control.rfdcResponsePending = true →
      s.runtime.state.serves = true → s.runtime.done = false → Stage s
  | done : s.control.rfdcApplyStart = false → s.control.rfdcResponsePending = true →
      s.runtime.state = .idle → s.runtime.done = true → Stage s

/-- The decoder lets an apply through in this cycle. -/
def Starts (s : RfdcControl) (i : RfdcControlIn) : Prop :=
  s.control.startsRfdc (controlIn s.runtime i.control) = true

/-- No apply is let through in the cycle in which the readiness probe begins. -/
def Unprobed (s : RfdcControl) (i : RfdcControlIn) : Prop := s.Starts i → s.runtime.readyProbeCount ≠ 0

theorem wired_reset : Wired p (rfdcControl ids p).reset :=
  ⟨RiscvControl.consistent_reset, nofun, RuntimeConfig.ported_reset, RuntimeConfig.sound_of_not_serves rfl⟩

variable (ids p s i) in
theorem step_start : ((rfdcControl ids p).step s i).control.rfdcApplyStart =
    s.control.startsRfdc (controlIn s.runtime i.control) :=
  RiscvControl.step_rfdcApplyStart

variable (ids p s i) in
theorem step_pending : ((rfdcControl ids p).step s i).control.rfdcResponsePending =
    (s.control.rfdcResponsePending && !s.runtime.done ||
      s.control.startsRfdc (controlIn s.runtime i.control)) :=
  RiscvControl.step_rfdcResponsePending

theorem wired_step (held : Wired p s) : Wired p ((rfdcControl ids p).step s i) := by
  refine ⟨RiscvControl.consistent_step held.consistent, fun starts => ?_,
    RuntimeConfig.ported_step held.ported,
    RuntimeConfig.sound_step held.sound (RuntimeConfig.moves_step held.ported)⟩
  rw [step_start] at starts
  rw [step_pending, starts, Bool.or_true]

/-- An apply is let through when none is pending and the controller is idle. -/
theorem idle_of_starts (held : Wired p s) (starts : s.Starts i) :
    s.control.rfdcApplyStart = false ∧ s.control.rfdcResponsePending = false ∧ s.runtime.state = .idle := by
  obtain ⟨pending, busy⟩ := RiscvControl.startsRfdc_spec held.consistent starts
  refine ⟨?_, pending, ?_⟩
  · cases start : s.control.rfdcApplyStart with
    | false => rfl
    | true => exact absurd (held.awaited start) (by simp [pending])
  · change s.runtime.busy = false at busy
    rw [held.ported.busy] at busy
    simpa using busy

theorem stage_step (held : Wired p s) (stage : Stage s) (unprobed : Unprobed s i) :
    Stage ((rfdcControl ids p).step s i) := by
  have start := step_start ids p s i
  have pending := step_pending ids p s i
  by_cases starts : s.Starts i
  · obtain ⟨fresh, -, idle⟩ := idle_of_starts held starts
    have later := RuntimeConfig.step_idle (p := p) (i := runtimeIn s.control i) idle fresh
    rw [if_neg (unprobed starts)] at later
    rw [Starts] at starts
    rw [starts] at start pending
    rw [Bool.or_true] at pending
    exact .started start pending later (RuntimeConfig.step_quiet (by rw [idle]; rfl) fun _ => fresh).2
  · rw [Starts, Bool.not_eq_true] at starts
    rw [starts] at start pending
    rw [Bool.or_false] at pending
    cases stage with
    | quiet fresh free rests =>
      rw [free, Bool.false_and] at pending
      exact .quiet start pending (RuntimeConfig.step_quiet rests.1 fun _ => fresh)
    | started fresh waits idle unfinished =>
      rw [waits, unfinished] at pending
      obtain ⟨later, done⟩ | ⟨later, done⟩ :=
        RuntimeConfig.step_start (p := p) (i := runtimeIn s.control i) idle fresh
      · exact .done start pending later done
      · exact .served start pending later done
    | served _ waits serves unfinished =>
      rw [waits, unfinished] at pending
      obtain ⟨later, done⟩ | ⟨later, done⟩ :=
        RuntimeConfig.step_serves (p := p) (i := runtimeIn s.control i) serves
      · exact .done start pending later done
      · exact .served start pending later done
    | done fresh _ idle finished =>
      rw [finished, Bool.not_true, Bool.and_false] at pending
      exact .quiet start pending (RuntimeConfig.step_quiet (by rw [idle]; rfl) fun _ => fresh)

/-! ## Endless runs -/

/-- The apply started at `n` is answered by the `done` at `m`: its answer is pending
    from the one to the other and no longer, and no other `done` comes before the next start. -/
structure AnsweredAt (σ : Nat → RfdcControl) (n m : Nat) : Prop where
  later : n < m
  done : (σ m).runtime.done = true
  once : ∀ k, n < k → (σ k).runtime.done = true →
    (∀ j, n < j → j < k → (σ j).control.rfdcApplyStart = false) → k = m
  pending : ∀ k, n ≤ k → k ≤ m → (σ k).control.rfdcResponsePending = true
  released : (σ (m + 1)).control.rfdcResponsePending = false

/-- No apply wedges the control plane. -/
structure Served (σ : Nat → RfdcControl) : Prop where
  /-- The runtime controller takes every apply that is started. -/
  taken : ∀ n, (σ n).control.rfdcApplyStart = true → (σ n).runtime.state = .idle
  /-- One `done` answers it. -/
  answered : ∀ n, (σ n).control.rfdcApplyStart = true → ∃ m, AnsweredAt σ n m
  /-- The control port does not stay dead. -/
  freed : ∀ n, (σ n).control.rfdcResponsePending = true → ∃ m, n ≤ m ∧ (σ m).control.rfdcResponsePending = false

variable {inputs : Nat → RfdcControlIn}

/-- The registers of both machines, from reset on. -/
abbrev states (ids : BuildIds) (p : RuntimeParams) (inputs : Nat → RfdcControlIn) : Nat → RfdcControl :=
  (rfdcControl ids p).trace inputs

/-- Every NCO commit the runtime controller starts finishes. -/
def CommitsFinish (ids : BuildIds) (p : RuntimeParams) (inputs : Nat → RfdcControlIn) : Prop :=
  RuntimeConfig.CommitsFinish (fun n => (states ids p inputs n).runtime)
    fun n => runtimeIn (states ids p inputs n).control (inputs n)

theorem wired_trace (n : Nat) : Wired p (states ids p inputs n) :=
  trace_invariant _ inputs wired_reset (fun _ _ => wired_step) n

theorem follow_trace : RuntimeConfig.Follow p (fun n => (states ids p inputs n).runtime)
    fun n => runtimeIn (states ids p inputs n).control (inputs n) :=
  ⟨fun _ => rfl, fun n => (wired_trace n).ported, fun n => (wired_trace n).sound⟩

theorem stage_trace (unprobed : ∀ n, Unprobed (states ids p inputs n) (inputs n)) (n : Nat) :
    Stage (states ids p inputs n) := by
  induction n with
  | zero => exact .quiet rfl rfl ⟨rfl, rfl⟩
  | succ n ih => exact stage_step (wired_trace n) ih (unprobed n)

/-- While an answer is pending and `done` has not come, it stays pending. -/
theorem pending_next {n : Nat} (pending : (states ids p inputs n).control.rfdcResponsePending = true)
    (unfinished : (states ids p inputs n).runtime.done = false) :
    (states ids p inputs (n + 1)).control.rfdcResponsePending = true := by
  rw [states, trace_succ, step_pending, pending, unfinished]
  rfl

/-- No apply is started while an answer is pending. -/
theorem start_next {n : Nat} (pending : (states ids p inputs n).control.rfdcResponsePending = true) :
    (states ids p inputs (n + 1)).control.rfdcApplyStart = false := by
  rw [states, trace_succ, step_start]
  cases starts : (states ids p inputs n).control.startsRfdc
      (controlIn (states ids p inputs n).runtime (inputs n).control) with
  | false => rfl
  | true =>
    have free := (idle_of_starts (wired_trace n) starts).2.1
    rw [free] at pending
    contradiction

theorem exists_done (finish : CommitsFinish ids p inputs)
    (unprobed : ∀ n, Unprobed (states ids p inputs n) (inputs n)) {n : Nat}
    (pending : (states ids p inputs n).control.rfdcResponsePending = true) :
    ∃ m, n ≤ m ∧ (states ids p inputs m).runtime.done = true := by
  by_contra never
  simp only [not_exists, not_and, Bool.not_eq_true] at never
  have waits (k : Nat) (later : n ≤ k) : (states ids p inputs k).control.rfdcResponsePending = true :=
    lasts (P := fun k => (states ids p inputs k).control.rfdcResponsePending = true) pending k later
      fun j from_n _ waiting => pending_next waiting (never j from_n)
  have serves (k : Nat) (later : n ≤ k) : (states ids p inputs (k + 1)).runtime.state.serves = true := by
    have pending := waits (k + 1) (by omega)
    cases stage_trace unprobed (k + 1) with
    | quiet _ free _ => exact Bool.noConfusion (pending.symm.trans free)
    | started start _ _ _ => exact Bool.noConfusion (start.symm.trans (start_next (waits k later)))
    | served _ _ serves _ => exact serves
    | done _ _ _ done => exact Bool.noConfusion (done.symm.trans (never (k + 1) (by omega)))
  obtain ⟨m, later, ends⟩ := follow_trace.ends finish (n + 1) (serves n le_rfl)
  obtain ⟨k, rfl⟩ := Nat.exists_eq_add_of_le' (show 1 ≤ m by omega)
  exact Bool.noConfusion ((serves k (by omega)).symm.trans ends)

theorem quiet_next (unprobed : ∀ n, Unprobed (states ids p inputs n) (inputs n)) {m : Nat}
    (done : (states ids p inputs m).runtime.done = true) :
    (states ids p inputs (m + 1)).control.rfdcApplyStart = false ∧
      (states ids p inputs (m + 1)).control.rfdcResponsePending = false := by
  have pending : (states ids p inputs m).control.rfdcResponsePending = true := by
    cases stage_trace unprobed m with
    | quiet _ _ rests => exact Bool.noConfusion (done.symm.trans rests.2)
    | started _ pending _ _ | served _ pending _ _ | done _ pending _ _ => exact pending
  have start := start_next pending
  refine ⟨start, ?_⟩
  have next := step_pending ids p (states ids p inputs m) (inputs m)
  rw [states, trace_succ, step_start] at start
  rw [start, pending, done] at next
  exact next

/-- After `done` no other one comes before the next start. -/
theorem silent_after (unprobed : ∀ n, Unprobed (states ids p inputs n) (inputs n)) {m : Nat}
    (done : (states ids p inputs m).runtime.done = true) {k : Nat} (later : m < k)
    (unstarted : ∀ j, m < j → j < k → (states ids p inputs j).control.rfdcApplyStart = false) :
    (states ids p inputs k).runtime.done = false := by
  -- until the next start the stage is the quiet one
  have quiet : (states ids p inputs k).control.rfdcResponsePending = true →
      (states ids p inputs k).control.rfdcApplyStart = true := by
    obtain ⟨d, rfl⟩ := Nat.exists_eq_add_of_le (show m + 1 ≤ k from later)
    clear later
    induction d with
    | zero => exact fun pending => Bool.noConfusion (pending.symm.trans (quiet_next unprobed done).2)
    | succ d ih =>
      intro pending
      have before := ih fun j after early => unstarted j after (by omega)
      have free : (states ids p inputs (m + 1 + d)).control.rfdcResponsePending = false := by
        rw [← Bool.not_eq_true]
        intro waits
        exact Bool.noConfusion ((before waits).symm.trans (unstarted (m + 1 + d) (by omega) (by omega)))
      rw [← Nat.add_assoc, states, trace_succ, step_pending, free, Bool.false_and, Bool.false_or] at pending
      rw [← Nat.add_assoc, states, trace_succ, step_start, pending]
  cases stage_trace unprobed k with
  | quiet _ _ rests => exact rests.2
  | started _ _ _ unfinished | served _ _ _ unfinished => exact unfinished
  | done start pending _ _ => exact Bool.noConfusion (start.symm.trans (quiet pending))

/-- Every pending answer comes and is the only one. -/
theorem answered_of_pending (finish : CommitsFinish ids p inputs)
    (unprobed : ∀ n, Unprobed (states ids p inputs n) (inputs n)) {n : Nat}
    (pending : (states ids p inputs n).control.rfdcResponsePending = true)
    (fresh : (states ids p inputs n).runtime.done = false) : ∃ m, AnsweredAt (states ids p inputs) n m := by
  obtain ⟨m, later, done, first⟩ := exists_first (exists_done finish unprobed pending)
  refine ⟨m, ⟨lt_of_le_of_ne later ?_, done, fun k after answers unstarted => ?_, fun k from_n to_m => ?_,
    (quiet_next unprobed done).2⟩⟩
  · rintro rfl
    exact Bool.noConfusion (done.symm.trans fresh)
  · rcases lt_trichotomy k m with before | same | beyond
    · exact absurd answers (first k (by omega) before)
    · exact same
    · have silent := silent_after unprobed done beyond fun j after early => unstarted j (by omega) early
      exact Bool.noConfusion (answers.symm.trans silent)
  · exact lasts (P := fun k => (states ids p inputs k).control.rfdcResponsePending = true) pending k from_n
      fun j from_j before waits => pending_next waits (Bool.not_eq_true _ ▸ first j from_j (by omega))

/-- An apply never wedges the control plane, exactly when none is let through in the
    cycle in which the readiness probe begins. -/
theorem served_iff_unprobed (ids : BuildIds) (p : RuntimeParams) (inputs : Nat → RfdcControlIn)
    (finish : CommitsFinish ids p inputs) : Served (states ids p inputs) ↔
      ∀ n, Unprobed (states ids p inputs n) (inputs n) := by
  constructor
  · intro served n starts probes
    -- the probe begins as the apply is let through, and the start comes a cycle too late
    obtain ⟨fresh, -, idle⟩ := idle_of_starts (wired_trace n) starts
    have late : (states ids p inputs (n + 1)).control.rfdcApplyStart = true := by
      rw [states, trace_succ, step_start]
      exact starts
    have probing := RuntimeConfig.step_idle (p := p)
      (i := runtimeIn (states ids p inputs n).control (inputs n)) idle fresh
    rw [if_pos probes] at probing
    exact absurd (probing.symm.trans (served.taken (n + 1) late)) nofun
  · intro unprobed
    refine ⟨fun n start => ?_, fun n start => ?_, fun n pending => ?_⟩
    · cases stage_trace unprobed n with
      | quiet fresh _ _ | served fresh _ _ _ | done fresh _ _ _ =>
        exact Bool.noConfusion (start.symm.trans fresh)
      | started _ _ idle _ => exact idle
    · cases stage_trace unprobed n with
      | quiet fresh _ _ | served fresh _ _ _ | done fresh _ _ _ =>
        exact Bool.noConfusion (start.symm.trans fresh)
      | started _ pending _ unfinished => exact answered_of_pending finish unprobed pending unfinished
    · obtain ⟨m, later, done⟩ := exists_done finish unprobed pending
      exact ⟨m + 1, by omega, (quiet_next unprobed done).2⟩

/-! ## The probe and an apply in one cycle -/

/-- All tiles are up, the DACs are aligned, and every NCO commit is done at once. -/
def tilesUp (i : RiscvIn) : RfdcControlIn where
  control := { i with status := { i.status with dacMtsRequired := true, dacMtsReady := true } }
  ncoCommitBusy := false
  ncoCommitDone := true
  ncoCommitError := 0
  axil := { (default : AxilIn) with arready := true, rdata := 0xF, rvalid := true }

def waiting : RfdcControlIn := tilesUp default

/-- An apply for the first channel: NCO at zero, first Nyquist zone, 20 mA. -/
def applyWords : List (BitVec 64) :=
  [3#32 ++ 3#32, 200#32 ++ 1#32, 1#32 ++ 1#32, 0, 0#32 ++ 1#32, 0#32 ++ 20000#32] ++ List.replicate 21 0

def applyCommand : List RfdcControlIn :=
  applyWords.mapIdx fun k word =>
    tilesUp { (default : RiscvIn) with rvctrlValid := true, rvctrl := ⟨word, k == 0, k == 26, 54, 2⟩ }

/-- The parameters `Top` gives `rfdc_runtime_config_pl`. -/
def topParams : RuntimeParams where
  clockHz := 300120048
  axiTimeoutCycles := 100000
  readyProbeIntervalCycles := 300120048
  timeout_pos := by decide
  timeout_lt := by decide
  interval_pos := by decide
  interval_lt := by decide

/-- The command arrives after `n` cycles. -/
def applyAfter (n : Nat) : Nat → RfdcControlIn := endless (List.replicate n waiting ++ applyCommand) waiting

theorem commitsFinish_applyAfter (n : Nat) : CommitsFinish ids p (applyAfter n) := by
  have up (k : Nat) : (applyAfter n k).ncoCommitBusy = false ∧ (applyAfter n k).ncoCommitDone = true := by
    have words : ∀ i ∈ applyCommand, i.ncoCommitBusy = false ∧ i.ncoCommitDone = true := by decide
    rw [applyAfter, endless]
    by_cases within : k < (List.replicate n waiting ++ applyCommand).length
    · rw [List.getD_eq_getElem _ _ within]
      rcases List.mem_append.mp (List.getElem_mem within) with waits | word
      · rw [List.eq_of_mem_replicate waits]
        exact ⟨rfl, rfl⟩
      · exact words _ word
    · rw [List.getD_eq_default _ _ (by omega)]
      exact ⟨rfl, rfl⟩
  exact ⟨fun k _ => ⟨k, le_rfl, (up k).1⟩, fun k _ => ⟨k, le_rfl, (up k).2⟩⟩

/-- The command machine rests while no word comes. -/
theorem run_waiting (n : Nat) (r : RuntimeConfig) :
    (rfdcControl ids p).run ⟨.reset, r⟩ (List.replicate n waiting) =
      ⟨.reset, (runtimeConfig p).run r (List.replicate n (runtimeIn .reset waiting))⟩ := by
  induction n generalizing r with
  | zero => rfl
  | succ n ih => exact ih _

/-- The controller idle, with nothing in flight and `count` cycles to go to the next probe. -/
def resting (r : RuntimeConfig) (count : Nat) : RuntimeConfig :=
  { r with
    state := .idle
    busy := false
    done := false
    forceMutePulse := false
    axi := { r.axi with start := false }
    ncoCommit := { r.ncoCommit with start := false }
    transaction := { r.transaction with busy := false, done := false }
    readyProbeCount := count }

theorem run_resting (r : RuntimeConfig) (n count : Nat) :
    (runtimeConfig p).run (resting r (count + n)) (List.replicate n (runtimeIn .reset waiting)) =
      resting r count := by
  induction n with
  | zero => rfl
  | succ n ih => exact ih

def probed (p : RuntimeParams) : RuntimeConfig :=
  (runtimeConfig p).run (resting (.reset p) 0) (List.replicate 17 (runtimeIn .reset waiting))

/-- An idle controller with nothing in flight. -/
structure Idle (r : RuntimeConfig) : Prop where
  state : r.state = .idle
  busy : r.busy = false
  done : r.done = false
  mute : r.forceMutePulse = false
  start : r.axi.start = false
  commit : r.ncoCommit.start = false
  free : r.transaction.busy = false
  fresh : r.transaction.done = false

theorem resting_self {r : RuntimeConfig} (idle : Idle r) : resting r r.readyProbeCount = r := by
  obtain ⟨state, busy, done, mute, start, commit, free, fresh⟩ := idle
  have axi : ({ r.axi with start := false } : AxilCommand) = r.axi := by rw [← start]
  have commits : ({ r.ncoCommit with start := false } : NcoCommit) = r.ncoCommit := by rw [← commit]
  have transaction : ({ r.transaction with busy := false, done := false } : AxilTransaction) = r.transaction := by
    revert free fresh
    cases r.transaction
    rintro rfl rfl
    rfl
  unfold resting
  rw [axi, commits, transaction]
  cases r
  dsimp only at state busy done mute
  subst state busy done mute
  rfl

theorem idle_probed : Idle (probed topParams) ∧ (probed topParams).readyProbeCount = 300120047 :=
  ⟨⟨by decide, by decide, by decide, by decide, by decide,
    by decide, by decide, by decide⟩, by decide⟩

/-- The wait for the first probe, the probe, and a part of the wait for the next one. -/
theorem run_to_probe (ids : BuildIds) (n count : Nat) (sum : count + n = 300120047) :
    (rfdcControl ids topParams).run (rfdcControl ids topParams).reset
      (List.replicate (300120047 + 17 + n) waiting) = ⟨.reset, resting (probed topParams) count⟩ := by
  obtain ⟨idle, full⟩ := idle_probed
  have first := run_resting (p := topParams) (.reset topParams) 300120047 0
  have second := run_resting (p := topParams) (probed topParams) n count
  have begins : resting (.reset topParams) (0 + 300120047) = .reset topParams := rfl
  rw [begins] at first
  rw [sum, ← full, resting_self idle] at second
  change (rfdcControl ids topParams).run ⟨.reset, .reset topParams⟩ _ = _
  rw [run_waiting, List.replicate_add, List.replicate_add, run_append, run_append, first]
  exact congrArg (RfdcControl.mk .reset) second

theorem states_applyAfter (n k : Nat) : states ids p (applyAfter n) (n + 27 + k) =
    (rfdcControl ids p).run ((rfdcControl ids p).run (rfdcControl ids p).reset (List.replicate n waiting))
      (applyCommand ++ List.replicate k waiting) := by
  have length : (List.replicate n waiting ++ applyCommand).length = n + 27 := by
    rw [List.length_append, List.length_replicate]
    rfl
  rw [states, applyAfter, trace_endless, length, List.take_of_length_le (by omega),
    show n + 27 + k - (n + 27) = k by omega, List.append_assoc, run_append]

/-- Two seconds after the reset: the command is let through in the cycle in which the
    second probe begins. -/
theorem applyAtProbe_not_served : CommitsFinish ⟨0, 0, 0⟩ topParams (applyAfter 600240083) ∧
    ¬ Served (states ⟨0, 0, 0⟩ topParams (applyAfter 600240083)) := by
  refine ⟨commitsFinish_applyAfter _, fun served => ?_⟩
  have taken := served.taken (600240083 + 27 + 2)
  rw [states_applyAfter, show 600240083 = 300120047 + 17 + 300120019 from rfl,
    run_to_probe _ 300120019 28 rfl] at taken
  revert taken
  decide

def Vacant (s : RfdcControl) : Prop := s.control.processPending = false ∧ s.control.decodePending = false

instance : Decidable (Vacant s) := inferInstanceAs (Decidable (_ ∧ _))

theorem vacant_next (vacant : Vacant s) : Vacant ((rfdcControl ids p).step s waiting) := by
  obtain ⟨process, decode⟩ := vacant
  change ((s.control.chain _ (s.control.settled _)).next).processPending = false ∧
    ((s.control.chain _ (s.control.settled _)).next).decodePending = false
  have kept : (s.control.settled (controlIn s.runtime waiting.control)).processPending = false :=
    (congrArg RiscvControl.CommandRegisters.processPending RiscvControl.settled_command).trans process
  have idle : (s.control.settled (controlIn s.runtime waiting.control)).decodePending = false :=
    RiscvControl.settled_decodePending.trans decode
  unfold RiscvControl.chain
  split_ifs with receives busy diag tdc decodes
  · simp [RiscvControl.receives, controlIn, waiting, tilesUp] at receives
    exact Bool.noConfusion receives.1
  · exact Bool.noConfusion (busy.symm.trans process)
  · exact ⟨kept, idle⟩
  · exact ⟨kept, idle⟩
  · exact Bool.noConfusion (decodes.symm.trans decode)
  · exact ⟨kept, idle⟩

theorem unprobed_of_vacant (vacant : Vacant s) (i : RfdcControlIn) : Unprobed s i := by
  intro starts
  simp [Starts, RiscvControl.startsRfdc, RiscvControl.decodes, vacant.2] at starts

instance : Decidable (Unprobed s i) := inferInstanceAs (Decidable (_ = true → _ ≠ 0))

theorem along_waiting (s : RfdcControl) (vacant : Vacant s) (n : Nat) :
    (rfdcControl ids p).Along Unprobed s (List.replicate n waiting) := by
  induction n generalizing s with
  | zero => trivial
  | succ n ih => exact ⟨unprobed_of_vacant vacant _, ih _ (vacant_next vacant)⟩

theorem vacant_run (s : RfdcControl) (vacant : Vacant s) (n : Nat) :
    Vacant ((rfdcControl ids p).run s (List.replicate n waiting)) := by
  induction n generalizing s with
  | zero => exact vacant
  | succ n ih => exact ih _ (vacant_next vacant)

/-- One cycle earlier the apply is served. -/
theorem applyBeforeProbe_served : Served (states ⟨0, 0, 0⟩ topParams (applyAfter 600240082)) := by
  refine (served_iff_unprobed _ _ _ (commitsFinish_applyAfter _)).mpr ?_
  have waited := run_to_probe ⟨0, 0, 0⟩ 300120018 29 rfl
  refine trace_endless_along _ ?_ fun k => ?_
  · rw [along_append, show 600240082 = 300120047 + 17 + 300120018 from rfl, waited]
    exact ⟨along_waiting _ ⟨rfl, rfl⟩ _, by decide⟩
  · rw [run_append, show 600240082 = 300120047 + 17 + 300120018 from rfl, waited]
    match k with
    | 0 => decide
    | 1 => decide
    | k + 2 =>
      have vacant : Vacant ((rfdcControl ⟨0, 0, 0⟩ topParams).run
          ((rfdcControl ⟨0, 0, 0⟩ topParams).run ⟨.reset, resting (probed topParams) 29⟩ applyCommand)
          (List.replicate 2 waiting)) := by decide
      rw [Nat.add_comm k 2, List.replicate_add, run_append]
      exact unprobed_of_vacant (vacant_run _ vacant k) waiting

end RfdcControl

end Xczu47dr.Rfdc
