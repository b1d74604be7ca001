import Xczu47dr.Tdc.RegisterPath
import Xczu47dr.Tdc.RegisterPhases

/-! # Register accesses are performed once

A register command is meant to be one atomic access: issued, performed once as it
was issued, and answered with its own reply, or given up and never performed
again.  The service is that as long as the sample half is reset only with the
request toggle down, the port takes accesses only from a sample half it sees out
of reset, and no access outlives its time.
-/

namespace Xczu47dr.Tdc

open Clocked Xczu47dr.Control

/-! ## Atomic accesses -/

/-- What happens to register accesses. -/
inductive AccessEvent
  | issued (c : TdcCommand)
  | performed (a : Access) (r : Reply)
  | answered (q : ResponseRequest)

/-- No command is open, or one is, and has been performed with the reply if there is one. -/
inductive AccessState
  | free
  | opened (c : TdcCommand) (reply : Option Reply)

namespace AccessState

/-- A command may be answered with its own reply, or as one that a reset or the timeout has
    ended. -/
def mayAnswer (c : TdcCommand) (reply : Option Reply) (q : ResponseRequest) : Bool :=
  q = c.answer ⟨9, 0⟩ || reply.any fun r => q = c.answer r

/-- Where an event leads, if it may happen. -/
def next : AccessState → AccessEvent → Option AccessState
  | free, .issued c => some (opened c none)
  | opened c none, .performed a r => if a = c.access then some (opened c (some r)) else none
  | opened c reply, .answered q => if mayAnswer c reply q then some free else none
  | _, _ => none

end AccessState

/-- Every command is performed as it was issued, at most once and before it is answered, and
    is answered with its own reply; only one that a reset or the timeout has ended may go
    unperformed. -/
def AtomicAccesses (events : List AccessEvent) : Prop :=
  (events.foldlM AccessState.next .free).isSome = true

instance (events : List AccessEvent) : Decidable (AtomicAccesses events) :=
  inferInstanceAs (Decidable (_ = true))

namespace RegisterPath

variable (s : RegisterPath)

/-- What one tick does to register accesses. -/
def events : PathTick → List AccessEvent
  | .ddr i _ _ _ =>
    (if s.control.issuesTdc (s.riscvIn i) then [.issued s.control.tdcCommand] else []) ++
      (if s.control.answersTdc (s.riscvIn i) then [.answered s.control.tdcResponse] else [])
  | .sample i =>
    if s.service.alive && s.service.side.performs then
      [.performed s.service.side.request.back (s.service.side.performed i).2]
    else []
  | .sampleReset _ => []

/-- The reset of the sample half and the time of an access are in order. -/
def Orderly : PathTick → Prop
  | .ddr i ackCaught aliveCaught replyCaught =>
    s.control.tdcTimesOut (s.riscvIn i) = false ∧
      s.service.skewed (s.portIn ackCaught aliveCaught replyCaught) = false ∧
      (s.service.port.takes (s.portIn ackCaught aliveCaught replyCaught) = true →
        s.service.mayTake (s.portIn ackCaught aliveCaught replyCaught) = true)
  | .sample _ => True
  | .sampleReset true => s.service.alive = false ∨ s.service.mayReset = true
  | .sampleReset false => s.service.alive = true ∨ s.service.mayRelease = true

instance : (tick : PathTick) → Decidable (s.Orderly tick)
  | .ddr _ _ _ _ => inferInstanceAs (Decidable (_ ∧ _ ∧ (_ → _)))
  | .sample _ => inferInstanceAs (Decidable True)
  | .sampleReset true => inferInstanceAs (Decidable (_ ∨ _))
  | .sampleReset false => inferInstanceAs (Decidable (_ ∨ _))

/-! ## The phases of a command -/

/-- The reply `r` may answer the open command. -/
def Answers (reply : Option Reply) (r : Reply) : Prop := r = ⟨9, 0⟩ ∨ reply = some r

/-- Where the open command is. -/
inductive Phase : AccessState → Prop
  | free : s.control.tdcAccess.valid = false → s.control.tdcAccess.pending = false → s.service.Idle →
      s.service.port.regReady = false → s.service.port.waitRelease = false → Phase .free
  | offered {c : TdcCommand} : s.control.tdcAccess.valid = true → s.control.tdcAccess.pending = false →
      s.control.tdcAccess.held = c → s.service.Idle → s.service.port.regReady = false →
      s.service.port.waitRelease = false → Phase (.opened c none)
  | inFlight {c : TdcCommand} {reply : Option Reply} : s.control.tdcAccess.valid = true →
      s.control.tdcAccess.pending = false → s.control.tdcAccess.held = c → s.service.InFlight c.access reply →
      s.service.port.regReady = false → s.service.port.waitRelease = true → Phase (.opened c reply)
  | ready {c : TdcCommand} {reply : Option Reply} : s.control.tdcAccess.valid = true →
      s.control.tdcAccess.pending = false → s.control.tdcAccess.held = c → s.service.Idle →
      s.service.port.regReady = true → s.service.port.waitRelease = true → Answers reply s.service.port.reg →
      Phase (.opened c reply)
  | answering {c : TdcCommand} {reply : Option Reply} : s.control.tdcAccess.valid = false →
      s.control.tdcAccess.pending = true → s.control.tdcAccess.held = c → s.service.Idle →
      s.service.port.regReady = false → Answers reply s.control.tdcAccess.reply → Phase (.opened c reply)

variable {s} {a : AccessState}

/-- A resting service may see edges of the sample clock and resets. -/
theorem Phase.service {t : RegisterService} (phase : s.Phase a)
    (ready : t.port.regReady = s.service.port.regReady) (reg : t.port.reg = s.service.port.reg)
    (wait : t.port.waitRelease = s.service.port.waitRelease) (idle : s.service.Idle → t.Idle)
    (flight : ∀ access reply, s.service.InFlight access reply → t.InFlight access reply) :
    Phase { s with service := t } a := by
  cases phase with
  | free unused answered rests quiet released =>
    exact .free unused answered (idle rests) (ready.trans quiet) (wait.trans released)
  | offered valid unanswered held rests quiet released =>
    exact .offered valid unanswered held (idle rests) (ready.trans quiet) (wait.trans released)
  | inFlight valid unanswered held flies quiet waits =>
    exact .inFlight valid unanswered held (flight _ _ flies) (ready.trans quiet) (wait.trans waits)
  | ready valid unanswered held rests now waits answers =>
    exact .ready valid unanswered held (idle rests) (ready.trans now) (wait.trans waits) (reg ▸ answers)
  | answering unused pending held rests quiet answers =>
    exact .answering unused pending held (idle rests) (ready.trans quiet) answers

/-! ## One tick -/

variable (ids : BuildIds)

/-- What happens leads on from `a`, to where the open command is afterwards. -/
def Follows (s : RegisterPath) (a : AccessState) (tick : PathTick) : Prop :=
  ∃ b, (s.events tick).foldlM AccessState.next a = some b ∧ (s.step ids tick).Phase b

theorem follows_quiet {tick : PathTick} (none : s.events tick = []) (phase : (s.step ids tick).Phase a) :
    s.Follows ids a tick :=
  ⟨a, by rw [none]; rfl, phase⟩

theorem Phase.sampleReset (phase : s.Phase a) {asserted : Bool} (orderly : s.Orderly (.sampleReset asserted)) :
    s.Follows ids a (.sampleReset asserted) := by
  refine follows_quiet ids rfl (phase.service rfl rfl rfl ?_ ?_)
  · intro idle
    cases asserted with
    | true => exact idle.reset orderly
    | false => exact idle.release orderly
  · intro access reply flight
    cases asserted with
    | true => exact flight.reset orderly
    | false => exact flight.release orderly

/-- An edge of the sample clock performs the access in flight, or nothing. -/
theorem Phase.sample (phase : s.Phase a) (i : SideIn) : s.Follows ids a (.sample i) := by
  have rests : s.service.Idle → s.events (.sample i) = [] := by
    intro idle
    simp [events, idle.resting.unperformed]
  cases phase with
  | free unused answered idle quiet released =>
    exact follows_quiet ids (rests idle) (.free unused answered (idle.sideEdge i) quiet released)
  | offered valid unanswered held idle quiet released =>
    exact follows_quiet ids (rests idle) (.offered valid unanswered held (idle.sideEdge i) quiet released)
  | ready valid unanswered held idle now waits answers =>
    exact follows_quiet ids (rests idle) (.ready valid unanswered held (idle.sideEdge i) now waits answers)
  | answering unused pending held idle quiet answers =>
    exact follows_quiet ids (rests idle) (.answering unused pending held (idle.sideEdge i) quiet answers)
  | inFlight valid unanswered held flight quiet waits =>
    rcases flight.sideEdge i with ⟨none, still⟩ | ⟨performs, own, rfl, performed⟩
    · exact follows_quiet ids (by simp only [events, none]; rfl) (.inFlight valid unanswered held still quiet waits)
    · refine ⟨_, ?_, .inFlight valid unanswered held performed quiet waits⟩
      rw [events, if_pos performs, own]
      simp [AccessState.next]

theorem mayAnswer_of_answers {c : TdcCommand} {reply : Option Reply} {r : Reply} (answers : Answers reply r) :
    AccessState.mayAnswer c reply (c.answer r) = true := by
  rcases answers with rfl | rfl <;> simp [AccessState.mayAnswer]

variable {i : RiscvIn} {ackCaught aliveCaught : Bool} {replyCaught : Reply}

theorem takes_eq : s.service.port.takes (s.portIn ackCaught aliveCaught replyCaught) =
    (s.control.tdcRegValid && !s.service.port.inflight && !s.service.port.waitRelease) := rfl

/-- The port remembers an access until `tdc_reg_valid` falls. -/
theorem waitRelease_step : (s.step ids (.ddr i ackCaught aliveCaught replyCaught)).service.port.waitRelease =
    (s.service.port.takes (s.portIn ackCaught aliveCaught replyCaught) ||
      (s.service.port.waitRelease && s.control.tdcRegValid)) := rfl

/-- An access that is under way and not over stays as it is. -/
theorem step_waits (valid : s.control.tdcRegValid = true) (unanswered : s.control.tdcResponsePending = false)
    (early : s.control.tdcEnds (s.riscvIn i) = false) :
    s.events (.ddr i ackCaught aliveCaught replyCaught) = [] ∧
      (s.step ids (.ddr i ackCaught aliveCaught replyCaught)).control.tdcAccess = s.control.tdcAccess := by
  have unissued := RiscvControl.issuesTdc_busy (i := s.riscvIn i) (.inl valid)
  have silent := RiscvControl.answersTdc_answered (i := s.riscvIn i) unanswered
  refine ⟨by simp [events, unissued, silent], ?_⟩
  change (s.control.step ids (s.riscvIn i)).tdcAccess = _
  rw [RiscvControl.step_tdcAccess, unissued, silent, RiscvControl.settled_tdcAccess, early]
  rfl

/-- In time, an access is over when the service is ready. -/
theorem tdcEnds_in_time (in_time : s.control.tdcTimesOut (s.riscvIn i) = false) :
    s.control.tdcEnds (s.riscvIn i) = (s.control.tdcRegValid && s.service.port.regReady) := by
  have ready : (s.riscvIn i).tdcRegReady = s.service.port.regReady := rfl
  rw [RiscvControl.tdcTimesOut, ready] at in_time
  rw [RiscvControl.tdcEnds, ready]
  cases valid : s.control.tdcRegValid <;> cases now : s.service.port.regReady <;> simp_all

theorem Phase.ddr (phase : s.Phase a) (orderly : s.Orderly (.ddr i ackCaught aliveCaught replyCaught)) :
    s.Follows ids a (.ddr i ackCaught aliveCaught replyCaught) := by
  obtain ⟨in_time, aligned, may⟩ := orderly
  have ends := tdcEnds_in_time in_time
  cases phase with
  | free unused answered idle quiet released =>
    have declines : s.service.port.takes (s.portIn ackCaught aliveCaught replyCaught) = false := by
      rw [takes_eq, show s.control.tdcRegValid = false from unused]
      rfl
    have rests := idle.portEdge declines
    have unready := idle.portEdge_quiet (s.portIn ackCaught aliveCaught replyCaught)
    have free : (s.step ids (.ddr i ackCaught aliveCaught replyCaught)).service.port.waitRelease = false := by
      rw [waitRelease_step, declines, released]
      rfl
    have silent := RiscvControl.answersTdc_answered (i := s.riscvIn i) answered
    have control : (s.step ids (.ddr i ackCaught aliveCaught replyCaught)).control.tdcAccess =
        if s.control.issuesTdc (s.riscvIn i) then
          { s.control.tdcAccess with valid := true, held := s.control.tdcCommand }
        else s.control.tdcAccess := by
      change (s.control.step ids (s.riscvIn i)).tdcAccess = _
      rw [RiscvControl.step_tdcAccess, silent, RiscvControl.settled_tdcAccess, ends,
        show s.control.tdcRegValid = false from unused]
      rfl
    cases issues : s.control.issuesTdc (s.riscvIn i) with
    | false =>
      rw [issues] at control
      refine follows_quiet ids (by simp [events, issues, silent]) (.free ?_ ?_ rests unready free)
      · rw [control]
        exact unused
      · rw [control]
        exact answered
    | true =>
      rw [issues] at control
      refine ⟨.opened s.control.tdcCommand none, ?_, .offered ?_ ?_ ?_ rests unready free⟩
      · simp [events, issues, silent, AccessState.next]
      · rw [control]
        rfl
      · rw [control]
        exact answered
      · rw [control]
        rfl
  | offered valid unanswered held idle quiet released =>
    have takes : s.service.port.takes (s.portIn ackCaught aliveCaught replyCaught) = true := by
      rw [takes_eq, show s.control.tdcRegValid = true from valid, idle.free, released]
      rfl
    rw [quiet, Bool.and_false] at ends
    obtain ⟨none, control⟩ := step_waits ids valid unanswered ends
    have waiting := idle.takes takes (may takes)
    refine follows_quiet ids none (.inFlight ?_ ?_ ?_ (.waiting ?_) (idle.portEdge_quiet _) ?_)
    · rw [control]
      exact valid
    · rw [control]
      exact unanswered
    · rw [control]
      exact held
    · rw [← held]
      exact waiting
    · rw [waitRelease_step, takes]
      rfl
  | inFlight valid unanswered held flight quiet waits =>
    rw [quiet, Bool.and_false] at ends
    obtain ⟨none, control⟩ := step_waits ids valid unanswered ends
    have still : (s.step ids (.ddr i ackCaught aliveCaught replyCaught)).service.port.waitRelease = true := by
      rw [waitRelease_step, waits, show s.control.tdcRegValid = true from valid]
      exact Bool.or_true _
    rw [← control] at valid unanswered held
    rcases flight.portEdge aligned with ⟨flies, unready⟩ | ⟨⟨idle, now⟩, answers⟩
    · exact follows_quiet ids none (.inFlight valid unanswered held flies unready still)
    · exact follows_quiet ids none (.ready valid unanswered held idle now still answers)
  | ready valid unanswered held idle now waits answers =>
    have declines : s.service.port.takes (s.portIn ackCaught aliveCaught replyCaught) = false := by
      rw [takes_eq, waits, Bool.not_true, Bool.and_false]
    rw [now, show s.control.tdcRegValid = true from valid] at ends
    have unissued := RiscvControl.issuesTdc_busy (i := s.riscvIn i) (.inl valid)
    have silent := RiscvControl.answersTdc_answered (i := s.riscvIn i) unanswered
    have control : (s.step ids (.ddr i ackCaught aliveCaught replyCaught)).control.tdcAccess =
        ⟨false, true, s.control.tdcAccess.held, s.service.port.reg⟩ := by
      change (s.control.step ids (s.riscvIn i)).tdcAccess = _
      rw [RiscvControl.step_tdcAccess, unissued, silent, RiscvControl.settled_tdcAccess, ends]
      change TdcAccess.mk _ _ _ (if s.service.port.regReady then s.service.port.reg else _) = _
      rw [now]
      rfl
    refine follows_quiet ids (by simp [events, unissued, silent])
      (.answering ?_ ?_ ?_ (idle.portEdge declines) (idle.portEdge_quiet _) ?_)
    · rw [control]
    · rw [control]
    · rw [control]
      exact held
    · rw [control]
      exact answers
  | @answering c reply unused pending held idle quiet answers =>
    have declines : s.service.port.takes (s.portIn ackCaught aliveCaught replyCaught) = false := by
      rw [takes_eq, show s.control.tdcRegValid = false from unused]
      rfl
    have rests := idle.portEdge declines
    have unready := idle.portEdge_quiet (s.portIn ackCaught aliveCaught replyCaught)
    have unissued := RiscvControl.issuesTdc_busy (i := s.riscvIn i) (.inr pending)
    have control : (s.step ids (.ddr i ackCaught aliveCaught replyCaught)).control.tdcAccess =
        if s.control.answersTdc (s.riscvIn i) then { s.control.tdcAccess with pending := false }
        else s.control.tdcAccess := by
      change (s.control.step ids (s.riscvIn i)).tdcAccess = _
      rw [RiscvControl.step_tdcAccess, unissued, RiscvControl.settled_tdcAccess, ends,
        show s.control.tdcRegValid = false from unused]
      rfl
    cases queued : s.control.answersTdc (s.riscvIn i) with
    | false =>
      rw [queued] at control
      refine follows_quiet ids (by simp [events, unissued, queued]) (.answering ?_ ?_ ?_ rests unready ?_)
      · rw [control]
        exact unused
      · rw [control]
        exact pending
      · rw [control]
        exact held
      · rw [control]
        exact answers
    | true =>
      rw [queued] at control
      refine ⟨.free, ?_, .free ?_ ?_ rests unready ?_⟩
      · have own : s.control.tdcResponse = c.answer s.control.tdcAccess.reply := by
          rw [RiscvControl.tdcResponse_eq, held]
        simp [events, unissued, queued, own, AccessState.next, mayAnswer_of_answers answers]
      · rw [control]
        exact unused
      · rw [control]
        rfl
      · rw [waitRelease_step, declines, show s.control.tdcRegValid = false from unused, Bool.and_false]
        rfl

theorem Phase.step (phase : s.Phase a) {tick : PathTick} (orderly : s.Orderly tick) : s.Follows ids a tick := by
  cases tick with
  | ddr i ackCaught aliveCaught replyCaught => exact phase.ddr ids orderly
  | sample i => exact phase.sample ids i
  | sampleReset asserted => exact phase.sampleReset ids orderly

theorem phase_reset : (registerPath ids).reset.Phase .free := by
  refine .free rfl rfl ⟨⟨rfl, rfl, rfl, rfl, ?_, ?_⟩, rfl, ⟨rfl, rfl, rfl, rfl⟩⟩ rfl rfl
  · exact fun _ => rfl
  · exact fun _ => rfl

end RegisterPath

/-- In every run with its resets and times in order, register accesses are atomic. -/
theorem accesses_atomic (ids : BuildIds) (ticks : List PathTick)
    (orderly : (registerPath ids).Along RegisterPath.Orderly (registerPath ids).reset ticks) :
    AtomicAccesses ((registerPath ids).log RegisterPath.events (registerPath ids).reset ticks) := by
  have follows := (registerPath ids).run_induction (C := RegisterPath.Orderly)
    (P := fun ticks s => ∃ a, ((registerPath ids).log RegisterPath.events (registerPath ids).reset ticks).foldlM
      AccessState.next .free = some a ∧ s.Phase a) ⟨.free, rfl, RegisterPath.phase_reset ids⟩
    (fun ticks tick _ before now => by
      obtain ⟨a, sofar, phase⟩ := before
      obtain ⟨b, leads, after⟩ := phase.step ids now
      refine ⟨b, ?_, after⟩
      rw [Machine.log_append, List.foldlM_append, sofar, Machine.log_cons, Machine.log_nil, List.append_nil]
      exact leads) ticks orderly
  obtain ⟨a, leads, -⟩ := follows
  rw [AtomicAccesses, leads]
  rfl

/-! ## A command performed twice -/

/-- An edge of the DDR clock on which the command word `w` arrives, if there is one. -/
def edge (w : Option RvctrlWord) : PathTick :=
  .ddr { (default : RiscvIn) with rvctrlValid := w.isSome, rvctrl := w.getD default, rvrespReady := true }
    false false noReply

/-- An edge of the sample clock without a measurement. -/
def sampleEdge : PathTick := .sample ⟨default, false, noAccess⟩

def tdcWords (sequence : BitVec 32) (write : Bool) (addr : BitVec 16) (data : BitVec 32) : List RvctrlWord :=
  [⟨rf2OpTdcReg ++ rf2Version.zeroExtend 32, true, false, 8, 2⟩,
    ⟨16#32 ++ sequence, false, false, 8, 2⟩,
    ⟨addr.zeroExtend 32 ++ (BitVec.ofBool write).zeroExtend 32, false, false, 8, 2⟩,
    ⟨0#32 ++ data, false, true, 8, 2⟩]

/-- The command is received, processed, decoded and taken. -/
def sendCommand (sequence : BitVec 32) (write : Bool) (addr : BitVec 16) (data : BitVec 32) : List PathTick :=
  (tdcWords sequence write addr data).map (fun w => edge (some w)) ++ List.replicate 3 (edge none)

/-- The sample half is released, and the calibration source is switched on by command. -/
def sourceOn : List PathTick :=
  .sampleReset false :: List.replicate 4 (edge none) ++ sendCommand 7 true 0x0004 2 ++
    List.replicate 5 sampleEdge ++ List.replicate 7 (edge none)

/-- Then the sample half is reset once more. -/
def sourceOnReset : List PathTick :=
  sourceOn ++ [.sampleReset true, sampleEdge, .sampleReset false] ++ List.replicate 5 sampleEdge

/-- The command is performed again after the reset, which has been answered long ago: the
    calibration source is on, although the reset has switched it off. -/
theorem sourceOnReset_twice :
    ((registerPath ⟨0, 0, 0⟩).run (registerPath ⟨0, 0, 0⟩).reset sourceOnReset).service.side.bank.control = 2 ∧
      ((registerPath ⟨0, 0, 0⟩).log RegisterPath.events (registerPath ⟨0, 0, 0⟩).reset sourceOnReset).length = 4 ∧
      ¬ AtomicAccesses ((registerPath ⟨0, 0, 0⟩).log RegisterPath.events (registerPath ⟨0, 0, 0⟩).reset
        sourceOnReset) :=
  ⟨by decide, by decide, by decide⟩

def sourceOffLost : List PathTick :=
  sourceOn ++ sendCommand 8 true 0x0004 0 ++ [.sampleReset true] ++ List.replicate 6 (edge none) ++
    [sampleEdge, .sampleReset false] ++ List.replicate 5 sampleEdge

theorem accesses_atomic_sourceOffLost :
    AtomicAccesses ((registerPath ⟨0, 0, 0⟩).log RegisterPath.events (registerPath ⟨0, 0, 0⟩).reset sourceOffLost) ∧
      ((registerPath ⟨0, 0, 0⟩).log RegisterPath.events (registerPath ⟨0, 0, 0⟩).reset sourceOffLost).length = 5 :=
  ⟨accesses_atomic ⟨0, 0, 0⟩ sourceOffLost (by decide +kernel), by decide +kernel⟩

end Xczu47dr.Tdc
