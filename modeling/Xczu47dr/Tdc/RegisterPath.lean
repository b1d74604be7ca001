import Xczu47dr.Control.RiscvControl
import Xczu47dr.Tdc.RegisterService

/-! # Register commands

`pl_riscv_control_v1` in front of the register service: a decoded TDC command is
held on `tdc_reg_*` until the service is ready or the time is over, and what came
back is queued as its response.
-/

namespace Xczu47dr.Control

open Xczu47dr.Tdc

/-- A TDC command, with the sequence number its response will carry. -/
structure TdcCommand where
  sequence : BitVec 32
  access : Access
  deriving DecidableEq

/-- The response of a command whose access got the reply `r`. -/
def TdcCommand.answer (c : TdcCommand) (r : Reply) : ResponseRequest :=
  RiscvControl.resp1 rf2OpTdcReg r.error c.sequence 8 (r.data ++ 0#16 ++ c.access.addr)

/-- The registers that a TDC command uses. -/
structure TdcAccess where
  valid : Bool
  pending : Bool
  held : TdcCommand
  reply : Reply

namespace RiscvControl

variable (s : RiscvControl) (i : RiscvIn)

def tdcAccess : TdcAccess where
  valid := s.tdcRegValid
  pending := s.tdcResponsePending
  held := ⟨s.tdcResponseSequence, s.tdcRegWrite, s.tdcRegAddr, s.tdcRegWdata⟩
  reply := ⟨s.tdcResponseError, s.tdcResponseData⟩

def tdcCommand : TdcCommand where
  sequence := s.cmdSeq
  access := ⟨(s.payloadWords 4).getLsbD 0, (s.payloadWords 5).extractLsb' 0 16, s.payloadWords 6⟩

/-- The decoder starts the access of a TDC command. -/
def issuesTdc : Bool :=
  s.decodes i && s.cmdVersionValid && s.cmdKind = .tdcReg && (s.decodeTdcReg s).response.isNone

/-- The response of a TDC command is queued. -/
def answersTdc : Bool := !s.receives i && !s.processPending && !s.diagCompletes i && s.tdcCompletes i

/-- The access is over, its time being up if the service is not ready. -/
def tdcEnds : Bool := s.tdcRegValid && (i.tdcRegReady || decide (tdcRegTimeoutCycles - 1 ≤ s.tdcRegTimeout))

def tdcTimesOut : Bool :=
  s.tdcRegValid && !i.tdcRegReady && decide (tdcRegTimeoutCycles - 1 ≤ s.tdcRegTimeout)

variable {s i} {t : RiscvControl}

theorem settled_tdcAccess : (s.settled i).tdcAccess =
    if s.tdcEnds i then
      ⟨false, true, s.tdcAccess.held, if i.tdcRegReady then ⟨i.tdcRegError, i.tdcRegRdata⟩ else ⟨9, 0⟩⟩
    else s.tdcAccess := by
  rw [settled, accessTdc, tdcEnds]
  cases valid : s.tdcRegValid with
  | false =>
    rw [Bool.false_and]
    rfl
  | true =>
    rw [Bool.true_and]
    cases ends : i.tdcRegReady || decide (tdcRegTimeoutCycles - 1 ≤ s.tdcRegTimeout) with
    | false =>
      simp only [Bool.false_eq_true, if_false, if_true]
      rfl
    | true =>
      simp only [if_true]
      cases i.tdcRegReady <;> rfl

theorem decodeTdcReg_tdcAccess : (s.decodeTdcReg t).next.tdcAccess =
    if (s.decodeTdcReg s).response.isNone then { t.tdcAccess with valid := true, held := s.tdcCommand }
    else t.tdcAccess := by
  unfold decodeTdcReg
  split
  · rfl
  · split <;> rfl

theorem decode_tdcAccess : (s.decode i t).next.tdcAccess =
    if s.cmdVersionValid && decide (s.cmdKind = .tdcReg) && (s.decodeTdcReg s).response.isNone then
      { t.tdcAccess with valid := true, held := s.tdcCommand }
    else t.tdcAccess := by
  unfold decode
  cases version : s.cmdVersionValid with
  | false => rfl
  | true =>
    simp only [Bool.not_true, Bool.false_eq_true, if_false, Bool.true_and]
    cases s.cmdKind
    case tdcReg => exact decodeTdcReg_tdcAccess
    case diagSnapshot =>
      change (s.decodeDiagSnapshot _).next.tdcAccess = t.tdcAccess
      unfold decodeDiagSnapshot
      split_ifs <;> rfl
    case diagControl =>
      change (s.decodeDiagControl _).next.tdcAccess = t.tdcAccess
      unfold decodeDiagControl
      split_ifs <;> rfl
    case networkApply =>
      change (s.decodeNetworkApply i _).next.tdcAccess = t.tdcAccess
      unfold decodeNetworkApply
      split_ifs <;> rfl
    case networkRestart =>
      change (s.decodeNetworkRestart i _).next.tdcAccess = t.tdcAccess
      unfold decodeNetworkRestart
      split_ifs <;> rfl
    case rfdcApply =>
      change (s.decodeRfdcApply i _).next.tdcAccess = t.tdcAccess
      unfold decodeRfdcApply
      split_ifs <;> rfl
    case syncEpoch =>
      change (s.decodeSyncEpoch i _).next.tdcAccess = t.tdcAccess
      unfold decodeSyncEpoch
      split_ifs <;> rfl
    all_goals rfl

theorem chain_tdcAccess : (s.chain i t).next.tdcAccess =
    if s.issuesTdc i then { t.tdcAccess with valid := true, held := s.tdcCommand }
    else if s.answersTdc i then { t.tdcAccess with pending := false }
    else t.tdcAccess := by
  unfold chain issuesTdc answersTdc decodes
  cases s.receives i <;> cases s.processPending <;> cases s.diagCompletes i <;> cases s.tdcCompletes i <;>
    try rfl
  cases s.decodePending with
  | false => rfl
  | true => exact decode_tdcAccess

theorem step_tdcAccess (ids : BuildIds) : (s.step ids i).tdcAccess =
    if s.issuesTdc i then { (s.settled i).tdcAccess with valid := true, held := s.tdcCommand }
    else if s.answersTdc i then { (s.settled i).tdcAccess with pending := false }
    else (s.settled i).tdcAccess :=
  chain_tdcAccess

/-- An access is started only when none is under way. -/
theorem issuesTdc_free (issues : s.issuesTdc i = true) : s.tdcRegValid = false ∧ s.tdcResponsePending = false := by
  simp only [issuesTdc, Bool.and_eq_true] at issues
  obtain ⟨-, accepted⟩ := issues
  unfold decodeTdcReg at accepted
  split_ifs at accepted with malformed busy
  · exact absurd accepted Bool.false_ne_true
  · exact absurd accepted Bool.false_ne_true
  · simpa using busy

/-- Nothing is started while an access is under way. -/
theorem issuesTdc_busy (busy : s.tdcRegValid = true ∨ s.tdcResponsePending = true) : s.issuesTdc i = false := by
  refine eq_false_of_ne_true fun issues => ?_
  obtain ⟨unused, answered⟩ := issuesTdc_free issues
  rcases busy with valid | pending
  · exact absurd (valid.symm.trans unused) (by decide)
  · exact absurd (pending.symm.trans answered) (by decide)

theorem answersTdc_answered (answered : s.tdcResponsePending = false) : s.answersTdc i = false := by
  simp [answersTdc, tdcCompletes, answered]

theorem tdcResponse_eq : s.tdcResponse = s.tdcAccess.held.answer s.tdcAccess.reply := rfl

end RiscvControl

end Xczu47dr.Control

namespace Xczu47dr.Tdc

open Xczu47dr.Control

/-- The command machine and the register service. -/
structure RegisterPath where
  control : RiscvControl
  service : RegisterService

/-- What happens next: an edge of the DDR clock, an edge of the sample clock, or a change of
    the reset of the sample half. -/
inductive PathTick
  | ddr (i : RiscvIn) (ackCaught aliveCaught : Bool) (replyCaught : Reply)
  | sample (i : SideIn)
  | sampleReset (asserted : Bool)

namespace RegisterPath

variable (s : RegisterPath)

def riscvIn (i : RiscvIn) : RiscvIn :=
  { i with
    tdcRegReady := s.service.port.regReady
    tdcRegRdata := s.service.port.reg.data
    tdcRegError := s.service.port.reg.error }

def portIn (ackCaught aliveCaught : Bool) (replyCaught : Reply) : PortIn where
  regValid := s.control.tdcRegValid
  access := s.control.tdcAccess.held.access
  ackCaught := ackCaught
  aliveCaught := aliveCaught
  replyCaught := replyCaught

def step (ids : BuildIds) : PathTick → RegisterPath
  | .ddr i ackCaught aliveCaught replyCaught =>
    ⟨s.control.step ids (s.riscvIn i), s.service.portEdge (s.portIn ackCaught aliveCaught replyCaught)⟩
  | .sample i => { s with service := s.service.sideEdge i }
  | .sampleReset asserted => { s with service := s.service.resetEdge asserted }

end RegisterPath

def registerPath (ids : BuildIds) : Clocked.Machine PathTick RegisterPath where
  reset := ⟨.reset, .reset⟩
  step s tick := s.step ids tick

end Xczu47dr.Tdc
