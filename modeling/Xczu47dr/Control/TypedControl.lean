import Xczu47dr.Control.NetworkConfig
import Xczu47dr.Rfdc.ApplyHandshake

/-! # The typed commands

`pl_riscv_control_v1` with the two controllers that its typed commands go to,
`rfdc_runtime_config_pl` and `network_config_pl`, all on one clock: the registers
that pass between them, and what a response takes from them.
-/

namespace Xczu47dr.Control

namespace RiscvControl

variable {ids : BuildIds} {s t : RiscvControl} {i : RiscvIn}

/-! ## Network commands -/

/-- The registers of the network command under way. -/
structure NetworkCommand where
  applyStart : Bool
  restartStart : Bool
  pending : Bool
  opcode : BitVec 32
  sequence : BitVec 32

def networkCommand (s : RiscvControl) : NetworkCommand where
  applyStart := s.networkApplyStart
  restartStart := s.networkRestartStart
  pending := s.networkResponsePending
  opcode := s.networkResponseOpcode
  sequence := s.networkResponseSequence

def startedNetwork (s : RiscvControl) : NetworkCommand where
  applyStart := s.cmdKind = .networkApply
  restartStart := s.cmdKind = .networkRestart
  pending := true
  opcode := if s.cmdKind = .networkApply then rf2OpNetworkApply else rf2OpNetworkRestart
  sequence := s.cmdSeq

theorem settled_networkCommand : (s.settled i).networkCommand =
    { s.networkCommand with
      applyStart := false
      restartStart := false
      pending := s.networkResponsePending && !i.networkDone } := by
  have pending : (s.networkResponsePending && !s.networkCompletes i) = (s.networkResponsePending && !i.networkDone) := by
    rw [networkCompletes]
    cases s.networkResponsePending <;> rfl
  rw [← pending]
  unfold settled accessTdc
  split_ifs <;> rfl

theorem decode_networkCommand (fresh : t.networkApplyStart = false ∧ t.networkRestartStart = false) :
    (s.decode i t).next.networkCommand = bif s.startsNetwork i then s.startedNetwork else t.networkCommand := by
  have rests {u : RiscvControl} (same : u.networkCommand = t.networkCommand) (refuses : s.startsNetwork i = false) :
      u.networkCommand = bif s.startsNetwork i then s.startedNetwork else t.networkCommand := by
    rw [same, refuses]
    rfl
  unfold decode
  split
  case isTrue invalid => exact rests rfl (by simp_all [startsNetwork])
  case isFalse valid =>
    cases kind : s.cmdKind <;> dsimp only
    case networkApply =>
      unfold decodeNetworkApply
      split_ifs with malformed busy
      · exact rests rfl (by grind [startsNetwork])
      · exact rests rfl (by simp [startsNetwork, busy])
      · have starts : s.startsNetwork i = true := by grind [startsNetwork]
        rw [starts, startedNetwork, kind]
        simp only [networkCommand, fresh.2]
        rfl
    case networkRestart =>
      unfold decodeNetworkRestart
      split_ifs with malformed busy
      · exact rests rfl (by grind [startsNetwork])
      · exact rests rfl (by simp [startsNetwork, busy])
      · have starts : s.startsNetwork i = true := by grind [startsNetwork]
        rw [starts, startedNetwork, kind]
        simp only [networkCommand, fresh.1]
        rfl
    all_goals
      have refuses : s.startsNetwork i = false := by simp [startsNetwork, kind]
    case tdcReg =>
      dsimp only [decodeTdcReg]
      split_ifs <;> exact rests rfl refuses
    case diagSnapshot =>
      dsimp only [decodeDiagSnapshot]
      split_ifs <;> exact rests rfl refuses
    case diagControl =>
      dsimp only [decodeDiagControl]
      split_ifs <;> exact rests rfl refuses
    case rfdcApply =>
      dsimp only [decodeRfdcApply]
      split_ifs <;> exact rests rfl refuses
    case syncEpoch =>
      dsimp only [decodeSyncEpoch]
      split_ifs <;> exact rests rfl refuses
    all_goals exact rests rfl refuses

/-- A network command is started in this cycle. -/
def beginsNetwork (s : RiscvControl) (i : RiscvIn) : Bool := s.decodes i && s.startsNetwork i

variable (ids) in
/-- One clock edge of the network command. -/
theorem step_networkCommand : (s.step ids i).networkCommand =
    bif s.beginsNetwork i then s.startedNetwork
    else
      { s.networkCommand with
        applyStart := false
        restartStart := false
        pending := s.networkResponsePending && !i.networkDone } := by
  have settled := settled_networkCommand (s := s) (i := i)
  have rests {u : RiscvControl} (same : u.networkCommand = (s.settled i).networkCommand)
      (waits : s.decodes i = false) : u.networkCommand = bif s.beginsNetwork i then s.startedNetwork
        else { s.networkCommand with
          applyStart := false
          restartStart := false
          pending := s.networkResponsePending && !i.networkDone } := by
    rw [same, beginsNetwork, waits, settled]
    rfl
  change (s.chain i (s.settled i)).next.networkCommand = _
  unfold chain
  split_ifs with receives process diag tdc decodes
  · exact rests rfl (by simp [RiscvControl.decodes, receives])
  · exact rests rfl (by simp [RiscvControl.decodes, process])
  · exact rests rfl (by simp [RiscvControl.decodes, diag])
  · exact rests rfl (by simp [RiscvControl.decodes, tdc])
  · have executes : s.decodes i = true := by simp [RiscvControl.decodes, receives, process, diag, tdc, decodes]
    have fresh := settled
    rw [networkCommand, NetworkCommand.mk.injEq] at fresh
    rw [decode_networkCommand ⟨fresh.1, fresh.2.1⟩, beginsNetwork, executes, Bool.true_and, settled]
  · exact rests rfl (by simp [RiscvControl.decodes, decodes])

/-! ## RFDC commands -/

/-- The arguments of an apply carry its sequence number. -/
def RfdcAddressed (s : RiscvControl) : Prop :=
  s.rfdcResponsePending = true →
    s.rfdcResponseOpcode = rf2OpRfdcApply ∧ s.rfdcResponseSequence = s.rfdcRequest.sequence

theorem decode_rfdcAddressed (addressed : t.RfdcAddressed) : (s.decode i t).next.RfdcAddressed := by
  unfold decode
  split
  · exact addressed
  · cases s.cmdKind
    case tdcReg => dsimp only [decodeTdcReg]; split_ifs <;> exact addressed
    case diagSnapshot => dsimp only [decodeDiagSnapshot]; split_ifs <;> exact addressed
    case diagControl => dsimp only [decodeDiagControl]; split_ifs <;> exact addressed
    case networkApply => dsimp only [decodeNetworkApply]; split_ifs <;> exact addressed
    case networkRestart => dsimp only [decodeNetworkRestart]; split_ifs <;> exact addressed
    case syncEpoch => dsimp only [decodeSyncEpoch]; split_ifs <;> exact addressed
    case rfdcApply =>
      dsimp only [decodeRfdcApply]
      split_ifs
      · exact addressed
      · exact addressed
      · exact addressed
      · exact fun _ => ⟨rfl, rfl⟩
    all_goals exact addressed

theorem step_rfdcAddressed (ids : BuildIds) (i : RiscvIn) (addressed : s.RfdcAddressed) :
    (s.step ids i).RfdcAddressed := by
  have settled : (s.settled i).RfdcAddressed := by
    intro pending
    rw [settled_rfdcResponsePending, Bool.and_eq_true] at pending
    have kept := addressed pending.1
    unfold RiscvControl.settled accessTdc
    split_ifs <;> exact kept
  change (s.chain i (s.settled i)).next.RfdcAddressed
  unfold chain
  split_ifs
  · exact settled
  · exact settled
  · exact settled
  · exact settled
  · exact decode_rfdcAddressed settled
  · exact settled

/-! ## The time between two commands -/

/-- After a command has been decoded no other is. -/
theorem step_decoded (ids : BuildIds) (decodes : s.decodes i = true) :
    (s.step ids i).processPending = false ∧ (s.step ids i).decodePending = false := by
  simp only [RiscvControl.decodes, Bool.and_eq_true, Bool.not_eq_true'] at decodes
  obtain ⟨⟨⟨⟨receives, process⟩, diag⟩, tdc⟩, decode⟩ := decodes
  have chain : s.chain i (s.settled i) = s.decode i (s.settled i) := by
    simp [RiscvControl.chain, receives, process, diag, tdc, decode]
  change (s.chain i (s.settled i)).next.processPending = false ∧ (s.chain i (s.settled i)).next.decodePending = false
  rw [chain]
  obtain ⟨command, done⟩ := decode_command (s := s) (i := i) (t := s.settled i)
  rw [settled_command] at command
  exact ⟨(congrArg CommandRegisters.processPending command).trans process, done⟩

/-- What is not processed is not decoded in the next cycle. -/
theorem step_unprocessed (ids : BuildIds) (process : s.processPending = false) (decode : s.decodePending = false) :
    (s.step ids i).decodePending = false := by
  have settled := settled_decodePending (s := s) (i := i)
  rw [decode] at settled
  change (s.chain i (s.settled i)).next.decodePending = false
  unfold chain
  rw [process, decode]
  split_ifs <;> first | exact settled | contradiction

end RiscvControl

end Xczu47dr.Control
