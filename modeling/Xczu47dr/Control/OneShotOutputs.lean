import Xczu47dr.Control.RiscvControl

/-! # The one-shot outputs of the control machine

Six outputs of `pl_riscv_control_v1` ask another part of the board to act once.  Four
are cleared at every clock edge that does not set them; the two clears of a
DIAG_CONTROL are written by that command only, and keep their level until the next one.
-/

namespace Xczu47dr.Control

open Clocked Machine

inductive OneShot
  | rfdcApplyStart
  | networkApplyStart
  | networkRestartStart
  | syncEpochPulse
  | diagClearEventsPulse
  | diagClearCountersPulse
  deriving DecidableEq

namespace OneShot

def high (o : OneShot) (s : RiscvControl) : Bool :=
  match o with
  | rfdcApplyStart => s.rfdcApplyStart
  | networkApplyStart => s.networkApplyStart
  | networkRestartStart => s.networkRestartStart
  | syncEpochPulse => s.syncEpochPulse
  | diagClearEventsPulse => s.diagClearEventsPulse
  | diagClearCountersPulse => s.diagClearCountersPulse

def kind : OneShot → CommandKind
  | rfdcApplyStart => .rfdcApply
  | networkApplyStart => .networkApply
  | networkRestartStart => .networkRestart
  | syncEpochPulse => .syncEpoch
  | diagClearEventsPulse | diagClearCountersPulse => .diagControl

def Clears (o : OneShot) : Prop := o.kind = .diagControl

instance (o : OneShot) : Decidable o.Clears := inferInstanceAs (Decidable (_ = _))

end OneShot

namespace RiscvControl

variable (ids : BuildIds) (s : RiscvControl) (i : RiscvIn)

/-- The command is of this kind and the decoder does not refuse it. -/
def admits (kind : CommandKind) : Bool :=
  s.cmdVersionValid && s.cmdKind == kind &&
    match kind with
    | .rfdcApply =>
      s.cmdPayloadBytes == 200 && s.rxExpectedWords == 54 && !s.rfdcPayloadFieldsInvalid &&
        !(!i.status.rfdcReady || !i.status.dacMtsReady || i.status.dacMtsFailed ||
          i.status.syncAlignBusy || i.status.syncAlignFailed) && !i.status.rfdcApplyBusy
    | .networkApply => s.cmdPayloadBytes == 32 && s.rxExpectedWords == 12 && !i.networkBusy
    | .networkRestart => s.cmdPayloadBytes == 0 && s.rxExpectedWords == 4 && !i.networkBusy
    | .syncEpoch =>
      s.cmdPayloadBytes == 8 && i.status.syncRoleMaster && !i.status.syncBypass &&
        !(i.status.syncAlignBusy && !i.status.syncAlignFailed)
    | .diagControl => s.cmdPayloadBytes == 8 && s.rxExpectedWords == 6
    | _ => true

/-- A command of this kind is accepted at this clock edge. -/
def accepts (kind : CommandKind) : Bool := s.decodes i && s.admits i kind

/-- What the arguments of an accepted command make of the output. -/
def argument (o : OneShot) : Bool :=
  match o with
  | .diagClearEventsPulse => s.payloadWords 4 != 0
  | .diagClearCountersPulse => (s.payloadWords 5).getLsbD 0
  | _ => true

/-- A command that requests the output is accepted at this clock edge. -/
def triggers (o : OneShot) : Bool := s.accepts i o.kind && s.argument o

/-- The output is high after the clock edge if the edge accepts a request, and low else. -/
def Pulses (o : OneShot) : Prop := o.high (s.step ids i) = s.triggers i o

instance (o : OneShot) : Decidable (s.Pulses ids i o) := inferInstanceAs (Decidable (_ = _))

/-! ## The decoder -/

variable {s i} {o : OneShot} {t : RiscvControl}

/-- Another command leaves the output as it is. -/
theorem decode_high_other (other : s.cmdKind ≠ o.kind) : o.high (s.decode i t).next = o.high t := by
  unfold decode
  split
  · cases o <;> rfl
  · cases command : s.cmdKind with
    | tdcReg => dsimp only [decodeTdcReg]; split_ifs <;> cases o <;> rfl
    | diagSnapshot => dsimp only [decodeDiagSnapshot]; split_ifs <;> cases o <;> rfl
    | diagControl =>
      dsimp only [decodeDiagControl]
      split_ifs <;> cases o <;> first | rfl | exact absurd command other
    | networkApply =>
      dsimp only [decodeNetworkApply]
      split_ifs <;> cases o <;> first | rfl | exact absurd command other
    | networkRestart =>
      dsimp only [decodeNetworkRestart]
      split_ifs <;> cases o <;> first | rfl | exact absurd command other
    | rfdcApply =>
      dsimp only [decodeRfdcApply]
      split_ifs <;> cases o <;> first | rfl | exact absurd command other
    | syncEpoch =>
      dsimp only [decodeSyncEpoch]
      split_ifs <;> cases o <;> first | rfl | exact absurd command other
    | unsupported | hello | status | networkGet | rfdcGet => cases o <;> rfl

/-- The decoder sets the output to its argument if it accepts the command, and leaves it else. -/
theorem decode_high : o.high (s.decode i t).next = if s.admits i o.kind then s.argument o else o.high t := by
  by_cases other : s.cmdKind ≠ o.kind
  · rw [decode_high_other other, if_neg (by simp [admits, other])]
  have command := not_not.mp other
  cases valid : s.cmdVersionValid with
  | false =>
    rw [if_neg (by simp [admits, valid])]
    cases o <;> simp [decode, valid, refuse, OneShot.high]
  | true =>
    cases o <;> rw [OneShot.kind] at command <;>
      simp only [decode, valid, command, admits, argument, OneShot.high, OneShot.kind, decodeRfdcApply,
        decodeNetworkApply, decodeNetworkRestart, decodeSyncEpoch, decodeDiagControl] <;>
      split_ifs <;> simp_all [refuse]

/-! ## One clock edge -/

/-- The defaults of a cycle clear the outputs, except for the two clears. -/
theorem settled_high : o.high (s.settled i) = if o.Clears then o.high s else false := by
  have unaffected : o.high (s.settled i) = o.high s.clearPulses := by
    unfold settled accessTdc
    split_ifs <;> cases o <;> rfl
  rw [unaffected]
  cases o <;> rfl

/-- The turns of the chain other than the decoder's leave the outputs alone. -/
theorem chain_high : o.high (s.chain i t).next = if s.accepts i o.kind then s.argument o else o.high t := by
  unfold chain
  by_cases receives : s.receives i = true
  · rw [if_pos receives, if_neg (by simp [accepts, decodes, receives])]
    cases o <;> rfl
  rw [if_neg receives]
  by_cases processes : s.processPending = true
  · rw [if_pos processes, if_neg (by simp [accepts, decodes, processes])]
    cases o <;> rfl
  rw [if_neg processes]
  by_cases diag : s.diagCompletes i = true
  · rw [if_pos diag, if_neg (by simp [accepts, decodes, diag])]
    cases o <;> rfl
  rw [if_neg diag]
  by_cases tdc : s.tdcCompletes i = true
  · rw [if_pos tdc, if_neg (by simp [accepts, decodes, tdc])]
    cases o <;> rfl
  rw [if_neg tdc]
  by_cases pending : s.decodePending = true
  · have turn : s.decodes i = true := by simp [decodes, receives, processes, diag, tdc, pending]
    rw [if_pos pending, decode_high, accepts, turn, Bool.true_and]
  · rw [if_neg pending, if_neg (by simp [accepts, decodes, pending])]

theorem step_high : o.high (s.step ids i) =
    if s.accepts i o.kind then s.argument o else if o.Clears then o.high s else false := by
  have outputs : o.high (s.step ids i) = o.high (s.chain i (s.settled i)).next := by cases o <;> rfl
  rw [outputs, chain_high, settled_high]

/-- Four outputs are pulses in every state. -/
theorem pulses_of_not_clears (ordinary : ¬ o.Clears) : s.Pulses ids i o := by
  rw [Pulses, step_high, triggers, if_neg ordinary]
  cases s.accepts i o.kind <;> simp

/-- A clear is one as long as it is low, or rewritten. -/
theorem pulses_iff_of_clears (clears : o.Clears) :
    s.Pulses ids i o ↔ s.accepts i o.kind = true ∨ o.high s = false := by
  rw [Pulses, step_high, triggers, if_pos clears]
  cases s.accepts i o.kind <;> simp

/-- The decoder does not run at two clock edges in a row. -/
theorem not_accepts_after {kind : CommandKind} (accepted : s.accepts i kind = true) (j : RiscvIn)
    (kind' : CommandKind) : (s.step ids i).accepts j kind' = false := by
  rw [accepts, Bool.and_eq_true] at accepted
  have done : (s.step ids i).decodePending = false := by
    have turn := accepted.1
    simp only [decodes, Bool.and_eq_true, Bool.not_eq_true'] at turn
    obtain ⟨⟨⟨⟨deaf, parked⟩, diag⟩, tdc⟩, pending⟩ := turn
    have chain : s.chain i (s.settled i) = s.decode i (s.settled i) := by
      simp [RiscvControl.chain, deaf, parked, diag, tdc, pending]
    change (s.chain i (s.settled i)).next.decodePending = false
    rw [chain]
    exact decode_command.2
  simp [accepts, decodes, done]

/-- A run from a state in which a clear is low: it is a pulse as long as nothing follows a request. -/
theorem along_pulses_iff (clears : o.Clears) (low : o.high s = false) (is : List RiscvIn) :
    (riscvControl ids).Along (fun s i => s.Pulses ids i o) s is ↔
      (riscvControl ids).Along (fun s i => s.triggers i o = false) s is.dropLast := by
  induction is generalizing s with
  | nil => exact Iff.rfl
  | cons i is ih =>
    have now : s.Pulses ids i o := (pulses_iff_of_clears ids clears).mpr (.inr low)
    cases is with
    | nil => exact iff_of_true ⟨now, trivial⟩ trivial
    | cons j is =>
      rw [List.dropLast_cons_cons, along_cons, along_cons]
      cases request : s.triggers i o with
      | false =>
        have still : o.high (s.step ids i) = false := now.trans request
        exact and_congr (iff_of_true now request) (ih still)
      | true =>
        -- the level stays for the next edge, at which nothing is decoded
        have stuck : ¬ (s.step ids i).Pulses ids j o := by
          have accepted : s.accepts i o.kind = true := (Bool.and_eq_true _ _ ▸ request).1
          have level : o.high (s.step ids i) = true := now.trans request
          rw [pulses_iff_of_clears ids clears, not_accepts_after ids accepted, level]
          simp
        exact iff_of_false (fun pulses => stuck pulses.2.1) (fun quiet => Bool.noConfusion (request.symm.trans quiet.1))

end RiscvControl

/-! ## Runs -/

/-- Every output is, after every clock edge of the run, high exactly if the edge has accepted a command
    that requests it. -/
def OneShots (ids : BuildIds) (is : List RiscvIn) : Prop :=
  ∀ o : OneShot, (riscvControl ids).Along (fun s i => s.Pulses ids i o) RiscvControl.reset is

/-- No clear is requested before the last clock edge of the run. -/
def Unrequested (ids : BuildIds) (is : List RiscvIn) : Prop :=
  ∀ o : OneShot, o.Clears →
    (riscvControl ids).Along (fun s i => s.triggers i o = false) RiscvControl.reset is.dropLast

/-- A run in which a clear is requested has one-shot outputs only if it ends there. -/
theorem oneShots_iff_unrequested (ids : BuildIds) (is : List RiscvIn) :
    OneShots ids is ↔ Unrequested ids is := by
  constructor
  · intro shots o clears
    have low : o.high .reset = false := by cases o <;> rfl
    exact (RiscvControl.along_pulses_iff ids clears low is).mp (shots o)
  · intro quiet o
    by_cases clears : o.Clears
    · have low : o.high .reset = false := by cases o <;> rfl
      exact (RiscvControl.along_pulses_iff ids clears low is).mpr (quiet o clears)
    · exact (riscvControl ids).along_of_forall (fun s i => RiscvControl.pulses_of_not_clears ids clears) .reset is

def onWire (tdata : BitVec 64) (tfirst tlast : Bool) (wordCount : Nat) : RiscvIn :=
  { (default : RiscvIn) with
    rvctrlValid := true
    rvctrl := ⟨tdata, tfirst, tlast, wordCount, rvctrlProtocolRf2⟩ }

/-- A DIAG_CONTROL that clears event 0 arrives, and four cycles pass. -/
def clearsEvent : List RiscvIn :=
  [onWire (rf2OpDiagControl ++ 3#32) true false 6, onWire (8#32 ++ 1#32) false false 6,
    onWire (0#32 ++ 1#32) false true 6] ++ List.replicate 4 default

theorem clearsEvent_not_oneShots : ¬ OneShots ⟨0, 0, 0⟩ clearsEvent := by
  intro shots
  exact absurd (shots .diagClearEventsPulse) (by decide)

end Xczu47dr.Control
