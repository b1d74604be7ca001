import Mathlib.Tactic.FinCases
import Xczu47dr.Control.ControlPath
import Xczu47dr.Control.PackedCommands

/-! # What the requests of the host drive

A request that the host packs is decoded with its fields, and drives the outputs of its
command with its arguments, or is refused because the hardware is not ready or busy.
-/

namespace Xczu47dr.Control

open Clocked Machine
open Host (RfdcApplyArguments NetworkApplyArguments TdcRegisterArguments DiagControlArguments TextParsers
  ProtocolError masked32)

namespace RiscvControl

variable {ids : BuildIds} {s : RiscvControl} {i : RiscvIn}

/-- The registers hold the command and its fields. -/
structure Carries (c : FieldCommand) (s : RiscvControl) : Prop where
  kind : s.cmdKind = decodeKind c.opcode
  sequence : s.cmdSeq = c.sequence
  flags : s.cmdFlags = 0
  payloadBytes : s.cmdPayloadBytes = BitVec.ofNat 32 (4 * c.fields.length)
  version : s.cmdVersionValid = true
  expected : s.rxExpectedWords = 4 + c.fields.length
  reserved : s.rfdcPayloadFieldsInvalid = reservedIn c.packet.body
  field : ∀ j < c.fields.length, s.payloadWords (4 + j) = c.fields.getD j 0

/-- One execution of the decoder: its command, the status it refuses with, and the
    registers it leaves. -/
structure Execution where
  command : Command
  refusal : Option (BitVec 16)
  after : RiscvControl

/-- Refused as busy or as not ready, or else the outputs are driven. -/
def Execution.Serves (drives : RiscvControl → Prop) (e : Execution) : Prop :=
  (e.refusal = some 4 ∨ e.refusal = some 5) ∨ e.refusal = none ∧ drives e.after

/-- The outputs carry the arguments of a TDC_REG. -/
structure DrivesTdc (a : TdcRegisterArguments) (t : RiscvControl) : Prop where
  valid : t.tdcRegValid = true
  write : t.tdcRegWrite = decide (a.write = 1)
  addr : (t.tdcRegAddr.toNat : Int) = a.address
  wdata : (t.tdcRegWdata.toNat : Int) = a.data

/-- The clears that a DIAG_CONTROL asks for; the events are cleared together. -/
structure DrivesDiag (a : DiagControlArguments) (t : RiscvControl) : Prop where
  events : t.diagClearEventsPulse = decide (masked32 a.events ≠ 0)
  counters : t.diagClearCountersPulse = a.counters

structure DrivesNetwork (text : TextParsers) (a : NetworkApplyArguments) (t : RiscvControl) : Prop where
  start : t.networkApplyStart = true
  revision : t.networkRequest.revision.toNat = masked32 a.revision
  ip : text.inetAton a.ip = some t.networkRequest.ip
  mac : ∃ mac, text.macU64 a.mac = .ok mac ∧ t.networkRequest.mac = mac.setWidth 64
  subnet : text.inetAton a.subnetMask = some t.networkRequest.subnet
  gateway : text.inetAton a.gateway = some t.networkRequest.gateway
  port : (t.networkRequest.port.toNat : Int) = a.port

structure DrivesRfdc (a : RfdcApplyArguments) (t : RiscvControl) : Prop where
  start : t.rfdcApplyStart = true
  sequence : t.rfdcRequest.sequence.toNat = masked32 a.seq
  revision : t.rfdcRequest.revision.toNat = masked32 a.revision
  channelMask : (t.rfdcRequest.channelMask.toNat : Int) = a.channelMask
  ncoHz (ch : Fin 8) : (t.rfdcRequest.ncoHz ch).toInt = a.ncoHz ch
  nyquistZone (ch : Fin 8) : ((t.rfdcRequest.nyquistZone ch).toNat : Int) = a.nyquistZone ch
  phaseMdeg (ch : Fin 8) : (t.rfdcRequest.phaseMdeg ch).toInt = a.phaseMdeg ch
  currentUa (ch : Fin 8) : ((t.rfdcRequest.currentUa ch).toNat : Int) = a.currentUa ch

theorem toNat_ofInt {w : Nat} {value : Int} (least : 0 ≤ value) (most : value < 2 ^ w) :
    ((BitVec.ofInt w value).toNat : Int) = value := by
  rw [toNat_ofInt_unsigned least most]
  omega

end RiscvControl

/-! ## A request on its way -/

/-- The requests of the host that carry arguments. -/
inductive ControlRequest
  | rfdcApply (a : RfdcApplyArguments)
  | networkApply (a : NetworkApplyArguments)
  | tdcRegister (a : TdcRegisterArguments)
  | diagControl (a : DiagControlArguments)

namespace ControlRequest

variable (text : TextParsers)

def pack : ControlRequest → Except ProtocolError (List Wire.Byte)
  | .rfdcApply a => Host.packRfctrl2RfdcApply a
  | .networkApply a => text.packRfctrl2NetworkApply a
  | .tdcRegister a => Host.packRfctrl2TdcRegister a
  | .diagControl a => Host.packRfctrl2DiagControl a

/-- The outputs of its command carry its arguments. -/
def Drives : ControlRequest → RiscvControl → Prop
  | .rfdcApply a => RiscvControl.DrivesRfdc a
  | .networkApply a => RiscvControl.DrivesNetwork text a
  | .tdcRegister a => RiscvControl.DrivesTdc a
  | .diagControl a => RiscvControl.DrivesDiag a

variable {text} {r : ControlRequest} {bytes : List Wire.Byte}

end ControlRequest

/-- Nothing of an earlier packet is under way, and no RFDC apply is pending. -/
structure BetweenPackets (f : Framer) (s : RiscvControl) : Prop where
  parked : f.Parked
  silent : f.rvctrlValid = false
  rest : s.Rest
  free : s.rfdcResponsePending = false

/-- A packet with two idle cycles behind it, and three more, reaches the command machine. -/
theorem BetweenPackets.presents {f : Framer} {s : RiscvControl} (between : BetweenPackets f s) (t : Transmission)
    {tail : List UdpIn} (idle : ∀ c ∈ tail, c.tvalid = false) (three : tail.length = 3)
    {is : List (UdpIn × RiscvIn)} (udp : is.map Prod.fst = t.cycles ++ tail) :
    ∃ stream n, Delivers t.packet.wordCount true t.packet.body stream ∧
      (driven framer commandPort f is).map RiscvControl.presented =
        none :: none :: none :: (stream ++ List.replicate (n + 3) none) := by
  obtain ⟨after, stream, n, shows, delivers⟩ := between.parked.shows_transmission t
  have quiet := (after.shows_idle tail idle).1
  refine ⟨stream, n, delivers, ?_⟩
  have first : f.shown = none := by rw [Framer.shown, between.silent, if_neg Bool.false_ne_true]
  have ends : List.replicate (n + 1) none ++ List.replicate 3 none =
      (List.replicate (n + 3) none ++ [none] : List (Option RvctrlWord)) := by
    rw [List.replicate_append_replicate, ← List.replicate_succ']
  rw [map_presented, udp, Framer.shows_append, quiet, three, shows, first, List.cons_append, List.cons_append,
    List.append_assoc, ends, ← List.append_assoc]
  change ((none :: none :: none :: (stream ++ List.replicate (n + 3) none)) ++ [none]).dropLast = _
  exact List.dropLast_concat

end Xczu47dr.Control

