import Xczu47dr.Clocked.Cascade
import Xczu47dr.Control.WholeCommands

/-! # The control path

`udp_rvctrl_framer` drives `pl_riscv_control_v1` on the same clock.
-/

namespace Xczu47dr.Control

open Clocked Machine

/-- The framer's registers on the command port. -/
def commandPort (f : Framer) (i : RiscvIn) : RiscvIn :=
  { i with rvctrlValid := f.rvctrlValid, rvctrl := f.rvctrl }

def controlPath (ids : BuildIds) : Machine (UdpIn × RiscvIn) (Framer × RiscvControl) :=
  cascade framer (riscvControl ids) commandPort

/-- The log of a run of the control path, as the command machine emits it. -/
def pathLog {Event : Type} (ids : BuildIds) (emit : RiscvControl → RiscvIn → List Event)
    (is : List (UdpIn × RiscvIn)) : List Event :=
  (controlPath ids).log (fun s i => emit s.2 (commandPort s.1 i.2)) (controlPath ids).reset is

/-- The decoder has executed exactly the packets that fit the payload buffer and of
    which every word was heard, whole and in their order; `arrived` says that the words
    the tags belong to are the words of the packets. -/
structure DecodedWhole (ids : BuildIds) (packets : List CommandPacket) (is : List (UdpIn × RiscvIn)) :
    Prop where
  decoded : pathLog ids RiscvControl.decoded is =
    ((RiscvControl.wholePackets packets (pathLog ids RiscvControl.heard is)).filter fun p => p.Fits).map
      CommandPacket.command
  arrived : pathLog ids RiscvControl.arrived is = packets.flatMap CommandPacket.body

theorem map_presented (f : Framer) (is : List (UdpIn × RiscvIn)) :
    (driven framer commandPort f is).map RiscvControl.presented =
      (f.shown :: f.shows (is.map Prod.fst)).dropLast := by
  induction is generalizing f with
  | nil => rfl
  | cons i is ih =>
    rw [driven, List.map_cons, ih, List.map_cons, Framer.shows_cons, List.dropLast_cons_cons]
    rfl

/-- Commands are decoded whole: in every stream of well-formed packets with two idle
    cycles behind each, and three more at the end, whatever the other inputs do. -/
theorem decodedWhole_of_spaced (ids : BuildIds) (ts : List Transmission) (rest : List UdpIn)
    (idle : ∀ c ∈ rest, c.tvalid = false) (three : rest.length = 3) (is : List (UdpIn × RiscvIn))
    (udp : is.map Prod.fst = udpStream ts ++ rest) :
    DecodedWhole ids (ts.map Transmission.packet) is := by
  have parked : (Framer.reset).Parked := ⟨rfl, rfl⟩
  obtain ⟨after, stream, shows, arrives⟩ := parked.shows_transmissions ts
  have silent := (after.shows_idle rest idle).1
  have presents : (driven framer commandPort .reset is).map RiscvControl.presented =
      none :: none :: none :: stream := by
    rw [map_presented, udp, Framer.shows_append, silent, three]
    have ends : Framer.reset.shown :: (Framer.shows .reset (udpStream ts) ++ List.replicate 3 none) =
        none :: (Framer.shows .reset (udpStream ts) ++ [none, none]) ++ [none] := by
      simp [Framer.shown, Framer.reset]
    rw [ends, List.dropLast_concat, shows]
  have whole := RiscvControl.rest_reset.stream ids arrives.idle.idle.idle presents
  have log {Event : Type} (emit : RiscvControl → RiscvIn → List Event) :
      pathLog ids emit is = (riscvControl ids).log emit .reset (driven framer commandPort .reset is) :=
    log_cascade framer (riscvControl ids) commandPort emit .reset .reset is
  exact ⟨by rw [log, log]; exact whole.1, by rw [log]; exact whole.2⟩

/-- A bare command, its words back to back. -/
def bareTransmission (opcode sequence : BitVec 32) : Transmission where
  toReception := Framer.packet [rfctrl2Magic, opcode ++ 3#32] (0#32 ++ sequence) 2
  packet := {
    hdr0 := opcode ++ 3#32
    hdr1 := 0#32 ++ sequence
    payload := []
    length := by
      have none : payloadBytes (0#32 ++ sequence) = 0 := by
        rw [payloadBytes, BitVec.extractLsb'_append_eq_left]
        rfl
      rw [none]
      rfl
    short := by decide }
  carries := by
    simp [Reception.words, Reception.bodyWords, Framer.packet, udpWords, CommandPacket.words, CommandPacket.body]
  spaced := by simp [Framer.packet]

def twoCommands : List Transmission := [bareTransmission rf2OpStatus 1, bareTransmission rf2OpHello 2]

def threeIdle : List UdpIn := List.replicate 3 ⟨false, 0, false⟩

theorem twoCommands_decodedWhole :
    DecodedWhole ⟨0, 0, 0⟩ (twoCommands.map Transmission.packet)
      ((udpStream twoCommands ++ threeIdle).map fun c => (c, default)) :=
  decodedWhole_of_spaced _ twoCommands threeIdle (by simp [threeIdle]) rfl _ (by
    rw [List.map_map]
    exact List.map_id _)

end Xczu47dr.Control
