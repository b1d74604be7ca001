import Xczu47dr.Control.WholeCommands
import Xczu47dr.Host.PackedWaves
import Xczu47dr.Host.Rfctrl2Requests

/-! # The words of the control requests

The fields of a request are 32-bit words behind the header.  Its bytes carry two of them in
each word of the UDP stream, and `pl_riscv_control_v1` counts them one by one again.
-/

namespace Xczu47dr.Control

open Wire
open Host (packRfctrl2Packet masked32)

/-- Two 32-bit words in each 64-bit word, the first in the low half. -/
def pairs : List (BitVec 32) → List (BitVec 64)
  | lo :: hi :: rest => (hi ++ lo) :: pairs rest
  | _ => []

def fieldBytes (fields : List (BitVec 32)) : List Byte := fields.flatMap fun field => littleEndian 4 field.toNat

section Pairs

variable {fields : List (BitVec 32)} {n : Nat}

theorem exists_pair (even : fields.length = 2 * (n + 1)) :
    ∃ lo hi rest, fields = lo :: hi :: rest ∧ rest.length = 2 * n := by
  match fields, even with
  | lo :: hi :: rest, even =>
    refine ⟨lo, hi, rest, rfl, ?_⟩
    rw [List.length_cons, List.length_cons] at even
    omega

theorem length_pairs (even : fields.length = 2 * n) : (pairs fields).length = n := by
  induction n generalizing fields with
  | zero =>
    rw [List.length_eq_zero_iff.mp even]
    rfl
  | succ n ih =>
    obtain ⟨lo, hi, rest, rfl, shorter⟩ := exists_pair even
    rw [pairs, List.length_cons, ih shorter]

theorem wordBytes_pairs (even : fields.length = 2 * n) : wordBytes (pairs fields) = fieldBytes fields := by
  induction n generalizing fields with
  | zero =>
    rw [List.length_eq_zero_iff.mp even]
    rfl
  | succ n ih =>
    obtain ⟨lo, hi, rest, rfl, shorter⟩ := exists_pair even
    rw [pairs, wordBytes_cons, ih shorter, littleEndian_append 4 4 hi lo rfl]
    simp only [fieldBytes, List.flatMap_cons, List.append_assoc]

@[simp] theorem length_fieldBytes (fields : List (BitVec 32)) : (fieldBytes fields).length = 4 * fields.length := by
  induction fields with
  | nil => rfl
  | cons field fields ih =>
    rw [fieldBytes, List.flatMap_cons, List.length_append, length_littleEndian, List.length_cons]
    rw [fieldBytes] at ih
    omega

end Pairs

/-- A command by its header fields and its arguments, which fit the payload buffer. -/
structure FieldCommand where
  opcode : BitVec 32
  sequence : BitVec 32
  fields : List (BitVec 32)
  count : Nat
  even : fields.length = 2 * count
  fits : count ≤ 30

namespace FieldCommand

variable (c : FieldCommand)

def hdr0 : BitVec 64 := c.opcode ++ 3#32

def hdr1 : BitVec 64 := BitVec.ofNat 32 (4 * c.fields.length) ++ c.sequence

theorem payloadBytes_hdr1 : payloadBytes c.hdr1 = 4 * c.fields.length := by
  have fits := c.fits
  have even := c.even
  have high : c.hdr1.extractLsb' 32 32 = BitVec.ofNat 32 (4 * c.fields.length) := BitVec.extractLsb'_append_eq_left
  rw [payloadBytes, high, BitVec.toNat_ofNat]
  omega

def packet : CommandPacket where
  hdr0 := c.hdr0
  hdr1 := c.hdr1
  payload := pairs c.fields
  length := by
    have even := c.even
    rw [length_pairs c.even, payloadBytes_hdr1]
    omega
  short := by
    have fits := c.fits
    rw [length_pairs c.even]
    omega

theorem packed {opcode : Nat} {payload : List Byte} {seq : Int} (opcode_lt : opcode < 2 ^ 32)
    (code : c.opcode = BitVec.ofNat 32 opcode) (number : c.sequence = BitVec.ofInt 32 seq)
    (carries : payload = fieldBytes c.fields) :
    packRfctrl2Packet opcode payload seq = wordBytes c.packet.words := by
  have fits := c.fits
  have even := c.even
  have long : payload.length = 4 * c.fields.length := by rw [carries, length_fieldBytes]
  have unpadded : Host.padded payload = payload := by
    rw [Host.padded, long, show (8 - 4 * c.fields.length % 8) % 8 = 0 by omega, List.replicate_zero,
      List.append_nil]
  have joined {lo hi : BitVec 32} : hi.toNat <<< 32 ||| lo.toNat = (hi ++ lo).toNat :=
    (BitVec.toNat_append hi lo).symm
  have head : opcode <<< 32 ||| Host.rfctrl2Version = c.hdr0.toNat := by
    have same : c.opcode.toNat = opcode := by
      rw [code, BitVec.toNat_ofNat]
      omega
    rw [hdr0, ← joined, same]
    rfl
  have tail : masked32 payload.length <<< 32 ||| masked32 seq = c.hdr1.toNat := by
    have count : masked32 payload.length = (BitVec.ofNat 32 (4 * c.fields.length)).toNat := by
      rw [masked32, long, BitVec.toNat_ofNat]
      omega
    have same : masked32 seq = c.sequence.toNat := by
      rw [masked32, number, BitVec.toNat_ofInt]
      rfl
    rw [count, same, joined, hdr1]
  rw [packRfctrl2Packet, head, tail, unpadded, carries, ← wordBytes_pairs c.even]
  simp only [pack, List.flatMap_cons, List.flatMap_nil, CommandPacket.words, CommandPacket.body, wordBytes_cons,
    List.append_assoc, List.append_nil]
  rfl

end FieldCommand

/-! ## The four requests -/

open Refusals
open Host (RfdcApplyArguments NetworkApplyArguments TdcRegisterArguments DiagControlArguments TextParsers
  ProtocolError)

theorem toNat_ofInt_unsigned {w : Nat} {value : Int} (least : 0 ≤ value) (most : value < 2 ^ w) :
    (BitVec.ofInt w value).toNat = value.toNat := by
  rw [BitVec.toNat_ofInt]
  push_cast
  rw [Int.emod_eq_of_lt least most]

/-- The loop over the channels accepts each of them. -/
theorem mapM_ok {α β ε : Type} {f : α → Except ε β} {P : α → Prop} {g : α → β}
    (one : ∀ a b, f a = .ok b → P a ∧ b = g a) {xs : List α} {ys : List β} (all : xs.mapM f = .ok ys) :
    (∀ a ∈ xs, P a) ∧ ys = xs.map g := by
  induction xs generalizing ys with
  | nil =>
    rw [List.mapM_nil, pure_ok] at all
    exact ⟨nofun, all⟩
  | cons a xs ih =>
    simp only [List.mapM_cons, bind_ok, pure_ok] at all
    obtain ⟨b, first, bs, rest, rfl⟩ := all
    obtain ⟨holds, rfl⟩ := one a b first
    obtain ⟨others, rfl⟩ := ih rest
    exact ⟨List.forall_mem_cons.mpr ⟨holds, others⟩, rfl⟩

end Xczu47dr.Control
