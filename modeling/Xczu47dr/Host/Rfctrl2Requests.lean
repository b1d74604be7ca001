import Xczu47dr.Host.Rfctrl2Responses

/-! # The RFCTRL2 requests of the host

`pack_rfctrl2_*` of `protocol.py` for the commands that carry arguments.  An integer
argument may have any size.  The arguments of an RFDC apply are those behind the rounding,
in Hz, millidegrees and microamperes.
-/

namespace Xczu47dr.Host

open Wire

def udpRfctrl2Magic : Nat := 0x00324C5254434652
def rf2OpRfdcApply : Nat := 0x03
def rf2OpNetworkApply : Nat := 0x0D
def rf2OpTdcReg : Nat := 0x11
def rf2OpDiagControl : Nat := 0x13
def rfdcNcoMinHz : Int := -3200000000
def rfdcNcoMaxHz : Int := 3200000000

/-- `value & 0xFFFFFFFF` -/
def masked32 (value : Int) : Nat := (value % 2 ^ 32).toNat

/-- `pack_rfctrl2_packet`, whose `flags` are always zero. -/
def packRfctrl2Packet (opcode : Nat) (payload : List Byte) (seq : Int) : List Byte :=
  pack [(8, udpRfctrl2Magic), (8, opcode <<< 32 ||| rfctrl2Version),
    (8, masked32 payload.length <<< 32 ||| masked32 seq)] ++ padded payload

/-- The events are masked, so that an argument of any size is accepted. -/
structure DiagControlArguments where
  events : Int
  counters : Bool
  seq : Int

def packRfctrl2DiagControl (a : DiagControlArguments) : Except ProtocolError (List Byte) :=
  return packRfctrl2Packet rf2OpDiagControl (pack [(4, masked32 a.events), (4, if a.counters then 1 else 0)]) a.seq

structure TdcRegisterArguments where
  address : Int
  write : Int
  data : Int
  seq : Int

def packRfctrl2TdcRegister (a : TdcRegisterArguments) : Except ProtocolError (List Byte) := do
  if ¬ (0 ≤ a.address ∧ a.address ≤ 0xFFFF) ∨ a.address % 4 ≠ 0 then
    throw (.parameterRange "TDC register address must be aligned and in 0x0000..0xFFFC")
  if ¬ (0 ≤ a.data ∧ a.data ≤ 0xFFFFFFFF) ∨ ¬ (a.write = 0 ∨ a.write = 1) then
    throw (.parameterRange "TDC data must be unsigned 32-bit and write must be 0 or 1")
  return packRfctrl2Packet rf2OpTdcReg
    (pack [(4, a.write.toNat), (4, a.address.toNat), (4, a.data.toNat), (4, 0)]) a.seq

/-- The values of the eight channels, in their order. -/
structure RfdcApplyArguments where
  ncoHz : Fin 8 → Int
  nyquistZone : Fin 8 → Int
  phaseMdeg : Fin 8 → Int
  currentUa : Fin 8 → Int
  revision : Int
  channelMask : Int
  seq : Int

namespace RfdcApplyArguments

variable (a : RfdcApplyArguments)

/-- `channel in (5, 6)` -/
def dcCoupled (ch : Fin 8) : Bool := ch = 4 || ch = 5

/-- `current_min, current_max` -/
def currentRange (ch : Fin 8) : Int × Int := if dcCoupled ch then (6400, 32000) else (2250, 40500)

def currentText (ch : Fin 8) : String :=
  let range := if dcCoupled ch then "DC-coupled DAC current must be in [6.4, 32] mA" else
    "AC-coupled DAC current must be in [2.25, 40.5] mA"
  s!"RFDC CH{ch.val + 1} {range}"

/-- One turn of the loop over the channels. -/
def packChannel (ch : Fin 8) : Except ProtocolError (List Byte) := do
  if ¬ (rfdcNcoMinHz ≤ a.ncoHz ch ∧ a.ncoHz ch ≤ rfdcNcoMaxHz) then
    throw (.parameterRange s!"RFDC CH{ch.val + 1} nco_hz must be in [{rfdcNcoMinHz}, {rfdcNcoMaxHz}]")
  if ¬ (a.nyquistZone ch = 1 ∨ a.nyquistZone ch = 2) then
    throw (.parameterRange s!"RFDC CH{ch.val + 1} nyquist_zone must be 1 or 2")
  if ¬ ((currentRange ch).1 ≤ a.currentUa ch ∧ a.currentUa ch ≤ (currentRange ch).2) then
    throw (.parameterRange (currentText ch))
  if ¬ (-2 ^ 31 ≤ a.phaseMdeg ch ∧ a.phaseMdeg ch < 2 ^ 31) then throw .layout
  return pack [(8, (BitVec.ofInt 64 (a.ncoHz ch)).toNat), (4, (a.nyquistZone ch).toNat),
    (4, (BitVec.ofInt 32 (a.phaseMdeg ch)).toNat), (4, (a.currentUa ch).toNat), (4, 0)]

end RfdcApplyArguments

def packRfctrl2RfdcApply (a : RfdcApplyArguments) : Except ProtocolError (List Byte) := do
  if ¬ (1 ≤ a.channelMask ∧ a.channelMask ≤ 0xFF) then
    throw (.parameterRange s!"RFDC channel_mask must select CH1..CH8, got 0x{hexUpper a.channelMask}")
  let entries ← (List.finRange 8).mapM a.packChannel
  return packRfctrl2Packet rf2OpRfdcApply
    (pack [(4, masked32 a.revision), (4, a.channelMask.toNat)] ++ entries.flatten) a.seq

structure NetworkApplyArguments where
  revision : Int
  ip : String
  mac : String
  subnetMask : String
  gateway : String
  port : Int
  seq : Int

/-- `socket.inet_aton` as a number in network order, and `int(raw, 16)`. -/
structure TextParsers where
  inetAton : String → Option (BitVec 32)
  hexadecimal : String → Option Int

namespace TextParsers

variable (text : TextParsers)

/-- `_ipv4_u32` -/
def ipv4U32 (value : String) : Except ProtocolError (BitVec 32) :=
  match text.inetAton value with
  | some address => .ok address
  | none => .error (.parameterRange s!"invalid IPv4 address: {value}")

/-- `_mac_u64` -/
def macU64 (value : String) : Except ProtocolError (BitVec 48) := do
  let raw := value.toList.filter fun c => c ≠ ':' ∧ c ≠ '-'
  if raw.length ≠ 12 then throw (.parameterRange s!"invalid MAC address: {value}")
  match text.hexadecimal (String.ofList raw) with
  | none => throw (.parameterRange s!"invalid MAC address: {value}")
  | some number =>
    let parsed := BitVec.ofInt 48 number
    if parsed = 0 ∨ parsed = BitVec.allOnes 48 ∨ parsed.getLsbD 40 = true then
      throw (.parameterRange s!"invalid unicast MAC address: {value}")
    return parsed

def packRfctrl2NetworkApply (a : NetworkApplyArguments) : Except ProtocolError (List Byte) := do
  if ¬ (1 ≤ a.port ∧ a.port ≤ 65535) then throw (.parameterRange s!"invalid UDP port: {a.port}")
  let ip ← text.ipv4U32 a.ip
  let mac ← text.macU64 a.mac
  let subnet ← text.ipv4U32 a.subnetMask
  let gateway ← text.ipv4U32 a.gateway
  return packRfctrl2Packet rf2OpNetworkApply
    (pack [(4, masked32 a.revision), (4, ip.toNat), (8, mac.toNat), (4, subnet.toNat), (4, gateway.toNat),
      (2, a.port.toNat), (2, 0), (4, 0)]) a.seq

end TextParsers

end Xczu47dr.Host
