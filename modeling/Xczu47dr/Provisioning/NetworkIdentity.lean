import Xczu47dr.Codes.HexText

/-! # Provisioning a network identity

`provision_board` up to the NETWORK_APPLY it sends: the addresses are validated,
compared with those of the boards that answered the discovery, and probed by
ARP. Texts are lists of code points, as the comparisons of the source see them.
-/

namespace Xczu47dr.Provisioning

open HexText

/-! ## Discovered boards -/

structure DiscoveredBoard where
  deviceUid : Text
  currentIp : Text
  currentMac : Text
  revision : Nat
deriving DecidableEq

/-- What a board reports of itself in a NETWORK_GET response. -/
structure Identity where
  uid : BitVec 64
  ip : BitVec 32
  mac : BitVec 48
  revision : BitVec 32
deriving DecidableEq

/-- `str(ipaddress.IPv4Address(...))`, `socket.inet_ntoa` -/
def dotted (octets : List Nat) : Text := ['.'].intercalate (octets.map fun octet => Nat.toDigits 10 octet)

/-- `_u32_ipv4` -/
def u32Ipv4 (value : BitVec 32) : Text :=
  dotted [value.toNat / 2 ^ 24, value.toNat / 2 ^ 16 % 256, value.toNat / 2 ^ 8 % 256, value.toNat % 256]

/-- `_u64_mac` -/
def u64Mac (value : BitVec 48) : Text := pairsJoined ':' (hexText 12 value.toNat)

/-- `_board_from_response` of the decoded words -/
def Identity.board (identity : Identity) : DiscoveredBoard :=
  { deviceUid := hexText 16 identity.uid.toNat, currentIp := u32Ipv4 identity.ip, currentMac := u64Mac identity.mac,
    revision := identity.revision.toNat }

/-! ## Validation -/

inductive AddressField where
  | ip
  | subnetMask
  | gateway
  | verificationSourceIp
deriving DecidableEq

/-- The errors raised before NETWORK_APPLY is sent. -/
inductive Refusal where
  | ipv4 (field : AddressField) (value : Text)
  | macLength (value : Text)
  | macDigits (value : Text)
  | macUnicast (value : Text)
  | port
  | ipUsed (ip deviceUid : Text)
  | macUsed (mac deviceUid : Text)
  | ipConflict (ip : Text)
  | unverified
deriving DecidableEq

/-- One octet of `ipaddress.IPv4Address`: ASCII digits, no leading zero, one byte. -/
def octet (text : Text) : Option Nat :=
  if text = [] ∨ ¬ text.all Char.isDigit ∨ 3 < text.length ∨ (text.head? = some '0' ∧ text ≠ ['0']) then none
  else
    let value := text.foldl (fun value c => 10 * value + (c.toNat - 48)) 0
    if value ≤ 255 then some value else none

/-- `_validate_ipv4` -/
def validateIpv4 (value : Text) (field : AddressField) : Except Refusal Text :=
  let parts := value.splitOn '.'
  match parts.mapM octet with
  | some octets => if parts.length = 4 then .ok (dotted octets) else .error (.ipv4 field value)
  | none => .error (.ipv4 field value)

/-- The text without the separators of its digits. -/
def unseparated (value : Text) : Text := (value.filter (· ≠ ':')).filter (· ≠ '-')

/-- The number `_validate_mac` and `_mac_u64` read. -/
def macNumber (value : Text) : Option Nat := readHex (unseparated value)

/-- `_validate_mac` -/
def validateMac (value : Text) : Except Refusal Text :=
  if (unseparated value).length ≠ 12 then .error (.macLength value)
  else
    match macNumber value with
    | none => .error (.macDigits value)
    | some number =>
        if number = 0 ∨ number = 0xFFFFFFFFFFFF ∨ number / 2 ^ 40 % 2 = 1 then .error (.macUnicast value)
        else .ok (pairsJoined ':' (lower (unseparated value)))

/-! ## Provisioning -/

def isSpace (c : Char) : Bool := blank c || c.toNat ∈ [0x1c, 0x1d, 0x1e, 0x1f]

/-- `str(text).strip().lower()` -/
def normalized (text : Text) : Text := lower (strip isSpace text)

/-- Python's `left or right` on texts. -/
def orElse (left right : Text) : Text := if left = [] then right else left

/-- One board of the loop of `_check_duplicate_assignments`. -/
def checkBoard (board : DiscoveredBoard) (ip mac excludeDeviceUid excludeDeviceMac : Text) : Except Refusal Unit :=
  let normalizedUid := normalized excludeDeviceUid
  let identityMac := normalized (orElse excludeDeviceMac mac)
  if normalizedUid ≠ [] ∧ normalized board.deviceUid = normalizedUid ∧ normalized board.currentMac = identityMac then
    .ok ()
  else if board.currentIp = ip ∧ lower board.currentMac ≠ lower mac then .error (.ipUsed ip board.deviceUid)
  else if lower board.currentMac = lower mac ∧ board.currentIp ≠ ip then .error (.macUsed mac board.deviceUid)
  else .ok ()

/-- `_check_duplicate_assignments` -/
def checkDuplicateAssignments (ip mac excludeDeviceUid excludeDeviceMac : Text) :
    List DiscoveredBoard → Except Refusal Unit
  | [] => .ok ()
  | board :: rest =>
      match checkBoard board ip mac excludeDeviceUid excludeDeviceMac with
      | .ok () => checkDuplicateAssignments ip mac excludeDeviceUid excludeDeviceMac rest
      | .error refusal => .error refusal

/-- The identity a caller asks for. -/
structure Target where
  ip : Text
  mac : Option Text

structure Options where
  subnetMask : Text
  gateway : Text
  port : Int
  revision : Option Nat
  rejectUnverifiedConflict : Bool
  verificationSourceIp : Option Text

def Options.verifiedSourceIp (options : Options) : Except Refusal Text :=
  match options.verificationSourceIp with
  | some source => validateIpv4 source .verificationSourceIp
  | none => .ok []

/-- The NETWORK_APPLY request. -/
structure NetworkApply where
  deviceUid : Text
  revision : Nat
  ip : Text
  mac : Text
  subnetMask : Text
  gateway : Text
  port : Int
deriving DecidableEq

def Target.requestedMac (target : Target) (board : DiscoveredBoard) : Text :=
  orElse (target.mac.getD []) board.currentMac

/-- `provision_board` until it sends NETWORK_APPLY; `probe` is what `_probe_ip_conflict` answers. -/
def provisionBoard (board : DiscoveredBoard) (target : Target) (options : Options) (knownBoards : List DiscoveredBoard)
    (probe : Option Bool) : Except Refusal NetworkApply := do
  let targetIp ← validateIpv4 target.ip .ip
  let targetMask ← validateIpv4 options.subnetMask .subnetMask
  let targetGateway ← validateIpv4 options.gateway .gateway
  let targetMac ← validateMac (target.requestedMac board)
  let _ ← options.verifiedSourceIp
  if ¬ (1 ≤ options.port ∧ options.port ≤ 65535) then throw .port
  checkDuplicateAssignments targetIp targetMac board.deviceUid board.currentMac knownBoards
  let conflict := if targetIp = board.currentIp then some false else probe
  if conflict = some true then throw (.ipConflict targetIp)
  if conflict = none ∧ options.rejectUnverifiedConflict then throw .unverified
  return { deviceUid := board.deviceUid, revision := options.revision.getD (board.revision + 1), ip := targetIp,
           mac := targetMac, subnetMask := targetMask, gateway := targetGateway, port := options.port }

end Xczu47dr.Provisioning
