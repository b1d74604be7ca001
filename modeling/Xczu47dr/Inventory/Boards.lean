import Xczu47dr.Records.Table

/-! # The board inventory

`ManagementStore`'s table of boards and the functions that write it: the
discovery upsert, the network state update and the admin's board update. An
address or a name the source leaves empty is the empty string here too.
-/

namespace Xczu47dr.Inventory

open Records

/-- Python's `left or right` on strings. -/
def orElse (left right : String) : String := if left = "" then right else left

structure LinkProfile where
  targetIp : String
  targetMac : String
  serialPath : String
  poolPrefix : String
  poolStart : Nat
  poolEnd : Nat

/-- `AUTO_FPGA_LINK_PROFILES` -/
def autoFpgaLinkProfiles (interface : String) : Option LinkProfile :=
  if interface = "enp225s0f0" then
    some { targetIp := "192.168.1.128", targetMac := "02:00:00:00:00:01",
           serialPath := "/dev/serial/by-id/usb-FTDI_FT232R_USB_UART_AQ04KVC7-if00-port0",
           poolPrefix := "192.168.1", poolStart := 128, poolEnd := 254 }
  else if interface = "enp225s0f1" then
    some { targetIp := "192.168.2.128", targetMac := "02:00:00:00:00:02",
           serialPath := "/dev/serial/by-id/usb-FTDI_FT232R_USB_UART_AQ04KVC8-if00-port0",
           poolPrefix := "192.168.2", poolStart := 128, poolEnd := 254 }
  else none

/-- `dynamic_fpga_link_profile`: the operating system says whether the interface is eligible,
and a digest of its name gives the subnet. -/
def dynamicFpgaLinkProfile (subnet : Option Nat) : Option LinkProfile :=
  subnet.map fun octet =>
    { targetIp := "192.168." ++ toString octet ++ ".128", targetMac := "02:00:00:00:00:01", serialPath := "",
      poolPrefix := "192.168." ++ toString octet, poolStart := 128, poolEnd := 254 }

/-- `auto_fpga_link_profile` -/
def autoFpgaLinkProfile (interface : String) (subnet : Option Nat) : Option LinkProfile :=
  (autoFpgaLinkProfiles interface).or (dynamicFpgaLinkProfile subnet)

/-- `ip_pool_for_interface` -/
def ipPoolForInterface : Option LinkProfile → List String
  | none => []
  | some link =>
      (List.range' link.poolStart (link.poolEnd + 1 - link.poolStart)).map fun suffix =>
        link.poolPrefix ++ "." ++ toString suffix

structure Board where
  id : String
  ip : String
  mac : String
  desiredIp : String
  activeIp : String
  desiredMac : String
  activeMac : String
  deviceUid : String
  networkRevision : Nat
  networkApplyStatus : String
  networkApplyError : String
  udpInterface : String
  serialPath : String
  lastSeenAt : Nat
  enabled : Bool
  updatedAt : Nat
deriving DecidableEq

/-- The `boards` table. Its timestamps are numbers, zero for an empty one. -/
abbrev Boards := Table Board.id

/-! ## Discovery -/

/-- `mac_match` -/
def macMatch (left right : String) : Bool :=
  let plain (mac : String) := (mac.toList.filter (· ≠ ':')).map Char.toLower
  plain left == plain right

/-- `ORDER BY last_seen_at DESC, updated_at DESC` -/
def lastSeenFirst (first second : Board) : Prop :=
  second.lastSeenAt < first.lastSeenAt ∨
    (first.lastSeenAt = second.lastSeenAt ∧ second.updatedAt ≤ first.updatedAt)

/-- `ORDER BY enabled DESC, last_seen_at DESC, updated_at DESC` -/
def enabledFirst (first second : Board) : Prop :=
  (first.enabled ∧ !second.enabled) ∨ (first.enabled = second.enabled ∧ lastSeenFirst first second)

instance : DecidableRel lastSeenFirst := fun _ _ => inferInstanceAs (Decidable (_ ∨ _))

instance : DecidableRel enabledFirst := fun _ _ => inferInstanceAs (Decidable (_ ∨ _))

/-- The record a discovery of the device finds: the one seen last. -/
def existing (boards : Boards) (deviceUid activeMac : String) : Option Board :=
  (boards.select (fun board => board.deviceUid = deviceUid ∧
    (activeMac ≠ "" → board.activeMac = activeMac ∨ board.mac = activeMac)) lastSeenFirst).head?

/-- The address a record remembers: the first of its three that is in the pool. -/
def Board.remembered (board : Board) (pool : List String) : Option String :=
  [board.desiredIp, board.activeIp, board.ip].find? (· ∈ pool)

/-- The addresses of the enabled boards of an interface. -/
def used (boards : Boards) (interface : String) : List String :=
  ((boards.rows.filter fun board => board.udpInterface = interface ∧ board.enabled).flatMap fun board =>
    [board.desiredIp, board.activeIp, board.ip]).filter (· ≠ "")

/-- The end of `allocated_ip_for_discovery`, for a device that no record remembers an address of. -/
def allocateFresh (boards : Boards) (link : Option LinkProfile) (interface : String) : Except String String :=
  let pool := ipPoolForInterface link
  let profileTarget := link.map LinkProfile.targetIp
  if pool = [] then .ok (profileTarget.getD "192.168.1.128")
  else
    let preferred := profileTarget.getD ""
    let candidates := preferred :: pool.filter (· ≠ preferred)
    match candidates.find? fun address => address ≠ "" ∧ address ∉ used boards interface with
    | some address => .ok address
    | none => .error ("no free FPGA IP addresses remain for " ++ interface)

/-- `allocated_ip_for_discovery` -/
def allocatedIpForDiscovery (boards : Boards) (link : Option LinkProfile) (interface deviceUid activeMac : String) :
    Except String String :=
  let pool := ipPoolForInterface link
  match existing boards deviceUid activeMac with
  | none => allocateFresh boards link interface
  | some board =>
      match board.remembered pool with
      | some address => .ok address
      | none => if pool = [] ∧ board.ip ≠ "" then .ok board.ip else allocateFresh boards link interface

/-- The arguments of `upsert_discovered_board`. -/
structure DiscoveredBoard where
  deviceUid : String
  udpInterface : String
  activeIp : String
  activeMac : String
  desiredIp : String
  desiredMac : String
  networkRevision : Nat
  networkApplyStatus : String
  networkApplyError : String

/-- The records of the device, those of another MAC left out when the device reports one. -/
def matching (boards : Boards) (found : DiscoveredBoard) : List Board :=
  let rows := boards.select (fun board => board.deviceUid = found.deviceUid) enabledFirst
  if found.activeMac ≠ "" then rows.filter fun board => macMatch (orElse board.activeMac board.mac) found.activeMac
  else rows

/-- The other records of the device are disabled. -/
def disableDuplicates (boards : Boards) (duplicates : List Board) (now : Nat) : Boards :=
  boards.rewrite
    (fun board =>
      if board.id ∈ duplicates.map Board.id then { board with enabled := false, updatedAt := now } else board)
    fun board => by split <;> rfl

/-- The columns both branches of the upsert write. -/
def Board.discovered (board : Board) (found : DiscoveredBoard) (link : Option LinkProfile) (now : Nat) : Board :=
  { board with
    ip := found.activeIp, mac := found.activeMac, desiredIp := found.desiredIp, activeIp := found.activeIp,
    desiredMac := found.desiredMac, activeMac := found.activeMac, deviceUid := found.deviceUid,
    networkRevision := found.networkRevision, networkApplyStatus := found.networkApplyStatus,
    networkApplyError := found.networkApplyError, udpInterface := found.udpInterface,
    serialPath := orElse ((link.map LinkProfile.serialPath).getD "") board.serialPath,
    lastSeenAt := now, enabled := true, updatedAt := now }

@[simp] theorem Board.discovered_id (board : Board) (found : DiscoveredBoard) (link : Option LinkProfile)
    (now : Nat) : (board.discovered found link now).id = board.id := rfl

def Board.blank (id : String) : Board :=
  { id, ip := "", mac := "", desiredIp := "", activeIp := "", desiredMac := "", activeMac := "", deviceUid := "",
    networkRevision := 0, networkApplyStatus := "", networkApplyError := "", udpInterface := "", serialPath := "",
    lastSeenAt := 0, enabled := false, updatedAt := 0 }

@[simp] theorem Board.blank_id (id : String) : (Board.blank id).id = id := rfl

/-- The identifiers tried for a new record: the preferred one, then one for each draw of `uuid4`. -/
def candidateIds (deviceUid : String) (uuids : List String) : List String :=
  let plain := (deviceUid.toList.filter Char.isAlphanum).map Char.toLower
  let tail := String.ofList (plain.drop (plain.length - 8))
  let suffix := orElse tail (String.ofList ((uuids.headD "").toList.take 8))
  let draws := if tail = "" then uuids.drop 1 else uuids
  ("fpga-" ++ suffix) :: draws.map fun uuid => "fpga-" ++ suffix ++ "-" ++ String.ofList (uuid.toList.take 4)

/-- `upsert_discovered_board`; it has not returned while every identifier drawn so far is taken. -/
def upsertDiscoveredBoard (boards : Boards) (found : DiscoveredBoard) (link : Option LinkProfile) (now : Nat)
    (uuids : List String) : Option Boards :=
  match (matching boards found).head? with
  | some row =>
      let duplicates := (matching boards found).filter fun item => item.id ≠ row.id
      some ((disableDuplicates boards duplicates now).amend row.id (·.discovered found link now) fun board =>
        board.discovered_id found link now)
  | none =>
      match (candidateIds found.deviceUid uuids).find? (· ∉ boards.rows.map Board.id) with
      | none => none
      | some id =>
          if free : id ∉ boards.rows.map Board.id then
            some (boards.insert ((Board.blank id).discovered found link now)
              (by rwa [Board.discovered_id, Board.blank_id]))
          else none

/-! ## A network scan -/

/-- What `network_confirm_profile` answers. -/
structure Confirmed where
  currentIp : String
  currentMac : String
  revision : Nat

/-- What a scan learns of a device on one interface. -/
structure Discovery where
  interface : String
  subnet : Option Nat
  deviceUid : String
  currentIp : String
  currentMac : String
  revision : Nat
  confirmed : Except String Confirmed
  now : Nat
  uuids : List String

def Discovery.link (d : Discovery) : Option LinkProfile := autoFpgaLinkProfile d.interface d.subnet

def Discovery.allocated (boards : Boards) (d : Discovery) : Except String String :=
  allocatedIpForDiscovery boards d.link d.interface d.deviceUid d.currentMac

/-- What `scan_boards` records once it has an address for the device: the address is
applied over the network unless the device has it already. -/
def Discovery.found (d : Discovery) (desiredIp : String) : DiscoveredBoard :=
  let targetMac := (d.link.map LinkProfile.targetMac).getD ""
  let desiredMac := orElse (orElse d.currentMac targetMac) "02:00:00:00:00:01"
  let untouched : DiscoveredBoard :=
    { deviceUid := d.deviceUid, udpInterface := d.interface, activeIp := d.currentIp,
      activeMac := orElse d.currentMac desiredMac, desiredIp, desiredMac, networkRevision := d.revision,
      networkApplyStatus := "applied", networkApplyError := "" }
  if d.currentIp ≠ desiredIp ∨ d.currentIp ∉ ipPoolForInterface d.link then
    match d.confirmed with
    | .ok confirmed =>
        { untouched with
          activeIp := orElse confirmed.currentIp desiredIp, activeMac := orElse confirmed.currentMac desiredMac,
          networkRevision := if confirmed.revision = 0 then d.revision + 1 else confirmed.revision }
    | .error reason => { untouched with networkApplyStatus := "failed", networkApplyError := reason }
  else untouched

/-- One interface of `scan_boards`, a device having answered on it. -/
def scan (boards : Boards) (d : Discovery) : Boards :=
  match d.link with
  | none => boards
  | some _ =>
      if d.deviceUid = "" then boards
      else
        match d.allocated boards with
        | .error _ => boards
        | .ok desiredIp => (upsertDiscoveredBoard boards (d.found desiredIp) d.link d.now d.uuids).getD boards

/-! ## Updates -/

structure BoardUpdateRequest where
  ip : String
  mac : String
  desiredIp : String
  activeIp : String
  desiredMac : String
  activeMac : String
  deviceUid : String
  networkRevision : Nat
  networkApplyStatus : String
  networkApplyError : String
  udpInterface : String
  serialPath : String
  enabled : Bool

/-- `normalize_network_fields` -/
def BoardUpdateRequest.normalizeNetworkFields (request : BoardUpdateRequest) : BoardUpdateRequest :=
  let activeIp := orElse request.activeIp request.ip
  let activeMac := orElse request.activeMac request.mac
  { request with
    desiredIp := orElse request.desiredIp request.ip, activeIp,
    desiredMac := orElse request.desiredMac request.mac, activeMac, ip := activeIp, mac := activeMac }

/-- The columns `_write_board` updates. -/
def Board.updated (board : Board) (request : BoardUpdateRequest) (now : Nat) : Board :=
  { board with
    ip := request.ip, mac := request.mac, desiredIp := request.desiredIp, activeIp := request.activeIp,
    desiredMac := request.desiredMac, activeMac := request.activeMac, deviceUid := request.deviceUid,
    networkRevision := request.networkRevision, networkApplyStatus := request.networkApplyStatus,
    networkApplyError := request.networkApplyError, udpInterface := request.udpInterface,
    serialPath := request.serialPath, enabled := request.enabled, updatedAt := now }

@[simp] theorem Board.updated_id (board : Board) (request : BoardUpdateRequest) (now : Nat) :
    (board.updated request now).id = board.id := rfl

/-- `_write_board` of a board that exists -/
def writeBoard (boards : Boards) (id : String) (request : BoardUpdateRequest) (now : Nat) : Except String Boards :=
  if (boards.find? id).isNone then .error ("unknown board " ++ id)
  else if request.serialPath ≠ "" ∧ ∃ board ∈ boards.rows, board.serialPath = request.serialPath ∧ board.id ≠ id then
    .error "serial port is already bound to another board"
  else .ok (boards.amend id (·.updated request now) fun board => board.updated_id request now)

/-- The profile `_board` shows of a record, as the values of a request. -/
def Board.profile (board : Board) : BoardUpdateRequest :=
  { ip := board.ip, mac := board.mac, desiredIp := orElse board.desiredIp board.ip,
    activeIp := orElse board.activeIp board.ip, desiredMac := orElse board.desiredMac board.mac,
    activeMac := orElse board.activeMac board.mac, deviceUid := board.deviceUid,
    networkRevision := board.networkRevision, networkApplyStatus := board.networkApplyStatus,
    networkApplyError := board.networkApplyError, udpInterface := board.udpInterface,
    serialPath := board.serialPath, enabled := board.enabled }

/-- `update_board` with the board's own profile, enabled or disabled. -/
def setEnabled (boards : Boards) (id : String) (enabled : Bool) (now : Nat) : Except String Boards :=
  match boards.find? id with
  | none => .error ("unknown board " ++ id)
  | some board => writeBoard boards id { board.profile with enabled }.normalizeNetworkFields now

/-- The optional arguments of `update_network_state`. -/
structure NetworkState where
  desiredIp : Option String
  desiredMac : Option String
  activeIp : Option String
  activeMac : Option String
  deviceUid : Option String
  revision : Option Nat
  status : Option String
  error : Option String
deriving DecidableEq

/-- The columns `update_network_state` updates. -/
def Board.networkState (board : Board) (state : NetworkState) (now : Nat) : Board :=
  { board with
    desiredIp := state.desiredIp.getD board.desiredIp, desiredMac := state.desiredMac.getD board.desiredMac,
    activeIp := state.activeIp.getD board.activeIp, activeMac := state.activeMac.getD board.activeMac,
    deviceUid := state.deviceUid.getD board.deviceUid,
    networkRevision := state.revision.getD board.networkRevision,
    networkApplyStatus := state.status.getD board.networkApplyStatus,
    networkApplyError := state.error.getD board.networkApplyError,
    ip := state.activeIp.getD board.ip, mac := state.activeMac.getD board.mac, updatedAt := now }

@[simp] theorem Board.networkState_id (board : Board) (state : NetworkState) (now : Nat) :
    (board.networkState state now).id = board.id := rfl

/-- `update_network_state` -/
def updateNetworkState (boards : Boards) (id : String) (state : NetworkState) (now : Nat) : Except String Boards :=
  if (boards.find? id).isNone then .error ("unknown board " ++ id)
  else if state = ⟨none, none, none, none, none, none, none, none⟩ then .ok boards
  else .ok (boards.amend id (·.networkState state now) fun board => board.networkState_id state now)

end Xczu47dr.Inventory
