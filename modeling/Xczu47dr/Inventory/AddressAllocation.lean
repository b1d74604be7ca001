import Xczu47dr.Inventory.Boards

/-! # The addresses scans assign

Boards are scanned, enabled, disabled and report their network state, in any
order. A fresh address is checked against the enabled boards of the interface;
an address a record remembers is handed out again as it is.
-/

namespace Xczu47dr.Inventory

open Records

variable {boards : Boards}

/-! ## What is asked of the inventory -/

/-- An enabled board has its desired address on its interface. -/
def addressClaim (board : Board) : Option (String × String) :=
  if board.enabled then some (board.udpInterface, board.desiredIp) else none

/-- No two enabled boards of an interface have the same desired address. -/
def UniqueAddresses (boards : Boards) : Prop :=
  ∀ first ∈ boards.rows, ∀ second ∈ boards.rows, first.enabled = true → second.enabled = true →
    first.udpInterface = second.udpInterface → first.desiredIp = second.desiredIp → first.id = second.id

instance : Decidable (UniqueAddresses boards) := by
  unfold UniqueAddresses
  infer_instance

/-- An enabled board of the interface has the address as its desired, its active or its current one. -/
def InUse (boards : Boards) (interface address : String) : Prop :=
  ∃ board ∈ boards.rows, board.enabled = true ∧ board.udpInterface = interface ∧
    (address = board.desiredIp ∨ address = board.activeIp ∨ address = board.ip)

theorem addressClaim_eq_some {board : Board} {interface address : String} :
    addressClaim board = some (interface, address) ↔
      board.enabled = true ∧ board.udpInterface = interface ∧ board.desiredIp = address := by
  cases enabled : board.enabled <;> simp [addressClaim, enabled]

theorem unique_iff_exclusive : UniqueAddresses boards ↔ Exclusive addressClaim boards := by
  constructor
  · rintro unique first firstMem second secondMem ⟨interface, address⟩ firstClaims secondClaims
    obtain ⟨firstEnabled, rfl, rfl⟩ := addressClaim_eq_some.mp firstClaims
    obtain ⟨secondEnabled, sameInterface, sameAddress⟩ := addressClaim_eq_some.mp secondClaims
    exact unique first firstMem second secondMem firstEnabled secondEnabled sameInterface.symm sameAddress.symm
  · intro exclusive first firstMem second secondMem firstEnabled secondEnabled sameInterface sameAddress
    apply exclusive first firstMem second secondMem (first.udpInterface, first.desiredIp)
    · exact addressClaim_eq_some.mpr ⟨firstEnabled, rfl, rfl⟩
    · exact addressClaim_eq_some.mpr ⟨secondEnabled, sameInterface.symm, sameAddress.symm⟩

/-! ## The discovery upsert -/

/-- The upsert takes the record over: it is updated or disabled as a duplicate. -/
def SameDevice (found : DiscoveredBoard) (board : Board) : Prop :=
  board.deviceUid = found.deviceUid ∧
    (found.activeMac ≠ "" → macMatch (orElse board.activeMac board.mac) found.activeMac = true)

instance {found : DiscoveredBoard} {board : Board} : Decidable (SameDevice found board) :=
  inferInstanceAs (Decidable (_ ∧ _))

theorem mem_matching {found : DiscoveredBoard} {board : Board} :
    board ∈ matching boards found ↔ board ∈ boards.rows ∧ SameDevice found board := by
  unfold matching SameDevice
  by_cases reports : found.activeMac = ""
  · simp [reports, Table.mem_select]
  · simp [reports, Table.mem_select, and_assoc]

/-- The duplicates of a record are the other ones of the device. -/
theorem mem_duplicates {found : DiscoveredBoard} {row board : Board} (mem : board ∈ boards.rows) :
    board.id ∈ ((matching boards found).filter fun item => item.id ≠ row.id).map Board.id ↔
      SameDevice found board ∧ board.id ≠ row.id := by
  constructor
  · intro listed
    obtain ⟨item, itemMem, same⟩ := List.mem_map.mp listed
    obtain ⟨itemTaken, different⟩ := List.mem_filter.mp itemMem
    obtain ⟨itemRow, itemSame⟩ := mem_matching.mp itemTaken
    obtain rfl := boards.eq_of_key itemRow mem same
    exact ⟨itemSame, of_decide_eq_true different⟩
  · rintro ⟨same, different⟩
    exact List.mem_map.mpr
      ⟨board, List.mem_filter.mpr ⟨mem_matching.mpr ⟨mem, same⟩, decide_eq_true different⟩, rfl⟩

theorem addressClaim_discovered (board : Board) (found : DiscoveredBoard) (link : Option LinkProfile) (now : Nat) :
    addressClaim (board.discovered found link now) = some (found.udpInterface, found.desiredIp) := rfl

/-- The record a call starts from: one of the device, or a blank one under a free identifier. -/
def StartsFrom (boards : Boards) (found : DiscoveredBoard) (old : Board) : Prop :=
  (old ∈ boards.rows ∧ SameDevice found old) ∨
    (old.id ∉ boards.rows.map Board.id ∧ ∀ board ∈ boards.rows, ¬ SameDevice found board)

def Board.disabled (board : Board) (now : Nat) : Board := { board with enabled := false, updatedAt := now }

/-- What becomes of a record that the call does not write. -/
def Board.beside (board : Board) (found : DiscoveredBoard) (now : Nat) : Board :=
  if SameDevice found board then board.disabled now else board

/-- The record it starts from is brought up to date, its duplicates are disabled, no other row changes. -/
theorem upsert_rows {after : Boards} {found : DiscoveredBoard} {link : Option LinkProfile} {now : Nat}
    {uuids : List String}
    (recorded : upsertDiscoveredBoard boards found link now uuids = some after) :
    ∃ old, StartsFrom boards found old ∧ ∀ board, board ∈ after.rows ↔
      board = old.discovered found link now ∨
        ∃ other ∈ boards.rows, other.id ≠ old.id ∧ other.beside found now = board := by
  have duplicate {other : Board} (same : SameDevice found other) : other.beside found now = other.disabled now :=
    if_pos same
  have unchanged {other : Board} (foreign : ¬ SameDevice found other) : other.beside found now = other :=
    if_neg foreign
  unfold upsertDiscoveredBoard at recorded
  cases first : (matching boards found).head? with
  | some row =>
      simp only [first, Option.some.injEq] at recorded
      subst recorded
      obtain ⟨rowMem, rowSame⟩ := mem_matching.mp (List.mem_of_head? first)
      refine ⟨row, .inl ⟨rowMem, rowSame⟩, fun board => ?_⟩
      rw [Table.mem_amend]
      constructor
      · rintro (⟨kept, different⟩ | ⟨old, kept, here, rfl⟩)
        · obtain ⟨other, mem, rfl⟩ := Table.mem_rewrite.mp kept
          have apart : other.id ≠ row.id := by
            intro same
            apply different
            split <;> exact same
          refine .inr ⟨other, mem, apart, ?_⟩
          by_cases same : SameDevice found other
          · rw [duplicate same, if_pos ((mem_duplicates mem).mpr ⟨same, apart⟩)]
            rfl
          · rw [unchanged same, if_neg fun listed => same ((mem_duplicates mem).mp listed).1]
        · obtain ⟨other, mem, rfl⟩ := Table.mem_rewrite.mp kept
          left
          have unlisted : other.id ∉ ((matching boards found).filter fun item => item.id ≠ row.id).map Board.id := by
            intro listed
            rw [if_pos listed] at here
            exact ((mem_duplicates mem).mp listed).2 here
          rw [if_neg unlisted] at here ⊢
          rw [boards.eq_of_key mem rowMem here]
      · rintro (rfl | ⟨other, mem, apart, rfl⟩)
        · refine .inr ⟨row, Table.mem_rewrite.mpr ⟨row, rowMem, if_neg ?_⟩, rfl, rfl⟩
          exact fun listed => ((mem_duplicates rowMem).mp listed).2 rfl
        · left
          by_cases same : SameDevice found other
          · rw [duplicate same]
            exact ⟨Table.mem_rewrite.mpr ⟨other, mem, if_pos ((mem_duplicates mem).mpr ⟨same, apart⟩)⟩, apart⟩
          · rw [unchanged same]
            exact ⟨Table.mem_rewrite.mpr
              ⟨other, mem, if_neg fun listed => same ((mem_duplicates mem).mp listed).1⟩, apart⟩
  | none =>
      have foreign : ∀ other ∈ boards.rows, ¬ SameDevice found other := fun other mem same => by
        rw [List.head?_eq_none_iff] at first
        have taken := mem_matching.mpr ⟨mem, same⟩
        rw [first] at taken
        cases taken
      simp only [first] at recorded
      split at recorded
      · cases recorded
      · split at recorded
        · rename_i id _ free
          simp only [Option.some.injEq] at recorded
          subst recorded
          refine ⟨Board.blank id, .inr ⟨free, foreign⟩, fun board => ?_⟩
          rw [Table.mem_insert]
          constructor
          · rintro (mem | rfl)
            · refine .inr ⟨board, mem, ?_, unchanged (foreign board mem)⟩
              exact fun same => free (List.mem_map.mpr ⟨board, mem, same⟩)
            · exact .inl rfl
          · rintro (rfl | ⟨other, mem, _, rfl⟩)
            · exact .inr rfl
            · rw [unchanged (foreign other mem)]
              exact .inl mem
        · cases recorded

/-- What an upsert leaves unique: the board it records must not meet its address on another one. -/
theorem upsert_exclusive_iff {after : Boards} {found : DiscoveredBoard} {link : Option LinkProfile} {now : Nat}
    {uuids : List String} (exclusive : Exclusive addressClaim boards)
    (recorded : upsertDiscoveredBoard boards found link now uuids = some after) :
    Exclusive addressClaim after ↔ ¬ ∃ other ∈ boards.rows, ¬ SameDevice found other ∧
      addressClaim other = some (found.udpInterface, found.desiredIp) := by
  obtain ⟨old, starts, rows⟩ := upsert_rows recorded
  have written := addressClaim_discovered old found link now
  -- a row kept beside the written one claims what it claimed, if it is not a duplicate
  have kept (other : Board) (resource : String × String)
      (claims : addressClaim (other.beside found now) = some resource) :
      ¬ SameDevice found other ∧ addressClaim other = some resource := by
    unfold Board.beside at claims
    by_cases same : SameDevice found other
    · rw [if_pos same] at claims
      cases claims
    · rw [if_neg same] at claims
      exact ⟨same, claims⟩
  constructor
  · rintro unique ⟨other, mem, foreign, claims⟩
    have apart : other.id ≠ old.id := by
      intro same
      rcases starts with ⟨oldMem, oldSame⟩ | ⟨fresh, _⟩
      · rw [boards.eq_of_key mem oldMem same] at foreign
        exact foreign oldSame
      · exact fresh (List.mem_map.mpr ⟨other, mem, same⟩)
    have otherMem := (rows other).mpr (.inr ⟨other, mem, apart, if_neg foreign⟩)
    have writtenMem := (rows _).mpr (.inl rfl)
    exact apart (unique other otherMem (old.discovered found link now) writtenMem _ claims written)
  · intro unclaimed first firstMem second secondMem resource firstClaims secondClaims
    rcases (rows first).mp firstMem with rfl | ⟨one, oneMem, _, rfl⟩ <;>
    rcases (rows second).mp secondMem with rfl | ⟨two, twoMem, _, rfl⟩
    · rfl
    · obtain ⟨foreign, claims⟩ := kept two resource secondClaims
      exact absurd ⟨two, twoMem, foreign, by rw [claims, ← firstClaims, written]⟩ unclaimed
    · obtain ⟨foreign, claims⟩ := kept one resource firstClaims
      exact absurd ⟨one, oneMem, foreign, by rw [claims, ← secondClaims, written]⟩ unclaimed
    · obtain ⟨oneForeign, oneClaims⟩ := kept one resource firstClaims
      obtain ⟨twoForeign, twoClaims⟩ := kept two resource secondClaims
      rw [Board.beside, Board.beside, if_neg oneForeign, if_neg twoForeign]
      exact exclusive one oneMem two twoMem resource oneClaims twoClaims

/-! ## The allocation -/

theorem link_pool {interface : String} {subnet : Option Nat} {link : LinkProfile}
    (offered : autoFpgaLinkProfile interface subnet = some link) : ipPoolForInterface (some link) ≠ [] := by
  have range : link.poolStart = 128 ∧ link.poolEnd = 254 := by
    unfold autoFpgaLinkProfile autoFpgaLinkProfiles dynamicFpgaLinkProfile at offered
    split_ifs at offered
    · cases offered
      exact ⟨rfl, rfl⟩
    · cases offered
      exact ⟨rfl, rfl⟩
    · rw [Option.none_or] at offered
      obtain ⟨octet, _, rfl⟩ := Option.map_eq_some_iff.mp offered
      exact ⟨rfl, rfl⟩
  simp [ipPoolForInterface, range]

theorem mem_used {interface address : String} :
    address ∈ used boards interface ↔ address ≠ "" ∧ InUse boards interface address := by
  simp only [used, InUse, List.mem_filter, List.mem_flatMap, List.mem_cons, List.not_mem_nil, or_false,
    decide_eq_true_eq, Bool.decide_and, Bool.and_eq_true, Bool.decide_eq_true]
  constructor
  · rintro ⟨⟨board, ⟨mem, sameInterface, enabled⟩, has⟩, present⟩
    exact ⟨present, board, mem, enabled, sameInterface, has⟩
  · rintro ⟨present, board, mem, enabled, sameInterface, has⟩
    exact ⟨⟨board, ⟨mem, sameInterface, enabled⟩, has⟩, present⟩

/-- A fresh address is not the desired address of any enabled board. -/
theorem allocateFresh_unclaimed {link : Option LinkProfile} {interface address : String}
    (pool : ipPoolForInterface link ≠ []) (fresh : allocateFresh boards link interface = .ok address) :
    ∀ other ∈ boards.rows, addressClaim other ≠ some (interface, address) := by
  intro other mem claims
  obtain ⟨enabled, sameInterface, sameAddress⟩ := addressClaim_eq_some.mp claims
  simp only [allocateFresh, if_neg pool] at fresh
  split at fresh
  · rename_i chosen selected
    cases fresh
    have accepted := List.find?_some selected
    simp only [decide_eq_true_eq] at accepted
    exact accepted.2 (mem_used.mpr ⟨accepted.1, other, mem, enabled, sameInterface, .inl sameAddress.symm⟩)
  · cases fresh

theorem allocateFresh_exhausted {link : Option LinkProfile} {interface reason address : String}
    (refused : allocateFresh boards link interface = .error reason) (mem : address ∈ ipPoolForInterface link) :
    InUse boards interface address := by
  have pool : ipPoolForInterface link ≠ [] := List.ne_nil_of_mem mem
  simp only [allocateFresh, if_neg pool] at refused
  split at refused
  · cases refused
  · rename_i none
    have rejected (candidate : String)
        (listed : candidate ∈ (link.map LinkProfile.targetIp).getD "" ::
          (ipPoolForInterface link).filter (· ≠ (link.map LinkProfile.targetIp).getD "")) :
        candidate = "" ∨ candidate ∈ used boards interface := by
      have failed := List.find?_eq_none.mp none candidate listed
      simp only [decide_eq_true_eq, not_and, not_not] at failed
      exact or_iff_not_imp_left.mpr failed
    have written : address ≠ "" := by
      cases link with
      | none => cases mem
      | some profile =>
          obtain ⟨suffix, _, rfl⟩ := List.mem_map.mp mem
          intro blank
          have length := congrArg String.length blank
          simp [String.length_append] at length
    have found : address = "" ∨ address ∈ used boards interface := by
      apply rejected
      by_cases preferred : address = (link.map LinkProfile.targetIp).getD ""
      · exact List.mem_cons.mpr (.inl preferred)
      · exact List.mem_cons.mpr (.inr (List.mem_filter.mpr ⟨mem, decide_eq_true preferred⟩))
    exact (mem_used.mp (found.resolve_left written)).2

/-- The record found remembers an address of the pool. -/
def Remembered (boards : Boards) (d : Discovery) (address : String) : Prop :=
  ∃ board, existing boards d.deviceUid d.currentMac = some board ∧
    board.remembered (ipPoolForInterface d.link) = some address

/-- On a link with a pool an address is remembered or fresh. -/
theorem allocated_cases (boards : Boards) {d : Discovery} {link : LinkProfile} (offered : d.link = some link) :
    (∃ address, Remembered boards d address ∧ d.allocated boards = .ok address) ∨
      (¬ ∃ address, Remembered boards d address) ∧ d.allocated boards = allocateFresh boards d.link d.interface := by
  have pool : ipPoolForInterface d.link ≠ [] := offered ▸ link_pool offered
  unfold Discovery.allocated allocatedIpForDiscovery Remembered
  cases record : existing boards d.deviceUid d.currentMac with
  | none =>
      refine .inr ⟨?_, rfl⟩
      rintro ⟨_, _, found, _⟩
      cases found
  | some board =>
      cases remembers : board.remembered (ipPoolForInterface d.link) with
      | none =>
          refine .inr ⟨?_, ?_⟩
          · rintro ⟨address, other, same, otherRemembers⟩
            cases same
            rw [remembers] at otherRemembers
            cases otherRemembers
          · simp only [remembers, pool, false_and, if_false]
      | some address =>
          refine .inl ⟨address, ⟨board, rfl, remembers⟩, ?_⟩
          simp only [remembers]

/-! ## Runs -/

inductive Event where
  | scan (d : Discovery)
  | setEnabled (id : String) (enabled : Bool) (now : Nat)
  /-- A report of the network state, which leaves the desired address alone. -/
  | networkState (id : String) (state : NetworkState) (now : Nat)

/-- A request that raises leaves the inventory as it is. -/
def accepted (boards : Boards) : Except String Boards → Boards
  | .ok after => after
  | .error _ => boards

@[simp] theorem accepted_ok (after : Boards) : accepted boards (.ok after) = after := rfl

def step (boards : Boards) : Event → Boards
  | .scan d => scan boards d
  | .setEnabled id enabled now => accepted boards (setEnabled boards id enabled now)
  | .networkState id state now =>
      accepted boards (updateNetworkState boards id { state with desiredIp := none } now)

def run (boards : Boards) (events : List Event) : Boards := events.foldl step boards

/-- The scan gets as far as recording the device. -/
def Recorded (boards : Boards) (d : Discovery) : Prop :=
  d.deviceUid ≠ "" ∧ ∃ address, d.allocated boards = .ok address ∧
    (upsertDiscoveredBoard boards (d.found address) d.link d.now d.uuids).isSome

/-- Another device is enabled on the interface under the address the record remembers. -/
def RemembersTaken (boards : Boards) (d : Discovery) : Prop :=
  ∃ address, Remembered boards d address ∧ ∃ other ∈ boards.rows, ¬ SameDevice (d.found address) other ∧
    other.enabled = true ∧ other.udpInterface = d.interface ∧ other.desiredIp = address

/-- Another board is enabled on the interface of this one under its desired address. -/
def AddressHeld (boards : Boards) (board : Board) : Prop :=
  ∃ other ∈ boards.rows, other.id ≠ board.id ∧ other.enabled = true ∧
    other.udpInterface = board.udpInterface ∧ other.desiredIp = orElse board.desiredIp board.ip

def Event.Safe (boards : Boards) : Event → Prop
  | .scan d => Recorded boards d → ¬ RemembersTaken boards d
  | .setEnabled id enabled now =>
      enabled = true → (Inventory.setEnabled boards id enabled now).isOk →
        ∀ board, boards.find? id = some board → ¬ AddressHeld boards board
  | .networkState _ _ _ => True

/-! ## One step -/

theorem scan_unique_iff (d : Discovery) (unique : UniqueAddresses boards) :
    UniqueAddresses (scan boards d) ↔ (Recorded boards d → ¬ RemembersTaken boards d) := by
  by_cases recorded : Recorded boards d
  case neg =>
    have unchanged : scan boards d = boards := by
      unfold scan
      split
      · rfl
      · by_cases named : d.deviceUid = ""
        · exact if_pos named
        · rw [if_neg named]
          split
          · rfl
          · rename_i address allocated
            cases done : upsertDiscoveredBoard boards (d.found address) d.link d.now d.uuids with
            | none => rfl
            | some after => exact absurd ⟨named, address, allocated, by rw [done]; rfl⟩ recorded
    rw [unchanged]
    exact ⟨fun _ done => absurd done recorded, fun _ => unique⟩
  case pos =>
    obtain ⟨named, address, allocated, done⟩ := id recorded
    obtain ⟨after, upsert⟩ := Option.isSome_iff_exists.mp done
    cases offered : d.link with
    | none =>
        -- without a link nothing is scanned, and no address is in a pool
        have idle : scan boards d = boards := by
          unfold scan
          rw [offered]
        rw [idle]
        refine ⟨fun _ _ taken => ?_, fun _ => unique⟩
        obtain ⟨_, ⟨board, _, remembers⟩, _⟩ := taken
        rw [offered] at remembers
        simp [Board.remembered, ipPoolForInterface] at remembers
    | some link =>
        have scanned : scan boards d = after := by
          unfold scan
          rw [offered]
          simp only [if_neg named, allocated]
          rw [← offered, upsert]
          rfl
        have interface : (d.found address).udpInterface = d.interface ∧ (d.found address).desiredIp = address := by
          unfold Discovery.found
          split
          · split
            · exact ⟨rfl, rfl⟩
            · exact ⟨rfl, rfl⟩
          · exact ⟨rfl, rfl⟩
        rw [scanned, unique_iff_exclusive, upsert_exclusive_iff (unique_iff_exclusive.mp unique) upsert,
          interface.1, interface.2]
        rcases allocated_cases boards offered with ⟨known, remembered, same⟩ | ⟨unknown, fresh⟩
        · obtain rfl : address = known := Except.ok.inj (allocated.symm.trans same)
          constructor
          · rintro alone _ ⟨taken, rememberedTaken, other, mem, foreign, held⟩
            obtain ⟨board, found, remembers⟩ := remembered
            obtain ⟨board', found', remembers'⟩ := rememberedTaken
            obtain rfl := Option.some.inj (found.symm.trans found')
            obtain rfl := Option.some.inj (remembers.symm.trans remembers')
            exact alone ⟨other, mem, foreign, addressClaim_eq_some.mpr held⟩
          · rintro safe ⟨other, mem, foreign, claims⟩
            exact safe recorded ⟨address, remembered, other, mem, foreign, addressClaim_eq_some.mp claims⟩
        · constructor
          · rintro _ _ ⟨known, remembered, _⟩
            exact unknown ⟨known, remembered⟩
          · rintro _ ⟨other, mem, _, claims⟩
            have pool : ipPoolForInterface d.link ≠ [] := offered ▸ link_pool offered
            exact allocateFresh_unclaimed pool (fresh.symm.trans allocated) other mem claims

theorem normalized_profile (board : Board) (enabled : Bool) :
    ({ board.profile with enabled }.normalizeNetworkFields).desiredIp = orElse board.desiredIp board.ip ∧
      ({ board.profile with enabled }.normalizeNetworkFields).udpInterface = board.udpInterface ∧
      ({ board.profile with enabled }.normalizeNetworkFields).enabled = enabled := by
  refine ⟨?_, rfl, rfl⟩
  change orElse (orElse board.desiredIp board.ip) board.ip = orElse board.desiredIp board.ip
  by_cases blank : board.desiredIp = ""
  · simp [orElse, blank]
  · simp [orElse, blank]

theorem setEnabled_cases {id : String} {enabled : Bool} {now : Nat} {after : Boards}
    (done : setEnabled boards id enabled now = .ok after) :
    ∃ board ∈ boards.rows, board.id = id ∧ boards.find? id = some board ∧
      after = boards.amend id
        (·.updated ({ board.profile with enabled }.normalizeNetworkFields) now) fun row => row.updated_id _ now := by
  unfold setEnabled at done
  cases found : boards.find? id with
  | none =>
      rw [found] at done
      cases done
  | some board =>
      rw [found] at done
      obtain ⟨mem, named⟩ := Table.find?_some found
      refine ⟨board, mem, named, rfl, ?_⟩
      simp only [writeBoard, found] at done
      split at done
      · rename_i missing
        cases missing
      · split at done
        · cases done
        · exact (Except.ok.inj done).symm

theorem setEnabled_unique_iff (id : String) (enabled : Bool) (now : Nat) (unique : UniqueAddresses boards) :
    UniqueAddresses (accepted boards (setEnabled boards id enabled now)) ↔
      (Event.setEnabled id enabled now).Safe boards := by
  cases done : setEnabled boards id enabled now with
  | error reason =>
      refine ⟨fun _ _ succeeded => ?_, fun _ => unique⟩
      rw [done] at succeeded
      cases succeeded
  | ok after =>
      obtain ⟨board, mem, rfl, found, rfl⟩ := setEnabled_cases done
      obtain ⟨desired, interface, switched⟩ := normalized_profile board enabled
      have exclusive := unique_iff_exclusive.mp unique
      rw [accepted_ok, unique_iff_exclusive]
      cases enabled with
      | false =>
          -- a disabled row claims nothing
          refine ⟨fun _ bad => (Bool.false_ne_true bad).elim, fun _ => ?_⟩
          refine exclusive.amend fun row resource claims => ?_
          cases claims
      | true =>
          have claims : addressClaim (board.updated
              ({ board.profile with enabled := true }.normalizeNetworkFields) now) =
              some (board.udpInterface, orElse board.desiredIp board.ip) :=
            addressClaim_eq_some.mpr ⟨switched, interface, desired⟩
          rw [exclusive.amend_iff mem claims]
          constructor
          · rintro alone _ _ other same ⟨holder, holderMem, different, held⟩
            obtain rfl := Option.some.inj (found.symm.trans same)
            exact alone ⟨holder, holderMem, different, addressClaim_eq_some.mpr held⟩
          · rintro safe ⟨holder, holderMem, different, held⟩
            have succeeded : (setEnabled boards board.id true now).isOk := by
              rw [done]
              rfl
            exact safe rfl succeeded board found ⟨holder, holderMem, different, addressClaim_eq_some.mp held⟩

theorem networkState_unique (id : String) (state : NetworkState) (now : Nat) (unique : UniqueAddresses boards) :
    UniqueAddresses (accepted boards (updateNetworkState boards id { state with desiredIp := none } now)) := by
  unfold updateNetworkState
  split
  · exact unique
  · split
    · exact unique
    · rw [accepted_ok]
      exact unique_iff_exclusive.mpr ((unique_iff_exclusive.mp unique).amend fun row resource claims => claims)

/-- A step keeps the addresses unique exactly when it is safe. -/
theorem step_unique_iff (event : Event) (unique : UniqueAddresses boards) :
    UniqueAddresses (step boards event) ↔ event.Safe boards := by
  cases event with
  | scan d => exact scan_unique_iff d unique
  | setEnabled id enabled now => exact setEnabled_unique_iff id enabled now unique
  | networkState id state now => exact iff_of_true (networkState_unique id state now unique) trivial

/-! ## Whole runs -/

theorem allocated_refused {d : Discovery} {reason address : String} (refused : d.allocated boards = .error reason)
    (mem : address ∈ ipPoolForInterface d.link) : InUse boards d.interface address := by
  cases offered : d.link with
  | none =>
      rw [offered] at mem
      cases mem
  | some link =>
      rcases allocated_cases boards offered with ⟨known, _, granted⟩ | ⟨_, fresh⟩
      · rw [granted] at refused
        cases refused
      · exact allocateFresh_exhausted (fresh.symm.trans refused) mem

theorem run_unique (boards : Boards) (unique : UniqueAddresses boards) (events : List Event)
    (safe : ∀ earlier event later, events = earlier ++ event :: later → event.Safe (run boards earlier)) :
    UniqueAddresses (run boards events) := by
  induction events using List.reverseRecOn with
  | nil => exact unique
  | append_singleton earlier event ih =>
      have before : UniqueAddresses (run boards earlier) := by
        refine ih fun first next rest split => safe first next (rest ++ [event]) ?_
        rw [split, List.append_assoc, List.cons_append]
      rw [run, List.foldl_append]
      exact (step_unique_iff event before).mpr (safe earlier event [] rfl)

/-- The desired addresses stay unique through a run exactly when no scan hands out a remembered
address another board is enabled under, and no board is enabled under the address of another;
an allocation is refused only when the whole pool is in use. -/
theorem addresses_unique_iff (boards : Boards) (unique : UniqueAddresses boards) (events : List Event) :
    ((∀ earlier later, events = earlier ++ later → UniqueAddresses (run boards earlier)) ↔
      ∀ earlier event later, events = earlier ++ event :: later → event.Safe (run boards earlier)) ∧
    ∀ earlier d later reason, events = earlier ++ .scan d :: later →
      d.allocated (run boards earlier) = .error reason →
      ∀ address ∈ ipPoolForInterface d.link, InUse (run boards earlier) d.interface address := by
  refine ⟨⟨?_, ?_⟩, ?_⟩
  · intro always earlier event later split
    have before := always earlier (event :: later) split
    have after := always (earlier ++ [event]) later (by rw [split, List.append_assoc, List.singleton_append])
    rw [run, List.foldl_append] at after
    exact (step_unique_iff event before).mp after
  · intro safe earlier later split
    refine run_unique boards unique earlier fun first next rest inner => safe first next (rest ++ later) ?_
    rw [split, inner, List.append_assoc, List.cons_append]
  · intro earlier d later reason _ refused address mem
    exact allocated_refused refused mem

/-! ## A device that comes back -/

/-- A device that answers on the first interface from its link-local address and takes the one applied. -/
def answering (deviceUid mac : String) (now : Nat) : Discovery :=
  { interface := "enp225s0f0", subnet := none, deviceUid, currentIp := "169.254.32.1", currentMac := mac,
    revision := 0, confirmed := .ok { currentIp := "192.168.1.128", currentMac := mac, revision := 1 }, now,
    uuids := [] }

/-- A board is disabled, another one takes its place and its address, and the first comes back. -/
def comesBack : List Event :=
  [.scan (answering "0000000047d00081" "02:47:d0:00:00:81" 1), .setEnabled "fpga-47d00081" false 2,
    .scan (answering "0000000047d00082" "02:47:d0:00:00:82" 3),
    .scan (answering "0000000047d00081" "02:47:d0:00:00:81" 4)]

theorem comesBack_not_unique : ¬ UniqueAddresses (run (Table.empty Board.id) comesBack) := by decide

/-- The theorem at the empty inventory, whose first scan is safe. -/
theorem firstScan_unique :
    UniqueAddresses (Table.empty Board.id) ∧
      ∀ earlier later, comesBack.take 1 = earlier ++ later →
        UniqueAddresses (run (Table.empty Board.id) earlier) := by
  have start : UniqueAddresses (Table.empty Board.id) := by decide
  refine ⟨start, (addresses_unique_iff (Table.empty Board.id) start (comesBack.take 1)).1.mpr ?_⟩
  intro earlier event later split
  cases earlier with
  | nil =>
      obtain ⟨rfl, _⟩ := List.cons.inj split
      rintro _ ⟨_, _, _, mem, _⟩
      cases mem
  | cons first rest => simp [comesBack] at split

end Xczu47dr.Inventory
