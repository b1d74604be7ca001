import Mathlib.Algebra.Order.BigOperators.Group.List
import Mathlib.Algebra.Order.Group.Nat
import Xczu47dr.Inventory.AddressAllocation

/-! # The identities discovery records

A board is known by the UID it reports and by its MAC. Every call of the
discovery upsert is meant to record one board of that identity and to leave
the others alone, and the address allocation is meant to look at the record
the upsert is about to write.
-/

namespace Xczu47dr.Inventory

open Records

variable {boards after : Boards} {found : DiscoveredBoard} {link : Option LinkProfile} {now : Nat}
  {uuids : List String}

/-- The inventories that discovery calls lead to. -/
inductive Reached : Boards → Prop where
  | empty : Reached (Table.empty Board.id)
  | upsert {boards after : Boards} {found : DiscoveredBoard} {link : Option LinkProfile} {now : Nat}
      {uuids : List String} (before : Reached boards) (reports : found.deviceUid ≠ "")
      (recorded : upsertDiscoveredBoard boards found link now uuids = some after) : Reached after

/-! ## What is asked of a call -/

def Board.timeless (board : Board) : Board := { board with lastSeenAt := 0, updatedAt := 0 }

/-- The call records the board of the one identifier, and nothing else. -/
structure RecordsOne (boards after : Boards) (found : DiscoveredBoard) (link : Option LinkProfile) (id : String) :
    Prop where
  recorded : ∃ board ∈ after.rows, board.id = id ∧ board.enabled = true ∧ SameDevice found board
  updated : ∀ board ∈ boards.rows, board.id = id → SameDevice found board
  others : ∀ board, board.id ≠ id → (board ∈ after.rows ↔ board ∈ boards.rows)
  foreign : ∀ board, ¬ SameDevice found board → (board ∈ after.rows ↔ board ∈ boards.rows)
  enabledOnce : ∀ first ∈ after.rows, ∀ second ∈ after.rows, first.enabled = true → second.enabled = true →
    first.deviceUid = second.deviceUid →
    macMatch (orElse first.activeMac first.mac) (orElse second.activeMac second.mac) = true → first = second
  repeated : ∀ later draws, ∃ again, upsertDiscoveredBoard after found link later draws = some again ∧
    again.rows.map Board.timeless = after.rows.map Board.timeless
  allocatedFrom : existing boards found.deviceUid found.activeMac = boards.find? id

/-- A board of the device is known, or a free identifier is drawn for the new record. -/
def Recordable (boards : Boards) (found : DiscoveredBoard) (uuids : List String) : Prop :=
  (∃ board ∈ boards.rows, SameDevice found board) ∨
    ∃ id ∈ candidateIds found.deviceUid uuids, id ∉ boards.rows.map Board.id

def KeepsApart (boards : Boards) (found : DiscoveredBoard) : Prop :=
  ∀ link now uuids, Recordable boards found uuids →
    ∃ after id, upsertDiscoveredBoard boards found link now uuids = some after ∧ RecordsOne boards after found link id

/-! ## What a call does -/

def plainMac (mac : String) : List Char := (mac.toList.filter (· ≠ ':')).map Char.toLower

theorem macMatch_iff {left right : String} : macMatch left right = true ↔ plainMac left = plainMac right := by
  simp only [macMatch, plainMac, beq_iff_eq]

/-! ## The identities of a reached inventory -/

/-- Only records without a MAC can share their identity, and at most one of those is enabled. -/
structure Identities (boards : Boards) : Prop where
  bare : ∀ board ∈ boards.rows, board.mac = board.activeMac
  once : ∀ first ∈ boards.rows, ∀ second ∈ boards.rows, first.deviceUid = second.deviceUid →
    plainMac first.activeMac = plainMac second.activeMac → plainMac first.activeMac ≠ [] → first = second
  enabledOnce : ∀ first ∈ boards.rows, ∀ second ∈ boards.rows, first.enabled = true → second.enabled = true →
    first.deviceUid = second.deviceUid → plainMac first.activeMac = plainMac second.activeMac → first = second

@[simp] theorem orElse_self (text : String) : orElse text text = text := by
  unfold orElse
  split <;> rfl

theorem Identities.sameDevice_iff (identities : Identities boards) (reports : found.activeMac ≠ "") {board : Board}
    (mem : board ∈ boards.rows) :
    SameDevice found board ↔
      board.deviceUid = found.deviceUid ∧ plainMac board.activeMac = plainMac found.activeMac := by
  rw [SameDevice, identities.bare board mem, orElse_self, macMatch_iff]
  exact and_congr_right fun _ => ⟨fun same => same reports, fun same _ => same⟩

theorem beside_identity (board : Board) (found : DiscoveredBoard) (now : Nat) :
    (board.beside found now).id = board.id ∧ (board.beside found now).deviceUid = board.deviceUid ∧
      (board.beside found now).activeMac = board.activeMac ∧ (board.beside found now).mac = board.mac := by
  unfold Board.beside
  split <;> exact ⟨rfl, rfl, rfl, rfl⟩

theorem beside_enabled {board : Board} (enabled : (board.beside found now).enabled = true) :
    ¬ SameDevice found board ∧ board.beside found now = board := by
  unfold Board.beside at enabled ⊢
  by_cases same : SameDevice found board
  · rw [if_pos same] at enabled
    cases enabled
  · exact ⟨same, if_neg same⟩

/-- A record of the device that is not the written one has a MAC without digits. -/
theorem Identities.plain_beside (identities : Identities boards) {old other : Board}
    (starts : StartsFrom boards found old) (mem : other ∈ boards.rows) (apart : other.id ≠ old.id)
    (sameUid : other.deviceUid = found.deviceUid) (sameMac : plainMac other.activeMac = plainMac found.activeMac) :
    plainMac other.activeMac = [] := by
  by_contra digits
  have reports : found.activeMac ≠ "" := by
    intro empty
    rw [empty] at sameMac
    exact digits sameMac
  have same := (identities.sameDevice_iff reports mem).mpr ⟨sameUid, sameMac⟩
  rcases starts with ⟨oldMem, oldSame⟩ | ⟨_, foreign⟩
  · obtain ⟨oldUid, oldMac⟩ := (identities.sameDevice_iff reports oldMem).mp oldSame
    apply apart
    rw [identities.once other mem old oldMem (sameUid.trans oldUid.symm) (sameMac.trans oldMac.symm) digits]
  · exact foreign other mem same

theorem Identities.upsert (identities : Identities boards)
    (recorded : upsertDiscoveredBoard boards found link now uuids = some after) : Identities after := by
  obtain ⟨old, starts, rows⟩ := upsert_rows recorded
  -- the written record against one that stays enabled beside it
  have foreign {other : Board} (mem : other ∈ boards.rows) (kept : ¬ SameDevice found other)
      (sameUid : other.deviceUid = found.deviceUid) : plainMac other.activeMac ≠ plainMac found.activeMac := by
    intro sameMac
    apply kept
    by_cases reports : found.activeMac = ""
    · exact ⟨sameUid, fun present => absurd reports present⟩
    · exact (identities.sameDevice_iff reports mem).mpr ⟨sameUid, sameMac⟩
  refine ⟨fun board mem => ?_, fun first firstMem second secondMem sameUid sameMac digits => ?_,
    fun first firstMem second secondMem firstEnabled secondEnabled sameUid sameMac => ?_⟩
  · rcases (rows board).mp mem with rfl | ⟨other, otherMem, _, rfl⟩
    · rfl
    · obtain ⟨_, _, sameActive, sameBare⟩ := beside_identity other found now
      exact (sameBare.trans (identities.bare other otherMem)).trans sameActive.symm
  · rcases (rows first).mp firstMem with rfl | ⟨one, oneMem, oneApart, rfl⟩ <;>
    rcases (rows second).mp secondMem with rfl | ⟨two, twoMem, twoApart, rfl⟩
    · rfl
    · obtain ⟨_, uid, active, _⟩ := beside_identity two found now
      rw [uid] at sameUid
      rw [active] at sameMac
      have bare := identities.plain_beside starts twoMem twoApart sameUid.symm sameMac.symm
      exact absurd (sameMac.trans bare) digits
    · obtain ⟨_, uid, active, _⟩ := beside_identity one found now
      rw [uid] at sameUid
      rw [active] at sameMac digits
      exact absurd (identities.plain_beside starts oneMem oneApart sameUid sameMac) digits
    · obtain ⟨oneId, oneUid, oneMac, _⟩ := beside_identity one found now
      obtain ⟨twoId, twoUid, twoMac, _⟩ := beside_identity two found now
      rw [oneUid, twoUid] at sameUid
      rw [oneMac, twoMac] at sameMac
      rw [oneMac] at digits
      rw [identities.once one oneMem two twoMem sameUid sameMac digits]
  · rcases (rows first).mp firstMem with rfl | ⟨one, oneMem, _, rfl⟩ <;>
    rcases (rows second).mp secondMem with rfl | ⟨two, twoMem, _, rfl⟩
    · rfl
    · obtain ⟨kept, unchanged⟩ := beside_enabled secondEnabled
      rw [unchanged] at sameUid sameMac
      exact absurd sameMac.symm (foreign twoMem kept sameUid.symm)
    · obtain ⟨kept, unchanged⟩ := beside_enabled firstEnabled
      rw [unchanged] at sameUid sameMac
      exact absurd sameMac (foreign oneMem kept sameUid)
    · obtain ⟨_, oneSame⟩ := beside_enabled firstEnabled
      obtain ⟨_, twoSame⟩ := beside_enabled secondEnabled
      rw [oneSame] at firstEnabled sameUid sameMac ⊢
      rw [twoSame] at secondEnabled sameUid sameMac ⊢
      exact identities.enabledOnce one oneMem two twoMem firstEnabled secondEnabled sameUid sameMac

theorem Reached.identities (reached : Reached boards) : Identities boards := by
  induction reached with
  | empty =>
      refine ⟨?_, ?_, ?_⟩
      · intro board mem
        cases mem
      · intro first mem
        cases mem
      · intro first mem
        cases mem
  | upsert _ _ recorded ih => exact ih.upsert recorded

/-! ## A device with one record -/

def OneRecord (boards : Boards) (found : DiscoveredBoard) : Prop :=
  ∀ first ∈ boards.rows, ∀ second ∈ boards.rows, SameDevice found first → SameDevice found second → first = second

/-- The record of the device spells its MAC as the device does now. -/
def AsSpelled (boards : Boards) (found : DiscoveredBoard) : Prop :=
  ∀ board ∈ boards.rows, SameDevice found board → board.activeMac = found.activeMac

theorem Identities.oneRecord (identities : Identities boards) (digits : plainMac found.activeMac ≠ []) :
    OneRecord boards found := by
  have reports : found.activeMac ≠ "" := by
    intro empty
    rw [empty] at digits
    exact digits rfl
  intro first firstMem second secondMem firstSame secondSame
  obtain ⟨firstUid, firstMac⟩ := (identities.sameDevice_iff reports firstMem).mp firstSame
  obtain ⟨secondUid, secondMac⟩ := (identities.sameDevice_iff reports secondMem).mp secondSame
  apply identities.once first firstMem second secondMem (firstUid.trans secondUid.symm)
    (firstMac.trans secondMac.symm)
  rw [firstMac]
  exact digits

theorem upsert_isSome (recordable : Recordable boards found uuids) :
    ∃ after, upsertDiscoveredBoard boards found link now uuids = some after := by
  unfold upsertDiscoveredBoard
  cases first : (matching boards found).head? with
  | some row => exact ⟨_, rfl⟩
  | none =>
      rcases recordable with ⟨board, mem, same⟩ | ⟨id, drawn, free⟩
      · rw [List.head?_eq_none_iff] at first
        have taken := mem_matching.mpr ⟨mem, same⟩
        rw [first] at taken
        cases taken
      · cases chosen : (candidateIds found.deviceUid uuids).find? (· ∉ boards.rows.map Board.id) with
        | none => exact absurd (decide_eq_true free) (List.find?_eq_none.mp chosen id drawn)
        | some new =>
            simp only
            rw [dif_pos (of_decide_eq_true (List.find?_some (p := (· ∉ boards.rows.map Board.id)) chosen))]
            exact ⟨_, rfl⟩

theorem StartsFrom.eq_of_same {old other : Board} (starts : StartsFrom boards found old)
    (one : OneRecord boards found) (mem : other ∈ boards.rows) (same : SameDevice found other) : other = old := by
  rcases starts with ⟨oldMem, oldSame⟩ | ⟨_, foreign⟩
  · exact one other mem old oldMem same oldSame
  · exact absurd same (foreign other mem)

theorem StartsFrom.same_of_id {old other : Board} (starts : StartsFrom boards found old)
    (mem : other ∈ boards.rows) (same : other.id = old.id) : SameDevice found other := by
  rcases starts with ⟨oldMem, oldSame⟩ | ⟨fresh, _⟩
  · rwa [boards.eq_of_key mem oldMem same]
  · exact absurd (List.mem_map.mpr ⟨other, mem, same⟩) fresh

/-- Where the device has one record, it is the only row that changes. -/
theorem rows_oneRecord {old : Board} (starts : StartsFrom boards found old) (one : OneRecord boards found)
    (rows : ∀ board, board ∈ after.rows ↔ board = old.discovered found link now ∨
      ∃ other ∈ boards.rows, other.id ≠ old.id ∧ other.beside found now = board) (board : Board) :
    board ∈ after.rows ↔
      board = old.discovered found link now ∨ (board ∈ boards.rows ∧ ¬ SameDevice found board) := by
  rw [rows]
  apply or_congr_right
  constructor
  · rintro ⟨other, mem, apart, rfl⟩
    have foreign : ¬ SameDevice found other := fun same => apart (by rw [starts.eq_of_same one mem same])
    rw [Board.beside, if_neg foreign]
    exact ⟨mem, foreign⟩
  · rintro ⟨mem, foreign⟩
    exact ⟨board, mem, fun same => foreign (starts.same_of_id mem same), if_neg foreign⟩

theorem sameDevice_discovered (old : Board) (found : DiscoveredBoard) (link : Option LinkProfile) (now : Nat) :
    SameDevice found (old.discovered found link now) := by
  refine ⟨rfl, fun _ => macMatch_iff.mpr ?_⟩
  change plainMac (orElse found.activeMac found.activeMac) = plainMac found.activeMac
  rw [orElse_self]

theorem timeless_discovered (old : Board) (later : Nat) :
    ((old.discovered found link now).discovered found link later).timeless =
      (old.discovered found link now).timeless := by
  have kept (text : String) : orElse text (orElse text old.serialPath) = orElse text old.serialPath := by
    unfold orElse
    split <;> rfl
  simp only [Board.timeless, Board.discovered, kept]

/-- A further call for a device with one record writes that record alone. -/
theorem upsert_again {row : Board} (mem : row ∈ boards.rows) (same : SameDevice found row)
    (one : OneRecord boards found) :
    ∃ again, upsertDiscoveredBoard boards found link now uuids = some again ∧
      again.rows = boards.rows.map fun board => if board.id = row.id then board.discovered found link now else board := by
  have taken := mem_matching.mpr ⟨mem, same⟩
  obtain ⟨first, rest, listed⟩ := List.exists_cons_of_ne_nil (List.ne_nil_of_mem taken)
  have head : (matching boards found).head? = some first := by rw [listed, List.head?_cons]
  obtain ⟨firstMem, firstSame⟩ := mem_matching.mp (List.mem_of_head? head)
  obtain rfl := one first firstMem row mem firstSame same
  refine ⟨_, by unfold upsertDiscoveredBoard; rw [head], ?_⟩
  change List.map _ (List.map _ boards.rows) = _
  rw [List.map_map]
  apply List.map_congr_left
  intro board boardMem
  have unlisted : ¬ board.id ∈ ((matching boards found).filter fun item => item.id ≠ first.id).map Board.id := by
    intro listed
    obtain ⟨boardSame, apart⟩ := (mem_duplicates boardMem).mp listed
    exact apart (by rw [one board boardMem first mem boardSame same])
  rw [Function.comp_apply, if_neg unlisted]

/-! ## The record the allocation finds -/

def FoundByText (found : DiscoveredBoard) (board : Board) : Prop :=
  board.deviceUid = found.deviceUid ∧
    (found.activeMac ≠ "" → board.activeMac = found.activeMac ∨ board.mac = found.activeMac)

instance {board : Board} : Decidable (FoundByText found board) := inferInstanceAs (Decidable (_ ∧ _))

theorem existing_some {board : Board} (known : existing boards found.deviceUid found.activeMac = some board) :
    board ∈ boards.rows ∧ FoundByText found board := by
  obtain ⟨mem, chosen⟩ := Table.mem_select.mp (List.mem_of_head? known)
  exact ⟨mem, of_decide_eq_true chosen⟩

theorem existing_isSome {board : Board} (mem : board ∈ boards.rows) (text : FoundByText found board) :
    ∃ first, existing boards found.deviceUid found.activeMac = some first := by
  have chosen : board ∈ boards.select (fun board => decide (FoundByText found board)) lastSeenFirst :=
    Table.mem_select.mpr ⟨mem, decide_eq_true text⟩
  obtain ⟨first, rest, listed⟩ := List.exists_cons_of_ne_nil
    (List.ne_nil_of_mem chosen)
  exact ⟨first, (congrArg List.head? listed).trans List.head?_cons⟩

theorem Identities.sameDevice_of_text (identities : Identities boards) {board : Board} (mem : board ∈ boards.rows)
    (text : FoundByText found board) : SameDevice found board := by
  refine ⟨text.1, fun reports => macMatch_iff.mpr ?_⟩
  rw [identities.bare board mem, orElse_self]
  rcases text.2 reports with active | bare
  · rw [active]
  · rw [← identities.bare board mem, bare]

theorem Identities.existing_eq (identities : Identities boards) {old : Board} (starts : StartsFrom boards found old)
    (one : OneRecord boards found) (spelled : AsSpelled boards found) :
    existing boards found.deviceUid found.activeMac = boards.find? old.id := by
  cases known : existing boards found.deviceUid found.activeMac with
  | some board =>
      obtain ⟨mem, text⟩ := existing_some known
      rw [← starts.eq_of_same one mem (identities.sameDevice_of_text mem text), boards.find?_of_mem mem]
  | none =>
      cases here : boards.find? old.id with
      | none => rfl
      | some board =>
          obtain ⟨mem, same⟩ := Table.find?_some here
          have device := starts.same_of_id mem same
          obtain ⟨first, listed⟩ := existing_isSome mem ⟨device.1, fun _ => .inl (spelled board mem device)⟩
          rw [known] at listed
          cases listed

/-! ## When a call keeps the identities apart -/

theorem Identities.recordsOne (identities : Identities boards) (one : OneRecord boards found)
    (spelled : AsSpelled boards found)
    (recorded : upsertDiscoveredBoard boards found link now uuids = some after) :
    ∃ id, RecordsOne boards after found link id := by
  obtain ⟨old, starts, written⟩ := upsert_rows recorded
  have rows := rows_oneRecord starts one written
  have taken := sameDevice_discovered old found link now
  have mem : old.discovered found link now ∈ after.rows := (rows _).mpr (.inl rfl)
  have later := identities.upsert recorded
  have oneLater : OneRecord after found := by
    have only (board : Board) (boardMem : board ∈ after.rows) (same : SameDevice found board) :
        board = old.discovered found link now := by
      rcases (rows board).mp boardMem with rfl | ⟨_, foreign⟩
      · rfl
      · exact absurd same foreign
    intro first firstMem second secondMem firstSame secondSame
    rw [only first firstMem firstSame, only second secondMem secondSame]
  refine ⟨old.id, ⟨_, mem, rfl, rfl, taken⟩, fun board boardMem same => starts.same_of_id boardMem same,
    ?others, ?foreign, ?enabledOnce, ?repeated, identities.existing_eq starts one spelled⟩
  case others =>
    intro board apart
    rw [rows]
    constructor
    · rintro (rfl | ⟨kept, _⟩)
      · exact absurd rfl apart
      · exact kept
    · intro kept
      exact .inr ⟨kept, fun same => apart (by rw [starts.eq_of_same one kept same])⟩
  case foreign =>
    intro board foreign
    rw [rows]
    constructor
    · rintro (rfl | ⟨kept, _⟩)
      · exact absurd taken foreign
      · exact kept
    · exact fun kept => .inr ⟨kept, foreign⟩
  case enabledOnce =>
    intro first firstMem second secondMem firstEnabled secondEnabled sameUid sameMac
    rw [later.bare first firstMem, later.bare second secondMem, orElse_self, orElse_self, macMatch_iff] at sameMac
    exact later.enabledOnce first firstMem second secondMem firstEnabled secondEnabled sameUid sameMac
  case repeated =>
    intro afterwards draws
    obtain ⟨again, repeated, againRows⟩ := @upsert_again after found link afterwards draws _ mem taken oneLater
    refine ⟨again, repeated, ?_⟩
    rw [againRows, List.map_map]
    apply List.map_congr_left
    intro board boardMem
    rw [Function.comp_apply]
    by_cases here : board.id = (old.discovered found link now).id
    · rw [if_pos here, after.eq_of_key boardMem mem here, timeless_discovered]
    · rw [if_neg here]

/-- A call at a time no record carries shows that every record of the device is the one written. -/
theorem KeepsApart.only (apart : KeepsApart boards found) {board : Board} (mem : board ∈ boards.rows)
    (same : SameDevice found board) :
    ∃ id, existing boards found.deviceUid found.activeMac = boards.find? id ∧
      ∀ other ∈ boards.rows, SameDevice found other → other.id = id := by
  have late (other : Board) (otherMem : other ∈ boards.rows) :
      other.updatedAt ≠ (boards.rows.map Board.updatedAt).sum + 1 := by
    have bound := List.le_sum_of_mem (List.mem_map_of_mem (f := Board.updatedAt) otherMem)
    omega
  obtain ⟨after, id, recorded, records⟩ :=
    apart none ((boards.rows.map Board.updatedAt).sum + 1) [] (.inl ⟨board, mem, same⟩)
  obtain ⟨old, starts, rows⟩ := upsert_rows recorded
  refine ⟨id, records.allocatedFrom, fun other otherMem otherSame => ?_⟩
  by_contra different
  rcases (rows other).mp ((records.others other different).mpr otherMem) with written | ⟨before, beforeMem, _, kept⟩
  · exact late other otherMem (congrArg Board.updatedAt written)
  · have sameId := (beside_identity before found ((boards.rows.map Board.updatedAt).sum + 1)).1
    rw [kept] at sameId
    obtain rfl := boards.eq_of_key otherMem beforeMem sameId
    rw [Board.beside, if_pos otherSame] at kept
    exact late other otherMem (congrArg Board.updatedAt kept).symm

theorem KeepsApart.oneRecord (apart : KeepsApart boards found) : OneRecord boards found := by
  intro first firstMem second secondMem firstSame secondSame
  obtain ⟨id, _, only⟩ := apart.only firstMem firstSame
  exact boards.eq_of_key firstMem secondMem
    ((only first firstMem firstSame).trans (only second secondMem secondSame).symm)

theorem KeepsApart.asSpelled (apart : KeepsApart boards found) (identities : Identities boards)
    (reports : found.activeMac ≠ "") : AsSpelled boards found := by
  intro board mem same
  obtain ⟨id, allocated, only⟩ := apart.only mem same
  rw [← only board mem same, boards.find?_of_mem mem] at allocated
  rcases (existing_some allocated).2.2 reports with active | bare
  · exact active
  · exact (identities.bare board mem).symm.trans bare

/-- Discovery keeps the identities apart exactly when the device's record spells the MAC as the
device does; a MAC of colons alone can besides meet several records. -/
theorem keepsApart_iff (reached : Reached boards) (reports : found.deviceUid ≠ "" ∧ found.activeMac ≠ "") :
    KeepsApart boards found ↔
      AsSpelled boards found ∧ (plainMac found.activeMac = [] → OneRecord boards found) := by
  have identities := reached.identities
  constructor
  · intro apart
    exact ⟨apart.asSpelled identities reports.2, fun _ => apart.oneRecord⟩
  · rintro ⟨spelled, bare⟩ link now uuids recordable
    have one : OneRecord boards found := by
      by_cases digits : plainMac found.activeMac = []
      · exact bare digits
      · exact identities.oneRecord digits
    obtain ⟨after, recorded⟩ := @upsert_isSome boards found link now uuids recordable
    obtain ⟨id, records⟩ := identities.recordsOne one spelled recorded
    exact ⟨after, id, recorded, records⟩

/-! ## A MAC in capitals -/

def lowerCase : DiscoveredBoard :=
  { deviceUid := "0000000047d00081", udpInterface := "enp225s0f0", activeIp := "192.168.1.140",
    activeMac := "02:00:00:2c:d6:91", desiredIp := "192.168.1.140", desiredMac := "02:00:00:2c:d6:91",
    networkRevision := 1, networkApplyStatus := "applied", networkApplyError := "" }

def upperCase : DiscoveredBoard := { lowerCase with activeMac := "02:00:00:2C:D6:91" }

/-- The inventory once the board has been discovered. -/
def discoveredOnce : Boards :=
  (upsertDiscoveredBoard (Table.empty Board.id) lowerCase (autoFpgaLinkProfile "enp225s0f0" none) 1 []).getD
    (Table.empty Board.id)

theorem discoveredOnce_reached : Reached discoveredOnce := by
  obtain ⟨after, recorded⟩ := @upsert_isSome (Table.empty Board.id) lowerCase
    (autoFpgaLinkProfile "enp225s0f0" none) 1 [] (.inr ⟨"fpga-47d00081", by decide, List.not_mem_nil⟩)
  rw [discoveredOnce, recorded]
  exact .upsert .empty (by decide) recorded

/-- The upsert updates the record, the allocation does not find it and hands out another address. -/
theorem capitals_not_apart :
    Reached discoveredOnce ∧ ¬ KeepsApart discoveredOnce upperCase ∧
      allocatedIpForDiscovery discoveredOnce (autoFpgaLinkProfile "enp225s0f0" none) "enp225s0f0"
          lowerCase.deviceUid lowerCase.activeMac = .ok "192.168.1.140" ∧
      allocatedIpForDiscovery discoveredOnce (autoFpgaLinkProfile "enp225s0f0" none) "enp225s0f0"
          upperCase.deviceUid upperCase.activeMac = .ok "192.168.1.128" := by
  refine ⟨discoveredOnce_reached, fun apart => ?_, by decide, by decide⟩
  have spelled := apart.asSpelled discoveredOnce_reached.identities (by decide)
  have other : ∃ board ∈ discoveredOnce.rows, SameDevice upperCase board ∧ board.activeMac ≠ upperCase.activeMac := by
    decide
  obtain ⟨board, mem, same, different⟩ := other
  exact different (spelled board mem same)

theorem lowerCase_apart : KeepsApart discoveredOnce lowerCase :=
  (keepsApart_iff discoveredOnce_reached (by decide)).mpr (by
    refine ⟨?_, fun colons => absurd colons (by decide)⟩
    unfold AsSpelled
    decide)

end Xczu47dr.Inventory
