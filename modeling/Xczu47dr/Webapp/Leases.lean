import Mathlib.Logic.Function.Basic
import Xczu47dr.Records.Table

/-! # Leases

`ManagementStore`: who may work with a board.  An active lease names its board alone, which the
index of the table demands and the checks of the requests keep.
-/

namespace Xczu47dr.Webapp

open Records

/-- The exceptions of the management store. -/
inductive ManagementError
  | unknown (text : String)
  | management (text : String)
  | permission (text : String)
  | integrity (text : String)
  deriving DecidableEq

inductive LeaseStatus
  | active
  | released
  | forced
  deriving DecidableEq

structure LeaseRecord where
  id : Nat
  boardId : String
  userId : Nat
  status : LeaseStatus
  startsAt : Nat
  releasedAt : Option Nat
  releasedBy : Option Nat
  deriving DecidableEq

theorem ok_of_toOption {ε α : Type} {x : Except ε α} {a : α} (some : x.toOption = some a) : x = .ok a := by
  cases x with
  | error reason => cases some
  | ok b =>
      cases some
      rfl

def LeaseRecord.claim (lease : LeaseRecord) : Option String :=
  if lease.status = .active then some lease.boardId else none

/-- The row of a lease that is given back, or taken back by an administrator. -/
def LeaseRecord.ended (lease : LeaseRecord) (now actor : Nat) (force : Bool) : LeaseRecord :=
  { lease with status := if force then .forced else .released, releasedAt := some now, releasedBy := some actor }

theorem LeaseRecord.claim_ended (lease : LeaseRecord) (now actor : Nat) (force : Bool) :
    (lease.ended now actor force).claim = none := by
  rw [claim, if_neg]
  rw [ended]
  dsimp only
  split_ifs <;> nofun

/-- The tables `boards` and `leases`. -/
structure LeaseStore where
  /-- `boards.enabled` -/
  enabled : String → Option Bool
  leases : Table LeaseRecord.id
  /-- `AUTOINCREMENT` -/
  nextId : Nat
  numbered : ∀ lease ∈ leases.rows, lease.id < nextId
  /-- `one_active_lease_per_board` -/
  exclusive : Exclusive LeaseRecord.claim leases

namespace LeaseStore

def setEnabled (store : LeaseStore) (board : String) (enabled : Bool) : LeaseStore :=
  { store with enabled := Function.update store.enabled board (some enabled) }

variable (store : LeaseStore) (board : String) (now : Nat)

/-- `active_lease` -/
def activeLease : Option LeaseRecord := store.leases.rows.find? (·.claim = some board)

theorem activeLease_none :
    store.activeLease board = none ↔ ∀ lease ∈ store.leases.rows, lease.claim ≠ some board := by
  rw [activeLease, List.find?_eq_none]
  exact forall₂_congr fun lease _ => not_congr decide_eq_true_iff

theorem activeLease_some {store : LeaseStore} {board : String} {lease : LeaseRecord} :
    store.activeLease board = some lease ↔ lease ∈ store.leases.rows ∧ lease.claim = some board :=
  store.exclusive.find?_claim

/-- The rows behind the lease of another board have not changed. -/
theorem activeLease_congr {after : LeaseStore} {other : String}
    (rows : ∀ lease, lease.claim = some other → (lease ∈ after.leases.rows ↔ lease ∈ store.leases.rows)) :
    after.activeLease other = store.activeLease other := by
  refine Option.ext fun lease => ?_
  rw [activeLease_some, activeLease_some]
  exact ⟨fun found => ⟨(rows lease found.2).mp found.1, found.2⟩,
    fun found => ⟨(rows lease found.2).mpr found.1, found.2⟩⟩

def newLease (user : Nat) : LeaseRecord := ⟨store.nextId, board, user, .active, now, none, none⟩

theorem claim_newLease (user : Nat) : (store.newLease board now user).claim = some board := rfl

theorem newLease_free (user : Nat) :
    (store.newLease board now user).id ∉ store.leases.rows.map LeaseRecord.id := by
  intro taken
  obtain ⟨lease, among, same⟩ := List.mem_map.mp taken
  exact absurd same (Nat.ne_of_lt (store.numbered lease among))

/-- A new lease of a board that nobody has. -/
def withLease (user : Nat) (free : store.activeLease board = none) : LeaseStore where
  enabled := store.enabled
  leases := store.leases.insert (store.newLease board now user) (store.newLease_free board now user)
  nextId := store.nextId + 1
  numbered lease among := by
    rcases Table.mem_insert.mp among with old | rfl
    · exact Nat.lt_succ_of_lt (store.numbered lease old)
    · exact Nat.lt_succ_self _
  exclusive := store.exclusive.insert fun lease among resource named => by
    rw [claim_newLease, Option.some.injEq] at named
    rw [← named]
    exact (store.activeLease_none board).mp free lease among

theorem mem_withLease {store : LeaseStore} {board : String} {now user : Nat} {free : store.activeLease board = none}
    {lease : LeaseRecord} : lease ∈ (store.withLease board now user free).leases.rows ↔
      lease ∈ store.leases.rows ∨ lease = store.newLease board now user :=
  @Table.mem_insert _ _ _ store.leases _ (store.newLease_free board now user) lease

/-- `lease_board`; the index never refuses what the check has let pass. -/
def leaseBoard (user : Nat) : Except ManagementError LeaseStore :=
  match store.enabled board with
  | none => .error (.unknown ("unknown board " ++ board))
  | some false => .error (.management "board is disabled")
  | some true =>
    if free : store.activeLease board = none then .ok (store.withLease board now user free)
    else .error (.management "board is already leased")

def withoutLease (lease : LeaseRecord) (actor : Nat) (force : Bool) : LeaseStore where
  enabled := store.enabled
  leases := store.leases.amend lease.id (·.ended now actor force) fun _ => rfl
  nextId := store.nextId
  numbered row among := by
    rcases Table.mem_amend.mp among with ⟨old, -⟩ | ⟨old, there, -, rfl⟩
    · exact store.numbered row old
    · exact store.numbered old there
  exclusive := store.exclusive.amend fun row resource claims => by
    rw [LeaseRecord.claim_ended] at claims
    cases claims

theorem mem_withoutLease {store : LeaseStore} {now actor : Nat} {lease row : LeaseRecord} {force : Bool} :
    row ∈ (store.withoutLease now lease actor force).leases.rows ↔
      (row ∈ store.leases.rows ∧ row.id ≠ lease.id) ∨
        ∃ old ∈ store.leases.rows, old.id = lease.id ∧ old.ended now actor force = row :=
  @Table.mem_amend _ _ _ _ store.leases lease.id (·.ended now actor force) (fun _ => rfl) row

/-- `release_board` -/
def releaseBoard (actor : Nat) (force : Bool) : Except ManagementError LeaseStore :=
  match store.activeLease board with
  | none => .error (.management "board is not leased")
  | some row =>
    if row.userId ≠ actor ∧ force = false then
      .error (.permission "only the lease owner may release this board")
    else .ok (store.withoutLease now row actor force)

/-- `require_lease` -/
def requireLease (user : Nat) : Except ManagementError Unit :=
  match store.activeLease board with
  | none => .error (.permission "an active lease is required for live board control")
  | some lease =>
    if lease.userId ≠ user then .error (.permission "an active lease is required for live board control")
    else .ok ()

variable {store board now} {after : LeaseStore} {user actor : Nat} {force : Bool}

theorem requireLease_ok :
    store.requireLease board user = .ok () ↔ ∃ lease, store.activeLease board = some lease ∧ lease.userId = user := by
  rw [requireLease]
  cases found : store.activeLease board with
  | none => exact ⟨nofun, nofun⟩
  | some lease =>
      dsimp only
      by_cases own : lease.userId = user
      · rw [if_neg (not_not.mpr own)]
        exact ⟨fun _ => ⟨lease, rfl, own⟩, fun _ => rfl⟩
      · rw [if_pos own]
        refine ⟨nofun, ?_⟩
        rintro ⟨_, same, his⟩
        cases same
        exact absurd his own

/-- A lease changes nothing for the other boards. -/
theorem leaseBoard_ok (leased : store.leaseBoard board now user = .ok after) :
    store.activeLease board = none ∧
      (∃ lease, after.activeLease board = some lease ∧ lease.userId = user) ∧
      ∀ other, other ≠ board → after.activeLease other = store.activeLease other := by
  rw [leaseBoard] at leased
  cases enabled : store.enabled board with
  | none =>
      rw [enabled] at leased
      cases leased
  | some usable =>
      rw [enabled] at leased
      cases usable with
      | false => cases leased
      | true =>
          dsimp only at leased
          split_ifs at leased with free
          cases leased
          have there : store.newLease board now user ∈ (store.withLease board now user free).leases.rows :=
            mem_withLease.mpr (.inr rfl)
          refine ⟨free, ⟨_, activeLease_some.mpr ⟨there, rfl⟩, rfl⟩, fun other different => ?_⟩
          refine store.activeLease_congr fun lease claims => ?_
          rw [mem_withLease]
          refine ⟨fun among => among.resolve_right ?_, .inl⟩
          rintro rfl
          rw [claim_newLease] at claims
          exact different (Option.some.inj claims).symm

/-- A lease is given back by its holder, or by force. -/
theorem releaseBoard_ok (released : store.releaseBoard board now actor force = .ok after) :
    (∃ lease, store.activeLease board = some lease ∧ (lease.userId = actor ∨ force = true)) ∧
      after.activeLease board = none ∧
      ∀ other, other ≠ board → after.activeLease other = store.activeLease other := by
  rw [releaseBoard] at released
  cases found : store.activeLease board with
  | none =>
      rw [found] at released
      cases released
  | some row =>
      rw [found] at released
      dsimp only at released
      split_ifs at released with refused
      cases released
      obtain ⟨among, claims⟩ := activeLease_some.mp found
      refine ⟨⟨row, rfl, ?_⟩, ?_, fun other different => ?_⟩
      · by_contra neither
        rw [not_or, Bool.not_eq_true] at neither
        exact refused neither
      · refine (activeLease_none _ _).mpr fun lease there named => ?_
        rcases mem_withoutLease.mp there with ⟨old, elsewhere⟩ | ⟨old, -, -, rfl⟩
        · exact elsewhere (store.exclusive lease old row among board named claims)
        · rw [LeaseRecord.claim_ended] at named
          cases named
      · refine store.activeLease_congr fun lease named => ?_
        rw [mem_withoutLease]
        refine ⟨?_, fun there => .inl ⟨there, fun same => ?_⟩⟩
        · rintro (⟨old, -⟩ | ⟨old, -, -, rfl⟩)
          · exact old
          · rw [LeaseRecord.claim_ended] at named
            cases named
        · rw [store.leases.eq_of_key there among same, claims] at named
          exact different (Option.some.inj named).symm

end LeaseStore

end Xczu47dr.Webapp
