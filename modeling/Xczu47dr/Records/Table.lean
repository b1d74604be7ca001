import Mathlib.Data.List.Sort
import Mathlib.Data.List.Nodup
import Mathlib.Data.List.Induction
import Xczu47dr.Clocked.Indices

/-! # Tables with a primary key

Rows in the order they were inserted, no two of them with one key. Rows are
rewritten in place, inserted under a key that is free, and selected by a
predicate and an order.
-/

namespace Records

variable {κ α ρ : Type}

structure Table (key : α → κ) where
  rows : List α
  distinct : (rows.map key).Nodup

namespace Table

variable {key : α → κ}

def empty (key : α → κ) : Table key := ⟨[], List.nodup_nil⟩

theorem eq_of_key (table : Table key) {row other : α} (mem : row ∈ table.rows) (otherMem : other ∈ table.rows)
    (same : key row = key other) : row = other :=
  List.inj_on_of_nodup_map table.distinct mem otherMem same

/-- `UPDATE`: every row goes through `change`, which keeps its key. -/
def rewrite (table : Table key) (change : α → α) (keeps : ∀ row, key (change row) = key row) : Table key where
  rows := table.rows.map change
  distinct := by
    have same : key ∘ change = key := funext keeps
    rw [List.map_map, same]
    exact table.distinct

/-- `UPDATE … WHERE key = k` -/
def amend [DecidableEq κ] (table : Table key) (k : κ) (change : α → α)
    (keeps : ∀ row, key (change row) = key row) : Table key :=
  table.rewrite (fun row => if key row = k then change row else row) fun row => by
    by_cases here : key row = k
    · rw [if_pos here, keeps]
    · rw [if_neg here]

/-- `INSERT` -/
def insert (table : Table key) (row : α) (free : key row ∉ table.rows.map key) : Table key where
  rows := table.rows ++ [row]
  distinct := by
    rw [List.map_append, List.nodup_append]
    refine ⟨table.distinct, List.nodup_singleton _, ?_⟩
    intro k mem last lastMem same
    rw [List.map_singleton, List.mem_singleton] at lastMem
    rw [same, lastMem] at mem
    exact free mem

/-- `SELECT … WHERE key = k` -/
def find? [DecidableEq κ] (table : Table key) (k : κ) : Option α := table.rows.find? (key · = k)

/-- `SELECT … WHERE chosen ORDER BY before`: rows that tie stay in the order of the table. -/
def select (table : Table key) (chosen : α → Bool) (before : α → α → Prop) [DecidableRel before] : List α :=
  (table.rows.filter chosen).insertionSort before

theorem mem_rewrite {table : Table key} {change : α → α} {keeps : ∀ row, key (change row) = key row}
    {row : α} : row ∈ (table.rewrite change keeps).rows ↔ ∃ old ∈ table.rows, change old = row := List.mem_map

theorem mem_insert {table : Table key} {new : α} {free : key new ∉ table.rows.map key} {row : α} :
    row ∈ (table.insert new free).rows ↔ row ∈ table.rows ∨ row = new := by
  simp only [insert, List.mem_append, List.mem_singleton]

theorem mem_select {table : Table key} {chosen : α → Bool} {before : α → α → Prop} [DecidableRel before]
    {row : α} : row ∈ table.select chosen before ↔ row ∈ table.rows ∧ chosen row := by
  rw [select, List.mem_insertionSort, List.mem_filter]

theorem find?_some [DecidableEq κ] {table : Table key} {k : κ} {row : α} (found : table.find? k = some row) :
    row ∈ table.rows ∧ key row = k :=
  ⟨List.mem_of_find?_eq_some found, of_decide_eq_true (List.find?_some (p := (key · = k)) found)⟩

theorem find?_of_mem [DecidableEq κ] (table : Table key) {row : α} (mem : row ∈ table.rows) :
    table.find? (key row) = some row := by
  cases found : table.find? (key row) with
  | none => exact absurd (List.find?_eq_none.mp found row mem) (by simp)
  | some other =>
      obtain ⟨otherMem, same⟩ := find?_some found
      rw [table.eq_of_key otherMem mem same]

theorem find?_rewrite [DecidableEq κ] (table : Table key) (change : α → α)
    (keeps : ∀ row, key (change row) = key row) (k : κ) :
    (table.rewrite change keeps).find? k = (table.find? k).map change := by
  have same : ((fun row => decide (key row = k)) ∘ change) = fun row => decide (key row = k) :=
    funext fun row => by rw [Function.comp_apply, keeps]
  rw [find?, find?, rewrite, List.find?_map, same]

theorem find?_amend [DecidableEq κ] (table : Table key) (k : κ) (change : α → α)
    (keeps : ∀ row, key (change row) = key row) : (table.amend k change keeps).find? k = (table.find? k).map change := by
  rw [amend, find?_rewrite]
  refine Option.map_congr fun row found => ?_
  rw [if_pos (find?_some found).2]

theorem find?_amend_ne [DecidableEq κ] (table : Table key) {k other : κ} (change : α → α)
    (keeps : ∀ row, key (change row) = key row) (different : other ≠ k) :
    (table.amend k change keeps).find? other = table.find? other := by
  rw [amend, find?_rewrite]
  cases found : table.find? other with
  | none => rfl
  | some row =>
      rw [Option.map_some, if_neg]
      rw [(find?_some found).2]
      exact different

theorem find?_insert [DecidableEq κ] (table : Table key) (row : α) (free : key row ∉ table.rows.map key) :
    (table.insert row free).find? (key row) = some row :=
  find?_of_mem _ (mem_insert.mpr (.inr rfl))

theorem find?_insert_ne [DecidableEq κ] (table : Table key) {row : α} (free : key row ∉ table.rows.map key) {k : κ}
    (different : k ≠ key row) : (table.insert row free).find? k = table.find? k := by
  rw [find?, find?, insert, List.find?_append, List.find?_singleton, if_neg, Option.or_none]
  simpa using different.symm

theorem keys_amend [DecidableEq κ] (table : Table key) (k : κ) (change : α → α)
    (keeps : ∀ row, key (change row) = key row) :
    (table.amend k change keeps).rows.map key = table.rows.map key := by
  rw [amend, rewrite, List.map_map]
  refine List.map_congr_left fun row _ => ?_
  rw [Function.comp_apply]
  split_ifs
  · exact keeps row
  · rfl

/-- The row of `k` is changed, the others are not. -/
theorem mem_amend [DecidableEq κ] {table : Table key} {k : κ} {change : α → α}
    {keeps : ∀ row, key (change row) = key row} {row : α} :
    row ∈ (table.amend k change keeps).rows ↔
      (row ∈ table.rows ∧ key row ≠ k) ∨ ∃ old ∈ table.rows, key old = k ∧ change old = row := by
  rw [amend, mem_rewrite]
  constructor
  · rintro ⟨old, mem, rfl⟩
    by_cases here : key old = k
    · exact .inr ⟨old, mem, here, (if_pos here).symm⟩
    · rw [if_neg here]
      exact .inl ⟨mem, here⟩
  · rintro (⟨mem, other⟩ | ⟨old, mem, here, rfl⟩)
    · exact ⟨row, mem, if_neg other⟩
    · exact ⟨old, mem, if_pos here⟩

end Table

/-! ## Rows that claim a resource -/

section Claims

variable {key : α → κ} (claim : α → Option ρ)

def Exclusive (table : Table key) : Prop :=
  ∀ row ∈ table.rows, ∀ other ∈ table.rows, ∀ resource,
    claim row = some resource → claim other = some resource → key row = key other

/-- A row of another key claims the resource. -/
def ClaimedBeside (table : Table key) (k : κ) (resource : ρ) : Prop :=
  ∃ row ∈ table.rows, key row ≠ k ∧ claim row = some resource

variable {claim} {table : Table key}

theorem Exclusive.empty : Exclusive claim (Table.empty key) := by
  intro row mem
  cases mem

/-- The row that claims a resource is found. -/
theorem Exclusive.find?_claim [DecidableEq ρ] (exclusive : Exclusive claim table) {resource : ρ} {row : α} :
    table.rows.find? (fun row => claim row = some resource) = some row ↔
      row ∈ table.rows ∧ claim row = some resource := by
  constructor
  · intro found
    exact ⟨List.mem_of_find?_eq_some found,
      of_decide_eq_true (List.find?_some (p := fun row => claim row = some resource) found)⟩
  · rintro ⟨mem, claims⟩
    cases found : table.rows.find? (fun row => claim row = some resource) with
    | none => exact absurd (decide_eq_true claims) (List.find?_eq_none.mp found row mem)
    | some other =>
        have otherClaims : claim other = some resource :=
          of_decide_eq_true (List.find?_some (p := fun row => claim row = some resource) found)
        have same := exclusive other (List.mem_of_find?_eq_some found) row mem resource otherClaims claims
        rw [table.eq_of_key (List.mem_of_find?_eq_some found) mem same]

/-- A new row may claim what no other does. -/
theorem Exclusive.insert (exclusive : Exclusive claim table) {new : α} {free : key new ∉ table.rows.map key}
    (alone : ∀ row ∈ table.rows, ∀ resource, claim new = some resource → claim row ≠ some resource) :
    Exclusive claim (table.insert new free) := by
  intro row mem other otherMem resource claims otherClaims
  rcases Table.mem_insert.mp mem with old | rfl
  · rcases Table.mem_insert.mp otherMem with otherOld | rfl
    · exact exclusive row old other otherOld resource claims otherClaims
    · exact absurd claims (alone row old resource otherClaims)
  · rcases Table.mem_insert.mp otherMem with otherOld | rfl
    · exact absurd otherClaims (alone other otherOld resource claims)
    · rfl

/-- Claims may be dropped in any number of rows. -/
theorem Exclusive.rewrite (exclusive : Exclusive claim table) {change : α → α}
    {keeps : ∀ row, key (change row) = key row}
    (drops : ∀ row resource, claim (change row) = some resource → claim row = some resource) :
    Exclusive claim (table.rewrite change keeps) := by
  intro row mem other otherMem resource claims otherClaims
  obtain ⟨old, oldMem, rfl⟩ := Table.mem_rewrite.mp mem
  obtain ⟨oldOther, oldOtherMem, rfl⟩ := Table.mem_rewrite.mp otherMem
  rw [keeps, keeps]
  exact exclusive old oldMem oldOther oldOtherMem resource (drops _ _ claims) (drops _ _ otherClaims)

theorem Exclusive.amend [DecidableEq κ] (exclusive : Exclusive claim table) {k : κ} {change : α → α}
    {keeps : ∀ row, key (change row) = key row}
    (drops : ∀ row resource, claim (change row) = some resource → claim row = some resource) :
    Exclusive claim (table.amend k change keeps) := by
  refine exclusive.rewrite fun row resource claims => ?_
  by_cases here : key row = k
  · rw [if_pos here] at claims
    exact drops row resource claims
  · rw [if_neg here] at claims
    exact claims

theorem Exclusive.amend_iff [DecidableEq κ] (exclusive : Exclusive claim table) {row : α} (mem : row ∈ table.rows)
    {change : α → α} {keeps : ∀ row, key (change row) = key row} {resource : ρ}
    (claims : claim (change row) = some resource) :
    Exclusive claim (table.amend (key row) change keeps) ↔ ¬ ClaimedBeside claim table (key row) resource := by
  have changed : change row ∈ (table.amend (key row) change keeps).rows :=
    Table.mem_amend.mpr (.inr ⟨row, mem, rfl, rfl⟩)
  constructor
  · rintro after ⟨other, otherMem, different, otherClaims⟩
    have kept : other ∈ (table.amend (key row) change keeps).rows :=
      Table.mem_amend.mpr (.inl ⟨otherMem, different⟩)
    have same := after _ kept _ changed resource otherClaims claims
    rw [keeps] at same
    exact different same
  · intro beside first firstMem second secondMem found firstClaims secondClaims
    -- only the amended row can claim more than before
    rcases Table.mem_amend.mp firstMem with ⟨firstOld, firstOther⟩ | ⟨old, oldMem, here, rfl⟩ <;>
    rcases Table.mem_amend.mp secondMem with ⟨secondOld, secondOther⟩ | ⟨old', oldMem', here', rfl⟩
    · exact exclusive first firstOld second secondOld found firstClaims secondClaims
    · obtain rfl := table.eq_of_key oldMem' mem here'
      rw [claims] at secondClaims
      rw [← secondClaims] at firstClaims
      exact absurd ⟨first, firstOld, firstOther, firstClaims⟩ beside
    · obtain rfl := table.eq_of_key oldMem mem here
      rw [claims] at firstClaims
      rw [← firstClaims] at secondClaims
      exact absurd ⟨second, secondOld, secondOther, secondClaims⟩ beside
    · rw [keeps, keeps, here, here']

end Claims

end Records
