import Mathlib.Data.List.Range
import Mathlib.Data.Nat.ModEq
import Mathlib.Logic.Function.Basic
import Xczu47dr.Clocked.Indices

/-! # Ring buffers

A ring of `size` slots with a head index and an element count, seen as the list
it holds: what a write behind the last element and a move of the head do to that
list.
-/

namespace Clocked.Ring

variable {α : Type}

def contents (slots : Nat → α) (size head count : Nat) : List α :=
  (List.range count).map fun offset => slots ((head + offset) % size)

@[simp] theorem contents_zero (slots : Nat → α) (size head : Nat) :
    contents slots size head 0 = [] := rfl

@[simp] theorem length_contents (slots : Nat → α) (size head count : Nat) :
    (contents slots size head count).length = count := by
  simp [contents]

/-- Fewer than `size` steps from the head no slot is met twice. -/
theorem index_ne {size head first second : Nat} (before : first < second) (room : second < size) :
    (head + first) % size ≠ (head + second) % size := by
  intro same
  have shifted : first % size = second % size := Nat.ModEq.add_left_cancel' head same
  rw [Nat.mod_eq_of_lt (by omega), Nat.mod_eq_of_lt room] at shifted
  omega

/-- A write behind the last element appends it. -/
theorem contents_push (slots : Nat → α) {size count : Nat} (head : Nat) (room : count < size)
    (value : α) :
    contents (Function.update slots ((head + count) % size) value) size head (count + 1) =
      contents slots size head count ++ [value] := by
  unfold contents
  rw [List.range_succ, List.map_append, List.map_singleton, Function.update_self]
  congr 1
  refine List.map_congr_left fun offset held => ?_
  have before : offset < count := List.mem_range.mp held
  exact Function.update_of_ne (index_ne before room) _ _

/-- The oldest element is in the head slot; moving the head drops it. -/
theorem contents_pop (slots : Nat → α) {size head : Nat} (count : Nat) (inRange : head < size) :
    contents slots size head (count + 1) =
      slots head :: contents slots size ((head + 1) % size) count := by
  unfold contents
  rw [List.range_succ_eq_map, List.map_cons, List.map_map, Nat.add_zero,
    Nat.mod_eq_of_lt inRange]
  congr 1
  refine List.map_congr_left fun offset _ => ?_
  have shifted : head + (offset + 1) = head + 1 + offset := by omega
  simp only [Function.comp_apply, Nat.succ_eq_add_one, Nat.mod_add_mod, shifted]

/-- A write to the head slot replaces the oldest element. -/
theorem contents_head (slots : Nat → α) {size head count : Nat} (inRange : head < size) (room : count < size)
    (value : α) :
    contents (Function.update slots head value) size head (count + 1) =
      value :: contents slots size ((head + 1) % size) count := by
  rw [contents_pop _ count inRange, Function.update_self]
  congr 1
  refine List.map_congr_left fun offset held => ?_
  have after : offset + 1 < size := by
    have below := List.mem_range.mp held
    omega
  have apart : (head + 0) % size ≠ (head + (offset + 1)) % size := index_ne (Nat.zero_lt_succ offset) after
  rw [Nat.add_zero, Nat.mod_eq_of_lt inRange] at apart
  rw [Nat.mod_add_mod, Nat.add_right_comm, Nat.add_assoc, Function.update_of_ne apart.symm]

/-- The tail index follows the head when an element leaves. -/
theorem tail_pop {size head count : Nat} :
    ((head + 1) % size + count) % size = (head + (count + 1)) % size := by
  rw [Nat.mod_add_mod]
  congr 1
  omega

theorem tail_push {size head count : Nat} :
    ((head + count) % size + 1) % size = (head + (count + 1)) % size := by
  rw [Nat.mod_add_mod]
  congr 1

end Clocked.Ring
