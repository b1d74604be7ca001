import Mathlib.Data.List.GetD
import Xczu47dr.Wire.LittleEndian

/-! # Bytes in a memory

A memory gives a byte at every address below its size; addresses wrap around.  What a
store of some bytes puts there, and what it leaves.
-/

namespace Wire

/-- The memory after `bytes` have been stored from `address` on. -/
def store (size : Nat) (memory : Nat → Byte) (address : Nat) (bytes : List Byte) (a : Nat) : Byte :=
  if (a + (size - address % size)) % size < bytes.length then bytes.getD ((a + (size - address % size)) % size) 0
  else memory a

/-- The bytes lie in the memory, one after the other. -/
def HoldsAt (size : Nat) (memory : Nat → Byte) (address : Nat) (bytes : List Byte) : Prop :=
  ∀ j, j < bytes.length → memory ((address + j) % size) = bytes.getD j 0

variable {size : Nat} {memory : Nat → Byte} {address : Nat} {bytes held later : List Byte}

theorem holdsAt_nil : HoldsAt size memory address [] := fun _ below => absurd below (Nat.not_lt_zero _)

theorem holdsAt_append : HoldsAt size memory address (held ++ later) ↔
    HoldsAt size memory address held ∧ HoldsAt size memory (address + held.length) later := by
  constructor
  · intro all
    refine ⟨fun j below => ?_, fun j below => ?_⟩
    · rw [all j (by rw [List.length_append]; omega), List.getD_append _ _ _ _ below]
    · rw [Nat.add_assoc, all (held.length + j) (by rw [List.length_append]; omega),
        List.getD_append_right _ _ _ _ (Nat.le_add_right _ _), Nat.add_sub_cancel_left]
  · rintro ⟨first, second⟩ j below
    rw [List.length_append] at below
    rcases Nat.lt_or_ge j held.length with inside | beyond
    · rw [first j inside, List.getD_append _ _ _ _ inside]
    · have behind := second (j - held.length) (by omega)
      rw [Nat.add_assoc, Nat.add_sub_cancel' beyond] at behind
      rw [behind, List.getD_append_right _ _ _ _ beyond]

theorem HoldsAt.of_append (all : HoldsAt size memory address (held ++ later)) : HoldsAt size memory address held :=
  (holdsAt_append.mp all).1

/-- How far an address is behind the start of a store. -/
theorem distance_inside {j : Nat} (inside : j < size) :
    ((address + j) % size + (size - address % size)) % size = j := by
  have below := Nat.mod_lt address (Nat.zero_lt_of_lt inside)
  have split := Nat.div_add_mod address size
  have moved : address + j + (size - address % size) = j + size * (address / size + 1) := by
    rw [Nat.mul_add, Nat.mul_one]
    omega
  rw [Nat.mod_add_mod, moved, Nat.add_mul_mod_self_left, Nat.mod_eq_of_lt inside]

/-- An address in front of a store is as far behind it as the addresses reach. -/
theorem distance_before {j distance : Nat} (before : j < distance) (within : distance < size) :
    ((address + j) % size + (size - (address + distance) % size)) % size = size - (distance - j) := by
  have below := Nat.mod_lt (address + distance) (Nat.zero_lt_of_lt within)
  have split := Nat.div_add_mod (address + distance) size
  have moved : address + j + (size - (address + distance) % size) =
      size - (distance - j) + size * ((address + distance) / size) := by omega
  rw [Nat.mod_add_mod, moved, Nat.add_mul_mod_self_left, Nat.mod_eq_of_lt (by omega)]

theorem holdsAt_store (fits : bytes.length ≤ size) :
    HoldsAt size (store size memory address bytes) address bytes := by
  intro j below
  rw [store, distance_inside (Nat.lt_of_lt_of_le below fits), if_pos below]

/-- What lies in front of a store stays, as long as the store does not wrap around onto it. -/
theorem HoldsAt.store_behind (there : HoldsAt size memory address held) {distance : Nat}
    (behind : held.length ≤ distance) (fits : distance + bytes.length ≤ size) :
    HoldsAt size (store size memory (address + distance) bytes) address held := by
  intro j below
  rw [store]
  by_cases none : bytes.length = 0
  · rw [none, if_neg (Nat.not_lt_zero _)]
    exact there j below
  · rw [distance_before (Nat.lt_of_lt_of_le below behind) (by omega : distance < size), if_neg (by omega)]
    exact there j below

theorem HoldsAt.store_next (there : HoldsAt size memory address held) (fits : held.length + bytes.length ≤ size) :
    HoldsAt size (store size memory (address + held.length) bytes) address (held ++ bytes) :=
  holdsAt_append.mpr ⟨there.store_behind (Nat.le_refl _) fits, holdsAt_store (by omega)⟩

/-- Only the address below the size counts. -/
theorem store_mod : store size memory (address % size) bytes = store size memory address bytes := by
  funext a
  rw [store, store, Nat.mod_mod]

end Wire
