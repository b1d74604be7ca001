import Mathlib.Algebra.Group.Int.Defs
import Mathlib.Algebra.Group.Nat.Defs

/-! # Indices

Lanes, tiles and taps are counted in `Fin n`. That such an `n` is not zero is found under one
name in every module, and so is the power of numbers.
-/

namespace Clocked

instance four_neZero : @NeZero Nat Zero.ofOfNat0 4 := ⟨by decide⟩

instance eight_neZero : @NeZero Nat Zero.ofOfNat0 8 := ⟨by decide⟩

instance tap_neZero : @NeZero Nat Zero.ofOfNat0 2048 := ⟨by decide⟩

end Clocked
