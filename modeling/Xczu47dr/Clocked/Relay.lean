import Mathlib.Tactic.Common
import Xczu47dr.Clocked.Indices

/-! # Two registers into another clock

A bit or a word that enters another clock domain through two registers.  The first
one may take anything while the source's last edge has changed the source; an edge
of the source that leaves it as it is settles it.  A word that has been at rest
since before its bit changed is therefore in each register no later than the bit.
-/

namespace Clocked

/-- The two registers, and whether the last edge of the source's clock has changed the source. -/
structure Relay (α : Type) where
  front : α
  back : α
  racing : Bool
  deriving DecidableEq

namespace Relay

variable {α : Type}

/-- An edge of the clock; `caught` is what the first register makes of a source that is changing. -/
def edge (r : Relay α) (source caught : α) : Relay α := ⟨bif r.racing then caught else source, r.front, false⟩

/-- An edge of the source's clock, at which the source goes from `before` to `after`. -/
def race [DecidableEq α] (r : Relay α) (before after : α) : Relay α := { r with racing := before != after }

/-- The value `v` has arrived in both registers. -/
structure Shows (r : Relay α) (v : α) : Prop where
  front : r.front = v
  back : r.back = v
  settled : r.racing = false

/-- The source has gone to `v`, which does not pass the second register before the first. -/
structure Arriving (r : Relay Bool) (v : Bool) : Prop where
  front : r.front = v → r.racing = false
  back : r.back = v → r.front = v

/-- The word `x` is at rest, and as far as the bit `v` beside it. -/
structure Follows (w : Relay α) (x : α) (r : Relay Bool) (v : Bool) : Prop where
  settled : w.racing = false
  front : r.front = v → w.front = x
  back : r.back = v → w.back = x

variable {r : Relay Bool} {w : Relay α} {v caught : Bool} {x : α}

theorem Shows.edge (shows : w.Shows x) (caught : α) : (w.edge x caught).Shows x := by
  refine ⟨?_, shows.front, rfl⟩
  change (bif w.racing then caught else x) = x
  rw [shows.settled]
  rfl

theorem Shows.race [DecidableEq α] (shows : w.Shows x) (y : α) : (w.race y y).Shows x :=
  ⟨shows.front, shows.back, bne_self_eq_false y⟩

theorem Arriving.shows (arriving : r.Arriving v) (back : r.back = v) : r.Shows v :=
  ⟨arriving.back back, back, arriving.front (arriving.back back)⟩

theorem Shows.changes {before after : Bool} (shows : r.Shows before) (apart : before ≠ after) :
    (r.race before after).Arriving after where
  front arrived := absurd (shows.front.symm.trans arrived) apart
  back arrived := absurd (shows.back.symm.trans arrived) apart

theorem Arriving.edge (arriving : r.Arriving v) (caught : Bool) : (r.edge v caught).Arriving v where
  front _ := rfl
  back arrived := by
    change (bif r.racing then caught else v) = v
    rw [arriving.front arrived]
    rfl

theorem Arriving.race (arriving : r.Arriving v) (u : Bool) : (r.race u u).Arriving v :=
  ⟨fun _ => bne_self_eq_false u, arriving.back⟩

/-- A word at rest, beside a bit that has not begun to change. -/
theorem follows_rest {before : Bool} (settled : w.racing = false) (shows : r.Shows before) (apart : before ≠ v) :
    w.Follows x (r.race before v) v :=
  ⟨settled, fun arrived => absurd (shows.front.symm.trans arrived) apart,
    fun arrived => absurd (shows.back.symm.trans arrived) apart⟩

theorem Follows.edge (follows : w.Follows x r v) (word : α) (bit : Bool) :
    (w.edge x word).Follows x (r.edge v bit) v where
  settled := rfl
  front _ := by
    change (bif w.racing then word else x) = x
    rw [follows.settled]
    rfl
  back arrived := follows.front arrived

theorem Follows.race [DecidableEq α] (follows : w.Follows x r v) (y : α) (u : Bool) :
    (w.race y y).Follows x (r.race u u) v :=
  ⟨bne_self_eq_false y, follows.front, follows.back⟩

/-- The edges it takes at most until `v` has passed the second register. -/
def left (r : Relay Bool) (v : Bool) : Nat :=
  if r.back = v then 0 else if r.front = v then 1 else if r.racing then 3 else 2

theorem left_le (r : Relay Bool) (v : Bool) : r.left v ≤ 3 := by
  unfold left
  split_ifs <;> omega

theorem left_edge (late : r.back ≠ v) (caught : Bool) : (r.edge v caught).left v < r.left v := by
  rw [left, left, if_neg late]
  by_cases front : r.front = v
  · rw [if_pos front, if_pos (show (r.edge v caught).back = v from front)]
    exact Nat.one_pos
  · rw [if_neg front, if_neg (show (r.edge v caught).back ≠ v from front)]
    cases racing : r.racing with
    | true =>
      rw [if_pos rfl, if_neg (show (r.edge v caught).racing ≠ true from Bool.false_ne_true)]
      split_ifs <;> decide
    | false =>
      have catches : (r.edge v caught).front = v := by
        change (bif r.racing then caught else v) = v
        rw [racing]
        rfl
      rw [if_pos catches]
      decide

theorem left_race (u : Bool) : (r.race u u).left v ≤ r.left v := by
  change (if r.back = v then 0 else if r.front = v then 1 else if (u != u) = true then 3 else 2) ≤ _
  rw [bne_self_eq_false, if_neg Bool.false_ne_true, left]
  split_ifs <;> omega

end Relay

end Clocked
