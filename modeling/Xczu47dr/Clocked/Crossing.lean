import Mathlib.Tactic.Common
import Xczu47dr.Clocked.Indices

/-! # Crossing into another clock

A bit that enters another clock domain through three registers, and a word that
enters beside it through two.  The first register may take anything while its
source has changed since the last edge of its clock.  A bit that has changed once
therefore arrives stage by stage, and by the time it has passed the third register
the word that changed with it stands in the second of its own.
-/

namespace Clocked

/-- The three registers of a bit, and whether its source has changed since their last edge. -/
structure Synchronizer where
  first : Bool
  second : Bool
  third : Bool
  unsettled : Bool
  deriving DecidableEq

namespace Synchronizer

def reset : Synchronizer := ⟨false, false, false, false⟩

/-- An edge of the clock; `caught` is what the first register makes of an unsettled source. -/
def edge (s : Synchronizer) (source caught : Bool) : Synchronizer :=
  ⟨if s.unsettled then caught else source, s.first, s.second, false⟩

/-- The source goes from `before` to `after`. -/
def disturb (s : Synchronizer) (before after : Bool) : Synchronizer :=
  { s with unsettled := s.unsettled || before != after }

/-- The value `v` has arrived everywhere. -/
structure Shows (s : Synchronizer) (v : Bool) : Prop where
  first : s.first = v
  second : s.second = v
  third : s.third = v
  settled : s.unsettled = false

/-- The source has gone to `v`, which has not passed a stage before it passed the one
    in front. -/
structure Arriving (s : Synchronizer) (v : Bool) : Prop where
  first : s.first = v → s.unsettled = false
  second : s.second = v → s.first = v
  third : s.third = v → s.second = v

variable {s : Synchronizer} {v : Bool}

@[simp] theorem disturb_self : s.disturb v v = s := by
  simp [disturb]

@[simp] theorem disturb_first {before after : Bool} : (s.disturb before after).first = s.first := rfl

@[simp] theorem disturb_second {before after : Bool} : (s.disturb before after).second = s.second := rfl

@[simp] theorem disturb_third {before after : Bool} : (s.disturb before after).third = s.third := rfl

theorem Shows.edge (shows : s.Shows v) (caught : Bool) : (s.edge v caught).Shows v := by
  refine ⟨?_, shows.first, shows.second, rfl⟩
  change (if s.unsettled then caught else v) = v
  rw [shows.settled]
  rfl

theorem Arriving.shows (arriving : s.Arriving v) (third : s.third = v) : s.Shows v :=
  have second := arriving.third third
  have first := arriving.second second
  ⟨first, second, third, arriving.first first⟩

theorem Shows.changes (shows : s.Shows (!v)) : (s.disturb (!v) v).Arriving v where
  first arrived := absurd (arrived.symm.trans shows.first) (by simp)
  second arrived := absurd (arrived.symm.trans shows.second) (by simp)
  third arrived := absurd (arrived.symm.trans shows.third) (by simp)

theorem Arriving.edge (arriving : s.Arriving v) (caught : Bool) : (s.edge v caught).Arriving v where
  first _ := rfl
  second arrived := by
    change (if s.unsettled then caught else v) = v
    rw [arriving.first arrived]
    rfl
  third arrived := arriving.second arrived

/-- The edges it takes at most until `v` has passed the third register. -/
def left (s : Synchronizer) (v : Bool) : Nat :=
  if s.third = v then 0
  else if s.second = v then 1
  else if s.first = v then 2
  else if s.unsettled then 4
  else 3

theorem left_le (s : Synchronizer) (v : Bool) : s.left v ≤ 4 := by
  unfold left
  split_ifs <;> omega

theorem left_edge (late : s.third ≠ v) (caught : Bool) : (s.edge v caught).left v < s.left v := by
  unfold left
  rw [if_neg late]
  by_cases second : s.second = v
  · rw [if_pos second, if_pos (show (s.edge v caught).third = v from second)]
    exact Nat.one_pos
  · rw [if_neg second, if_neg (show (s.edge v caught).third ≠ v from second)]
    by_cases first : s.first = v
    · rw [if_pos first, if_pos (show (s.edge v caught).second = v from first)]
      decide
    · rw [if_neg first, if_neg (show (s.edge v caught).second ≠ v from first)]
      cases unsettled : s.unsettled with
      | true =>
        have caught : (s.edge v caught).unsettled = false := rfl
        split_ifs <;> simp_all
      | false =>
        have catches : (s.edge v caught).first = v := by
          change (if s.unsettled then caught else v) = v
          rw [unsettled]
          rfl
        rw [if_pos catches]
        decide

end Synchronizer

/-- The two registers of a word, and whether its source has changed since their last edge. -/
structure Passage (α : Type) where
  front : α
  back : α
  unsettled : Bool
  deriving DecidableEq

namespace Passage

variable {α : Type}

def edge (w : Passage α) (source caught : α) : Passage α :=
  ⟨if w.unsettled then caught else source, w.front, false⟩

/-- The source goes from `before` to `after`. -/
def disturb [DecidableEq α] (w : Passage α) (before after : α) : Passage α :=
  { w with unsettled := w.unsettled || before != after }

/-- The word `x` is as far as the bit `v` beside it, one register ahead. -/
structure Follows (w : Passage α) (s : Synchronizer) (v : Bool) (x : α) : Prop where
  settled : s.unsettled = false → w.unsettled = false
  front : s.second = v → w.front = x
  back : s.third = v → w.back = x

variable {w : Passage α} {s : Synchronizer} {v : Bool} {x : α}

@[simp] theorem disturb_self [DecidableEq α] : w.disturb x x = w := by
  simp [disturb]

/-- The word changes together with its bit. -/
theorem follows_change [DecidableEq α] (shows : s.Shows (!v)) (before : α) :
    (w.disturb before x).Follows (s.disturb (!v) v) v x where
  settled settled := by simp [Synchronizer.disturb] at settled
  front arrived := absurd (arrived.symm.trans shows.second) (by simp)
  back arrived := absurd (arrived.symm.trans shows.third) (by simp)

theorem Follows.edge (follows : w.Follows s v x) (arriving : s.Arriving v) (bit : Bool) (caught : α) :
    (w.edge x caught).Follows (s.edge v bit) v x where
  settled _ := rfl
  front arrived := by
    change (if w.unsettled then caught else x) = x
    rw [follows.settled (arriving.first arrived)]
    rfl
  back arrived := follows.front arrived

end Passage

end Clocked
