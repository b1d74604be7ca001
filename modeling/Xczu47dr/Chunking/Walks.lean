import Mathlib.Data.List.Range
import Xczu47dr.Clocked.Indices

/-! # Walks over a range

A loop that goes over the units below `total` in pieces: at each start it takes
as many units as a function of the start says. What it yields is compared with
the units taken one by one.
-/

namespace Chunking

variable {α : Type} {count : Nat → Nat} {total : Nat}

/-- The starts of the pieces: `while start < total: yield start; start += count(start)`. -/
def walk (count : Nat → Nat) (total : Nat) : Nat → Nat → List Nat
  | 0, _ => []
  | fuel + 1, start => if start < total then start :: walk count total fuel (start + count start) else []

/-- The positions the loop comes to. -/
inductive Reaches (count : Nat → Nat) (total : Nat) (start : Nat) : Nat → Prop where
  | here : Reaches count total start start
  | next {position : Nat} (before : Reaches count total start position) (inside : position < total) :
      Reaches count total start (position + count position)

/-- Every piece has a unit, and none goes beyond the end. -/
structure Advances (count : Nat → Nat) (total : Nat) : Prop where
  forward : ∀ position < total, 0 < count position
  inside : ∀ position < total, position + count position ≤ total

theorem Reaches.step_left {start position : Nat} (inside : start < total)
    (later : Reaches count total (start + count start) position) : Reaches count total start position := by
  induction later with
  | here => exact .next .here inside
  | next _ more ih => exact .next ih more

theorem Reaches.cases_left {start position : Nat} (reaches : Reaches count total start position) :
    position = start ∨ (start < total ∧ Reaches count total (start + count start) position) := by
  induction reaches with
  | here => exact .inl rfl
  | next before inside ih =>
      right
      rcases ih with rfl | ⟨first, later⟩
      · exact ⟨inside, .here⟩
      · exact ⟨first, .next later inside⟩

/-- With a unit of fuel for each unit left, the loop comes to all its positions. -/
theorem mem_walk (advances : Advances count total) {fuel start position : Nat} (enough : total ≤ start + fuel) :
    position ∈ walk count total fuel start ↔ Reaches count total start position ∧ position < total := by
  induction fuel generalizing start with
  | zero =>
      refine iff_of_false List.not_mem_nil ?_
      rintro ⟨reaches, inside⟩
      have order : start ≤ position := by
        induction reaches with
        | here => exact Nat.le_refl start
        | next _ _ ih => omega
      omega
  | succ fuel ih =>
      rw [walk]
      by_cases inside : start < total
      · have forward := advances.forward start inside
        rw [if_pos inside, List.mem_cons, ih (by omega)]
        constructor
        · rintro (rfl | ⟨later, below⟩)
          · exact ⟨.here, inside⟩
          · exact ⟨later.step_left inside, below⟩
        · rintro ⟨reaches, below⟩
          rcases reaches.cases_left with rfl | ⟨_, later⟩
          · exact .inl rfl
          · exact .inr ⟨later, below⟩
      · rw [if_neg inside]
        refine iff_of_false List.not_mem_nil ?_
        rintro ⟨reaches, below⟩
        rcases reaches.cases_left with rfl | ⟨first, _⟩
        · exact inside below
        · exact inside first

/-! ## Units -/

/-- The units of a piece, one after the other. -/
def piece (unit : Nat → List α) (start count : Nat) : List α := (List.range' start count).flatMap unit

theorem piece_append (unit : Nat → List α) (start first second : Nat) :
    piece unit start first ++ piece unit (start + first) second = piece unit start (first + second) := by
  rw [piece, piece, ← List.flatMap_append, piece, List.range'_append_1]

theorem length_piece {unit : Nat → List α} {width : Nat} (even : ∀ i, (unit i).length = width) (start count : Nat) :
    (piece unit start count).length = width * count := by
  induction count generalizing start with
  | zero => rfl
  | succ count ih =>
      rw [piece, List.range'_succ, List.flatMap_cons, List.length_append, even, ← piece, ih, Nat.mul_succ, Nat.add_comm]

/-- The pieces of a walk make up the whole range. -/
theorem walk_piece (advances : Advances count total) (unit : Nat → List α) {fuel start : Nat}
    (enough : total ≤ start + fuel) (within : start ≤ total) :
    (walk count total fuel start).flatMap (fun position => piece unit position (count position)) =
      piece unit start (total - start) := by
  induction fuel generalizing start with
  | zero =>
      have none_left : total - start = 0 := by omega
      rw [none_left]
      rfl
  | succ fuel ih =>
      rw [walk]
      by_cases inside : start < total
      · have forward := advances.forward start inside
        have behind := advances.inside start inside
        have rest : total - start = count start + (total - (start + count start)) := by omega
        rw [if_pos inside, List.flatMap_cons, ih (by omega) behind, piece_append, ← rest]
      · have none_left : total - start = 0 := by omega
        rw [if_neg inside, none_left]
        rfl

/-- Pieces of equal lengths make up the same list only if they agree one by one. -/
theorem flatMap_eq_iff {ι : Type} {f g : ι → List α} {places : List ι}
    (even : ∀ i ∈ places, (f i).length = (g i).length) :
    places.flatMap f = places.flatMap g ↔ ∀ i ∈ places, f i = g i := by
  induction places with
  | nil => exact iff_of_true rfl nofun
  | cons first rest ih =>
      rw [List.flatMap_cons, List.flatMap_cons, List.forall_mem_cons,
        ← ih fun i mem => even i (List.mem_cons_of_mem first mem)]
      constructor
      · exact fun same => List.append_inj same (even first List.mem_cons_self)
      · rintro ⟨same, others⟩
        rw [same, others]

theorem flatten_replicate_eq_piece {unit : Nat → List α} {width : Nat} (even : ∀ i, (unit i).length = width)
    (first start count : Nat) :
    (List.replicate count (unit first)).flatten = piece unit start count ↔
      ∀ i, start ≤ i → i < start + count → unit first = unit i := by
  have constant : (List.replicate count (unit first)).flatten =
      (List.range' start count).flatMap fun _ => unit first := by
    rw [List.flatMap_def, List.map_const', List.length_range']
  rw [constant, piece, flatMap_eq_iff fun i _ => (even first).trans (even i).symm]
  simp only [List.mem_range'_1, and_imp]

end Chunking
