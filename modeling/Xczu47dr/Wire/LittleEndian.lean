import Mathlib.Data.List.Basic
import Mathlib.Data.Nat.Basic
import Mathlib.Tactic.Common
import Mathlib.Tactic.NormNum
import Xczu47dr.Clocked.Indices

/-! # Little-endian bytes

Numbers as little-endian bytes, the packed fields of a structure, and the 64-bit
words a stream of bytes is carried in.
-/

namespace Wire

abbrev Byte := BitVec 8

/-- The low `n` bytes of a number, least significant first. -/
def littleEndian : Nat → Nat → List Byte
  | 0, _ => []
  | n + 1, x => BitVec.ofNat 8 x :: littleEndian n (x / 256)

def ofLittleEndian : List Byte → Nat
  | [] => 0
  | byte :: bytes => byte.toNat + 256 * ofLittleEndian bytes

variable {m n x : Nat} {bytes rest : List Byte}

@[simp] theorem length_littleEndian : (littleEndian n x).length = n := by
  induction n generalizing x with
  | zero => rfl
  | succ n ih => rw [littleEndian, List.length_cons, ih]

theorem littleEndian_add : littleEndian (m + n) x = littleEndian m x ++ littleEndian n (x / 256 ^ m) := by
  induction m generalizing x with
  | zero => rw [Nat.zero_add, Nat.pow_zero, Nat.div_one, littleEndian, List.nil_append]
  | succ m ih =>
    rw [Nat.add_right_comm, littleEndian, littleEndian, ih, List.cons_append, Nat.div_div_eq_div_mul, Nat.pow_succ']

theorem ofLittleEndian_littleEndian : ofLittleEndian (littleEndian n x) = x % 256 ^ n := by
  induction n generalizing x with
  | zero => rw [Nat.pow_zero, Nat.mod_one, littleEndian, ofLittleEndian]
  | succ n ih =>
    have split : x % 256 ^ (n + 1) = x % 256 + 256 * (x / 256 % 256 ^ n) := by rw [Nat.pow_succ', Nat.mod_mul]
    rw [littleEndian, ofLittleEndian, ih, split, BitVec.toNat_ofNat]

theorem ofLittleEndian_lt : ofLittleEndian bytes < 256 ^ bytes.length := by
  induction bytes with
  | nil => exact Nat.one_pos
  | cons byte bytes ih =>
    have below := byte.isLt
    rw [ofLittleEndian, List.length_cons, Nat.pow_succ]
    omega

theorem littleEndian_ofLittleEndian : littleEndian bytes.length (ofLittleEndian bytes) = bytes := by
  induction bytes with
  | nil => rfl
  | cons byte bytes ih =>
    have below := byte.isLt
    have tail : (byte.toNat + 256 * ofLittleEndian bytes) / 256 = ofLittleEndian bytes := by omega
    rw [List.length_cons, littleEndian, ofLittleEndian, tail, ih]
    congr 1
    apply BitVec.eq_of_toNat_eq
    rw [BitVec.toNat_ofNat]
    omega

/-- Only the low bytes of the number count. -/
theorem littleEndian_mod : littleEndian n (x % 256 ^ n) = littleEndian n x := by
  have same : littleEndian (littleEndian n x).length (ofLittleEndian (littleEndian n x)) = littleEndian n x :=
    littleEndian_ofLittleEndian
  rwa [length_littleEndian, ofLittleEndian_littleEndian] at same

theorem littleEndian_split : littleEndian (m + n) x = littleEndian m (x % 256 ^ m) ++ littleEndian n (x / 256 ^ m) := by
  rw [littleEndian_add, littleEndian_mod]

/-- A bit vector whose low part is of whole bytes. -/
theorem littleEndian_append {v w : Nat} (a b : Nat) (high : BitVec v) (low : BitVec w) (whole : w = 8 * a) :
    littleEndian (a + b) (high ++ low).toNat = littleEndian a low.toNat ++ littleEndian b high.toNat := by
  have size : 2 ^ w = 256 ^ a := by rw [whole, Nat.pow_mul]
  have below : low.toNat < 256 ^ a := size ▸ low.isLt
  have value : (high ++ low).toNat = low.toNat + 256 ^ a * high.toNat := by
    rw [BitVec.toNat_append, Nat.shiftLeft_eq, ← Nat.shiftLeft_eq, ← Nat.shiftLeft_add_eq_or_of_lt low.isLt,
      Nat.shiftLeft_eq, size, Nat.mul_comm, Nat.add_comm]
  have shifted : (low.toNat + 256 ^ a * high.toNat) / 256 ^ a = high.toNat := by
    rw [Nat.add_mul_div_left _ _ (Nat.pow_pos (by decide)), Nat.div_eq_of_lt below, Nat.zero_add]
  have masked : (low.toNat + 256 ^ a * high.toNat) % 256 ^ a = low.toNat := by
    rw [Nat.add_mul_mod_self_left, Nat.mod_eq_of_lt below]
  rw [value, littleEndian_add, shifted, ← littleEndian_mod, masked]

/-- A slice of whole bytes, in two parts. -/
theorem littleEndian_slice {w : Nat} (a b : Nat) (value : BitVec w) (start : Nat) :
    littleEndian (a + b) (value.extractLsb' start (8 * (a + b))).toNat =
      littleEndian a (value.extractLsb' start (8 * a)).toNat ++
        littleEndian b (value.extractLsb' (start + 8 * a) (8 * b)).toNat := by
  have size (k : Nat) : 2 ^ (8 * k) = 256 ^ k := Nat.pow_mul 2 8 k
  have part (from' k : Nat) :
      littleEndian k (value.extractLsb' from' (8 * k)).toNat = littleEndian k (value.toNat >>> from') := by
    rw [BitVec.extractLsb'_toNat, size, littleEndian_mod]
  rw [part, part, part, littleEndian_add, Nat.shiftRight_add, Nat.shiftRight_eq_div_pow _ (8 * a), size]

/-- A number of fewer bytes is filled up with zeros. -/
theorem littleEndian_zeros (a b : Nat) (below : x < 256 ^ a) :
    littleEndian (a + b) x = littleEndian a x ++ littleEndian b 0 := by
  rw [littleEndian_add, Nat.div_eq_of_lt below]

/-- The bits of the bytes are those of the number. -/
theorem bits_littleEndian :
    (littleEndian n x).flatMap (fun byte => (List.range 8).map byte.getLsbD) = (List.range (8 * n)).map x.testBit := by
  induction n generalizing x with
  | zero => rfl
  | succ n ih =>
    have first : (List.range 8).map (BitVec.ofNat 8 x).getLsbD = (List.range 8).map x.testBit := by
      apply List.map_congr_left
      intro k below
      rw [BitVec.getLsbD_ofNat, decide_eq_true (List.mem_range.mp below), Bool.true_and]
    have rest : (List.range (8 * n)).map (x / 256).testBit = ((List.range (8 * n)).map (8 + ·)).map x.testBit := by
      rw [List.map_map]
      apply List.map_congr_left
      intro k _
      rw [show 256 = 2 ^ 8 from rfl, Nat.testBit_div_two_pow, Function.comp_apply, Nat.add_comm]
    rw [littleEndian, List.flatMap_cons, ih, first, rest, Nat.mul_succ, Nat.add_comm, List.range_add, List.map_append]

/-! ## The parts of a word -/

theorem toNat_append_shiftRight {v w : Nat} (high : BitVec v) (low : BitVec w) :
    (high ++ low).toNat >>> w = high.toNat := by
  rw [BitVec.toNat_append, ← Nat.shiftLeft_add_eq_or_of_lt low.isLt, Nat.shiftLeft_eq, Nat.shiftRight_eq_div_pow,
    Nat.mul_comm, Nat.mul_add_div (Nat.two_pow_pos w), Nat.div_eq_of_lt low.isLt, Nat.add_zero]

theorem toNat_append_and {v w : Nat} (high : BitVec v) (low : BitVec w) :
    (high ++ low).toNat &&& (2 ^ w - 1) = low.toNat := by
  rw [Nat.and_two_pow_sub_one_eq_mod, BitVec.toNat_append, ← Nat.shiftLeft_add_eq_or_of_lt low.isLt, Nat.shiftLeft_eq,
    Nat.mul_comm, Nat.mul_add_mod, Nat.mod_eq_of_lt low.isLt]

/-! ## Packed fields -/

/-- The bytes of fields, each with its width. -/
def pack (fields : List (Nat × Nat)) : List Byte := fields.flatMap fun field => littleEndian field.1 field.2

@[simp] theorem length_pack (fields : List (Nat × Nat)) : (pack fields).length = (fields.map Prod.fst).sum := by
  induction fields with
  | nil => rfl
  | cons field fields ih =>
    rw [List.map_cons, List.sum_cons, ← ih, pack, List.flatMap_cons, List.length_append, length_littleEndian]
    rfl

/-- The fields of these widths at the front; none if the bytes are too few. -/
def unpack : List Nat → List Byte → Option (List Nat)
  | [], _ => some []
  | n :: widths, bytes =>
    if bytes.length < n then none
    else (unpack widths (bytes.drop n)).map (ofLittleEndian (bytes.take n) :: ·)

@[simp] theorem unpack_nil : unpack [] bytes = some [] := rfl

theorem unpack_littleEndian {widths : List Nat} (below : x < 256 ^ n) :
    unpack (n :: widths) (littleEndian n x ++ rest) = (unpack widths rest).map (x :: ·) := by
  have enough : ¬ (littleEndian n x ++ rest).length < n := by
    rw [List.length_append, length_littleEndian]
    omega
  rw [unpack, if_neg enough, List.take_left' length_littleEndian, List.drop_left' length_littleEndian,
    ofLittleEndian_littleEndian, Nat.mod_eq_of_lt below]

theorem unpack_pack {fields : List (Nat × Nat)} (fit : ∀ field ∈ fields, field.2 < 256 ^ field.1) :
    unpack (fields.map Prod.fst) (pack fields ++ rest) = some (fields.map Prod.snd) := by
  induction fields with
  | nil => rfl
  | cons field fields ih =>
    rw [pack, List.flatMap_cons, List.append_assoc, List.map_cons, unpack_littleEndian (fit field List.mem_cons_self)]
    change Option.map _ (unpack _ (pack fields ++ rest)) = _
    rw [ih fun field among => fit field (List.mem_cons_of_mem _ among)]
    rfl

theorem unpack_pack_self {fields : List (Nat × Nat)} (fit : ∀ field ∈ fields, field.2 < 256 ^ field.1) :
    unpack (fields.map Prod.fst) (pack fields) = some (fields.map Prod.snd) := by
  rw [← List.append_nil (pack fields)]
  exact unpack_pack fit

/-! ## Words -/

def wordBytes (words : List (BitVec 64)) : List Byte := words.flatMap fun word => littleEndian 8 word.toNat

@[simp] theorem wordBytes_nil : wordBytes [] = [] := rfl

@[simp] theorem wordBytes_cons (word : BitVec 64) (words : List (BitVec 64)) :
    wordBytes (word :: words) = littleEndian 8 word.toNat ++ wordBytes words := rfl

@[simp] theorem wordBytes_append (front back : List (BitVec 64)) :
    wordBytes (front ++ back) = wordBytes front ++ wordBytes back := List.flatMap_append

@[simp] theorem length_wordBytes (words : List (BitVec 64)) : (wordBytes words).length = 8 * words.length := by
  induction words with
  | nil => rfl
  | cons word words ih =>
    rw [wordBytes_cons, List.length_append, length_littleEndian, ih, List.length_cons]
    omega

theorem drop_wordBytes (words : List (BitVec 64)) (count : Nat) :
    (wordBytes words).drop (8 * count) = wordBytes (words.drop count) := by
  induction count generalizing words with
  | zero => rfl
  | succ count ih =>
    cases words with
    | nil => simp
    | cons word words =>
      rw [wordBytes_cons, Nat.mul_succ, Nat.add_comm, ← List.drop_drop, List.drop_left' length_littleEndian, ih]
      rfl

/-- The words of a stream of bytes, eight bytes to the word. -/
def toWords : List Byte → List (BitVec 64)
  | b0 :: b1 :: b2 :: b3 :: b4 :: b5 :: b6 :: b7 :: bytes =>
    BitVec.ofNat 64 (ofLittleEndian [b0, b1, b2, b3, b4, b5, b6, b7]) :: toWords bytes
  | _ => []

theorem toWords_littleEndian (word : BitVec 64) :
    toWords (littleEndian 8 word.toNat ++ bytes) = word :: toWords bytes := by
  have value : ofLittleEndian (littleEndian 8 word.toNat) = word.toNat := by
    rw [ofLittleEndian_littleEndian, show 256 ^ 8 = 2 ^ 64 by norm_num, Nat.mod_eq_of_lt word.isLt]
  have again : BitVec.ofNat 64 (ofLittleEndian (littleEndian 8 word.toNat)) = word := by
    rw [value, BitVec.ofNat_toNat, BitVec.setWidth_eq]
  exact congrArg (· :: toWords bytes) again

/-- Bytes that fill their words are the bytes of the words. -/
theorem wordBytes_toWords (count : Nat) (whole : bytes.length = 8 * count) : wordBytes (toWords bytes) = bytes := by
  induction count generalizing bytes with
  | zero =>
    rw [List.length_eq_zero_iff.mp whole]
    rfl
  | succ count ih =>
    obtain ⟨b0, b1, b2, b3, b4, b5, b6, b7, rest, rfl⟩ : ∃ b0 b1 b2 b3 b4 b5 b6 b7 rest,
        bytes = b0 :: b1 :: b2 :: b3 :: b4 :: b5 :: b6 :: b7 :: rest := by
      match bytes, whole with
      | b0 :: b1 :: b2 :: b3 :: b4 :: b5 :: b6 :: b7 :: rest, _ => exact ⟨b0, b1, b2, b3, b4, b5, b6, b7, rest, rfl⟩
    have shorter : rest.length = 8 * count := by
      simp only [List.length_cons] at whole
      omega
    have eight : 256 ^ [b0, b1, b2, b3, b4, b5, b6, b7].length = 2 ^ 64 := by
      simp only [List.length_cons, List.length_nil]
      norm_num
    have below := @ofLittleEndian_lt [b0, b1, b2, b3, b4, b5, b6, b7]
    rw [eight] at below
    rw [toWords, wordBytes_cons, ih shorter, BitVec.toNat_ofNat, Nat.mod_eq_of_lt below]
    exact congrArg (· ++ rest) (@littleEndian_ofLittleEndian [b0, b1, b2, b3, b4, b5, b6, b7])

theorem length_toWords (count : Nat) (whole : bytes.length = 8 * count) : (toWords bytes).length = count := by
  have same := congrArg List.length (wordBytes_toWords count whole)
  rw [length_wordBytes, whole] at same
  omega

@[simp] theorem toWords_wordBytes (words : List (BitVec 64)) : toWords (wordBytes words) = words := by
  induction words with
  | nil => rfl
  | cons word words ih => rw [wordBytes_cons, toWords_littleEndian, ih]

end Wire
