import Mathlib
import Xczu47dr.Clocked.Indices

/-! # Hexadecimal text

Numbers written with a fixed count of hexadecimal digits and read back by a
reader that takes much more than what is written: digits of any script, either
case, blanks at the ends, a sign, a prefix and single underscores.
-/

namespace HexText

abbrev Text := List Char

def lower (text : Text) : Text := text.map Char.toLower

@[simp] theorem lower_lower (text : Text) : lower (lower text) = lower text := by
  rw [lower, lower, List.map_map]
  apply List.map_congr_left
  intro c _
  exact Char.toLower_toLower_eq_toLower c

/-! ## Writing -/

/-- The lowest `width` hexadecimal digits of a number. -/
def hexText : Nat → Nat → Text
  | 0, _ => []
  | width + 1, n => hexText width (n / 16) ++ [(n % 16).digitChar]

theorem length_hexText (width n : Nat) : (hexText width n).length = width := by
  induction width generalizing n with
  | zero => rfl
  | succ width ih => rw [hexText, List.length_append, ih, List.length_singleton]

def alphabet : Text := ['0', '1', '2', '3', '4', '5', '6', '7', '8', '9', 'a', 'b', 'c', 'd', 'e', 'f']

theorem forall_alphabet {p : Char → Prop} [DecidablePred p] (all : alphabet.all fun c => p c) : ∀ c ∈ alphabet, p c := by
  intro c mem
  exact of_decide_eq_true (List.all_eq_true.mp all c mem)

theorem digitChar_mem : ∀ digit < 16, Nat.digitChar digit ∈ alphabet := by decide

theorem mem_hexText {width n : Nat} {c : Char} (mem : c ∈ hexText width n) : c ∈ alphabet := by
  induction width generalizing n with
  | zero => cases mem
  | succ width ih =>
      rw [hexText, List.mem_append, List.mem_singleton] at mem
      rcases mem with front | rfl
      · exact ih front
      · exact digitChar_mem _ (Nat.mod_lt n (by omega))

theorem lower_hexText (width n : Nat) : lower (hexText width n) = hexText width n := by
  have fixed : ∀ c ∈ alphabet, c.toLower = c := forall_alphabet (by decide)
  calc (hexText width n).map Char.toLower
    _ = (hexText width n).map id := List.map_congr_left fun c mem => fixed c (mem_hexText mem)
    _ = hexText width n := List.map_id _

/-! ## Reading -/

/-- The zeros of the scripts that have decimal digits. -/
def decimalZeros : List Nat :=
  [0x30, 0x660, 0x6f0, 0x7c0, 0x966, 0x9e6, 0xa66, 0xae6, 0xb66, 0xbe6, 0xc66, 0xce6, 0xd66, 0xde6, 0xe50, 0xed0,
    0xf20, 0x1040, 0x1090, 0x17e0, 0x1810, 0x1946, 0x19d0, 0x1a80, 0x1a90, 0x1b50, 0x1bb0, 0x1c40, 0x1c50, 0xa620,
    0xa8d0, 0xa900, 0xa9d0, 0xa9f0, 0xaa50, 0xabf0, 0xff10, 0x104a0, 0x10d30, 0x11066, 0x110f0, 0x11136, 0x111d0,
    0x112f0, 0x11450, 0x114d0, 0x11650, 0x116c0, 0x11730, 0x118e0, 0x11950, 0x11c50, 0x11d50, 0x11da0, 0x16a60,
    0x16ac0, 0x16b50, 0x1d7ce, 0x1d7d8, 0x1d7e2, 0x1d7ec, 0x1d7f6, 0x1e140, 0x1e2f0, 0x1e950, 0x1fbf0]

def blank (c : Char) : Bool :=
  c.toNat ∈ [0x9, 0xa, 0xb, 0xc, 0xd, 0x20, 0x85, 0xa0, 0x1680, 0x2000, 0x2001, 0x2002, 0x2003, 0x2004, 0x2005, 0x2006,
    0x2007, 0x2008, 0x2009, 0x200a, 0x2028, 0x2029, 0x202f, 0x205f, 0x3000]

/-- Decimal digits of every script become ASCII. -/
def plainDigit (c : Char) : Char :=
  match decimalZeros.find? fun start => start ≤ c.toNat ∧ c.toNat < start + 10 with
  | some start => (c.toNat - start).digitChar
  | none => c

def strip (blank : Char → Bool) (text : Text) : Text :=
  ((text.dropWhile blank).reverse.dropWhile blank).reverse

def hexValue (c : Char) : Option Nat := alphabet.idxOf? c.toLower

/-- The rest of a number behind a digit; an underscore stands between two digits. -/
def readDigits (value : Nat) : Text → Option Nat
  | [] => some value
  | '_' :: c :: rest => (hexValue c).bind fun digit => readDigits (16 * value + digit) rest
  | c :: rest => (hexValue c).bind fun digit => readDigits (16 * value + digit) rest

def unsigned : Text → Text
  | '+' :: rest => rest
  | rest => rest

def unprefixed : Text → Text
  | '0' :: 'x' :: '_' :: rest => rest
  | '0' :: 'X' :: '_' :: rest => rest
  | '0' :: 'x' :: rest => rest
  | '0' :: 'X' :: rest => rest
  | rest => rest

/-- Python's `int(text, 16)` of a text without a minus sign. -/
def readHex (text : Text) : Option Nat :=
  match unprefixed (unsigned (strip blank (text.map plainDigit))) with
  | [] => none
  | first :: rest => (hexValue first).bind fun digit => readDigits digit rest

/-! ## What is written is read back -/

theorem strip_eq {blank : Char → Bool} {text : Text} (inked : ∀ c ∈ text, blank c = false) :
    strip blank text = text := by
  have kept (part : Text) (inner : ∀ c ∈ part, blank c = false) : part.dropWhile blank = part := by
    cases part with
    | nil => rfl
    | cons c rest => rw [List.dropWhile_cons_of_neg (by rw [inner c List.mem_cons_self]; exact Bool.false_ne_true)]
  rw [strip, kept text inked, kept text.reverse fun c mem => inked c (List.mem_reverse.mp mem), List.reverse_reverse]

theorem hexValue_digitChar : ∀ digit < 16, hexValue (Nat.digitChar digit) = some digit := by decide

def digitsFold (value : Nat) (text : Text) : Nat :=
  text.foldl (fun value c => 16 * value + (hexValue c).getD 0) value

theorem readDigits_eq {text : Text} (digits : ∀ c ∈ text, c ∈ alphabet) (value : Nat) :
    readDigits value text = some (digitsFold value text) := by
  have known : ∀ c ∈ alphabet, c ≠ '_' ∧ hexValue c = some ((hexValue c).getD 0) := forall_alphabet (by decide)
  induction text generalizing value with
  | nil => rfl
  | cons c rest ih =>
      obtain ⟨plain, valued⟩ := known c (digits c List.mem_cons_self)
      have split : readDigits value (c :: rest) = (hexValue c).bind fun digit => readDigits (16 * value + digit) rest := by
        apply readDigits.eq_3
        intro other more same
        exact absurd same plain
      rw [split, valued, Option.bind_some, ih fun d mem => digits d (List.mem_cons_of_mem c mem)]
      rfl

theorem digitsFold_hexText (width n value : Nat) :
    digitsFold value (hexText width n) = 16 ^ width * value + n % 16 ^ width := by
  induction width generalizing n with
  | zero => simp [hexText, digitsFold, Nat.mod_one]
  | succ width ih =>
      have last := hexValue_digitChar (n % 16) (Nat.mod_lt n (by omega))
      have front := ih (n / 16)
      rw [digitsFold] at front ⊢
      rw [hexText, List.foldl_append, front, List.foldl_cons, List.foldl_nil, last, Option.getD_some, pow_succ',
        Nat.mod_mul]
      ring

theorem unsigned_eq {text : Text} (plain : '+' ∉ text) : unsigned text = text := by
  unfold unsigned
  split
  · exact absurd List.mem_cons_self plain
  · rfl

theorem unprefixed_eq {text : Text} (plain : 'x' ∉ text ∧ 'X' ∉ text) : unprefixed text = text := by
  obtain ⟨small, capital⟩ := plain
  unfold unprefixed
  split
  · exact absurd (List.mem_cons_of_mem _ List.mem_cons_self) small
  · exact absurd (List.mem_cons_of_mem _ List.mem_cons_self) capital
  · exact absurd (List.mem_cons_of_mem _ List.mem_cons_self) small
  · exact absurd (List.mem_cons_of_mem _ List.mem_cons_self) capital
  · rfl

theorem readHex_eq {text : Text} (digits : ∀ c ∈ text, c ∈ alphabet) (present : text ≠ []) :
    readHex text = some (digitsFold 0 text) := by
  have known : ∀ c ∈ alphabet, plainDigit c = c ∧ blank c = false ∧ hexValue c = some ((hexValue c).getD 0) :=
    forall_alphabet (by decide)
  have absent (c : Char) (foreign : c ∉ alphabet) : c ∉ text := fun mem => foreign (digits c mem)
  have plain : text.map plainDigit = text := by
    calc text.map plainDigit
      _ = text.map id := List.map_congr_left fun c mem => (known c (digits c mem)).1
      _ = text := List.map_id text
  unfold readHex
  rw [plain, strip_eq fun c mem => (known c (digits c mem)).2.1, unsigned_eq (absent '+' (by decide)),
    unprefixed_eq ⟨absent 'x' (by decide), absent 'X' (by decide)⟩]
  cases text with
  | nil => exact absurd rfl present
  | cons first rest =>
      have valued := (known first (digits first List.mem_cons_self)).2.2
      simp only
      rw [valued, Option.bind_some, readDigits_eq fun c mem => digits c (List.mem_cons_of_mem first mem)]
      rw [digitsFold, digitsFold, List.foldl_cons, Nat.mul_zero, Nat.zero_add]

theorem readHex_hexText {width n : Nat} (wide : 0 < width) : readHex (hexText width n) = some (n % 16 ^ width) := by
  have present : hexText width n ≠ [] := List.ne_nil_of_length_pos (by rw [length_hexText]; exact wide)
  rw [readHex_eq (fun c mem => mem_hexText mem) present, digitsFold_hexText, Nat.mul_zero, Nat.zero_add]

/-! ## Pairs of digits -/

/-- Every two characters are set apart by a separator. -/
def pairsJoined (separator : Char) : Text → Text
  | first :: second :: third :: rest => first :: second :: separator :: pairsJoined separator (third :: rest)
  | last => last

theorem lower_pairsJoined {separator : Char} (fixed : separator.toLower = separator) (text : Text) :
    lower (pairsJoined separator text) = pairsJoined separator (lower text) := by
  fun_induction pairsJoined separator text with
  | case1 first second third rest ih =>
      rw [lower, List.map_cons, List.map_cons, List.map_cons, fixed]
      change _ :: _ :: separator :: lower (pairsJoined separator (third :: rest)) = _
      rw [ih]
      rfl
  | case2 last short =>
      match last with
      | [] => rfl
      | [_] => rfl
      | [_, _] => rfl
      | first :: second :: third :: rest => exact absurd rfl (short first second third rest)

theorem filter_pairsJoined (separator : Char) (text : Text) :
    (pairsJoined separator text).filter (· ≠ separator) = text.filter (· ≠ separator) := by
  fun_induction pairsJoined separator text with
  | case1 first second third rest ih =>
      have gone : [separator].filter (· ≠ separator) = [] :=
        List.filter_cons_of_neg (by rw [decide_eq_true_eq]; exact not_not_intro rfl)
      calc (first :: second :: separator :: pairsJoined separator (third :: rest)).filter (· ≠ separator)
        _ = [first, second].filter (· ≠ separator) ++ ([separator].filter (· ≠ separator) ++
              (pairsJoined separator (third :: rest)).filter (· ≠ separator)) := by
            rw [← List.filter_append, ← List.filter_append]
            rfl
        _ = [first, second].filter (· ≠ separator) ++ (third :: rest).filter (· ≠ separator) := by
            rw [gone, ih, List.nil_append]
        _ = (first :: second :: third :: rest).filter (· ≠ separator) := by
            rw [← List.filter_append]
            rfl
  | case2 last _ => rfl

end HexText
