import Mathlib.Algebra.Order.BigOperators.Group.List
import Mathlib.Data.List.Basic
import Xczu47dr.Signed.Rounding
import Xczu47dr.Tdc.RegisterBank

/-! # The table of a measured histogram

`validate_table` and `calibration_from_histogram`: the phases of the bins of a
histogram, each at the middle of its bin, as a table in units of 10 ps.
-/

namespace Xczu47dr.Tdc

open Signed

def validateTable (table : List Int) : Except String (List Int) :=
  if table.length ≠ taps then .error "Calibration must contain exactly 2048 entries"
  else if table.any fun value => value < 0 ∨ 600 < value then
    .error "Calibration entries must be in 0..600 units of 10 ps"
  else if (table.zip table.tail).any fun pair => pair.2 < pair.1 then .error "Calibration must be monotonic"
  else if table.getD (taps - 1) 0 - table.getD 0 0 < 400 then
    .error "Calibration does not span the 5 ns sampling window"
  else .ok table

inductive HistogramError
  /-- A count is no 64-bit integer. -/
  | overflow
  | value (text : String)

/-- What `calibration_from_histogram` returns. -/
structure MeasuredCalibration where
  schema : Nat
  identity : Int
  units : String
  samplePeriodPs : Nat
  tapCount : Nat
  excitation : String
  samples : Int
  occupiedBins : Nat
  largestBinPs : ℚ
  table : List Int
  histogram : List Int

/-- `SAMPLE_PERIOD_PS` -/
def samplePeriodPs : Nat := 5000

def identity : Int := 0x54444301

section

variable (counts : List Int) (total : Int)

def widths : List ℚ := counts.map fun (count : Int) => (count : ℚ) * samplePeriodPs / total

/-- The counts up to the middle of each bin, in ps. -/
def centersPs : List ℚ :=
  counts.mapIdx fun i (count : Int) =>
    (((counts.take (i + 1)).sum : Int) - (count : ℚ) / 2) * samplePeriodPs / total

def roundedTable : List Int := (centersPs counts total).map fun center => roundHalfEven (center / 10)

def largest (values : List ℚ) : ℚ := values.foldr max (values.headD 0)

end

def measuredCalibration (histogram : List Int) (total : Int) (table : List Int) : MeasuredCalibration where
  schema := 1
  identity := identity
  units := "10 ps"
  samplePeriodPs := samplePeriodPs
  tapCount := taps
  excitation := "independent XXV Ethernet TX user clock; uniform phase assumed"
  samples := total
  occupiedBins := histogram.countP (· ≠ 0)
  largestBinPs := largest (widths histogram total)
  table := table
  histogram := histogram

def calibrationFromHistogram (histogram : List Int) (minimumSamples : Int) :
    Except HistogramError MeasuredCalibration :=
  -- the counts are added as 64-bit integers
  let total := histogram.sum.bmod (2 ^ 64)
  let occupied := histogram.countP (· ≠ 0)
  if histogram.length ≠ taps then .error (.value "Histogram must contain exactly 2048 bins")
  else if histogram.any fun count => count < -2 ^ 63 ∨ 2 ^ 63 ≤ count then .error .overflow
  else if histogram.any (· < 0) then .error (.value "Histogram counts cannot be negative")
  else if total < minimumSamples ∨ occupied < 64 then
    .error (.value s!"Insufficient phase coverage: samples={total}, occupied_bins={occupied}")
  else if 100 < largest (widths histogram total) then
    .error (.value "A code-density bin exceeds 100 ps; reject this calibration")
  else match validateTable (roundedTable histogram total) with
    | .error text => .error (.value text)
    | .ok table => .ok (measuredCalibration histogram total table)

/-! ## Accepted tables -/

/-- What `validate_table` asks of a table. -/
structure ValidTable (table : List Int) : Prop where
  size : table.length = taps
  range : ∀ value ∈ table, 0 ≤ value ∧ value ≤ 600
  rises : ∀ i (inside : i + 1 < table.length), table[i] ≤ table[i + 1]
  span : 400 ≤ table.getD (taps - 1) 0 - table.getD 0 0

variable {table values : List Int}

theorem rises_iff : ((table.zip table.tail).any fun pair => pair.2 < pair.1) = false ↔
    ∀ i (inside : i + 1 < table.length), table[i] ≤ table[i + 1] := by
  rw [List.any_eq_false]
  constructor
  · intro none i inside
    have short : i < (table.zip table.tail).length := by
      rw [List.length_zip, List.length_tail]
      omega
    have pair := none _ (List.getElem_mem short)
    rw [List.getElem_zip, List.getElem_tail, decide_eq_true_iff, not_lt] at pair
    exact pair
  · intro rises pair mem
    obtain ⟨i, inside, rfl⟩ := List.mem_iff_getElem.mp mem
    rw [List.length_zip, List.length_tail] at inside
    rw [List.getElem_zip, List.getElem_tail, decide_eq_true_iff, not_lt]
    exact rises i (by omega)

theorem validateTable_ok : validateTable table = .ok values ↔ values = table ∧ ValidTable table := by
  have range : (table.any fun value => value < 0 ∨ 600 < value) = false ↔
      ∀ value ∈ table, 0 ≤ value ∧ value ≤ 600 := by
    rw [List.any_eq_false]
    refine forall_congr' fun value => imp_congr_right fun _ => ?_
    rw [decide_eq_true_iff, not_or, not_lt, not_lt]
  constructor
  · intro accepted
    rw [validateTable] at accepted
    split_ifs at accepted with size outside falls narrow
    rw [Bool.not_eq_true] at outside falls
    exact ⟨(Except.ok.inj accepted).symm, not_not.mp size, range.mp outside, rises_iff.mp falls, not_lt.mp narrow⟩
  · rintro ⟨rfl, size, inside, rises, span⟩
    rw [validateTable, if_neg (not_not.mpr size), range.mpr inside, if_neg Bool.false_ne_true, rises_iff.mpr rises,
      if_neg Bool.false_ne_true, if_neg (not_lt.mpr span)]

/-! ## Positions -/

section

variable {counts : List Int} {total count : Int} {i j : Nat}

theorem take_sum_mono (nonneg : ∀ count ∈ counts, 0 ≤ count) (le : i ≤ j) :
    (counts.take i).sum ≤ (counts.take j).sum := by
  rw [← Nat.add_sub_cancel' le, List.take_add, List.sum_append]
  have more : 0 ≤ ((counts.drop i).take (j - i)).sum :=
    List.sum_nonneg fun count mem => nonneg count (List.mem_of_mem_drop (List.mem_of_mem_take mem))
  exact Int.le_add_of_nonneg_right more

theorem take_sum_le (nonneg : ∀ count ∈ counts, 0 ≤ count) (i : Nat) : (counts.take i).sum ≤ counts.sum := by
  have whole := take_sum_mono nonneg (Nat.le_max_left i counts.length)
  rwa [List.take_of_length_le (Nat.le_max_right i counts.length)] at whole

theorem take_sum_succ (there : counts[i]? = some count) :
    (counts.take (i + 1)).sum = (counts.take i).sum + count := by
  rw [List.take_add_one, there, List.sum_append]
  exact congrArg _ (List.sum_singleton)

def center (counts : List Int) (total count : Int) (i : Nat) : ℚ :=
  (((counts.take (i + 1)).sum : Int) - (count : ℚ) / 2) * samplePeriodPs / total

theorem roundedTable_get (there : counts[i]? = some count) :
    (roundedTable counts total)[i]? = some (roundHalfEven (center counts total count i / 10)) := by
  rw [roundedTable, centersPs, List.getElem?_map, List.getElem?_mapIdx, there]
  rfl

theorem roundedTable_length : (roundedTable counts total).length = counts.length := by
  rw [roundedTable, centersPs, List.length_map, List.length_mapIdx]

/-- The middle of a bin is between its ends. -/
theorem center_between (pos : 0 < total) (nonneg : ∀ count ∈ counts, 0 ≤ count) (there : counts[i]? = some count) :
    (((counts.take i).sum : Int) : ℚ) * samplePeriodPs / total ≤ center counts total count i ∧
      center counts total count i ≤ (((counts.take (i + 1)).sum : Int) : ℚ) * samplePeriodPs / total := by
  have positive : (0 : ℚ) < total := Int.cast_pos.mpr pos
  have width : (0 : ℚ) ≤ count := Int.cast_nonneg (nonneg count (List.mem_of_getElem? there))
  have period : (0 : ℚ) ≤ samplePeriodPs := Nat.cast_nonneg _
  have next : (((counts.take (i + 1)).sum : Int) : ℚ) = ((counts.take i).sum : Int) + count := by
    rw [take_sum_succ there, Int.cast_add]
  rw [center]
  constructor
  · gcongr
    linarith
  · gcongr
    linarith

theorem center_mono (pos : 0 < total) (nonneg : ∀ count ∈ counts, 0 ≤ count) {later : Int} (le : i ≤ j)
    (there : counts[i]? = some count) (there' : counts[j]? = some later) :
    center counts total count i ≤ center counts total later j := by
  have positive : (0 : ℚ) < total := Int.cast_pos.mpr pos
  rcases Nat.eq_or_lt_of_le le with rfl | before
  · rw [Option.some.inj (there.symm.trans there')]
  · have above := (center_between pos nonneg there).2
    have below := (center_between pos nonneg there').1
    have between : (((counts.take (i + 1)).sum : Int) : ℚ) * samplePeriodPs / total ≤
        (((counts.take j).sum : Int) : ℚ) * samplePeriodPs / total := by
      have sums : (((counts.take (i + 1)).sum : Int) : ℚ) ≤ ((counts.take j).sum : Int) :=
        Int.cast_le.mpr (take_sum_mono nonneg before)
      gcongr
    exact above.trans (between.trans below)

theorem center_range (pos : 0 < counts.sum) (nonneg : ∀ count ∈ counts, 0 ≤ count)
    (there : counts[i]? = some count) :
    0 ≤ center counts counts.sum count i ∧ center counts counts.sum count i ≤ samplePeriodPs := by
  obtain ⟨low, high⟩ := center_between pos nonneg there
  have positive : (0 : ℚ) < (counts.sum : Int) := Int.cast_pos.mpr pos
  have below : (0 : ℚ) ≤ ((counts.take i).sum : Int) :=
    Int.cast_nonneg (List.sum_nonneg fun count mem => nonneg count (List.mem_of_mem_take mem))
  have above : (((counts.take (i + 1)).sum : Int) : ℚ) ≤ (counts.sum : Int) :=
    Int.cast_le.mpr (take_sum_le nonneg (i + 1))
  constructor
  · refine le_trans ?_ low
    positivity
  · refine high.trans ?_
    rw [div_le_iff₀ positive, mul_comm]
    gcongr

/-- A rounded middle is near every position of its bin. -/
theorem rounded_near (pos : 0 < total) (there : counts[i]? = some count) {y : ℚ}
    (low : (((counts.take i).sum : Int) : ℚ) ≤ y) (high : y ≤ ((counts.take (i + 1)).sum : Int)) :
    |10 * (roundHalfEven (center counts total count i / 10) : ℚ) - y * samplePeriodPs / total| ≤
      (count : ℚ) * samplePeriodPs / total / 2 + 5 := by
  have positive : (0 : ℚ) < total := Int.cast_pos.mpr pos
  obtain ⟨down, up⟩ := roundHalfEven_near (center counts total count i / 10)
  have next : (((counts.take (i + 1)).sum : Int) : ℚ) = ((counts.take i).sum : Int) + count := by
    rw [take_sum_succ there, Int.cast_add]
  have apart : |center counts total count i - y * samplePeriodPs / total| ≤
      (count : ℚ) * samplePeriodPs / total / 2 := by
    have factored : center counts total count i - y * samplePeriodPs / total =
        (((counts.take (i + 1)).sum : Int) - (count : ℚ) / 2 - y) * (samplePeriodPs / total) := by
      rw [center]
      ring
    have scale : (0 : ℚ) ≤ samplePeriodPs / total := by positivity
    have half : |(((counts.take (i + 1)).sum : Int) : ℚ) - (count : ℚ) / 2 - y| ≤ (count : ℚ) / 2 := by
      rw [abs_le]
      constructor <;> linarith
    rw [factored, abs_mul, abs_of_nonneg scale]
    calc |(((counts.take (i + 1)).sum : Int) : ℚ) - (count : ℚ) / 2 - y| * (samplePeriodPs / total)
        ≤ (count : ℚ) / 2 * (samplePeriodPs / total) := mul_le_mul_of_nonneg_right half scale
      _ = (count : ℚ) * samplePeriodPs / total / 2 := by ring
  rw [abs_le] at apart ⊢
  constructor <;> linarith

end

/-! ## Accepted histograms -/

/-- The checks before the table is made. -/
structure Sampled (histogram : List Int) (minimumSamples total : Int) : Prop where
  size : histogram.length = taps
  fits : ∀ count ∈ histogram, count < 2 ^ 63
  nonneg : ∀ count ∈ histogram, 0 ≤ count
  samples : minimumSamples ≤ total
  occupied : 64 ≤ histogram.countP (· ≠ 0)
  narrow : largest (widths histogram total) ≤ 100

variable {histogram : List Int} {minimumSamples total : Int} {result : MeasuredCalibration}

theorem calibration_ok : calibrationFromHistogram histogram minimumSamples = .ok result ↔
    Sampled histogram minimumSamples (histogram.sum.bmod (2 ^ 64)) ∧
      ValidTable (roundedTable histogram (histogram.sum.bmod (2 ^ 64))) ∧
        result = measuredCalibration histogram (histogram.sum.bmod (2 ^ 64))
          (roundedTable histogram (histogram.sum.bmod (2 ^ 64))) := by
  generalize totals : histogram.sum.bmod (2 ^ 64) = total
  have signs : histogram.any (· < 0) = false ↔ ∀ count ∈ histogram, 0 ≤ count := by
    rw [List.any_eq_false]
    refine forall_congr' fun count => imp_congr_right fun _ => ?_
    rw [decide_eq_true_iff, not_lt]
  have words : (histogram.any fun count => count < -2 ^ 63 ∨ 2 ^ 63 ≤ count) = false ↔
      ∀ count ∈ histogram, -2 ^ 63 ≤ count ∧ count < 2 ^ 63 := by
    rw [List.any_eq_false]
    refine forall_congr' fun count => imp_congr_right fun _ => ?_
    rw [decide_eq_true_iff, not_or, not_lt, not_le]
  rw [calibrationFromHistogram, totals]
  constructor
  · intro accepted
    split_ifs at accepted with size wide negative poor broad
    rw [Bool.not_eq_true] at wide negative
    rw [not_or, not_lt, not_lt] at poor
    cases validated : validateTable (roundedTable histogram total) with
    | error text =>
      rw [validated] at accepted
      cases accepted
    | ok table =>
      rw [validated] at accepted
      obtain ⟨rfl, valid⟩ := validateTable_ok.mp validated
      exact ⟨⟨not_not.mp size, fun count mem => (words.mp wide count mem).2, signs.mp negative, poor.1, poor.2,
        not_lt.mp broad⟩, valid, (Except.ok.inj accepted).symm⟩
  · rintro ⟨⟨size, fits, nonneg, samples, occupied, narrow⟩, valid, rfl⟩
    have inWords := words.mpr fun count mem =>
      ⟨le_trans (by norm_num) (nonneg count mem), fits count mem⟩
    rw [if_neg (not_not.mpr size), inWords, if_neg Bool.false_ne_true, signs.mpr nonneg, if_neg Bool.false_ne_true,
      if_neg (by rw [not_or, not_lt, not_lt]; exact ⟨samples, occupied⟩), if_neg (not_lt.mpr narrow),
      validateTable_ok.mpr ⟨rfl, valid⟩]

theorem le_largest {values : List ℚ} {value : ℚ} (mem : value ∈ values) : value ≤ largest values := by
  have folded (start : ℚ) : value ≤ values.foldr max start := by
    induction values with
    | nil => cases mem
    | cons first values ih =>
      rcases List.mem_cons.mp mem with rfl | later
      · exact le_max_left _ _
      · exact (ih later).trans (le_max_right _ _)
  exact folded _

/-- No bin holds more than a fiftieth of the samples. -/
theorem Sampled.bin (sampled : Sampled histogram minimumSamples total) (pos : 0 < total) {count : Int}
    (mem : count ∈ histogram) : 50 * count ≤ total := by
  have positive : (0 : ℚ) < total := Int.cast_pos.mpr pos
  have width := (le_largest (List.mem_map_of_mem (f := fun (count : Int) => (count : ℚ) * samplePeriodPs / total)
    mem)).trans sampled.narrow
  rw [div_le_iff₀ positive, samplePeriodPs] at width
  have scaled : (50 : ℚ) * count ≤ total := by
    push_cast at width
    linarith
  exact_mod_cast scaled

theorem Sampled.get (sampled : Sampled histogram minimumSamples total) {i : Nat} (inside : i < taps) :
    ∃ count ∈ histogram, histogram[i]? = some count ∧
      (roundedTable histogram total).getD i 0 = roundHalfEven (center histogram total count i / 10) := by
  rw [← sampled.size] at inside
  have there := List.getElem?_eq_getElem inside
  refine ⟨histogram[i], List.getElem_mem inside, there, ?_⟩
  rw [List.getD_eq_getElem?_getD, roundedTable_get there]
  rfl

/-- The sum of the counts that are accepted has not wrapped around. -/
theorem sum_unwrapped (sampled : Sampled histogram minimumSamples (histogram.sum.bmod (2 ^ 64)))
    (valid : ValidTable (roundedTable histogram (histogram.sum.bmod (2 ^ 64)))) :
    histogram.sum.bmod (2 ^ 64) = histogram.sum ∧ 0 < histogram.sum := by
  have wraps := Int.bmod_emod (x := histogram.sum) (m := 2 ^ 64)
  have bounds : histogram.sum.bmod (2 ^ 64) < 2 ^ 63 := Int.bmod_lt (by norm_num)
  generalize histogram.sum.bmod (2 ^ 64) = total at *
  have nonneg : 0 ≤ histogram.sum := List.sum_nonneg sampled.nonneg
  obtain ⟨count, mem, there, entry⟩ := sampled.get (i := taps - 1) (by decide)
  have whole : (histogram.take (taps - 1 + 1)).sum = histogram.sum := by
    rw [List.take_of_length_le]
    exact sampled.size.le
  have low := sampled.nonneg count mem
  have least := take_sum_succ there
  rw [whole] at least
  have before : 0 ≤ (histogram.take (taps - 1)).sum :=
    List.sum_nonneg fun count mem => sampled.nonneg count (List.mem_of_mem_take mem)
  have least' : (count : ℚ) ≤ histogram.sum := by exact_mod_cast (by omega : count ≤ histogram.sum)
  have low' : (0 : ℚ) ≤ count := by exact_mod_cast low
  -- the last entry is at most 600 and, the first not being negative, at least 400
  have inTable : ∀ i < taps, 0 ≤ (roundedTable histogram total).getD i 0 ∧
      (roundedTable histogram total).getD i 0 ≤ 600 := by
    intro i inside
    rw [← valid.size] at inside
    rw [List.getD_eq_getElem?_getD, List.getElem?_eq_getElem inside]
    exact valid.range _ (List.getElem_mem inside)
  have high := (inTable (taps - 1) (by decide)).2
  have span := valid.span
  have first := (inTable 0 (by decide)).1
  rw [entry] at high span
  obtain ⟨down, up⟩ := roundHalfEven_near (center histogram total count (taps - 1) / 10)
  have large : (400 : ℚ) ≤ roundHalfEven (center histogram total count (taps - 1) / 10) := by
    exact_mod_cast (by omega : (400 : Int) ≤ _)
  have small : (roundHalfEven (center histogram total count (taps - 1) / 10) : ℚ) ≤ 600 := by exact_mod_cast high
  have middle : (0 : ℚ) ≤ (histogram.sum : Int) - (count : ℚ) / 2 := by linarith
  have pos : 0 < total := by
    by_contra none
    have negative : (total : ℚ) ≤ 0 := by exact_mod_cast not_lt.mp none
    have under : center histogram total count (taps - 1) ≤ 0 := by
      rw [center, whole]
      exact div_nonpos_of_nonneg_of_nonpos (mul_nonneg middle (Nat.cast_nonneg _)) negative
    linarith
  have positive : (0 : ℚ) < total := Int.cast_pos.mpr pos
  have bin : (50 : ℚ) * count ≤ total := by exact_mod_cast sampled.bin pos mem
  have reached : center histogram total count (taps - 1) ≤ 6005 := by linarith
  rw [center, whole, samplePeriodPs, div_le_iff₀ positive] at reached
  have near : ((histogram.sum : Int) : ℚ) < 2 * total := by
    rw [Nat.cast_ofNat] at reached
    linarith
  have near' : histogram.sum < 2 * total := by exact_mod_cast near
  -- else it would have lost at least 2 ^ 64
  push_cast at wraps
  omega

/-- The table is valid, never falls within its 5 ns, and each entry is near all positions of its bin. -/
structure MeasuredExactly (histogram : List Int) (result : MeasuredCalibration) : Prop where
  accepted : validateTable result.table = .ok result.table
  samples : result.samples = histogram.sum
  rises : ∀ (i j : Nat) (entry later : Int), i ≤ j → result.table[i]? = some entry →
    result.table[j]? = some later → entry ≤ later
  range : ∀ entry ∈ result.table, 0 ≤ entry ∧ entry ≤ 500
  near : ∀ (i : Nat) (count entry : Int), histogram[i]? = some count → result.table[i]? = some entry → ∀ y : ℚ,
    (histogram.take i).sum ≤ y → y ≤ (histogram.take (i + 1)).sum →
      |10 * (entry : ℚ) - y * samplePeriodPs / histogram.sum| ≤
        (count : ℚ) * samplePeriodPs / histogram.sum / 2 + 5

theorem roundedTable_entry {counts : List Int} {i : Nat} {entry : Int}
    (there : (roundedTable counts total)[i]? = some entry) :
    ∃ count, counts[i]? = some count ∧ entry = roundHalfEven (center counts total count i / 10) := by
  obtain ⟨inside, -⟩ := List.getElem?_eq_some_iff.mp there
  rw [roundedTable_length] at inside
  have bin := List.getElem?_eq_getElem inside
  exact ⟨_, bin, Option.some.inj (there.symm.trans (roundedTable_get bin))⟩

theorem roundedTable_rises {counts : List Int} (pos : 0 < total) (nonneg : ∀ count ∈ counts, 0 ≤ count)
    {i j : Nat} {entry later : Int} (le : i ≤ j) (there : (roundedTable counts total)[i]? = some entry)
    (there' : (roundedTable counts total)[j]? = some later) : entry ≤ later := by
  obtain ⟨count, bin, rfl⟩ := roundedTable_entry there
  obtain ⟨count', bin', rfl⟩ := roundedTable_entry there'
  apply roundHalfEven_mono
  have middles := center_mono pos nonneg le bin bin'
  linarith

theorem roundedTable_range {counts : List Int} (pos : 0 < counts.sum) (nonneg : ∀ count ∈ counts, 0 ≤ count)
    {entry : Int} (mem : entry ∈ roundedTable counts counts.sum) : 0 ≤ entry ∧ entry ≤ 500 := by
  obtain ⟨i, there⟩ := List.mem_iff_getElem?.mp mem
  obtain ⟨count, bin, rfl⟩ := roundedTable_entry there
  obtain ⟨low, high⟩ := center_range pos nonneg bin
  rw [samplePeriodPs, Nat.cast_ofNat] at high
  constructor
  · rw [← roundHalfEven_intCast 0, Int.cast_zero]
    apply roundHalfEven_mono
    linarith
  · rw [← roundHalfEven_intCast 500, Int.cast_ofNat]
    apply roundHalfEven_mono
    linarith

theorem measured_exactly (accepted : calibrationFromHistogram histogram minimumSamples = .ok result) :
    MeasuredExactly histogram result := by
  obtain ⟨sampled, valid, rfl⟩ := calibration_ok.mp accepted
  obtain ⟨same, pos⟩ := sum_unwrapped sampled valid
  rw [same] at valid ⊢
  exact {
    accepted := validateTable_ok.mpr ⟨rfl, valid⟩
    samples := rfl
    rises := fun i j entry later le there there' => roundedTable_rises pos sampled.nonneg le there there'
    range := fun entry mem => roundedTable_range pos sampled.nonneg mem
    near := by
      intro i count entry bin there y low high
      obtain ⟨count', bin', rfl⟩ := roundedTable_entry there
      obtain rfl := Option.some.inj (bin.symm.trans bin')
      exact rounded_near pos bin low high }

/-- A histogram that passes the checks before, its samples being few enough to be counted, is
accepted: the table made of it is valid. -/
theorem measured_accepted (sampled : Sampled histogram minimumSamples histogram.sum)
    (counted : histogram.sum < 2 ^ 63) :
    ∃ result, calibrationFromHistogram histogram minimumSamples = .ok result := by
  have nonneg : 0 ≤ histogram.sum := List.sum_nonneg sampled.nonneg
  have same : histogram.sum.bmod (2 ^ 64) = histogram.sum := Int.bmod_eq_of_le (by omega) (by omega)
  have pos : 0 < histogram.sum := by
    have some : 0 < histogram.countP (· ≠ 0) := lt_of_lt_of_le (by norm_num) sampled.occupied
    obtain ⟨count, mem, nonzero⟩ := List.countP_pos_iff.mp some
    have one : 0 < count := lt_of_le_of_ne (sampled.nonneg count mem) (Ne.symm (of_decide_eq_true nonzero))
    exact one.trans_le (List.single_le_sum sampled.nonneg count mem)
  have positive : (0 : ℚ) < (histogram.sum : Int) := Int.cast_pos.mpr pos
  refine ⟨_, calibration_ok.mpr ⟨by rwa [same], ?_, rfl⟩⟩
  rw [same]
  obtain ⟨first, firstMem, firstBin, firstEntry⟩ := sampled.get (i := 0) (by decide)
  obtain ⟨last, lastMem, lastBin, lastEntry⟩ := sampled.get (i := taps - 1) (by decide)
  have firstWidth : (50 : ℚ) * first ≤ (histogram.sum : Int) := by exact_mod_cast sampled.bin pos firstMem
  have lastWidth : (50 : ℚ) * last ≤ (histogram.sum : Int) := by exact_mod_cast sampled.bin pos lastMem
  have whole : (histogram.take (taps - 1 + 1)).sum = histogram.sum := by
    rw [List.take_of_length_le]
    exact sampled.size.le
  have low : center histogram histogram.sum first 0 ≤ 50 := by
    have one := take_sum_succ firstBin
    rw [List.take_zero, List.sum_nil, Int.zero_add] at one
    rw [center, one, samplePeriodPs, div_le_iff₀ positive, Nat.cast_ofNat]
    linarith
  have high : 4950 ≤ center histogram histogram.sum last (taps - 1) := by
    rw [center, whole, samplePeriodPs, le_div_iff₀ positive, Nat.cast_ofNat]
    linarith
  have least : roundHalfEven (center histogram histogram.sum first 0 / 10) ≤ 5 := by
    rw [← roundHalfEven_intCast 5, Int.cast_ofNat]
    apply roundHalfEven_mono
    linarith
  have most : 495 ≤ roundHalfEven (center histogram histogram.sum last (taps - 1) / 10) := by
    rw [← roundHalfEven_intCast 495, Int.cast_ofNat]
    apply roundHalfEven_mono
    linarith
  refine ⟨roundedTable_length.trans sampled.size, fun entry mem => ?_, fun i inside => ?_, ?_⟩
  · obtain ⟨above, below⟩ := roundedTable_range pos sampled.nonneg mem
    exact ⟨above, by omega⟩
  · exact roundedTable_rises pos sampled.nonneg (Nat.le_succ i)
      (List.getElem?_eq_getElem (Nat.lt_of_succ_lt inside)) (List.getElem?_eq_getElem inside)
  · rw [firstEntry, lastEntry]
    omega

end Xczu47dr.Tdc
