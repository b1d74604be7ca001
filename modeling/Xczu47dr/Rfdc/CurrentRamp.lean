import Xczu47dr.Rfdc.ApplyProgress

/-! # The ramp of an output current

The currents a ramp goes through, from the one that is read back to the selected one,
and the VOP codes it writes for them.
-/

namespace Xczu47dr.Rfdc

open Clocked

/-- A step of a ramp to `target`: nearer to it, not past it, and at most a tenth. -/
structure Toward (target current next : Nat) : Prop where
  directed : current < next ∧ next ≤ target ∨ target ≤ next ∧ next < current
  tenth : (next - current) + (current - next) ≤ current / 10

def codeOf (current : Nat) : Nat := (current - 1400) * 4 / 175

theorem codeOf_lt {current : Nat} (high : current ≤ 46156) : codeOf current < 1024 := by
  rw [codeOf]
  omega

namespace RuntimeConfig

variable {p : RuntimeParams} {s t : RuntimeConfig} {i : RuntimeIn}

/-! ## The steps of the ramp -/

theorem toward_of_rampNext (selected : 2250 ≤ s.selected.currentUa ∧ s.selected.currentUa ≤ 40500)
    (ramping : 1400 ≤ s.rampCurrentUa ∧ s.rampCurrentUa ≤ 46156) (heading : Heading s)
    (tenth : s.divider.quotient = s.rampCurrentUa / 10) :
    Toward s.selected.currentUa s.rampCurrentUa s.rampNext := by
  obtain ⟨apart, up⟩ := heading
  have small : s.rampCurrentUa / 10 % 2 ^ 16 = s.rampCurrentUa / 10 := Nat.mod_eq_of_lt (by omega)
  by_cases below : s.rampCurrentUa < s.selected.currentUa
  · rw [decide_eq_true below] at up
    have sum : (s.rampCurrentUa + s.rampCurrentUa / 10) % 2 ^ 32 = s.rampCurrentUa + s.rampCurrentUa / 10 :=
      Nat.mod_eq_of_lt (by omega)
    simp only [rampNext, up, if_true, tenth, small, sum]
    split_ifs
    · exact ⟨.inl ⟨below, Nat.le_refl _⟩, by omega⟩
    · exact ⟨.inl ⟨by omega, by omega⟩, by omega⟩
  · rw [decide_eq_false below] at up
    have difference : (s.rampCurrentUa + (2 ^ 32 - s.rampCurrentUa / 10)) % 2 ^ 32 =
        s.rampCurrentUa - s.rampCurrentUa / 10 := by omega
    simp only [rampNext, up, Bool.false_eq_true, if_false, tenth, small, difference]
    split_ifs
    · exact ⟨.inr ⟨Nat.le_refl _, by omega⟩, by omega⟩
    · exact ⟨.inr ⟨by omega, by omega⟩, by omega⟩

/-- The next current of the ramp is a step of it. -/
def Stepping (s : RuntimeConfig) : Prop :=
  (s.state.part = 1 → s.vopReadbackOnly = false) ∧
    (s.state.part = 1 ∨ s.state.part = 2 ∧ s.vopReadbackOnly = false →
      Toward s.selected.currentUa s.rampCurrentUa s.rampNextUa)

theorem stepping_of_part (elsewhere : t.state.part ≠ 1 ∧ t.state.part ≠ 2) : Stepping t :=
  ⟨fun there => absurd there elsewhere.1, fun there => absurd there (by omega)⟩

/-- Nothing but the state changes, and it stays in its part. -/
theorem Stepping.kept (held : Stepping s) (part : t.state.part = 0 ∨ t.state.part = s.state.part)
    (kept : t.course = s.course) : Stepping t := by
  have selected : t.selected.currentUa = s.selected.currentUa := congrArg Course.selectedUa kept
  have ramp : t.rampCurrentUa = s.rampCurrentUa := congrArg Course.rampCurrentUa kept
  have next : t.rampNextUa = s.rampNextUa := congrArg Course.rampNextUa kept
  have readback : t.vopReadbackOnly = s.vopReadbackOnly := congrArg Course.vopReadbackOnly kept
  obtain none | same := part
  · exact stepping_of_part (by omega)
  · rw [Stepping, same, selected, ramp, next, readback]
    exact held

theorem stepping_step (sound : Sound s) (held : Stepping s) (moves : Moves p s i t) : Stepping t := by
  cases moves with
  | outside _ outside =>
    have none := part_of_not_serves outside
    exact stepping_of_part (by omega)
  | follows after course => exact held.kept after.part course
  | counts _ same course _ | waits _ same course => exact held.kept (.inr (by rw [same])) course
  | arrived _ later course =>
    have readback : t.vopReadbackOnly = true := congrArg Course.vopReadbackOnly course
    refine ⟨fun there => ?_, fun there => ?_⟩
    · rw [later] at there
      contradiction
    · rw [later, readback] at there
      exact absurd there (by decide)
  | chooses now later course =>
    have channel := sound.channel now rfl (by decide)
    have ramp : t.rampCurrentUa = s.rampCurrentUa := congrArg Course.rampCurrentUa course
    have next : t.rampNextUa = s.rampNext := congrArg Course.rampNextUa course
    have selected : t.selected.currentUa = s.selected.currentUa := congrArg Course.selectedUa course
    have ramping := sound.ramping (by rw [now]; decide) (by rw [now]; decide)
    obtain ⟨heading, tenth⟩ := sound.divided now
    refine ⟨fun there => ?_, fun _ => ?_⟩
    · rw [later] at there
      contradiction
    · rw [next, selected, ramp]
      exact toward_of_rampNext ⟨channel.low, channel.high⟩ ramping heading tenth
  | writes now _ writes course =>
    have ramp : t.rampCurrentUa = s.rampCurrentUa := congrArg Course.rampCurrentUa course
    have next : t.rampNextUa = s.rampNextUa := congrArg Course.rampNextUa course
    have selected : t.selected.currentUa = s.selected.currentUa := congrArg Course.selectedUa course
    have readback : t.vopReadbackOnly = s.vopReadbackOnly := congrArg Course.vopReadbackOnly course
    refine ⟨fun _ => readback.trans writes, fun _ => ?_⟩
    rw [next, selected, ramp]
    exact held.2 (.inr ⟨by rw [now]; rfl, writes⟩)
  | taken _ later | opened _ later | skips _ later | chosen _ later | begins _ _ later | divides _ later
    | ramps _ later => exact stepping_of_part (by rw [later]; decide)
  | divided _ _ _ goesOn =>
    obtain ⟨-, later⟩ | ⟨-, later⟩ := goesOn <;> exact stepping_of_part (by rw [later]; decide)

/-! ## The codes -/

/-- The current whose code is computed or written. -/
def quantUa (s : RuntimeConfig) : Nat := if s.vopReadbackOnly then s.selected.currentUa else s.rampNextUa

/-- The registers of the codes. -/
structure Codes where
  course : Course
  vopCode : BitVec 16
  vopOptIndex : Nat
  expectedCfg2 : BitVec 16
  expectedCfg3 : BitVec 16

def codes (s : RuntimeConfig) : Codes where
  course := s.course
  vopCode := s.vopCode
  vopOptIndex := s.vopOptIndex
  expectedCfg2 := s.expectedCfg2
  expectedCfg3 := s.expectedCfg3

/-- The word that `S_VOP_CFG2_READ_WAIT` makes of what it reads. -/
def cfg2Word (s : RuntimeConfig) : BitVec 16 :=
  s.readHalf &&& ~~~cfg2VopMask |||
    (if dcCoupled s.channelIndex then bldrDc s.vopOptIndex else bldrAc s.vopOptIndex) |||
      (s.vopCode &&& 0x000F) <<< 6

/-- The word that `S_VOP_CFG3_READ_WAIT` makes of what it reads. -/
def cfg3Word (s : RuntimeConfig) : BitVec 16 :=
  s.readHalf &&& ~~~cfg3VopMask ||| s.vopCode <<< 6 |||
    (if dcCoupled s.channelIndex then cscBiasDc s.vopOptIndex else cscBiasAc s.vopOptIndex).zeroExtend 16

/-- The states from the first write of a code to the end of the channel. -/
def coded (state : RuntimeState) : Bool := decide (12 ≤ state.rank) && decide (state.rank < 38)

/-- What one clock edge does to the codes. -/
inductive Quantizes (s t : RuntimeConfig) : Prop
  | outside : t.state ≠ .calcStep .vopQuant → t.state ≠ .calcDone .vopQuant → coded t.state = false → Quantizes s t
  | setsUp : s.state = .vopQuantInit → t.state = .calcStep .vopQuant → t.course = s.course →
      t.divider = ⟨(s.quantUa % 2 ^ 16 + (2 ^ 16 - 1400)) % 2 ^ 16 * 2 ^ 50, 0, 0, 175⟩ → t.calcIteration = 17 →
      Quantizes s t
  | divides : s.state = .calcStep .vopQuant →
      (s.calcIteration = 0 ∧ t.state = .calcDone .vopQuant ∨
        s.calcIteration = t.calcIteration + 1 ∧ t.state = .calcStep .vopQuant) →
      t.course = s.course → t.divider = s.divider.step 66 19 → Quantizes s t
  | found : s.state = .calcDone .vopQuant →
      t.state = (if s.vopReadbackOnly then .launch .rbCfg0 else .launch .vopCfg0Read) →
      t.codes = { s.codes with
        vopCode := BitVec.ofNat 16 s.divider.quotient
        vopOptIndex := s.divider.quotient / 2 ^ 4 % 2 ^ 6 } → Quantizes s t
  | nibble : s.state = .await .vopCfg2Read → t.state = .launch .vopCfg2Write →
      t.codes = { s.codes with expectedCfg2 := s.cfg2Word } → Quantizes s t
  | field : s.state = .await .vopCfg3Read → t.state = .launch .vopCfg3Write →
      t.codes = { s.codes with expectedCfg3 := s.cfg3Word } → Quantizes s t
  | keeps : coded s.state = true → coded t.state = true → t.state.part = s.state.part →
      (t.state.rank < 32 → s.state.rank < 32) → (t.state.rank < 28 → s.state.rank < 28) → t.codes = s.codes →
      Quantizes s t

theorem quantizes_finishAccess {a : Access} (now : s.state = .await a)
    (same : t.codes = (s.finishAccess p s.clearPulses a).codes)
    (later : t.state = (s.finishAccess p s.clearPulses a).state) : Quantizes s t := by
  have leaves {state : RuntimeState} (there : t.state = state) (step : state ≠ .calcStep .vopQuant)
      (done : state ≠ .calcDone .vopQuant) (elsewhere : coded state = false) : Quantizes s t := by
    subst there
    exact .outside step done elsewhere
  have passes (within : coded (.await a) = true) (cfg2 : a ≠ .vopCfg2Read) (cfg3 : a ≠ .vopCfg3Read)
      (there : t.state = a.next) (kept : t.codes = s.codes) : Quantizes s t := by
    have next : coded a.next = true ∧ a.next.part = (RuntimeState.await a).part ∧
        (a.next.rank < 32 → (RuntimeState.await a).rank < 32) ∧
          (a.next.rank < 28 → (RuntimeState.await a).rank < 28) := by
      revert within cfg2 cfg3
      cases a <;> decide
    rw [← there, ← now] at next
    exact .keeps (now ▸ within) next.1 next.2.1 next.2.2.1 next.2.2.2 kept
  unfold finishAccess at same later
  split_ifs at same later
  · exact leaves later (by rintro ⟨⟩) (by rintro ⟨⟩) rfl
  · cases a
    case readyProbe =>
      dsimp only [accessed, probed] at later
      split_ifs at later <;> exact leaves later (by rintro ⟨⟩) (by rintro ⟨⟩) rfl
    case tile =>
      dsimp only [accessed, tileRead] at later
      split_ifs at later <;> exact leaves later (by rintro ⟨⟩) (by rintro ⟨⟩) rfl
    case nyqRead | nyqWrite | vopCtrlRead | vopCtrlWrite | vopInit => exact leaves later (by rintro ⟨⟩) (by rintro ⟨⟩) rfl
    case vopCfg2Read => exact .nibble now later same
    case vopCfg3Read => exact .field now later same
    case rbCfg3 =>
      dsimp only [accessed] at same later
      split_ifs at same later
      · exact leaves later (by rintro ⟨⟩) (by rintro ⟨⟩) rfl
      · exact passes rfl (by rintro ⟨⟩) (by rintro ⟨⟩) later same
    all_goals exact passes rfl (by rintro ⟨⟩) (by rintro ⟨⟩) later same

theorem quantizes_step : Quantizes s (s.step p i) := by
  have later : (s.step p i).state = (s.act p i).state := rfl
  have same : (s.step p i).codes = (s.act p i).codes := rfl
  have division : ((s.step p i).divider, (s.step p i).calcIteration) =
      ((s.act p i).divider, (s.act p i).calcIteration) := rfl
  have leaves {state : RuntimeState} (there : (s.step p i).state = state) (step : state ≠ .calcStep .vopQuant)
      (done : state ≠ .calcDone .vopQuant) (elsewhere : coded state = false) : Quantizes s (s.step p i) := by
    subst there
    exact .outside step done elsewhere
  cases now : s.state <;> simp only [act, now] at later same division
  case idle =>
    dsimp only [idle, accept, answerAtOnce] at later
    split_ifs at later
    · exact leaves (later.trans now) (by rintro ⟨⟩) (by rintro ⟨⟩) rfl
    · exact leaves (later.trans now) (by rintro ⟨⟩) (by rintro ⟨⟩) rfl
    · exact leaves (later.trans now) (by rintro ⟨⟩) (by rintro ⟨⟩) rfl
    · exact leaves later (by rintro ⟨⟩) (by rintro ⟨⟩) rfl
    · exact leaves later (by rintro ⟨⟩) (by rintro ⟨⟩) rfl
    · exact leaves (later.trans now) (by rintro ⟨⟩) (by rintro ⟨⟩) rfl
  case validate =>
    unfold validate at later
    split_ifs at later <;> exact leaves later (by rintro ⟨⟩) (by rintro ⟨⟩) rfl
  case select =>
    dsimp only [select] at later
    split_ifs at later
    · exact leaves later (by rintro ⟨⟩) (by rintro ⟨⟩) rfl
    · exact leaves (later.trans now) (by rintro ⟨⟩) (by rintro ⟨⟩) rfl
    · exact leaves later (by rintro ⟨⟩) (by rintro ⟨⟩) rfl
  case vopPrep =>
    dsimp only [vopPrep] at later
    split_ifs at later <;> exact leaves later (by rintro ⟨⟩) (by rintro ⟨⟩) rfl
  case vopQuantInit =>
    exact .setsUp now later (congrArg Codes.course same) (congrArg Prod.fst division) (congrArg Prod.snd division)
  case calcStep d =>
    have divider : (s.step p i).divider = s.divider.step 66 19 := congrArg Prod.fst division
    have iteration : (s.step p i).calcIteration = if s.calcIteration = 0 then 0 else s.calcIteration - 1 :=
      congrArg Prod.snd division
    have counted : s.calcIteration = 0 ∧ (s.step p i).state = .calcDone d ∨
        s.calcIteration = (s.step p i).calcIteration + 1 ∧ (s.step p i).state = .calcStep d := by
      dsimp only [calcStep] at later
      split_ifs at later iteration with last
      · exact .inl ⟨last, later⟩
      · exact .inr ⟨by omega, later⟩
    cases d with
    | vopQuant => exact .divides now counted (congrArg Codes.course same) divider
    | nco | phase | ramp =>
      obtain ⟨-, there⟩ | ⟨-, there⟩ := counted <;> exact leaves there (by rintro ⟨⟩) (by rintro ⟨⟩) rfl
  case calcDone d =>
    cases d with
    | vopQuant => exact .found now later same
    | nco | phase | ramp => exact leaves later (by rintro ⟨⟩) (by rintro ⟨⟩) rfl
  case launch a =>
    have there : (s.step p i).state = .await a := later
    cases within : coded (.launch a) with
    | true =>
      have next : coded (.await a) = true ∧ (RuntimeState.await a).part = (RuntimeState.launch a).part ∧
          ((RuntimeState.await a).rank < 32 → (RuntimeState.launch a).rank < 32) ∧
            ((RuntimeState.await a).rank < 28 → (RuntimeState.launch a).rank < 28) := by
        revert within
        cases a <;> decide
      rw [← there, ← now] at next
      exact .keeps (now ▸ within) next.1 next.2.1 next.2.2.1 next.2.2.2 same
    | false =>
      refine leaves there (by rintro ⟨⟩) (by rintro ⟨⟩) ?_
      revert within
      cases a <;> decide
  case await a =>
    split_ifs at later same
    · exact quantizes_finishAccess now same later
    · have stays : (s.step p i).state = s.state := later
      cases within : coded (.await a) with
      | true =>
        rw [← now] at within
        exact .keeps within (stays ▸ within) (congrArg _ stays) (stays ▸ id) (stays ▸ id) same
      | false => exact leaves (stays.trans now) (by rintro ⟨⟩) (by rintro ⟨⟩) within
  case vopDelay =>
    unfold vopDelay at later same
    split_ifs at later same
    · exact leaves later (by rintro ⟨⟩) (by rintro ⟨⟩) rfl
    · have stays : (s.step p i).state = s.state := later
      have within : coded s.state = true := by rw [now]; rfl
      exact .keeps within (stays ▸ within) (congrArg _ stays) (stays ▸ id) (stays ▸ id) same
  case channelDone =>
    dsimp only [channelDone] at later
    by_cases last : s.channelIndex = 7
    · rw [if_pos last] at later
      exact leaves later (by rintro ⟨⟩) (by rintro ⟨⟩) rfl
    · rw [if_neg last] at later
      exact leaves later (by rintro ⟨⟩) (by rintro ⟨⟩) rfl
  case ncoCommitStart =>
    unfold ncoCommitStart at later
    split_ifs at later
    · exact leaves later (by rintro ⟨⟩) (by rintro ⟨⟩) rfl
    · exact leaves (later.trans now) (by rintro ⟨⟩) (by rintro ⟨⟩) rfl
  case ncoCommitWait =>
    unfold ncoCommitWait at later
    split_ifs at later
    · exact leaves (later.trans now) (by rintro ⟨⟩) (by rintro ⟨⟩) rfl
    · exact leaves later (by rintro ⟨⟩) (by rintro ⟨⟩) rfl
    · exact leaves later (by rintro ⟨⟩) (by rintro ⟨⟩) rfl
  all_goals exact leaves later (by rintro ⟨⟩) (by rintro ⟨⟩) rfl

/-! ## The words that carry a code -/

/-- The table entries leave the bits of the code alone. -/
theorem bldr_apart (index : Nat) : (bldrAc index).extractLsb' 6 4 = 0 ∧ (bldrDc index).extractLsb' 6 4 = 0 := by
  have small : ∀ index < 64, (bldrAc index).extractLsb' 6 4 = 0 ∧ (bldrDc index).extractLsb' 6 4 = 0 := by
    decide
  by_cases within : index < 64
  · exact small index within
  · refine ⟨?_, ?_⟩
    · rw [bldrAc, List.getD_eq_default _ _ (by simp only [List.length_cons, List.length_nil]; omega)]
      rfl
    · rw [bldrDc, if_neg (by omega), if_neg (by omega), if_neg (by omega)]
      rfl

theorem extract_shiftLeft {w k len : Nat} (x : BitVec w) (fits : k + len ≤ w) :
    (x <<< k).extractLsb' k len = x.extractLsb' 0 len := by
  apply BitVec.eq_of_getLsbD_eq
  intro bit within
  rw [BitVec.getLsbD_extractLsb', BitVec.getLsbD_extractLsb', BitVec.getLsbD_shiftLeft, Nat.add_sub_cancel_left,
    Nat.zero_add, decide_eq_true (show k + bit < w by omega), decide_eq_false (show ¬k + bit < k by omega)]
  rfl

theorem cfg2Word_code (s : RuntimeConfig) : s.cfg2Word.extractLsb' 6 4 = s.vopCode.extractLsb' 0 4 := by
  have apart : (if dcCoupled s.channelIndex then bldrDc s.vopOptIndex
      else bldrAc s.vopOptIndex).extractLsb' 6 4 = 0 := by
    split_ifs
    · exact (bldr_apart _).2
    · exact (bldr_apart _).1
  have kept : (s.readHalf &&& ~~~cfg2VopMask).extractLsb' 6 4 = 0 := by
    rw [BitVec.extractLsb'_and, show (~~~cfg2VopMask).extractLsb' 6 4 = 0 from rfl]
    exact BitVec.and_zero
  have nibble : (s.vopCode &&& 0x000F).extractLsb' 0 4 = s.vopCode.extractLsb' 0 4 := by
    rw [BitVec.extractLsb'_and, show (0x000F : BitVec 16).extractLsb' 0 4 = BitVec.allOnes 4 from rfl]
    exact BitVec.and_allOnes
  rw [cfg2Word, BitVec.extractLsb'_or, BitVec.extractLsb'_or, apart, kept, extract_shiftLeft _ (by decide), nibble,
    BitVec.or_self]
  exact BitVec.zero_or

theorem bias_apart : ∀ bias : BitVec 5, (bias.zeroExtend 16).extractLsb' 6 10 = 0 := by
  decide

theorem cfg3Word_code (s : RuntimeConfig) : s.cfg3Word.extractLsb' 6 10 = s.vopCode.extractLsb' 0 10 := by
  have kept : (s.readHalf &&& ~~~cfg3VopMask).extractLsb' 6 10 = 0 := by
    rw [BitVec.extractLsb'_and, show (~~~cfg3VopMask).extractLsb' 6 10 = 0 from rfl]
    exact BitVec.and_zero
  rw [cfg3Word, BitVec.extractLsb'_or, BitVec.extractLsb'_or, bias_apart, kept, extract_shiftLeft _ (by decide)]
  exact BitVec.or_zero.trans BitVec.zero_or

/-! ## The codes of the currents -/

/-- The divider divides for the code of the current, and the registers hold that code. -/
structure Quantized (s : RuntimeConfig) : Prop where
  dividing : s.state = .calcStep .vopQuant → s.divider.divisor = 175 ∧
    ∃ k, k + s.calcIteration = 17 ∧ s.divider.Dividing 66 19 ((s.quantUa - 1400) * 2 ^ 50) k
  divided : s.state = .calcDone .vopQuant → s.divider.quotient = codeOf s.quantUa
  code : coded s.state = true → s.vopCode.toNat = codeOf s.quantUa ∧ s.vopOptIndex = codeOf s.quantUa / 16
  nibble : coded s.state = true → 20 ≤ s.state.rank → s.state.rank < 32 →
    s.expectedCfg2.extractLsb' 6 4 = s.vopCode.extractLsb' 0 4
  field : coded s.state = true → 20 ≤ s.state.rank → s.state.rank < 28 →
    s.expectedCfg3.extractLsb' 6 10 = s.vopCode.extractLsb' 0 10

theorem quantized_elsewhere (step : s.state ≠ .calcStep .vopQuant) (done : s.state ≠ .calcDone .vopQuant)
    (elsewhere : coded s.state = false) : Quantized s where
  dividing now := absurd now step
  divided now := absurd now done
  code within := absurd within (by rw [elsewhere]; exact Bool.false_ne_true)
  nibble within := absurd within (by rw [elsewhere]; exact Bool.false_ne_true)
  field within := absurd within (by rw [elsewhere]; exact Bool.false_ne_true)

theorem quantUa_kept (kept : t.course = s.course) : t.quantUa = s.quantUa := by
  have selected : t.selected.currentUa = s.selected.currentUa := congrArg Course.selectedUa kept
  have next : t.rampNextUa = s.rampNextUa := congrArg Course.rampNextUa kept
  have readback : t.vopReadbackOnly = s.vopReadbackOnly := congrArg Course.vopReadbackOnly kept
  rw [quantUa, selected, next, readback, quantUa]

/-- The current that is quantized is in range. -/
theorem quantUa_range (sound : Sound s) (within : s.state.part = 1 ∨ s.state.part = 2)
    (writes : s.state.part = 1 → s.vopReadbackOnly = false) : 1400 ≤ s.quantUa ∧ s.quantUa ≤ 46156 := by
  have bounds := sound.selected (by omega) (by omega)
  rw [quantUa]
  cases readback : s.vopReadbackOnly with
  | true =>
    rw [if_pos rfl]
    omega
  | false =>
    have near := sound.nearer (within.imp_right fun there => ⟨there, readback⟩)
    rw [if_neg Bool.false_ne_true]
    exact ⟨near.low, near.high⟩

/-- Eighteen bits of the division are the code of the current. -/
theorem quotient_code {current : Nat} {d : Divider} (divided : d.Dividing 66 19 ((current - 1400) * 2 ^ 50) 18)
    (divisor : d.divisor = 175) : d.quotient = codeOf current := by
  rw [divided.quotient_eq, divisor, codeOf, show 2 ^ 50 = 4 * 2 ^ (66 - 18) from rfl, ← Nat.mul_assoc,
    Nat.mul_div_cancel _ (Nat.two_pow_pos _)]

theorem quantized_step (sound : Sound s) (held : Quantized s) (quantizes : Quantizes s t) :
    Quantized t := by
  cases quantizes with
  | outside step done elsewhere => exact quantized_elsewhere step done elsewhere
  | setsUp now later course divider iteration =>
    have within : s.state.part = 2 := by rw [now]; rfl
    obtain ⟨low, high⟩ := quantUa_range sound (.inr within) (by omega)
    have offset : (s.quantUa % 2 ^ 16 + (2 ^ 16 - 1400)) % 2 ^ 16 = s.quantUa - 1400 := by omega
    rw [offset] at divider
    refine ⟨fun _ => ⟨by rw [divider], 0, by rw [iteration], ?_⟩, ?_, ?_, ?_, ?_⟩
    · rw [divider, quantUa_kept course]
      exact Divider.dividing_start (by omega) (by decide) (by decide)
    all_goals
      rw [later]
      exact nofun
  | divides now goesOn course divider =>
    obtain ⟨divisor, k, count, dividing⟩ := held.dividing now
    obtain ⟨next, same⟩ := dividing.step (by omega)
    rw [← divider] at next same
    obtain ⟨last, later⟩ | ⟨more, later⟩ := goesOn
    · obtain rfl : k = 17 := by omega
      refine ⟨?_, fun _ => ?_, ?_, ?_, ?_⟩
      case refine_2 =>
        rw [quantUa_kept course]
        exact quotient_code next (same.trans divisor)
      all_goals
        rw [later]
        exact nofun
    · refine ⟨fun _ => ⟨same.trans divisor, k + 1, by omega, ?_⟩, ?_, ?_, ?_, ?_⟩
      case refine_1 =>
        rw [quantUa_kept course]
        exact next
      all_goals
        rw [later]
        exact nofun
  | found now later codes =>
    have course : t.course = s.course := congrArg Codes.course codes
    have code : t.vopCode = BitVec.ofNat 16 s.divider.quotient := congrArg Codes.vopCode codes
    have index : t.vopOptIndex = s.divider.quotient / 2 ^ 4 % 2 ^ 6 := congrArg Codes.vopOptIndex codes
    have within : s.state.part = 2 := by rw [now]; rfl
    obtain ⟨low, high⟩ := quantUa_range sound (.inr within) (by omega)
    have short := codeOf_lt high
    rw [held.divided now] at code index
    refine ⟨?_, ?_, fun _ => ⟨?_, ?_⟩, fun _ low high => ?_, fun _ low high => ?_⟩
    · rw [later]
      split_ifs <;> exact nofun
    · rw [later]
      split_ifs <;> exact nofun
    · rw [code, quantUa_kept course, BitVec.toNat_ofNat]
      omega
    · rw [index, quantUa_kept course]
      omega
    -- neither of the two words is ready yet
    · rw [later] at low high
      split_ifs at low high
      · exact absurd low (by decide)
      · exact absurd high (by decide)
    · rw [later] at low high
      split_ifs at low high
      · exact absurd low (by decide)
      · exact absurd high (by decide)
  | nibble now later codes =>
    have course : t.course = s.course := congrArg Codes.course codes
    have code : t.vopCode = s.vopCode := congrArg Codes.vopCode codes
    have index : t.vopOptIndex = s.vopOptIndex := congrArg Codes.vopOptIndex codes
    have cfg2 : t.expectedCfg2 = s.cfg2Word := congrArg Codes.expectedCfg2 codes
    refine ⟨?_, ?_, fun _ => ?_, fun _ _ _ => ?_, fun _ _ high => ?_⟩
    · rw [later]
      exact nofun
    · rw [later]
      exact nofun
    · rw [code, index, quantUa_kept course]
      exact held.code (by rw [now]; rfl)
    · rw [cfg2, code]
      exact cfg2Word_code s
    · rw [later] at high
      exact absurd high (by decide)
  | field now later codes =>
    have course : t.course = s.course := congrArg Codes.course codes
    have code : t.vopCode = s.vopCode := congrArg Codes.vopCode codes
    have index : t.vopOptIndex = s.vopOptIndex := congrArg Codes.vopOptIndex codes
    have cfg2 : t.expectedCfg2 = s.expectedCfg2 := congrArg Codes.expectedCfg2 codes
    have cfg3 : t.expectedCfg3 = s.cfg3Word := congrArg Codes.expectedCfg3 codes
    refine ⟨?_, ?_, fun _ => ?_, fun _ _ _ => ?_, fun _ _ _ => ?_⟩
    · rw [later]
      exact nofun
    · rw [later]
      exact nofun
    · rw [code, index, quantUa_kept course]
      exact held.code (by rw [now]; rfl)
    · rw [cfg2, code]
      exact held.nibble (by rw [now]; rfl) (by rw [now]; decide) (by rw [now]; decide)
    · rw [cfg3, code]
      exact cfg3Word_code s
  | keeps within still part cfg2Rank cfg3Rank codes =>
    have course : t.course = s.course := congrArg Codes.course codes
    have code : t.vopCode = s.vopCode := congrArg Codes.vopCode codes
    have index : t.vopOptIndex = s.vopOptIndex := congrArg Codes.vopOptIndex codes
    have cfg2 : t.expectedCfg2 = s.expectedCfg2 := congrArg Codes.expectedCfg2 codes
    have cfg3 : t.expectedCfg3 = s.expectedCfg3 := congrArg Codes.expectedCfg3 codes
    have low : 20 ≤ t.state.rank → 20 ≤ s.state.rank := by
      intro high
      have same := part
      unfold RuntimeState.part at same
      split_ifs at same <;> omega
    refine ⟨fun later => ?_, fun later => ?_, fun _ => ?_, fun _ from_here below => ?_, fun _ from_here below => ?_⟩
    · rw [later] at still
      contradiction
    · rw [later] at still
      contradiction
    · rw [code, index, quantUa_kept course]
      exact held.code within
    · rw [cfg2, code]
      exact held.nibble within (low from_here) (cfg2Rank below)
    · rw [cfg3, code]
      exact held.field within (low from_here) (cfg3Rank below)

/-! ## The currents of a ramp -/

def nextCurrent (s : RuntimeConfig) : List Nat :=
  if s.state = .vopDelay ∧ s.delayCount = 0 then [s.rampNextUa] else []

/-- The currents reached in the `count` clock edges from `start` on. -/
def rampCurrents (σ : Nat → RuntimeConfig) (start count : Nat) : List Nat :=
  (List.range' start count).flatMap fun n => (σ n).nextCurrent

theorem rampCurrents_succ (σ : Nat → RuntimeConfig) (start count : Nat) :
    rampCurrents σ start (count + 1) = (σ start).nextCurrent ++ rampCurrents σ (start + 1) count := rfl

/-- The ramp goes on, has ended, or an access has failed. -/
theorem ramp_goesOn (within : 1 ≤ s.state.part ∧ s.state.part ≤ 3) :
    (1 ≤ (s.step p i).state.part ∧ (s.step p i).state.part ≤ 3) ∨
      s.state = .calcDone .vopQuant ∧ s.vopReadbackOnly = true ∨
        s.state ≠ .vopDelay ∧ (s.step p i).state = .finish ∧ s.transaction.done = true ∧ s.transaction.error ≠ 0 := by
  have later : (s.step p i).state = (s.act p i).state := rfl
  have stays (state : RuntimeState) (there : (s.step p i).state = state) (part : 1 ≤ state.part ∧ state.part ≤ 3) :
      1 ≤ (s.step p i).state.part ∧ (s.step p i).state.part ≤ 3 := by
    rw [there]
    exact part
  cases now : s.state <;> rw [now] at within <;> simp only [act, now] at later
  case vopPrep =>
    dsimp only [vopPrep] at later
    split_ifs at later
    · exact .inl (stays .vopQuantInit later (by decide))
    · exact .inl (stays (.calcStep .ramp) later (by decide))
  case vopQuantInit => exact .inl (stays (.calcStep .vopQuant) later (by decide))
  case calcStep d =>
    dsimp only [calcStep] at later
    split_ifs at later
    · refine .inl (stays (.calcDone d) later ?_)
      revert within
      cases d <;> decide
    · exact .inl (stays (.calcStep d) later within)
  case calcDone d =>
    cases d with
    | ramp => exact .inl (stays .vopQuantInit later (by decide))
    | vopQuant =>
      dsimp only [calcDone] at later
      split_ifs at later with readback
      · exact .inr (.inl ⟨rfl, readback⟩)
      · exact .inl (stays (.launch .vopCfg0Read) later (by decide))
    | nco | phase => exact absurd within (by decide)
  case launch a =>
    refine .inl (stays (.await a) later ?_)
    revert within
    cases a <;> decide
  case await a =>
    split_ifs at later with done
    · unfold finishAccess at later
      split_ifs at later with failed
      · exact .inr (.inr ⟨by rintro ⟨⟩, later, done, failed.2⟩)
      · cases a
        case vopCfg0Read => exact .inl (stays (.launch .vopCfg0Write) later (by decide))
        case vopCfg0Write => exact .inl (stays (.launch .vopCfg2Read) later (by decide))
        case vopCfg2Read => exact .inl (stays (.launch .vopCfg2Write) later (by decide))
        case vopCfg2Write => exact .inl (stays (.launch .vopCfg3Read) later (by decide))
        case vopCfg3Read => exact .inl (stays (.launch .vopCfg3Write) later (by decide))
        case vopCfg3Write => exact .inl (stays (.launch .vopUpdateRead) later (by decide))
        case vopUpdateRead => exact .inl (stays (.launch .vopUpdateWrite) later (by decide))
        case vopUpdateWrite => exact .inl (stays .vopDelay later (by decide))
        all_goals exact absurd within (by decide)
    · exact .inl (stays (.await a) (later.trans now) within)
  case vopDelay =>
    unfold vopDelay at later
    split_ifs at later
    · exact .inl (stays .vopPrep later (by decide))
    · exact .inl (stays .vopDelay (later.trans now) within)
  all_goals exact absurd within (by decide)

/-- The ramp is under way. -/
structure Ramping (s : RuntimeConfig) : Prop where
  within : 1 ≤ s.state.part ∧ s.state.part ≤ 3
  onward : s.state.part = 2 ∨ s.state = .calcStep .ramp ∨ s.state = .calcDone .ramp → s.vopReadbackOnly = false

def Arrived (s : RuntimeConfig) : Prop := s.state = .vopPrep ∧ s.rampCurrentUa = s.selected.currentUa

theorem prep_step (now : s.state = .vopPrep) (unfinished : ¬Arrived s) : (s.step p i).state ≠ .vopQuantInit := by
  have later : (s.step p i).state = (s.act p i).state := rfl
  simp only [act, now] at later
  rw [vopPrep, if_neg fun arrived => unfinished ⟨now, arrived⟩] at later
  rw [later]
  rintro ⟨⟩

theorem delay_step (now : s.state = .vopDelay) :
    s.delayCount = 0 ∧ (s.step p i).rampCurrentUa = s.rampNextUa ∨
      s.delayCount ≠ 0 ∧ (s.step p i).rampCurrentUa = s.rampCurrentUa := by
  have same : (s.step p i).rampCurrentUa = (s.act p i).rampCurrentUa := rfl
  simp only [act, now] at same
  unfold vopDelay at same
  split_ifs at same with ended
  · exact .inl ⟨ended, same⟩
  · exact .inr ⟨ended, same⟩

/-- What the moves of a ramp leave alone. -/
theorem ramping_moves (ramping : Ramping s) (later : 1 ≤ t.state.part ∧ t.state.part ≤ 3)
    (unfinished : s.state = .vopPrep → t.state ≠ .vopQuantInit) (moves : Moves p s i t) :
    Ramping t ∧ t.selected.currentUa = s.selected.currentUa ∧
      (s.state ≠ .vopDelay → t.rampCurrentUa = s.rampCurrentUa) := by
  obtain ⟨within, onward⟩ := ramping
  have leaves {state : RuntimeState} (now : s.state = state) (elsewhere : state.part = 0 ∨ 4 ≤ state.part) :
      False := by
    rw [now] at within
    omega
  cases moves with
  | outside _ outside =>
    have none := part_of_not_serves outside
    omega
  | taken now | opened now | chosen now | begins _ now => exact (leaves now (by decide)).elim
  | skips now => obtain now | now := now <;> exact (leaves now (by decide)).elim
  | waits now => obtain ⟨now, -⟩ | ⟨now, -⟩ := now <;> exact (leaves now (by decide)).elim
  | follows after course =>
    have readback : t.vopReadbackOnly = s.vopReadbackOnly := congrArg Course.vopReadbackOnly course
    have part : t.state.part = s.state.part := after.part.resolve_left (by omega)
    refine ⟨⟨later, fun there => readback.trans (onward ?_)⟩, congrArg Course.selectedUa course,
      fun _ => congrArg Course.rampCurrentUa course⟩
    obtain there | there | there := there
    · exact .inl (part ▸ there)
    · exact absurd there after.apart.1
    · exact absurd there after.apart.2
  | counts _ same course =>
    have readback : t.vopReadbackOnly = s.vopReadbackOnly := congrArg Course.vopReadbackOnly course
    exact ⟨⟨later, fun there => readback.trans (onward (same ▸ there))⟩, congrArg Course.selectedUa course,
      fun _ => congrArg Course.rampCurrentUa course⟩
  | divides _ _ _ _ _ _ course =>
    exact ⟨⟨later, fun _ => congrArg Course.vopReadbackOnly course⟩, congrArg Course.selectedUa course,
      fun _ => congrArg Course.rampCurrentUa course⟩
  | arrived now there _ => exact absurd there (unfinished now)
  | divided now _ _ _ course =>
    have readback : t.vopReadbackOnly = s.vopReadbackOnly := congrArg Course.vopReadbackOnly course
    exact ⟨⟨later, fun _ => readback.trans (onward (.inr (.inl now)))⟩, congrArg Course.selectedUa course,
      fun _ => congrArg Course.rampCurrentUa course⟩
  | chooses now _ course =>
    have readback : t.vopReadbackOnly = s.vopReadbackOnly := congrArg Course.vopReadbackOnly course
    exact ⟨⟨later, fun _ => readback.trans (onward (.inr (.inr now)))⟩, congrArg Course.selectedUa course,
      fun _ => congrArg Course.rampCurrentUa course⟩
  | ramps now there course =>
    refine ⟨⟨later, fun elsewhere => ?_⟩, congrArg Course.selectedUa course, fun apart => absurd now apart⟩
    rw [there] at elsewhere
    exact absurd elsewhere (by decide)
  | writes _ _ writes course =>
    have readback : t.vopReadbackOnly = s.vopReadbackOnly := congrArg Course.vopReadbackOnly course
    exact ⟨⟨later, fun _ => readback.trans writes⟩, congrArg Course.selectedUa course,
      fun _ => congrArg Course.rampCurrentUa course⟩

variable {σ : Nat → RuntimeConfig} {inputs : Nat → RuntimeIn}

/-- A clock edge of a ramp reaches the next current, or stays at the present one. -/
theorem ramp_edge (stepping : Stepping s)
    (same : s.state ≠ .vopDelay → (s.step p i).rampCurrentUa = s.rampCurrentUa) :
    s.nextCurrent = [] ∧ (s.step p i).rampCurrentUa = s.rampCurrentUa ∨
      s.nextCurrent = [(s.step p i).rampCurrentUa] ∧
        Toward s.selected.currentUa s.rampCurrentUa (s.step p i).rampCurrentUa := by
  by_cases now : s.state = .vopDelay
  · obtain ⟨ended, next⟩ | ⟨lasts, stays⟩ := delay_step (p := p) (i := i) now
    · refine .inr ⟨?_, ?_⟩
      · rw [nextCurrent, if_pos ⟨now, ended⟩, next]
      · rw [next]
        exact stepping.2 (.inl (by rw [now]; rfl))
    · exact .inl ⟨if_neg fun both => lasts both.2, stays⟩
  · exact .inl ⟨if_neg fun both => now both.1, same now⟩

/-- A ramp comes to its end, each of its currents a step from the one before. -/
theorem Follow.ramp (follow : Follow p σ inputs) (stepping : ∀ n, Stepping (σ n)) (n : Nat)
    (ramping : Ramping (σ n)) :
    ∃ count, List.IsChain (Toward (σ n).selected.currentUa) ((σ n).rampCurrentUa :: rampCurrents σ n count) ∧
      (∀ k ≤ count, (σ (n + k)).state ≠ .finish → (σ (n + k)).selected.currentUa = (σ n).selected.currentUa ∧
        (σ (n + k)).rampCurrentUa = (rampCurrents σ n k).getLastD (σ n).rampCurrentUa) ∧
      (Arrived (σ (n + count)) ∨ (σ (n + count)).state = .finish ∧
        ∃ k < count, (σ (n + k)).transaction.done = true ∧ (σ (n + k)).transaction.error ≠ 0) := by
  obtain ⟨r, rank⟩ : ∃ r, (σ n).measure p = r := ⟨_, rfl⟩
  induction r using WellFoundedLT.induction generalizing n with
  | ind r ih =>
    by_cases arrived : Arrived (σ n)
    · refine ⟨0, .singleton _, fun k none _ => ?_, .inl arrived⟩
      obtain rfl : k = 0 := Nat.le_zero.mp none
      exact ⟨rfl, rfl⟩
    have next := follow.next n
    obtain onward | ⟨now, readback⟩ | ⟨elsewhere, failed, done, error⟩ :=
      ramp_goesOn (p := p) (i := inputs n) ramping.within
    · rw [← next] at onward
      have unfinished (now : (σ n).state = .vopPrep) : (σ (n + 1)).state ≠ .vopQuantInit := by
        rw [next]
        exact prep_step now arrived
      obtain ⟨still, selected, same⟩ := ramping_moves ramping onward unfinished (follow.moves n)
      have serves : (σ n).state.serves = true := by
        cases outside : (σ n).state.serves with
        | true => rfl
        | false =>
          have none := part_of_not_serves outside
          have within := ramping.within
          omega
      have less : (σ (n + 1)).measure p < (σ n).measure p := by
        obtain (outside | ⟨-, less⟩) | ⟨waits, -, -⟩ := measure_step (follow.sound n) (follow.moves n) serves
        · have none := part_of_not_serves outside
          omega
        · exact less
        · have within := ramping.within
          obtain ⟨now, -⟩ | ⟨now, -⟩ := waits <;> rw [now] at within <;> exact absurd within (by decide)
      obtain ⟨count, chain, along, ends⟩ := ih _ (rank ▸ less) (n + 1) still rfl
      have shift (k : Nat) : n + 1 + k = n + (k + 1) := by omega
      have edge := ramp_edge (p := p) (i := inputs n) (stepping n) fun now => by
        rw [← next]
        exact same now
      rw [← next] at edge
      rw [selected] at chain along
      refine ⟨count + 1, ?_, fun k within serving => ?_, ?_⟩
      · rw [rampCurrents_succ]
        obtain ⟨none, stays⟩ | ⟨reached, toward⟩ := edge
        · rw [none, ← stays]
          exact chain
        · rw [reached]
          exact .cons_cons toward chain
      · cases k with
        | zero => exact ⟨rfl, rfl⟩
        | succ k =>
          rw [← shift] at serving ⊢
          obtain ⟨target, current⟩ := along k (by omega) serving
          refine ⟨target, ?_⟩
          rw [rampCurrents_succ, current]
          obtain ⟨none, stays⟩ | ⟨reached, -⟩ := edge
          · rw [none, stays]
            rfl
          · rw [reached]
            exact List.getLastD_cons.symm
      · rw [← shift]
        refine ends.imp id fun ⟨finished, k, before, failed⟩ => ⟨finished, k + 1, by omega, ?_⟩
        rw [← shift]
        exact failed
    · have goesOn := ramping.onward (.inl (by rw [now]; rfl))
      exact Bool.noConfusion (readback.symm.trans goesOn)
    · have none : rampCurrents σ n 1 = [] := by
        rw [rampCurrents_succ, nextCurrent, if_neg fun both => elsewhere both.1]
        rfl
      rw [← next] at failed
      refine ⟨1, ?_, fun k within serving => ?_, .inr ⟨failed, 0, by omega, done, error⟩⟩
      · rw [none]
        exact .singleton _
      · obtain rfl | rfl : k = 0 ∨ k = 1 := by omega
        · exact ⟨rfl, rfl⟩
        · exact absurd failed serving

/-! ## The controller on its own -/

/-- What holds of the ramp in every reachable state. -/
structure Ramped (p : RuntimeParams) (s : RuntimeConfig) : Prop where
  ported : Ported p s
  sound : Sound s
  stepping : Stepping s
  quantized : Quantized s

theorem ramped_reset : Ramped p (reset p) where
  ported := ported_reset
  sound := sound_of_not_serves rfl
  stepping := stepping_of_part (show RuntimeState.idle.part ≠ 1 ∧ RuntimeState.idle.part ≠ 2 by decide)
  quantized := quantized_elsewhere nofun nofun rfl

theorem ramped_step (held : Ramped p s) : Ramped p (s.step p i) where
  ported := ported_step held.ported
  sound := sound_step held.sound (moves_step held.ported)
  stepping := stepping_step held.sound held.stepping (moves_step held.ported)
  quantized := quantized_step held.sound held.quantized quantizes_step

theorem ramped_trace (p : RuntimeParams) (inputs : Nat → RuntimeIn) (n : Nat) :
    Ramped p ((runtimeConfig p).trace inputs n) :=
  (runtimeConfig p).trace_invariant inputs ramped_reset (fun _ _ => ramped_step) n

/-- The ramp begins with the current that is read back. -/
theorem init_step (now : s.state = .await .vopInit) (done : s.transaction.done = true)
    (fine : s.transaction.error = 0) : (s.step p i).state = .vopPrep ∧ (s.step p i).selected = s.selected ∧
      (s.step p i).rampCurrentUa = 1400 + (s.readHalf.extractLsb' 6 10).toNat * 175 / 4 := by
  simp only [step, act, now, done, if_true, finishAccess, fine, ne_eq, not_true, and_false, if_false, accessed]
  exact ⟨trivial, rfl, trivial⟩

/-- What is written for the next current of the ramp. -/
structure WritesCode (s : RuntimeConfig) : Prop where
  low : 1400 ≤ s.rampNextUa
  toward : Toward s.selected.currentUa s.rampCurrentUa s.rampNextUa
  fits : codeOf s.rampNextUa < 1024
  index : s.vopOptIndex = codeOf s.rampNextUa / 16
  code : s.vopCode.toNat = codeOf s.rampNextUa

theorem writesCode (held : Ramped p s) (within : coded s.state = true) (ramp : s.state.part = 1) : WritesCode s := by
  have next : s.quantUa = s.rampNextUa := by
    rw [quantUa, held.stepping.1 ramp]
    rfl
  have near := held.sound.nearer (.inl ramp)
  obtain ⟨code, index⟩ := held.quantized.code within
  rw [next] at code index
  exact ⟨near.low, held.stepping.2 (.inl ramp), codeOf_lt near.high, index, code⟩

theorem written_extract {low len : Nat} (address : BitVec 18) (word : BitVec 16) (fits : low + len ≤ 16) :
    (launchWrite16 address word).writeData.extractLsb' low len = word.extractLsb' low len := by
  apply BitVec.eq_of_getLsbD_eq
  intro bit within
  rw [BitVec.getLsbD_extractLsb', BitVec.getLsbD_extractLsb', launchWrite16, BitVec.getLsbD_append,
    if_pos (show low + bit < 16 by omega)]

end RuntimeConfig

open RuntimeConfig

/-- From the current that is read back the ramp goes to the selected one in steps of at most a
    tenth that do not pass it, unless an access fails; and each code that is written is that of
    the next current and fits its field. -/
theorem current_ramp (p : RuntimeParams) (inputs : Nat → RuntimeIn) :
    let σ := (runtimeConfig p).trace inputs
    (∀ n, (σ n).state = .await .vopInit → (σ n).transaction.done = true → (σ n).transaction.error = 0 →
      let target := (σ n).selected.currentUa
      let start := 1400 + ((σ n).readHalf.extractLsb' 6 10).toNat * 175 / 4
      ∃ count, List.IsChain (Toward target) (start :: rampCurrents σ (n + 1) count) ∧
        (∀ k ≤ count, (σ (n + 1 + k)).state ≠ .finish → (σ (n + 1 + k)).selected.currentUa = target ∧
          (σ (n + 1 + k)).rampCurrentUa = (rampCurrents σ (n + 1) k).getLastD start) ∧
        ((σ (n + 1 + count)).state = .vopPrep ∧ (rampCurrents σ (n + 1) count).getLastD start = target ∨
          (σ (n + 1 + count)).state = .finish ∧
            ∃ k < count, (σ (n + 1 + k)).transaction.done = true ∧ (σ (n + 1 + k)).transaction.error ≠ 0)) ∧
      (∀ n, (σ n).state = .launch .vopCfg2Write → WritesCode (σ n) ∧
        (((σ n).command .vopCfg2Write).writeData.extractLsb' 6 4).toNat = codeOf (σ n).rampNextUa % 16) ∧
      ∀ n, (σ n).state = .launch .vopCfg3Write → WritesCode (σ n) ∧
        (((σ n).command .vopCfg3Write).writeData.extractLsb' 6 10).toNat = codeOf (σ n).rampNextUa := by
  intro σ
  have held (n : Nat) : Ramped p (σ n) := ramped_trace p inputs n
  have follow : Follow p σ inputs := ⟨fun _ => rfl, fun n => (held n).ported, fun n => (held n).sound⟩
  refine ⟨fun n now done fine => ?_, fun n now => ?_, fun n now => ?_⟩
  · intro target start
    obtain ⟨prep, selected, current⟩ := init_step (p := p) (i := inputs n) now done fine
    rw [← follow.next] at prep selected current
    have ramping : Ramping (σ (n + 1)) := by
      refine ⟨by rw [prep]; decide, fun elsewhere => ?_⟩
      rw [prep] at elsewhere
      exact absurd elsewhere (by decide)
    obtain ⟨count, chain, along, ends⟩ := follow.ramp (fun n => (held n).stepping) (n + 1) ramping
    rw [selected, current] at chain along
    refine ⟨count, chain, along, ends.imp_left fun ⟨there, reached⟩ => ⟨there, ?_⟩⟩
    obtain ⟨same, last⟩ := along count (Nat.le_refl _) (by rw [there]; exact nofun)
    rw [← last, reached, same]
  · have within : coded (σ n).state = true := by rw [now]; rfl
    have writes := writesCode (held n) within (by rw [now]; rfl)
    have short := writes.fits
    refine ⟨writes, ?_⟩
    rw [command, written_extract _ _ (by decide),
      (held n).quantized.nibble within (by rw [now]; decide) (by rw [now]; decide), BitVec.extractLsb'_toNat,
      writes.code]
    rfl
  · have within : coded (σ n).state = true := by rw [now]; rfl
    have writes := writesCode (held n) within (by rw [now]; rfl)
    refine ⟨writes, ?_⟩
    rw [command, written_extract _ _ (by decide),
      (held n).quantized.field within (by rw [now]; decide) (by rw [now]; decide), BitVec.extractLsb'_toNat,
      writes.code, Nat.shiftRight_zero]
    exact Nat.mod_eq_of_lt writes.fits

end Xczu47dr.Rfdc
