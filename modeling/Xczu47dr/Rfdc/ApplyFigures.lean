import Xczu47dr.Rfdc.RuntimeInvariant

/-! # The figures of an apply

What an apply computes, stages, commits and confirms, and what one clock edge of the
runtime controller does to it: the states between the computation of a channel's
words and the end of that channel leave it alone.
-/

namespace Xczu47dr.Rfdc

open Clocked Control

namespace RuntimeState

/-- The states of a channel after its words are computed. -/
def inChannel (state : RuntimeState) : Bool := decide (12 ≤ state.rank) && decide (state.rank < 56)

end RuntimeState

/-- The registers an apply computes, stages, commits and confirms with. -/
structure Figures where
  request : RuntimeRequest
  channelIndex : Fin 8
  selected : Selected
  expectedNcoWord : BitVec 48
  expectedPhaseWord : BitVec 18
  commitMask : BitVec 8
  freqWords : Fin 8 → BitVec 48
  phaseWords : Fin 8 → BitVec 18
  staged : Actual
  actual : Actual
  configValidMask : BitVec 8

/-- Every channel of the request has a frequency and a phase in range. -/
def WordsInRange (r : RuntimeRequest) : Prop :=
  ∀ c : Fin 8, r.mask.getLsbD c = true →
    (-3200000000 ≤ (r.ncoHz c).toInt ∧ (r.ncoHz c).toInt ≤ 3200000000) ∧
      -180000 ≤ (r.phase c).toInt ∧ (r.phase c).toInt < 180000

namespace RuntimeConfig

variable {p : RuntimeParams} {s t : RuntimeConfig} {i : RuntimeIn}

def figures (s : RuntimeConfig) : Figures where
  request := s.request
  channelIndex := s.channelIndex
  selected := s.selected
  expectedNcoWord := s.expectedNcoWord
  expectedPhaseWord := s.expectedPhaseWord
  commitMask := s.ncoCommit.mask
  freqWords := s.ncoCommit.freqWords
  phaseWords := s.ncoCommit.phaseWords
  staged := s.staged
  actual := s.actual
  configValidMask := s.result.configValidMask

def selection (s : RuntimeConfig) : Selected where
  blockBase := channelBlockBase s.channelIndex
  tileBase := channelTileBase s.channelIndex
  ncoHz := s.request.ncoHz s.channelIndex
  phaseMdeg := s.request.phase s.channelIndex
  currentUa := (s.request.current s.channelIndex).toNat
  zone := s.request.zone s.channelIndex

/-- The results of the other channels, and those of the present one. -/
def stagedChannel (s : RuntimeConfig) : Actual where
  ncoHz := Function.update s.staged.ncoHz s.channelIndex s.selected.ncoHz
  nyquistZone := Function.update s.staged.nyquistZone s.channelIndex
    (if s.readbackCfg0 &&& nyquistMask ≠ 0 then 2 else 1)
  phaseMdeg := Function.update s.staged.phaseMdeg s.channelIndex s.selected.phaseMdeg
  currentUa := Function.update s.staged.currentUa s.channelIndex (1400 + s.vopCurrentScaled >>> 2)
  ncoWord := Function.update s.staged.ncoWord s.channelIndex (0#16 ++ s.expectedNcoWord)
  phaseWord := Function.update s.staged.phaseWord s.channelIndex (0#14 ++ s.expectedPhaseWord)
  vopCode := Function.update s.staged.vopCode s.channelIndex (0#16 ++ s.vopCode)

def division (s : RuntimeConfig) : Divider × Nat × Bool := (s.divider, s.calcIteration, s.calcNegative)

/-- What one clock edge does to the figures of an apply. -/
inductive Reckons (s : RuntimeConfig) (i : RuntimeIn) (t : RuntimeConfig) : Prop
  | rests : s.state = .validate ∨ s.state = .finish ∨ s.state.serves = false → t.state.serves = false →
      t.figures = s.figures → Reckons s i t
  | taken : s.state = .idle → t.state = .validate →
      (t.request.validationErrorMask = 0 → WordsInRange t.request) →
      t.figures = { s.figures with request := t.request } → Reckons s i t
  | opened : s.state = .validate → t.state = .select → s.request.validationErrorMask = 0 →
      t.figures = { s.figures with
        channelIndex := 0
        staged := s.actual
        commitMask := s.request.mask
        freqWords := fun r => (s.actual.ncoWord r).extractLsb' 0 48
        phaseWords := fun r => (s.actual.phaseWord r).extractLsb' 0 18
        configValidMask := s.result.configValidMask &&& ~~~s.request.mask } → Reckons s i t
  | skips : s.state = .select → s.request.mask.getLsbD s.channelIndex = false →
      (s.channelIndex = 7 ∧ t.state = .ncoCommitStart ∧ t.figures = s.figures ∨
        s.channelIndex ≠ 7 ∧ t.state = .select ∧ t.figures = { s.figures with channelIndex := s.channelIndex + 1 }) →
      Reckons s i t
  | chosen : s.state = .select → t.state = .ncoCalcInit → s.request.mask.getLsbD s.channelIndex = true →
      t.figures = { s.figures with selected := s.selection } → Reckons s i t
  | setsUpNco : s.state = .ncoCalcInit → t.state = .calcStep .nco → t.figures = s.figures →
      t.division = (s.ncoCalcInit s.clearPulses).division → Reckons s i t
  | setsUpPhase : s.state = .phaseCalcInit → t.state = .calcStep .phase → t.figures = s.figures →
      t.division = (s.phaseCalcInit s.clearPulses).division → Reckons s i t
  | divides (d : Division) : d = .nco ∨ d = .phase → s.state = .calcStep d →
      (s.calcIteration = 0 ∧ t.state = .calcDone d ∨
        s.calcIteration = t.calcIteration + 1 ∧ t.state = .calcStep d) →
      t.figures = s.figures → t.divider = s.divider.step 66 19 → t.calcNegative = s.calcNegative → Reckons s i t
  | ncoWord : s.state = .calcDone .nco → t.state = .phaseCalcInit →
      t.figures = { s.figures with expectedNcoWord :=
        if s.calcNegative then -BitVec.ofNat 48 s.divider.quotient else BitVec.ofNat 48 s.divider.quotient } →
      Reckons s i t
  | phaseWord (word : BitVec 18) : s.state = .calcDone .phase → t.state = .launch .tile →
      word = (if s.calcNegative then -BitVec.ofNat 18 s.divider.quotient else BitVec.ofNat 18 s.divider.quotient) →
      t.figures = { s.figures with
        expectedPhaseWord := word
        freqWords := Function.update s.ncoCommit.freqWords s.channelIndex s.expectedNcoWord
        phaseWords := Function.update s.ncoCommit.phaseWords s.channelIndex word } → Reckons s i t
  | works : s.state.inChannel = true → s.state ≠ .channelDone → t.state.inChannel = true ∨ t.state = .finish →
      t.figures = s.figures → Reckons s i t
  | staged : s.state = .channelDone →
      (s.channelIndex = 7 ∧ t.state = .ncoCommitStart ∧ t.figures = { s.figures with staged := s.stagedChannel } ∨
        s.channelIndex ≠ 7 ∧ t.state = .select ∧
          t.figures = { s.figures with staged := s.stagedChannel, channelIndex := s.channelIndex + 1 }) →
      Reckons s i t
  | waits : s.state = .ncoCommitStart ∧ (t.state = .ncoCommitStart ∨ t.state = .ncoCommitWait) ∨
        s.state = .ncoCommitWait ∧ i.ncoCommitDone = false ∧ t.state = .ncoCommitWait →
      t.figures = s.figures → Reckons s i t
  | refused : s.state = .ncoCommitWait → i.ncoCommitDone = true → i.ncoCommitError ≠ 0 → t.state = .finish →
      t.figures = s.figures → Reckons s i t
  | confirmed : s.state = .ncoCommitWait → i.ncoCommitDone = true → i.ncoCommitError = 0 → t.state = .finish →
      t.figures = { s.figures with
        actual := s.staged
        configValidMask := s.result.configValidMask ||| s.request.mask } → Reckons s i t

/-- A request without validation errors has its frequencies and phases in range. -/
theorem wordsInRange_of_valid (cmd : RfdcRequest) (valid : validationErrorMask cmd = 0) (c : Fin 8)
    (selected : cmd.channelMask.getLsbD c = true) :
    (-3200000000 ≤ (cmd.ncoHz c).toInt ∧ (cmd.ncoHz c).toInt ≤ 3200000000) ∧
      -180000 ≤ (cmd.phaseMdeg c).toInt ∧ (cmd.phaseMdeg c).toInt < 180000 := by
  have fine : (cmd.channelMask.getLsbD c && outOfRange cmd c) = false := by
    rw [← getLsbD_maskOf (fun r => cmd.channelMask.getLsbD r && outOfRange cmd r) c]
    exact (congrArg (BitVec.getLsbD · c) valid).trans (BitVec.getLsbD_zero ..)
  simp only [selected, Bool.true_and, outOfRange, Bool.or_eq_false_iff, decide_eq_false_iff_not, not_lt,
    not_le] at fine
  obtain ⟨⟨⟨⟨⟨⟨low, high⟩, -⟩, least⟩, most⟩, -⟩, -⟩ := fine
  exact ⟨⟨low, high⟩, least, most⟩

theorem reckons_finishAccess {a : Access} (now : s.state = .await a) (apply : a ≠ .readyProbe)
    (same : t.figures = (s.finishAccess p s.clearPulses a).figures)
    (later : t.state = (s.finishAccess p s.clearPulses a).state) : Reckons s i t := by
  have within : (RuntimeState.await a).inChannel = true := by
    revert apply
    cases a <;> decide
  have works (there : t.state.inChannel = true ∨ t.state = .finish) (kept : t.figures = s.figures) : Reckons s i t :=
    .works (now ▸ within) (by rw [now]; exact nofun) there kept
  unfold finishAccess at same later
  split_ifs at same later
  · exact works (.inr later) same
  · cases a
    case readyProbe => contradiction
    case tile =>
      dsimp only [accessed, tileRead] at same later
      split_ifs at same later
      · exact works (.inl (by rw [later]; rfl)) same
      · exact works (.inr later) same
    case rbCfg3 =>
      dsimp only [accessed] at same later
      split_ifs at same later
      · exact works (.inr later) same
      · exact works (.inl (by rw [later]; rfl)) same
    all_goals exact works (.inl (by rw [later]; rfl)) same

theorem reckons_step : Reckons s i (s.step p i) := by
  have later : (s.step p i).state = (s.act p i).state := rfl
  have same : (s.step p i).figures = (s.act p i).figures := rfl
  have division : (s.step p i).division = (s.act p i).division := rfl
  cases now : s.state <;> simp only [act, now] at later same division
  case idle =>
    have outside : s.state = .validate ∨ s.state = .finish ∨ s.state.serves = false := .inr (.inr (by rw [now]; rfl))
    dsimp only [idle, accept, answerAtOnce] at later same
    split_ifs at later same
    · exact .rests outside (by rw [later]; exact congrArg _ now) same
    · exact .rests outside (by rw [later]; exact congrArg _ now) same
    · exact .rests outside (by rw [later]; exact congrArg _ now) same
    · have request : (s.step p i).request = _ := congrArg Figures.request same
      refine .taken now later ?_ ?_
      · rw [request]
        exact wordsInRange_of_valid i.cmd
      · rw [same, request]
        rfl
    · exact .rests outside (by rw [later]; rfl) same
    · exact .rests outside (by rw [later]; exact congrArg _ now) same
  case validate =>
    unfold validate at later same
    split_ifs at later same with valid
    · exact .rests (.inl now) (by rw [later]; rfl) same
    · exact .opened now later (not_not.mp valid) same
  case select =>
    dsimp only [select] at later same
    split_ifs at later same with skipped last
    · exact .skips now (by simpa using skipped) (.inl ⟨last, later, same⟩)
    · exact .skips now (by simpa using skipped) (.inr ⟨last, later.trans now, same⟩)
    · exact .chosen now later (by simpa using skipped) same
  case ncoCalcInit => exact .setsUpNco now later same division
  case phaseCalcInit => exact .setsUpPhase now later same division
  case vopPrep =>
    dsimp only [vopPrep] at later same
    split_ifs at later same
    · exact .works (by rw [now]; rfl) (by rw [now]; rintro ⟨⟩) (.inl (by rw [later]; rfl)) same
    · exact .works (by rw [now]; rfl) (by rw [now]; rintro ⟨⟩) (.inl (by rw [later]; rfl)) same
  case calcStep d =>
    have divider : (s.step p i).divider = s.divider.step 66 19 := congrArg Prod.fst division
    have iteration : (s.step p i).calcIteration = if s.calcIteration = 0 then 0 else s.calcIteration - 1 :=
      congrArg (fun d => d.2.1) division
    have negative : (s.step p i).calcNegative = s.calcNegative := congrArg (fun d => d.2.2) division
    have counted : s.calcIteration = 0 ∧ (s.step p i).state = .calcDone d ∨
        s.calcIteration = (s.step p i).calcIteration + 1 ∧ (s.step p i).state = .calcStep d := by
      dsimp only [calcStep] at later
      split_ifs at later iteration with last
      · exact .inl ⟨last, later⟩
      · exact .inr ⟨by omega, later⟩
    cases d with
    | nco => exact .divides .nco (.inl rfl) now counted same divider negative
    | phase => exact .divides .phase (.inr rfl) now counted same divider negative
    | ramp | vopQuant =>
      refine .works (by rw [now]; rfl) (by rw [now]; rintro ⟨⟩) (.inl ?_) same
      obtain ⟨-, there⟩ | ⟨-, there⟩ := counted <;> rw [there] <;> rfl
  case calcDone d =>
    cases d
    case nco => exact .ncoWord now later same
    case phase => exact .phaseWord _ now later rfl same
    case ramp =>
      exact .works (by rw [now]; rfl) (by rw [now]; rintro ⟨⟩) (.inl (by rw [later]; rfl)) same
    case vopQuant =>
      refine .works (by rw [now]; rfl) (by rw [now]; rintro ⟨⟩) (.inl ?_) same
      dsimp only [calcDone] at later
      split_ifs at later <;> rw [later] <;> rfl
  case launch a =>
    by_cases probe : a = .readyProbe
    · subst probe
      exact .rests (.inr (.inr (by rw [now]; rfl))) (by rw [later]; rfl) same
    · refine .works ?_ (by rw [now]; rintro ⟨⟩) (.inl ?_) same
      · rw [now]
        revert probe
        cases a <;> decide
      · rw [later]
        change (RuntimeState.await a).inChannel = true
        revert probe
        cases a <;> decide
  case await a =>
    split_ifs at later same
    · by_cases probe : a = .readyProbe
      · subst probe
        have outside : s.state.serves = false := by rw [now]; rfl
        rw [finishAccess, if_neg (by simp)] at later same
        dsimp only [accessed, probed] at later same
        split_ifs at later same
        · exact .rests (.inr (.inr outside)) (by rw [later]; rfl) same
        · exact .rests (.inr (.inr outside)) (by rw [later]; rfl) same
      · exact reckons_finishAccess now probe same later
    · have stays : (s.step p i).state = s.state := later
      by_cases probe : a = .readyProbe
      · subst probe
        exact .rests (.inr (.inr (by rw [now]; rfl))) (by rw [stays, now]; rfl) same
      · have within : s.state.inChannel = true := by
          rw [now]
          revert probe
          cases a <;> decide
        exact .works within (by rw [now]; rintro ⟨⟩) (.inl (stays ▸ within)) same
  case vopQuantInit =>
    exact .works (by rw [now]; rfl) (by rw [now]; rintro ⟨⟩) (.inl (by rw [later]; rfl)) same
  case vopDelay =>
    unfold vopDelay at later same
    split_ifs at later same
    · exact .works (by rw [now]; rfl) (by rw [now]; rintro ⟨⟩) (.inl (by rw [later]; rfl)) same
    · exact .works (by rw [now]; rfl) (by rw [now]; rintro ⟨⟩) (.inl (by rw [later]; exact congrArg _ now)) same
  case channelDone =>
    dsimp only [channelDone] at later same
    by_cases last : s.channelIndex = 7
    · rw [if_pos last] at later same
      exact .staged now (.inl ⟨last, later, same⟩)
    · rw [if_neg last] at later same
      exact .staged now (.inr ⟨last, later, same⟩)
  case ncoCommitStart =>
    unfold ncoCommitStart at later same
    split_ifs at later same
    · exact .waits (.inl ⟨now, .inr later⟩) same
    · exact .waits (.inl ⟨now, .inl (later.trans now)⟩) same
  case ncoCommitWait =>
    unfold ncoCommitWait at later same
    split_ifs at later same with unfinished failed
    · exact .waits (.inr ⟨now, by simpa using unfinished, later.trans now⟩) same
    · exact .refused now (by simpa using unfinished) failed later same
    · exact .confirmed now (by simpa using unfinished) (not_not.mp failed) later same
  case finish => exact .rests (.inr (.inl now)) (by rw [later]; rfl) same

end RuntimeConfig

end Xczu47dr.Rfdc
