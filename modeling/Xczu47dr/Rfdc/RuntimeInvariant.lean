import Mathlib.Tactic.FinCases
import Xczu47dr.Rfdc.RuntimeConfig

/-! # The runtime controller keeps to its states

`busy` says whether the controller is idle, an AXI-Lite transaction is open in the
`_WAIT` states and only there, and the numbers of the current ramp stay in range, so
that every step of the ramp comes nearer to the selected current.
-/

namespace Xczu47dr.Rfdc

open Clocked Control

/-! ## The states in their order -/

/-- The accesses of an apply, the last one first. -/
def Access.order : Access → Nat
  | .readyProbe => 0
  | .rbCfg3 => 7
  | .rbCfg2 => 8
  | .rbCfg0 => 9
  | .vopUpdateWrite => 11
  | .vopUpdateRead => 12
  | .vopCfg3Write => 13
  | .vopCfg3Read => 14
  | .vopCfg2Write => 15
  | .vopCfg2Read => 16
  | .vopCfg0Write => 17
  | .vopCfg0Read => 18
  | .vopInit => 22
  | .vopCtrlWrite => 23
  | .vopCtrlRead => 24
  | .nyqWrite => 25
  | .nyqRead => 26
  | .tile => 27

/-- The state an access leads to when it succeeds and its check does. -/
def Access.next : Access → RuntimeState
  | .readyProbe => .idle
  | .tile => .launch .nyqRead
  | .nyqRead => .launch .nyqWrite
  | .nyqWrite => .launch .vopCtrlRead
  | .vopCtrlRead => .launch .vopCtrlWrite
  | .vopCtrlWrite => .launch .vopInit
  | .vopInit => .vopPrep
  | .vopCfg0Read => .launch .vopCfg0Write
  | .vopCfg0Write => .launch .vopCfg2Read
  | .vopCfg2Read => .launch .vopCfg2Write
  | .vopCfg2Write => .launch .vopCfg3Read
  | .vopCfg3Read => .launch .vopCfg3Write
  | .vopCfg3Write => .launch .vopUpdateRead
  | .vopUpdateRead => .launch .vopUpdateWrite
  | .vopUpdateWrite => .vopDelay
  | .rbCfg0 => .launch .rbCfg2
  | .rbCfg2 => .launch .rbCfg3
  | .rbCfg3 => .channelDone

namespace RuntimeState

/-- How far from the end of an apply a state is; only the next channel and the next
    step of the ramp lead back. -/
def rank : RuntimeState → Nat
  | .idle => 0
  | .finish => 1
  | .ncoCommitWait => 2
  | .ncoCommitStart => 3
  | .channelDone => 12
  | .vopDelay => 20
  | .calcDone .vopQuant => 38
  | .calcStep .vopQuant => 39
  | .vopQuantInit => 40
  | .calcDone .ramp => 41
  | .calcStep .ramp => 42
  | .vopPrep => 43
  | .calcDone .phase => 56
  | .calcStep .phase => 57
  | .phaseCalcInit => 58
  | .calcDone .nco => 59
  | .calcStep .nco => 60
  | .ncoCalcInit => 61
  | .select => 62
  | .validate => 63
  | .await a => 2 * a.order
  | .launch a => 2 * a.order + 1

def serves : RuntimeState → Bool
  | .idle | .launch .readyProbe | .await .readyProbe => false
  | _ => true

/-- The parts of an apply: from the validation on, of a channel, of the ramp, of a step
    of the ramp from the quantization and from the first write on, and what follows the
    ramp. -/
def part (state : RuntimeState) : Nat :=
  if state.rank < 20 then 0
  else if state.rank < 38 then 1
  else if state.rank < 41 then 2
  else if state.rank < 44 then 3
  else if state.rank < 62 then 4
  else 5

end RuntimeState

namespace RuntimeConfig

variable {p : RuntimeParams} {s t : RuntimeConfig} {i : RuntimeIn}

/-! ## The AXI-Lite port and `busy` -/

/-- An access is under way in the `_WAIT` states only. -/
structure Ported (p : RuntimeParams) (s : RuntimeConfig) : Prop where
  busy : s.busy = decide (s.state ≠ .idle)
  opened : ∀ a, s.state = .await a → s.transaction.Open p.axiTimeoutCycles s.axi
  quiet : (∀ a, s.state ≠ .await a) → s.transaction.Quiet s.axi

/-- What the state machine does to the AXI-Lite port and to `busy`. -/
inductive Acts (s t : RuntimeConfig) : Prop
  | launches (a : Access) : s.state = .launch a → t.state = .await a → t.axi.start = true →
      t.busy = s.busy → Acts s t
  | awaits (a : Access) : s.state = .await a → t.state = .await a → s.transaction.done = false →
      t.axi.start = false → t.busy = s.busy → Acts s t
  | leaves : (∀ a, t.state ≠ .await a) → (∀ a, s.state = .await a → s.transaction.done = true) →
      t.axi.start = false → t.busy = decide (t.state ≠ .idle) → Acts s t

/-- A state outside the accesses goes on to another one. -/
theorem Acts.moves {state : RuntimeState} (now : s.state = state) (outside : ∀ a, state ≠ .await a)
    (later : ∀ a, t.state ≠ .await a) (start : t.axi.start = false)
    (busy : t.busy = decide (t.state ≠ .idle)) : Acts s t :=
  .leaves later (fun a there => absurd (now.symm.trans there) (outside a)) start busy

theorem Acts.stays {state : RuntimeState} (now : s.state = state) (outside : ∀ a, state ≠ .await a)
    (same : t.state = s.state) (start : t.axi.start = false) (busy : t.busy = decide (state ≠ .idle)) :
    Acts s t :=
  .moves now outside (fun a there => outside a (now.symm.trans (same.symm.trans there))) start
    (by rw [same, now]; exact busy)

theorem acts_finishAccess {a : Access} (now : s.state = .await a) (busy : s.busy = true)
    (done : s.transaction.done = true) : Acts s (s.finishAccess p s.clearPulses a) := by
  have leaves {t : RuntimeConfig} (later : ∀ a, t.state ≠ .await a) (start : t.axi.start = false)
      (busy : t.busy = decide (t.state ≠ .idle)) : Acts s t := .leaves later (fun _ _ => done) start busy
  unfold finishAccess
  refine iteInduction (motive := Acts s) (fun _ => leaves (by rintro _ ⟨⟩) rfl busy) fun _ => ?_
  cases a
  case readyProbe =>
    dsimp only [accessed, probed]
    split_ifs
    · exact leaves (by rintro _ ⟨⟩) rfl rfl
    · exact leaves (by rintro _ ⟨⟩) rfl busy
  case tile =>
    dsimp only [accessed, tileRead]
    split_ifs <;> exact leaves (by rintro _ ⟨⟩) rfl busy
  case rbCfg3 =>
    dsimp only [accessed]
    split_ifs <;> exact leaves (by rintro _ ⟨⟩) rfl busy
  all_goals exact leaves (by rintro _ ⟨⟩) rfl busy

theorem acts (held : Ported p s) : Acts s (s.act p i) := by
  have busy := held.busy
  cases now : s.state <;> rw [now] at busy <;> simp only [act, now]
  case idle =>
    unfold idle accept answerAtOnce
    split_ifs
    · exact .stays now (by rintro _ ⟨⟩) rfl rfl rfl
    · exact .stays now (by rintro _ ⟨⟩) rfl rfl rfl
    · exact .stays now (by rintro _ ⟨⟩) rfl rfl rfl
    · exact .moves now (by rintro _ ⟨⟩) (by rintro _ ⟨⟩) rfl rfl
    · exact .moves now (by rintro _ ⟨⟩) (by rintro _ ⟨⟩) rfl rfl
    · exact .stays now (by rintro _ ⟨⟩) rfl rfl rfl
  case validate =>
    unfold validate
    split_ifs
    · exact .moves now (by rintro _ ⟨⟩) (by rintro _ ⟨⟩) rfl rfl
    · exact .moves now (by rintro _ ⟨⟩) (by rintro _ ⟨⟩) rfl busy
  case select =>
    dsimp only [select]
    split_ifs
    · exact .moves now (by rintro _ ⟨⟩) (by rintro _ ⟨⟩) rfl busy
    · exact .stays now (by rintro _ ⟨⟩) rfl rfl busy
    · exact .moves now (by rintro _ ⟨⟩) (by rintro _ ⟨⟩) rfl busy
  case vopPrep =>
    dsimp only [vopPrep]
    split_ifs <;> exact .moves now (by rintro _ ⟨⟩) (by rintro _ ⟨⟩) rfl busy
  case calcStep d =>
    dsimp only [calcStep]
    split_ifs <;> exact .moves now (by rintro _ ⟨⟩) (by rintro _ ⟨⟩) rfl busy
  case calcDone d =>
    cases d
    case vopQuant =>
      dsimp only [calcDone]
      split_ifs <;> exact .moves now (by rintro _ ⟨⟩) (by rintro _ ⟨⟩) rfl busy
    all_goals exact .moves now (by rintro _ ⟨⟩) (by rintro _ ⟨⟩) rfl busy
  case launch a => exact .launches a now rfl (by cases a <;> rfl) rfl
  case await a =>
    by_cases done : s.transaction.done = true
    · rw [if_pos done]
      exact acts_finishAccess now busy done
    · rw [if_neg done]
      exact .awaits a now now (Bool.not_eq_true _ ▸ done) rfl rfl
  case vopDelay =>
    unfold vopDelay
    split_ifs
    · exact .moves now (by rintro _ ⟨⟩) (by rintro _ ⟨⟩) rfl busy
    · exact .stays now (by rintro _ ⟨⟩) rfl rfl busy
  case channelDone =>
    dsimp only [channelDone]
    split_ifs <;> exact .moves now (by rintro _ ⟨⟩) (by rintro _ ⟨⟩) rfl busy
  case ncoCommitStart =>
    unfold ncoCommitStart
    split_ifs
    · exact .moves now (by rintro _ ⟨⟩) (by rintro _ ⟨⟩) rfl busy
    · exact .stays now (by rintro _ ⟨⟩) rfl rfl busy
  case ncoCommitWait =>
    unfold ncoCommitWait
    split_ifs
    · exact .stays now (by rintro _ ⟨⟩) rfl rfl busy
    · exact .moves now (by rintro _ ⟨⟩) (by rintro _ ⟨⟩) rfl busy
    · exact .moves now (by rintro _ ⟨⟩) (by rintro _ ⟨⟩) rfl busy
  case finish => exact .moves now (by rintro _ ⟨⟩) (by rintro _ ⟨⟩) rfl rfl
  all_goals exact .moves now (by rintro _ ⟨⟩) (by rintro _ ⟨⟩) rfl busy

theorem ported_reset : Ported p (reset p) :=
  ⟨rfl, nofun, fun _ => ⟨rfl, rfl, rfl⟩⟩

theorem ported_step (held : Ported p s) : Ported p (s.step p i) := by
  have same : (s.step p i).axi = (s.act p i).axi := rfl
  obtain ⟨a, now, later, start, busy⟩ | ⟨a, now, later, unfinished, start, busy⟩ |
    ⟨later, ended, start, busy⟩ := acts (i := i) held
  · have quiet := held.quiet (by simp [now])
    obtain ⟨free, fresh⟩ := quiet.step p.axiTimeoutCycles i.axil
    refine ⟨?_, fun _ _ => .asked start free fresh, fun outside => absurd later (outside a)⟩
    change (s.act p i).busy = decide ((s.act p i).state ≠ .idle)
    rw [busy, later, held.busy, now]
    rfl
  · have goesOn := ((held.opened a now).step (d := (s.act p i).axi) i.axil unfinished p.timeout_pos
      p.timeout_lt start).1
    refine ⟨?_, fun _ _ => goesOn, fun outside => absurd later (outside a)⟩
    change (s.act p i).busy = decide ((s.act p i).state ≠ .idle)
    rw [busy, later, held.busy, now]
  · refine ⟨busy, fun a there => absurd there (later a), fun _ => ?_⟩
    by_cases awaits : ∃ a, s.state = .await a
    · obtain ⟨a, now⟩ := awaits
      obtain ⟨free, fresh⟩ := (held.opened a now).step_over i.axil (ended a now)
      exact ⟨start, free, fresh⟩
    · obtain ⟨free, fresh⟩ := (held.quiet (not_exists.mp awaits)).step p.axiTimeoutCycles i.axil
      exact ⟨start, free, fresh⟩

/-! ## What an apply works with -/

/-- Every channel of the request has a current in range. -/
def InRange (r : RuntimeRequest) : Prop :=
  ∀ c : Fin 8, r.mask.getLsbD c = true → 2250 ≤ (r.current c).toNat ∧ (r.current c).toNat ≤ 40500

/-- The registers the progress of an apply depends on, beside the state. -/
structure Course where
  request : RuntimeRequest
  channelIndex : Fin 8
  selectedUa : Nat
  rampCurrentUa : Nat
  rampNextUa : Nat
  vopReadbackOnly : Bool

def course (s : RuntimeConfig) : Course where
  request := s.request
  channelIndex := s.channelIndex
  selectedUa := s.selected.currentUa
  rampCurrentUa := s.rampCurrentUa
  rampNextUa := s.rampNextUa
  vopReadbackOnly := s.vopReadbackOnly

def lasting (p : RuntimeParams) (s : RuntimeConfig) : Nat :=
  match s.state with
  | .calcStep _ => s.calcIteration
  | .await _ => s.transaction.left p.axiTimeoutCycles s.axi
  | .vopDelay => s.delayCount
  | _ => 0

/-- The states `t` may be in after the state `s` when the course stays as it is. -/
structure Follows (s t : RuntimeState) : Prop where
  serves : s.serves = true ∧ s ≠ .validate
  still : t.serves = true
  lower : t.rank < s.rank
  part : t.part = 0 ∨ t.part = s.part
  apart : t ≠ .calcStep .ramp ∧ t ≠ .calcDone .ramp

instance (s t : RuntimeState) : Decidable (Follows s t) :=
  decidable_of_iff (_ ∧ _ ∧ _ ∧ _ ∧ _) ⟨fun ⟨a, b, c, d, e⟩ => ⟨a, b, c, d, e⟩, fun ⟨a, b, c, d, e⟩ => ⟨a, b, c, d, e⟩⟩

/-- What one clock edge does to an apply. -/
inductive Moves (p : RuntimeParams) (s : RuntimeConfig) (i : RuntimeIn) (t : RuntimeConfig) : Prop
  | outside : s.state = .validate ∨ s.state = .finish ∨ s.state.serves = false → t.state.serves = false →
      Moves p s i t
  | taken : s.state = .idle → t.state = .validate →
      (t.request.validationErrorMask = 0 → InRange t.request) → Moves p s i t
  | opened : s.state = .validate → t.state = .select → s.request.validationErrorMask = 0 →
      t.request = s.request → Moves p s i t
  | skips : s.state = .select ∨ s.state = .channelDone → t.state = .select → t.request = s.request →
      t.channelIndex.val = s.channelIndex.val + 1 → Moves p s i t
  | chosen : s.state = .select → t.state = .ncoCalcInit → s.request.mask.getLsbD s.channelIndex = true →
      t.course = { s.course with selectedUa := (s.request.current s.channelIndex).toNat } → Moves p s i t
  | follows : Follows s.state t.state → t.course = s.course → Moves p s i t
  | counts : s.state.serves = true ∧ s.state ≠ .validate ∧ s.state ≠ .calcStep .ramp →
      t.state = s.state → t.course = s.course → t.lasting p < s.lasting p → Moves p s i t
  | waits : s.state = .ncoCommitStart ∧ i.ncoCommitBusy = true ∨
      s.state = .ncoCommitWait ∧ i.ncoCommitDone = false →
      t.state = s.state → t.course = s.course → Moves p s i t
  | begins (current : Nat) : s.state = .await .vopInit → t.state = .vopPrep → 1400 ≤ current →
      current ≤ 46156 → t.course = { s.course with rampCurrentUa := current } → Moves p s i t
  | divides : s.state = .vopPrep → t.state = .calcStep .ramp → s.rampCurrentUa ≠ s.selected.currentUa →
      t.rampUp = decide (s.rampCurrentUa < s.selected.currentUa) → t.calcIteration = 15 →
      t.divider = ⟨s.rampCurrentUa % 2 ^ 16 * 2 ^ 50, 0, 0, 10⟩ →
      t.course = { s.course with vopReadbackOnly := false } → Moves p s i t
  | arrived : s.state = .vopPrep → t.state = .vopQuantInit →
      t.course = { s.course with vopReadbackOnly := true } → Moves p s i t
  | divided : s.state = .calcStep .ramp → t.divider = s.divider.step 66 19 → t.rampUp = s.rampUp →
      (s.calcIteration = 0 ∧ t.state = .calcDone .ramp ∨
        s.calcIteration = t.calcIteration + 1 ∧ t.state = .calcStep .ramp) →
      t.course = s.course → Moves p s i t
  | chooses : s.state = .calcDone .ramp → t.state = .vopQuantInit →
      t.course = { s.course with rampNextUa := s.rampNext } → Moves p s i t
  | ramps : s.state = .vopDelay → t.state = .vopPrep →
      t.course = { s.course with rampCurrentUa := s.rampNextUa } → Moves p s i t
  | writes : s.state = .calcDone .vopQuant → t.state = .launch .vopCfg0Read → s.vopReadbackOnly = false →
      t.course = s.course → Moves p s i t

theorem getLsbD_maskOf (f : Fin 8 → Bool) (r : Fin 8) : (maskOf f).getLsbD r = f r := by
  rw [maskOf, BitVec.getLsbD_setWidth, BitVec.getLsbD_ofBoolListLE]
  fin_cases r <;> simp

/-- A request without validation errors is in range. -/
theorem inRange_of_valid (cmd : Control.RfdcRequest) (valid : validationErrorMask cmd = 0) (c : Fin 8)
    (selected : cmd.channelMask.getLsbD c = true) :
    2250 ≤ (cmd.currentUa c).toNat ∧ (cmd.currentUa c).toNat ≤ 40500 := by
  have fine : (cmd.channelMask.getLsbD c && outOfRange cmd c) = false := by
    rw [← getLsbD_maskOf (fun r => cmd.channelMask.getLsbD r && outOfRange cmd r) c]
    exact (congrArg (BitVec.getLsbD · c) valid).trans (BitVec.getLsbD_zero ..)
  simp only [selected, Bool.true_and, outOfRange, Bool.or_eq_false_iff, decide_eq_false_iff_not, not_lt] at fine
  obtain ⟨⟨-, low⟩, high⟩ := fine
  unfold currentRange at low high
  split at low <;> simp_all
  omega

theorem moves_finishAccess {a : Access} (now : s.state = .await a) (apply : a ≠ .readyProbe)
    (same : t.course = (s.finishAccess p s.clearPulses a).course)
    (later : t.state = (s.finishAccess p s.clearPulses a).state) : Moves p s i t := by
  have fails (there : t.state = .finish) (kept : t.course = s.course) : Moves p s i t := by
    refine .follows ?_ kept
    rw [now, there]
    revert apply
    cases a <;> decide
  have passes (middle : a ≠ .vopInit) (there : t.state = a.next) (kept : t.course = s.course) :
      Moves p s i t := by
    refine .follows ?_ kept
    rw [now, there]
    revert apply middle
    cases a <;> decide
  unfold finishAccess at same later
  split_ifs at same later
  · exact fails later same
  · cases a
    case readyProbe => contradiction
    case tile =>
      dsimp only [accessed, tileRead] at same later
      split_ifs at same later
      · exact passes nofun later same
      · exact fails later same
    case rbCfg3 =>
      dsimp only [accessed] at same later
      split_ifs at same later
      · exact fails later same
      · exact passes nofun later same
    case vopInit =>
      refine .begins _ now later (Nat.le_add_right _ _) ?_ same
      have short := (s.readHalf.extractLsb' 6 10).isLt
      omega
    all_goals exact passes nofun later same

/-- The course stays as it is, and the state becomes `v`. -/
theorem Moves.through {u : RuntimeState} (v : RuntimeState) (now : s.state = u) (there : t.state = v)
    (after : Follows u v) (kept : t.course = s.course) : Moves p s i t :=
  .follows (now ▸ there ▸ after) kept

theorem channel_next {c : Fin 8} (more : c ≠ 7) : (c + 1).val = c.val + 1 := by
  revert c
  decide

theorem moves_step (held : Ported p s) : Moves p s i (s.step p i) := by
  have later : (s.step p i).state = (s.act p i).state := rfl
  have same : (s.step p i).course = (s.act p i).course := rfl
  cases now : s.state <;> simp only [act, now] at later same
  case idle =>
    have outside (there : (s.step p i).state.serves = false) : Moves p s i (s.step p i) :=
      .outside (.inr (.inr (by rw [now]; rfl))) there
    dsimp only [idle, accept, answerAtOnce] at later same
    split_ifs at later same
    · exact outside (by rw [later]; exact congrArg _ now)
    · exact outside (by rw [later]; exact congrArg _ now)
    · exact outside (by rw [later]; exact congrArg _ now)
    · refine .taken now later ?_
      rw [show (s.step p i).request = _ from congrArg Course.request same]
      exact inRange_of_valid i.cmd
    · exact outside (by rw [later]; rfl)
    · exact outside (by rw [later]; exact congrArg _ now)
  case validate =>
    unfold validate at later same
    split_ifs at later same with valid
    · exact .outside (.inl now) (by rw [later]; rfl)
    · exact .opened now later (not_not.mp valid) (congrArg Course.request same)
  case select =>
    dsimp only [select] at later same
    split_ifs at later same with skipped last
    · exact .through .ncoCommitStart now later (by decide) same
    · have next : (s.step p i).channelIndex = s.channelIndex + 1 := congrArg Course.channelIndex same
      refine .skips (.inl now) (later.trans now) (congrArg Course.request same) ?_
      rw [next, channel_next last]
    · exact .chosen now later (by simpa using skipped) same
  case ncoCalcInit => exact .through (.calcStep .nco) now later (by decide) same
  case phaseCalcInit => exact .through (.calcStep .phase) now later (by decide) same
  case vopPrep =>
    have divider : (s.step p i).divider = (s.act p i).divider := rfl
    have iteration : (s.step p i).calcIteration = (s.act p i).calcIteration := rfl
    have up : (s.step p i).rampUp = (s.act p i).rampUp := rfl
    simp only [act, now] at divider iteration up
    dsimp only [vopPrep] at later same divider iteration up
    split_ifs at later same divider iteration up with arrived
    · exact .arrived now later same
    · exact .divides now later arrived up iteration divider same
  case vopQuantInit => exact .through (.calcStep .vopQuant) now later (by decide) same
  case calcStep d =>
    have divider : (s.step p i).divider = (s.act p i).divider := rfl
    have iteration : (s.step p i).calcIteration = (s.act p i).calcIteration := rfl
    have up : (s.step p i).rampUp = (s.act p i).rampUp := rfl
    simp only [act, now] at divider iteration up
    dsimp only [calcStep] at later same divider iteration up
    split_ifs at later iteration with last
    · cases d with
      | ramp => exact .divided now divider up (.inl ⟨last, later⟩) same
      | nco => exact .through (.calcDone .nco) now later (by decide) same
      | phase => exact .through (.calcDone .phase) now later (by decide) same
      | vopQuant => exact .through (.calcDone .vopQuant) now later (by decide) same
    · by_cases ramp : d = .ramp
      · subst ramp
        exact .divided now divider up (.inr ⟨by omega, later⟩) same
      · refine .counts ⟨by rw [now]; rfl, by simp [now], by simpa [now] using ramp⟩ (later.trans now.symm) same ?_
        simp only [lasting, later, now, iteration]
        omega
  case calcDone d =>
    cases d
    case nco => exact .through .phaseCalcInit now later (by decide) same
    case phase => exact .through (.launch .tile) now later (by decide) same
    case ramp => exact .chooses now later same
    case vopQuant =>
      dsimp only [calcDone] at later same
      split_ifs at later with readback
      · exact .through (.launch .rbCfg0) now later (by decide) same
      · exact .writes now later (by simpa using readback) same
  case launch a =>
    by_cases probe : a = .readyProbe
    · subst probe
      exact .outside (.inr (.inr (by rw [now]; rfl))) (by rw [later]; rfl)
    · refine .through (.await a) now later ?_ same
      revert probe
      cases a <;> decide
  case await a =>
    split_ifs at later same with done
    · by_cases probe : a = .readyProbe
      · subst probe
        refine .outside (.inr (.inr (by rw [now]; rfl))) ?_
        rw [later, finishAccess, if_neg (by simp)]
        dsimp only [accessed, probed]
        split_ifs <;> rfl
      · exact moves_finishAccess now probe same later
    · have start : (s.act p i).axi.start = false := by simp [act, now, done, clearPulses]
      have nearer := ((held.opened a now).step (d := (s.act p i).axi) i.axil
        (Bool.not_eq_true _ ▸ done) p.timeout_pos p.timeout_lt start).2
      by_cases probe : a = .readyProbe
      · subst probe
        exact .outside (.inr (.inr (by rw [now]; rfl))) (by rw [later, clearPulses, now]; rfl)
      · refine .counts ⟨?_, by simp [now], by simp [now]⟩ (later.trans rfl) same ?_
        · rw [now]
          revert probe
          cases a <;> decide
        · rw [lasting, lasting, now, show (s.step p i).state = .await a from later.trans now]
          exact nearer
  case vopDelay =>
    unfold vopDelay at later same
    split_ifs at later same with ended
    · exact .ramps now later same
    · have count : (s.step p i).delayCount = (s.act p i).delayCount := rfl
      simp only [act, now, vopDelay, if_neg ended] at count
      refine .counts ⟨by rw [now]; rfl, by simp [now], by simp [now]⟩ (later.trans rfl) same ?_
      rw [lasting, lasting, now, show (s.step p i).state = .vopDelay from later.trans now]
      dsimp only
      omega
  case channelDone =>
    dsimp only [channelDone] at later same
    by_cases last : s.channelIndex = 7
    · rw [if_pos last] at later same
      exact .through .ncoCommitStart now later (by decide) same
    · rw [if_neg last] at later same
      have next : (s.step p i).channelIndex = s.channelIndex + 1 := congrArg Course.channelIndex same
      refine .skips (.inr now) later (congrArg Course.request same) ?_
      rw [next, channel_next last]
  case ncoCommitStart =>
    unfold ncoCommitStart at later same
    split_ifs at later same with free
    · exact .through .ncoCommitWait now later (by decide) same
    · exact .waits (.inl ⟨now, by simpa using free⟩) (later.trans rfl) same
  case ncoCommitWait =>
    unfold ncoCommitWait at later same
    split_ifs at later same with unfinished failed
    · exact .waits (.inr ⟨now, by simpa using unfinished⟩) (later.trans rfl) same
    · exact .through .finish now later (by decide) same
    · exact .through .finish now later (by decide) same
  case finish => exact .outside (.inr (.inl now)) (by rw [later]; rfl)

end RuntimeConfig

end Xczu47dr.Rfdc
