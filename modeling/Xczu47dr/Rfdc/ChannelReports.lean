import Xczu47dr.Rfdc.CommittedWords

/-! # What is reported of a channel

An apply stages one report after the other and makes them the actual ones together.
Every report it stages is the one its request asks for.
-/

namespace Xczu47dr.Rfdc

open Clocked

/-- What is reported of one channel. -/
structure ChannelReport where
  ncoHz : BitVec 64
  nyquistZone : BitVec 2
  phaseMdeg : BitVec 32
  currentUa : BitVec 32
  ncoWord : BitVec 64
  phaseWord : BitVec 32
  vopCode : BitVec 32
  deriving DecidableEq

def Actual.channel (a : Actual) (c : Fin 8) : ChannelReport :=
  ⟨a.ncoHz c, a.nyquistZone c, a.phaseMdeg c, a.currentUa c, a.ncoWord c, a.phaseWord c, a.vopCode c⟩

/-- The report a request asks for: its own values, the words of its frequency and its phase, the
    code of its current, and the current of that code. -/
def RuntimeRequest.report (r : RuntimeRequest) (c : Fin 8) : ChannelReport where
  ncoHz := r.ncoHz c
  nyquistZone := r.zone c
  phaseMdeg := r.phase c
  currentUa := BitVec.ofNat 32 (1400 + codeOf (r.current c).toNat * 175 / 4)
  ncoWord := 0#16 ++ ncoWordOf (r.ncoHz c)
  phaseWord := 0#14 ++ phaseWordOf (r.phase c)
  vopCode := BitVec.ofNat 32 (codeOf (r.current c).toNat)

/-- Every channel of the request has one of the two zones. -/
def ZonesInRange (r : RuntimeRequest) : Prop :=
  ∀ c : Fin 8, r.mask.getLsbD c = true → r.zone c = 1 ∨ r.zone c = 2

def RuntimeState.next : RuntimeState → List RuntimeState
  | .idle => [.idle, .validate, .launch .readyProbe]
  | .validate => [.idle, .select]
  | .select => [.select, .ncoCalcInit, .ncoCommitStart]
  | .ncoCalcInit => [.calcStep .nco]
  | .phaseCalcInit => [.calcStep .phase]
  | .vopPrep => [.calcStep .ramp, .vopQuantInit]
  | .vopQuantInit => [.calcStep .vopQuant]
  | .calcStep d => [.calcStep d, .calcDone d]
  | .calcDone .nco => [.phaseCalcInit]
  | .calcDone .phase => [.launch .tile]
  | .calcDone .ramp => [.vopQuantInit]
  | .calcDone .vopQuant => [.launch .rbCfg0, .launch .vopCfg0Read]
  | .launch a => [.await a]
  | .await .readyProbe => [.await .readyProbe, .idle, .launch .readyProbe]
  | .await a => [.await a, a.next, .finish]
  | .vopDelay => [.vopDelay, .vopPrep]
  | .channelDone => [.select, .ncoCommitStart]
  | .ncoCommitStart => [.ncoCommitStart, .ncoCommitWait]
  | .ncoCommitWait => [.ncoCommitWait, .finish]
  | .finish => [.idle]

def Figures.selection (f : Figures) : Selected where
  blockBase := channelBlockBase f.channelIndex
  tileBase := channelTileBase f.channelIndex
  ncoHz := f.request.ncoHz f.channelIndex
  phaseMdeg := f.request.phase f.channelIndex
  currentUa := (f.request.current f.channelIndex).toNat
  zone := f.request.zone f.channelIndex

/-- The reports of an apply that is at work. -/
structure Reported (state : RuntimeState) (f : Figures) : Prop where
  zones : ZonesInRange f.request
  staged : f.staged.channel = f.request.pick f.request.report f.actual.channel (stagedSet state f.channelIndex)
  selected : 12 ≤ state.rank → state.rank < 62 → f.selected = f.selection

/-- From one state of a channel to a later one. -/
theorem Reported.follows {u v : RuntimeState} {f g : Figures} (held : Reported u f)
    (apart : 3 < u.rank ∧ 3 < v.rank) (request : g.request = f.request) (actual : g.actual = f.actual)
    (staged : g.staged = f.staged) (index : g.channelIndex = f.channelIndex)
    (selected : 12 ≤ v.rank → v.rank < 62 → g.selected = f.selection) : Reported v g where
  zones := request ▸ held.zones
  staged := by
    rw [staged, held.staged, request, actual, index, stagedSet_apart apart]
  selected low high := by
    rw [selected low high, Figures.selection, Figures.selection, request, index]

namespace RuntimeConfig

variable {p : RuntimeParams} {s t : RuntimeConfig} {i : RuntimeIn}

/-- The report `S_CHANNEL_DONE` stages. -/
def report (s : RuntimeConfig) : ChannelReport where
  ncoHz := s.selected.ncoHz
  nyquistZone := if s.readbackCfg0 &&& nyquistMask ≠ 0 then 2 else 1
  phaseMdeg := s.selected.phaseMdeg
  currentUa := 1400 + s.vopCurrentScaled >>> 2
  ncoWord := 0#16 ++ s.expectedNcoWord
  phaseWord := 0#14 ++ s.expectedPhaseWord
  vopCode := 0#16 ++ s.vopCode

theorem stagedChannel_channel (s : RuntimeConfig) :
    s.stagedChannel.channel = Function.update s.staged.channel s.channelIndex s.report := by
  funext c
  by_cases here : c = s.channelIndex
  · subst here
    simp only [Actual.channel, stagedChannel, report, Function.update_self]
  · simp only [Actual.channel, stagedChannel, Function.update_of_ne here]

/-- A request without validation errors has its zones in range. -/
theorem zonesInRange_of_valid (cmd : Control.RfdcRequest) (valid : validationErrorMask cmd = 0) (c : Fin 8)
    (selected : cmd.channelMask.getLsbD c = true) : cmd.nyquistZone c = 1 ∨ cmd.nyquistZone c = 2 := by
  have fine : (cmd.channelMask.getLsbD c && outOfRange cmd c) = false := by
    rw [← getLsbD_maskOf (fun r => cmd.channelMask.getLsbD r && outOfRange cmd r) c]
    exact (congrArg (BitVec.getLsbD · c) valid).trans (BitVec.getLsbD_zero ..)
  simp only [selected, Bool.true_and, outOfRange, Bool.or_eq_false_iff] at fine
  obtain ⟨⟨⟨⟨⟨-, zone⟩, -⟩, -⟩, -⟩, -⟩ := fine
  by_contra other
  rw [not_or] at other
  rw [bne_iff_ne.mpr other.1, bne_iff_ne.mpr other.2] at zone
  contradiction

/-! ## The end of a channel -/

theorem finishAccess_next {a : Access} :
    (s.finishAccess p s.clearPulses a).state ∈ (RuntimeState.await a).next := by
  unfold finishAccess
  split_ifs with failed
  · obtain ⟨apply, -⟩ := failed
    revert apply
    cases a <;> simp [RuntimeState.next, failTransaction]
  · cases a
    case readyProbe =>
      dsimp only [accessed, probed]
      split_ifs <;> simp [RuntimeState.next]
    case tile =>
      dsimp only [accessed, tileRead, failCheck]
      split_ifs <;> simp [RuntimeState.next, Access.next]
    case rbCfg3 =>
      dsimp only [accessed, failCheck]
      split_ifs <;> simp [RuntimeState.next, Access.next]
    all_goals simp [accessed, RuntimeState.next, Access.next]

theorem step_next : (s.step p i).state ∈ s.state.next := by
  change (s.act p i).state ∈ s.state.next
  have stays : s.clearPulses.state = s.state := rfl
  cases now : s.state <;> rw [now] at stays <;> simp only [act, now]
  case idle =>
    dsimp only [idle, accept, answerAtOnce]
    split_ifs <;> simp [stays, RuntimeState.next]
  case validate =>
    unfold validate
    split_ifs <;> simp [RuntimeState.next]
  case select =>
    dsimp only [select]
    split_ifs <;> simp [stays, RuntimeState.next]
  case vopPrep =>
    dsimp only [vopPrep, divide]
    split_ifs <;> simp [RuntimeState.next]
  case calcStep d =>
    dsimp only [calcStep]
    split_ifs <;> simp [RuntimeState.next]
  case calcDone d =>
    cases d
    case vopQuant =>
      dsimp only [calcDone]
      split_ifs <;> simp [RuntimeState.next]
    all_goals simp [calcDone, RuntimeState.next]
  case await a =>
    split_ifs
    · exact finishAccess_next
    · rw [stays]
      cases a <;> simp [RuntimeState.next]
  case vopDelay =>
    unfold vopDelay
    split_ifs <;> simp [stays, RuntimeState.next]
  case channelDone =>
    dsimp only [channelDone]
    split_ifs <;> simp [RuntimeState.next]
  case ncoCommitStart =>
    unfold ncoCommitStart
    split_ifs <;> simp [stays, RuntimeState.next]
  case ncoCommitWait =>
    unfold ncoCommitWait
    split_ifs <;> simp [stays, RuntimeState.next]
  all_goals simp [ncoCalcInit, phaseCalcInit, vopQuantInit, divide, launch, finish, RuntimeState.next]

theorem access_next_ne (a : Access) : a.next ≠ .await a ∧ a.next ≠ .finish := by
  cases a <;> exact ⟨nofun, nofun⟩

/-- Only an access that has succeeded leads to the next state. -/
theorem access_passed {a : Access} (now : s.state = .await a) (apply : a ≠ .readyProbe)
    (later : (s.step p i).state = a.next) : s.transaction.done = true ∧ s.transaction.error = 0 ∧
      s.act p i = s.accessed p s.clearPulses a := by
  change (s.act p i).state = a.next at later
  simp only [act, now] at later ⊢
  by_cases done : s.transaction.done = true
  · rw [if_pos done] at later ⊢
    rw [finishAccess] at later ⊢
    by_cases fine : s.transaction.error = 0
    · exact ⟨done, fine, if_neg fun failed => failed.2 fine⟩
    · rw [if_pos ⟨apply, fine⟩] at later
      exact absurd later.symm (access_next_ne a).2
  · rw [if_neg done] at later
    exact absurd (later.symm.trans now) (access_next_ne a).1

/-- A channel is done when its readback shows what was written. -/
theorem channel_ends (later : (s.step p i).state = .channelDone) :
    s.state = .await .rbCfg3 ∧ s.readbackWrong = false ∧ (s.step p i).readbackCfg0 = s.readbackCfg0 ∧
      (s.step p i).selected = s.selected ∧
        (s.step p i).vopCurrentScaled = (s.step p i).vopCode.zeroExtend 32 * 175 := by
  have leads : RuntimeState.channelDone ∈ s.state.next := later ▸ step_next
  have now : s.state = .await .rbCfg3 := by
    revert leads
    cases s.state with
    | calcDone d => cases d <;> decide
    | calcStep d => cases d <;> decide
    | launch a | await a => cases a <;> decide
    | _ => decide
  obtain ⟨-, -, acts⟩ := access_passed now nofun later
  change (s.act p i).state = .channelDone at later
  change s.state = _ ∧ _ ∧ (s.act p i).readbackCfg0 = _ ∧ (s.act p i).selected = _ ∧
    (s.act p i).vopCurrentScaled = (s.act p i).vopCode.zeroExtend 32 * 175
  rw [acts] at later ⊢
  dsimp only [accessed] at later ⊢
  split_ifs at later ⊢ with wrong
  · exact absurd later nofun
  · exact ⟨now, by simpa using wrong, rfl, rfl, rfl⟩

/-! ## The reports of an apply -/

/-- What the reports are made of, in every reachable state. -/
structure Reporting (s : RuntimeConfig) : Prop where
  validated : s.state = .validate → s.request.validationErrorMask = 0 → ZonesInRange s.request
  reported : 2 ≤ s.state.rank → s.state.rank < 63 → Reported s.state s.figures
  readback : 12 ≤ s.state.rank → s.state.rank < 20 → s.vopReadbackOnly = true
  shown : s.state = .channelDone →
    s.readbackCfg0 &&& nyquistMask = (if s.selected.zone = 2 then nyquistMask else 0) ∧
      s.vopCurrentScaled = s.vopCode.zeroExtend 32 * 175

/-- The report that is staged is the one the request asks for. -/
theorem report_exact (held : Reporting s) (computing : Computing s) (ramped : Ramped p s)
    (now : s.state = .channelDone) : s.report = s.request.report s.channelIndex := by
  have within : 12 ≤ s.state.rank ∧ s.state.rank < 20 := by rw [now]; decide
  have reported := held.reported (by omega) (by omega)
  have selected : s.selected = s.selection := reported.selected within.1 (by omega)
  have working := computing.working (by omega) (by omega)
  have requested : s.request.mask.getLsbD s.channelIndex = true := working.requested within.1 (by omega)
  obtain ⟨zone, scaled⟩ := held.shown now
  have current : s.quantUa = (s.request.current s.channelIndex).toNat := by
    rw [quantUa, held.readback within.1 within.2, if_pos rfl, selected]
    rfl
  have code := (ramped.quantized.code (by rw [now]; rfl)).1
  rw [current] at code
  have range := ramped.sound.inRange (by rw [now]; decide) (by rw [now]; decide) _ requested
  have fits : codeOf (s.request.current s.channelIndex).toNat < 1024 := codeOf_lt (by omega)
  have ncoWord : s.expectedNcoWord = ncoWordOf s.selected.ncoHz := working.ncoWord within.1 (by omega)
  have phaseWord : s.expectedPhaseWord = phaseWordOf s.selected.phaseMdeg := working.phaseWord (by rw [now]; rfl)
  have zoned : (if (if s.selected.zone = 2 then nyquistMask else 0) ≠ 0 then (2 : BitVec 2) else 1) =
      s.request.zone s.channelIndex := by
    have zones : s.request.zone s.channelIndex = 1 ∨ s.request.zone s.channelIndex = 2 :=
      reported.zones _ requested
    rw [show s.selected.zone = s.request.zone s.channelIndex from congrArg Selected.zone selected]
    obtain one | two := zones
    · rw [one]
      rfl
    · rw [two]
      rfl
  have amount : 1400 + (s.vopCode.zeroExtend 32 * 175) >>> 2 =
      BitVec.ofNat 32 (1400 + codeOf (s.request.current s.channelIndex).toNat * 175 / 4) := by
    apply BitVec.eq_of_toNat_eq
    have product : (s.vopCode.zeroExtend 32 * 175).toNat = codeOf (s.request.current s.channelIndex).toNat * 175 := by
      rw [BitVec.toNat_mul, BitVec.toNat_setWidth, code, show (175 : BitVec 32).toNat = 175 from rfl,
        Nat.mod_eq_of_lt (a := codeOf _) (by omega), Nat.mod_eq_of_lt (by omega)]
    rw [BitVec.toNat_add, BitVec.toNat_ushiftRight, product, Nat.shiftRight_eq_div_pow, BitVec.toNat_ofNat]
    rfl
  have wide : 0#16 ++ s.vopCode = BitVec.ofNat 32 (codeOf (s.request.current s.channelIndex).toNat) := by
    apply BitVec.eq_of_toNat_eq
    rw [BitVec.toNat_append, code, BitVec.toNat_ofNat, BitVec.toNat_ofNat, Nat.zero_mod, Nat.zero_shiftLeft, Nat.zero_or,
      Nat.mod_eq_of_lt (by omega)]
  rw [report, RuntimeRequest.report, zone, zoned, scaled, amount, ncoWord, phaseWord, selected, wide]
  rfl

theorem reported_step (held : Reporting s) (computing : Computing s) (ramped : Ramped p s) (reckons : Reckons s i t)
    (low : 2 ≤ t.state.rank) (high : t.state.rank < 63) : Reported t.state t.figures := by
  have works {state : RuntimeState} (now : s.state = state) (within : 2 ≤ state.rank ∧ state.rank < 63) :
      Reported state s.figures := by
    subst now
    exact held.reported within.1 within.2
  cases reckons with
  | rests _ outside _ => exact absurd low (Nat.not_le.mpr (rank_of_not_serves outside))
  | taken _ later _ _ =>
    rw [later] at high
    exact absurd high (by decide)
  | opened now later valid figures =>
    rw [figures, later]
    refine ⟨held.validated now valid, ?_, fun _ late => absurd late (by decide)⟩
    funext c
    exact (if_neg (by simp [stagedSet, RuntimeState.rank])).symm
  | skips now skipped goesOn =>
    have reported := works now (by decide)
    have apart {c : Fin 8} (requested : s.request.mask.getLsbD c = true) : c ≠ s.channelIndex := by
      rintro rfl
      exact Bool.noConfusion (skipped.symm.trans requested)
    obtain ⟨last, later, figures⟩ | ⟨more, later, figures⟩ := goesOn
    · rw [figures, later]
      refine ⟨reported.zones, ?_, fun within => absurd within (by decide)⟩
      refine reported.staged.trans (RuntimeRequest.pick_congr fun c requested => ?_)
      exact (stagedSet_select _ _).trans (stagedSet_other (apart requested)).symm
    · rw [figures, later]
      refine ⟨reported.zones, ?_, fun _ late => absurd late (by decide)⟩
      refine reported.staged.trans (RuntimeRequest.pick_congr fun c requested => ?_)
      rw [stagedSet_select, stagedSet_select]
      exact decide_eq_decide.mpr ((channel_lt_next more).trans (or_iff_left (apart requested))).symm
  | chosen now later _ figures =>
    rw [figures, later]
    exact (works now (by decide)).follows (by decide) rfl rfl rfl rfl fun _ _ => rfl
  | setsUpNco now later figures _ | setsUpPhase now later figures _ | ncoWord now later figures
    | phaseWord _ now later _ figures =>
    have reported := works now (by decide)
    rw [figures, later]
    exact reported.follows (by decide) rfl rfl rfl rfl fun _ _ => reported.selected (by decide) (by decide)
  | divides d which now goesOn figures _ _ =>
    have after : 3 < t.state.rank ∧ 3 < s.state.rank ∧ 12 ≤ s.state.rank ∧ s.state.rank < 62 := by
      obtain ⟨-, later⟩ | ⟨-, later⟩ := goesOn <;> rw [now, later] <;> obtain rfl | rfl := which <;> decide
    have reported := works rfl (show 2 ≤ s.state.rank ∧ s.state.rank < 63 by omega)
    rw [figures]
    exact reported.follows ⟨after.2.1, after.1⟩ rfl rfl rfl rfl fun _ _ => reported.selected after.2.2.1 after.2.2.2
  | works within _ later figures =>
    have before := rank_of_inChannel within
    have reported := works rfl (show 2 ≤ s.state.rank ∧ s.state.rank < 63 by omega)
    obtain inside | later := later
    · have after := rank_of_inChannel inside
      rw [figures]
      exact reported.follows (by omega) rfl rfl rfl rfl fun _ _ => reported.selected (by omega) (by omega)
    · rw [later] at low
      exact absurd low (by decide)
  | staged now goesOn =>
    have reported := works now (by decide)
    have requested := (computing.working (by rw [now]; decide) (by rw [now]; decide)).requested
      (by rw [now]; decide) (by rw [now]; decide)
    have staged {after : Fin 8 → Bool} (here : after s.channelIndex = true)
        (others : ∀ c, c ≠ s.channelIndex → decide (c < s.channelIndex) = after c) :
        s.stagedChannel.channel = s.request.pick s.request.report s.actual.channel after := by
      rw [stagedChannel_channel, report_exact held computing ramped now]
      refine (congrArg (Function.update · s.channelIndex _) reported.staged).trans ?_
      exact RuntimeRequest.pick_update requested here fun c apart => (stagedSet_other apart).trans (others c apart)
    obtain ⟨index, later, figures⟩ | ⟨more, later, figures⟩ := goesOn
    · rw [figures, later]
      refine ⟨reported.zones, staged ?_ fun c apart => ?_, fun within => absurd within (by decide)⟩
      · change stagedSet .ncoCommitStart s.channelIndex s.channelIndex = true
        rw [stagedSet, decide_eq_true (rfl : s.channelIndex = s.channelIndex)]
        exact Bool.or_true _
      · exact (@stagedSet_other .ncoCommitStart _ _ apart).symm
    · rw [figures, later]
      refine ⟨reported.zones, staged ?_ fun c apart => ?_, fun _ late => absurd late (by decide)⟩
      · exact (stagedSet_select _ _).trans (decide_eq_true ((channel_lt_next more).mpr (.inr rfl)))
      · refine Eq.trans ?_ (stagedSet_select _ _).symm
        exact decide_eq_decide.mpr ((channel_lt_next more).trans (or_iff_left apart)).symm
  | waits now figures =>
    have ranks : (s.state.rank ≤ 3 ∧ 2 ≤ s.state.rank) ∧ t.state.rank ≤ 3 := by
      obtain ⟨now, later | later⟩ | ⟨now, -, later⟩ := now <;> rw [now, later] <;> decide
    have reported := works rfl (show 2 ≤ s.state.rank ∧ s.state.rank < 63 by omega)
    rw [figures]
    refine ⟨reported.zones, reported.staged.trans (RuntimeRequest.pick_congr fun c _ => ?_), fun within => ?_⟩
    · rw [stagedSet, stagedSet, decide_eq_true ranks.1.1, decide_eq_true ranks.2]
    · exact absurd within (by omega)
  | refused _ _ _ later _ | confirmed _ _ _ later _ =>
    rw [later] at low
    exact absurd low (by decide)

theorem reporting_reset : Reporting (reset p) where
  validated := nofun
  reported low := absurd low (by simp [reset, RuntimeState.rank])
  readback low := absurd low (by simp [reset, RuntimeState.rank])
  shown := nofun

theorem readback_step (held : Reporting s) (quantizes : Quantizes s t) (low : 12 ≤ t.state.rank)
    (high : t.state.rank < 20) : t.vopReadbackOnly = true := by
  have elsewhere {state : RuntimeState} (later : t.state = state) (far : 20 ≤ state.rank) :
      t.vopReadbackOnly = true := by
    subst later
    exact absurd high (Nat.not_lt.mpr far)
  cases quantizes with
  | outside _ _ elsewhere =>
    refine absurd elsewhere ?_
    rw [coded, decide_eq_true low, decide_eq_true (show t.state.rank < 38 by omega)]
    exact nofun
  | setsUp _ later => exact elsewhere later (by decide)
  | divides _ goesOn => obtain ⟨-, later⟩ | ⟨-, later⟩ := goesOn <;> exact elsewhere later (by decide)
  | found _ later codes =>
    have same : t.vopReadbackOnly = s.vopReadbackOnly := congrArg (fun c => c.course.vopReadbackOnly) codes
    cases readback : s.vopReadbackOnly with
    | true => exact same.trans readback
    | false =>
      rw [readback] at later
      exact elsewhere later (by decide)
  | nibble _ later | field _ later => exact elsewhere later (by decide)
  | keeps within _ part _ _ codes =>
    have same : t.vopReadbackOnly = s.vopReadbackOnly := congrArg (fun c => c.course.vopReadbackOnly) codes
    have none : t.state.part = 0 := by rw [RuntimeState.part, if_pos high]
    rw [none, RuntimeState.part] at part
    rw [coded, Bool.and_eq_true, decide_eq_true_iff, decide_eq_true_iff] at within
    rw [same]
    split_ifs at part with ended
    exact held.readback within.1 ended

/-- Only an idle controller takes an apply, which it then judges. -/
theorem request_taken (later : (s.step p i).state = .validate) : s.state = .idle ∧ i.start = true ∧
    (s.step p i).request =
      { mask := i.cmd.channelMask
        sequence := i.cmd.sequence
        ncoHz := i.cmd.ncoHz
        zone := i.cmd.nyquistZone
        phase := i.cmd.phaseMdeg
        current := i.cmd.currentUa
        validationErrorMask := validationErrorMask i.cmd } := by
  have leads : RuntimeState.validate ∈ s.state.next := later ▸ step_next
  have now : s.state = .idle := by
    revert leads
    cases s.state with
    | calcDone d => cases d <;> decide
    | calcStep d => cases d <;> decide
    | launch a | await a => cases a <;> decide
    | _ => decide
  have request : (s.step p i).request = (s.act p i).request := rfl
  change (s.act p i).state = .validate at later
  simp only [act, now] at later request
  dsimp only [idle, accept, answerAtOnce] at later request
  split_ifs at later request with starts
  · exact absurd (later.symm.trans now) (by rintro ⟨⟩)
  · exact absurd (later.symm.trans now) (by rintro ⟨⟩)
  · exact absurd (later.symm.trans now) (by rintro ⟨⟩)
  · exact ⟨now, starts, request⟩
  · exact absurd (later.symm.trans now) (by rintro ⟨⟩)

theorem reporting_step (held : Reporting s) (computing : Computing s) (ramped : Ramped p s) :
    Reporting (s.step p i) where
  validated later valid := by
    obtain ⟨-, -, request⟩ := request_taken later
    rw [request] at valid ⊢
    exact zonesInRange_of_valid i.cmd valid
  reported low high := reported_step held computing ramped reckons_step low high
  readback low high := readback_step held quantizes_step low high
  shown later := by
    obtain ⟨-, fine, readback, selected, scaled⟩ := channel_ends later
    rw [readback, selected]
    refine ⟨?_, scaled⟩
    rw [readbackWrong, Bool.or_eq_false_iff, bne_eq_false_iff_eq] at fine
    exact fine.1

end RuntimeConfig

end Xczu47dr.Rfdc
