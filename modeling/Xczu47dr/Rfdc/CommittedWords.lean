import Xczu47dr.Rfdc.ApplyFigures
import Xczu47dr.Rfdc.CurrentRamp

/-! # The words of the NCOs

The frequency and the phase of a channel as the words of its NCO, and the words that
go to the bridge: the computed ones for the channels of the request, for the others
those that were confirmed last.
-/

namespace Xczu47dr.Rfdc

open Clocked Machine

/-! ## The words -/

/-- The frequency as a fraction of 6.4 GHz, in 48 bits. -/
def ncoWordOf (hz : BitVec 64) : BitVec 48 :=
  BitVec.ofInt 48 (hz.toInt.sign * (hz.toInt.natAbs * 2 ^ 48 / 6400000000 : Nat))

/-- The phase as a fraction of half a turn, in 17 bits and a sign. -/
def phaseWordOf (mdeg : BitVec 32) : BitVec 18 :=
  BitVec.ofInt 18 (mdeg.toInt.sign * (mdeg.toInt.natAbs * 2 ^ 17 / 180000 : Nat))

/-- The low bits of a small number, without its sign. -/
theorem magnitude {w v : Nat} (x : BitVec w) (narrow : v ≤ w) (small : x.toInt.natAbs < 2 ^ v) :
    (if x.msb then -x.extractLsb' 0 v else x.extractLsb' 0 v).toNat = x.toInt.natAbs := by
  have low : (x.extractLsb' 0 v).toNat = x.toNat % 2 ^ v := by
    rw [BitVec.extractLsb'_toNat, Nat.shiftRight_zero]
  have bound := x.isLt
  cases sign : x.msb with
  | false =>
    have value := BitVec.toInt_eq_toNat_of_msb sign
    rw [value, Int.natAbs_natCast] at small ⊢
    rw [if_neg Bool.false_ne_true, low, Nat.mod_eq_of_lt small]
  | true =>
    have value : x.toInt = (x.toNat : Int) - 2 ^ w := by
      rw [BitVec.toInt_eq_msb_cond, sign]
      rfl
    have size : x.toInt.natAbs = 2 ^ w - x.toNat := by
      have cast : ((2 ^ w : Nat) : Int) = 2 ^ w := by norm_cast
      rw [value]
      omega
    obtain ⟨rest, width⟩ : ∃ rest, 2 ^ w = 2 ^ v * rest + 2 ^ v := by
      refine ⟨2 ^ (w - v) - 1, ?_⟩
      rw [← Nat.mul_succ, Nat.succ_eq_add_one, Nat.sub_add_cancel (Nat.two_pow_pos _), ← Nat.pow_add,
        Nat.add_sub_of_le narrow]
    have split : x.toNat = 2 ^ v - (2 ^ w - x.toNat) + 2 ^ v * rest := by omega
    have remainder : x.toNat % 2 ^ v = 2 ^ v - (2 ^ w - x.toNat) := by
      rw [split, Nat.add_mul_mod_self_left, ← split]
      exact Nat.mod_eq_of_lt (by omega)
    rw [if_pos rfl, BitVec.toNat_neg, low, remainder, size, Nat.mod_eq_of_lt (by omega)]
    omega

/-- The word with the sign of the number. -/
theorem signed_word {w v : Nat} (x : BitVec w) (quotient : Nat) (zero : x.toInt = 0 → quotient = 0) :
    (if x.msb then -BitVec.ofNat v quotient else BitVec.ofNat v quotient) =
      BitVec.ofInt v (x.toInt.sign * (quotient : Int)) := by
  cases sign : x.msb with
  | true =>
    have negative := BitVec.toInt_neg_of_msb_true sign
    rw [if_pos rfl, Int.sign_eq_neg_one_of_neg negative, Int.neg_mul, Int.one_mul, BitVec.ofInt_neg,
      BitVec.ofInt_natCast]
  | false =>
    rw [if_neg Bool.false_ne_true]
    have value := BitVec.toInt_eq_toNat_of_msb sign
    rcases Nat.eq_zero_or_pos x.toNat with none | some
    · rw [none] at value
      rw [value, zero value]
      rfl
    · rw [value, Int.sign_natCast_of_ne_zero some.ne', Int.one_mul, BitVec.ofInt_natCast]

theorem ncoWord_quotient (hz : BitVec 64) :
    (if hz.msb then -BitVec.ofNat 48 (hz.toInt.natAbs * 2 ^ 34 / 390625)
      else BitVec.ofNat 48 (hz.toInt.natAbs * 2 ^ 34 / 390625)) = ncoWordOf hz := by
  have scale : hz.toInt.natAbs * 2 ^ 48 / 6400000000 = hz.toInt.natAbs * 2 ^ 34 / 390625 := by omega
  rw [ncoWordOf, scale]
  exact signed_word hz _ fun zero => by rw [zero]; rfl

theorem phaseWord_quotient (mdeg : BitVec 32) :
    (if mdeg.msb then -BitVec.ofNat 18 (mdeg.toInt.natAbs * 2 ^ 12 / 5625)
      else BitVec.ofNat 18 (mdeg.toInt.natAbs * 2 ^ 12 / 5625)) = phaseWordOf mdeg := by
  have scale : mdeg.toInt.natAbs * 2 ^ 17 / 180000 = mdeg.toInt.natAbs * 2 ^ 12 / 5625 := by omega
  rw [phaseWordOf, scale]
  exact signed_word mdeg _ fun zero => by rw [zero]; rfl

def RuntimeRequest.words (r : RuntimeRequest) (c : Fin 8) : BitVec 48 × BitVec 18 :=
  (ncoWordOf (r.ncoHz c), phaseWordOf (r.phase c))

def Actual.words (a : Actual) (c : Fin 8) : BitVec 48 × BitVec 18 :=
  ((a.ncoWord c).extractLsb' 0 48, (a.phaseWord c).extractLsb' 0 18)

/-- The words of the request for the channels that are done, the others being kept. -/
def RuntimeRequest.mixed (r : RuntimeRequest) (kept : Fin 8 → BitVec 48 × BitVec 18) (done : Fin 8 → Bool)
    (c : Fin 8) : BitVec 48 × BitVec 18 :=
  if r.mask.getLsbD c && done c then r.words c else kept c

/-- What is new of the channels of the request that are done, the others being kept. -/
def RuntimeRequest.pick {α : Type} (r : RuntimeRequest) (new kept : Fin 8 → α) (done : Fin 8 → Bool) (c : Fin 8) : α :=
  if r.mask.getLsbD c && done c then new c else kept c

theorem RuntimeRequest.pick_congr {α : Type} {r : RuntimeRequest} {new kept : Fin 8 → α} {done after : Fin 8 → Bool}
    (same : ∀ c : Fin 8, r.mask.getLsbD c = true → done c = after c) :
    r.pick new kept done = r.pick new kept after := by
  funext c
  unfold RuntimeRequest.pick
  cases requested : r.mask.getLsbD c with
  | false => rfl
  | true => rw [same c requested]

theorem RuntimeRequest.pick_update {α : Type} {r : RuntimeRequest} {new kept : Fin 8 → α} {done after : Fin 8 → Bool}
    {c : Fin 8} (requested : r.mask.getLsbD c = true) (now : after c = true)
    (others : ∀ d, d ≠ c → done d = after d) :
    Function.update (r.pick new kept done) c (new c) = r.pick new kept after := by
  funext d
  by_cases here : d = c
  · subst here
    rw [Function.update_self, RuntimeRequest.pick, requested, now]
    rfl
  · rw [Function.update_of_ne here, RuntimeRequest.pick, RuntimeRequest.pick, others d here]

theorem RuntimeRequest.mixed_congr {r : RuntimeRequest} {kept : Fin 8 → BitVec 48 × BitVec 18}
    {done after : Fin 8 → Bool} (same : ∀ c : Fin 8, r.mask.getLsbD c = true → done c = after c) :
    r.mixed kept done = r.mixed kept after :=
  RuntimeRequest.pick_congr same

theorem RuntimeRequest.mixed_update {r : RuntimeRequest} {kept : Fin 8 → BitVec 48 × BitVec 18}
    {done after : Fin 8 → Bool} {c : Fin 8} (requested : r.mask.getLsbD c = true) (now : after c = true)
    (others : ∀ d, d ≠ c → done d = after d) :
    Function.update (r.mixed kept done) c (r.words c) = r.mixed kept after :=
  RuntimeRequest.pick_update requested now others

/-! ## The words of an apply -/

def computedSet (state : RuntimeState) (index c : Fin 8) : Bool :=
  decide (c < index) || decide (c = index) && (state.inChannel || decide (state.rank ≤ 3))

def stagedSet (state : RuntimeState) (index c : Fin 8) : Bool :=
  decide (c < index) || decide (c = index) && decide (state.rank ≤ 3)

namespace Figures

variable (f : Figures)

def committed (c : Fin 8) : BitVec 48 × BitVec 18 := (f.freqWords c, f.phaseWords c)

end Figures

/-- The words of an apply that is at work, `d` being its division. -/
structure Working (state : RuntimeState) (f : Figures) (d : Divider × Nat × Bool) : Prop where
  inRange : WordsInRange f.request
  mask : f.commitMask = f.request.mask
  committed : f.committed = f.request.mixed f.actual.words (computedSet state f.channelIndex)
  staged : f.staged.words = f.request.mixed f.actual.words (stagedSet state f.channelIndex)
  last : state.rank ≤ 3 → f.channelIndex = 7
  requested : 12 ≤ state.rank → state.rank < 62 → f.request.mask.getLsbD f.channelIndex = true
  ncoHz : 12 ≤ state.rank → state.rank < 62 → f.selected.ncoHz = f.request.ncoHz f.channelIndex
  phaseMdeg : 12 ≤ state.rank → state.rank < 62 → f.selected.phaseMdeg = f.request.phase f.channelIndex
  ncoWord : 12 ≤ state.rank → state.rank < 59 → f.expectedNcoWord = ncoWordOf f.selected.ncoHz
  phaseWord : state.inChannel = true → f.expectedPhaseWord = phaseWordOf f.selected.phaseMdeg
  dividingNco : state = .calcStep .nco → d.2.2 = f.selected.ncoHz.msb ∧ d.1.divisor = 390625 ∧
    ∃ k, k + d.2.1 = 65 ∧ d.1.Dividing 66 19 (f.selected.ncoHz.toInt.natAbs * 2 ^ 34) k
  dividedNco : state = .calcDone .nco → d.2.2 = f.selected.ncoHz.msb ∧
    d.1.quotient = f.selected.ncoHz.toInt.natAbs * 2 ^ 34 / 390625
  dividingPhase : state = .calcStep .phase → d.2.2 = f.selected.phaseMdeg.msb ∧ d.1.divisor = 5625 ∧
    ∃ k, k + d.2.1 = 29 ∧ d.1.Dividing 66 19 (f.selected.phaseMdeg.toInt.natAbs * 2 ^ 48) k
  dividedPhase : state = .calcDone .phase → d.2.2 = f.selected.phaseMdeg.msb ∧
    d.1.quotient = f.selected.phaseMdeg.toInt.natAbs * 2 ^ 12 / 5625

theorem channel_lt_next {c index : Fin 8} (more : index ≠ 7) : c < index + 1 ↔ c < index ∨ c = index := by
  revert c index
  decide

theorem computedSet_select (index c : Fin 8) : computedSet .select index c = decide (c < index) := by
  rw [computedSet, show RuntimeState.select.inChannel = false from rfl,
    show decide (RuntimeState.select.rank ≤ 3) = false from rfl, Bool.or_false, Bool.and_false, Bool.or_false]

theorem stagedSet_select (index c : Fin 8) : stagedSet .select index c = decide (c < index) := by
  rw [stagedSet, show decide (RuntimeState.select.rank ≤ 3) = false from rfl, Bool.and_false, Bool.or_false]

theorem computedSet_inChannel {state : RuntimeState} (within : state.inChannel = true) (index : Fin 8) :
    computedSet state index index = true := by
  rw [computedSet, within, decide_eq_true (rfl : index = index), Bool.true_or, Bool.and_true, Bool.or_true]

theorem computedSet_other {state : RuntimeState} {index c : Fin 8} (apart : c ≠ index) :
    computedSet state index c = decide (c < index) := by
  rw [computedSet, decide_eq_false apart, Bool.false_and, Bool.or_false]

theorem stagedSet_other {state : RuntimeState} {index c : Fin 8} (apart : c ≠ index) :
    stagedSet state index c = decide (c < index) := by
  rw [stagedSet, decide_eq_false apart, Bool.false_and, Bool.or_false]

theorem computedSet_apart {u v : RuntimeState} (computed : v.inChannel = u.inChannel)
    (apart : 3 < u.rank ∧ 3 < v.rank) (index : Fin 8) : computedSet v index = computedSet u index := by
  funext c
  rw [computedSet, computedSet, computed, decide_eq_false (Nat.not_le.mpr apart.1),
    decide_eq_false (Nat.not_le.mpr apart.2)]

theorem stagedSet_apart {u v : RuntimeState} (apart : 3 < u.rank ∧ 3 < v.rank) (index : Fin 8) :
    stagedSet v index = stagedSet u index := by
  funext c
  rw [stagedSet, stagedSet, decide_eq_false (Nat.not_le.mpr apart.1), decide_eq_false (Nat.not_le.mpr apart.2)]

/-- From one state of a channel to a later one, the registers of the channel being as they were. -/
theorem Working.follows {u v : RuntimeState} {f : Figures} {d e : Divider × Nat × Bool} (held : Working u f d)
    (computed : v.inChannel = u.inChannel) (within : 12 ≤ u.rank ∧ u.rank < 62) (still : 12 ≤ v.rank ∧ v.rank < 62)
    (words : v.rank < 59 → u.rank < 59)
    (dividingNco : v = .calcStep .nco → e.2.2 = f.selected.ncoHz.msb ∧ e.1.divisor = 390625 ∧
      ∃ k, k + e.2.1 = 65 ∧ e.1.Dividing 66 19 (f.selected.ncoHz.toInt.natAbs * 2 ^ 34) k)
    (dividedNco : v = .calcDone .nco → e.2.2 = f.selected.ncoHz.msb ∧
      e.1.quotient = f.selected.ncoHz.toInt.natAbs * 2 ^ 34 / 390625)
    (dividingPhase : v = .calcStep .phase → e.2.2 = f.selected.phaseMdeg.msb ∧ e.1.divisor = 5625 ∧
      ∃ k, k + e.2.1 = 29 ∧ e.1.Dividing 66 19 (f.selected.phaseMdeg.toInt.natAbs * 2 ^ 48) k)
    (dividedPhase : v = .calcDone .phase → e.2.2 = f.selected.phaseMdeg.msb ∧
      e.1.quotient = f.selected.phaseMdeg.toInt.natAbs * 2 ^ 12 / 5625) : Working v f e where
  inRange := held.inRange
  mask := held.mask
  committed := by
    rw [held.committed, computedSet_apart computed (by omega)]
  staged := by
    rw [held.staged, stagedSet_apart (u := u) (v := v) (by omega)]
  last ends := absurd ends (by omega)
  requested _ _ := held.requested within.1 within.2
  ncoHz _ _ := held.ncoHz within.1 within.2
  phaseMdeg _ _ := held.phaseMdeg within.1 within.2
  ncoWord _ below := held.ncoWord within.1 (words below)
  phaseWord inside := held.phaseWord (computed ▸ inside)
  dividingNco := dividingNco
  dividedNco := dividedNco
  dividingPhase := dividingPhase
  dividedPhase := dividedPhase

namespace RuntimeConfig

variable {p : RuntimeParams} {s t : RuntimeConfig} {i : RuntimeIn}

/-- Two tables that change at the same place. -/
theorem update_pair {Index Left Right : Type} [DecidableEq Index] (left : Index → Left) (right : Index → Right)
    (index : Index) (l : Left) (r : Right) : Function.update (fun c => (left c, right c)) index (l, r) =
      fun c => (Function.update left index l c, Function.update right index r c) := by
  funext c
  by_cases here : c = index
  · subst here
    simp only [Function.update_self]
  · simp only [Function.update_of_ne here]

theorem stagedChannel_words (s : RuntimeConfig) : s.stagedChannel.words =
    Function.update s.staged.words s.channelIndex (s.expectedNcoWord, s.expectedPhaseWord) := by
  have low {w v : Nat} (high : BitVec v) (word : BitVec w) : (high ++ word).extractLsb' 0 w = word := by
    rw [BitVec.extractLsb'_append_eq_of_add_le (Nat.le_of_eq (Nat.zero_add w)), BitVec.extractLsb'_eq_self]
  funext c
  change ((Function.update s.staged.ncoWord s.channelIndex (0#16 ++ s.expectedNcoWord) c).extractLsb' 0 48,
    (Function.update s.staged.phaseWord s.channelIndex (0#14 ++ s.expectedPhaseWord) c).extractLsb' 0 18) = _
  by_cases here : c = s.channelIndex
  · subst here
    rw [Function.update_self, Function.update_self, Function.update_self, low, low]
  · rw [Function.update_of_ne here, Function.update_of_ne here, Function.update_of_ne here]
    rfl

theorem hz_small {hz : BitVec 64} (range : -3200000000 ≤ hz.toInt ∧ hz.toInt ≤ 3200000000) :
    hz.toInt.natAbs < 2 ^ 32 := by
  omega

theorem mdeg_small {mdeg : BitVec 32} (range : -180000 ≤ mdeg.toInt ∧ mdeg.toInt < 180000) :
    mdeg.toInt.natAbs < 2 ^ 18 := by
  omega

/-- The truncation of the frequency loses nothing. -/
theorem ncoCalcInit_divider (small : s.selected.ncoHz.toInt.natAbs < 2 ^ 32) :
    (s.ncoCalcInit t).divider = ⟨s.selected.ncoHz.toInt.natAbs * 2 ^ 34, 0, 0, 390625⟩ := by
  rw [← magnitude s.selected.ncoHz (v := 32) (by decide) small]
  rfl

/-- The truncation of the phase loses nothing. -/
theorem phaseCalcInit_divider (small : s.selected.phaseMdeg.toInt.natAbs < 2 ^ 18) :
    (s.phaseCalcInit t).divider = ⟨s.selected.phaseMdeg.toInt.natAbs * 2 ^ 48, 0, 0, 5625⟩ := by
  rw [← magnitude s.selected.phaseMdeg (v := 18) (by decide) small]
  rfl

/-- What is known of the words in every reachable state. -/
structure Computing (s : RuntimeConfig) : Prop where
  validated : s.state = .validate → s.request.validationErrorMask = 0 → WordsInRange s.request
  working : 2 ≤ s.state.rank → s.state.rank < 63 → Working s.state s.figures s.division

theorem computing_outside (checked : s.state ≠ .validate) (outside : s.state.rank < 2) : Computing s where
  validated now := absurd now checked
  working within := absurd within (Nat.not_le.mpr outside)

theorem rank_of_not_serves {state : RuntimeState} (outside : state.serves = false) : state.rank < 2 := by
  cases state with
  | launch a | await a => cases a <;> first | decide | contradiction
  | idle => decide
  | _ => contradiction

theorem rank_of_inChannel {state : RuntimeState} (within : state.inChannel = true) :
    12 ≤ state.rank ∧ state.rank < 56 := by
  rw [RuntimeState.inChannel, Bool.and_eq_true, decide_eq_true_iff, decide_eq_true_iff] at within
  exact within

theorem working_opened {f : Figures} {d : Divider × Nat × Bool} (inRange : WordsInRange f.request)
    (index : f.channelIndex = 0) (mask : f.commitMask = f.request.mask) (staged : f.staged = f.actual)
    (committed : f.committed = f.actual.words) : Working .select f d where
  inRange := inRange
  mask := mask
  committed := by
    rw [committed, index]
    funext c
    exact (if_neg (by simp [computedSet, RuntimeState.inChannel, RuntimeState.rank])).symm
  staged := by
    rw [staged, index]
    funext c
    exact (if_neg (by simp [stagedSet, RuntimeState.rank])).symm
  last early := absurd early (by decide)
  requested _ late := absurd late (by decide)
  ncoHz _ late := absurd late (by decide)
  phaseMdeg _ late := absurd late (by decide)
  ncoWord _ late := absurd late (by decide)
  phaseWord within := absurd within (by decide)
  dividingNco := nofun
  dividedNco := nofun
  dividingPhase := nofun
  dividedPhase := nofun

/-- The next channel comes, the sets being those of the channels before it. -/
theorem working_next {f : Figures} {d : Divider × Nat × Bool} (inRange : WordsInRange f.request)
    (mask : f.commitMask = f.request.mask)
    (committed : f.committed = f.request.mixed f.actual.words fun c => decide (c < f.channelIndex))
    (staged : f.staged.words = f.request.mixed f.actual.words fun c => decide (c < f.channelIndex)) :
    Working .select f d where
  inRange := inRange
  mask := mask
  committed := by
    rw [committed]
    exact RuntimeRequest.mixed_congr fun c _ => by simp [computedSet, RuntimeState.inChannel, RuntimeState.rank]
  staged := by
    rw [staged]
    exact RuntimeRequest.mixed_congr fun c _ => by simp [stagedSet, RuntimeState.rank]
  last early := absurd early (by decide)
  requested _ late := absurd late (by decide)
  ncoHz _ late := absurd late (by decide)
  phaseMdeg _ late := absurd late (by decide)
  ncoWord _ late := absurd late (by decide)
  phaseWord within := absurd within (by decide)
  dividingNco := nofun
  dividedNco := nofun
  dividingPhase := nofun
  dividedPhase := nofun

theorem working_last {f : Figures} {d : Divider × Nat × Bool} (inRange : WordsInRange f.request)
    (mask : f.commitMask = f.request.mask) (index : f.channelIndex = 7)
    (committed : f.committed = f.request.mixed f.actual.words fun _ => true)
    (staged : f.staged.words = f.request.mixed f.actual.words fun _ => true) {state : RuntimeState}
    (ready : state = .ncoCommitStart ∨ state = .ncoCommitWait) : Working state f d := by
  have all (c : Fin 8) : c < 7 ∨ c = 7 := by revert c; decide
  have rank : state.rank ≤ 3 ∧ state.inChannel = false := by obtain rfl | rfl := ready <;> decide
  refine ⟨inRange, mask, ?_, ?_, fun _ => index, ?_, ?_, ?_, ?_, ?_, ?_, ?_, ?_, ?_⟩
  · rw [committed, index]
    exact RuntimeRequest.mixed_congr fun c _ => by simp [computedSet, rank.1, all]
  · rw [staged, index]
    exact RuntimeRequest.mixed_congr fun c _ => by simp [stagedSet, rank.1, all]
  · exact fun low => absurd low (by omega)
  · exact fun low => absurd low (by omega)
  · exact fun low => absurd low (by omega)
  · exact fun low => absurd low (by omega)
  · exact fun within => absurd within (by rw [rank.2]; exact Bool.false_ne_true)
  all_goals obtain rfl | rfl := ready <;> exact nofun

theorem computing_step (held : Computing s) (reckons : Reckons s i t) : Computing t := by
  have works {state : RuntimeState} (now : s.state = state) (within : 2 ≤ state.rank ∧ state.rank < 63) :
      Working state s.figures s.division := by
    subst now
    exact held.working within.1 within.2
  have becomes {state : RuntimeState} (later : t.state = state) (checked : state ≠ .validate)
      (working : Working state t.figures t.division) : Computing t := by
    subst later
    exact ⟨fun now => absurd now checked, fun _ _ => working⟩
  cases reckons with
  | rests _ outside _ =>
    refine computing_outside (fun now => ?_) (rank_of_not_serves outside)
    rw [now] at outside
    contradiction
  | taken _ later valid _ =>
    refine ⟨fun _ => valid, fun _ high => ?_⟩
    rw [later] at high
    exact absurd high (by decide)
  | opened now later valid figures =>
    refine becomes later nofun ?_
    rw [figures]
    exact working_opened (held.validated now valid) rfl rfl rfl rfl
  | skips now skipped goesOn =>
    have working := works now (by decide)
    obtain ⟨index, later, figures⟩ | ⟨more, later, figures⟩ := goesOn
    · refine becomes later nofun ?_
      rw [figures]
      -- the last channel is not of the request
      have others (c : Fin 8) (requested : s.request.mask.getLsbD c = true) : c < s.channelIndex := by
        have apart : c ≠ s.channelIndex := by
          rintro rfl
          exact Bool.noConfusion (skipped.symm.trans requested)
        rw [index] at apart ⊢
        exact lt_of_le_of_ne (Fin.le_last c) apart
      refine working_last working.inRange working.mask index ?_ ?_ (.inl rfl)
      · rw [working.committed]
        refine RuntimeRequest.mixed_congr fun c requested => ?_
        rw [computedSet, show decide (c < s.figures.channelIndex) = true from decide_eq_true (others c requested)]
        rfl
      · rw [working.staged]
        refine RuntimeRequest.mixed_congr fun c requested => ?_
        rw [stagedSet, show decide (c < s.figures.channelIndex) = true from decide_eq_true (others c requested)]
        rfl
    · refine becomes later nofun ?_
      rw [figures]
      have same (c : Fin 8) (requested : s.request.mask.getLsbD c = true) :
          decide (c < s.channelIndex + 1) = decide (c < s.channelIndex) := by
        have apart : c ≠ s.channelIndex := by
          rintro rfl
          exact Bool.noConfusion (skipped.symm.trans requested)
        simp [channel_lt_next more, apart]
      refine working_next working.inRange working.mask ?_ ?_
      · refine working.committed.trans (RuntimeRequest.mixed_congr fun c requested => ?_)
        exact (computedSet_select ..).trans (same c requested).symm
      · refine working.staged.trans (RuntimeRequest.mixed_congr fun c requested => ?_)
        exact (stagedSet_select ..).trans (same c requested).symm
  | chosen now later requested figures =>
    have working := works now (by decide)
    refine becomes later nofun ?_
    rw [figures]
    refine ⟨working.inRange, working.mask, ?_, ?_, nofun, fun _ _ => requested, fun _ _ => rfl, fun _ _ => rfl, ?_,
      nofun, nofun, nofun, nofun, nofun⟩
    · rw [@computedSet_apart .select .ncoCalcInit rfl (by decide)]
      exact working.committed
    · rw [@stagedSet_apart .select .ncoCalcInit (by decide)]
      exact working.staged
    · exact fun _ late => absurd late (by decide)
  | setsUpNco now later figures division =>
    have working := works now (by decide)
    refine becomes later nofun ?_
    rw [figures, division]
    refine working.follows rfl (by decide) (by decide) (by decide)
      (fun _ => ⟨rfl, rfl, 0, rfl, ?_⟩) nofun nofun nofun
    have range := working.inRange _ (working.requested (by decide) (by decide))
    rw [← working.ncoHz (by decide) (by decide)] at range
    have small : s.selected.ncoHz.toInt.natAbs < 2 ^ 32 := hz_small range.1
    change Divider.Dividing 66 19 _ 0 (s.ncoCalcInit s.clearPulses).divider
    rw [ncoCalcInit_divider small]
    exact Divider.dividing_start (by omega) (by decide) (by decide)
  | setsUpPhase now later figures division =>
    have working := works now (by decide)
    refine becomes later nofun ?_
    rw [figures, division]
    refine working.follows rfl (by decide) (by decide) (by decide) nofun nofun
      (fun _ => ⟨rfl, rfl, 0, rfl, ?_⟩) nofun
    have range := working.inRange _ (working.requested (by decide) (by decide))
    rw [← working.phaseMdeg (by decide) (by decide)] at range
    have small : s.selected.phaseMdeg.toInt.natAbs < 2 ^ 18 := mdeg_small range.2
    change Divider.Dividing 66 19 _ 0 (s.phaseCalcInit s.clearPulses).divider
    rw [phaseCalcInit_divider small]
    exact Divider.dividing_start (by omega) (by decide) (by decide)
  | divides d which now goesOn figures divider negative =>
    obtain rfl | rfl := which
    · have working := works now (by decide)
      obtain ⟨sign, divisor, k, count, dividing⟩ := working.dividingNco rfl
      obtain ⟨next, same⟩ := dividing.step (show k < 66 by omega)
      rw [← show t.divider = s.division.1.step 66 19 from divider] at next same
      obtain ⟨last, later⟩ | ⟨more, later⟩ := goesOn
      · obtain rfl : k = 65 := by
          have count : k + s.calcIteration = 65 := count
          omega
        refine becomes later nofun ?_
        rw [figures]
        refine working.follows rfl (by decide) (by decide) (by decide) nofun
          (fun _ => ⟨negative.trans sign, ?_⟩) nofun nofun
        have quotient := next.quotient_eq
        rwa [same.trans divisor, Nat.sub_self, Nat.pow_zero, Nat.div_one] at quotient
      · refine becomes later nofun ?_
        rw [figures]
        refine working.follows rfl (by decide) (by decide) (by decide)
          (fun _ => ⟨negative.trans sign, same.trans divisor, k + 1, ?_, next⟩) nofun nofun nofun
        have count : k + s.calcIteration = 65 := count
        change k + 1 + t.calcIteration = 65
        omega
    · have working := works now (by decide)
      obtain ⟨sign, divisor, k, count, dividing⟩ := working.dividingPhase rfl
      obtain ⟨next, same⟩ := dividing.step (show k < 66 by omega)
      rw [← show t.divider = s.division.1.step 66 19 from divider] at next same
      obtain ⟨last, later⟩ | ⟨more, later⟩ := goesOn
      · obtain rfl : k = 29 := by
          have count : k + s.calcIteration = 29 := count
          omega
        refine becomes later nofun ?_
        rw [figures]
        refine working.follows rfl (by decide) (by decide) (by decide) nofun nofun nofun
          (fun _ => ⟨negative.trans sign, ?_⟩)
        have quotient := next.quotient_eq
        rwa [same.trans divisor, show 2 ^ 48 = 2 ^ 12 * 2 ^ (66 - 30) from rfl, ← Nat.mul_assoc,
          Nat.mul_div_cancel _ (Nat.two_pow_pos _)] at quotient
      · refine becomes later nofun ?_
        rw [figures]
        refine working.follows rfl (by decide) (by decide) (by decide) nofun nofun
          (fun _ => ⟨negative.trans sign, same.trans divisor, k + 1, ?_, next⟩) nofun
        have count : k + s.calcIteration = 29 := count
        change k + 1 + t.calcIteration = 29
        omega
  | ncoWord now later figures =>
    have working := works now (by decide)
    obtain ⟨sign, quotient⟩ := working.dividedNco rfl
    refine becomes later nofun ?_
    rw [figures]
    refine ⟨working.inRange, working.mask, ?_, ?_, nofun, fun _ _ => working.requested (by decide) (by decide),
      fun _ _ => working.ncoHz (by decide) (by decide), fun _ _ => working.phaseMdeg (by decide) (by decide),
      fun _ _ => ?_, nofun, nofun, nofun, nofun, nofun⟩
    · rw [@computedSet_apart (.calcDone .nco) .phaseCalcInit rfl (by decide)]
      exact working.committed
    · rw [@stagedSet_apart (.calcDone .nco) .phaseCalcInit (by decide)]
      exact working.staged
    · have word := ncoWord_quotient s.selected.ncoHz
      have sign : s.calcNegative = s.selected.ncoHz.msb := sign
      have quotient : s.divider.quotient = _ := quotient
      dsimp only
      rw [sign, quotient]
      exact word
  | phaseWord word now later word_eq figures =>
    have working := works now (by decide)
    obtain ⟨sign, quotient⟩ := working.dividedPhase rfl
    have requested := working.requested (by decide) (by decide)
    have expected : s.expectedNcoWord = ncoWordOf s.selected.ncoHz := working.ncoWord (by decide) (by decide)
    have computed : word = phaseWordOf s.selected.phaseMdeg := by
      have sign : s.calcNegative = s.selected.phaseMdeg.msb := sign
      have quotient : s.divider.quotient = _ := quotient
      rw [word_eq, sign, quotient]
      exact phaseWord_quotient _
    refine becomes later nofun ?_
    rw [figures]
    refine ⟨working.inRange, working.mask, ?_, ?_, nofun, fun _ _ => requested,
      fun _ _ => working.ncoHz (by decide) (by decide), fun _ _ => working.phaseMdeg (by decide) (by decide),
      fun _ _ => expected, fun _ => computed, nofun, nofun, nofun, nofun⟩
    · have hz : s.selected.ncoHz = s.request.ncoHz s.channelIndex := working.ncoHz (by decide) (by decide)
      have mdeg : s.selected.phaseMdeg = s.request.phase s.channelIndex := working.phaseMdeg (by decide) (by decide)
      have one : (s.expectedNcoWord, word) = s.request.words s.channelIndex := by
        rw [expected, computed, hz, mdeg]
        rfl
      refine (update_pair _ _ _ _ _).symm.trans ?_
      rw [one]
      refine (congrArg (Function.update · s.channelIndex _) working.committed).trans ?_
      exact RuntimeRequest.mixed_update requested (computedSet_inChannel rfl _) fun c apart =>
        (computedSet_other apart).trans (computedSet_other apart).symm
    · rw [@stagedSet_apart (.calcDone .phase) (.launch .tile) (by decide)]
      exact working.staged
  | works within _ later figures =>
    obtain inside | later := later
    · have before := rank_of_inChannel within
      have after := rank_of_inChannel inside
      have apart {state : RuntimeState} (now : t.state = state) (outside : state.inChannel = false) : False := by
        rw [now, outside] at inside
        contradiction
      refine becomes rfl (fun now => apart now rfl) ?_
      rw [figures]
      exact (works rfl (by omega)).follows (inside.trans within.symm) (by omega) (by omega) (by omega)
        (fun now => (apart now rfl).elim) (fun now => (apart now rfl).elim) (fun now => (apart now rfl).elim)
        fun now => (apart now rfl).elim
    · exact computing_outside (by rw [later]; exact nofun) (by rw [later]; decide)
  | staged now goesOn =>
    have working := works now (by decide)
    have requested := working.requested (by decide) (by decide)
    have one : (s.expectedNcoWord, s.expectedPhaseWord) = s.request.words s.channelIndex := by
      have hz : s.selected.ncoHz = s.request.ncoHz s.channelIndex := working.ncoHz (by decide) (by decide)
      have mdeg : s.selected.phaseMdeg = s.request.phase s.channelIndex := working.phaseMdeg (by decide) (by decide)
      have nco : s.expectedNcoWord = ncoWordOf s.selected.ncoHz := working.ncoWord (by decide) (by decide)
      have phase : s.expectedPhaseWord = phaseWordOf s.selected.phaseMdeg := working.phaseWord rfl
      rw [nco, phase, hz, mdeg]
      rfl
    have staged {after : Fin 8 → Bool} (here : after s.channelIndex = true)
        (others : ∀ c, c ≠ s.channelIndex → decide (c < s.channelIndex) = after c) :
        s.stagedChannel.words = s.request.mixed s.actual.words after := by
      rw [stagedChannel_words, one]
      refine (congrArg (Function.update · s.channelIndex _) working.staged).trans ?_
      exact RuntimeRequest.mixed_update requested here fun c apart => (stagedSet_other apart).trans (others c apart)
    obtain ⟨index, later, figures⟩ | ⟨more, later, figures⟩ := goesOn
    · refine becomes later nofun ?_
      rw [figures]
      have all (c : Fin 8) (apart : c ≠ s.channelIndex) : decide (c < s.channelIndex) = true := by
        rw [index] at apart ⊢
        exact decide_eq_true (lt_of_le_of_ne (Fin.le_last c) apart)
      refine working_last (f := { s.figures with staged := s.stagedChannel }) working.inRange working.mask index ?_
        (staged rfl all) (.inl rfl)
      refine working.committed.trans (RuntimeRequest.mixed_congr fun c _ => ?_)
      by_cases apart : c = s.channelIndex
      · rw [apart]
        exact computedSet_inChannel rfl _
      · exact (computedSet_other apart).trans (all c apart)
    · refine becomes later nofun ?_
      rw [figures]
      have here : decide (s.channelIndex < s.channelIndex + 1) = true :=
        decide_eq_true ((channel_lt_next more).mpr (.inr rfl))
      have others (c : Fin 8) (apart : c ≠ s.channelIndex) :
          decide (c < s.channelIndex) = decide (c < s.channelIndex + 1) :=
        decide_eq_decide.mpr ((channel_lt_next more).trans (or_iff_left apart)).symm
      refine working_next (f := { s.figures with staged := s.stagedChannel, channelIndex := s.channelIndex + 1 })
        working.inRange working.mask ?_ (staged here others)
      refine working.committed.trans (RuntimeRequest.mixed_congr fun c _ => ?_)
      by_cases apart : c = s.channelIndex
      · rw [apart]
        exact (computedSet_inChannel rfl _).trans here.symm
      · exact (computedSet_other apart).trans (others c apart)
  | waits now figures =>
    have ready : (s.state = .ncoCommitStart ∨ s.state = .ncoCommitWait) ∧
        (t.state = .ncoCommitStart ∨ t.state = .ncoCommitWait) := by
      obtain ⟨now, later⟩ | ⟨now, -, later⟩ := now
      · exact ⟨.inl now, later⟩
      · exact ⟨.inr now, .inr later⟩
    have rank : s.state.rank ≤ 3 ∧ 2 ≤ s.state.rank := by obtain now | now := ready.1 <;> rw [now] <;> decide
    have working := works rfl (show 2 ≤ s.state.rank ∧ s.state.rank < 63 by omega)
    have index : s.channelIndex = 7 := working.last rank.1
    have all (c : Fin 8) :
        computedSet s.state s.channelIndex c = true ∧ stagedSet s.state s.channelIndex c = true := by
      rw [computedSet, stagedSet, index, decide_eq_true rank.1, Bool.or_true, Bool.and_true, Bool.or_eq_true,
        decide_eq_true_iff, decide_eq_true_iff, and_self]
      exact lt_or_eq_of_le (Fin.le_last c)
    refine becomes rfl (by obtain later | later := ready.2 <;> rw [later] <;> exact nofun) ?_
    rw [figures]
    refine working_last working.inRange working.mask index ?_ ?_ ready.2
    · exact working.committed.trans (RuntimeRequest.mixed_congr fun c _ => (all c).1)
    · exact working.staged.trans (RuntimeRequest.mixed_congr fun c _ => (all c).2)
  | refused _ _ _ later _ | confirmed _ _ _ later _ =>
    exact computing_outside (by rw [later]; exact nofun) (by rw [later]; decide)

/-! ## The words that were confirmed -/

def committedWords (s : RuntimeConfig) (c : Fin 8) : BitVec 48 × BitVec 18 :=
  (s.ncoCommit.freqWords c, s.ncoCommit.phaseWords c)

/-- The bridge confirms the words of a commit. -/
def confirms (s : RuntimeConfig) (i : RuntimeIn) : List (Fin 8 → BitVec 48 × BitVec 18) :=
  if s.state = .ncoCommitWait ∧ i.ncoCommitDone = true ∧ i.ncoCommitError = 0 then [s.committedWords] else []

/-- The bridge is started when the apply has come to its commit. -/
theorem commit_started (started : (s.step p i).ncoCommit.start = true) : (s.step p i).state = .ncoCommitWait := by
  change (s.act p i).ncoCommit.start = true at started
  change (s.act p i).state = .ncoCommitWait
  cases now : s.state <;> simp only [act, now] at started ⊢
  case idle =>
    dsimp only [idle, accept, answerAtOnce] at started
    split_ifs at started <;> exact absurd started Bool.false_ne_true
  case validate =>
    unfold validate at started
    split_ifs at started
    exact absurd started Bool.false_ne_true
  case select =>
    dsimp only [select] at started
    split_ifs at started <;> exact absurd started Bool.false_ne_true
  case vopPrep =>
    dsimp only [vopPrep] at started
    split_ifs at started <;> exact absurd started Bool.false_ne_true
  case calcDone d =>
    cases d <;> exact absurd started Bool.false_ne_true
  case await a =>
    split_ifs at started
    · unfold finishAccess at started
      split_ifs at started
      · exact absurd started Bool.false_ne_true
      · cases a
        case readyProbe =>
          dsimp only [accessed, probed] at started
          split_ifs at started <;> exact absurd started Bool.false_ne_true
        case tile =>
          dsimp only [accessed, tileRead] at started
          split_ifs at started <;> exact absurd started Bool.false_ne_true
        case rbCfg3 =>
          dsimp only [accessed] at started
          split_ifs at started <;> exact absurd started Bool.false_ne_true
        all_goals exact absurd started Bool.false_ne_true
    · exact absurd started Bool.false_ne_true
  case vopDelay =>
    unfold vopDelay at started
    split_ifs at started <;> exact absurd started Bool.false_ne_true
  case channelDone =>
    dsimp only [channelDone] at started
    split_ifs at started <;> exact absurd started Bool.false_ne_true
  case ncoCommitStart =>
    unfold ncoCommitStart at started ⊢
    split_ifs at started ⊢
    · rfl
    · exact absurd started Bool.false_ne_true
  case ncoCommitWait =>
    unfold ncoCommitWait at started
    split_ifs at started <;> exact absurd started Bool.false_ne_true
  all_goals exact absurd started Bool.false_ne_true

/-- What holds of the words in every reachable state. -/
structure Worded (p : RuntimeParams) (words : Fin 8 → BitVec 48 × BitVec 18) (s : RuntimeConfig) : Prop where
  ramped : Ramped p s
  computing : Computing s
  confirmed : s.actual.words = words
  started : s.ncoCommit.start = true → s.state = .ncoCommitWait

/-- In no division does a remainder reach the twentieth bit. -/
theorem Worded.remainder_lt {words : Fin 8 → BitVec 48 × BitVec 18} (held : Worded p words s) {d : Division}
    (now : s.state = .calcStep d) : s.divider.remainder < 2 ^ 19 := by
  have below {n k : Nat} (dividing : s.divider.Dividing 66 19 n k) (small : s.divider.divisor < 2 ^ 19) :
      s.divider.remainder < 2 ^ 19 := Nat.lt_trans dividing.remainder_lt small
  cases d with
  | nco =>
    have working := held.computing.working (by rw [now]; decide) (by rw [now]; decide)
    obtain ⟨-, divisor, k, -, dividing⟩ := working.dividingNco now
    exact below dividing (by rw [show s.divider.divisor = 390625 from divisor]; decide)
  | phase =>
    have working := held.computing.working (by rw [now]; decide) (by rw [now]; decide)
    obtain ⟨-, divisor, k, -, dividing⟩ := working.dividingPhase now
    exact below dividing (by rw [show s.divider.divisor = 5625 from divisor]; decide)
  | ramp =>
    obtain ⟨-, divisor, k, -, dividing⟩ := held.ramped.sound.dividing now
    exact below dividing (by rw [divisor]; decide)
  | vopQuant =>
    obtain ⟨divisor, k, -, dividing⟩ := held.ramped.quantized.dividing now
    exact below dividing (by rw [divisor]; decide)

end RuntimeConfig

open RuntimeConfig

end Xczu47dr.Rfdc
