import Mathlib.Data.Prod.Lex
import Xczu47dr.Clocked.Progress
import Xczu47dr.Rfdc.RuntimeInvariant

/-! # An apply comes to its end

A tenth of the present current is never nothing and never more than the way that is
left, so the ramp ends; with it every part of an apply does, as long as the NCO
commits do.
-/

namespace Xczu47dr.Rfdc

open Clocked

namespace RuntimeConfig

variable {p : RuntimeParams} {s t : RuntimeConfig} {i : RuntimeIn}

/-! ## The current ramp -/

def distance (a b : Nat) : Nat := (a - b) + (b - a)

/-- The next current of the ramp is in range and nearer to the selected one. -/
structure Nearer (s : RuntimeConfig) : Prop where
  low : 1400 ≤ s.rampNextUa
  high : s.rampNextUa ≤ 46156
  closer : distance s.rampNextUa s.selected.currentUa < distance s.rampCurrentUa s.selected.currentUa

/-- The ramp goes on, in the direction of the selected current. -/
structure Heading (s : RuntimeConfig) : Prop where
  apart : s.rampCurrentUa ≠ s.selected.currentUa
  up : s.rampUp = decide (s.rampCurrentUa < s.selected.currentUa)

/-- What is known of the currents, part by part. -/
structure Sound (s : RuntimeConfig) : Prop where
  validated : s.state = .validate → s.request.validationErrorMask = 0 → InRange s.request
  inRange : s.state.serves = true → s.state ≠ .validate → InRange s.request
  selected : 1 ≤ s.state.part → s.state.part ≤ 4 →
    2250 ≤ s.selected.currentUa ∧ s.selected.currentUa ≤ 40500
  ramping : 1 ≤ s.state.part → s.state.part ≤ 3 → 1400 ≤ s.rampCurrentUa ∧ s.rampCurrentUa ≤ 46156
  dividing : s.state = .calcStep .ramp → Heading s ∧ s.divider.divisor = 10 ∧
    ∃ k, k + s.calcIteration = 15 ∧ s.divider.Dividing 66 19 (s.rampCurrentUa * 2 ^ 50) k
  divided : s.state = .calcDone .ramp → Heading s ∧ s.divider.quotient = s.rampCurrentUa / 10
  nearer : s.state.part = 1 ∨ s.state.part = 2 ∧ s.vopReadbackOnly = false → Nearer s

theorem part_of_not_serves {state : RuntimeState} (outside : state.serves = false) : state.part = 0 := by
  cases state with
  | idle => rfl
  | launch a => cases a <;> first | rfl | contradiction
  | await a => cases a <;> first | rfl | contradiction
  | calcStep d | calcDone d => contradiction
  | _ => contradiction

theorem sound_of_not_serves (outside : s.state.serves = false) : Sound s := by
  have none := part_of_not_serves outside
  have apart {state : RuntimeState} (serves : state.serves = true) : s.state ≠ state := by
    rintro rfl
    rw [outside] at serves
    contradiction
  refine ⟨fun now => absurd now (apart rfl), fun serves => ?_, by omega, by omega,
    fun now => absurd now (apart rfl), fun now => absurd now (apart rfl), by omega⟩
  rw [outside] at serves
  contradiction

/-- A step of the ramp comes nearer, and stays in range. -/
theorem nearer_of_rampNext (selected : 2250 ≤ s.selected.currentUa ∧ s.selected.currentUa ≤ 40500)
    (ramping : 1400 ≤ s.rampCurrentUa ∧ s.rampCurrentUa ≤ 46156) (heading : Heading s)
    (tenth : s.divider.quotient = s.rampCurrentUa / 10) :
    1400 ≤ s.rampNext ∧ s.rampNext ≤ 46156 ∧
      distance s.rampNext s.selected.currentUa < distance s.rampCurrentUa s.selected.currentUa := by
  obtain ⟨apart, up⟩ := heading
  have small : s.rampCurrentUa / 10 % 2 ^ 16 = s.rampCurrentUa / 10 := Nat.mod_eq_of_lt (by omega)
  unfold distance
  by_cases below : s.rampCurrentUa < s.selected.currentUa
  · rw [decide_eq_true below] at up
    have sum : (s.rampCurrentUa + s.rampCurrentUa / 10) % 2 ^ 32 = s.rampCurrentUa + s.rampCurrentUa / 10 :=
      Nat.mod_eq_of_lt (by omega)
    simp only [rampNext, up, if_true, tenth, small, sum]
    split_ifs <;> omega
  · rw [decide_eq_false below] at up
    have difference : (s.rampCurrentUa + (2 ^ 32 - s.rampCurrentUa / 10)) % 2 ^ 32 =
        s.rampCurrentUa - s.rampCurrentUa / 10 := by omega
    simp only [rampNext, up, Bool.false_eq_true, if_false, tenth, small, difference]
    split_ifs <;> omega

/-- The first sixteen bits of the division are a tenth of the current. -/
theorem quotient_tenth {current : Nat} {d : Divider} (divided : d.Dividing 66 19 (current * 2 ^ 50) 16)
    (divisor : d.divisor = 10) : d.quotient = current / 10 := by
  rw [divided.quotient_eq, divisor, show 66 - 16 = 50 from rfl, Nat.mul_div_cancel _ (Nat.two_pow_pos 50)]

/-- Nothing but the state changes, and it stays in its part. -/
theorem Sound.follows (held : Sound s) (after : Follows s.state t.state) (kept : t.course = s.course) :
    Sound t := by
  have request : t.request = s.request := congrArg Course.request kept
  have selected : t.selected.currentUa = s.selected.currentUa := congrArg Course.selectedUa kept
  have ramp : t.rampCurrentUa = s.rampCurrentUa := congrArg Course.rampCurrentUa kept
  have next : t.rampNextUa = s.rampNextUa := congrArg Course.rampNextUa kept
  have readback : t.vopReadbackOnly = s.vopReadbackOnly := congrArg Course.vopReadbackOnly kept
  obtain ⟨⟨serves, checked⟩, still, lower, part, step, done⟩ := after
  have inRange := held.inRange serves checked
  refine ⟨fun _ _ => request ▸ inRange, fun _ _ => request ▸ inRange, fun low high => ?_,
    fun low high => ?_, fun now => absurd now step, fun now => absurd now done, fun within => ?_⟩
  · rw [selected]
    exact held.selected (by omega) (by omega)
  · rw [ramp]
    exact held.ramping (by omega) (by omega)
  · have near : Nearer s := by
      rw [readback] at within
      rcases part with none | same
      · omega
      · exact held.nearer (same ▸ within)
    exact ⟨next ▸ near.low, next ▸ near.high, by rw [next, selected, ramp]; exact near.closer⟩

theorem Sound.stays (held : Sound s) (same : t.state = s.state) (kept : t.course = s.course)
    (step : s.state ≠ .calcStep .ramp) (done : s.state ≠ .calcDone .ramp) : Sound t := by
  have request : t.request = s.request := congrArg Course.request kept
  have selected : t.selected.currentUa = s.selected.currentUa := congrArg Course.selectedUa kept
  have ramp : t.rampCurrentUa = s.rampCurrentUa := congrArg Course.rampCurrentUa kept
  have next : t.rampNextUa = s.rampNextUa := congrArg Course.rampNextUa kept
  have readback : t.vopReadbackOnly = s.vopReadbackOnly := congrArg Course.vopReadbackOnly kept
  refine ⟨?_, ?_, ?_, ?_, fun now => absurd (same.symm.trans now) step,
    fun now => absurd (same.symm.trans now) done, fun within => ?_⟩
  · rw [same, request]
    exact held.validated
  · rw [same, request]
    exact held.inRange
  · rw [same, selected]
    exact held.selected
  · rw [same, ramp]
    exact held.ramping
  · rw [same, readback] at within
    have near := held.nearer within
    exact ⟨next ▸ near.low, next ▸ near.high, by rw [next, selected, ramp]; exact near.closer⟩

/-- Outside the channels only the request matters. -/
theorem sound_of_outer (outer : t.state.part = 5)
    (validated : t.state = .validate → t.request.validationErrorMask = 0 → InRange t.request)
    (inRange : t.state ≠ .validate → InRange t.request) : Sound t where
  validated := validated
  inRange _ := inRange
  selected _ high := by omega
  ramping _ high := by omega
  dividing now := by
    rw [now] at outer
    contradiction
  divided now := by
    rw [now] at outer
    contradiction
  nearer within := by omega

/-- In a channel the request is in range, and so is the selected current. -/
structure Channel (s : RuntimeConfig) : Prop where
  inRange : InRange s.request
  low : 2250 ≤ s.selected.currentUa
  high : s.selected.currentUa ≤ 40500

theorem Sound.channel (held : Sound s) {state : RuntimeState} (now : s.state = state)
    (serves : state.serves = true) (within : 1 ≤ state.part ∧ state.part ≤ 4) : Channel s := by
  subst now
  obtain ⟨low, high⟩ := held.selected within.1 within.2
  refine ⟨held.inRange serves fun validates => ?_, low, high⟩
  rw [validates] at within
  exact absurd within.2 (by decide)

theorem Channel.kept (held : Channel s) (request : t.request = s.request)
    (selected : t.selected.currentUa = s.selected.currentUa) : Channel t :=
  ⟨request ▸ held.inRange, selected ▸ held.low, selected ▸ held.high⟩

/-- What is known at the states of the ramp, `state` being one of them. -/
theorem Channel.sound (held : Channel t) {state : RuntimeState} (now : t.state = state)
    (checked : state ≠ .validate)
    (ramping : state.part ≤ 3 → 1400 ≤ t.rampCurrentUa ∧ t.rampCurrentUa ≤ 46156)
    (dividing : state = .calcStep .ramp → Heading t ∧ t.divider.divisor = 10 ∧
      ∃ k, k + t.calcIteration = 15 ∧ t.divider.Dividing 66 19 (t.rampCurrentUa * 2 ^ 50) k)
    (divided : state = .calcDone .ramp → Heading t ∧ t.divider.quotient = t.rampCurrentUa / 10)
    (nearer : state.part = 1 ∨ state.part = 2 ∧ t.vopReadbackOnly = false → Nearer t) : Sound t := by
  subst now
  exact ⟨fun validates => absurd validates checked, fun _ _ => held.inRange,
    fun _ _ => ⟨held.low, held.high⟩, fun _ => ramping, dividing, divided, nearer⟩

theorem Heading.kept (held : Heading s) (kept : t.course = s.course) (up : t.rampUp = s.rampUp) : Heading t := by
  have selected : t.selected.currentUa = s.selected.currentUa := congrArg Course.selectedUa kept
  have ramp : t.rampCurrentUa = s.rampCurrentUa := congrArg Course.rampCurrentUa kept
  exact ⟨by rw [ramp, selected]; exact held.apart, by rw [up, ramp, selected]; exact held.up⟩

theorem sound_step (held : Sound s) (moves : Moves p s i t) : Sound t := by
  cases moves with
  | outside _ outside => exact sound_of_not_serves outside
  | taken _ later valid =>
    exact sound_of_outer (by rw [later]; rfl) (fun _ => valid) fun unchecked => absurd later unchecked
  | opened now later valid request =>
    refine sound_of_outer (by rw [later]; rfl) (fun unchecked => absurd (later.symm.trans unchecked) (by rintro ⟨⟩))
      fun _ => ?_
    rw [request]
    exact held.validated now valid
  | skips now later request _ =>
    refine sound_of_outer (by rw [later]; rfl) (fun unchecked => absurd (later.symm.trans unchecked) (by rintro ⟨⟩))
      fun _ => ?_
    rw [request]
    obtain now | now := now <;> exact held.inRange (by rw [now]; rfl) (by simp [now])
  | chosen now later selects course =>
    have inRange := held.inRange (by rw [now]; rfl) (by simp [now])
    have request : t.request = s.request := congrArg Course.request course
    have selected : t.selected.currentUa = _ := congrArg Course.selectedUa course
    have bounds := inRange _ selects
    refine Channel.sound ⟨request ▸ inRange, ?_, ?_⟩ later (by rintro ⟨⟩) ?_ (by rintro ⟨⟩) (by rintro ⟨⟩) ?_
    · rw [selected]
      exact bounds.1
    · rw [selected]
      exact bounds.2
    · exact fun early => absurd early (by decide)
    · exact fun early => absurd (early.imp_right And.left) (by decide)
  | follows after course => exact held.follows after course
  | counts within same course less =>
    refine held.stays same course within.2.2 fun now => ?_
    rw [lasting, lasting, now] at less
    exact absurd less (Nat.not_lt_zero _)
  | waits now same course =>
    obtain ⟨now, -⟩ | ⟨now, -⟩ := now <;> exact held.stays same course (by simp [now]) (by simp [now])
  | begins current now later low high course =>
    have channel := (held.channel now rfl (by decide)).kept (congrArg Course.request course)
      (congrArg Course.selectedUa course)
    have ramp : t.rampCurrentUa = current := congrArg Course.rampCurrentUa course
    refine channel.sound later (by rintro ⟨⟩) (fun _ => ?_) (by rintro ⟨⟩) (by rintro ⟨⟩) ?_
    · rw [ramp]
      exact ⟨low, high⟩
    · exact fun early => absurd (early.imp_right And.left) (by decide)
  | divides now later apart up iteration divider course =>
    have channel := (held.channel now rfl (by decide)).kept (congrArg Course.request course)
      (congrArg Course.selectedUa course)
    have ramp : t.rampCurrentUa = s.rampCurrentUa := congrArg Course.rampCurrentUa course
    have selected : t.selected.currentUa = s.selected.currentUa := congrArg Course.selectedUa course
    have ramping := held.ramping (by rw [now]; decide) (by rw [now]; decide)
    have short : s.rampCurrentUa % 2 ^ 16 = s.rampCurrentUa := Nat.mod_eq_of_lt (by omega)
    have starts : t.divider.Dividing 66 19 (s.rampCurrentUa * 2 ^ 50) 0 := by
      rw [divider, short]
      exact Divider.dividing_start (by omega) (by decide) (by decide)
    refine channel.sound later (by rintro ⟨⟩) (fun _ => ?_) (fun _ => ⟨⟨?_, ?_⟩, ?_, 0, ?_, ?_⟩) (by rintro ⟨⟩) ?_
    · rw [ramp]
      exact ramping
    · rw [ramp, selected]
      exact apart
    · rw [up, ramp, selected]
    · rw [divider]
    · rw [iteration]
    · rw [ramp]
      exact starts
    · exact fun early => absurd (early.imp_right And.left) (by decide)
  | arrived now later course =>
    have channel := (held.channel now rfl (by decide)).kept (congrArg Course.request course)
      (congrArg Course.selectedUa course)
    have ramp : t.rampCurrentUa = s.rampCurrentUa := congrArg Course.rampCurrentUa course
    have readback : t.vopReadbackOnly = true := congrArg Course.vopReadbackOnly course
    refine channel.sound later (by rintro ⟨⟩) (fun _ => ?_) (by rintro ⟨⟩) (by rintro ⟨⟩) ?_
    · rw [ramp]
      exact held.ramping (by rw [now]; decide) (by rw [now]; decide)
    · rintro (early | ⟨-, writes⟩)
      · exact absurd early (by decide)
      · rw [readback] at writes
        contradiction
  | divided now divider up goesOn course =>
    have channel := (held.channel now rfl (by decide)).kept (congrArg Course.request course)
      (congrArg Course.selectedUa course)
    have ramp : t.rampCurrentUa = s.rampCurrentUa := congrArg Course.rampCurrentUa course
    have ramping := held.ramping (by rw [now]; decide) (by rw [now]; decide)
    obtain ⟨heading, divisor, k, count, dividing⟩ := held.dividing now
    obtain ⟨next, same⟩ := dividing.step (by omega)
    rw [← divider] at next same
    obtain ⟨last, later⟩ | ⟨more, later⟩ := goesOn
    · obtain rfl : k = 15 := by omega
      refine channel.sound later (by rintro ⟨⟩) (fun _ => ramp ▸ ramping) (by rintro ⟨⟩)
        (fun _ => ⟨heading.kept course up, ?_⟩) fun early => ?_
      · rw [ramp]
        exact quotient_tenth next (same.trans divisor)
      · exact absurd (early.imp_right And.left) (by decide)
    · refine channel.sound later (by rintro ⟨⟩) (fun _ => ramp ▸ ramping)
        (fun _ => ⟨heading.kept course up, same.trans divisor, k + 1, by omega, ?_⟩) (by rintro ⟨⟩) fun early => ?_
      · rw [ramp]
        exact next
      · exact absurd (early.imp_right And.left) (by decide)
  | chooses now later course =>
    have channel := held.channel now rfl (by decide)
    have ramp : t.rampCurrentUa = s.rampCurrentUa := congrArg Course.rampCurrentUa course
    have next : t.rampNextUa = s.rampNext := congrArg Course.rampNextUa course
    have selected : t.selected.currentUa = s.selected.currentUa := congrArg Course.selectedUa course
    have ramping := held.ramping (by rw [now]; decide) (by rw [now]; decide)
    obtain ⟨heading, tenth⟩ := held.divided now
    obtain ⟨low, high, closer⟩ := nearer_of_rampNext ⟨channel.low, channel.high⟩ ramping heading tenth
    refine (channel.kept (congrArg Course.request course) selected).sound later (by rintro ⟨⟩)
      (fun _ => ramp ▸ ramping) (by rintro ⟨⟩) (by rintro ⟨⟩) fun _ => ⟨next ▸ low, next ▸ high, ?_⟩
    rw [next, selected, ramp]
    exact closer
  | ramps now later course =>
    have channel := (held.channel now rfl (by decide)).kept (congrArg Course.request course)
      (congrArg Course.selectedUa course)
    have ramp : t.rampCurrentUa = s.rampNextUa := congrArg Course.rampCurrentUa course
    have near := held.nearer (.inl (by rw [now]; rfl))
    refine channel.sound later (by rintro ⟨⟩) (fun _ => ?_) (by rintro ⟨⟩) (by rintro ⟨⟩) fun early => ?_
    · rw [ramp]
      exact ⟨near.low, near.high⟩
    · exact absurd (early.imp_right And.left) (by decide)
  | writes now later writes course =>
    have channel := (held.channel now rfl (by decide)).kept (congrArg Course.request course)
      (congrArg Course.selectedUa course)
    have ramp : t.rampCurrentUa = s.rampCurrentUa := congrArg Course.rampCurrentUa course
    have next : t.rampNextUa = s.rampNextUa := congrArg Course.rampNextUa course
    have selected : t.selected.currentUa = s.selected.currentUa := congrArg Course.selectedUa course
    have near := held.nearer (.inr ⟨by rw [now]; rfl, writes⟩)
    refine channel.sound later (by rintro ⟨⟩) (fun _ => ?_) (by rintro ⟨⟩) (by rintro ⟨⟩) fun _ => ⟨?_, ?_, ?_⟩
    · rw [ramp]
      exact held.ramping (by rw [now]; decide) (by rw [now]; decide)
    · rw [next]
      exact near.low
    · rw [next]
      exact near.high
    · rw [next, selected, ramp]
      exact near.closer

/-! ## The measure of an apply -/

/-- The channels that are still to come, the present one among them. -/
def channelsLeft (s : RuntimeConfig) : Nat := if s.state = .validate then 9 else 8 - s.channelIndex

/-- The way the ramp of the channel still has to go: all of it before it begins, none after it. -/
def way (s : RuntimeConfig) : Nat :=
  if s.state.part = 0 then 0
  else if s.state.part ≤ 3 then distance s.rampCurrentUa s.selected.currentUa
  else 2 ^ 16

/-- The measure: the channels, the ramp, the states, and how long a state lasts. -/
def measure (p : RuntimeParams) (s : RuntimeConfig) : Nat ×ₗ Nat ×ₗ Nat ×ₗ Nat :=
  toLex (s.channelsLeft, toLex (s.way, toLex (s.state.rank, s.lasting p)))

theorem measure_lt : t.measure p < s.measure p ↔ t.channelsLeft < s.channelsLeft ∨
    t.channelsLeft = s.channelsLeft ∧ (t.way < s.way ∨ t.way = s.way ∧
      (t.state.rank < s.state.rank ∨ t.state.rank = s.state.rank ∧ t.lasting p < s.lasting p)) := by
  rw [measure, measure, Prod.Lex.toLex_lt_toLex, Prod.Lex.toLex_lt_toLex, Prod.Lex.toLex_lt_toLex]

theorem rank_le (state : RuntimeState) : state.rank ≤ 63 := by
  cases state with
  | launch a | await a => cases a <;> decide
  | calcStep d | calcDone d => cases d <;> decide
  | _ => decide

theorem channelsLeft_of_ne (checked : s.state ≠ .validate) : s.channelsLeft = 8 - s.channelIndex :=
  if_neg checked

/-- Nothing but the state and the currents change, and the state becomes a lower one. -/
theorem measure_lt_of_lower {u v : RuntimeState} (now : s.state = u) (later : t.state = v)
    (checked : u ≠ .validate) (lower : v.rank < u.rank) (channel : t.channelIndex = s.channelIndex)
    (way : t.way ≤ s.way) : t.measure p < s.measure p := by
  have unchecked : v ≠ .validate := by
    rintro rfl
    exact absurd lower (not_lt.mpr (rank_le u))
  subst now later
  rw [measure_lt, channelsLeft_of_ne checked, channelsLeft_of_ne unchecked, channel]
  omega

theorem way_of_part {state : RuntimeState} (now : s.state = state) (within : 1 ≤ state.part ∧ state.part ≤ 3) :
    s.way = distance s.rampCurrentUa s.selected.currentUa := by
  rw [way, now, if_neg (by omega), if_pos within.2]

/-- Within the ramp, a lower state on the same way. -/
theorem measure_lt_of_ramp {u v : RuntimeState} (now : s.state = u) (later : t.state = v)
    (lower : v.rank < u.rank) (within : (1 ≤ u.part ∧ u.part ≤ 3) ∧ 1 ≤ v.part ∧ v.part ≤ 3)
    (channel : t.channelIndex = s.channelIndex) (ramp : t.rampCurrentUa = s.rampCurrentUa)
    (selected : t.selected.currentUa = s.selected.currentUa) : t.measure p < s.measure p := by
  refine measure_lt_of_lower now later ?_ lower channel ?_
  · rintro rfl
    exact absurd within.1.2 (by decide)
  · rw [way_of_part now within.1, way_of_part later within.2, ramp, selected]

def Waits (s : RuntimeConfig) (i : RuntimeIn) : Prop :=
  s.state = .ncoCommitStart ∧ i.ncoCommitBusy = true ∨ s.state = .ncoCommitWait ∧ i.ncoCommitDone = false

/-- Every clock edge brings an apply nearer to its end, or waits for the NCO commit. -/
theorem measure_step (held : Sound s) (moves : Moves p s i t) (serves : s.state.serves = true) :
    (t.state.serves = false ∨ t.state.serves = true ∧ t.measure p < s.measure p) ∨
      s.Waits i ∧ t.state = s.state ∧ t.measure p = s.measure p := by
  cases moves with
  | outside _ outside => exact .inl (.inl outside)
  | taken now _ _ =>
    rw [now] at serves
    contradiction
  | opened now later _ _ =>
    refine .inl (.inr ⟨by rw [later]; rfl, measure_lt.mpr (.inl ?_)⟩)
    rw [channelsLeft_of_ne (by simp [later]), channelsLeft, if_pos now]
    omega
  | skips now later _ index =>
    have checked : s.state ≠ .validate := by obtain now | now := now <;> simp [now]
    refine .inl (.inr ⟨by rw [later]; rfl, measure_lt.mpr (.inl ?_)⟩)
    rw [channelsLeft_of_ne (by simp [later]), channelsLeft_of_ne checked]
    omega
  | chosen now later _ course =>
    refine .inl (.inr ⟨by rw [later]; rfl,
      measure_lt_of_lower now later (by rintro ⟨⟩) (by decide) (congrArg Course.channelIndex course) ?_⟩)
    rw [way, way, now, later]
    exact le_rfl
  | follows after course =>
    have ramp : t.rampCurrentUa = s.rampCurrentUa := congrArg Course.rampCurrentUa course
    have selected : t.selected.currentUa = s.selected.currentUa := congrArg Course.selectedUa course
    refine .inl (.inr ⟨after.still, measure_lt_of_lower rfl rfl after.serves.2 after.lower
      (congrArg Course.channelIndex course) ?_⟩)
    obtain none | same := after.part
    · rw [way, if_pos none]
      exact Nat.zero_le _
    · rw [way, way, same, ramp, selected]
  | counts within same course less =>
    have ramp : t.rampCurrentUa = s.rampCurrentUa := congrArg Course.rampCurrentUa course
    have selected : t.selected.currentUa = s.selected.currentUa := congrArg Course.selectedUa course
    have channel : t.channelIndex = s.channelIndex := congrArg Course.channelIndex course
    refine .inl (.inr ⟨same ▸ serves, measure_lt.mpr (.inr ⟨?_, .inr ⟨?_, .inr ⟨?_, less⟩⟩⟩)⟩)
    · rw [channelsLeft, channelsLeft, same, channel]
    · rw [way, way, same, ramp, selected]
    · rw [same]
  | waits now same course =>
    have ramp : t.rampCurrentUa = s.rampCurrentUa := congrArg Course.rampCurrentUa course
    have selected : t.selected.currentUa = s.selected.currentUa := congrArg Course.selectedUa course
    have channel : t.channelIndex = s.channelIndex := congrArg Course.channelIndex course
    refine .inr ⟨now, same, ?_⟩
    have brief : t.lasting p = 0 ∧ s.lasting p = 0 := by
      obtain ⟨now, -⟩ | ⟨now, -⟩ := now <;> simp [lasting, same, now]
    rw [measure, measure, brief.1, brief.2, channelsLeft, channelsLeft, way, way, same, channel, ramp, selected]
  | begins current now later low high course =>
    have channel := held.channel now rfl (by decide)
    have ramp : t.rampCurrentUa = current := congrArg Course.rampCurrentUa course
    have selected : t.selected.currentUa = s.selected.currentUa := congrArg Course.selectedUa course
    have bounds := And.intro channel.low channel.high
    refine .inl (.inr ⟨by rw [later]; rfl,
      measure_lt_of_lower now later (by rintro ⟨⟩) (by decide) (congrArg Course.channelIndex course) ?_⟩)
    have all : s.way = 2 ^ 16 := by rw [way, now]; rfl
    rw [way_of_part later (by decide), all, ramp, selected, distance]
    omega
  | divides now later _ _ _ _ course =>
    exact .inl (.inr ⟨by rw [later]; rfl, measure_lt_of_ramp now later (by decide) (by decide)
      (congrArg Course.channelIndex course) (congrArg Course.rampCurrentUa course)
      (congrArg Course.selectedUa course)⟩)
  | arrived now later course | chooses now later course =>
    exact .inl (.inr ⟨by rw [later]; rfl, measure_lt_of_ramp now later (by decide) (by decide)
      (congrArg Course.channelIndex course) (congrArg Course.rampCurrentUa course)
      (congrArg Course.selectedUa course)⟩)
  | writes now later _ course =>
    exact .inl (.inr ⟨by rw [later]; rfl, measure_lt_of_ramp now later (by decide) (by decide)
      (congrArg Course.channelIndex course) (congrArg Course.rampCurrentUa course)
      (congrArg Course.selectedUa course)⟩)
  | divided now divider up goesOn course =>
    have channel : t.channelIndex = s.channelIndex := congrArg Course.channelIndex course
    have ramp : t.rampCurrentUa = s.rampCurrentUa := congrArg Course.rampCurrentUa course
    have selected : t.selected.currentUa = s.selected.currentUa := congrArg Course.selectedUa course
    obtain ⟨-, later⟩ | ⟨count, later⟩ := goesOn
    · exact .inl (.inr ⟨by rw [later]; rfl,
        measure_lt_of_ramp now later (by decide) (by decide) channel ramp selected⟩)
    · refine .inl (.inr ⟨by rw [later]; rfl, measure_lt.mpr (.inr ⟨?_, .inr ⟨?_, .inr ⟨?_, ?_⟩⟩⟩)⟩)
      · rw [channelsLeft, channelsLeft, now, later, channel]
      · rw [way, way, now, later, ramp, selected]
      · rw [now, later]
      · simp only [lasting, now, later]
        omega
  | ramps now later course =>
    -- the way back to `vopPrep`: the state is a higher one, but the ramp is nearer to its end
    have channel : t.channelIndex = s.channelIndex := congrArg Course.channelIndex course
    have ramp : t.rampCurrentUa = s.rampNextUa := congrArg Course.rampCurrentUa course
    have selected : t.selected.currentUa = s.selected.currentUa := congrArg Course.selectedUa course
    have near := held.nearer (.inl (by rw [now]; rfl))
    refine .inl (.inr ⟨by rw [later]; rfl, measure_lt.mpr (.inr ⟨?_, .inl ?_⟩)⟩)
    · rw [channelsLeft_of_ne (by simp [later]), channelsLeft_of_ne (by simp [now]), channel]
    · rw [way_of_part now (by decide), way_of_part later (by decide), ramp, selected]
      exact near.closer

/-! ## An apply ends -/

/-- Every NCO commit finishes: the bridge becomes free, and it becomes done. -/
structure CommitsFinish (σ : Nat → RuntimeConfig) (inputs : Nat → RuntimeIn) : Prop where
  free : ∀ n, (σ n).state = .ncoCommitStart → ∃ m, n ≤ m ∧ (inputs m).ncoCommitBusy = false
  done : ∀ n, (σ n).state = .ncoCommitWait → ∃ m, n ≤ m ∧ (inputs m).ncoCommitDone = true

/-- The registers from one clock edge to the next. -/
structure Follow (p : RuntimeParams) (σ : Nat → RuntimeConfig) (inputs : Nat → RuntimeIn) : Prop where
  next : ∀ n, σ (n + 1) = (σ n).step p (inputs n)
  ported : ∀ n, Ported p (σ n)
  sound : ∀ n, Sound (σ n)

variable {σ : Nat → RuntimeConfig} {inputs : Nat → RuntimeIn}

theorem Follow.moves (follow : Follow p σ inputs) (n : Nat) : Moves p (σ n) (inputs n) (σ (n + 1)) := by
  rw [follow.next]
  exact moves_step (follow.ported n)

/-- A state that waits for an event goes on once the event has happened. -/
theorem Follow.waited (follow : Follow p σ inputs) {state : RuntimeState} (serves : state.serves = true)
    (happens : RuntimeIn → Prop) (leaves : ∀ s i, s.state = state → happens i → ¬ Waits s i) (d n : Nat)
    (now : (σ n).state = state) (event : happens (inputs (n + d))) :
    ∃ m, n ≤ m ∧ ((σ m).state.serves = false ∨
      (σ m).state.serves = true ∧ (σ m).measure p < (σ n).measure p) := by
  induction d generalizing n with
  | zero =>
    obtain onward | ⟨waits, -, -⟩ := measure_step (follow.sound n) (follow.moves n) (now ▸ serves)
    · exact ⟨n + 1, by omega, onward⟩
    · exact absurd waits (leaves _ _ now event)
  | succ d ih =>
    obtain onward | ⟨-, same, measure⟩ := measure_step (follow.sound n) (follow.moves n) (now ▸ serves)
    · exact ⟨n + 1, by omega, onward⟩
    · obtain ⟨m, later, onward⟩ := ih (n + 1) (same.trans now)
        (by rwa [show n + 1 + d = n + (d + 1) by omega])
      exact ⟨m, by omega, measure ▸ onward⟩

theorem Follow.ends (follow : Follow p σ inputs) (finish : CommitsFinish σ inputs) :
    LeadsTo σ (fun s => s.state.serves = true) fun s => s.state.serves = false := by
  refine leadsTo_of_measure (measure p) fun n serves => ?_
  obtain onward | ⟨⟨now, -⟩ | ⟨now, -⟩, -, -⟩ := measure_step (follow.sound n) (follow.moves n) serves
  · exact ⟨n + 1, by omega, onward⟩
  · obtain ⟨m, later, free⟩ := finish.free n now
    obtain ⟨d, rfl⟩ := Nat.exists_eq_add_of_le later
    refine follow.waited rfl (·.ncoCommitBusy = false) (fun s i there free waits => ?_) d n now free
    simp [Waits, there, free] at waits
  · obtain ⟨m, later, done⟩ := finish.done n now
    obtain ⟨d, rfl⟩ := Nat.exists_eq_add_of_le later
    refine follow.waited rfl (·.ncoCommitDone = true) (fun s i there done waits => ?_) d n now done
    simp [Waits, there, done] at waits

end RuntimeConfig

end Xczu47dr.Rfdc
