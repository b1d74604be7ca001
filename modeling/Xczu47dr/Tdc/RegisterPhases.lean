import Xczu47dr.Tdc.RegisterService

/-! # The phases of a register access

An access is taken, waits to be performed, is performed, and its acknowledgement
returns.  A reset of the sample half in between either comes too late to stop the
acknowledgement, or loses it, and then the access is given up.
-/

namespace Xczu47dr.Tdc.RegisterService

open Clocked

variable (s : RegisterService)

/-! ## When the clocks and the reset are in order -/

/-- The sample half may be reset: the toggle is down, and an acknowledgement on its way has
    not been caught or has already passed the second register. -/
def mayReset : Bool :=
  !s.port.requestToggle && (!s.port.inflight || s.port.ackSync.first != s.port.requestToggle ||
    s.port.ackSync.second == s.port.requestToggle)

/-- The sample half may be released: it has seen the toggle, and the port with an access in
    flight has caught the reset. -/
def mayRelease : Bool :=
  !s.side.requestSync.unsettled && (!s.port.inflight || !s.port.aliveSync.first)

/-- The port may take an access: it sees the sample half out of reset. -/
def mayTake (i : PortIn) : Bool :=
  s.alive && s.port.aliveSync.first && s.port.aliveSync.second &&
    (s.port.aliveSync.edge s.alive i.aliveCaught).first

/-- The port catches the toggle that a reset has put back before it catches the reset. -/
def skewed (i : PortIn) : Bool :=
  s.port.inflight && !s.alive && s.port.aliveSync.first && s.port.ackSync.first != s.port.requestToggle &&
    (s.port.ackSync.edge s.side.ackToggle i.ackCaught).first == s.port.requestToggle &&
    (s.port.aliveSync.edge s.alive i.aliveCaught).first

/-! ## The phases -/

/-- The sample half has seen the toggle and acknowledged it. -/
structure Resting : Prop where
  acked : s.side.ackToggle = s.port.requestToggle
  first : s.side.requestSync.first = s.port.requestToggle
  second : s.side.requestSync.second = s.port.requestToggle
  third : s.side.requestSync.third = s.port.requestToggle
  settled : s.alive = true → s.side.requestSync.unsettled = false
  low : s.alive = false → s.port.requestToggle = false

/-- No access is in flight. -/
structure Idle : Prop where
  resting : s.Resting
  free : s.port.inflight = false
  ack : s.port.ackSync.Shows s.port.requestToggle

/-- The access `a` is on its way to the sample half. -/
structure Waiting (a : Access) : Prop where
  inflight : s.port.inflight = true
  held : s.port.requestHold = a
  unacked : s.side.ackToggle = !s.port.requestToggle
  request : s.side.requestSync.Arriving s.port.requestToggle
  access : s.side.request.Follows s.side.requestSync s.port.requestToggle a
  ack : s.port.ackSync.Shows !s.port.requestToggle
  alive : s.alive = true
  seen : s.port.aliveSync.Shows true

/-- The access has been performed, and its reply `r` is on its way back. -/
structure Performed (r : Reply) : Prop where
  inflight : s.port.inflight = true
  resting : s.Resting
  ack : s.port.ackSync.Arriving s.port.requestToggle
  held : s.side.responseHold = r
  reply : s.port.response.Follows s.port.ackSync s.port.requestToggle r
  alive : s.alive = true
  seen : s.port.aliveSync.Shows true

/-- The sample half has been reset behind a reply `r` that returns all the same. -/
structure Landing (r : Reply) : Prop where
  inflight : s.port.inflight = true
  resting : s.Resting
  ack : s.port.ackSync.Arriving s.port.requestToggle
  near : s.port.ackSync.second = s.port.requestToggle
  front : s.port.ackSync.third = (!s.port.requestToggle) → s.port.response.front = r
  back : s.port.ackSync.third = s.port.requestToggle → s.port.response.back = r
  seen : s.port.aliveSync.third = true
  next : s.port.ackSync.third = (!s.port.requestToggle) → s.port.aliveSync.second = true

/-- How far the reset that loses an acknowledgement has come; the toggle it has put back is
    never ahead of it. -/
inductive Cut : Prop
  | fresh : s.port.aliveSync.first = true → s.port.aliveSync.second = true → s.port.aliveSync.third = true →
      s.port.ackSync.first = (!s.port.requestToggle) → s.port.ackSync.second = (!s.port.requestToggle) →
      s.port.ackSync.third = (!s.port.requestToggle) → s.alive = false → Cut
  | caught : s.port.aliveSync.first = false → s.port.aliveSync.second = true → s.port.aliveSync.third = true →
      s.port.ackSync.second = (!s.port.requestToggle) → s.port.ackSync.third = (!s.port.requestToggle) →
      s.port.ackSync.unsettled = false → Cut
  | passing : s.port.aliveSync.second = false → s.port.aliveSync.third = true →
      s.port.ackSync.first = s.port.requestToggle → s.port.ackSync.third = (!s.port.requestToggle) →
      s.port.ackSync.unsettled = false → Cut
  | fallen : s.port.aliveSync.third = false → s.port.ackSync.first = s.port.requestToggle →
      s.port.ackSync.second = s.port.requestToggle → s.port.ackSync.unsettled = false → Cut

/-- The sample half has been reset and the access will be given up. -/
structure Lost : Prop where
  inflight : s.port.inflight = true
  resting : s.Resting
  cut : s.Cut

/-- The access `a` is in flight, and has been performed with the reply if there is one. -/
inductive InFlight (a : Access) : Option Reply → Prop
  | waiting : s.Waiting a → InFlight a none
  | performed {r : Reply} : s.Performed r → InFlight a (some r)
  | landing {r : Reply} : s.Landing r → InFlight a (some r)
  | lost {reply : Option Reply} : s.Lost → InFlight a reply

variable {s} {a : Access} {reply : Option Reply}

theorem InFlight.inflight (flight : s.InFlight a reply) : s.port.inflight = true := by
  cases flight with
  | waiting waiting => exact waiting.inflight
  | performed performed => exact performed.inflight
  | landing landing => exact landing.inflight
  | lost lost => exact lost.inflight

/-- The registers of the port in `t` are those in `s`. -/
structure Unmoved (s t : RegisterService) : Prop where
  inflight : t.port.inflight = s.port.inflight
  toggle : t.port.requestToggle = s.port.requestToggle
  ack : t.port.ackSync = s.port.ackSync
  first : t.port.aliveSync.first = s.port.aliveSync.first
  second : t.port.aliveSync.second = s.port.aliveSync.second
  third : t.port.aliveSync.third = s.port.aliveSync.third
  front : t.port.response.front = s.port.response.front
  back : t.port.response.back = s.port.response.back

variable {t : RegisterService} {r : Reply}

theorem Idle.unmoved (idle : s.Idle) (same : Unmoved s t) (resting : t.Resting) : t.Idle where
  resting := resting
  free := same.inflight.trans idle.free
  ack := by
    rw [same.ack, same.toggle]
    exact idle.ack

theorem Landing.unmoved (landing : s.Landing r) (same : Unmoved s t) (resting : t.Resting) : t.Landing r where
  inflight := same.inflight.trans landing.inflight
  resting := resting
  ack := by
    rw [same.ack, same.toggle]
    exact landing.ack
  near := by
    rw [same.ack, same.toggle]
    exact landing.near
  front third := by
    rw [same.ack, same.toggle] at third
    exact same.front.trans (landing.front third)
  back third := by
    rw [same.ack, same.toggle] at third
    exact same.back.trans (landing.back third)
  seen := same.third.trans landing.seen
  next third := by
    rw [same.ack, same.toggle] at third
    exact same.second.trans (landing.next third)

/-- A reset that has not been caught must last. -/
theorem Lost.unmoved (lost : s.Lost) (same : Unmoved s t) (resting : t.Resting)
    (lasts : s.port.aliveSync.first = true → s.alive = false → t.alive = false) : t.Lost where
  inflight := same.inflight.trans lost.inflight
  resting := resting
  cut := by
    obtain ⟨-, toggle, ack, first, second, third, -, -⟩ := same
    cases lost.cut with
    | fresh up up' up'' ackFirst ackSecond ackThird down =>
      rw [← toggle, ← ack] at ackFirst ackSecond ackThird
      exact .fresh (first.trans up) (second.trans up') (third.trans up'') ackFirst ackSecond ackThird (lasts up down)
    | caught down up up' ackSecond ackThird settled =>
      rw [← toggle, ← ack] at ackSecond ackThird
      exact .caught (first.trans down) (second.trans up) (third.trans up') ackSecond ackThird (ack ▸ settled)
    | passing down up ackFirst ackThird settled =>
      rw [← toggle, ← ack] at ackFirst ackThird
      exact .passing (second.trans down) (third.trans up) ackFirst ackThird (ack ▸ settled)
    | fallen down ackFirst ackSecond settled =>
      rw [← toggle, ← ack] at ackFirst ackSecond
      exact .fallen (third.trans down) ackFirst ackSecond (ack ▸ settled)

/-! ## An edge of the sample clock -/

theorem Resting.unperformed (resting : s.Resting) : s.side.performs = false := by
  rw [RegisterSide.performs, resting.third, resting.acked]
  simp

/-- A resting sample half changes nothing the port could see. -/
theorem Resting.sideEdge_port (resting : s.Resting) (i : SideIn) : (s.sideEdge i).port = s.port := by
  have quiet := resting.unperformed
  have same : ∀ side : RegisterSide, side.ackToggle = s.side.ackToggle → side.responseHold = s.side.responseHold →
      (s.becomes side s.alive).port = s.port := by
    intro side ack reply
    simp [becomes, ack, reply, Passage.disturb]
  rw [sideEdge]
  apply same
  · split
    · exact resting.third.trans resting.acked.symm
    · rfl
  · split
    · simp [RegisterSide.step, quiet]
    · rfl

theorem Resting.sideEdge (resting : s.Resting) (i : SideIn) : (s.sideEdge i).Resting := by
  have port := resting.sideEdge_port i
  cases alive : s.alive with
  | true =>
    have side : (s.sideEdge i).side = s.side.step i s.port.requestToggle s.port.requestHold := by
      simp [RegisterService.sideEdge, alive, becomes]
    have first : (s.sideEdge i).side.requestSync.first = s.port.requestToggle := by
      rw [side]
      change (if s.side.requestSync.unsettled then _ else _) = _
      rw [resting.settled alive]
      rfl
    refine ⟨?_, ?_, ?_, ?_, ?_, ?_⟩
    · rw [port, side]
      exact resting.third
    · rw [port, first]
    · rw [port, side]
      exact resting.first
    · rw [port, side]
      exact resting.second
    · intro _
      rw [side]
      rfl
    · intro down
      exact absurd (alive.symm.trans down) (by decide)
  | false =>
    have side : (s.sideEdge i).side = s.side.hold i := by
      simp [RegisterService.sideEdge, alive, becomes]
    refine ⟨?_, ?_, ?_, ?_, ?_, ?_⟩
    · rw [port, side]
      exact resting.acked
    · rw [port, side]
      exact resting.first
    · rw [port, side]
      exact resting.second
    · rw [port, side]
      exact resting.third
    · intro _
      rw [side]
      rfl
    · intro _
      rw [port]
      exact resting.low alive

theorem Resting.sideEdge_unmoved (resting : s.Resting) (i : SideIn) : Unmoved s (s.sideEdge i) := by
  have port := resting.sideEdge_port i
  constructor <;> rw [port]

theorem Idle.sideEdge (idle : s.Idle) (i : SideIn) : (s.sideEdge i).Idle :=
  idle.unmoved (idle.resting.sideEdge_unmoved i) (idle.resting.sideEdge i)

/-- An access that waits goes on waiting, or is performed as it was taken. -/
theorem Waiting.sideEdge (waiting : s.Waiting a) (i : SideIn) :
    s.side.performs = false ∧ (s.sideEdge i).Waiting a ∨
      s.side.performs = true ∧ s.side.request.back = a ∧ (s.sideEdge i).Performed (s.side.performed i).2 := by
  have edge : s.sideEdge i = s.becomes (s.side.step i s.port.requestToggle s.port.requestHold) s.alive := by
    rw [RegisterService.sideEdge, waiting.alive]
    rfl
  have arrives := waiting.request.edge i.requestCaught
  cases performs : s.side.performs with
  | false =>
    have unacked : s.side.requestSync.third = s.side.ackToggle := by
      simpa [RegisterSide.performs] using performs
    have port : (s.sideEdge i).port = s.port := by
      rw [edge]
      simp [becomes, RegisterSide.step, unacked, performs, Passage.disturb]
    refine .inl ⟨rfl, ?_⟩
    constructor
    · rw [port]
      exact waiting.inflight
    · rw [port]
      exact waiting.held
    · rw [port, edge]
      exact unacked.trans waiting.unacked
    · rw [port, edge]
      exact arrives
    · rw [port, edge, ← waiting.held]
      exact (waiting.held ▸ waiting.access).edge waiting.request i.requestCaught i.accessCaught
    · rw [port]
      exact waiting.ack
    · rw [edge]
      exact waiting.alive
    · rw [port]
      exact waiting.seen
  | true =>
    have third : s.side.requestSync.third = s.port.requestToggle := by
      rw [RegisterSide.performs, waiting.unacked] at performs
      simpa using performs
    have shows := waiting.request.shows third
    refine .inr ⟨rfl, waiting.access.back third, ?_⟩
    have acked : (s.side.step i s.port.requestToggle s.port.requestHold).ackToggle = s.port.requestToggle := third
    have replied : (s.side.step i s.port.requestToggle s.port.requestHold).responseHold = (s.side.performed i).2 := by
      rw [RegisterSide.step, performs]
      rfl
    rw [edge]
    constructor
    · exact waiting.inflight
    · constructor
      · exact acked
      · exact (shows.edge i.requestCaught).first
      · exact shows.first
      · exact shows.second
      · exact fun _ => rfl
      · exact fun down => absurd (waiting.alive.symm.trans down) (by decide)
    · change (s.port.ackSync.disturb s.side.ackToggle _).Arriving s.port.requestToggle
      rw [acked, waiting.unacked]
      exact waiting.ack.changes
    · exact replied
    · change (s.port.response.disturb _ _).Follows (s.port.ackSync.disturb s.side.ackToggle _) s.port.requestToggle _
      rw [acked, waiting.unacked, replied]
      exact Passage.follows_change waiting.ack _
    · exact waiting.alive
    · change (s.port.aliveSync.disturb s.alive s.alive).Shows true
      rw [Synchronizer.disturb_self]
      exact waiting.seen

/-- Of the accesses in flight only one that waits is performed. -/
theorem InFlight.sideEdge (flight : s.InFlight a reply) (i : SideIn) :
    (s.alive && s.side.performs) = false ∧ (s.sideEdge i).InFlight a reply ∨
      (s.alive && s.side.performs) = true ∧ s.side.request.back = a ∧ reply = none ∧
        (s.sideEdge i).InFlight a (some (s.side.performed i).2) := by
  cases flight with
  | waiting waiting =>
    rw [waiting.alive, Bool.true_and]
    rcases waiting.sideEdge i with ⟨quiet, still⟩ | ⟨performs, own, performed⟩
    · exact .inl ⟨quiet, .waiting still⟩
    · exact .inr ⟨performs, own, rfl, .performed performed⟩
  | performed performed =>
    have port := performed.resting.sideEdge_port i
    have quiet := performed.resting.unperformed
    refine .inl ⟨by rw [quiet, Bool.and_false], .performed ?_⟩
    constructor
    · rw [port]
      exact performed.inflight
    · exact performed.resting.sideEdge i
    · rw [port]
      exact performed.ack
    · rw [RegisterService.sideEdge, performed.alive, ← performed.held]
      simp [becomes, RegisterSide.step, quiet]
    · rw [port]
      exact performed.reply
    · exact performed.alive
    · rw [port]
      exact performed.seen
  | landing landing =>
    have same := landing.resting.sideEdge_unmoved i
    exact .inl ⟨by rw [landing.resting.unperformed, Bool.and_false],
      .landing (landing.unmoved same (landing.resting.sideEdge i))⟩
  | lost lost =>
    have same := lost.resting.sideEdge_unmoved i
    exact .inl ⟨by rw [lost.resting.unperformed, Bool.and_false],
      .lost (lost.unmoved same (lost.resting.sideEdge i) fun _ down => down)⟩

/-! ## The reset of the sample half -/

theorem resetEdge_unmoved {asserted : Bool} (acked : (s.resetEdge asserted).side.ackToggle = s.side.ackToggle) :
    Unmoved s (s.resetEdge asserted) where
  inflight := rfl
  toggle := rfl
  ack := by
    change s.port.ackSync.disturb s.side.ackToggle (s.resetEdge asserted).side.ackToggle = _
    rw [acked, Synchronizer.disturb_self]
  first := rfl
  second := rfl
  third := rfl
  front := rfl
  back := rfl

theorem Resting.reset (resting : s.Resting) (down : s.port.requestToggle = false) :
    (s.resetEdge true).Resting ∧ (s.resetEdge true).side.ackToggle = s.side.ackToggle :=
  ⟨⟨down.symm, down.symm, down.symm, down.symm, fun up => absurd up Bool.false_ne_true, fun _ => down⟩,
    (resting.acked.trans down).symm⟩

theorem Resting.release (resting : s.Resting) (settled : s.side.requestSync.unsettled = false) :
    (s.resetEdge false).Resting :=
  ⟨resting.acked, resting.first, resting.second, resting.third, fun _ => settled,
    fun down => absurd down.symm Bool.false_ne_true⟩

/-- A release of what is not in reset does nothing. -/
theorem resetEdge_alive (alive : s.alive = true) : s.resetEdge false = s := by
  simp [RegisterService.resetEdge, becomes, alive, Passage.disturb]
  rw [← alive]


theorem mayReset_down (may : s.mayReset = true) : s.port.requestToggle = false := by
  simp only [mayReset, Bool.and_eq_true, Bool.not_eq_true'] at may
  exact may.1

/-- The reset loses an acknowledgement that has not been caught. -/
theorem lost_of_reset (inflight : s.port.inflight = true) (resting : (s.resetEdge true).Resting)
    (seen : s.port.aliveSync.Shows true) (first : s.port.ackSync.first = !s.port.requestToggle)
    (second : s.port.ackSync.second = !s.port.requestToggle) (third : s.port.ackSync.third = !s.port.requestToggle) :
    (s.resetEdge true).Lost :=
  ⟨inflight, resting, .fresh seen.first seen.second seen.third first second third rfl⟩

theorem Waiting.reset (waiting : s.Waiting a) (may : s.mayReset = true) : (s.resetEdge true).Lost := by
  have down := mayReset_down may
  have resting : (s.resetEdge true).Resting :=
    ⟨down.symm, down.symm, down.symm, down.symm, fun up => absurd up Bool.false_ne_true, fun _ => down⟩
  exact lost_of_reset waiting.inflight resting waiting.seen waiting.ack.first waiting.ack.second waiting.ack.third

theorem Performed.reset (performed : s.Performed r) (may : s.mayReset = true) :
    (s.resetEdge true).Lost ∨ (s.resetEdge true).Landing r := by
  have down := mayReset_down may
  obtain ⟨resting, acked⟩ := performed.resting.reset down
  have same := resetEdge_unmoved acked
  by_cases near : s.port.ackSync.second = s.port.requestToggle
  · right
    constructor
    · exact performed.inflight
    · exact resting
    · rw [same.ack, same.toggle]
      exact performed.ack
    · rw [same.ack, same.toggle]
      exact near
    · exact fun _ => performed.reply.front near
    · intro third
      rw [same.ack, same.toggle] at third
      exact performed.reply.back third
    · exact performed.seen.third
    · exact fun _ => performed.seen.second
  · left
    -- no stage behind the first can have it, and the first may not have it either
    have uncaught : s.port.ackSync.first ≠ s.port.requestToggle := by
      intro first
      rw [mayReset, performed.inflight, first, beq_false_of_ne near] at may
      simp at may
    have third : s.port.ackSync.third ≠ s.port.requestToggle := fun third => near (performed.ack.third third)
    exact lost_of_reset performed.inflight resting performed.seen (Bool.eq_not_of_ne uncaught) (Bool.eq_not_of_ne near)
      (Bool.eq_not_of_ne third)

theorem InFlight.reset (flight : s.InFlight a reply) (may : s.alive = false ∨ s.mayReset = true) :
    (s.resetEdge true).InFlight a reply := by
  cases flight with
  | waiting waiting =>
    rcases may with down | may
    · exact absurd (waiting.alive.symm.trans down) (by decide)
    · exact .lost (waiting.reset may)
  | performed performed =>
    rcases may with down | may
    · exact absurd (performed.alive.symm.trans down) (by decide)
    · rcases performed.reset may with lost | landing
      · exact .lost lost
      · exact .landing landing
  | landing landing =>
    have down := may.elim landing.resting.low mayReset_down
    obtain ⟨resting, acked⟩ := landing.resting.reset down
    exact .landing (landing.unmoved (resetEdge_unmoved acked) resting)
  | lost lost =>
    have down := may.elim lost.resting.low mayReset_down
    obtain ⟨resting, acked⟩ := lost.resting.reset down
    exact .lost (lost.unmoved (resetEdge_unmoved acked) resting fun _ _ => rfl)

theorem InFlight.release (flight : s.InFlight a reply) (may : s.alive = true ∨ s.mayRelease = true) :
    (s.resetEdge false).InFlight a reply := by
  rcases may with alive | may
  · rw [resetEdge_alive alive]
    exact flight
  · simp only [mayRelease, flight.inflight, Bool.not_true, Bool.false_or, Bool.and_eq_true, Bool.not_eq_true'] at may
    obtain ⟨settled, caught⟩ := may
    cases flight with
    | waiting waiting =>
      rw [resetEdge_alive waiting.alive]
      exact .waiting waiting
    | performed performed =>
      rw [resetEdge_alive performed.alive]
      exact .performed performed
    | landing landing =>
      exact .landing (landing.unmoved (resetEdge_unmoved rfl) (landing.resting.release settled))
    | lost lost =>
      refine .lost (lost.unmoved (resetEdge_unmoved rfl) (lost.resting.release settled) fun first _ => ?_)
      exact absurd (first.symm.trans caught) (by decide)

theorem Idle.reset (idle : s.Idle) (may : s.alive = false ∨ s.mayReset = true) : (s.resetEdge true).Idle := by
  have down := may.elim idle.resting.low mayReset_down
  obtain ⟨resting, acked⟩ := idle.resting.reset down
  exact idle.unmoved (resetEdge_unmoved acked) resting

theorem Idle.release (idle : s.Idle) (may : s.alive = true ∨ s.mayRelease = true) : (s.resetEdge false).Idle := by
  rcases may with alive | may
  · rw [resetEdge_alive alive]
    exact idle
  · simp only [mayRelease, Bool.and_eq_true, Bool.not_eq_true'] at may
    exact idle.unmoved (resetEdge_unmoved rfl) (idle.resting.release may.1)

/-! ## An edge of the DDR clock -/

variable {i : PortIn}

theorem portEdge_side (declines : s.port.takes i = false) : (s.portEdge i).side = s.side := by
  simp [RegisterService.portEdge, RegisterPort.step, declines, Passage.disturb]

theorem portEdge_toggle (declines : s.port.takes i = false) :
    (s.portEdge i).port.requestToggle = s.port.requestToggle := by
  simp [RegisterService.portEdge, RegisterPort.step, declines]

theorem portEdge_hold (declines : s.port.takes i = false) : (s.portEdge i).port.requestHold = s.port.requestHold := by
  simp [RegisterService.portEdge, RegisterPort.step, declines]

theorem Resting.portEdge (resting : s.Resting) (declines : s.port.takes i = false) : (s.portEdge i).Resting := by
  have side := portEdge_side declines
  have toggle := portEdge_toggle declines
  constructor
  · rw [side, toggle]
    exact resting.acked
  · rw [side, toggle]
    exact resting.first
  · rw [side, toggle]
    exact resting.second
  · rw [side, toggle]
    exact resting.third
  · rw [side]
    exact resting.settled
  · rw [toggle]
    exact resting.low

theorem Idle.quiet (idle : s.Idle) : s.port.givesUp = false ∧ s.port.acknowledged = false := by
  simp [RegisterPort.givesUp, RegisterPort.acknowledged, idle.free]

/-- A port without an access answers nothing. -/
theorem Idle.portEdge_quiet (idle : s.Idle) (i : PortIn) : (s.portEdge i).port.regReady = false := by
  obtain ⟨kept, unacked⟩ := idle.quiet
  simp [RegisterService.portEdge, RegisterPort.step, kept, unacked]

theorem Idle.portEdge (idle : s.Idle) (declines : s.port.takes i = false) : (s.portEdge i).Idle := by
  refine ⟨idle.resting.portEdge declines, ?_, ?_⟩
  · simp [RegisterService.portEdge, RegisterPort.step, idle.free, declines]
  · rw [portEdge_toggle declines]
    change (s.port.ackSync.edge s.side.ackToggle i.ackCaught).Shows _
    rw [idle.resting.acked]
    exact idle.ack.edge _

/-- An access that is taken is on its way. -/
theorem Idle.takes (idle : s.Idle) (takes : s.port.takes i = true) (may : s.mayTake i = true) :
    (s.portEdge i).Waiting i.access := by
  obtain ⟨kept, unacked⟩ := idle.quiet
  simp only [mayTake, Bool.and_eq_true] at may
  obtain ⟨⟨⟨alive, first⟩, second⟩, caught⟩ := may
  have toggle : (s.portEdge i).port.requestToggle = !s.port.requestToggle := by
    simp [RegisterService.portEdge, RegisterPort.step, takes]
  have hold : (s.portEdge i).port.requestHold = i.access := by
    simp [RegisterService.portEdge, RegisterPort.step, takes]
  have request : s.side.requestSync.Shows (!(!s.port.requestToggle)) := by
    rw [Bool.not_not]
    exact ⟨idle.resting.first, idle.resting.second, idle.resting.third, idle.resting.settled alive⟩
  constructor
  · simp [RegisterService.portEdge, RegisterPort.step, takes, kept, unacked]
  · exact hold
  · rw [toggle, Bool.not_not]
    exact idle.resting.acked
  · change (s.side.requestSync.disturb s.port.requestToggle (s.portEdge i).port.requestToggle).Arriving _
    rw [toggle]
    simpa using request.changes
  · change (s.side.request.disturb s.port.requestHold (s.portEdge i).port.requestHold).Follows
      (s.side.requestSync.disturb s.port.requestToggle (s.portEdge i).port.requestToggle) _ _
    rw [toggle, hold]
    simpa using Passage.follows_change (x := i.access) request s.port.requestHold
  · rw [toggle, Bool.not_not]
    change (s.port.ackSync.edge s.side.ackToggle i.ackCaught).Shows _
    rw [idle.resting.acked]
    exact idle.ack.edge _
  · exact alive
  · exact ⟨caught, first, second, rfl⟩

theorem takes_inflight (inflight : s.port.inflight = true) (i : PortIn) : s.port.takes i = false := by
  simp [RegisterPort.takes, inflight]

/-- An access in flight that is neither given up nor acknowledged stays in flight. -/
theorem portEdge_stays (inflight : s.port.inflight = true) (kept : s.port.givesUp = false)
    (unacked : s.port.acknowledged = false) :
    (s.portEdge i).port.inflight = true ∧ (s.portEdge i).port.regReady = false := by
  simp [RegisterService.portEdge, RegisterPort.step, inflight, kept, unacked]

/-- An access that ends leaves the port idle. -/
theorem idle_of_end (inflight : s.port.inflight = true) (resting : s.Resting)
    (ends : (s.port.givesUp || s.port.acknowledged) = true)
    (ack : (s.port.ackSync.edge s.port.requestToggle i.ackCaught).Shows s.port.requestToggle) :
    (s.portEdge i).Idle ∧ (s.portEdge i).port.regReady = true := by
  have declines := takes_inflight inflight i
  refine ⟨⟨resting.portEdge declines, ?_, ?_⟩, ends⟩
  · change ((s.port.inflight || s.port.takes i) && !s.port.givesUp && !s.port.acknowledged) = false
    rw [Bool.and_assoc, ← Bool.not_or, ends, Bool.not_true, Bool.and_false]
  · rw [portEdge_toggle declines]
    change (s.port.ackSync.edge s.side.ackToggle i.ackCaught).Shows _
    rw [resting.acked]
    exact ack

theorem reg_acknowledged (kept : s.port.givesUp = false) (acknowledged : s.port.acknowledged = true) :
    (s.portEdge i).port.reg = s.port.response.back := by
  simp [RegisterService.portEdge, RegisterPort.step, kept, acknowledged]

theorem Waiting.portEdge (waiting : s.Waiting a) (i : PortIn) :
    (s.portEdge i).Waiting a ∧ (s.portEdge i).port.regReady = false := by
  have declines := takes_inflight waiting.inflight i
  have kept : s.port.givesUp = false := by simp [RegisterPort.givesUp, waiting.seen.third]
  have unacked : s.port.acknowledged = false := by simp [RegisterPort.acknowledged, waiting.ack.third]
  obtain ⟨inflight, quiet⟩ := portEdge_stays (i := i) waiting.inflight kept unacked
  have side := portEdge_side declines
  have toggle := portEdge_toggle declines
  refine ⟨?_, quiet⟩
  constructor
  · exact inflight
  · exact (portEdge_hold declines).trans waiting.held
  · rw [side, toggle]
    exact waiting.unacked
  · rw [side, toggle]
    exact waiting.request
  · rw [side, toggle]
    exact waiting.access
  · rw [toggle]
    change (s.port.ackSync.edge s.side.ackToggle i.ackCaught).Shows _
    rw [waiting.unacked]
    exact waiting.ack.edge _
  · exact waiting.alive
  · change (s.port.aliveSync.edge s.alive i.aliveCaught).Shows true
    rw [waiting.alive]
    exact waiting.seen.edge _

theorem Performed.portEdge (performed : s.Performed r) (i : PortIn) :
    (s.portEdge i).Performed r ∧ (s.portEdge i).port.regReady = false ∨
      ((s.portEdge i).Idle ∧ (s.portEdge i).port.regReady = true) ∧ (s.portEdge i).port.reg = r := by
  have declines := takes_inflight performed.inflight i
  have kept : s.port.givesUp = false := by simp [RegisterPort.givesUp, performed.seen.third]
  by_cases third : s.port.ackSync.third = s.port.requestToggle
  · have acknowledged : s.port.acknowledged = true := by
      simp [RegisterPort.acknowledged, performed.inflight, performed.seen.third, third]
    refine .inr ⟨idle_of_end performed.inflight performed.resting (by rw [acknowledged, Bool.or_true])
      ((performed.ack.shows third).edge _), ?_⟩
    rw [reg_acknowledged kept acknowledged]
    exact performed.reply.back third
  · have unacked : s.port.acknowledged = false := by simp [RegisterPort.acknowledged, third]
    obtain ⟨inflight, quiet⟩ := portEdge_stays (i := i) performed.inflight kept unacked
    have toggle := portEdge_toggle declines
    refine .inl ⟨?_, quiet⟩
    constructor
    · exact inflight
    · exact performed.resting.portEdge declines
    · rw [toggle]
      change (s.port.ackSync.edge s.side.ackToggle i.ackCaught).Arriving _
      rw [performed.resting.acked]
      exact performed.ack.edge _
    · rw [portEdge_side declines]
      exact performed.held
    · rw [toggle]
      change (s.port.response.edge s.side.responseHold i.replyCaught).Follows
        (s.port.ackSync.edge s.side.ackToggle i.ackCaught) _ _
      rw [performed.held, performed.resting.acked]
      exact performed.reply.edge performed.ack _ _
    · exact performed.alive
    · change (s.port.aliveSync.edge s.alive i.aliveCaught).Shows true
      rw [performed.alive]
      exact performed.seen.edge _

theorem Landing.portEdge (landing : s.Landing r) (i : PortIn) :
    (s.portEdge i).Landing r ∧ (s.portEdge i).port.regReady = false ∨
      ((s.portEdge i).Idle ∧ (s.portEdge i).port.regReady = true) ∧ (s.portEdge i).port.reg = r := by
  have declines := takes_inflight landing.inflight i
  have kept : s.port.givesUp = false := by simp [RegisterPort.givesUp, landing.seen]
  by_cases third : s.port.ackSync.third = s.port.requestToggle
  · have acknowledged : s.port.acknowledged = true := by
      simp [RegisterPort.acknowledged, landing.inflight, landing.seen, third]
    refine .inr ⟨idle_of_end landing.inflight landing.resting (by rw [acknowledged, Bool.or_true])
      ((landing.ack.shows third).edge _), ?_⟩
    rw [reg_acknowledged kept acknowledged]
    exact landing.back third
  · have unacked : s.port.acknowledged = false := by simp [RegisterPort.acknowledged, third]
    obtain ⟨inflight, quiet⟩ := portEdge_stays (i := i) landing.inflight kept unacked
    have toggle := portEdge_toggle declines
    have behind := Bool.eq_not_of_ne third
    have arrived : (s.portEdge i).port.ackSync.third = s.port.requestToggle := landing.near
    refine .inl ⟨?_, quiet⟩
    constructor
    · exact inflight
    · exact landing.resting.portEdge declines
    · rw [toggle]
      change (s.port.ackSync.edge s.side.ackToggle i.ackCaught).Arriving _
      rw [landing.resting.acked]
      exact landing.ack.edge _
    · rw [toggle]
      exact landing.ack.second landing.near
    · rw [toggle, arrived]
      exact fun missed => absurd missed (by simp)
    · exact fun _ => landing.front behind
    · exact landing.next behind
    · rw [toggle, arrived]
      exact fun missed => absurd missed (by simp)

theorem Lost.portEdge (lost : s.Lost) (aligned : s.skewed i = false) :
    (s.portEdge i).Lost ∧ (s.portEdge i).port.regReady = false ∨
      ((s.portEdge i).Idle ∧ (s.portEdge i).port.regReady = true) ∧ (s.portEdge i).port.reg = ⟨9, 0⟩ := by
  have declines := takes_inflight lost.inflight i
  have toggle := portEdge_toggle declines
  have resting := lost.resting.portEdge declines
  -- before the reset has passed the third register it is not seen, nor is the toggle
  have stays : s.port.aliveSync.third = true → s.port.ackSync.third = (!s.port.requestToggle) →
      (s.portEdge i).port.inflight = true ∧ (s.portEdge i).port.regReady = false := by
    intro seen unacked
    apply portEdge_stays lost.inflight
    · simp [RegisterPort.givesUp, seen]
    · simp [RegisterPort.acknowledged, unacked]
  cases lost.cut with
  | fresh first second third ackFirst ackSecond ackThird down =>
    obtain ⟨inflight, quiet⟩ := stays third ackThird
    refine .inl ⟨⟨inflight, resting, ?_⟩, quiet⟩
    cases caught : (s.port.aliveSync.edge s.alive i.aliveCaught).first with
    | true =>
      refine .fresh caught first second ?_ (toggle ▸ ackFirst) (toggle ▸ ackSecond) down
      rw [toggle]
      apply Bool.eq_not_of_ne
      intro early
      change (s.port.ackSync.edge s.side.ackToggle i.ackCaught).first = s.port.requestToggle at early
      rw [skewed, caught, lost.inflight, down, first, ackFirst, early] at aligned
      simp at aligned
    | false => exact .caught caught first second (toggle ▸ ackFirst) (toggle ▸ ackSecond) rfl
  | caught first second third ackSecond ackThird settled =>
    obtain ⟨inflight, quiet⟩ := stays third ackThird
    refine .inl ⟨⟨inflight, resting, .passing first second ?_ (toggle ▸ ackSecond) rfl⟩, quiet⟩
    rw [toggle]
    change (if s.port.ackSync.unsettled then i.ackCaught else s.side.ackToggle) = _
    rw [settled]
    exact lost.resting.acked
  | passing second third ackFirst ackThird settled =>
    obtain ⟨inflight, quiet⟩ := stays third ackThird
    refine .inl ⟨⟨inflight, resting, .fallen second ?_ (toggle ▸ ackFirst) rfl⟩, quiet⟩
    rw [toggle]
    change (if s.port.ackSync.unsettled then i.ackCaught else s.side.ackToggle) = _
    rw [settled]
    exact lost.resting.acked
  | fallen third ackFirst ackSecond settled =>
    have up : s.port.givesUp = true := by simp [RegisterPort.givesUp, lost.inflight, third]
    refine .inr ⟨idle_of_end lost.inflight lost.resting (by rw [up, Bool.true_or]) ⟨?_, ackFirst, ackSecond, rfl⟩, ?_⟩
    · change (if s.port.ackSync.unsettled then i.ackCaught else s.port.requestToggle) = _
      rw [settled]
      rfl
    · simp [RegisterService.portEdge, RegisterPort.step, up]

/-- An access in flight stays so, or ends with its own reply or with that of a reset. -/
theorem InFlight.portEdge (flight : s.InFlight a reply) (aligned : s.skewed i = false) :
    (s.portEdge i).InFlight a reply ∧ (s.portEdge i).port.regReady = false ∨
      ((s.portEdge i).Idle ∧ (s.portEdge i).port.regReady = true) ∧
        ((s.portEdge i).port.reg = ⟨9, 0⟩ ∨ reply = some (s.portEdge i).port.reg) := by
  cases flight with
  | waiting waiting =>
    obtain ⟨still, quiet⟩ := waiting.portEdge i
    exact .inl ⟨.waiting still, quiet⟩
  | performed performed =>
    rcases performed.portEdge i with ⟨still, quiet⟩ | ⟨idle, own⟩
    · exact .inl ⟨.performed still, quiet⟩
    · exact .inr ⟨idle, .inr (congrArg some own.symm)⟩
  | landing landing =>
    rcases landing.portEdge i with ⟨still, quiet⟩ | ⟨idle, own⟩
    · exact .inl ⟨.landing still, quiet⟩
    · exact .inr ⟨idle, .inr (congrArg some own.symm)⟩
  | lost lost =>
    rcases lost.portEdge aligned with ⟨still, quiet⟩ | ⟨idle, abandoned⟩
    · exact .inl ⟨.lost still, quiet⟩
    · exact .inr ⟨idle, .inl abandoned⟩

end Xczu47dr.Tdc.RegisterService
