import Xczu47dr.Rfdc.NcoHandshake

/-! # The answers of the NCO bridge

Over whole runs: what has happened is one exchange after the other, an answer comes
as long as both clocks run, and the gate of SYSREF is opened again before the
acknowledgement unless a request is abandoned.
-/

namespace Xczu47dr.Rfdc

open Clocked Machine

namespace NcoBridge

variable {p : NcoParams} {s : NcoBridge} {pending : NcoPending}

/-! ## Whole runs -/

/-- One exchange after the other, and what has happened to the request that is not answered; the
    epoch counts the successes. -/
def Exchanged (p : NcoParams) (events : List NcoEvent) (s : NcoBridge) : Prop :=
  ∃ handled pending, events = handled.flatMap exchange ++ pending.events ∧ Phase p s pending ∧
    s.source.syncEpoch = BitVec.ofNat 32 (successes handled)

theorem phase_step (phase : Phase p s pending) (tick : NcoTick) : LeadsOn p s pending tick := by
  cases tick with
  | source start request ackCaught errorCaught => exact phase_source phase
  | rfdc busy requestCaught holdCaught => exact phase_rfdc phase

theorem phase_reset (p : NcoParams) : Phase p (ncoBridge p).reset .none :=
  .free rfl ⟨rfl, rfl, rfl⟩ rfl ⟨rfl, rfl, rfl⟩ rfl ⟨rfl, rfl, rfl, rfl, rfl⟩

theorem exchanged_step {happened : List NcoEvent} (exchanged : Exchanged p happened s) (tick : NcoTick) :
    Exchanged p (happened ++ s.events p tick) (s.step p tick) := by
  obtain ⟨handled, pending, rfl, phase, epoch⟩ := exchanged
  obtain ⟨more, later, events, phase', epoch'⟩ := phase_step phase tick
  refine ⟨handled ++ more, later, ?_, phase', ?_⟩
  · rw [List.append_assoc, events, List.flatMap_append, List.append_assoc]
  · rw [epoch', epoch, ← BitVec.ofNat_add, successes, successes, successes, List.countP_append]

theorem exchanged_run (p : NcoParams) (ticks : List NcoTick) :
    Exchanged p ((ncoBridge p).log (events p) (ncoBridge p).reset ticks) ((ncoBridge p).run (ncoBridge p).reset ticks) := by
  refine (ncoBridge p).run_induction (C := fun _ _ => True) (P := fun is s =>
    Exchanged p ((ncoBridge p).log (events p) (ncoBridge p).reset is) s) ?_ ?_ ticks
    ((ncoBridge p).along_of_forall (fun _ _ => trivial) _ _)
  · exact ⟨[], .none, rfl, phase_reset p, rfl⟩
  · intro is tick _ exchanged _
    rw [log_append, log_cons, log_nil, List.append_nil]
    exact exchanged_step exchanged tick

theorem phase_trace (p : NcoParams) (inputs : Nat → NcoTick) (n : Nat) :
    ∃ pending, Phase p ((ncoBridge p).trace inputs n) pending :=
  (ncoBridge p).trace_invariant (P := fun s => ∃ pending, Phase p s pending) inputs ⟨.none, phase_reset p⟩
    (fun _ tick ⟨_, phase⟩ => have ⟨_, later, _, after, _⟩ := phase_step phase tick; ⟨later, after⟩) n

/-- The source is busy as long as there is a request to answer. -/
theorem busy_iff (phase : Phase p s pending) : s.source.busy = true ↔ pending ≠ .none := by
  cases phase with
  | free busy => exact ⟨fun waits => absurd (busy.symm.trans waits) Bool.false_ne_true, fun some => absurd rfl some⟩
  | travelling busy | settling busy | serving busy | acknowledging busy | returning busy =>
    exact ⟨fun _ => nofun, fun _ => busy⟩

/-- Only for the request that is under way the converter is asked for anything, and the words are
    those of the request. -/
theorem drives_or_silent (phase : Phase p s pending) :
    (∃ r, pending.request = some r ∧ s.dest.Drives r) ∨ (s.dest.state = .idle ∨ s.dest.state = .settle) ∧ s.dest.Silent := by
  cases phase with
  | free _ _ _ _ idle silent => exact .inr ⟨.inl idle, silent⟩
  | travelling _ _ _ _ idle silent => exact .inr ⟨.inl idle, silent⟩
  | settling _ _ _ _ settle _ _ silent => exact .inr ⟨.inr settle, silent⟩
  | serving _ _ _ _ serves => exact .inl ⟨_, rfl, serves.drives⟩
  | acknowledging _ _ _ _ _ drives => exact .inl ⟨_, rfl, drives⟩
  | returning _ _ _ _ _ idle silent => exact .inr ⟨.inl idle, silent⟩

end NcoBridge

/-! ## An answer comes -/

namespace NcoDest

variable {p : NcoParams} {d : NcoDest} {r : NcoRequest}

/-- The edges of `rfdc_clk` it takes at most until the request is to be acknowledged. -/
def toAck (p : NcoParams) (requestToggle : Bool) (d : NcoDest) : Nat :=
  match d.state with
  | .idle => 4 * p.timeoutCycles + 6 + d.requestSync.left requestToggle
  | .settle => 4 * p.timeoutCycles + 3 + d.settleCount
  | .waitIdle => 3 * p.timeoutCycles + 2 + (p.timeoutCycles - d.timeoutCount)
  | .request => 3 * p.timeoutCycles + 2
  | .waitAssert => 2 * p.timeoutCycles + 1 + (p.timeoutCycles - d.timeoutCount)
  | .waitLoadClear => p.timeoutCycles + 1 + (p.timeoutCycles - d.timeoutCount)
  | .reenable => p.timeoutCycles + 1
  | .waitGateClear => p.timeoutCycles - d.timeoutCount
  | .ack => 0

variable (busy : BitVec 5) (requestToggle requestCaught : Bool) (hold holdCaught : NcoRequest)

theorem Serves.toAck_le (serves : d.Serves p r) (requestToggle : Bool) :
    d.toAck p requestToggle ≤ 4 * p.timeoutCycles + 2 := by
  rw [toAck]
  cases now : d.state
  case idle => exact absurd now serves.state.1
  case settle => exact absurd now serves.state.2.1
  all_goals
    dsimp only
    omega

theorem Serves.toAck_lt (serves : d.Serves p r) :
    (d.step p busy requestToggle requestCaught hold holdCaught).toAck p requestToggle < d.toAck p requestToggle := by
  have pos := p.timeout_pos
  have count := serves.count
  have counts (early : ¬d.timedOut p = true) : (d.timeoutCount + 1) % 2 ^ 32 = d.timeoutCount + 1 := by
    have lt := p.timeout_lt
    exact Nat.mod_eq_of_lt (by omega)
  unfold NcoDest.step act
  cases now : d.state
  case idle => exact absurd now serves.state.1
  case settle => exact absurd now serves.state.2.1
  case ack => exact absurd now serves.state.2.2
  case waitIdle =>
    dsimp only [waitIdle, fail, NcoDest.count]
    rw [toAck, toAck, now]
    split_ifs with idle late
    · dsimp only
      omega
    · dsimp only
      omega
    · dsimp only
      rw [counts late]
      omega
  case request =>
    rw [toAck, toAck, now]
    dsimp only [NcoDest.request]
    omega
  case waitAssert =>
    dsimp only [waitAssert, fail, NcoDest.count]
    rw [toAck, toAck, now]
    split_ifs with idle late
    · dsimp only
      omega
    · dsimp only
      omega
    · dsimp only
      rw [counts late]
      omega
  case waitLoadClear =>
    dsimp only [waitLoadClear, fail, NcoDest.count]
    rw [toAck, toAck, now]
    split_ifs with idle dropped late
    · dsimp only
      omega
    · dsimp only
      omega
    · dsimp only
      omega
    · dsimp only
      rw [counts late]
      omega
  case reenable =>
    rw [toAck, toAck, now]
    dsimp only
    omega
  case waitGateClear =>
    dsimp only [waitGateClear, fail, NcoDest.count]
    rw [toAck, toAck, now]
    split_ifs with idle late
    · dsimp only
      omega
    · dsimp only
      omega
    · dsimp only
      rw [counts late]
      omega

end NcoDest

/-- An edge of `src_clk`. -/
def NcoTick.onSource : NcoTick → Bool
  | .source .. => true
  | .rfdc .. => false

namespace NcoBridge

variable {p : NcoParams} {s : NcoBridge} {pending : NcoPending} {start ackCaught requestCaught : Bool}
  {request holdCaught : NcoRequest} {errorCaught : BitVec 2} {busy : BitVec 5}

/-- It is for the source to answer, or for the other half to acknowledge. -/
def turn (s : NcoBridge) : Bool := s.dest.ackToggle == s.source.requestToggle

/-- The edges it takes at most until the answer, each counted on the clock whose turn it is. -/
def rank (p : NcoParams) (s : NcoBridge) : Nat :=
  if s.turn then 1 + s.source.ackSync.left s.source.requestToggle
  else 5 + s.dest.toAck p s.source.requestToggle

theorem rank_returning (acked : s.dest.ackToggle = s.source.requestToggle) :
    s.rank p = 1 + s.source.ackSync.left s.source.requestToggle := by
  rw [rank, turn, acked, beq_self_eq_true, if_pos rfl]

theorem rank_apart (apart : s.dest.ackToggle ≠ s.source.requestToggle) :
    s.rank p = 5 + s.dest.toAck p s.source.requestToggle := by
  rw [rank, turn, beq_eq_false_iff_ne.mpr apart, if_neg Bool.false_ne_true]

/-- The change of the source's request is settled, or not, and no later than before. -/
theorem toAck_race (d : NcoDest) (u v : Bool) :
    ({ d with requestSync := d.requestSync.race u u } : NcoDest).toAck p v ≤ d.toAck p v := by
  rw [NcoDest.toAck, NcoDest.toAck]
  cases d.state
  case idle => exact Nat.add_le_add_left (Relay.left_race u) _
  all_goals exact Nat.le_refl _

/-- An edge of `src_clk` answers, or leaves everything as far as it is; if it is the source's turn,
    the answer is nearer. -/
theorem rank_source (waits : s.source.busy = true) :
    (s.step p (.source start request ackCaught errorCaught)).source.done = true ∧
        (s.step p (.source start request ackCaught errorCaught)).source.busy = false ∨
      (s.step p (.source start request ackCaught errorCaught)).source.busy = true ∧
        (s.step p (.source start request ackCaught errorCaught)).turn = s.turn ∧
        (s.step p (.source start request ackCaught errorCaught)).rank p ≤ s.rank p ∧
          (s.turn = true → (s.step p (.source start request ackCaught errorCaught)).rank p < s.rank p) := by
  by_cases answered : s.source.ackSync.back = s.source.requestToggle
  · have starts : s.source.accepts start = false := by rw [NcoSource.accepts, waits, Bool.not_true, Bool.and_false]
    have ends := NcoSource.step_acknowledged s.dest.ackToggle ackCaught request s.dest.errorHold errorCaught starts
      (show s.source.acknowledged = true by rw [NcoSource.acknowledged, waits, answered, beq_self_eq_true, Bool.true_and])
    left
    rw [step, ends]
    exact ⟨rfl, rfl⟩
  · obtain ⟨rests, -⟩ := source_waits p start request ackCaught errorCaught waits answered
    right
    obtain ⟨still, toggle, acks, dest⟩ : (s.step p (.source start request ackCaught errorCaught)).source.busy = true ∧
        (s.step p (.source start request ackCaught errorCaught)).source.requestToggle = s.source.requestToggle ∧
        (s.step p (.source start request ackCaught errorCaught)).source.ackSync =
          s.source.ackSync.edge s.dest.ackToggle ackCaught ∧
        (s.step p (.source start request ackCaught errorCaught)).dest =
          { s.dest with requestSync := s.dest.requestSync.race s.source.requestToggle s.source.requestToggle } := by
      rw [step, rests]
      exact ⟨waits, rfl, rfl, rfl⟩
    generalize s.step p (.source start request ackCaught errorCaught) = t at *
    have kept : t.dest.ackToggle = s.dest.ackToggle := by rw [dest]
    refine ⟨still, by rw [turn, turn, kept, toggle], ?_⟩
    by_cases acked : s.dest.ackToggle = s.source.requestToggle
    · have nearer : t.rank p < s.rank p := by
        rw [rank_returning acked, rank_returning (kept.trans (acked.trans toggle.symm)), toggle, acks, acked]
        exact Nat.add_lt_add_left (Relay.left_edge answered ackCaught) 1
      exact ⟨Nat.le_of_lt nearer, fun _ => nearer⟩
    · constructor
      · rw [rank_apart acked, rank_apart fun same => acked (kept.symm.trans (same.trans toggle)), toggle, dest]
        exact Nat.add_le_add_left (toAck_race s.dest _ _) 5
      · intro turn
        exact absurd (eq_of_beq turn) acked

/-- An edge of `rfdc_clk` leaves everything as far as it is; if it is the turn of that half, the
    answer is nearer. -/
theorem rank_rfdc (phase : Phase p s pending) (waits : s.source.busy = true) :
    (s.step p (.rfdc busy requestCaught holdCaught)).rank p < s.rank p ∨
      (s.step p (.rfdc busy requestCaught holdCaught)).rank p = s.rank p ∧
        (s.step p (.rfdc busy requestCaught holdCaught)).turn = s.turn ∧ s.turn = true := by
  obtain ⟨sync, same⟩ : (s.step p (.rfdc busy requestCaught holdCaught)).dest.requestSync =
      s.dest.requestSync.edge s.source.requestToggle requestCaught ∧
        (s.dest.state ≠ .ack → (s.step p (.rfdc busy requestCaught holdCaught)).dest.ackToggle = s.dest.ackToggle) :=
    NcoDest.act_kept _
  -- not acknowledged before and after, only the rank of the half on `rfdc_clk` counts
  have ahead (apart : s.dest.ackToggle ≠ s.source.requestToggle) (elsewhere : s.dest.state ≠ .ack)
      (less : (s.step p (.rfdc busy requestCaught holdCaught)).dest.toAck p s.source.requestToggle <
        s.dest.toAck p s.source.requestToggle) :
      (s.step p (.rfdc busy requestCaught holdCaught)).rank p < s.rank p := by
    have apart' : (s.step p (.rfdc busy requestCaught holdCaught)).dest.ackToggle ≠ s.source.requestToggle := by
      rw [same elsewhere]
      exact apart
    rw [rank_apart apart, rank_apart apart']
    exact Nat.add_lt_add_left less 5
  cases phase with
  | free idle => exact absurd (idle.symm.trans waits) Bool.false_ne_true
  | travelling _ _ apart arriving idle _ =>
    left
    refine ahead apart (by rw [idle]; exact nofun) ?_
    by_cases comes : s.dest.requestSync.back = s.dest.ackToggle
    · obtain ⟨still, -, -⟩ := NcoDest.idle_step p busy s.source.requestToggle requestCaught
        s.source.hold holdCaught idle comes
      have nearer := Relay.left_edge (fun arrived => apart (comes.symm.trans arrived)) requestCaught
      rw [NcoDest.toAck, NcoDest.toAck, show (s.step p (.rfdc busy requestCaught holdCaught)).dest.state = .idle from still,
        idle, sync]
      exact Nat.add_lt_add_left nearer _
    · obtain ⟨settles, count, -, -⟩ := NcoDest.notice_step p busy s.source.requestToggle requestCaught
        s.source.hold holdCaught idle comes
      rw [NcoDest.toAck, NcoDest.toAck, show (s.step p (.rfdc busy requestCaught holdCaught)).dest.state = .settle from settles,
        idle]
      dsimp only
      have := count
      change (s.step p (.rfdc busy requestCaught holdCaught)).dest.settleCount ≤ 2 at this
      omega
  | settling _ _ apart arrived settle count error silent =>
    left
    refine ahead apart (by rw [settle]; exact nofun) ?_
    obtain ⟨still, less, -, -⟩ | serves := NcoDest.settle_step p busy s.source.requestToggle requestCaught
      s.source.hold holdCaught settle error silent arrived.settled
    · rw [NcoDest.toAck, NcoDest.toAck, show (s.step p (.rfdc busy requestCaught holdCaught)).dest.state = .settle from still,
        settle]
      have less : (s.step p (.rfdc busy requestCaught holdCaught)).dest.settleCount + 1 = s.dest.settleCount := less
      dsimp only
      omega
    · have bound : (s.step p (.rfdc busy requestCaught holdCaught)).dest.toAck p s.source.requestToggle ≤
          4 * p.timeoutCycles + 2 := serves.toAck_le _
      refine Nat.lt_of_le_of_lt bound ?_
      rw [NcoDest.toAck, settle]
      dsimp only
      omega
  | serving _ _ apart _ serves =>
    left
    exact ahead apart serves.state.2.2 (serves.toAck_lt busy _ requestCaught _ holdCaught)
  | acknowledging _ _ apart arrived ack _ =>
    left
    obtain ⟨-, toggles, -, -⟩ := NcoDest.ack_step p busy s.source.requestToggle requestCaught
      s.source.hold holdCaught ack
    have acked : (s.step p (.rfdc busy requestCaught holdCaught)).dest.ackToggle = s.source.requestToggle :=
      toggles.trans arrived.back
    rw [rank_apart apart, rank_returning acked]
    have near := Relay.left_le (s.step p (.rfdc busy requestCaught holdCaught)).source.ackSync s.source.requestToggle
    change 1 + (s.step p (.rfdc busy requestCaught holdCaught)).source.ackSync.left s.source.requestToggle < _
    omega
  | returning _ arriving _ acked _ idle _ =>
    have kept := same (by rw [idle]; exact nofun)
    have raced : (s.step p (.rfdc busy requestCaught holdCaught)).source.ackSync =
        s.source.ackSync.race s.dest.ackToggle s.dest.ackToggle := congrArg (s.source.ackSync.race s.dest.ackToggle) kept
    have no_further : (s.step p (.rfdc busy requestCaught holdCaught)).rank p ≤ s.rank p := by
      rw [rank_returning acked, rank_returning (kept.trans acked), raced]
      exact Nat.add_le_add_left (Relay.left_race _) 1
    have turns : s.turn = true := by rw [turn, acked, beq_self_eq_true]
    obtain less | equal := Nat.lt_or_eq_of_le no_further
    · exact .inl less
    · refine .inr ⟨equal, ?_, turns⟩
      rw [turn, kept]
      rfl

theorem rank_pos (p : NcoParams) (s : NcoBridge) : 0 < s.rank p := by
  rw [rank]
  split_ifs <;> omega

/-- No edge takes the answer further away, and one of the clock whose turn it is brings it nearer. -/
theorem nearer_step (phase : Phase p s pending) (waits : s.source.busy = true) (tick : NcoTick) :
    ((s.step p tick).source.done = true ∨ (s.step p tick).source.busy = true) ∧
      ((bif (s.step p tick).source.busy then (s.step p tick).rank p else 0) < s.rank p ∨
        (bif (s.step p tick).source.busy then (s.step p tick).rank p else 0) = s.rank p ∧
          (s.step p tick).turn = s.turn ∧ tick.onSource ≠ s.turn) := by
  cases tick with
  | source start request ackCaught errorCaught =>
    obtain ⟨answers, ends⟩ | ⟨still, turns, no_further, nearer⟩ := @rank_source p s start ackCaught request errorCaught waits
    · rw [ends, cond_false]
      exact ⟨.inl answers, .inl (rank_pos p s)⟩
    · rw [still, cond_true]
      refine ⟨.inr rfl, ?_⟩
      by_cases turn : s.turn = true
      · exact .inl (nearer turn)
      · obtain less | equal := Nat.lt_or_eq_of_le no_further
        · exact .inl less
        · exact .inr ⟨equal, turns, fun same => turn same.symm⟩
  | rfdc busy requestCaught holdCaught =>
    have still : (s.step p (.rfdc busy requestCaught holdCaught)).source.busy = true := waits
    rw [still, cond_true]
    refine ⟨.inr rfl, ?_⟩
    obtain less | ⟨equal, turns, returning⟩ := @rank_rfdc p s pending requestCaught holdCaught busy phase waits
    · exact .inl less
    · refine .inr ⟨equal, turns, fun same => ?_⟩
      exact Bool.false_ne_true (same.trans returning)

/-- As long as both clocks run, a request that is under way is answered. -/
theorem answered_trace (p : NcoParams) (inputs : Nat → NcoTick)
    (fair : ∀ half n, ∃ k, n ≤ k ∧ (inputs k).onSource = half) (n : Nat)
    (waits : ((ncoBridge p).trace inputs n).source.busy = true) :
    ∃ m, n ≤ m ∧ ((ncoBridge p).trace inputs m).source.done = true := by
  refine leadsTo_of_turns (P := fun s => s.source.done = true ∨ s.source.busy = true) (Q := fun s => s.source.done = true)
    (fun s => bif s.source.busy then s.rank p else 0) turn (fun half k => (inputs k).onSource = half) ?_ fair n (.inr waits)
  intro n now
  obtain done | waits := now
  · exact .inl done
  · obtain ⟨pending, phase⟩ := phase_trace p inputs n
    rw [waits, cond_true]
    exact .inr (nearer_step phase waits (inputs n))

end NcoBridge

/-! ## The gate of SYSREF -/

/-- The update request, with which the gate closes, and the pulse that opens it again. -/
inductive GatePulse
  | update
  | reenable
  deriving DecidableEq

/-- The gate has not been opened since the last update request. -/
def gateClosed (pulses : List GatePulse) : Bool := pulses.getLast? == some .update

/-- The update has been requested, and the gate is to be opened again. -/
def NcoState.updating : NcoState → Bool
  | .waitAssert | .waitLoadClear | .reenable => true
  | _ => false

theorem requestTiles_ne_zero (mask : BitVec 8) : requestTiles mask ≠ 0 := by
  intro none
  have first : (requestTiles mask).getLsbD 0 = true := by
    rw [requestTiles, BitVec.getLsbD_append]
    rfl
  rw [none] at first
  exact absurd first (by decide)

namespace NcoDest

variable {p : NcoParams} {d : NcoDest} {r : NcoRequest} (busy : BitVec 5) (requestToggle requestCaught : Bool)
  (hold holdCaught : NcoRequest)

/-- In all states but two both pulses are over. -/
theorem no_pulse (starts : d.state ≠ .request) (opens : d.state ≠ .reenable) :
    (d.step p busy requestToggle requestCaught hold holdCaught).tileUpdateReq = 0 ∧
      (d.step p busy requestToggle requestCaught hold holdCaught).sysrefIntReenable = false := by
  unfold NcoDest.step act
  cases now : d.state with
  | request => exact absurd now starts
  | reenable => exact absurd now opens
  | idle =>
    dsimp only [idle]
    split_ifs <;> exact ⟨rfl, rfl⟩
  | settle =>
    dsimp only [settle]
    split_ifs <;> exact ⟨rfl, rfl⟩
  | waitIdle =>
    dsimp only [waitIdle]
    split_ifs <;> exact ⟨rfl, rfl⟩
  | waitAssert =>
    dsimp only [waitAssert]
    split_ifs <;> exact ⟨rfl, rfl⟩
  | waitLoadClear =>
    dsimp only [waitLoadClear]
    split_ifs <;> exact ⟨rfl, rfl⟩
  | waitGateClear =>
    dsimp only [waitGateClear]
    split_ifs <;> exact ⟨rfl, rfl⟩
  | ack => exact ⟨rfl, rfl⟩

/-- From the update request on a request goes as far as the pulse that opens the gate, or it is
    abandoned. -/
theorem updating_step (starts : d.state ≠ .request) (opens : d.state ≠ .reenable) :
    d.abandons p busy = true ∧ d.state.updating = true ∧
        (d.step p busy requestToggle requestCaught hold holdCaught).state = .ack ∨
      d.abandons p busy = false ∧
        (d.step p busy requestToggle requestCaught hold holdCaught).state.updating = d.state.updating := by
  unfold NcoDest.step act abandons ending
  cases now : d.state
  case request => exact absurd now starts
  case reenable => exact absurd now opens
  case idle =>
    dsimp only [idle]
    split_ifs <;> exact .inr ⟨rfl, rfl⟩
  case settle =>
    dsimp only [settle]
    split_ifs <;> exact .inr ⟨rfl, rfl⟩
  case waitIdle =>
    dsimp only [waitIdle]
    split_ifs <;> exact .inr ⟨rfl, rfl⟩
  case waitAssert =>
    dsimp only [waitAssert]
    split_ifs with asserted late
    · exact .inr ⟨rfl, rfl⟩
    · exact .inl ⟨rfl, rfl, rfl⟩
    · exact .inr ⟨rfl, rfl⟩
  case waitLoadClear =>
    dsimp only [waitLoadClear]
    by_cases clear : (d.allRequestSeen && d.allLoadClear busy && tile0GateBusy busy) = true
    · rw [if_pos clear, if_pos clear]
      exact .inr ⟨rfl, rfl⟩
    · rw [if_neg clear, if_neg clear]
      by_cases dropped : (!tile0GateBusy busy) = true
      · rw [if_pos dropped, dropped, Bool.true_or, if_pos rfl]
        exact .inl ⟨rfl, rfl, rfl⟩
      · rw [if_neg dropped, eq_false_of_ne_true dropped, Bool.false_or]
        split_ifs with late
        · exact .inl ⟨rfl, rfl, rfl⟩
        · exact .inr ⟨rfl, rfl⟩
  case waitGateClear =>
    dsimp only [waitGateClear]
    split_ifs <;> exact .inr ⟨rfl, rfl⟩
  case ack => exact .inr ⟨rfl, rfl⟩

end NcoDest

namespace NcoBridge

variable {p : NcoParams} {s : NcoBridge} {pending : NcoPending} {happened : List GatePulse}

def pulses (p : NcoParams) (s : NcoBridge) (tick : NcoTick) : List GatePulse :=
  match tick with
  | .source .. => []
  | .rfdc .. =>
    if (s.step p tick).dest.tileUpdateReq ≠ 0 then [.update]
    else if (s.step p tick).dest.sysrefIntReenable then [.reenable] else []

/-- The request comes to its end at this edge, after the update request and before the gate has
    been opened. -/
def abandons (p : NcoParams) (s : NcoBridge) : NcoTick → Bool
  | .source .. => false
  | .rfdc busy _ _ => s.dest.abandons p busy

/-- A gate that is to be opened again is closed at an edge, or a request is abandoned. -/
theorem gate_step (phase : Phase p s pending) (tick : NcoTick) :
    s.pulses p tick = [.update] ∧ (s.step p tick).dest.state.updating = true ∧ s.abandons p tick = false ∨
      s.pulses p tick = [.reenable] ∧ (s.step p tick).dest.state.updating = false ∧ s.abandons p tick = false ∨
      s.pulses p tick = [] ∧ s.abandons p tick = true ∧ s.dest.state.updating = true ∧ (s.step p tick).dest.state = .ack ∨
      s.pulses p tick = [] ∧ s.abandons p tick = false ∧ (s.step p tick).dest.state.updating = s.dest.state.updating := by
  cases tick with
  | source start request ackCaught errorCaught => exact .inr (.inr (.inr ⟨rfl, rfl, rfl⟩))
  | rfdc busy requestCaught holdCaught =>
    by_cases starts : s.dest.state = .request
    · have asked : (s.step p (.rfdc busy requestCaught holdCaught)).dest.tileUpdateReq = s.dest.requestMask := by
        rw [step, NcoDest.step, NcoDest.act, starts]
        rfl
      have tiles : s.dest.requestMask ≠ 0 := by
        cases phase with
        | serving _ _ _ _ serves =>
          rw [serves.mask]
          exact requestTiles_ne_zero _
        | free _ _ _ _ now | travelling _ _ _ _ now | settling _ _ _ _ now | acknowledging _ _ _ _ now
        | returning _ _ _ _ _ now => exact NcoState.noConfusion (starts.symm.trans now)
      refine .inl ⟨?_, ?_, ?_⟩
      · rw [pulses, asked, if_pos tiles]
      · rw [step, NcoDest.step, NcoDest.act, starts]
        rfl
      · rw [abandons, NcoDest.abandons, starts]
        rfl
    · right
      by_cases opens : s.dest.state = .reenable
      · have opened : (s.step p (.rfdc busy requestCaught holdCaught)).dest.tileUpdateReq = 0 ∧
            (s.step p (.rfdc busy requestCaught holdCaught)).dest.sysrefIntReenable = true ∧
              (s.step p (.rfdc busy requestCaught holdCaught)).dest.state = .waitGateClear := by
          rw [step, NcoDest.step, NcoDest.act, opens]
          exact ⟨rfl, rfl, rfl⟩
        refine .inl ⟨?_, ?_, ?_⟩
        · rw [pulses, opened.1, if_neg (not_not_intro rfl), opened.2.1, if_pos rfl]
        · rw [opened.2.2]
          rfl
        · rw [abandons, NcoDest.abandons, opens]
          rfl
      · have none : s.pulses p (.rfdc busy requestCaught holdCaught) = [] := by
          have request : (s.step p (.rfdc busy requestCaught holdCaught)).dest.tileUpdateReq = 0 :=
            (NcoDest.no_pulse busy _ requestCaught _ holdCaught starts opens).1
          have reenable : (s.step p (.rfdc busy requestCaught holdCaught)).dest.sysrefIntReenable = false :=
            (NcoDest.no_pulse busy _ requestCaught _ holdCaught starts opens).2
          rw [pulses, request, if_neg (not_not_intro rfl), reenable, if_neg Bool.false_ne_true]
        right
        obtain ⟨gone, was, ack⟩ | ⟨kept, same⟩ := NcoDest.updating_step (p := p) busy s.source.requestToggle requestCaught
          s.source.hold holdCaught starts opens
        · exact .inl ⟨none, gone, was, ack⟩
        · exact .inr ⟨none, kept, same⟩

/-- Whoever is to open the gate has closed it. -/
theorem closed_step (phase : Phase p s pending) (closed : s.dest.state.updating = true → gateClosed happened = true)
    (tick : NcoTick) (updating : (s.step p tick).dest.state.updating = true) :
    gateClosed (happened ++ s.pulses p tick) = true := by
  obtain ⟨now, -⟩ | ⟨-, after, -⟩ | ⟨-, -, -, ack⟩ | ⟨none, -, same⟩ := gate_step phase tick
  · rw [now, gateClosed, List.getLast?_concat]
    rfl
  · exact absurd (after.symm.trans updating) Bool.false_ne_true
  · rw [ack] at updating
    exact absurd updating Bool.false_ne_true
  · rw [none, List.append_nil]
    exact closed (same ▸ updating)

/-- As long as no request is abandoned, a closed gate is to be opened again. -/
theorem opened_later (phase : Phase p s pending) (opens : gateClosed happened = true → s.dest.state.updating = true)
    {tick : NcoTick} (kept : s.abandons p tick = false) (closed : gateClosed (happened ++ s.pulses p tick) = true) :
    (s.step p tick).dest.state.updating = true := by
  obtain ⟨-, after, -⟩ | ⟨now, -⟩ | ⟨-, gone, -⟩ | ⟨none, -, same⟩ := gate_step phase tick
  · exact after
  · rw [now, gateClosed, List.getLast?_concat] at closed
    exact absurd closed (by decide)
  · exact absurd (kept.symm.trans gone) Bool.false_ne_true
  · rw [none, List.append_nil] at closed
    rw [same]
    exact opens closed

theorem phase_run (p : NcoParams) (ticks : List NcoTick) :
    ∃ pending, Phase p ((ncoBridge p).run (ncoBridge p).reset ticks) pending :=
  have ⟨_, pending, _, phase, _⟩ := exchanged_run p ticks
  ⟨pending, phase⟩

theorem closed_run (p : NcoParams) (ticks : List NcoTick)
    (updating : ((ncoBridge p).run (ncoBridge p).reset ticks).dest.state.updating = true) :
    gateClosed ((ncoBridge p).log (pulses p) (ncoBridge p).reset ticks) = true := by
  induction ticks using List.reverseRecOn with
  | nil => exact absurd updating Bool.false_ne_true
  | append_singleton before tick ih =>
    obtain ⟨pending, phase⟩ := phase_run p before
    rw [run_append] at updating
    rw [log_append, log_cons, log_nil, List.append_nil]
    exact closed_step phase ih tick updating

theorem opened_run (p : NcoParams) (ticks : List NcoTick)
    (kept : (ncoBridge p).Along (fun s tick => s.abandons p tick = false) (ncoBridge p).reset ticks)
    (closed : gateClosed ((ncoBridge p).log (pulses p) (ncoBridge p).reset ticks) = true) :
    ((ncoBridge p).run (ncoBridge p).reset ticks).dest.state.updating = true := by
  induction ticks using List.reverseRecOn with
  | nil => exact absurd closed Bool.false_ne_true
  | append_singleton before tick ih =>
    obtain ⟨pending, phase⟩ := phase_run p before
    obtain ⟨earlier, now, -⟩ := ((ncoBridge p).along_append _ _ _ _).mp kept
    rw [log_append, log_cons, log_nil, List.append_nil] at closed
    rw [run_append]
    exact opened_later phase (ih earlier) now closed

/-- The gate is open again at every acknowledgement if and only if no request is abandoned. -/
theorem gate_run (p : NcoParams) (ticks : List NcoTick) :
    (∀ before, before <+: ticks → ((ncoBridge p).run (ncoBridge p).reset before).dest.state = .ack →
        gateClosed ((ncoBridge p).log (pulses p) (ncoBridge p).reset before) = false) ↔
      (ncoBridge p).Along (fun s tick => s.abandons p tick = false) (ncoBridge p).reset ticks := by
  constructor
  · intro opened
    induction ticks using List.reverseRecOn with
    | nil => trivial
    | append_singleton before tick ih =>
      have earlier := ih fun first within => opened first (within.trans (List.prefix_append _ _))
      refine ((ncoBridge p).along_append _ _ _ _).mpr ⟨earlier, eq_false_of_ne_true fun gone => ?_, trivial⟩
      obtain ⟨pending, phase⟩ := phase_run p before
      -- the request that is abandoned leaves the gate as it was, and acknowledges
      obtain ⟨-, -, kept⟩ | ⟨-, -, kept⟩ | ⟨none, -, updating, ack⟩ | ⟨-, kept, -⟩ := gate_step phase tick
      · exact absurd (kept.symm.trans gone) Bool.false_ne_true
      · exact absurd (kept.symm.trans gone) Bool.false_ne_true
      · have closed := closed_run p before updating
        have opens := opened (before ++ [tick]) (List.prefix_refl _) (by
          rw [run_append]
          exact ack)
        rw [log_append, log_cons, log_nil, List.append_nil, none, List.append_nil, closed] at opens
        exact absurd opens Bool.true_eq_false.mp
      · exact absurd (kept.symm.trans gone) Bool.false_ne_true
  · intro kept before within ack
    obtain ⟨rest, rfl⟩ := within
    refine eq_false_of_ne_true fun closed => ?_
    have updating := opened_run p before (((ncoBridge p).along_append _ _ _ _).mp kept).1 closed
    rw [ack] at updating
    exact absurd updating Bool.false_ne_true

end NcoBridge

/-- Every request that is accepted is answered, as long as both clocks run, once and with the error
    with which it came to its end; the epoch counts the successes; only the words of the request
    under way are driven, and nothing beside it.  SYSREF is gated no longer when a request is
    acknowledged if and only if no request is abandoned. -/
theorem nco_requests_answered (p : NcoParams) :
    (∀ ticks, ∃ (handled : List (NcoRequest × BitVec 2)) (pending : NcoPending),
      (ncoBridge p).log (NcoBridge.events p) (ncoBridge p).reset ticks =
        handled.flatMap exchange ++ pending.events ∧
      (((ncoBridge p).run (ncoBridge p).reset ticks).source.busy = true ↔ pending ≠ .none) ∧
      ((ncoBridge p).run (ncoBridge p).reset ticks).source.syncEpoch = BitVec.ofNat 32 (NcoBridge.successes handled) ∧
      ((∃ r, pending.request = some r ∧ ((ncoBridge p).run (ncoBridge p).reset ticks).dest.Drives r) ∨
        (((ncoBridge p).run (ncoBridge p).reset ticks).dest.state = .idle ∨
          ((ncoBridge p).run (ncoBridge p).reset ticks).dest.state = .settle) ∧
            ((ncoBridge p).run (ncoBridge p).reset ticks).dest.Silent)) ∧
    (∀ inputs, (∀ half n, ∃ k, n ≤ k ∧ (inputs k).onSource = half) → ∀ n,
      ((ncoBridge p).trace inputs n).source.busy = true → ∃ m, n ≤ m ∧ ((ncoBridge p).trace inputs m).source.done = true) ∧
    ∀ ticks, (∀ before, before <+: ticks → ((ncoBridge p).run (ncoBridge p).reset before).dest.state = .ack →
        gateClosed ((ncoBridge p).log (NcoBridge.pulses p) (ncoBridge p).reset before) = false) ↔
      (ncoBridge p).Along (fun s tick => s.abandons p tick = false) (ncoBridge p).reset ticks := by
  refine ⟨fun ticks => ?_, NcoBridge.answered_trace p, NcoBridge.gate_run p⟩
  obtain ⟨handled, pending, events, phase, epoch⟩ := NcoBridge.exchanged_run p ticks
  exact ⟨handled, pending, events, NcoBridge.busy_iff phase, epoch, NcoBridge.drives_or_silent phase⟩

/-- `TIMEOUT_CYCLES` of the testbench. -/
def benchParams : NcoParams := ⟨40, by decide, by decide⟩

/-- A request for the channels 0 and 7, whose tiles become busy, and the load of tile 3 does not end. -/
def stuckLoad : List NcoTick :=
  [.source true ⟨0x81, 0, 0⟩ false 0] ++ List.replicate 9 (.rfdc 0 false default) ++
    List.replicate 41 (.rfdc 0b10011 false default)

/-- The request times out and is acknowledged with SYSREF gated and no pulse to open it. -/
theorem acknowledged_closed : ¬∀ ticks, ((ncoBridge benchParams).run (ncoBridge benchParams).reset ticks).dest.state = .ack →
    gateClosed ((ncoBridge benchParams).log (NcoBridge.pulses benchParams) (ncoBridge benchParams).reset ticks) = false := by
  intro opened
  exact absurd (opened stuckLoad (by decide)) (by decide)

end Xczu47dr.Rfdc
