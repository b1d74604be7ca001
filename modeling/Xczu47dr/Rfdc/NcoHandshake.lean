import Mathlib.Tactic.FinCases
import Xczu47dr.Clocked.Progress
import Xczu47dr.Rfdc.NcoBridge

/-! # The requests of the NCO bridge

Every request that is accepted is handled once: its words are driven, it comes to an
end, and its error goes back with its one `done`.  Where the bridge gives up between
the update request and the re-enable pulse, SYSREF stays gated.
-/

namespace Xczu47dr.Rfdc

open Clocked Machine

/-! ## What happens to a request -/

/-- A request is accepted, comes to its end on `rfdc_clk`, and is answered. -/
inductive NcoEvent
  | accepted (r : NcoRequest)
  | finished (error : BitVec 2)
  | done (error : BitVec 2)
  deriving DecidableEq

def exchange (handled : NcoRequest × BitVec 2) : List NcoEvent :=
  [.accepted handled.1, .finished handled.2, .done handled.2]

/-- What has happened to the request that is not answered yet. -/
inductive NcoPending
  | none
  | accepted (r : NcoRequest)
  | finished (r : NcoRequest) (error : BitVec 2)
  deriving DecidableEq

namespace NcoPending

def events : NcoPending → List NcoEvent
  | none => []
  | accepted r => [.accepted r]
  | finished r error => [.accepted r, .finished error]

def request : NcoPending → Option NcoRequest
  | none => .none
  | accepted r | finished r _ => some r

end NcoPending

namespace NcoDest

variable (p : NcoParams) (d : NcoDest) (busy : BitVec 5)

/-- The error with which the request comes to its end at this edge. -/
def ending : Option (BitVec 2) :=
  match d.state with
  | .waitIdle => if d.allRequestIdle busy then none else if d.timedOut p then some errBusyRelease else none
  | .waitAssert => if d.allAsserted busy then none else if d.timedOut p then some errBusyAssert else none
  | .waitLoadClear =>
    if d.allRequestSeen && d.allLoadClear busy && tile0GateBusy busy then none
    else if !tile0GateBusy busy || d.timedOut p then some errBusyRelease else none
  | .waitGateClear =>
    if !tile0GateBusy busy && d.allLoadClear busy then some errNone
    else if d.timedOut p then some errBusyRelease else none
  | _ => none

/-- The update request has been made and the gate not been re-enabled, and the request comes
    to its end. -/
def abandons : Bool := (d.state == .waitAssert || d.state == .waitLoadClear) && (d.ending p busy).isSome

/-- The words of the request are driven, for its channels only, and no tile but theirs and the
    first one is asked for an update. -/
structure Drives (r : NcoRequest) : Prop where
  freq : d.ncoFreq = r.freq
  phase : d.ncoPhase = r.phase
  reset : d.ncoPhaseReset = r.mask
  enable : ∀ bit < 48, d.ncoUpdateEnable.getLsbD bit = r.mask.getLsbD (bit / 6)
  tiles : d.tileUpdateReq = 0 ∨ d.tileUpdateReq = requestTiles r.mask

/-- Beside its words a half that is at work changes its state and its counts. -/
structure Serves (r : NcoRequest) : Prop where
  state : d.state ≠ .idle ∧ d.state ≠ .settle ∧ d.state ≠ .ack
  error : d.errorHold = errNone
  mask : d.requestMask = requestTiles r.mask
  count : d.timeoutCount < p.timeoutCycles
  drives : d.Drives r

/-- Nothing is asked of the converter. -/
structure Silent : Prop where
  reset : d.ncoPhaseReset = 0
  enable : d.ncoUpdateEnable = 0
  tiles : d.tileUpdateReq = 0
  gating : d.sysrefIntGating = false
  reenable : d.sysrefIntReenable = false

end NcoDest

namespace NcoBridge

variable (p : NcoParams) (s : NcoBridge)

def events : NcoTick → List NcoEvent
  | .source start request ackCaught errorCaught =>
    let t := s.source.step start request s.dest.ackToggle ackCaught s.dest.errorHold errorCaught
    (if s.source.accepts start then [.accepted request] else []) ++ if t.done then [.done t.error] else []
  | .rfdc busy _ _ =>
    match s.dest.ending p busy with
    | some error => [.finished error]
    | none => []

/-! ## How far a request is -/

/-- The state of the two halves, with what has happened to the request that is not answered. -/
inductive Phase : NcoBridge → NcoPending → Prop
  | free {s : NcoBridge} : s.source.busy = false → s.source.ackSync.Shows s.source.requestToggle →
      s.dest.ackToggle = s.source.requestToggle → s.dest.requestSync.Shows s.source.requestToggle →
      s.dest.state = .idle → s.dest.Silent → Phase s .none
  | travelling {s : NcoBridge} : s.source.busy = true → s.source.ackSync.Shows s.dest.ackToggle →
      s.dest.ackToggle ≠ s.source.requestToggle → s.dest.requestSync.Arriving s.source.requestToggle →
      s.dest.state = .idle → s.dest.Silent → Phase s (.accepted s.source.hold)
  | settling {s : NcoBridge} : s.source.busy = true → s.source.ackSync.Shows s.dest.ackToggle →
      s.dest.ackToggle ≠ s.source.requestToggle → s.dest.requestSync.Shows s.source.requestToggle →
      s.dest.state = .settle → s.dest.settleCount ≤ 2 → s.dest.errorHold = errNone → s.dest.Silent →
      Phase s (.accepted s.source.hold)
  | serving {s : NcoBridge} : s.source.busy = true → s.source.ackSync.Shows s.dest.ackToggle →
      s.dest.ackToggle ≠ s.source.requestToggle → s.dest.requestSync.Shows s.source.requestToggle →
      s.dest.Serves p s.source.hold → Phase s (.accepted s.source.hold)
  | acknowledging {s : NcoBridge} : s.source.busy = true → s.source.ackSync.Shows s.dest.ackToggle →
      s.dest.ackToggle ≠ s.source.requestToggle → s.dest.requestSync.Shows s.source.requestToggle →
      s.dest.state = .ack → s.dest.Drives s.source.hold → Phase s (.finished s.source.hold s.dest.errorHold)
  | returning {s : NcoBridge} : s.source.busy = true → s.source.ackSync.Arriving s.source.requestToggle →
      s.source.errorSync.Follows s.dest.errorHold s.source.ackSync s.source.requestToggle →
      s.dest.ackToggle = s.source.requestToggle → s.dest.requestSync.Shows s.source.requestToggle →
      s.dest.state = .idle → s.dest.Silent → Phase s (.finished s.source.hold s.dest.errorHold)

end NcoBridge

/-! ## The half on `rfdc_clk` -/

namespace NcoDest

variable {p : NcoParams} {d t : NcoDest} {busy : BitVec 5} {requestToggle requestCaught : Bool}
  {hold holdCaught r : NcoRequest}

theorem getLsbD_updateEnable (mask : BitVec 8) (bit : Nat) (within : bit < 48) :
    (updateEnable mask).getLsbD bit = mask.getLsbD (bit / 6) := by
  rw [updateEnable, BitVec.getLsbD_setWidth, BitVec.getLsbD_ofBoolListLE, decide_eq_true within, Bool.true_and,
    List.getD_eq_getElem?_getD, List.getElem?_ofFn]
  simp [within]

/-! The registers of the crossing are none of those that drive. -/

theorem Silent.crossing (silent : d.Silent) (sync : Relay Bool) : ({ d with requestSync := sync } : NcoDest).Silent :=
  ⟨silent.reset, silent.enable, silent.tiles, silent.gating, silent.reenable⟩

theorem Drives.crossing (drives : d.Drives r) (sync : Relay Bool) :
    ({ d with requestSync := sync } : NcoDest).Drives r :=
  ⟨drives.freq, drives.phase, drives.reset, drives.enable, drives.tiles⟩

theorem Serves.crossing (serves : d.Serves p r) (sync : Relay Bool) :
    ({ d with requestSync := sync } : NcoDest).Serves p r :=
  ⟨serves.state, serves.error, serves.mask, serves.count, serves.drives.crossing sync⟩

/-- The registers that the state machine leaves alone, but for the acknowledgement. -/
theorem act_kept (t : NcoDest) : (d.act p busy t hold).requestSync = t.requestSync ∧
    (d.state ≠ .ack → (d.act p busy t hold).ackToggle = t.ackToggle) := by
  unfold act
  cases d.state with
  | idle =>
    dsimp only [idle]
    split_ifs <;> exact ⟨rfl, fun _ => rfl⟩
  | settle =>
    dsimp only [settle]
    split_ifs <;> exact ⟨rfl, fun _ => rfl⟩
  | waitIdle =>
    dsimp only [waitIdle]
    split_ifs <;> exact ⟨rfl, fun _ => rfl⟩
  | waitAssert =>
    dsimp only [waitAssert]
    split_ifs <;> exact ⟨rfl, fun _ => rfl⟩
  | waitLoadClear =>
    dsimp only [waitLoadClear]
    split_ifs <;> exact ⟨rfl, fun _ => rfl⟩
  | waitGateClear =>
    dsimp only [waitGateClear]
    split_ifs <;> exact ⟨rfl, fun _ => rfl⟩
  | request | reenable => exact ⟨rfl, fun _ => rfl⟩
  | ack => exact ⟨rfl, fun elsewhere => absurd rfl elsewhere⟩

variable (busy requestToggle requestCaught hold holdCaught)

/-- A half at work goes on, or the request comes to its end. -/
theorem Serves.step (serves : Serves p d r) :
    d.ending p busy = none ∧ (d.step p busy requestToggle requestCaught hold holdCaught).Serves p r ∨
      d.ending p busy = some (d.step p busy requestToggle requestCaught hold holdCaught).errorHold ∧
        (d.step p busy requestToggle requestCaught hold holdCaught).state = .ack ∧
          (d.step p busy requestToggle requestCaught hold holdCaught).Drives r := by
  obtain ⟨state, error, mask, count, drives⟩ := serves
  have driven {t : NcoDest} (freq : t.ncoFreq = d.ncoFreq) (phase : t.ncoPhase = d.ncoPhase)
      (reset : t.ncoPhaseReset = d.ncoPhaseReset) (enable : t.ncoUpdateEnable = d.ncoUpdateEnable)
      (tiles : t.tileUpdateReq = 0 ∨ t.tileUpdateReq = d.requestMask) : t.Drives r :=
    ⟨freq.trans drives.freq, phase.trans drives.phase, reset.trans drives.reset,
      fun bit within => enable ▸ drives.enable bit within, mask ▸ tiles⟩
  have counts (early : ¬d.timedOut p = true) : (d.timeoutCount + 1) % 2 ^ 32 < p.timeoutCycles := by
    have lt := p.timeout_lt
    rw [timedOut, decide_eq_true_iff] at early
    omega
  have pos := p.timeout_pos
  unfold NcoDest.step act ending
  cases now : d.state
  case idle => exact absurd now state.1
  case settle => exact absurd now state.2.1
  case ack => exact absurd now state.2.2
  case waitIdle =>
    dsimp only [waitIdle, fail, NcoDest.count]
    split_ifs with idle late
    · exact .inl ⟨rfl, ⟨nofun, nofun, nofun⟩, error, mask, count, driven rfl rfl rfl rfl (.inl rfl)⟩
    · exact .inr ⟨rfl, rfl, driven rfl rfl rfl rfl (.inl rfl)⟩
    · exact .inl ⟨rfl, ⟨nofun, nofun, nofun⟩, error, mask, counts late, driven rfl rfl rfl rfl (.inl rfl)⟩
  case request =>
    exact .inl ⟨rfl, ⟨nofun, nofun, nofun⟩, error, mask, pos, driven rfl rfl rfl rfl (.inr rfl)⟩
  case waitAssert =>
    dsimp only [waitAssert, fail, NcoDest.count]
    split_ifs with asserted late
    · exact .inl ⟨rfl, ⟨nofun, nofun, nofun⟩, error, mask, pos, driven rfl rfl rfl rfl (.inl rfl)⟩
    · exact .inr ⟨rfl, rfl, driven rfl rfl rfl rfl (.inl rfl)⟩
    · exact .inl ⟨rfl, ⟨nofun, nofun, nofun⟩, error, mask, counts late, driven rfl rfl rfl rfl (.inl rfl)⟩
  case waitLoadClear =>
    dsimp only [waitLoadClear, fail, NcoDest.count]
    by_cases clear : (d.allRequestSeen && d.allLoadClear busy && tile0GateBusy busy) = true
    · rw [if_pos clear, if_pos clear]
      exact .inl ⟨rfl, ⟨nofun, nofun, nofun⟩, error, mask, pos, driven rfl rfl rfl rfl (.inl rfl)⟩
    · rw [if_neg clear, if_neg clear]
      by_cases dropped : (!tile0GateBusy busy) = true
      · rw [if_pos dropped, dropped, Bool.true_or, if_pos rfl]
        exact .inr ⟨rfl, rfl, driven rfl rfl rfl rfl (.inl rfl)⟩
      · rw [if_neg dropped, eq_false_of_ne_true dropped, Bool.false_or]
        split_ifs with late
        · exact .inr ⟨rfl, rfl, driven rfl rfl rfl rfl (.inl rfl)⟩
        · exact .inl ⟨rfl, ⟨nofun, nofun, nofun⟩, error, mask, counts late, driven rfl rfl rfl rfl (.inl rfl)⟩
  case reenable =>
    exact .inl ⟨rfl, ⟨nofun, nofun, nofun⟩, error, mask, pos, driven rfl rfl rfl rfl (.inl rfl)⟩
  case waitGateClear =>
    dsimp only [waitGateClear, fail, NcoDest.count]
    split_ifs with clear late
    · exact .inr ⟨congrArg some error.symm, rfl, driven rfl rfl rfl rfl (.inl rfl)⟩
    · exact .inr ⟨rfl, rfl, driven rfl rfl rfl rfl (.inl rfl)⟩
    · exact .inl ⟨rfl, ⟨nofun, nofun, nofun⟩, error, mask, counts late, driven rfl rfl rfl rfl (.inl rfl)⟩

variable (p)

/-- While no request has come through, an idle half is silent. -/
theorem idle_step (now : d.state = .idle) (none : d.requestSync.back = d.ackToggle) :
    (d.step p busy requestToggle requestCaught hold holdCaught).state = .idle ∧
      (d.step p busy requestToggle requestCaught hold holdCaught).Silent ∧
        (d.step p busy requestToggle requestCaught hold holdCaught).errorHold = d.errorHold := by
  unfold NcoDest.step act
  rw [now]
  dsimp only [idle]
  rw [none, bne_self_eq_false, if_neg Bool.false_ne_true]
  exact ⟨rfl, ⟨rfl, rfl, rfl, rfl, rfl⟩, rfl⟩

theorem notice_step (now : d.state = .idle) (comes : d.requestSync.back ≠ d.ackToggle) :
    (d.step p busy requestToggle requestCaught hold holdCaught).state = .settle ∧
      (d.step p busy requestToggle requestCaught hold holdCaught).settleCount ≤ 2 ∧
        (d.step p busy requestToggle requestCaught hold holdCaught).errorHold = errNone ∧
          (d.step p busy requestToggle requestCaught hold holdCaught).Silent := by
  unfold NcoDest.step act
  rw [now]
  dsimp only [idle]
  rw [if_pos (bne_iff_ne.mpr comes)]
  exact ⟨rfl, Nat.le_refl _, rfl, rfl, rfl, rfl, rfl, rfl⟩

/-- The words are taken over when they have settled. -/
theorem settle_step (now : d.state = .settle) (error : d.errorHold = errNone)
    (silent : d.Silent) (settled : d.requestSync.racing = false) :
    (d.step p busy requestToggle requestCaught hold holdCaught).state = .settle ∧
      (d.step p busy requestToggle requestCaught hold holdCaught).settleCount + 1 = d.settleCount ∧
      (d.step p busy requestToggle requestCaught hold holdCaught).errorHold = errNone ∧
        (d.step p busy requestToggle requestCaught hold holdCaught).Silent ∨
      (d.step p busy requestToggle requestCaught hold holdCaught).Serves p hold := by
  unfold NcoDest.step act
  rw [now, settled]
  dsimp only [settle, cond_false]
  split_ifs with more
  · exact .inl ⟨rfl, Nat.sub_add_cancel (Nat.one_le_iff_ne_zero.mpr more), error, silent.reset, silent.enable, rfl, silent.gating, rfl⟩
  · exact .inr ⟨⟨nofun, nofun, nofun⟩, error, rfl, p.timeout_pos, rfl, rfl, rfl, getLsbD_updateEnable hold.mask, .inl rfl⟩

theorem ack_step (now : d.state = .ack) :
    (d.step p busy requestToggle requestCaught hold holdCaught).state = .idle ∧
      (d.step p busy requestToggle requestCaught hold holdCaught).ackToggle = d.requestSync.back ∧
      (d.step p busy requestToggle requestCaught hold holdCaught).errorHold = d.errorHold ∧
        (d.step p busy requestToggle requestCaught hold holdCaught).Silent := by
  unfold NcoDest.step act
  rw [now]
  exact ⟨rfl, rfl, rfl, rfl, rfl, rfl, rfl, rfl⟩

end NcoDest

/-! ## The half on `src_clk` -/

namespace NcoSource

variable {s : NcoSource} {start ackToggle ackCaught : Bool} {request : NcoRequest} {errorHold errorCaught : BitVec 2}

variable (ackToggle ackCaught request errorHold errorCaught)

/-- An edge at which nothing is accepted and nothing answered. -/
theorem step_rests (accepts : s.accepts start = false) (acknowledged : s.acknowledged = false) :
    s.step start request ackToggle ackCaught errorHold errorCaught = { s with
      ackSync := s.ackSync.edge ackToggle ackCaught
      errorSync := s.errorSync.edge errorHold errorCaught
      done := false } := by
  rw [step, accepts, if_neg Bool.false_ne_true, acknowledged, if_neg Bool.false_ne_true]

theorem step_accepts (accepts : s.accepts start = true) :
    s.step start request ackToggle ackCaught errorHold errorCaught = { s with
      ackSync := s.ackSync.edge ackToggle ackCaught
      errorSync := s.errorSync.edge errorHold errorCaught
      done := false
      hold := request
      requestToggle := !s.requestToggle
      busy := true
      error := errNone
      syncReady := false } := by
  rw [step, accepts, if_pos rfl]

/-- A request is answered, with the error that has come through; the epoch counts the successes. -/
theorem step_acknowledged (accepts : s.accepts start = false) (acknowledged : s.acknowledged = true) :
    s.step start request ackToggle ackCaught errorHold errorCaught = { s with
      ackSync := s.ackSync.edge ackToggle ackCaught
      errorSync := s.errorSync.edge errorHold errorCaught
      done := true
      busy := false
      error := s.errorSync.back
      syncReady := decide (s.errorSync.back = errNone)
      syncEpoch := if s.errorSync.back = errNone then s.syncEpoch + 1 else s.syncEpoch } := by
  rw [step, accepts, if_neg Bool.false_ne_true, acknowledged, if_pos rfl]
  by_cases fine : s.errorSync.back = errNone
  · rw [if_pos fine, if_pos fine, decide_eq_true fine]
  · rw [if_neg fine, if_neg fine, decide_eq_false fine]

end NcoSource

/-! ## A request from the start to the answer -/

namespace NcoBridge

variable {p : NcoParams} {s : NcoBridge} {pending : NcoPending} {start ackCaught requestCaught : Bool}
  {request holdCaught : NcoRequest} {errorCaught : BitVec 2} {busy : BitVec 5}

/-- The successes among the requests that have been answered. -/
def successes (handled : List (NcoRequest × BitVec 2)) : Nat := handled.countP fun one => one.2 = errNone

/-- An edge leads on: what has happened, and what happens now, are the exchanges that are over and
    what has then happened to the next request. -/
def LeadsOn (p : NcoParams) (s : NcoBridge) (pending : NcoPending) (tick : NcoTick) : Prop :=
  ∃ handled later, pending.events ++ s.events p tick = handled.flatMap exchange ++ later.events ∧
    Phase p (s.step p tick) later ∧
      (s.step p tick).source.syncEpoch = s.source.syncEpoch + BitVec.ofNat 32 (successes handled)

theorem leadsOn_same {tick : NcoTick} (later : NcoPending) (phase : Phase p (s.step p tick) later)
    (events : pending.events ++ s.events p tick = later.events)
    (epoch : (s.step p tick).source.syncEpoch = s.source.syncEpoch) : LeadsOn p s pending tick :=
  ⟨[], later, events, phase, epoch.trans (BitVec.add_zero _).symm⟩

/-- While a request is under way and no answer has come through, the source waits. -/
theorem source_waits (p : NcoParams) (start : Bool) (request : NcoRequest) (ackCaught : Bool) (errorCaught : BitVec 2)
    (busy : s.source.busy = true) (unacknowledged : s.source.ackSync.back ≠ s.source.requestToggle) :
    s.source.step start request s.dest.ackToggle ackCaught s.dest.errorHold errorCaught = { s.source with
      ackSync := s.source.ackSync.edge s.dest.ackToggle ackCaught
      errorSync := s.source.errorSync.edge s.dest.errorHold errorCaught
      done := false } ∧ s.events p (.source start request ackCaught errorCaught) = [] := by
  have accepts : s.source.accepts start = false := by rw [NcoSource.accepts, busy, Bool.not_true, Bool.and_false]
  have rests := NcoSource.step_rests s.dest.ackToggle ackCaught request s.dest.errorHold errorCaught accepts
    (show s.source.acknowledged = false by rw [NcoSource.acknowledged, beq_eq_false_iff_ne.mpr unacknowledged, Bool.and_false])
  refine ⟨rests, ?_⟩
  rw [events, accepts, rests]
  rfl

theorem phase_source (phase : Phase p s pending) : LeadsOn p s pending (.source start request ackCaught errorCaught) := by
  -- under way and unanswered: only the registers of the crossing move
  have waits (busy : s.source.busy = true) (shows : s.source.ackSync.Shows s.dest.ackToggle)
      (apart : s.dest.ackToggle ≠ s.source.requestToggle)
      (kept : Phase p { source := { s.source with
          ackSync := s.source.ackSync.edge s.dest.ackToggle ackCaught
          errorSync := s.source.errorSync.edge s.dest.errorHold errorCaught
          done := false }, dest := { s.dest with
            requestSync := s.dest.requestSync.race s.source.requestToggle s.source.requestToggle } } pending) :
      LeadsOn p s pending (.source start request ackCaught errorCaught) := by
    obtain ⟨rests, none⟩ := source_waits p start request ackCaught errorCaught busy (shows.back ▸ apart)
    refine leadsOn_same pending ?_ (by rw [none, List.append_nil]) ?_
    · rw [NcoBridge.step, rests]
      exact kept
    · rw [NcoBridge.step, rests]
  cases phase with
  | free busy shows acked arrived idle silent =>
    cases starts : s.source.accepts start with
    | true =>
      have accepted := NcoSource.step_accepts s.dest.ackToggle ackCaught request s.dest.errorHold errorCaught starts
      have apart : s.source.requestToggle ≠ !s.source.requestToggle := by
        cases s.source.requestToggle <;> decide
      refine leadsOn_same (.accepted request) ?_ ?_ ?_
      · rw [NcoBridge.step, accepted]
        refine .travelling rfl ?_ ?_ (arrived.changes apart) idle (silent.crossing _)
        · rw [← acked] at shows
          exact shows.edge ackCaught
        · change s.dest.ackToggle ≠ !s.source.requestToggle
          rw [acked]
          exact apart
      · rw [events, starts, accepted]
        rfl
      · rw [NcoBridge.step, accepted]
    | false =>
      have rests := NcoSource.step_rests s.dest.ackToggle ackCaught request s.dest.errorHold errorCaught starts
        (show s.source.acknowledged = false by rw [NcoSource.acknowledged, busy, Bool.false_and])
      refine leadsOn_same .none ?_ ?_ ?_
      · rw [NcoBridge.step, rests]
        refine .free busy ?_ acked (arrived.race _) idle (silent.crossing _)
        rw [acked]
        exact shows.edge ackCaught
      · rw [events, starts, rests]
        rfl
      · rw [NcoBridge.step, rests]
  | travelling busy shows apart arriving idle silent =>
    exact waits busy shows apart (.travelling busy (shows.edge ackCaught) apart (arriving.race _) idle (silent.crossing _))
  | settling busy shows apart arrived settle count error silent =>
    exact waits busy shows apart (.settling busy (shows.edge ackCaught) apart (arrived.race _) settle count error (silent.crossing _))
  | serving busy shows apart arrived serves =>
    exact waits busy shows apart (.serving busy (shows.edge ackCaught) apart (arrived.race _) (serves.crossing _))
  | acknowledging busy shows apart arrived ack drives =>
    refine waits busy shows apart ?_
    exact .acknowledging (s := ⟨_, _⟩) busy (shows.edge ackCaught) apart (arrived.race _) ack (drives.crossing _)
  | returning busy arriving follows acked arrived idle silent =>
    by_cases answered : s.source.ackSync.back = s.source.requestToggle
    · have starts : s.source.accepts start = false := by rw [NcoSource.accepts, busy, Bool.not_true, Bool.and_false]
      have ends := NcoSource.step_acknowledged s.dest.ackToggle ackCaught request s.dest.errorHold errorCaught starts
        (show s.source.acknowledged = true by rw [NcoSource.acknowledged, busy, answered, beq_self_eq_true, Bool.true_and])
      refine ⟨[(s.source.hold, s.dest.errorHold)], .none, ?_, ?_, ?_⟩
      · rw [events, starts, ends, follows.back answered]
        rfl
      · rw [NcoBridge.step, ends]
        refine .free rfl ?_ acked (arrived.race _) idle (silent.crossing _)
        rw [acked]
        exact (arriving.shows answered).edge ackCaught
      · rw [NcoBridge.step, ends, follows.back answered, successes, List.countP_singleton]
        by_cases fine : s.dest.errorHold = errNone
        · simp [fine]
        · simp [fine]
    · obtain ⟨rests, none⟩ := source_waits p start request ackCaught errorCaught busy answered
      refine leadsOn_same (.finished s.source.hold s.dest.errorHold) ?_ (by rw [none, List.append_nil]) ?_
      · rw [NcoBridge.step, rests]
        refine .returning (s := ⟨_, _⟩) busy ?_ ?_ acked (arrived.race _) idle (silent.crossing _)
        · rw [acked]
          exact arriving.edge ackCaught
        · rw [acked]
          exact follows.edge errorCaught ackCaught
      · rw [NcoBridge.step, rests]

theorem phase_rfdc (phase : Phase p s pending) : LeadsOn p s pending (.rfdc busy requestCaught holdCaught) := by
  obtain ⟨sync, same⟩ : (s.step p (.rfdc busy requestCaught holdCaught)).dest.requestSync =
      s.dest.requestSync.edge s.source.requestToggle requestCaught ∧
        (s.dest.state ≠ .ack → (s.step p (.rfdc busy requestCaught holdCaught)).dest.ackToggle = s.dest.ackToggle) :=
    NcoDest.act_kept _
  have raced (elsewhere : s.dest.state ≠ .ack) : (s.step p (.rfdc busy requestCaught holdCaught)).source.ackSync =
      s.source.ackSync.race s.dest.ackToggle s.dest.ackToggle := congrArg (s.source.ackSync.race s.dest.ackToggle) (same elsewhere)
  cases phase with
  | free waits shows acked arrived idle silent =>
    have elsewhere : s.dest.state ≠ .ack := by rw [idle]; exact nofun
    obtain ⟨still, silent', -⟩ := NcoDest.idle_step p busy s.source.requestToggle requestCaught
        s.source.hold holdCaught idle (arrived.back.trans acked.symm)
    refine leadsOn_same .none (.free waits ?_ ((same elsewhere).trans acked) ?_ still silent') ?_ rfl
    · rw [raced elsewhere]
      exact shows.race _
    · rw [sync]
      exact arrived.edge requestCaught
    · rw [events, NcoDest.ending, idle]
      rfl
  | travelling waits shows apart arriving idle silent =>
    have elsewhere : s.dest.state ≠ .ack := by rw [idle]; exact nofun
    have none : s.events p (.rfdc busy requestCaught holdCaught) = [] := by
      rw [events, NcoDest.ending, idle]
    have shows' : (s.step p (.rfdc busy requestCaught holdCaught)).source.ackSync.Shows
        (s.step p (.rfdc busy requestCaught holdCaught)).dest.ackToggle := by
      rw [raced elsewhere, same elsewhere]
      exact shows.race _
    refine leadsOn_same (.accepted s.source.hold) ?_ (by rw [none, List.append_nil]) rfl
    by_cases comes : s.dest.requestSync.back = s.dest.ackToggle
    · obtain ⟨still, silent', -⟩ := NcoDest.idle_step p busy s.source.requestToggle requestCaught
        s.source.hold holdCaught idle comes
      refine .travelling waits shows' ?_ ?_ still silent'
      · rw [same elsewhere]
        exact apart
      · rw [sync]
        exact arriving.edge requestCaught
    · obtain ⟨settles, count, error, silent'⟩ := NcoDest.notice_step p busy s.source.requestToggle requestCaught
        s.source.hold holdCaught idle comes
      have arrived : s.dest.requestSync.back = s.source.requestToggle := by
        revert comes apart
        cases s.dest.requestSync.back <;> cases s.dest.ackToggle <;> cases s.source.requestToggle <;> decide
      refine .settling waits shows' ?_ ?_ settles count error silent'
      · rw [same elsewhere]
        exact apart
      · rw [sync]
        exact (arriving.shows arrived).edge requestCaught
  | settling waits shows apart arrived settle count error silent =>
    have elsewhere : s.dest.state ≠ .ack := by rw [settle]; exact nofun
    have none : s.events p (.rfdc busy requestCaught holdCaught) = [] := by
      rw [events, NcoDest.ending, settle]
    have shows' : (s.step p (.rfdc busy requestCaught holdCaught)).source.ackSync.Shows
        (s.step p (.rfdc busy requestCaught holdCaught)).dest.ackToggle := by
      rw [raced elsewhere, same elsewhere]
      exact shows.race _
    have apart' : (s.step p (.rfdc busy requestCaught holdCaught)).dest.ackToggle ≠ s.source.requestToggle := by
      rw [same elsewhere]
      exact apart
    have arrived' : (s.step p (.rfdc busy requestCaught holdCaught)).dest.requestSync.Shows s.source.requestToggle := by
      rw [sync]
      exact arrived.edge requestCaught
    refine leadsOn_same (.accepted s.source.hold) ?_ (by rw [none, List.append_nil]) rfl
    obtain ⟨still, less, error', silent'⟩ | serves := NcoDest.settle_step p busy s.source.requestToggle requestCaught
        s.source.hold holdCaught settle error silent arrived.settled
    · exact .settling waits shows' apart' arrived' still (Nat.le_of_succ_le (le_of_eq_of_le less count)) error' silent'
    · exact .serving waits shows' apart' arrived' serves
  | serving waits shows apart arrived serves =>
    have elsewhere := serves.state.2.2
    have shows' : (s.step p (.rfdc busy requestCaught holdCaught)).source.ackSync.Shows
        (s.step p (.rfdc busy requestCaught holdCaught)).dest.ackToggle := by
      rw [raced elsewhere, same elsewhere]
      exact shows.race _
    have apart' : (s.step p (.rfdc busy requestCaught holdCaught)).dest.ackToggle ≠ s.source.requestToggle := by
      rw [same elsewhere]
      exact apart
    have arrived' : (s.step p (.rfdc busy requestCaught holdCaught)).dest.requestSync.Shows s.source.requestToggle := by
      rw [sync]
      exact arrived.edge requestCaught
    obtain ⟨none, serves'⟩ | ⟨ends, ack, drives⟩ := serves.step busy s.source.requestToggle
        requestCaught s.source.hold holdCaught
    · refine leadsOn_same (.accepted s.source.hold) (.serving waits shows' apart' arrived' serves') ?_ rfl
      rw [events, none, List.append_nil]
    · refine leadsOn_same (.finished s.source.hold _) (.acknowledging waits shows' apart' arrived' ack drives) ?_ rfl
      rw [events, ends]
      rfl
  | acknowledging waits shows apart arrived ack drives =>
    obtain ⟨idle, toggles, error, silent⟩ := NcoDest.ack_step p busy s.source.requestToggle requestCaught
        s.source.hold holdCaught ack
    have acked : (s.step p (.rfdc busy requestCaught holdCaught)).dest.ackToggle = s.source.requestToggle :=
      toggles.trans arrived.back
    have error' : (s.step p (.rfdc busy requestCaught holdCaught)).dest.errorHold = s.dest.errorHold := error
    have raced' : (s.step p (.rfdc busy requestCaught holdCaught)).source.ackSync =
        s.source.ackSync.race s.dest.ackToggle s.source.requestToggle := congrArg (s.source.ackSync.race s.dest.ackToggle) acked
    have quiet : (s.step p (.rfdc busy requestCaught holdCaught)).source.errorSync.racing = false := by
      change (s.dest.errorHold != (s.step p (.rfdc busy requestCaught holdCaught)).dest.errorHold) = false
      rw [error', bne_self_eq_false]
    have phase : Phase p (s.step p (.rfdc busy requestCaught holdCaught)) (.finished s.source.hold
        (s.step p (.rfdc busy requestCaught holdCaught)).dest.errorHold) := by
      refine .returning waits ?_ ?_ acked ?_ idle silent
      · rw [raced']
        exact shows.changes apart
      · rw [raced']
        exact Relay.follows_rest quiet shows apart
      · rw [sync]
        exact arrived.edge requestCaught
    rw [error'] at phase
    refine leadsOn_same _ phase ?_ rfl
    rw [events, NcoDest.ending, ack, List.append_nil]
  | returning waits arriving follows acked arrived idle silent =>
    have elsewhere : s.dest.state ≠ .ack := by rw [idle]; exact nofun
    obtain ⟨still, silent', error⟩ := NcoDest.idle_step p busy s.source.requestToggle requestCaught
        s.source.hold holdCaught idle (arrived.back.trans acked.symm)
    have error' : (s.step p (.rfdc busy requestCaught holdCaught)).dest.errorHold = s.dest.errorHold := error
    have quiet : (s.step p (.rfdc busy requestCaught holdCaught)).source.errorSync =
        s.source.errorSync.race s.dest.errorHold s.dest.errorHold := congrArg (s.source.errorSync.race s.dest.errorHold) error'
    have phase : Phase p (s.step p (.rfdc busy requestCaught holdCaught)) (.finished s.source.hold
        (s.step p (.rfdc busy requestCaught holdCaught)).dest.errorHold) := by
      refine .returning waits ?_ ?_ ((same elsewhere).trans acked) ?_ still silent'
      · rw [raced elsewhere]
        exact arriving.race _
      · rw [raced elsewhere, quiet, error']
        exact follows.race _ _
      · rw [sync]
        exact arrived.edge requestCaught
    rw [error'] at phase
    refine leadsOn_same _ phase ?_ rfl
    rw [events, NcoDest.ending, idle, List.append_nil]

end NcoBridge

end Xczu47dr.Rfdc
