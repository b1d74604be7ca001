import Mathlib.Data.List.FinRange
import Xczu47dr.Rfdc.ApplyVerdicts

/-! # An apply is confirmed as a whole or not at all

The accesses of an apply, channel by channel, and what is left of it at its end.
-/

namespace Xczu47dr.Rfdc

open Clocked Machine Control

/-! ## The accesses of a channel -/

def openingAccesses : List Access := [.tile, .nyqRead, .nyqWrite, .vopCtrlRead, .vopCtrlWrite, .vopInit]

def rampAccesses : List Access :=
  [.vopCfg0Read, .vopCfg0Write, .vopCfg2Read, .vopCfg2Write, .vopCfg3Read, .vopCfg3Write, .vopUpdateRead, .vopUpdateWrite]

def readbackAccesses : List Access := [.rbCfg0, .rbCfg2, .rbCfg3]

/-- The accesses up to the readback, the ramp having so many steps. -/
def rampedAccesses (steps : Nat) : List Access := openingAccesses ++ (List.replicate steps rampAccesses).flatten

/-- The accesses of a channel whose ramp has so many steps. -/
def channelAccesses (steps : Nat) : List Access := rampedAccesses steps ++ readbackAccesses

theorem rampedAccesses_succ (steps : Nat) : rampedAccesses (steps + 1) = rampedAccesses steps ++ rampAccesses := by
  rw [rampedAccesses, rampedAccesses, List.replicate_succ', List.flatten_concat, List.append_assoc]

/-- The accesses of the channel before the state, so many steps of the ramp being over. -/
def accessesBefore (steps : Nat) : RuntimeState → List Access
  | .launch a | .await a =>
    if a ∈ openingAccesses then openingAccesses.takeWhile (· ≠ a)
    else if a ∈ rampAccesses then rampedAccesses steps ++ rampAccesses.takeWhile (· ≠ a)
    else rampedAccesses steps ++ readbackAccesses.takeWhile (· ≠ a)
  | .vopPrep | .calcStep .ramp | .calcDone .ramp | .vopQuantInit | .calcStep .vopQuant | .calcDone .vopQuant =>
    rampedAccesses steps
  | .vopDelay => rampedAccesses (steps + 1)
  | .channelDone => channelAccesses steps
  | _ => []

/-- The channels of the request among the first ones. -/
def channelsBefore (mask : BitVec 8) (count : Nat) : List (Fin 8) :=
  ((List.finRange 8).take count).filter fun c => mask.getLsbD c

theorem channelsBefore_succ (mask : BitVec 8) (c : Fin 8) :
    channelsBefore mask (c + 1) = channelsBefore mask c ++ if mask.getLsbD c then [c] else [] := by
  rw [channelsBefore, List.take_succ_eq_append_getElem (by simp), List.filter_append, List.getElem_finRange]
  refine congrArg _ ((List.filter_singleton (a := c)).trans ?_)
  exact cond_eq_ite _ _ _

theorem accessesBefore_next {a : Access} (steps : Nat) (apply : a ≠ .readyProbe) :
    ∃ more, accessesBefore more a.next = accessesBefore steps (.await a) ++ [a] := by
  cases a with
  | readyProbe => contradiction
  | vopInit => exact ⟨0, rfl⟩
  | vopUpdateWrite =>
    refine ⟨steps, ?_⟩
    simp [accessesBefore, Access.next, openingAccesses, rampAccesses, rampedAccesses_succ]
  | _ =>
    refine ⟨steps, ?_⟩
    simp [accessesBefore, Access.next, openingAccesses, rampAccesses, readbackAccesses, channelAccesses]

/-- The accesses of one channel after the other. -/
def passedAccesses (ramps : List (Fin 8 × Nat)) : List (Fin 8 × Access) :=
  ramps.flatMap fun ramp => (channelAccesses ramp.2).map fun a => (ramp.1, a)

namespace RuntimeConfig

variable {p : RuntimeParams} {s t : RuntimeConfig} {i : RuntimeIn}

/-- An access of an apply succeeds, the tile being up and the readback being right. -/
def passes (s : RuntimeConfig) (_ : RuntimeIn) : List (Fin 8 × Access) :=
  match s.state with
  | .await .readyProbe => []
  | .await a =>
    if s.transaction.done = true ∧ s.transaction.error = 0 ∧ (a = .tile → s.tileUp = true) ∧
      (a = .rbCfg3 → s.readbackWrong = false) then [(s.channelIndex, a)] else []
  | _ => []

/-- The accesses that have succeeded since the apply was taken. -/
structure Passing (log : List (Fin 8 × Access)) (s : RuntimeConfig) : Prop where
  judging : s.state = .validate → log = []
  working : 2 ≤ s.state.rank → s.state.rank < 63 → ∃ ramps steps,
    ramps.map Prod.fst = channelsBefore s.request.mask (if s.state.rank ≤ 3 then 8 else s.channelIndex) ∧
      log = passedAccesses ramps ++ (accessesBefore steps s.state).map fun a => (s.channelIndex, a)

/-- An access succeeds and leads on, or it fails or goes on. -/
theorem passes_await {a : Access} (now : s.state = .await a) (apply : a ≠ .readyProbe) :
    s.passes i = [(s.channelIndex, a)] ∧ (s.step p i).state = a.next ∨
      s.passes i = [] ∧ ((s.step p i).state = .await a ∨ (s.step p i).state = .finish) := by
  have passes : s.passes i = if s.transaction.done = true ∧ s.transaction.error = 0 ∧ (a = .tile → s.tileUp = true) ∧
      (a = .rbCfg3 → s.readbackWrong = false) then [(s.channelIndex, a)] else [] := by
    rw [RuntimeConfig.passes, now]
    cases a <;> first | contradiction | rfl
  rw [passes]
  change _ ∧ (s.act p i).state = _ ∨ _ ∧ ((s.act p i).state = _ ∨ (s.act p i).state = _)
  simp only [act, now]
  by_cases done : s.transaction.done = true
  · rw [if_pos done, finishAccess]
    by_cases fine : s.transaction.error = 0
    · rw [if_neg fun failed : a ≠ .readyProbe ∧ s.transaction.error ≠ 0 => failed.2 fine]
      cases a
      case readyProbe => contradiction
      case tile =>
        by_cases up : s.tileUp = true
        · refine .inl ⟨if_pos ⟨done, fine, fun _ => up, by rintro ⟨⟩⟩, ?_⟩
          rw [accessed, tileRead, if_pos up]
          rfl
        · refine .inr ⟨if_neg fun passes => up (passes.2.2.1 rfl), .inr ?_⟩
          rw [accessed, tileRead, if_neg up]
          rfl
      case rbCfg3 =>
        by_cases wrong : s.readbackWrong = true
        · refine .inr ⟨if_neg fun passes => Bool.noConfusion (wrong.symm.trans (passes.2.2.2 rfl)), .inr ?_⟩
          rw [accessed, if_pos wrong]
          rfl
        · refine .inl ⟨if_pos ⟨done, fine, by rintro ⟨⟩, fun _ => by simpa using wrong⟩, ?_⟩
          rw [accessed, if_neg wrong]
          rfl
      all_goals exact .inl ⟨if_pos ⟨done, fine, by rintro ⟨⟩, by rintro ⟨⟩⟩, rfl⟩
    · refine .inr ⟨if_neg fun passes => fine passes.2.1, .inr ?_⟩
      rw [if_pos ⟨apply, fine⟩]
      rfl
  · refine .inr ⟨if_neg fun passes => done passes.1, .inl ?_⟩
    rw [if_neg done]
    exact now

theorem passes_elsewhere (elsewhere : ∀ a, s.state ≠ .await a) : s.passes i = [] := by
  unfold passes
  cases now : s.state with
  | await a => exact absurd now (elsewhere a)
  | _ => rfl

/-- Between two accesses of a channel nothing is added. -/
theorem accessesBefore_works {u v : RuntimeState} (within : u.inChannel = true) (undone : u ≠ .channelDone)
    (elsewhere : ∀ a, u ≠ .await a) (leads : v ∈ u.next) (steps : Nat) :
    ∃ more, accessesBefore more v = accessesBefore steps u := by
  cases u with
  | await a => exact absurd rfl (elsewhere a)
  | launch a =>
    obtain rfl : v = .await a := by simpa [RuntimeState.next] using leads
    exact ⟨steps, rfl⟩
  | vopDelay =>
    simp only [RuntimeState.next, List.mem_cons, List.not_mem_nil, or_false] at leads
    obtain rfl | rfl := leads
    · exact ⟨steps, rfl⟩
    · exact ⟨steps + 1, rfl⟩
  | calcDone d =>
    cases d with
    | vopQuant =>
      simp only [RuntimeState.next, List.mem_cons, List.not_mem_nil, or_false] at leads
      obtain rfl | rfl := leads <;> exact ⟨steps, List.append_nil _⟩
    | ramp =>
      obtain rfl : v = .vopQuantInit := by simpa [RuntimeState.next] using leads
      exact ⟨steps, rfl⟩
    | nco | phase => contradiction
  | calcStep d =>
    cases d with
    | ramp | vopQuant =>
      simp only [RuntimeState.next, List.mem_cons, List.not_mem_nil, or_false] at leads
      obtain rfl | rfl := leads <;> exact ⟨steps, rfl⟩
    | nco | phase => contradiction
  | vopPrep =>
    simp only [RuntimeState.next, List.mem_cons, List.not_mem_nil, or_false] at leads
    obtain rfl | rfl := leads <;> exact ⟨steps, rfl⟩
  | vopQuantInit =>
    obtain rfl : v = .calcStep .vopQuant := by simpa [RuntimeState.next] using leads
    exact ⟨steps, rfl⟩
  | channelDone => exact absurd rfl undone
  | _ => contradiction

theorem index_next {index : Fin 8} (more : index ≠ 7) : (index + 1).val = index.val + 1 := by
  revert index
  decide

theorem passing_step {log : List (Fin 8 × Access)} (held : Passing log s) (computing : Computing s)
    (apart : s.state ≠ .idle) :
    Passing (log ++ s.passes i) (s.step p i) := by
  have leads := step_next (p := p) (s := s) (i := i)
  have works {state : RuntimeState} (now : s.state = state) (within : 2 ≤ state.rank ∧ state.rank < 63) :
      ∃ ramps steps, ramps.map Prod.fst = channelsBefore s.request.mask (if state.rank ≤ 3 then 8 else s.channelIndex) ∧
        log = passedAccesses ramps ++ (accessesBefore steps state).map fun a => (s.channelIndex, a) := by
    subst now
    exact held.working within.1 within.2
  have silent {state : RuntimeState} (now : s.state = state) (elsewhere : ∀ a, state ≠ .await a) :
      log ++ s.passes i = log := by
    rw [passes_elsewhere fun a => now ▸ elsewhere a, List.append_nil]
  have ended (outside : (s.step p i).state.rank < 2) : Passing (log ++ s.passes i) (s.step p i) := by
    refine ⟨fun now => ?_, fun low => absurd outside (Nat.not_lt.mpr low)⟩
    rw [now] at outside
    exact absurd outside (by decide)
  have becomes {state : RuntimeState} (later : (s.step p i).state = state) (unjudged : state ≠ .validate)
      (request : (s.step p i).request = s.request)
      (passed : ∃ ramps steps, ramps.map Prod.fst =
          channelsBefore s.request.mask (if state.rank ≤ 3 then 8 else (s.step p i).channelIndex) ∧
        log ++ s.passes i = passedAccesses ramps ++
          (accessesBefore steps state).map fun a => ((s.step p i).channelIndex, a)) :
      Passing (log ++ s.passes i) (s.step p i) := by
    subst later
    exact ⟨fun now => absurd now unjudged, fun _ _ => request ▸ passed⟩
  have reckons := reckons_step (p := p) (s := s) (i := i)
  have request := request_step reckons apart
  cases reckons with
  | rests _ outside _ => exact ended (rank_of_not_serves outside)
  | taken now => exact absurd now apart
  | opened now later _ figures =>
    refine becomes later nofun request ⟨[], 0, ?_, ?_⟩
    · rw [show (s.step p i).channelIndex = 0 from congrArg Figures.channelIndex figures]
      rfl
    · rw [silent now nofun, held.judging now]
      rfl
  | skips now skipped goesOn =>
    obtain ⟨ramps, steps, channels, passed⟩ := works now (by decide)
    have next : channelsBefore s.request.mask s.channelIndex = channelsBefore s.request.mask (s.channelIndex + 1) := by
      rw [channelsBefore_succ, skipped]
      exact (List.append_nil _).symm
    obtain ⟨last, later, figures⟩ | ⟨more, later, figures⟩ := goesOn
    · refine becomes later nofun request ⟨ramps, 0, channels.trans (next.trans ?_), ?_⟩
      · rw [last]
        rfl
      · rw [silent now nofun, passed]
        rfl
    · refine becomes later nofun request ⟨ramps, 0, channels.trans (next.trans ?_), ?_⟩
      · rw [show (s.step p i).channelIndex = s.channelIndex + 1 from congrArg Figures.channelIndex figures]
        exact congrArg _ (index_next more).symm
      · rw [silent now nofun, passed]
        rfl
  | chosen now later _ figures | setsUpNco now later figures _ | setsUpPhase now later figures _ | ncoWord now later figures =>
    obtain ⟨ramps, steps, channels, passed⟩ := works now (by decide)
    refine becomes later nofun request ⟨ramps, 0, ?_, ?_⟩
    · rw [show (s.step p i).channelIndex = s.channelIndex from congrArg Figures.channelIndex figures]
      exact channels
    · rw [silent now nofun, passed]
      rfl
  | phaseWord _ now later _ figures =>
    obtain ⟨ramps, steps, channels, passed⟩ := works now (by decide)
    refine becomes later nofun request ⟨ramps, 0, ?_, ?_⟩
    · rw [show (s.step p i).channelIndex = s.channelIndex from congrArg Figures.channelIndex figures]
      exact channels
    · rw [silent now nofun, passed]
      rfl
  | divides d which now goesOn figures _ _ =>
    have same : (s.step p i).channelIndex = s.channelIndex := congrArg Figures.channelIndex figures
    obtain ⟨ramps, steps, channels, passed⟩ := works now (by obtain rfl | rfl := which <;> decide)
    have none {state : RuntimeState} (there : state = .calcStep d ∨ state = .calcDone d) (count : Nat) :
        accessesBefore count state = [] ∧ 3 < state.rank ∧ state ≠ .validate := by
      obtain rfl | rfl := which <;> obtain rfl | rfl := there <;> exact ⟨rfl, by decide, nofun⟩
    have later : (s.step p i).state = .calcStep d ∨ (s.step p i).state = .calcDone d := by
      obtain ⟨-, later⟩ | ⟨-, later⟩ := goesOn
      · exact .inr later
      · exact .inl later
    refine becomes rfl (none later 0).2.2 request ⟨ramps, 0, ?_, ?_⟩
    · rw [if_neg (Nat.not_le.mpr (none later 0).2.1), same]
      rwa [if_neg (Nat.not_le.mpr (none (.inl rfl) 0).2.1)] at channels
    · rw [silent now nofun, passed, (none later 0).1, (none (.inl rfl) steps).1, same]
  | works within undone later figures =>
    obtain inside | finished := later
    swap
    · exact ended (by rw [finished]; decide)
    have same : (s.step p i).channelIndex = s.channelIndex := congrArg Figures.channelIndex figures
    have before := rank_of_inChannel within
    have after := rank_of_inChannel inside
    obtain ⟨ramps, steps, channels, passed⟩ := works rfl (show 2 ≤ s.state.rank ∧ s.state.rank < 63 by omega)
    rw [if_neg (by omega)] at channels
    have unjudged : (s.step p i).state ≠ .validate := by
      intro judged
      rw [judged] at after
      exact absurd after (by decide)
    have onward (more : Nat) (added : accessesBefore steps s.state ++ (s.passes i).map Prod.snd =
          accessesBefore more (s.step p i).state) (here : s.passes i = (s.passes i).map fun pass => (s.channelIndex, pass.2)) :
        Passing (log ++ s.passes i) (s.step p i) := by
      refine becomes rfl unjudged request ⟨ramps, more, ?_, ?_⟩
      · rw [if_neg (by omega), same]
        exact channels
      · rw [passed, List.append_assoc, ← added, List.map_append, List.map_map, same]
        exact congrArg _ (congrArg _ here)
    by_cases awaits : ∃ a, s.state = .await a
    · obtain ⟨a, now⟩ := awaits
      have apply : a ≠ .readyProbe := by
        rintro rfl
        rw [now] at within
        contradiction
      obtain ⟨passes, next⟩ | ⟨passes, stays | finished⟩ := passes_await (p := p) (i := i) now apply
      · obtain ⟨more, added⟩ := accessesBefore_next steps apply
        refine onward more ?_ (by rw [passes]; rfl)
        rw [passes, next, added, now]
        rfl
      · refine onward steps ?_ (by rw [passes]; rfl)
        rw [passes, stays, now]
        exact List.append_nil _
      · rw [finished] at inside
        contradiction
    · have elsewhere := not_exists.mp awaits
      obtain ⟨more, added⟩ := accessesBefore_works within undone elsewhere leads steps
      have none := passes_elsewhere (i := i) elsewhere
      refine onward more ?_ (by rw [none]; rfl)
      rw [none, added]
      exact List.append_nil _
  | staged now goesOn =>
    obtain ⟨ramps, steps, channels, passed⟩ := works now (by decide)
    have requested : s.request.mask.getLsbD s.channelIndex = true :=
      (computing.working (by rw [now]; decide) (by rw [now]; decide)).requested (by rw [now]; decide) (by rw [now]; decide)
    have next : (ramps ++ [(s.channelIndex, steps)]).map Prod.fst =
        channelsBefore s.request.mask (s.channelIndex + 1) := by
      rw [List.map_append, channels, channelsBefore_succ, requested]
      rfl
    have all : log ++ s.passes i = passedAccesses (ramps ++ [(s.channelIndex, steps)]) := by
      rw [silent now nofun, passed, passedAccesses, passedAccesses, List.flatMap_append, List.flatMap_singleton]
      rfl
    obtain ⟨last, later, figures⟩ | ⟨more, later, figures⟩ := goesOn
    · refine becomes later nofun request ⟨_, 0, next.trans ?_, all.trans (List.append_nil _).symm⟩
      rw [last]
      rfl
    · refine becomes later nofun request ⟨_, 0, next.trans ?_, all.trans (List.append_nil _).symm⟩
      rw [show (s.step p i).channelIndex = s.channelIndex + 1 from congrArg Figures.channelIndex figures]
      exact congrArg _ (index_next more).symm
  | waits now figures =>
    have same : (s.step p i).channelIndex = s.channelIndex := congrArg Figures.channelIndex figures
    have ready : (s.state = .ncoCommitStart ∨ s.state = .ncoCommitWait) ∧
        ((s.step p i).state = .ncoCommitStart ∨ (s.step p i).state = .ncoCommitWait) := by
      obtain ⟨now, later⟩ | ⟨now, -, later⟩ := now
      · exact ⟨.inl now, later⟩
      · exact ⟨.inr now, .inr later⟩
    have none {state : RuntimeState} (there : state = .ncoCommitStart ∨ state = .ncoCommitWait) (count : Nat) :
        accessesBefore count state = [] ∧ (state.rank ≤ 3 ∧ 2 ≤ state.rank) ∧ state ≠ .validate ∧ ∀ a, state ≠ .await a := by
      obtain rfl | rfl := there <;> exact ⟨rfl, by decide, nofun, nofun⟩
    have low := (none ready.1 0).2.1
    obtain ⟨ramps, steps, channels, passed⟩ := works rfl (show 2 ≤ s.state.rank ∧ s.state.rank < 63 by omega)
    refine becomes rfl (none ready.2 0).2.2.1 request ⟨ramps, 0, ?_, ?_⟩
    · rw [if_pos (none ready.2 0).2.1.1]
      rwa [if_pos low.1] at channels
    · rw [silent rfl (none ready.1 0).2.2.2, passed, (none ready.2 0).1, (none ready.1 steps).1]
      rfl
  | refused _ _ _ later _ | confirmed _ _ _ later _ => exact ended (by rw [later]; decide)

/-! ## What an apply leaves of the reports -/

/-- Nothing but the confirmation of a commit and the begin of an apply changes the reports. -/
theorem reports_step (reckons : Reckons s i t) (unopened : s.state = .validate → t.state ≠ .select)
    (unconfirmed : t.state = .finish → s.state = .ncoCommitWait → i.ncoCommitError ≠ 0) :
    t.actual = s.actual ∧ t.result.configValidMask = s.result.configValidMask := by
  have same (actual : t.figures.actual = s.figures.actual)
      (valid : t.figures.configValidMask = s.figures.configValidMask) :
      t.actual = s.actual ∧ t.result.configValidMask = s.result.configValidMask := ⟨actual, valid⟩
  cases reckons with
  | opened validates later => exact absurd later (unopened validates)
  | confirmed commits _ fine later => exact absurd fine (unconfirmed later commits)
  | rests _ _ figures | taken _ _ _ figures | chosen _ _ _ figures | setsUpNco _ _ figures | setsUpPhase _ _ figures
    | ncoWord _ _ figures | phaseWord _ _ _ _ figures | divides _ _ _ _ figures | works _ _ _ figures
    | waits _ figures | refused _ _ _ _ figures =>
    exact same (by rw [figures]) (by rw [figures])
  | skips _ _ goesOn | staged _ goesOn =>
    obtain ⟨-, -, figures⟩ | ⟨-, -, figures⟩ := goesOn <;> exact same (by rw [figures]) (by rw [figures])

/-- The apply begins: its channels are no longer valid. -/
theorem opened_step (reckons : Reckons s i t) (now : s.state = .validate) (later : t.state = .select) :
    t.actual = s.actual ∧ t.result.configValidMask = s.result.configValidMask &&& ~~~s.request.mask := by
  have apart {state : RuntimeState} (there : s.state = state) : state = .validate := there.symm.trans now
  cases reckons with
  | opened _ _ _ figures =>
    exact ⟨congrArg Figures.actual figures, congrArg Figures.configValidMask figures⟩
  | rests _ outside =>
    rw [later] at outside
    contradiction
  | works within =>
    rw [now] at within
    contradiction
  | divides _ which there =>
    exact absurd (apart there) nofun
  | waits there =>
    obtain ⟨there, -⟩ | ⟨there, -⟩ := there <;> exact absurd (apart there) nofun
  | taken there | skips there | chosen there | setsUpNco there | setsUpPhase there | ncoWord there | phaseWord _ there
    | staged there | refused there | confirmed there => exact absurd (apart there) nofun

/-- The commit is confirmed: the staged reports become the actual ones. -/
theorem confirmed_reports (reckons : Reckons s i t) (now : s.state = .ncoCommitWait) (done : i.ncoCommitDone = true)
    (fine : i.ncoCommitError = 0) :
    t.actual = s.staged ∧ t.result.configValidMask = s.result.configValidMask ||| s.request.mask := by
  have apart {state : RuntimeState} (there : s.state = state) : state = .ncoCommitWait := there.symm.trans now
  cases reckons with
  | confirmed _ _ _ _ figures =>
    exact ⟨congrArg Figures.actual figures, congrArg Figures.configValidMask figures⟩
  | rests outside =>
    rw [now] at outside
    simp [RuntimeState.serves] at outside
  | works within =>
    rw [now] at within
    contradiction
  | refused _ _ failed => exact absurd fine failed
  | divides _ which there => exact absurd (apart there) (by rintro ⟨⟩)
  | waits there =>
    obtain ⟨there, -⟩ | ⟨-, undone, -⟩ := there
    · exact absurd (apart there) (by rintro ⟨⟩)
    · exact Bool.noConfusion (undone.symm.trans done)
  | opened there | taken there | skips there | chosen there | setsUpNco there | setsUpPhase there | ncoWord there
    | phaseWord _ there | staged there => exact absurd (apart there) (by rintro ⟨⟩)

/-- What holds in every reachable state. -/
structure Running (p : RuntimeParams) (s : RuntimeConfig) : Prop where
  ramped : Ramped p s
  computing : Computing s
  reporting : Reporting s
  started : s.ncoCommit.start = true → s.state = .ncoCommitWait

theorem running_reset : Running p (reset p) where
  ramped := ramped_reset
  computing := computing_outside nofun (show RuntimeState.idle.rank < 2 by decide)
  reporting := reporting_reset
  started := nofun

theorem running_step (held : Running p s) : Running p (s.step p i) where
  ramped := ramped_step held.ramped
  computing := computing_step held.computing reckons_step
  reporting := reporting_step held.reporting held.computing held.ramped
  started := commit_started

theorem running_trace (p : RuntimeParams) (inputs : Nat → RuntimeIn) (n : Nat) :
    Running p ((runtimeConfig p).trace inputs n) :=
  (runtimeConfig p).trace_invariant inputs running_reset (fun _ _ => running_step) n

/-- At the commit the staged reports are those of the request, and the actual ones of the other channels. -/
theorem staged_all (held : Running p s) (now : s.state = .ncoCommitWait) (c : Fin 8) :
    s.staged.channel c = if s.request.mask.getLsbD c then s.request.report c else s.actual.channel c := by
  have index : s.channelIndex = 7 := (held.computing.working (by rw [now]; decide) (by rw [now]; decide)).last
    (by rw [now]; decide)
  have staged := (held.reporting.reported (by rw [now]; decide) (by rw [now]; decide)).staged
  refine (congrFun staged c).trans ?_
  have all : stagedSet s.state s.channelIndex c = true := by
    rw [stagedSet, now, index, show decide (RuntimeState.ncoCommitWait.rank ≤ 3) = true from rfl, Bool.and_true,
      Bool.or_eq_true, decide_eq_true_iff, decide_eq_true_iff]
    exact lt_or_eq_of_le (Fin.le_last c)
  change (if s.request.mask.getLsbD c && stagedSet s.state s.channelIndex c then s.request.report c
    else s.actual.channel c) = _
  rw [all, Bool.and_true]

/-! ## From the take to the end -/

/-- The apply is confirmed: the channels of its request, and only they, have new reports. -/
structure Confirmed (s : RuntimeConfig) (cmd : RfdcRequest) (t : RuntimeConfig) : Prop where
  status : t.result.status = stOk
  applied : t.result.appliedMask = cmd.channelMask
  valid : t.result.configValidMask = s.result.configValidMask ||| cmd.channelMask
  actual : ∀ c : Fin 8, t.actual.channel c =
    if cmd.channelMask.getLsbD c then (requestOf cmd).report c else s.actual.channel c

section

variable (σ : Nat → RuntimeConfig) (inputs : Nat → RuntimeIn) (n m : Nat) (cmd : RfdcRequest)

def Taken : Prop := (σ n).state = .idle ∧ (inputs n).start = true

/-- What began in the cycle `n` is done in the cycle `m`. -/
structure Over : Prop where
  after : n < m
  done : (σ m).done = true
  before : ∀ k, n < k → k < m → (σ k).done = false

def Muted : Prop := ∃ k, n < k ∧ k ≤ m ∧ (σ k).forceMutePulse = true

/-- An access has been asked for, or a commit has been started. -/
def Touched : Prop := ∃ k, n < k ∧ k ≤ m ∧ ((σ k).axi.start = true ∨ (σ k).ncoCommit.start = true)

/-- The apply has failed or was rejected: no report has changed, no channel has become valid, those
    of the request are not valid if anything was done, and the outputs have been muted. -/
structure Refused : Prop where
  status : (σ m).result.status ≠ stOk
  actual : (σ m).actual = (σ n).actual
  valid : ∀ c : Fin 8, (σ m).result.configValidMask.getLsbD c = true →
    (σ n).result.configValidMask.getLsbD c = true
  cleared : Touched σ n m → ∀ c : Fin 8, cmd.channelMask.getLsbD c = true →
    (σ m).result.configValidMask.getLsbD c = false
  muted : cmd.channelMask ≠ 0 → Muted σ n m

/-- How far an apply has come. -/
inductive Under : Prop
  | judged : (σ m).state = .validate → (σ m).request = requestOf cmd → (σ m).result.status = stOk →
      (σ m).actual = (σ n).actual → (σ m).result.configValidMask = (σ n).result.configValidMask →
      ¬Touched σ n m → Under
  | works : 2 ≤ (σ m).state.rank → (σ m).state.rank < 63 → (σ m).request = requestOf cmd →
      (σ m).result.status = stOk → (σ m).actual = (σ n).actual →
      (σ m).result.configValidMask = (σ n).result.configValidMask &&& ~~~cmd.channelMask →
      Muted σ n m → Under
  | ends : (σ m).state = .finish → Confirmed (σ n) cmd (σ m) ∨ Refused σ n m cmd → Under

end

/-- The registers from one clock edge to the next, everything known of them holding. -/
structure Runs (p : RuntimeParams) (σ : Nat → RuntimeConfig) (inputs : Nat → RuntimeIn) : Prop where
  next : ∀ n, σ (n + 1) = (σ n).step p (inputs n)
  running : ∀ n, Running p (σ n)

variable {σ : Nat → RuntimeConfig} {inputs : Nat → RuntimeIn} {n m : Nat} {cmd : RfdcRequest}

theorem Runs.answers (runs : Runs p σ inputs) (n : Nat) : Answers p (σ n) (inputs n) (σ (n + 1)) := by
  rw [runs.next]
  exact answers_step (runs.running n).ramped.ported (runs.running n).started

theorem Runs.reckons (runs : Runs p σ inputs) (n : Nat) : Reckons (σ n) (inputs n) (σ (n + 1)) := by
  rw [runs.next]
  exact reckons_step

theorem Muted.later (muted : Muted σ n m) : Muted σ n (m + 1) := by
  obtain ⟨k, after, upto, mutes⟩ := muted
  exact ⟨k, after, by omega, mutes⟩

theorem Muted.now (after : n < m) (mutes : (σ m).forceMutePulse = true) : Muted σ n m :=
  ⟨m, after, Nat.le_refl _, mutes⟩

/-- Neither an access nor a commit begins in a state that is neither. -/
theorem Running.untouched (running : Running p s) (access : ∀ a, s.state ≠ .await a)
    (commit : s.state ≠ .ncoCommitWait) : ¬(s.axi.start = true ∨ s.ncoCommit.start = true) := by
  rintro (starts | starts)
  · exact Bool.noConfusion ((running.ramped.ported.quiet access).start.symm.trans starts)
  · exact commit (running.started starts)

theorem not_touched_later (untouched : ¬Touched σ n m)
    (now : ¬((σ (m + 1)).axi.start = true ∨ (σ (m + 1)).ncoCommit.start = true)) : ¬Touched σ n (m + 1) := by
  rintro ⟨k, after, upto, touches⟩
  obtain rfl | earlier : k = m + 1 ∨ k ≤ m := by omega
  · exact now touches
  · exact untouched ⟨k, after, earlier, touches⟩

theorem clears_or (valid mask : BitVec 8) : valid &&& ~~~mask ||| mask = valid ||| mask := by
  ext bit within
  simp only [BitVec.getElem_or, BitVec.getElem_and, BitVec.getElem_not]
  cases valid[bit] <;> cases mask[bit] <;> rfl

/-- An apply that fails after it has begun. -/
theorem refused_of_failed (status : (σ m).result.status ≠ stOk) (actual : (σ m).actual = (σ n).actual)
    (valid : (σ m).result.configValidMask = (σ n).result.configValidMask &&& ~~~cmd.channelMask)
    (muted : Muted σ n m) : Refused σ n m cmd where
  status := status
  actual := actual
  valid c held := by
    rw [valid, BitVec.getLsbD_and, Bool.and_eq_true] at held
    exact held.1
  cleared _ c requested := by
    rw [valid, BitVec.getLsbD_and, BitVec.getLsbD_not, requested, Bool.not_true, Bool.and_false, Bool.and_false]
  muted _ := muted

/-- An apply goes on, or it is done and either confirmed or refused. -/
theorem under_step (runs : Runs p σ inputs) (after : n < m) (under : Under σ n m cmd) :
    Under σ n (m + 1) cmd ∨ (σ (m + 1)).state = .idle ∧
      (Confirmed (σ n) cmd (σ (m + 1)) ∨ Refused σ n (m + 1) cmd) := by
  have answers := runs.answers m
  have reckons := runs.reckons m
  have running := runs.running (m + 1)
  cases under with
  | judged now request status actual valid untouched =>
    have apart {state : RuntimeState} (there : (σ m).state = state) : state = .validate := there.symm.trans now
    cases answers with
    | outOfRange _ _ later mutes verdict =>
      obtain ⟨sameActual, sameValid⟩ := reports_step reckons (fun _ => by rw [later]; exact nofun)
        fun _ commits => absurd (apart commits) nofun
      refine .inr ⟨later, .inr ⟨?_, sameActual.trans actual, fun c held => ?_, fun touched => ?_, fun _ => ?_⟩⟩
      · rw [show (σ (m + 1)).result.status = stRange from congrArg Verdict.status verdict]
        decide
      · rw [sameValid, valid] at held
        exact held
      · exact absurd touched (not_touched_later untouched (running.untouched (by rw [later]; exact nofun)
          (by rw [later]; exact nofun)))
      · exact .now (by omega) mutes
    | opened _ _ later mutes verdict =>
      obtain ⟨sameActual, sameValid⟩ := opened_step reckons now later
      refine .inl (.works (by rw [later]; decide) (by rw [later]; decide) ?_ ?_ (sameActual.trans actual) ?_ (.now (by omega) mutes))
      · exact (request_step reckons (by rw [now]; exact nofun)).trans request
      · exact (congrArg Verdict.status verdict).trans status
      · rw [sameValid, valid, request]
        rfl
    | rests outside =>
      rw [now] at outside
      contradiction
    | works _ high | fails _ _ high =>
      rw [now] at high
      exact absurd high (by decide)
    | repeats there | rejected _ there | taken there | confirmed there | finished there =>
      exact absurd (apart there) nofun
  | works low high request status actual valid muted =>
    have unjudged : (σ m).state ≠ .validate := by
      intro there
      rw [there] at high
      exact absurd high (by decide)
    have idle : (σ m).state ≠ .idle := by
      intro there
      rw [there] at low
      contradiction
    have same := (request_step reckons idle).trans request
    cases answers with
    | works _ _ still below verdict =>
      obtain ⟨sameActual, sameValid⟩ := reports_step reckons (absurd · unjudged) fun later => by
        rw [later] at still
        contradiction
      exact .inl (.works still below same ((congrArg Verdict.status verdict).trans status) (sameActual.trans actual)
        (sameValid.trans valid) muted.later)
    | fails code _ _ later mutes failed wrong _ verdict =>
      obtain ⟨sameActual, sameValid⟩ := reports_step reckons (absurd · unjudged) fun _ => failed
      refine .inl (.ends later (.inr (refused_of_failed ?_ (sameActual.trans actual) (sameValid.trans valid) muted.later)))
      rw [show (σ (m + 1)).result.status = code from congrArg Verdict.status verdict]
      exact wrong
    | confirmed commits done fine later verdict =>
      obtain ⟨sameActual, sameValid⟩ := confirmed_reports reckons commits done fine
      refine .inl (.ends later (.inl ⟨(congrArg Verdict.status verdict).trans status, ?_, ?_, fun c => ?_⟩))
      · rw [show (σ (m + 1)).result.appliedMask = (σ m).request.mask from congrArg Verdict.appliedMask verdict, request]
        rfl
      · rw [sameValid, valid, request]
        exact clears_or _ _
      · rw [sameActual, staged_all (runs.running m) commits, request, actual]
        rfl
    | opened there | outOfRange there => exact absurd there unjudged
    | taken there | rejected _ there | repeats there => exact absurd there idle
    | rests outside => exact absurd (rank_of_not_serves outside) (Nat.not_lt.mpr low)
    | finished there =>
      rw [there] at low
      contradiction
  | ends now outcome =>
    have apart {state : RuntimeState} (there : (σ m).state = state) : state = .finish := there.symm.trans now
    cases answers with
    | finished _ later verdict =>
      obtain ⟨sameActual, sameValid⟩ := reports_step reckons (fun there => absurd (apart there) nofun)
        fun there => by rw [later] at there; exact absurd there nofun
      have status : (σ (m + 1)).result.status = (σ m).result.status := congrArg Verdict.status verdict
      refine .inr ⟨later, outcome.imp (fun confirmed => ?_) fun refused => ?_⟩
      · refine ⟨status.trans confirmed.status, ?_, sameValid.trans confirmed.valid, fun c => ?_⟩
        · exact (congrArg Verdict.appliedMask verdict).trans confirmed.applied
        · rw [sameActual]
          exact confirmed.actual c
      · refine ⟨status ▸ refused.status, sameActual.trans refused.actual, ?_, fun touched c => ?_, ?_⟩
        · rw [sameValid]
          exact refused.valid
        · rw [sameValid]
          refine refused.cleared ?_ c
          by_contra untouched
          exact not_touched_later untouched (running.untouched (by rw [later]; exact nofun)
            (by rw [later]; exact nofun)) touched
        · exact fun requested => (refused.muted requested).later
    | rests outside =>
      rw [now] at outside
      contradiction
    | works low | fails _ low =>
      rw [now] at low
      contradiction
    | repeats there | rejected _ there | taken there | outOfRange there | opened there | confirmed there =>
      exact absurd (apart there) nofun

theorem Under.serves (under : Under σ n m cmd) : (σ m).state.serves = true := by
  cases under with
  | judged now | ends now =>
    rw [now]
    rfl
  | works low => exact serves_of_rank low

/-- While it is not done, an apply goes on. -/
theorem Runs.goes (runs : Runs p σ inputs) (serves : (σ m).state.serves = true) : Goes (σ (m + 1)) := by
  rw [runs.next]
  exact step_serves serves

theorem under_run (runs : Runs p σ inputs) (d : Nat) (begins : Under σ n (n + 1) cmd)
    (undone : ∀ k, n < k → k ≤ n + 1 + d → (σ k).done = false) : Under σ n (n + 1 + d) cmd := by
  induction d with
  | zero => exact begins
  | succ d ih =>
    have under := ih fun k after upto => undone k after (by omega)
    obtain still | ⟨idle, -⟩ := under_step runs (by omega) under
    · exact still
    · obtain ⟨-, done⟩ | ⟨serves, -⟩ := runs.goes under.serves
      · exact Bool.noConfusion (done.symm.trans (undone _ (by omega) (by omega)))
      · rw [idle] at serves
        contradiction

/-- An apply that is taken and not answered at once begins. -/
theorem taken_begins (runs : Runs p σ inputs) (taken : Taken σ inputs n) (undone : (σ (n + 1)).done = false) :
    (σ (n + 1)).state = .validate ∧ Under σ n (n + 1) (inputs n).cmd := by
  have apart {state : RuntimeState} (there : (σ n).state = state) : state = .idle := there.symm.trans taken.1
  have goes : Goes (σ (n + 1)) := by
    rw [runs.next]
    exact step_start taken.1 taken.2
  have serves : (σ (n + 1)).state.serves = true := by
    obtain ⟨-, done⟩ | ⟨serves, -⟩ := goes
    · exact Bool.noConfusion (done.symm.trans undone)
    · exact serves
  have reckons := runs.reckons n
  cases runs.answers n with
  | taken _ _ _ later request verdict =>
    obtain ⟨actual, valid⟩ := reports_step reckons (fun there => absurd (apart there) nofun)
      fun _ there => absurd (apart there) nofun
    refine ⟨later, .judged later request (congrArg Verdict.status verdict) actual valid ?_⟩
    rintro ⟨k, after, upto, touches⟩
    obtain rfl : k = n + 1 := by omega
    exact (runs.running _).untouched (by rw [later]; exact nofun) (by rw [later]; exact nofun) touches
  | rests _ _ outside => exact absurd (serves.symm.trans outside) nofun
  | repeats _ _ _ again =>
    rw [again] at undone
    contradiction
  | rejected _ _ _ _ _ later =>
    rw [later] at serves
    contradiction
  | works low | fails _ low =>
    rw [taken.1] at low
    contradiction
  | outOfRange there | opened there | confirmed there | finished there => exact absurd (apart there) nofun

/-- An apply that is taken and not the one before once more is confirmed or refused. -/
theorem concluded (runs : Runs p σ inputs) (taken : Taken σ inputs n) (ended : Over σ n m)
    (new : (σ n).kept ≠ some ((inputs n).cmd.sequence, (inputs n).cmd.revision)) :
    Confirmed (σ n) (inputs n).cmd (σ m) ∨ Refused σ n m (inputs n).cmd := by
  have after := ended.after
  obtain rfl | later : m = n + 1 ∨ n + 1 < m := by omega
  · have apart {state : RuntimeState} (there : (σ n).state = state) : state = .idle := there.symm.trans taken.1
    cases runs.answers n with
    | rejected status _ _ _ rejection later mutes verdict =>
      obtain ⟨actual, valid⟩ := reports_step (runs.reckons n) (fun there => absurd (apart there) nofun)
        fun _ there => absurd (apart there) nofun
      refine .inr ⟨?_, actual, fun c => by rw [valid]; exact id, fun touched => ?_, fun some => .now after (mutes some)⟩
      · rw [show (σ (n + 1)).result.status = status from congrArg Verdict.status verdict]
        rintro rfl
        exact absurd rejection (by decide)
      · obtain ⟨k, within, upto, touches⟩ := touched
        obtain rfl : k = n + 1 := by omega
        exact absurd touches ((runs.running _).untouched (by rw [later]; exact nofun) (by rw [later]; exact nofun))
    | taken _ _ _ later =>
      obtain ⟨idle, -⟩ | ⟨-, undone⟩ : Goes (σ (n + 1)) := by
        rw [runs.next]
        exact step_start taken.1 taken.2
      · exact absurd (later.symm.trans idle) nofun
      · exact Bool.noConfusion (undone.symm.trans ended.done)
    | rests _ quiet => exact Bool.noConfusion ((quiet taken.1).symm.trans taken.2)
    | repeats _ _ same => exact absurd same new
    | works low | fails _ low =>
      rw [taken.1] at low
      contradiction
    | outOfRange there | opened there | confirmed there | finished there => exact absurd (apart there) nofun
  · obtain ⟨d, rfl⟩ : ∃ d, m = n + 1 + d + 1 := ⟨m - n - 2, by omega⟩
    obtain ⟨-, begins⟩ := taken_begins runs taken (ended.before _ (by omega) (by omega))
    have under := under_run runs d begins fun k after upto => ended.before k after (by omega)
    obtain still | ⟨-, outcome⟩ := under_step runs (by omega) under
    · obtain ⟨idle, -⟩ | ⟨-, undone⟩ := runs.goes under.serves
      · have serves := still.serves
        rw [idle] at serves
        contradiction
      · exact Bool.noConfusion (undone.symm.trans ended.done)
    · exact outcome

/-- An apply under way was taken, and it has not been done since. -/
theorem taken_before (runs : Runs p σ inputs) (base : (σ 0).state.serves = false) (serves : (σ m).state.serves = true) :
    ∃ n, n < m ∧ Taken σ inputs n ∧ ∀ k, n < k → k ≤ m → (σ k).done = false := by
  induction m with
  | zero => exact Bool.noConfusion (base.symm.trans serves)
  | succ m ih =>
    have undone : Goes (σ (m + 1)) → (σ (m + 1)).done = false := by
      rintro (⟨idle, -⟩ | ⟨-, undone⟩)
      · rw [idle] at serves
        contradiction
      · exact undone
    cases before : (σ m).state.serves with
    | true =>
      obtain ⟨n, earlier, taken, since⟩ := ih before
      refine ⟨n, by omega, taken, fun k after upto => ?_⟩
      obtain rfl | within : k = m + 1 ∨ k ≤ m := by omega
      · exact undone (runs.goes before)
      · exact since k after within
    | false =>
      by_cases taken : Taken σ inputs m
      · refine ⟨m, by omega, taken, fun k after upto => ?_⟩
        obtain rfl : k = m + 1 := by omega
        apply undone
        rw [runs.next]
        exact step_start taken.1 taken.2
      · have rests : Rests (σ (m + 1)) := by
          rw [runs.next]
          refine step_quiet before fun idle => ?_
          by_contra starts
          exact taken ⟨idle, by simpa using starts⟩
        exact Bool.noConfusion (rests.1.symm.trans serves)

/-- Every apply that is taken comes to its end. -/
theorem taken_ends (runs : Runs p σ inputs) (finish : CommitsFinish σ inputs) (taken : Taken σ inputs n) :
    ∃ m, Over σ n m := by
  have goes : Goes (σ (n + 1)) := by
    rw [runs.next]
    exact step_start taken.1 taken.2
  obtain ⟨-, done⟩ | ⟨serves, undone⟩ := goes
  · exact ⟨n + 1, by omega, done, fun k after before => by omega⟩
  · have follow : Follow p σ inputs :=
      ⟨runs.next, fun n => (runs.running n).ramped.ported, fun n => (runs.running n).ramped.sound⟩
    obtain ⟨m, later, outside, first⟩ := exists_first (follow.ends finish (n + 1) serves)
    have serving (k : Nat) (after : n + 1 ≤ k) (before : k < m) : (σ k).state.serves = true := by
      simpa using first k after before
    have goes (k : Nat) (after : n + 1 < k) (upto : k ≤ m) : Goes (σ k) := by
      obtain ⟨k, rfl⟩ : ∃ j, k = j + 1 := ⟨k - 1, by omega⟩
      exact runs.goes (serving k (by omega) (by omega))
    have apart : m ≠ n + 1 := by
      rintro rfl
      exact Bool.noConfusion (outside.symm.trans serves)
    refine ⟨m, by omega, ?_, fun k after before => ?_⟩
    · obtain ⟨-, done⟩ | ⟨still, -⟩ := goes m (by omega) (Nat.le_refl _)
      · exact done
      · exact Bool.noConfusion (outside.symm.trans still)
    · obtain rfl | within : k = n + 1 ∨ n + 1 < k := by omega
      · exact undone
      · obtain ⟨idle, -⟩ | ⟨-, undone⟩ := goes k within (by omega)
        · have still := serving k (by omega) before
          rw [idle] at still
          contradiction
        · exact undone

/-! ## On its own -/

theorem runs_trace (p : RuntimeParams) (inputs : Nat → RuntimeIn) : Runs p ((runtimeConfig p).trace inputs) inputs :=
  ⟨fun _ => rfl, running_trace p inputs⟩

/-- What is kept is the answer to the last apply, unless it was rejected. -/
theorem accounted_trace (p : RuntimeParams) (inputs : Nat → RuntimeIn) (n : Nat) :
    Accounted ((runtimeConfig p).traceLog takes inputs 0 n) ((runtimeConfig p).trace inputs n) := by
  induction n with
  | zero => exact ⟨fun _ => rfl, nofun, nofun, fun low => absurd low (by simp [runtimeConfig, reset, RuntimeState.rank])⟩
  | succ n ih =>
    rw [traceLog_succ, Nat.zero_add]
    have runs := runs_trace p inputs
    exact accounted_step ih (runs.answers n) (runs.reckons n)

/-- The accesses that have succeeded since an apply was taken. -/
theorem passing_trace (taken : Taken ((runtimeConfig p).trace inputs) inputs n) (d : Nat)
    (undone : ∀ k, n < k → k ≤ n + 1 + d → ((runtimeConfig p).trace inputs k).done = false) :
    Passing ((runtimeConfig p).traceLog passes inputs n (1 + d)) ((runtimeConfig p).trace inputs (n + 1 + d)) := by
  have runs := runs_trace p inputs
  obtain ⟨begins, under⟩ := taken_begins runs taken (undone _ (by omega) (by omega))
  induction d with
  | zero =>
    have none : (runtimeConfig p).traceLog passes inputs n (1 + 0) = [] := by
      rw [show 1 + 0 = 0 + 1 from rfl, traceLog_succ, traceLog_zero, List.nil_append, Nat.add_zero]
      exact passes_elsewhere fun a => by rw [taken.1]; exact nofun
    rw [none]
    refine ⟨fun _ => rfl, fun _ high => ?_⟩
    rw [Nat.add_zero, begins] at high
    exact absurd high (by decide)
  | succ d ih =>
    have before := ih fun k after upto => undone k after (by omega)
    have serves := (under_run runs d under fun k after upto => undone k after (by omega)).serves
    rw [show 1 + (d + 1) = 1 + d + 1 by omega, traceLog_succ, show n + (1 + d) = n + 1 + d by omega]
    refine passing_step before (runs.running _).computing fun idle => ?_
    rw [idle] at serves
    contradiction

end RuntimeConfig

open RuntimeConfig

/-- Every apply that is taken ends if the commits do, with the answer of the apply before once more
    when it is that one again, and else confirmed or refused; a commit is started when every channel
    of the request has gone through its accesses. -/
theorem apply_confirmed_or_refused (p : RuntimeParams) (inputs : Nat → RuntimeIn) :
    let σ := (runtimeConfig p).trace inputs
    (CommitsFinish σ inputs → ∀ n, Taken σ inputs n → ∃ m, Over σ n m) ∧
      (∀ n m, Taken σ inputs n → Over σ n m →
        let before := (runtimeConfig p).traceLog takes inputs 0 n
        let cmd := (inputs n).cmd
        if lastAnswered before (σ n).result.status = some (cmd.sequence, cmd.revision) then
          m = n + 1 ∧ σ m = (σ n).again p ∧ ¬Touched σ n m
        else Confirmed (σ n) cmd (σ m) ∨ Refused σ n m cmd) ∧
      ∀ k, (σ k).ncoCommit.start = true → ∃ n < k, Taken σ inputs n ∧
        (∀ l, n < l → l ≤ k → (σ l).done = false) ∧ ∃ ramps : List (Fin 8 × Nat),
          ramps.map Prod.fst = (List.finRange 8).filter (fun c : Fin 8 => (inputs n).cmd.channelMask.getLsbD c) ∧
            (runtimeConfig p).traceLog passes inputs n (k - n) = passedAccesses ramps := by
  intro σ
  have runs : Runs p σ inputs := runs_trace p inputs
  refine ⟨fun finish n taken => taken_ends runs finish taken, fun n m taken ended => ?_, fun k started => ?_⟩
  · intro before cmd
    have kept : (σ n).kept = lastAnswered before (σ n).result.status :=
      (accounted_trace p inputs n).rests (by rw [taken.1]; rfl)
    rw [← kept]
    by_cases same : (σ n).kept = some (cmd.sequence, cmd.revision)
    · rw [if_pos same]
      have repeated : σ (n + 1) = (σ n).again p := by
        have apart {state : RuntimeState} (there : (σ n).state = state) : state = .idle := there.symm.trans taken.1
        cases runs.answers n with
        | repeats _ _ _ again => exact again
        | rejected _ _ _ new | taken _ _ new => exact absurd same new
        | rests _ quiet => exact Bool.noConfusion ((quiet taken.1).symm.trans taken.2)
        | works low | fails _ low =>
          rw [taken.1] at low
          contradiction
        | outOfRange there | opened there | confirmed there | finished there => exact absurd (apart there) nofun
      have next : m = n + 1 := by
        by_contra later
        have undone := ended.before (n + 1) (by omega) (by have := ended.after; omega)
        rw [repeated] at undone
        contradiction
      refine ⟨next, next ▸ repeated, ?_⟩
      rintro ⟨k, after, upto, touches⟩
      obtain rfl : k = n + 1 := by omega
      have idle : (σ (n + 1)).state = .idle := by
        rw [repeated]
        exact taken.1
      exact (runs.running _).untouched (by rw [idle]; exact nofun) (by rw [idle]; exact nofun) touches
    · rw [if_neg same]
      exact concluded runs taken ended same
  · have now : (σ k).state = .ncoCommitWait := (runs.running k).started started
    obtain ⟨n, earlier, taken, since⟩ := taken_before runs rfl (show (σ k).state.serves = true by rw [now]; rfl)
    refine ⟨n, earlier, taken, since, ?_⟩
    obtain ⟨d, rfl⟩ : ∃ d, k = n + 1 + d := ⟨k - n - 1, by omega⟩
    obtain ⟨-, begins⟩ := taken_begins runs taken (since _ (by omega) (by omega))
    obtain ⟨ramps, steps, channels, passed⟩ := (passing_trace taken d since).working (by rw [now]; decide) (by rw [now]; decide)
    refine ⟨ramps, ?_, ?_⟩
    · have request : (σ (n + 1 + d)).request = requestOf (inputs n).cmd := by
        cases under_run runs d begins since with
        | judged _ request | works _ _ request => exact request
        | ends there => exact absurd (now.symm.trans there) nofun
      rw [channels, now]
      change channelsBefore (σ (n + 1 + d)).request.mask 8 = _
      rw [request]
      rfl
    · rw [show n + 1 + d - n = 1 + d by omega, passed, now]
      exact List.append_nil _

/-! ## Rejected applies -/

/-- An apply for the given channels, while playback may be armed. -/
def applyFor (channelMask : BitVec 8) (armed : Bool) : RuntimeIn where
  start := true
  cmd := ⟨1, 1, channelMask, fun _ => 0, fun _ => 1, fun _ => 0, fun _ => 20000⟩
  playbackArmed := armed
  playbackRunning := false
  ncoCommitBusy := false
  ncoCommitDone := false
  ncoCommitError := 0
  axil := default

/-- An apply for no channel fails without muting the outputs, and an apply that was rejected is
    judged anew when it comes again. -/
theorem rejections_are_exceptions :
    (¬∀ (p : RuntimeParams) (inputs : Nat → RuntimeIn) (n m : Nat), let σ := (runtimeConfig p).trace inputs
      Taken σ inputs n → Over σ n m → (σ m).result.status ≠ stOk → Muted σ n m) ∧
    ¬∀ (p : RuntimeParams) (inputs : Nat → RuntimeIn) (n m : Nat), let σ := (runtimeConfig p).trace inputs
      Taken σ inputs n → Over σ n m → Taken σ inputs m → (inputs m).cmd.sequence = (inputs n).cmd.sequence →
        (inputs m).cmd.revision = (inputs n).cmd.revision → σ (m + 1) = (σ m).again p := by
  constructor
  · intro claim
    obtain ⟨k, after, upto, mutes⟩ := claim RfdcControl.topParams (fun _ => applyFor 0 false) 0 1 ⟨rfl, rfl⟩
      ⟨by decide, rfl, fun k after before => absurd before (by omega)⟩ (by decide)
    obtain rfl : k = 1 := by omega
    exact Bool.noConfusion (show false = true from mutes)
  · intro claim
    have again := claim RfdcControl.topParams (fun n => applyFor 1 (n == 0)) 0 1 ⟨rfl, rfl⟩
      ⟨by decide, rfl, fun k after before => absurd before (by omega)⟩ ⟨rfl, rfl⟩ rfl rfl
    exact absurd (congrArg RuntimeConfig.state again) nofun

end Xczu47dr.Rfdc
