import Xczu47dr.Playback.LoopPasses

/-! # When the gate opens and how triggers are counted

The gate opens behind a prefetch that has reported completion and nowhere else.  A play
that is pending when it does was asked for by software, or by the end of a pass that is
not the last one.  Each trigger is counted as seen, and as fired or as dropped, and it is
dropped whenever a command or a fault decides the cycle.
-/

namespace Xczu47dr.Playback

namespace PlaybackController

variable {s : PlaybackController} {i : ControllerIn}

def opens (s : PlaybackController) (i : ControllerIn) : Bool := !s.dacGate && (s.step i).dacGate

/-- A pass ends and another one is to follow. -/
def loops (s : PlaybackController) (i : ControllerIn) : Bool :=
  s.streamFire i && i.beatLast && decide (1 < i.loopCount ∧ s.loopPosition + 1 < i.loopCount)

/-- `PREFETCH` reports completion. -/
def completes (s : PlaybackController) (i : ControllerIn) : Bool :=
  s.state = .prefetch && i.prefetchDone && i.fifoSafe

/-- A command or a fault that wins over a trigger. -/
def outranked (s : PlaybackController) (i : ControllerIn) : Bool :=
  i.abortCmd || s.activeFault i || i.beginCmd || i.stopCmd || i.pauseCmd

/-- Where a command or a fault leads to, in the order of their priorities. -/
def ruling (s : PlaybackController) (i : ControllerIn) : SessionState :=
  if i.abortCmd then .idle
  else if s.activeFault i then .error
  else if i.beginCmd then .upload
  else if i.stopCmd && decide (s.state = .upload) then .idle
  else if (i.stopCmd || i.pauseCmd) && s.haltable then .ready
  else s.course i

def untriggered (i : ControllerIn) : ControllerIn := { i with triggerEvent := false }

/-! ## One cycle -/

theorem step_state_ruling : (s.step i).state = s.ruling i := by
  unfold step ruling
  dsimp only
  split_ifs
  · rfl
  · rfl
  · rfl
  · rfl
  · rfl
  · exact advance_state countTrigger_state

/-- Neither a command nor a fault leads to a state in which a session waits or plays. -/
theorem uninterrupted_of_step (runs : (s.step i).state = .playing ∨ (s.step i).state = .waitTrigger)
    (rests : s.state = .prefetch ∨ s.state = .waitTrigger ∨ s.state = .playing) : Uninterrupted s i := by
  have haltable : s.haltable = true := by
    rcases rests with state | state | state <;> simp [PlaybackController.haltable, state]
  rw [step_state_ruling, ruling, haltable] at runs
  split_ifs at runs with aborts fault begins stops halts
  · simp at runs
  · simp at runs
  · simp at runs
  · simp at runs
  · simp at runs
  · simp only [Bool.and_true, Bool.or_eq_true, not_or] at halts
    exact ⟨by simpa using begins, by simpa using halts.2, by simpa using halts.1, by simpa using aborts,
      by simpa using fault⟩

/-- What waits after a cycle has waited before it, or has been filled in it. -/
theorem waits_or_completes (waits : (s.step i).state = .waitTrigger) :
    s.state = .waitTrigger ∨ s.completes i = true := by
  rcases waiting_of_step waits with state | state
  · exact .inl state
  · right
    have own := course_of_step waits (by simp)
    rw [course, state] at own
    dsimp only at own
    rw [completes, state]
    by_cases filled : (i.prefetchDone && i.fifoSafe) = true
    · simpa using filled
    · rw [if_neg filled] at own
      cases own

/-- The two ways in which the gate opens. -/
theorem opens_cases (opened : s.opens i = true) :
    Uninterrupted s i ∧
      (s.completes i = true ∧ (s.playPending = true ∨ i.playCmd = true) ∨
        s.state = .waitTrigger ∧ (s.triggerAdmission i = true ∨ i.playCmd = true)) := by
  simp only [opens, dacGate, Bool.and_eq_true, Bool.not_eq_true', decide_eq_false_iff_not,
    decide_eq_true_eq] at opened
  obtain ⟨closed, plays⟩ := opened
  have own := course_of_step plays (by simp)
  rcases playing_of_step plays with state | state | state
  · exact absurd state closed
  · refine ⟨uninterrupted_of_step (.inl plays) (.inr (.inl state)), .inr ⟨state, ?_⟩⟩
    rw [course, state] at own
    dsimp only at own
    by_cases starts : (s.triggerAdmission i || i.playCmd) = true
    · exact Bool.or_eq_true_iff.mp starts
    · rw [if_neg starts] at own
      cases own
  · refine ⟨uninterrupted_of_step (.inl plays) (.inl state), .inl ?_⟩
    rw [course, state] at own
    dsimp only at own
    by_cases filled : (i.prefetchDone && i.fifoSafe) = true
    · rw [if_pos filled] at own
      by_cases starts : (s.playPending || i.playCmd) = true
      · exact ⟨by rw [completes, state]; simpa using filled, Bool.or_eq_true_iff.mp starts⟩
      · rw [if_neg starts] at own
        cases own
    · rw [if_neg filled] at own
      cases own

/-! ## The trigger counters -/

def dropTrigger (t : PlaybackController) : PlaybackController :=
  { t with
    triggerSeenCount := t.triggerSeenCount + 1
    triggerDroppedCount := t.triggerDroppedCount + 1 }

/-- The three counters, seen, fired and dropped. -/
def counts (t : PlaybackController) : BitVec 32 × BitVec 32 × BitVec 32 :=
  (t.triggerSeenCount, t.triggerFireCount, t.triggerDroppedCount)

theorem advance_counts (t : PlaybackController) : (s.advance i t).counts = t.counts := by
  unfold advance
  cases s.state <;> dsimp only <;> try split_ifs
  all_goals rfl

/-- No command and no state keeps a trigger from being counted. -/
theorem step_counts : (s.step i).counts = (s.countTrigger i).counts := by
  unfold step
  dsimp only
  split_ifs
  · rfl
  · rfl
  · rfl
  · rfl
  · rfl
  · exact advance_counts _

theorem triggerAdmission_iff :
    s.triggerAdmission i = true ↔ s.state = .waitTrigger ∧ i.triggerEvent = true ∧ s.outranked i = false := by
  simp only [triggerAdmission, outranked, Bool.and_eq_true, decide_eq_true_eq, Bool.not_eq_true',
    Bool.or_eq_false_iff]
  tauto

theorem refused_of_outranked (outranked : s.outranked i = true) : s.triggerAdmission i = false := by
  rw [← Bool.not_eq_true, triggerAdmission_iff, outranked]
  simp

/-- A trigger fires exactly when it comes to a waiting session that then plays. -/
theorem triggerAdmission_eq :
    s.triggerAdmission i = (i.triggerEvent && s.state = .waitTrigger && (s.step i).state = .playing) := by
  rw [Bool.eq_iff_iff]
  simp only [Bool.and_eq_true, decide_eq_true_eq]
  constructor
  · intro admitted
    obtain ⟨waits, triggered, free⟩ := triggerAdmission_iff.mp admitted
    refine ⟨⟨triggered, waits⟩, ?_⟩
    simp only [outranked, Bool.or_eq_false_iff] at free
    obtain ⟨⟨⟨⟨aborts, sound⟩, begins⟩, stops⟩, pauses⟩ := free
    rw [step_state_ruling, ruling, aborts, sound, begins, stops, pauses, course, waits, admitted]
    rfl
  · rintro ⟨⟨triggered, waits⟩, plays⟩
    have free := uninterrupted_of_step (.inl plays) (.inr (.inl waits))
    refine triggerAdmission_iff.mpr ⟨waits, triggered, ?_⟩
    rw [outranked, free.aborts, free.sound, free.begins, free.stops, free.pauses]
    rfl

theorem step_triggerFireCount :
    (s.step i).triggerFireCount = s.triggerFireCount +
      if i.triggerEvent && s.state = .waitTrigger && (s.step i).state = .playing then 1 else 0 := by
  have counted : (s.step i).triggerFireCount = (s.countTrigger i).triggerFireCount :=
    congrArg (fun counts => counts.2.1) step_counts
  rw [counted, ← triggerAdmission_eq, countTrigger]
  by_cases triggered : i.triggerEvent = true
  · rw [if_pos triggered]
    by_cases admitted : s.triggerAdmission i = true
    · rw [if_pos admitted, if_pos admitted]
    · rw [if_neg admitted, if_neg admitted]
      exact (BitVec.add_zero _).symm
  · have refused : s.triggerAdmission i ≠ true := fun admitted => triggered (triggerAdmission_iff.mp admitted).2.1
    rw [if_neg triggered, if_neg refused]
    exact (BitVec.add_zero _).symm

def Accounted (s : PlaybackController) : Prop :=
  s.triggerSeenCount = s.triggerFireCount + s.triggerDroppedCount

theorem Accounted.step (accounted : s.Accounted) : (s.step i).Accounted := by
  have counted := step_counts (s := s) (i := i)
  simp only [counts, Prod.mk.injEq] at counted
  obtain ⟨seen, fired, dropped⟩ := counted
  unfold Accounted at accounted ⊢
  rw [seen, fired, dropped, countTrigger]
  split_ifs
  · dsimp only
    rw [accounted, BitVec.add_assoc, BitVec.add_comm _ 1, ← BitVec.add_assoc]
  · dsimp only
    rw [accounted, BitVec.add_assoc]
  · exact accounted

/-! ## What wins over a trigger -/

theorem advance_dropTrigger (t : PlaybackController) : s.advance i t.dropTrigger = (s.advance i t).dropTrigger := by
  unfold advance
  cases s.state with
  | idle | draining | error => rfl
  | _ =>
    dsimp only
    rw [apply_ite dropTrigger]
    split_ifs
    all_goals rfl

theorem advance_untriggered (refused : s.triggerAdmission i = false) (t : PlaybackController) :
    s.advance (untriggered i) t = s.advance i t := by
  have alone : s.triggerAdmission (untriggered i) = false := by
    rw [← Bool.not_eq_true, triggerAdmission_iff]
    simp [untriggered]
  unfold advance
  rw [refused, alone]
  rfl

/-- The transition of a cycle, its trigger having been counted. -/
def transition (s : PlaybackController) (i : ControllerIn) (t : PlaybackController) : PlaybackController :=
  if i.abortCmd then t.settle .idle
  else if s.activeFault i then { t with state := .error, playPending := false }
  else if i.beginCmd then t.settle .upload
  else if i.stopCmd && decide (s.state = .upload) then t.settle .idle
  else if (i.stopCmd || i.pauseCmd) && s.haltable then t.settle .ready
  else s.advance i t

theorem step_eq_transition : s.step i = s.transition i { s.countTrigger i with loopRestart := false } := rfl

theorem transition_dropTrigger (t : PlaybackController) :
    s.transition i t.dropTrigger = (s.transition i t).dropTrigger := by
  unfold transition
  rw [advance_dropTrigger]
  simp only [apply_ite dropTrigger]
  rfl

theorem transition_untriggered (refused : s.triggerAdmission i = false) (t : PlaybackController) :
    s.transition (untriggered i) t = s.transition i t := by
  unfold transition
  rw [advance_untriggered refused]
  rfl

/-- Beside a command or a fault a trigger changes nothing but that it is counted as dropped. -/
theorem step_of_outranked (triggered : i.triggerEvent = true) (outranked : s.outranked i = true) :
    s.step i = (s.step (untriggered i)).dropTrigger := by
  have refused := refused_of_outranked outranked
  have counted : s.countTrigger i = s.dropTrigger := by
    rw [countTrigger, if_pos triggered, if_neg (by rw [refused]; nofun)]
    rfl
  have uncounted : s.countTrigger (untriggered i) = s := rfl
  rw [step_eq_transition, step_eq_transition, counted, uncounted, transition_untriggered refused]
  exact transition_dropTrigger { s with loopRestart := false }

/-- Beside a command or a fault the gate is closed after the cycle. -/
theorem closed_of_outranked (outranked : s.outranked i = true) : (s.step i).dacGate = false := by
  rw [dacGate, decide_eq_false_iff_not]
  intro plays
  have free := uninterrupted_of_step (.inl plays) (by
    rcases playing_of_step plays with state | state | state
    · exact .inr (.inr state)
    · exact .inr (.inl state)
    · exact .inl state)
  rw [PlaybackController.outranked, free.aborts, free.sound, free.begins, free.stops, free.pauses] at outranked
  cases outranked

/-! ## Runs -/

/-- The state that the steps lead to from `s`. -/
def after (s : PlaybackController) (steps : List ControllerIn) : PlaybackController := (playback s).run s steps

@[simp] theorem after_nil : s.after [] = s := rfl

@[simp] theorem after_append (steps more : List ControllerIn) :
    s.after (steps ++ more) = (s.after steps).after more :=
  (playback s).run_append s steps more

@[simp] theorem after_cons (steps : List ControllerIn) : s.after (i :: steps) = (s.step i).after steps := rfl

/-- All the steps from `s` on are taken in `state`. -/
def Stays (state : SessionState) (s : PlaybackController) (steps : List ControllerIn) : Prop :=
  (playback s).Along (fun t _ => t.state = state) s steps

theorem Stays.append {state : SessionState} {steps : List ControllerIn} (stays : Stays state s steps)
    (same : (s.after steps).state = state) : Stays state s (steps ++ [i]) :=
  ((playback s).along_append _ s steps [i]).mpr ⟨stays, same, trivial⟩

/-- `PREFETCH` has reported completion, and the session has waited for a trigger since. -/
def Prefetched (s : PlaybackController) (steps : List ControllerIn) : Prop :=
  ∃ earlier filled later, steps = earlier ++ filled :: later ∧ (s.after earlier).completes filled = true ∧
    Stays .waitTrigger (s.after (earlier ++ [filled])) later

/-- A play has been asked for, by software or by the end of a pass that is not the last one,
    and the session has been in `PREFETCH` since. -/
def Asked (s : PlaybackController) (steps : List ControllerIn) : Prop :=
  ∃ earlier asked later, steps = earlier ++ asked :: later ∧
    (asked.playCmd = true ∨ (s.after earlier).loops asked = true) ∧
    Stays .prefetch (s.after (earlier ++ [asked])) later

theorem Prefetched.append {steps : List ControllerIn} (prefetched : Prefetched s steps)
    (waits : (s.after steps).state = .waitTrigger) : Prefetched s (steps ++ [i]) := by
  obtain ⟨earlier, filled, later, rfl, completes, stays⟩ := prefetched
  refine ⟨earlier, filled, later ++ [i], by simp, completes, stays.append ?_⟩
  rw [← after_append]
  simpa using waits

theorem Asked.append {steps : List ControllerIn} (asked : Asked s steps)
    (fills : (s.after steps).state = .prefetch) : Asked s (steps ++ [i]) := by
  obtain ⟨earlier, request, later, rfl, requests, stays⟩ := asked
  refine ⟨earlier, request, later ++ [i], by simp, requests, stays.append ?_⟩
  rw [← after_append]
  simpa using fills

theorem prefetched_now {steps : List ControllerIn} (completes : (s.after steps).completes i = true) :
    Prefetched s (steps ++ [i]) :=
  ⟨steps, i, [], rfl, completes, trivial⟩

/-- Whoever waits has come from a prefetch that reported completion. -/
theorem prefetched_of_waits (rests : s.state ≠ .waitTrigger) (steps : List ControllerIn) :
    (s.after steps).state = .waitTrigger → Prefetched s steps := by
  induction steps using List.reverseRecOn with
  | nil => exact fun waits => absurd waits rests
  | append_singleton steps i ih =>
    intro waits
    rw [after_append] at waits
    rcases waits_or_completes waits with before | completes
    · exact (ih before).append before
    · exact prefetched_now completes

/-- Only `PREFETCH` keeps a play pending. -/
def Held (s : PlaybackController) : Prop := s.playPending = true → s.state = .prefetch

/-- A pending play is kept from the cycle before, or it is asked for in this one. -/
theorem pending_cases (held : s.Held) (pending : (s.step i).playPending = true) :
    (s.step i).state = .prefetch ∧
      (s.playPending = true ∧ s.state = .prefetch ∨ i.playCmd = true ∨ s.loops i = true) := by
  have counted : ({ s.countTrigger i with loopRestart := false } : PlaybackController).playPending = s.playPending :=
    countTrigger_playPending
  have same : ({ s.countTrigger i with loopRestart := false } : PlaybackController).state = s.state :=
    countTrigger_state
  rw [step_eq_transition] at pending ⊢
  generalize { s.countTrigger i with loopRestart := false } = t at counted same pending ⊢
  unfold transition at pending ⊢
  -- every command and every fault forgets the play
  split_ifs at pending ⊢
  · cases pending
  · cases pending
  · cases pending
  · cases pending
  have away : s.state ≠ .prefetch → t.playPending ≠ true := fun elsewhere kept => elsewhere (held (counted ▸ kept))
  unfold advance at pending ⊢
  cases state : s.state with
  | idle | error | draining =>
    rw [state] at pending away
    exact absurd pending (away nofun)
  | upload =>
    rw [state] at pending away
    dsimp only at pending
    by_cases committed : i.commitCmd = true
    · rw [if_pos committed] at pending
      cases pending
    · rw [if_neg committed] at pending
      exact absurd pending (away nofun)
  | waitTrigger =>
    rw [state] at pending away
    dsimp only at pending
    by_cases starts : (s.triggerAdmission i || i.playCmd) = true
    · rw [if_pos starts] at pending
      cases pending
    · rw [if_neg starts] at pending
      exact absurd pending (away nofun)
  | ready | done =>
    rw [state] at pending away
    dsimp only at pending ⊢
    by_cases asked : i.playCmd = true
    · rw [if_pos asked]
      exact ⟨rfl, .inr (.inl asked)⟩
    · rw [if_neg asked] at pending
      exact absurd pending (away nofun)
  | prefetch =>
    rw [state] at pending same
    dsimp only at pending ⊢
    by_cases filled : (i.prefetchDone && i.fifoSafe) = true
    · rw [if_pos filled] at pending
      cases pending
    rw [if_neg filled] at pending ⊢
    by_cases asked : i.playCmd = true
    · rw [if_pos asked]
      exact ⟨same, .inr (.inl asked)⟩
    · rw [if_neg asked] at pending ⊢
      exact ⟨same, .inl ⟨counted ▸ pending, rfl⟩⟩
  | playing =>
    rw [state] at pending away
    dsimp only at pending ⊢
    by_cases ended : (s.streamFire i && i.beatLast) = true
    · rw [if_pos ended] at pending ⊢
      by_cases more : 1 < i.loopCount ∧ s.loopPosition + 1 < i.loopCount
      · rw [if_pos more]
        exact ⟨rfl, .inr (.inr (by rw [loops, ended, decide_eq_true more]; rfl))⟩
      · rw [if_neg more] at pending
        exact absurd pending (away nofun)
    · rw [if_neg ended] at pending
      exact absurd pending (away nofun)

/-- Whoever has a play pending is in `PREFETCH` since it was asked for. -/
theorem asked_of_pending (steps : List ControllerIn) :
    (reset.after steps).Held ∧ ((reset.after steps).playPending = true → Asked reset steps) := by
  induction steps using List.reverseRecOn with
  | nil => exact ⟨nofun, nofun⟩
  | append_singleton steps i ih =>
    rw [after_append]
    refine ⟨fun pending => (pending_cases ih.1 pending).1, fun pending => ?_⟩
    obtain ⟨-, kept | asked⟩ := pending_cases ih.1 pending
    · exact (ih.2 kept.1).append kept.2
    · exact ⟨steps, i, [], rfl, asked, trivial⟩

theorem accounted_after (steps : List ControllerIn) : (reset.after steps).Accounted :=
  (playback reset).invariant (P := Accounted) (show reset.Accounted from rfl) (fun _ _ accounted => accounted.step) steps

/-- The gate and the counters in the cycle `i` after `steps`. -/
structure Governed (steps : List ControllerIn) (i : ControllerIn) : Prop where
  /-- The gate opens at the end of a prefetch with a play pending or asked for now, or at an
      admitted trigger or a `PLAY`, and no command and no fault is there. -/
  opens : (reset.after steps).opens i = true →
    Uninterrupted (reset.after steps) i ∧
      ((reset.after steps).completes i = true ∧ (i.playCmd = true ∨ Asked reset steps) ∨
        (reset.after steps).state = .waitTrigger ∧
          ((reset.after steps).triggerAdmission i = true ∨ i.playCmd = true))
  /-- Between `COMMIT` and the opening a prefetch reports completion. -/
  prefetched : ∀ earlier commit later, steps = earlier ++ commit :: later →
    (reset.after earlier).state = .upload → commit.commitCmd = true → (reset.after steps).opens i = true →
      Prefetched (reset.after (earlier ++ [commit])) (later ++ [i])
  accounted : (reset.after steps).triggerSeenCount =
    (reset.after steps).triggerFireCount + (reset.after steps).triggerDroppedCount
  fires : ((reset.after steps).step i).triggerFireCount = (reset.after steps).triggerFireCount +
    if i.triggerEvent && (reset.after steps).state = .waitTrigger && ((reset.after steps).step i).state = .playing
    then 1 else 0
  ruled : ((reset.after steps).step i).state = (reset.after steps).ruling i
  /-- A trigger changes nothing in the cycle of a command or a fault. -/
  outranked : i.triggerEvent = true → (reset.after steps).outranked i = true →
    (reset.after steps).step i = ((reset.after steps).step (untriggered i)).dropTrigger ∧
      ((reset.after steps).step i).dacGate = false

theorem prefetched_of_opens (rests : s.state ≠ .waitTrigger) {steps : List ControllerIn}
    (opened : (s.after steps).opens i = true) : Prefetched s (steps ++ [i]) := by
  obtain ⟨-, ⟨completes, -⟩ | ⟨waits, -⟩⟩ := opens_cases opened
  · exact prefetched_now completes
  · exact (prefetched_of_waits rests steps waits).append waits

theorem governed (steps : List ControllerIn) (i : ControllerIn) : Governed steps i where
  opens opened := by
    obtain ⟨free, ⟨completes, pending | plays⟩ | waits⟩ := opens_cases opened
    · exact ⟨free, .inl ⟨completes, .inr ((asked_of_pending steps).2 pending)⟩⟩
    · exact ⟨free, .inl ⟨completes, .inl plays⟩⟩
    · exact ⟨free, .inr waits⟩
  prefetched := by
    rintro earlier commit later rfl uploads - opened
    apply prefetched_of_opens
    · rw [after_append]
      intro waits
      rcases waiting_of_step waits with state | state
      · exact nomatch uploads.symm.trans state
      · exact nomatch uploads.symm.trans state
    · rwa [← after_append, List.append_assoc]
  accounted := accounted_after steps
  fires := step_triggerFireCount
  ruled := step_state_ruling
  outranked triggered outranked := ⟨step_of_outranked triggered outranked, closed_of_outranked outranked⟩

/-- `BEGIN`, `COMMIT`, the end of the prefetch, a trigger and the end of the first pass of two. -/
def firstPass : List ControllerIn := { everything with beginCmd := true } :: List.replicate 4 everything

/-- The gate opens from `PREFETCH` for the second pass, and no `PLAY` has ever been given. -/
theorem opens_without_play :
    ¬ ∀ steps i, (reset.after steps).opens i = true →
      (reset.after steps).completes i = true ∧ (∃ asked ∈ steps ++ [i], asked.playCmd = true) ∨
        (reset.after steps).state = .waitTrigger := by
  intro played
  have looped := played firstPass everything (by decide)
  revert looped
  decide

end PlaybackController

end Xczu47dr.Playback
