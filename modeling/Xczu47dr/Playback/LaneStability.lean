import Xczu47dr.Playback.DacPath

/-! # The stability of the DAC lanes

A lane that offers a beat must go on offering it until it is taken.  The stream
leaves that to the controller, which leaves `PLAYING` on a command and on a fault
whether a lane is stalled or not.
-/

namespace Xczu47dr.Playback

namespace PlaybackController

variable {s : PlaybackController} {i : ControllerIn}

theorem advance_loopRestart {t : PlaybackController} (quiet : t.loopRestart = false)
    (restarts : (s.advance i t).loopRestart = true) : (s.advance i t).state = .prefetch := by
  unfold advance at restarts ⊢
  cases state : s.state <;> simp only [state] at restarts ⊢ <;> try split_ifs at restarts ⊢
  all_goals first
    | rfl
    | exact absurd (quiet.symm.trans restarts) Bool.false_ne_true

/-- A refill is only asked for on the way to `PREFETCH`. -/
theorem loopRestart_step (restarts : (s.step i).loopRestart = true) : (s.step i).state = .prefetch := by
  unfold step at restarts ⊢
  dsimp only at restarts ⊢
  split_ifs at restarts ⊢ <;> first
    | exact advance_loopRestart rfl restarts
    | cases restarts

/-- A session that plays, is left alone and does not complete its last beat plays on. -/
theorem plays_on (free : Uninterrupted s i) (plays : s.state = .playing) (unfinished : i.beatValid = false) :
    (s.step i).state = .playing := by
  have idle : s.streamFire i = false := by simp [streamFire, unfinished]
  rw [free.step, advance]
  simp only [plays, idle, Bool.false_and, if_neg Bool.false_ne_true]
  exact countTrigger_state.trans plays

end PlaybackController

namespace DacPath

/-- The lane offers a beat that is not taken. -/
def Stalled (s : DacPath) (i : DacPathIn) (ch : Channel) : Prop := s.dacValid i ch = true ∧ i.dacReady ch = false

/-- The lane offers a word of its FIFO that is not taken. -/
def StallsWord (s : DacPath) (i : DacPathIn) (ch : Channel) : Prop :=
  s.stream.shows (s.streamIn i) ch = true ∧ i.fifoValid ch = true ∧ i.dacReady ch = false

/-- What a stalled lane offers, it offers in the next cycle, too. -/
def Stable (s : DacPath) (i : DacPathIn) (s' : DacPath) (i' : DacPathIn) : Prop :=
  ∀ ch, Stalled s i ch →
    s'.dacValid i' ch = true ∧ s'.dacData i' ch = s.dacData i ch ∧ s'.dacLast i' ch = s.dacLast i ch

/-- While a word is stalled, the controller is left alone and its FIFO keeps it; and no descriptor
is replaced under a stalled lane. -/
structure Careful (settleCycles : BitVec 8) (s : DacPath) (i i' : DacPathIn) : Prop where
  free : ∀ ch, StallsWord s i ch → s.controller.Uninterrupted (s.controllerIn settleCycles i)
  keeps : ∀ ch, StallsWord s i ch → i'.fifoValid ch = true ∧ i'.fifoData ch = i.fifoData ch
  descriptor : ∀ ch, Stalled s i ch → s.controller.state = .playing → s.stream.silencePending ch = false →
    i.descriptorValid = true → i.descriptor.mask = s.descriptor.mask ∧ i.descriptor.totalBeats = s.descriptor.totalBeats

variable {settleCycles : BitVec 8} {s : DacPath} {i i' : DacPathIn} {ch : Channel}

/-- A lane that shows no word shows zeros. -/
theorem silent_of_not_shows (hidden : s.stream.shows (s.streamIn i) ch = false) :
    s.dacData i ch = 0 ∧ s.dacLast i ch = false := by
  simp [dacData, dacLast, DacStream.dacData, DacStream.dacLast, hidden]

theorem dacValid_of_shows (shown : s.stream.shows (s.streamIn i) ch = true) :
    s.dacValid i ch = i.fifoValid ch := by
  have parts := shown
  simp only [DacStream.shows, DacStream.active, Bool.and_eq_true, Bool.not_eq_true'] at parts
  obtain ⟨⟨⟨⟨⟨playing, -⟩, -⟩, enabled⟩, -⟩, started⟩ := parts
  rw [dacValid, DacStream.dacValid_of_started playing enabled started, shown, Bool.true_and]
  rfl

theorem silent_of_pending (pending : s.stream.silencePending ch = true) :
    s.dacValid i ch = true ∧ s.dacData i ch = 0 ∧ s.dacLast i ch = false := by
  have hidden : s.stream.shows (s.streamIn i) ch = false := by simp [DacStream.shows, pending]
  refine ⟨?_, silent_of_not_shows hidden⟩
  simp [dacValid, DacStream.dacValid, pending]

theorem silent_of_gate (closed : s.controller.state ≠ .playing) :
    s.dacValid i ch = true ∧ s.dacData i ch = 0 ∧ s.dacLast i ch = false := by
  have rests : (s.streamIn i).control.playing = false := by simp [streamIn, PlaybackController.dacGate, closed]
  have hidden : s.stream.shows (s.streamIn i) ch = false := by simp [DacStream.shows, DacStream.active, rests]
  refine ⟨?_, silent_of_not_shows hidden⟩
  simp [dacValid, DacStream.dacValid, rests]

theorem silent_of_disabled (disabled : s.descriptor.mask ch = false) :
    s.dacValid i ch = true ∧ s.dacData i ch = 0 ∧ s.dacLast i ch = false := by
  have hidden : s.stream.shows (s.streamIn i) ch = false := by simp [DacStream.shows, streamIn, disabled]
  refine ⟨?_, silent_of_not_shows hidden⟩
  simp [dacValid, DacStream.dacValid, streamIn, disabled]

theorem silencePending_step : (s.step settleCycles i).stream.silencePending ch =
    if s.controller.state = .playing then s.stream.silencePending ch && !i.dacReady ch else !i.dacReady ch := by
  by_cases plays : s.controller.state = .playing
  · rw [if_pos plays]
    exact DacStream.silencePending_step (i := s.streamIn i) (by simp [streamIn, PlaybackController.dacGate, plays])
  · rw [if_neg plays]
    exact DacStream.silencePending_idle (i := s.streamIn i) (by simp [streamIn, PlaybackController.dacGate, plays])

theorem descriptor_step : (s.step settleCycles i).descriptor =
    if i.abortDac then ⟨fun _ => false, 0, 0⟩ else if i.descriptorValid then i.descriptor else s.descriptor := by
  unfold step loadDescriptor
  split <;> rfl

/-- A word that is stalled in a session left alone is offered again. -/
theorem word_stays (quiet : s.controller.loopRestart = true → s.controller.state = .prefetch)
    (careful : Careful settleCycles s i i') (stalls : StallsWord s i ch) :
    (s.step settleCycles i).dacValid i' ch = true ∧ (s.step settleCycles i).dacData i' ch = s.dacData i ch ∧
      (s.step settleCycles i).dacLast i' ch = s.dacLast i ch := by
  obtain ⟨shown, valid, unready⟩ := stalls
  have free := careful.free ch ⟨shown, valid, unready⟩
  obtain ⟨valid', data'⟩ := careful.keeps ch ⟨shown, valid, unready⟩
  have parts := shown
  simp only [DacStream.shows, Bool.and_eq_true, Bool.not_eq_true'] at parts
  obtain ⟨⟨⟨active, enabled⟩, unsent⟩, started⟩ := parts
  have plays : s.controller.state = .playing := by
    simp only [DacStream.active, Bool.and_eq_true] at active
    simpa [streamIn, PlaybackController.dacGate] using active.1.1
  -- the beat is not over, as this lane has not passed on its word
  have idle : s.stream.fire (s.streamIn i).control ch = false := by
    simp [DacStream.fire, streamIn, unready]
  have unfinished : s.stream.beatFire (s.streamIn i).control = false := by
    cases beat : s.stream.beatFire (s.streamIn i).control with
    | false => rfl
    | true =>
      rcases (DacStream.beatFire_iff.mp beat).2 ch enabled with sent | fires
      · exact absurd (unsent.symm.trans sent) Bool.false_ne_true
      · exact absurd (idle.symm.trans fires) Bool.false_ne_true
  have plays' : (s.step settleCycles i).controller.state = .playing :=
    PlaybackController.plays_on free plays unfinished
  have unrestarted : s.controller.loopRestart = false := by
    cases restarts : s.controller.loopRestart with
    | false => rfl
    | true => cases plays.symm.trans (quiet restarts)
  have uncleared : (s.streamIn i).control.clear = false := by
    have begins : i.beginDac = false := free.begins
    have pauses : i.pauseDac = false := free.pauses
    have stops : i.stopDac = false := free.stops
    have aborts : i.abortDac = false := free.aborts
    simp [streamIn, streamClear, begins, pauses, stops, aborts, unrestarted, plays]
  obtain ⟨position, sent⟩ := DacStream.step_of_unclear (s := s.stream) (i := s.streamIn i) uncleared
  rw [unfinished, if_neg Bool.false_ne_true] at position sent
  have kept : (s.step settleCycles i).descriptor.mask = s.descriptor.mask ∧
      (s.step settleCycles i).descriptor.totalBeats = s.descriptor.totalBeats := by
    have aborts : i.abortDac = false := free.aborts
    rw [descriptor_step, aborts, if_neg Bool.false_ne_true]
    have offered : s.dacValid i ch = true := (dacValid_of_shows shown).trans valid
    cases replaced : i.descriptorValid with
    | false => exact ⟨rfl, rfl⟩
    | true => exact careful.descriptor ch ⟨offered, unready⟩ plays started replaced
  have pending' : (s.step settleCycles i).stream.silencePending ch = false := by
    rw [silencePending_step, if_pos plays, started, Bool.false_and]
  have unsent' : (s.step settleCycles i).stream.sent ch = false := by
    have step : (s.step settleCycles i).stream.sent ch = (s.stream.sent ch || s.stream.fire (s.streamIn i).control ch) :=
      congrFun sent ch
    rw [step, unsent, idle]
    rfl
  have position' : (s.step settleCycles i).stream.beatPosition = s.stream.beatPosition := position
  have active' : (s.step settleCycles i).stream.active ((s.step settleCycles i).streamIn i').control = true := by
    simp only [DacStream.active, Bool.and_eq_true] at active ⊢
    refine ⟨⟨decide_eq_true plays', ?_⟩, ?_⟩
    · rw [position']
      simp only [streamIn, kept.2]
      exact active.1.2
    · simp only [streamIn, kept.1]
      exact active.2
  have enabled' : (s.step settleCycles i).descriptor.mask ch = true := by
    rw [kept.1]
    exact enabled
  have shown' : (s.step settleCycles i).stream.shows ((s.step settleCycles i).streamIn i') ch = true := by
    simp only [DacStream.shows, active', unsent', pending', Bool.not_false, Bool.and_true, Bool.true_and]
    exact enabled'
  refine ⟨?_, ?_, ?_⟩
  · exact (dacValid_of_shows shown').trans valid'
  · rw [dacData, dacData, DacStream.dacData, DacStream.dacData, if_pos shown', if_pos shown]
    exact data'
  · rw [dacLast, dacLast, DacStream.dacLast, DacStream.dacLast, shown', shown, Bool.true_and, Bool.true_and,
      DacStream.beatLast, DacStream.beatLast, position']
    exact decide_eq_decide.mpr (Eq.congr_right kept.2)

theorem stable_of_careful (quiet : s.controller.loopRestart = true → s.controller.state = .prefetch)
    (careful : Careful settleCycles s i i') : Stable s i (s.step settleCycles i) i' := by
  rintro ch ⟨offered, unready⟩
  by_cases plays : s.controller.state = .playing
  · cases pending : s.stream.silencePending ch with
    | true =>
      have still : (s.step settleCycles i).stream.silencePending ch = true := by
        rw [silencePending_step, if_pos plays, pending, unready]
        rfl
      obtain ⟨-, data, last⟩ := silent_of_pending (i := i) pending
      rw [data, last]
      exact silent_of_pending still
    | false =>
      cases enabled : s.descriptor.mask ch with
      | true =>
        rw [dacValid, DacStream.dacValid_of_started (decide_eq_true plays) enabled pending, Bool.and_eq_true] at offered
        exact word_stays quiet careful ⟨offered.1, offered.2, unready⟩
      | false =>
        obtain ⟨-, data, last⟩ := silent_of_disabled (i := i) enabled
        rw [data, last]
        -- the lane stays disabled, or the session has been aborted
        have disabled : (s.step settleCycles i).descriptor.mask ch = false := by
          rw [descriptor_step]
          split
          · rfl
          · split
            · rename_i replaced
              rw [(careful.descriptor ch ⟨offered, unready⟩ plays pending replaced).1]
              exact enabled
            · exact enabled
        exact silent_of_disabled disabled
  · have stalled : (s.step settleCycles i).stream.silencePending ch = true := by
      rw [silencePending_step, if_neg plays, unready]
      rfl
    obtain ⟨-, data, last⟩ : s.dacValid i ch = true ∧ s.dacData i ch = 0 ∧ s.dacLast i ch = false :=
      silent_of_gate plays
    rw [data, last]
    exact silent_of_pending stalled

section Runs

variable (settleCycles : BitVec 8) (inputs : Nat → DacPathIn)

/-- The path at the start of cycle `n`. -/
def stateAt (n : Nat) : DacPath := (dacPath settleCycles).trace inputs n

/-- In the first `last` cycles a stalled beat is offered until it is taken. -/
def LanesStable (last : Nat) : Prop :=
  ∀ n < last, Stable (stateAt settleCycles inputs n) (inputs n) (stateAt settleCycles inputs (n + 1)) (inputs (n + 1))

variable {settleCycles inputs}

theorem refill_at (n : Nat) : (stateAt settleCycles inputs n).controller.loopRestart = true →
    (stateAt settleCycles inputs n).controller.state = .prefetch := by
  cases n with
  | zero => nofun
  | succ n => exact PlaybackController.loopRestart_step

/-- As long as nothing happens under a stalled beat the lanes are stable. -/
theorem lanes_stable (last : Nat)
    (careful : ∀ n < last, Careful settleCycles (stateAt settleCycles inputs n) (inputs n) (inputs (n + 1))) :
    LanesStable settleCycles inputs last :=
  fun n before => stable_of_careful (refill_at n) (careful n before)

end Runs

/-! ## A stall -/

/-- `BEGIN`, `COMMIT` of two beats on lane 0, a trigger in cycle 22, and a lane that is not ready in
cycle 23; `stop` says when `STOP` comes. -/
def stall (stop : Nat → Bool) (n : Nat) : DacPathIn where
  beginDac := n = 0
  commitDac := n = 1
  playDac := false
  pauseDac := false
  stopDac := stop n
  abortDac := false
  descriptorValid := n = 1
  descriptor := ⟨fun ch => ch = 0, 2, 1⟩
  trigger := n = 22
  safe := true
  error := false
  fifoValid := fun _ => true
  fifoData := fun _ => 1
  dacReady := fun _ => n ≠ 23

instance (s : PlaybackController) (i : ControllerIn) : Decidable (s.Uninterrupted i) :=
  decidable_of_iff (i.beginCmd = false ∧ i.pauseCmd = false ∧ i.stopCmd = false ∧ i.abortCmd = false ∧
      s.activeFault i = false)
    ⟨fun ⟨begins, pauses, stops, aborts, sound⟩ => ⟨begins, pauses, stops, aborts, sound⟩,
      fun ⟨begins, pauses, stops, aborts, sound⟩ => ⟨begins, pauses, stops, aborts, sound⟩⟩

instance : Decidable (StallsWord s i ch) := inferInstanceAs (Decidable (_ ∧ _ ∧ _))

/-- Lane 0 is stalled on its first word, which it offers again. -/
theorem stall_stable : LanesStable 16 (stall fun _ => false) 30 := by
  have free : ∀ n : Fin 30, ∀ ch, StallsWord (stateAt 16 (stall fun _ => false) n) (stall (fun _ => false) n) ch →
      (stateAt 16 (stall fun _ => false) n).controller.Uninterrupted
        ((stateAt 16 (stall fun _ => false) n).controllerIn 16 (stall (fun _ => false) n)) := by decide +kernel
  refine lanes_stable 30 fun n before => ⟨free ⟨n, before⟩, fun _ _ => ⟨rfl, rfl⟩, ?_⟩
  intro ch _ plays _ replaced
  -- the descriptor comes before the session plays
  have early : n = 1 := of_decide_eq_true replaced
  subst early
  exact absurd plays (by decide +kernel)

theorem stopped_unstable : ¬ ∀ inputs last, LanesStable 16 inputs last := by
  intro claim
  have stable := claim (stall (· = 23)) 24 23 (by decide) 0 ⟨by decide +kernel, rfl⟩
  have lost : (stateAt 16 (stall (· = 23)) 24).dacData (stall (· = 23) 24) 0 ≠
      (stateAt 16 (stall (· = 23)) 23).dacData (stall (· = 23) 23) 0 := by decide +kernel
  exact lost stable.2.1

end DacPath

end Xczu47dr.Playback
