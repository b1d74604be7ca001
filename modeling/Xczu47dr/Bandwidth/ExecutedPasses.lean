import Xczu47dr.Bandwidth.PassAccount

/-! # Executed passes

The invariant of the executor and its account: every lane is a region partly sent or
waits for its load, the pipeline makes a command of a lane that has something left,
and the queue holds what is owed.
-/

namespace Xczu47dr.Bandwidth

open Clocked

/-! ## The pipeline -/

/-- The beats of the next command of a lane. -/
def chunkOf (lane : ChannelState) : Nat := min (lane.bytesLeft / 64) chunkBeats

theorem chunkOf_spec {lane : ChannelState} (some_left : lane.bytesLeft ≠ 0) (whole : 64 ∣ lane.bytesLeft) :
    0 < chunkOf lane ∧ chunkOf lane ≤ chunkBeats ∧ 64 * chunkOf lane ≤ lane.bytesLeft := by
  rw [chunkOf, chunkBeats]
  omega

/-- The registers of a command that is made. -/
structure Pipeline.Made (base : BitVec 64) (p : Pipeline) (lane : ChannelState) : Prop where
  addr : p.reqAbsAddr = base + lane.baseAddr
  beats : p.reqChunkBeats = chunkOf lane
  bytes : p.reqChunkBytes = 64 * chunkOf lane

/-- How far the command of a lane has come. -/
inductive Pipeline.Makes (base : BitVec 64) (p : Pipeline) (lane : ChannelState) : Prop
  | stage (st : p.cmdSt = .stage) (off : p.cmdValid = false)
  | prep (st : p.cmdSt = .prep) (off : p.cmdValid = false) (made : p.Made base lane)
  | sendCmd (st : p.cmdSt = .sendCmd) (valid : p.cmdValid = true) (made : p.Made base lane)
      (data : DmCommand.ofCmdData p.cmdData = ⟨base + lane.baseAddr, 64 * chunkOf lane⟩)

namespace Executor

variable (interleaved : Bool) (base : BitVec 64) (s : Executor)

/-- The pipeline is idle, or makes a command of a lane that has something left. -/
inductive Piped : Prop
  | idle (st : s.pipe.cmdSt = .idle) (off : s.pipe.cmdValid = false)
  | working (used : Used interleaved s.pipe.reqSel)
      (edge : (s.lane interleaved s.pipe.reqSel).loadTogD = (s.laneLoad interleaved s.pipe.reqSel).tog)
      (some_left : (s.lane interleaved s.pipe.reqSel).bytesLeft ≠ 0) (room : s.retq.count < outstandingLimit)
      (makes : s.pipe.Makes base (s.lane interleaved s.pipe.reqSel))

end Executor

/-- What holds of the executor and its account all along. -/
structure Passes (interleaved : Bool) (base : BitVec 64) (s : Executor) (b : PassBook) : Prop where
  lanes : s.seq.activeValid = true → ∀ channel, Used interleaved channel →
    Lane base (s.lane interleaved channel) (s.laneLoad interleaved channel) (b.region channel) (b.issued channel)
  loads : b.finished = false → ∀ channel, Used interleaved channel →
    interleaved = true ∨ s.seq.havePlay channel = true →
      (s.laneLoad interleaved channel).addr = (b.region channel).addr ∧
        (s.laneLoad interleaved channel).bytes = (b.region channel).bytes
  unplayed : b.finished = false → ∀ channel, s.seq.havePlay channel = false → b.region channel = .none
  building : s.seq.st = .build → s.seq.activeValid = true → ∀ channel, Used interleaved channel →
    s.seq.havePlay channel = false →
      (s.lane interleaved channel).loadTogD = (s.laneLoad interleaved channel).tog
  whole : ∀ channel, Used interleaved channel → 64 ∣ (b.region channel).bytes
  narrow : ∀ channel, (b.region channel).bytes < 2 ^ (if interleaved then 35 else 32)
  dormant : s.seq.activeValid = false → s.seq.st = .build ∧ (∀ channel, b.region channel = .none) ∧
    (∀ channel, b.issued channel = []) ∧ b.owed = [] ∧ s.pipe.cmdSt = .idle ∧ s.pipe.cmdValid = false ∧
      (b.finished = false → ∀ channel, s.seq.havePlay channel = false)
  finished : b.finished = true → s.seq.activeValid = false
  settled : s.seq.st = .playing ∨ s.seq.st = .waitTrig ∨ s.seq.st = .prefill ∧ s.seq.prefillAutoStart = false →
    ∀ channel, Used interleaved channel →
      (s.lane interleaved channel).loadTogD = (s.laneLoad interleaved channel).tog
  waiting : s.seq.st = .waitTrig → ∀ channel, Used interleaved channel → (s.lane interleaved channel).bytesLeft = 0
  piped : s.Piped interleaved base
  queued : Queued s.retq b.owed

variable {interleaved : Bool} {base : BitVec 64} {s : Executor} {b : PassBook} {i : ExecutorIn}

theorem passes_reset : Passes interleaved base .reset .blank where
  lanes := nofun
  loads _ _ _ played := by
    rcases played with merged | played
    · rw [Executor.laneLoad, if_pos merged]
      exact ⟨rfl, rfl⟩
    · exact absurd played Bool.false_ne_true
  unplayed _ _ _ := rfl
  building _ active := absurd active Bool.false_ne_true
  whole _ _ := Nat.dvd_zero 64
  narrow _ := Nat.two_pow_pos _
  dormant _ := ⟨rfl, fun _ => rfl, fun _ => rfl, rfl, rfl, rfl, fun _ _ => rfl⟩
  finished := nofun
  settled st := by rcases st with st | st | ⟨st, -⟩ <;> exact absurd st (by decide)
  waiting := nofun
  piped := .idle rfl rfl
  queued := queued_clear .reset

/-! ## The lanes at an edge -/

/-- A request is of a lane that has something left. -/
theorem dmaSelect_some {hard start soft : ChannelSel → Bool} {rr last : ChannelSel} {count : Nat}
    {channel : ChannelSel} (selects : dmaSelect hard start soft rr last count = some channel) :
    hard channel = true ∨ start channel = true ∨ soft channel = true := by
  have found {need : ChannelSel → Bool} (first : tryClass rr need = some channel) : need channel = true :=
    List.find?_some first
  simp only [dmaSelect, Option.orElse_eq_some] at selects
  rcases selects with first | ⟨-, first | ⟨-, first | ⟨-, first | ⟨-, first | ⟨-, first⟩⟩⟩⟩⟩
  · exact .inl (Bool.and_eq_true_iff.mp (found first)).1
  · exact .inr (.inl (Bool.and_eq_true_iff.mp (found first)).1)
  · exact .inr (.inr (Bool.and_eq_true_iff.mp (found first)).1)
  · exact .inl (found first)
  · exact .inr (.inl (found first))
  · exact .inr (.inr (found first))

theorem request_some {channel : ChannelSel} (requests : s.request interleaved = some channel) :
    Used interleaved channel ∧ (s.lane interleaved channel).bytesLeft ≠ 0 := by
  rw [Executor.request] at requests
  cases interleaved with
  | true =>
    rw [if_pos rfl] at requests
    split_ifs at requests with needed
    obtain rfl := Option.some.inj requests
    refine ⟨fun _ => rfl, ?_⟩
    simp only [Bool.and_eq_true, bne_iff_ne] at needed
    exact needed.1.2
  | false =>
    rw [if_neg Bool.false_ne_true] at requests
    refine ⟨nofun, ?_⟩
    have valid {needQ : ChannelSel → Bool} (needs : s.need needQ channel = true) :
        (s.channels channel).bytesLeft ≠ 0 := by
      simp only [Executor.need, ChannelState.currentValid, Bool.and_eq_true, bne_iff_ne] at needs
      exact needs.1.2.2
    rcases dmaSelect_some requests with needs | needs | needs <;> exact valid needs

/-- What is known when a command is sent. -/
theorem Passes.sends (passes : Passes interleaved base s b) (fires : s.cmdFire i = true) :
    s.pipe.cmdSt = .sendCmd ∧ Used interleaved s.pipe.reqSel ∧
      (s.lane interleaved s.pipe.reqSel).loadTogD = (s.laneLoad interleaved s.pipe.reqSel).tog ∧
      (s.lane interleaved s.pipe.reqSel).bytesLeft ≠ 0 ∧ s.retq.count < outstandingLimit ∧
      s.pipe.Made base (s.lane interleaved s.pipe.reqSel) ∧ DmCommand.ofCmdData s.pipe.cmdData =
        ⟨base + (s.lane interleaved s.pipe.reqSel).baseAddr, 64 * chunkOf (s.lane interleaved s.pipe.reqSel)⟩ := by
  have valid : s.pipe.cmdValid = true := (Bool.and_eq_true_iff.mp fires).1
  cases passes.piped with
  | idle _ off => simp [off] at valid
  | working used edge some_left room makes =>
    cases makes with
    | stage _ off => simp [off] at valid
    | prep _ off => simp [off] at valid
    | sendCmd st _ made data => exact ⟨st, used, edge, some_left, room, made, data⟩

/-- A lane with something left has taken its load over. -/
theorem Passes.loaded (passes : Passes interleaved base s b) (active : s.seq.activeValid = true) {channel : ChannelSel}
    (used : Used interleaved channel) (some_left : (s.lane interleaved channel).bytesLeft ≠ 0) :
    (s.lane interleaved channel).loadTogD = (s.laneLoad interleaved channel).tog ∧
      64 ∣ (s.lane interleaved channel).bytesLeft ∧ (s.lane interleaved channel).bytesLeft < 2 ^ 35 ∧
      ((b.region channel).bytes ≠ 0) := by
  cases passes.lanes active channel used with
  | settled count edge sent =>
    have whole := passes.whole channel used
    have narrow := passes.narrow channel
    have left := sent.left
    have below : (b.region channel).bytes < 2 ^ 35 := by
      refine narrow.trans_le ?_
      split_ifs <;> decide
    refine ⟨edge, ?_, by omega, by omega⟩
    rw [← left] at whole
    exact (Nat.dvd_add_right (Nat.dvd_mul_right 64 count)).mp whole
  | awaiting _ _ _ _ idle => exact absurd idle some_left

theorem lane_dormant (running : i.clear = false) (dormant : s.seq.activeValid = false) (channel : ChannelSel) :
    (s.step interleaved base i).lane interleaved channel = .cleared (s.laneLoad interleaved channel).tog := by
  cases interleaved with
  | true =>
    change s.nextInter true i = _
    rw [Executor.nextInter, running, dormant]
    rfl
  | false =>
    change (if s.seq.activeValid = true then _ else _) = _
    rw [dormant]
    rfl

theorem Passes.lane_step (passes : Passes interleaved base s b) (running : i.clear = false)
    (active : s.seq.activeValid = true) {channel : ChannelSel} (used : Used interleaved channel) :
    (s.step interleaved base i).lane interleaved channel =
      (s.lane interleaved channel).step (if interleaved then 64 else 32) (s.laneLoad interleaved channel)
        (s.cmdFire i && s.pipe.reqSel == channel) s.pipe.reqChunkBytes := by
  cases interleaved with
  | true =>
    obtain rfl := used rfl
    change s.nextInter true i = _
    rw [Executor.nextInter, running, active]
    cases fires : s.cmdFire i with
    | false => rfl
    | true =>
      obtain ⟨st, merged, -⟩ := passes.sends fires
      rw [st, merged rfl]
      rfl
  | false =>
    change (if s.seq.activeValid = true then _ else _) = _
    rw [active]
    rfl

/-- What a lane has sent after an edge, its load being the old one. -/
theorem Passes.lane_sent (passes : Passes interleaved base s b) (running : i.clear = false) {channel : ChannelSel}
    (used : Used interleaved channel) :
    ((s.step interleaved base i).lane interleaved channel).loadTogD = (s.laneLoad interleaved channel).tog ∧
      ∃ count, Sent base ((s.step interleaved base i).lane interleaved channel) (b.region channel)
        (b.issued channel ++ ((s.sent i).filter fun entry => entry.1 = channel).map Prod.snd) count := by
  cases active : s.seq.activeValid with
  | false =>
    obtain ⟨-, region, issued, -, -, off, -⟩ := passes.dormant active
    have silent : s.cmdFire i = false := by rw [Executor.cmdFire, Pipeline.cmdFire, off, Bool.false_and]
    rw [lane_dormant running active, region, issued, Executor.sent, silent]
    exact ⟨rfl, 0, sent_cleared _⟩
  | true =>
    rw [passes.lane_step running active used, Executor.sent]
    by_cases own : s.cmdFire i = true ∧ s.pipe.reqSel = channel
    · obtain ⟨fires, rfl⟩ := own
      obtain ⟨-, -, edge, some_left, -, made, data⟩ := passes.sends fires
      obtain ⟨-, whole, -, -⟩ := passes.loaded active used some_left
      obtain ⟨positive, short, within⟩ := chunkOf_spec some_left whole
      have narrow : (b.region s.pipe.reqSel).bytes < 2 ^ (if interleaved then 64 else 32) := by
        refine (passes.narrow _).trans_le ?_
        split_ifs <;> decide
      cases passes.lanes active _ used with
      | settled count _ sent =>
        obtain ⟨after, tog⟩ := sent.sends edge narrow positive short within
        rw [fires, made.bytes, data, beq_self_eq_true, Bool.and_self, if_pos rfl]
        exact ⟨tog, _, by simpa using after⟩
      | awaiting _ _ _ _ idle => exact absurd idle some_left
    · have silent : (s.cmdFire i && s.pipe.reqSel == channel) = false := by
        rw [Bool.eq_false_iff, Ne, Bool.and_eq_true, beq_iff_eq]
        exact own
      have none : ((if s.cmdFire i = true then [(s.pipe.reqSel, DmCommand.ofCmdData s.pipe.cmdData)] else []).filter
          fun entry => entry.1 = channel) = [] := by
        split_ifs with fires
        · exact List.filter_cons_of_neg (by simpa using fun same => own ⟨fires, same⟩)
        · rfl
      obtain ⟨count, sent, edge⟩ :=
        (passes.lanes active channel used).rests (if interleaved then 64 else 32) s.pipe.reqChunkBytes
      rw [silent, none, List.map_nil, List.append_nil]
      exact ⟨edge, count, sent⟩

/-- A lane that has taken its load over and sends nothing stays as it is. -/
theorem Passes.lane_kept (passes : Passes interleaved base s b) (running : i.clear = false)
    (active : s.seq.activeValid = true) {channel : ChannelSel} (used : Used interleaved channel)
    (edge : (s.lane interleaved channel).loadTogD = (s.laneLoad interleaved channel).tog)
    (silent : s.cmdFire i = false) :
    (s.step interleaved base i).lane interleaved channel = s.lane interleaved channel := by
  rw [passes.lane_step running active used, silent, Bool.false_and, ChannelState.step, if_neg Bool.false_ne_true]
  exact load_settled edge

/-! ## The pipeline and the queue at an edge -/

theorem laneBeats_eq {channel : ChannelSel} (narrow : (s.lane interleaved channel).bytesLeft < 2 ^ 35) :
    s.laneBeats interleaved channel = chunkOf (s.lane interleaved channel) := by
  cases interleaved with
  | false => rfl
  | true =>
    change s.inter.bytesLeft < 2 ^ 35 at narrow
    change s.inter.interChunkBeatsW = chunkOf s.inter
    rw [ChannelState.interChunkBeatsW, chunkOf, chunkBeats]
    split_ifs with full
    · omega
    · rw [Nat.mod_eq_of_lt (by omega)]
      omega

/-- The beats owed are fewer, or one command more. -/
theorem length_takeBeat_le (owed : Owed) : (takeBeat owed).length ≤ owed.length := by
  cases owed with
  | nil => exact Nat.le_refl _
  | cons first rest =>
    obtain ⟨oldest, left⟩ := first
    rw [takeBeat]
    split_ifs
    · exact Nat.le_succ _
    · exact Nat.le_refl _

theorem Passes.queued_step (passes : Passes interleaved base s b) (orderly : Orderly interleaved (s, b) i) :
    Queued (s.step interleaved base i).retq (b.nextOwed s i) := by
  change Queued (if (i.clear || !s.seq.activeValid) = true then _ else _) _
  cases clear : i.clear with
  | true =>
    rw [Bool.true_or, if_pos rfl, orderly.clears clear]
    exact queued_clear _
  | false =>
    cases active : s.seq.activeValid with
    | false =>
      obtain ⟨-, -, -, owed, -, off, -⟩ := passes.dormant active
      have silent : s.cmdFire i = false := by rw [Executor.cmdFire, Pipeline.cmdFire, off, Bool.false_and]
      have still : i.beatFire = false := by
        cases fires : i.beatFire with
        | false => rfl
        | true => exact absurd owed (orderly.promised fires)
      rw [PassBook.nextOwed, still, owed, Executor.sent, silent]
      exact queued_clear _
    | true =>
      have pushes : (s.sent i).map (fun entry => (entry.1, entry.2.bytes / 64)) =
          if s.cmdFire i = true then [(s.pipe.reqSel, s.pipe.reqChunkBeats)] else [] := by
        rw [Executor.sent]
        cases fires : s.cmdFire i with
        | false => rfl
        | true =>
          obtain ⟨-, -, -, -, -, made, data⟩ := passes.sends fires
          rw [if_pos rfl, if_pos rfl, List.map_singleton, data, made.beats, Nat.mul_div_cancel_left _ (by decide)]
      rw [PassBook.nextOwed, pushes]
      refine passes.queued.step orderly.promised (fun fires => (passes.sends fires).2.2.2.2.1) _ fun fires => ?_
      obtain ⟨-, used, -, some_left, -, made, -⟩ := passes.sends fires
      obtain ⟨-, whole, -, -⟩ := passes.loaded active used some_left
      obtain ⟨positive, short, -⟩ := chunkOf_spec some_left whole
      rw [made.beats]
      exact ⟨positive, short⟩

theorem Passes.count_step (passes : Passes interleaved base s b) (orderly : Orderly interleaved (s, b) i)
    (silent : s.cmdFire i = false) : (s.step interleaved base i).retq.count ≤ s.retq.count := by
  rw [← (passes.queued_step orderly).length, ← passes.queued.length, PassBook.nextOwed, Executor.sent, silent,
    if_neg Bool.false_ne_true, List.map_nil, List.append_nil]
  split_ifs
  · exact length_takeBeat_le _
  · exact Nat.le_refl _

theorem piped_off (off : i.clear = true ∨ s.seq.activeValid = false) :
    (s.step interleaved base i).pipe.cmdSt = .idle ∧ (s.step interleaved base i).pipe.cmdValid = false := by
  have reset : (s.step interleaved base i).pipe = .reset := by
    change (if (i.clear || !s.seq.activeValid) = true then _ else _) = _
    rcases off with clear | dormant
    · rw [clear, Bool.true_or, if_pos rfl]
    · rw [dormant, Bool.not_false, Bool.or_true, if_pos rfl]
  rw [reset]
  exact ⟨rfl, rfl⟩

theorem pipe_running (running : i.clear = false) (active : s.seq.activeValid = true) :
    (s.step interleaved base i).pipe = s.pipe.step base i (s.request interleaved) s.retq.full
      (s.lane interleaved s.pipe.reqSel) (s.laneBeats interleaved s.pipe.reqSel) := by
  change (if (i.clear || !s.seq.activeValid) = true then _ else _) = _
  rw [running, active]
  rfl

/-- The pipeline goes on as long as no lane with something left is given another load. -/
theorem Passes.piped_step (passes : Passes interleaved base s b) (orderly : Orderly interleaved (s, b) i)
    (same : s.seq.activeValid = true → ∀ channel, Used interleaved channel →
      (s.lane interleaved channel).bytesLeft ≠ 0 →
        ((s.step interleaved base i).laneLoad interleaved channel).tog = (s.laneLoad interleaved channel).tog) :
    (s.step interleaved base i).Piped interleaved base := by
  by_cases off : i.clear = true ∨ s.seq.activeValid = false
  · obtain ⟨st, valid⟩ : (s.step interleaved base i).pipe.cmdSt = .idle ∧ _ := piped_off off
    exact .idle st valid
  · obtain ⟨running, active⟩ := not_or.mp off
    rw [Bool.not_eq_true] at running
    rw [Bool.not_eq_false] at active
    have pipe : (s.step interleaved base i).pipe = _ := pipe_running running active
    -- the lane of the pipeline stays while no command is sent
    have goes_on {p : Pipeline} (after : (s.step interleaved base i).pipe = p) (silent : s.cmdFire i = false)
        (used : Used interleaved p.reqSel) (some_left : (s.lane interleaved p.reqSel).bytesLeft ≠ 0)
        (room : s.retq.count < outstandingLimit) (makes : p.Makes base (s.lane interleaved p.reqSel)) :
        (s.step interleaved base i).Piped interleaved base := by
      have edge := (passes.loaded active used some_left).1
      have kept := passes.lane_kept running active used edge silent
      refine .working ?_ ?_ ?_ ((passes.count_step orderly silent).trans_lt room) ?_
      · rw [after]
        exact used
      · rw [after, kept, same active _ used some_left]
        exact edge
      · rw [after, kept]
        exact some_left
      · rw [after, kept]
        exact makes
    cases passes.piped with
    | idle st off =>
      have silent : s.cmdFire i = false := by rw [Executor.cmdFire, Pipeline.cmdFire, off, Bool.false_and]
      rw [Pipeline.step.eq_def, st] at pipe
      cases requests : s.request interleaved with
      | none =>
        rw [requests] at pipe
        dsimp only at pipe
        refine .idle ?_ ?_ <;> rw [pipe]
      | some channel =>
        obtain ⟨used, some_left⟩ := request_some requests
        rw [requests] at pipe
        dsimp only at pipe
        split_ifs at pipe with full
        · refine .idle ?_ ?_ <;> rw [pipe]
        · have room : s.retq.count < outstandingLimit := by
            rw [ReturnQueue.full, decide_eq_true_iff] at full
            omega
          exact goes_on pipe silent used some_left room (.stage rfl rfl)
    | working used edge some_left room makes =>
      obtain ⟨-, -, narrow, -⟩ := passes.loaded active used some_left
      have short : chunkOf (s.lane interleaved s.pipe.reqSel) ≤ 16384 := Nat.min_le_right _ _
      cases makes with
      | stage st off =>
        have silent : s.cmdFire i = false := by rw [Executor.cmdFire, Pipeline.cmdFire, off, Bool.false_and]
        rw [Pipeline.step.eq_def, st] at pipe
        dsimp only at pipe
        refine goes_on pipe silent used some_left room (.prep rfl off ⟨rfl, laneBeats_eq narrow, ?_⟩)
        change beatsToBytes (s.laneBeats interleaved s.pipe.reqSel) = 64 * chunkOf (s.lane interleaved s.pipe.reqSel)
        rw [laneBeats_eq narrow, beatsToBytes]
        omega
      | prep st off made =>
        have silent : s.cmdFire i = false := by rw [Executor.cmdFire, Pipeline.cmdFire, off, Bool.false_and]
        rw [Pipeline.step.eq_def, st] at pipe
        dsimp only at pipe
        refine goes_on pipe silent used some_left room (.sendCmd rfl rfl ⟨made.addr, made.beats, made.bytes⟩ ?_)
        change DmCommand.ofCmdData (makeDmCmd s.pipe.reqAbsAddr s.pipe.reqChunkBytes) = _
        rw [made.addr, made.bytes, ofCmdData_makeDmCmd _ (by omega)]
      | sendCmd st valid made data =>
        rw [Pipeline.step.eq_def, st] at pipe
        dsimp only at pipe
        cases fires : s.cmdFire i with
        | true =>
          have sent : s.pipe.cmdFire i = true := fires
          rw [if_pos sent] at pipe
          refine .idle ?_ ?_ <;> rw [pipe]
        | false =>
          have unsent : s.pipe.cmdFire i = false := fires
          rw [unsent, if_neg Bool.false_ne_true] at pipe
          exact goes_on pipe fires used some_left room (.sendCmd st valid made data)

/-! ## A pass that is done -/

theorem piped_idle (piped : s.Piped interleaved base)
    (empty : ∀ channel, Used interleaved channel → (s.lane interleaved channel).bytesLeft = 0) :
    s.pipe.cmdSt = .idle ∧ s.pipe.cmdValid = false := by
  cases piped with
  | idle st off => exact ⟨st, off⟩
  | working used _ some_left => exact absurd (empty _ used) some_left

/-- When the lanes have taken their loads over, `prefill_done` says that all is sent and has come back. -/
theorem Passes.done (passes : Passes interleaved base s b) (done : s.prefillDone interleaved = true)
    (settled : ∀ channel, Used interleaved channel →
      (s.lane interleaved channel).loadTogD = (s.laneLoad interleaved channel).tog) :
    s.seq.activeValid = true ∧ b.finished = false ∧ b.owed = [] ∧ (∀ i, s.cmdFire i = false) ∧
      ∀ channel, Used interleaved channel → (s.lane interleaved channel).bytesLeft = 0 := by
  rw [Executor.prefillDone, Bool.and_eq_true, Bool.and_eq_true, Bool.and_eq_true] at done
  obtain ⟨⟨⟨active, st⟩, count⟩, lanes⟩ := done
  have unfinished : b.finished = false := by
    cases finished : b.finished with
    | false => rfl
    | true => simp [passes.finished finished] at active
  have owed : b.owed = [] := by
    rw [← List.length_eq_zero_iff, passes.queued.length]
    exact beq_iff_eq.mp count
  have empty : ∀ channel, Used interleaved channel → (s.lane interleaved channel).bytesLeft = 0 := by
    intro channel used
    cases passes.lanes active channel used with
    | awaiting edge => exact absurd (settled channel used) edge
    | settled sent_count _ sent =>
      cases interleaved with
      | true =>
        obtain rfl := used rfl
        change s.inter.bytesLeft = 0
        have valid : s.inter.activeValid = (s.inter.bytesLeft != 0) := sent.active
        rw [if_pos rfl, valid] at lanes
        by_cases none : s.inter.bytesLeft = 0
        · exact none
        · simp [none] at lanes
      | false =>
        rw [if_neg Bool.false_ne_true] at lanes
        cases played : s.seq.havePlay channel with
        | true =>
          have here := List.all_eq_true.mp lanes channel (List.mem_finRange channel)
          rw [played] at here
          exact beq_iff_eq.mp here
        | false =>
          have nothing : (b.region channel).bytes = 0 := by rw [passes.unplayed unfinished channel played]; rfl
          exact (sent.of_empty nothing).2.1
  have idle := piped_idle passes.piped empty
  exact ⟨active, unfinished, owed, fun i => by rw [Executor.cmdFire, Pipeline.cmdFire, idle.2, Bool.false_and], empty⟩

/-! ## One edge -/

theorem Passes.step_clear (passes : Passes interleaved base s b) (orderly : Orderly interleaved (s, b) i)
    (clear : i.clear = true) :
    Passes interleaved base (s.step interleaved base i) (b.record interleaved s i (s.step interleaved base i)) := by
  have seq : (s.step interleaved base i).seq = { s.seq.clear with trigD := i.trigger } := by
    change s.seq.step interleaved i _ = _
    rw [Sequencer.step, clear, if_pos rfl]
  have region : (b.record interleaved s i (s.step interleaved base i)).region = fun _ => .none := by
    change b.nextRegion interleaved s i = _
    rw [PassBook.nextRegion, clear, Bool.true_or, if_pos rfl]
  have issued (channel : ChannelSel) : b.nextIssued interleaved s i channel = [] := by
    rw [PassBook.nextIssued, clear, Bool.true_or, if_pos rfl]
  obtain ⟨st, off⟩ : (s.step interleaved base i).pipe.cmdSt = .idle ∧ _ := piped_off (.inl clear)
  constructor
  · intro active
    rw [seq] at active
    exact absurd active Bool.false_ne_true
  · intro _ channel used played
    rw [Executor.laneLoad, region, seq]
    rcases played with merged | played
    · rw [if_pos merged]
      exact ⟨rfl, rfl⟩
    · rw [seq] at played
      exact absurd played Bool.false_ne_true
  · intro _ channel _
    rw [region]
  · intro _ active
    rw [seq] at active
    exact absurd active Bool.false_ne_true
  · intro channel _
    rw [region]
    exact Nat.dvd_zero 64
  · intro channel
    rw [region]
    exact Nat.two_pow_pos _
  · intro _
    refine ⟨?_, fun channel => by rw [region], issued, orderly.clears clear, st, off, fun _ channel => ?_⟩
    · rw [seq]
      rfl
    · rw [seq]
      rfl
  · intro finished
    rw [PassBook.record, clear] at finished
    exact absurd finished Bool.false_ne_true
  · intro st
    rw [seq] at st
    rcases st with st | st | ⟨st, -⟩ <;> exact absurd st (by simp [Sequencer.clear, Sequencer.reset])
  · intro st
    rw [seq] at st
    exact absurd st (by simp [Sequencer.clear, Sequencer.reset])
  · exact .idle st off
  · exact passes.queued_step orderly

/-- The account of an edge without a clear at which no pass ends. -/
theorem record_running (running : i.clear = false) (goes_on : s.passEnds interleaved = false) (t : Executor) :
    b.record interleaved s i t = ⟨b.nextRegion interleaved s i,
      fun channel => b.issued channel ++ ((s.sent i).filter fun entry => entry.1 = channel).map Prod.snd,
      b.nextOwed s i, b.finished⟩ := by
  have issued : b.nextIssued interleaved s i =
      fun channel => b.issued channel ++ ((s.sent i).filter fun entry => entry.1 = channel).map Prod.snd := by
    funext channel
    rw [PassBook.nextIssued, running, goes_on, Bool.or_self, if_neg Bool.false_ne_true]
  rw [PassBook.record, running, goes_on, issued, Bool.false_and, Bool.or_false, Bool.not_false, Bool.true_and]

theorem Passes.step_quiet (passes : Passes interleaved base s b) (orderly : Orderly interleaved (s, b) i)
    (running : i.clear = false) (nothing : s.seq.taken i.main = none)
    (loads : (s.step interleaved base i).seq.loads = s.seq.loads)
    (inter : (s.step interleaved base i).seq.inter = s.seq.inter)
    (active : (s.step interleaved base i).seq.activeValid = s.seq.activeValid)
    (plays : (s.step interleaved base i).seq.havePlay = s.seq.havePlay)
    (states : s.seq.Quiet i.main (s.prefillDone interleaved) (s.step interleaved base i).seq) :
    Passes interleaved base (s.step interleaved base i) (b.record interleaved s i (s.step interleaved base i)) := by
  have load (channel : ChannelSel) : (s.step interleaved base i).laneLoad interleaved channel =
      s.laneLoad interleaved channel := by rw [Executor.laneLoad, Executor.laneLoad, loads, inter]
  have goes_on : s.passEnds interleaved = false := by
    rw [Executor.passEnds]
    cases states with
    | same _ _ goes_on =>
      by_cases playing : s.seq.st = .playing
      · rw [goes_on (.inl playing), Bool.and_false]
      · rw [beq_eq_false_iff_ne.mpr playing, Bool.false_and]
    | started st | filled st | ready st | triggered st => rw [st]; rfl
  have region : b.nextRegion interleaved s i = b.region := by
    rw [PassBook.nextRegion, running, goes_on, nothing]
    rfl
  rw [record_running running goes_on, region]
  have taken_over (channel : ChannelSel) (used : Used interleaved channel) :
      ((s.step interleaved base i).lane interleaved channel).loadTogD =
        ((s.step interleaved base i).laneLoad interleaved channel).tog := by
    rw [load]
    exact (passes.lane_sent running used).1
  constructor
  · intro _ channel used
    obtain ⟨-, count, sent⟩ := passes.lane_sent running used
    exact .settled count (taken_over channel used) sent
  · intro unfinished channel used played
    rw [load]
    rw [plays] at played
    exact passes.loads unfinished channel used played
  · intro unfinished channel unplayed
    rw [plays] at unplayed
    exact passes.unplayed unfinished channel unplayed
  · exact fun _ _ channel used _ => taken_over channel used
  · exact passes.whole
  · exact passes.narrow
  · intro dormant
    rw [active] at dormant
    obtain ⟨st, none, empty, owed, -, off, played⟩ := passes.dormant dormant
    have silent : s.sent i = [] := by
      rw [Executor.sent, Executor.cmdFire, Pipeline.cmdFire, off]
      rfl
    obtain ⟨idle, valid⟩ : (s.step interleaved base i).pipe.cmdSt = .idle ∧ _ := piped_off (.inr dormant)
    refine ⟨?_, none, fun channel => ?_, ?_, idle, valid, fun unfinished channel => ?_⟩
    · cases states with
      | same st' => rw [st', st]
      | started _ fetched some_play =>
        obtain ⟨channel, some_play⟩ := some_play
        cases finished : b.finished with
        | true => exact absurd (orderly.fresh running finished) fetched
        | false => simp [played finished] at some_play
      | filled away | ready away | triggered away => simp [st] at away
    · dsimp only
      rw [silent, empty]
      rfl
    · have still : i.beatFire = false := by
        cases fires : i.beatFire with
        | false => rfl
        | true => exact absurd owed (orderly.promised fires)
      rw [PassBook.nextOwed, still, owed, silent]
      rfl
    · rw [plays]
      exact played unfinished channel
  · intro finished
    rw [active]
    exact passes.finished finished
  · exact fun _ => taken_over
  · intro waiting channel used
    have kept (settled : ∀ channel, Used interleaved channel →
          (s.lane interleaved channel).loadTogD = (s.laneLoad interleaved channel).tog)
        (alive : s.seq.activeValid = true) (silent : s.cmdFire i = false)
        (empty : (s.lane interleaved channel).bytesLeft = 0) :
        ((s.step interleaved base i).lane interleaved channel).bytesLeft = 0 := by
      rw [passes.lane_kept running alive used (settled channel used) silent]
      exact empty
    cases states with
    | same st =>
      rw [st] at waiting
      have empty := passes.waiting waiting
      have alive : s.seq.activeValid = true := by
        cases alive : s.seq.activeValid with
        | true => rfl
        | false => simp [(passes.dormant alive).1] at waiting
      have silent : s.cmdFire i = false := by
        rw [Executor.cmdFire, Pipeline.cmdFire, (piped_idle passes.piped empty).2, Bool.false_and]
      exact kept (passes.settled (.inr (.inl waiting))) alive silent (empty channel used)
    | ready prefill auto ends =>
      have settled := passes.settled (.inr (.inr ⟨prefill, auto⟩))
      obtain ⟨alive, -, -, silent, empty⟩ := passes.done ends settled
      exact kept settled alive (silent i) (empty channel used)
    | started _ _ _ st | filled _ _ _ st | triggered _ st => simp [st] at waiting
  · exact passes.piped_step orderly fun _ channel _ _ => by rw [load]
  · exact passes.queued_step orderly

theorem laneLoad_play {t : Sequencer} {channel : ChannelSel} {addr : BitVec 64} {value : BitVec 32}
    (unplayed : s.seq.havePlay channel = false) (after : t = { s.seq.play channel addr value with trigD := i.trigger })
    (seq : (s.step interleaved base i).seq = t) (used : Used interleaved channel) :
    (s.step interleaved base i).laneLoad interleaved channel =
      ⟨!(s.laneLoad interleaved channel).tog, addr, (PassBook.played interleaved addr value).bytes⟩ := by
  rw [Executor.laneLoad, Executor.laneLoad, seq, after, Sequencer.play, unplayed, if_neg Bool.false_ne_true]
  cases interleaved with
  | true =>
    obtain rfl := used rfl
    rfl
  | false => exact Function.update_self channel _ s.seq.loads

theorem laneLoad_play_other {t : Sequencer} {channel other : ChannelSel} {addr : BitVec 64} {value : BitVec 32}
    (unplayed : s.seq.havePlay channel = false) (after : t = { s.seq.play channel addr value with trigD := i.trigger })
    (seq : (s.step interleaved base i).seq = t) (used : Used interleaved other) (different : other ≠ channel) :
    (s.step interleaved base i).laneLoad interleaved other = s.laneLoad interleaved other := by
  rw [Executor.laneLoad, Executor.laneLoad, seq, after, Sequencer.play, unplayed, if_neg Bool.false_ne_true]
  cases interleaved with
  | true =>
    obtain rfl := used rfl
    exact if_neg (Ne.symm different)
  | false => exact Function.update_of_ne different _ s.seq.loads

theorem Passes.step_plays (passes : Passes interleaved base s b) (orderly : Orderly interleaved (s, b) i)
    (running : i.clear = false) {channel : ChannelSel} {addr : BitVec 64} {value : BitVec 32}
    (taken : s.seq.taken i.main = some (channel, addr, value)) (st : s.seq.st = .build)
    (unplayed : s.seq.havePlay channel = false)
    (after : (s.step interleaved base i).seq = { s.seq.play channel addr value with trigD := i.trigger }) :
    Passes interleaved base (s.step interleaved base i) (b.record interleaved s i (s.step interleaved base i)) := by
  have goes_on : s.passEnds interleaved = false := by
    rw [Executor.passEnds, st]
    rfl
  have unfinished : b.finished = false := by
    cases finished : b.finished with
    | false => rfl
    | true =>
      rw [orderly.fresh running finished] at taken
      exact absurd taken nofun
  have region : b.nextRegion interleaved s i =
      Function.update b.region channel (PassBook.played interleaved addr value) := by
    rw [PassBook.nextRegion, running, goes_on, taken]
    rfl
  rw [record_running running goes_on, region]
  have seq := after
  rw [Sequencer.play, unplayed, if_neg Bool.false_ne_true] at seq
  have active : (s.step interleaved base i).seq.activeValid = true := by rw [seq]
  have plays : (s.step interleaved base i).seq.havePlay = Function.update s.seq.havePlay channel true := by rw [seq]
  have building : (s.step interleaved base i).seq.st = .build := by
    rw [seq]
    exact st
  have nothing : (b.region channel).bytes = 0 := by
    rw [passes.unplayed unfinished channel unplayed]
    rfl
  have load (used : Used interleaved channel) := laneLoad_play unplayed rfl after used
  have same (other : ChannelSel) (used : Used interleaved other) (different : other ≠ channel) :=
    laneLoad_play_other unplayed rfl after used different
  have played {other : ChannelSel} (still : (s.step interleaved base i).seq.havePlay other = false) :
      other ≠ channel ∧ s.seq.havePlay other = false := by
    rw [plays] at still
    by_cases here : other = channel
    · rw [here, Function.update_self] at still
      exact absurd still.symm Bool.false_ne_true
    · rw [Function.update_of_ne here] at still
      exact ⟨here, still⟩
  constructor
  · intro _ other used
    obtain ⟨edge, count, sent⟩ := passes.lane_sent running used
    by_cases here : other = channel
    · subst here
      obtain ⟨empty, idle, -⟩ := sent.of_empty nothing
      dsimp only
      rw [Function.update_self, load used, empty]
      refine .awaiting ?_ rfl rfl rfl idle
      rw [edge]
      exact (Bool.not_ne_self _).symm
    · dsimp only
      rw [Function.update_of_ne here, same other used here]
      exact .settled count edge sent
  · intro _ other used again
    by_cases here : other = channel
    · subst here
      dsimp only
      rw [Function.update_self, load used]
      exact ⟨rfl, rfl⟩
    · dsimp only
      rw [Function.update_of_ne here, same other used here]
      refine passes.loads unfinished other used (again.imp_right fun now => ?_)
      rw [plays] at now
      rwa [Function.update_of_ne here] at now
  · intro _ other still
    obtain ⟨different, before⟩ := played still
    dsimp only
    rw [Function.update_of_ne different]
    exact passes.unplayed unfinished other before
  · intro _ _ other used still
    obtain ⟨different, -⟩ := played still
    rw [same other used different]
    exact (passes.lane_sent running used).1
  · intro other used
    by_cases here : other = channel
    · subst here
      dsimp only
      rw [Function.update_self]
      exact orderly.whole (other, addr, value) taken used
    · dsimp only
      rw [Function.update_of_ne here]
      exact passes.whole other used
  · intro other
    by_cases here : other = channel
    · dsimp only
      rw [here, Function.update_self, PassBook.played]
      have below := value.isLt
      dsimp only
      split_ifs <;> omega
    · dsimp only
      rw [Function.update_of_ne here]
      exact passes.narrow other
  · intro dormant
    rw [active] at dormant
    exact absurd dormant.symm Bool.false_ne_true
  · intro finished
    exact absurd (finished.symm.trans unfinished) Bool.noConfusion
  · intro away
    rw [building] at away
    rcases away with away | away | ⟨away, -⟩ <;> exact absurd away (by decide)
  · intro away
    rw [building] at away
    exact absurd away (by decide)
  · refine passes.piped_step orderly fun alive other used some_left => ?_
    have different : other ≠ channel := by
      rintro rfl
      exact (passes.loaded alive used some_left).2.2.2 nothing
    rw [same other used different]
  · exact passes.queued_step orderly

/-- The beats owed stay none when a pass is over. -/
theorem nextOwed_none (orderly : Orderly interleaved (s, b) i) (owed : b.owed = []) (silent : s.cmdFire i = false) :
    b.nextOwed s i = [] := by
  have still : i.beatFire = false := by
    cases fires : i.beatFire with
    | false => rfl
    | true => exact absurd owed (orderly.promised fires)
  rw [PassBook.nextOwed, still, owed, Executor.sent, silent]
  rfl

/-- The load of every lane that is loaded again, and of the others. -/
theorem laneLoad_reload (after : (s.step interleaved base i).seq = { s.seq.reload interleaved with trigD := i.trigger })
    (channel : ChannelSel) : (s.step interleaved base i).laneLoad interleaved channel =
      if interleaved = true ∨ s.seq.havePlay channel = true then
        { s.laneLoad interleaved channel with tog := !(s.laneLoad interleaved channel).tog }
      else s.laneLoad interleaved channel := by
  rw [Executor.laneLoad, Executor.laneLoad, after]
  cases interleaved with
  | true => rfl
  | false =>
    change (if s.seq.havePlay channel = true then _ else _) = _
    simp only [Bool.false_eq_true, false_or, if_false]

theorem Passes.step_reloads (passes : Passes interleaved base s b) (orderly : Orderly interleaved (s, b) i)
    (running : i.clear = false) (playing : s.seq.st = .playing) (ends : s.prefillDone interleaved = true)
    (loops : s.seq.loopEnable = true)
    (after : (s.step interleaved base i).seq = { s.seq.reload interleaved with trigD := i.trigger }) :
    Passes interleaved base (s.step interleaved base i) (b.record interleaved s i (s.step interleaved base i)) := by
  have settled := passes.settled (.inl playing)
  obtain ⟨active, unfinished, owed, silent, empty⟩ := passes.done ends settled
  have ended : s.passEnds interleaved = true := by
    rw [Executor.passEnds, playing, ends]
    rfl
  have region : b.nextRegion interleaved s i = b.region := by
    rw [PassBook.nextRegion, running, ended, loops, Sequencer.taken_none_of_st (by simp [playing])]
    rfl
  have issued : b.nextIssued interleaved s i = fun _ => [] := by
    funext channel
    rw [PassBook.nextIssued, ended, Bool.or_true, if_pos rfl]
  have finished : (!i.clear && (b.finished || s.passEnds interleaved && !s.seq.loopEnable)) = false := by
    rw [unfinished, loops, Bool.not_true, Bool.and_false, Bool.or_self, Bool.and_false]
  rw [PassBook.record, region, issued, finished]
  have load := laneLoad_reload after
  have kept (channel : ChannelSel) (used : Used interleaved channel) :
      (s.step interleaved base i).lane interleaved channel = s.lane interleaved channel :=
    passes.lane_kept running active used (settled channel used) (silent i)
  have plays : (s.step interleaved base i).seq.havePlay = s.seq.havePlay := by rw [after]; rfl
  have prefill : (s.step interleaved base i).seq.st = .prefill := by rw [after]; rfl
  have auto : (s.step interleaved base i).seq.prefillAutoStart = true := by rw [after]; rfl
  have alive : (s.step interleaved base i).seq.activeValid = true := by rw [after]; exact active
  constructor
  · intro _ channel used
    dsimp only
    rw [kept channel used, load]
    split_ifs with again
    · obtain ⟨addr, bytes⟩ := passes.loads unfinished channel used again
      refine .awaiting ?_ addr bytes rfl (empty channel used)
      rw [settled channel used]
      exact (Bool.not_ne_self _).symm
    · have unplayed : s.seq.havePlay channel = false := by simpa using (not_or.mp again).2
      cases passes.lanes active channel used with
      | settled count edge sent =>
        have nothing : (b.region channel).bytes = 0 := by rw [passes.unplayed unfinished channel unplayed]; rfl
        have none := sent.of_empty nothing
        rw [none.1] at sent
        exact .settled count edge sent
      | awaiting edge => exact absurd (settled channel used) edge
  · intro _ channel used again
    rw [plays] at again
    rw [load, if_pos again]
    exact passes.loads unfinished channel used again
  · intro _ channel unplayed
    rw [plays] at unplayed
    exact passes.unplayed unfinished channel unplayed
  · intro away
    rw [prefill] at away
    exact absurd away (by decide)
  · exact passes.whole
  · exact passes.narrow
  · intro dormant
    rw [alive] at dormant
    exact absurd dormant.symm Bool.false_ne_true
  · exact nofun
  · intro away
    rw [prefill, auto] at away
    rcases away with away | away | ⟨-, away⟩ <;> exact absurd away (by decide)
  · intro away
    rw [prefill] at away
    exact absurd away (by decide)
  · exact passes.piped_step orderly fun _ channel used some_left => absurd (empty channel used) some_left
  · exact passes.queued_step orderly

theorem Passes.step_finishes (passes : Passes interleaved base s b) (orderly : Orderly interleaved (s, b) i)
    (running : i.clear = false) (playing : s.seq.st = .playing) (ends : s.prefillDone interleaved = true)
    (once : s.seq.loopEnable = false)
    (after : (s.step interleaved base i).seq = { s.seq.finish with trigD := i.trigger }) :
    Passes interleaved base (s.step interleaved base i) (b.record interleaved s i (s.step interleaved base i)) := by
  have settled := passes.settled (.inl playing)
  obtain ⟨active, unfinished, owed, silent, empty⟩ := passes.done ends settled
  have ended : s.passEnds interleaved = true := by
    rw [Executor.passEnds, playing, ends]
    rfl
  have region : b.nextRegion interleaved s i = fun _ => .none := by
    rw [PassBook.nextRegion, ended, once, Bool.not_false, Bool.and_true, Bool.or_true, if_pos rfl]
  have issued : b.nextIssued interleaved s i = fun _ => [] := by
    funext channel
    rw [PassBook.nextIssued, ended, Bool.or_true, if_pos rfl]
  have finished : (!i.clear && (b.finished || s.passEnds interleaved && !s.seq.loopEnable)) = true := by
    rw [running, ended, once, Bool.not_false, Bool.and_true, Bool.or_true, Bool.and_true]
  have owes := nextOwed_none orderly owed (silent i)
  rw [PassBook.record, region, issued, finished]
  have idle : (s.step interleaved base i).pipe.cmdSt = .idle ∧ (s.step interleaved base i).pipe.cmdValid = false := by
    refine piped_idle (passes.piped_step orderly fun _ channel used some_left =>
      absurd (empty channel used) some_left) fun channel used => ?_
    rw [passes.lane_kept running active used (settled channel used) (silent i)]
    exact empty channel used
  have building : (s.step interleaved base i).seq.st = .build := by rw [after]; rfl
  have dormant : (s.step interleaved base i).seq.activeValid = false := by rw [after]; rfl
  constructor
  · intro active
    rw [dormant] at active
    exact absurd active Bool.false_ne_true
  · exact fun again => absurd again.symm Bool.false_ne_true
  · exact fun again => absurd again.symm Bool.false_ne_true
  · intro _ active
    rw [dormant] at active
    exact absurd active Bool.false_ne_true
  · exact fun _ _ => Nat.dvd_zero 64
  · exact fun _ => Nat.two_pow_pos _
  · exact fun _ => ⟨building, fun _ => rfl, fun _ => rfl, owes, idle.1, idle.2,
      fun again => absurd again.symm Bool.false_ne_true⟩
  · exact fun _ => dormant
  · intro away
    rw [building] at away
    rcases away with away | away | ⟨away, -⟩ <;> exact absurd away (by decide)
  · intro away
    rw [building] at away
    exact absurd away (by decide)
  · exact .idle idle.1 idle.2
  · exact passes.queued_step orderly

theorem Passes.step (passes : Passes interleaved base s b) (orderly : Orderly interleaved (s, b) i) :
    Passes interleaved base (s.step interleaved base i) (b.record interleaved s i (s.step interleaved base i)) := by
  cases clear : i.clear with
  | true => exact passes.step_clear orderly clear
  | false =>
    have moves : s.seq.Moves interleaved i (s.prefillDone interleaved) (s.step interleaved base i).seq :=
      Sequencer.moves interleaved s.seq _ clear
    cases moves with
    | quiet nothing loads inter active plays states =>
      exact passes.step_quiet orderly clear nothing loads inter active plays states
    | plays channel addr value taken building unplayed after =>
      exact passes.step_plays orderly clear taken building unplayed after
    | reloads playing ends loops after => exact passes.step_reloads orderly clear playing ends loops after
    | finishes playing ends once after => exact passes.step_finishes orderly clear playing ends once after

/-! ## Whole runs -/

theorem Passes.run {is : List ExecutorIn}
    (orderly : (bookedExecutor interleaved base).Along (Orderly interleaved)
      (bookedExecutor interleaved base).reset is) :
    Passes interleaved base ((bookedExecutor interleaved base).run (bookedExecutor interleaved base).reset is).1
      ((bookedExecutor interleaved base).run (bookedExecutor interleaved base).reset is).2 := by
  have kept : ∀ t i, Passes interleaved base t.1 t.2 → Orderly interleaved t i →
      Passes interleaved base ((bookedExecutor interleaved base).step t i).1
        ((bookedExecutor interleaved base).step t i).2 := fun _ _ passes orderly => passes.step orderly
  exact (bookedExecutor interleaved base).invariant_run passes_reset kept is orderly

/-- What the executor has done of its program. -/
structure Executes (interleaved : Bool) (base : BitVec 64) (s : Executor) (b : PassBook) : Prop where
  /-- The commands of a pass read its regions beat by beat, and all of them before it is over. -/
  tiles : ∀ channel, Used interleaved channel → ∃ count, 64 * count ≤ (b.region channel).bytes ∧
    (b.issued channel).flatMap DmCommand.beats = (b.region channel).beats base count ∧
    (s.seq.st = .waitTrig ∨ s.passEnds interleaved = true → 64 * count = (b.region channel).bytes)
  fit : ∀ channel, Used interleaved channel → ∀ c ∈ b.issued channel, c.Fits
  few : b.owed.length ≤ outstandingLimit
  inflight : ∀ channel, s.retq.inflightBeats channel = owedBeats b.owed channel
  stream : ∀ channel beats rest, b.owed = (channel, beats) :: rest → s.retq.streamSel = channel
  returned : s.passEnds interleaved = true → b.owed = []

theorem Passes.executes (passes : Passes interleaved base s b) : Executes interleaved base s b := by
  have ended (ends : s.passEnds interleaved = true) : s.seq.st = .playing ∧ s.prefillDone interleaved = true := by
    rw [Executor.passEnds, Bool.and_eq_true, beq_iff_eq] at ends
    exact ends
  have empty (channel : ChannelSel) (used : Used interleaved channel)
      (done : s.seq.st = .waitTrig ∨ s.passEnds interleaved = true) :
      (s.lane interleaved channel).bytesLeft = 0 ∧
        (s.lane interleaved channel).loadTogD = (s.laneLoad interleaved channel).tog := by
    rcases done with waiting | ends
    · exact ⟨passes.waiting waiting channel used, passes.settled (.inr (.inl waiting)) channel used⟩
    · obtain ⟨playing, done⟩ := ended ends
      have settled := passes.settled (.inl playing)
      exact ⟨(passes.done done settled).2.2.2.2 channel used, settled channel used⟩
  cases active : s.seq.activeValid with
  | false =>
    obtain ⟨st, region, issued, owed, -⟩ := passes.dormant active
    refine ⟨fun channel _ => ⟨0, Nat.zero_le _, ?_, fun _ => ?_⟩, fun channel _ c mem => ?_, ?_,
      passes.queued.inflight, fun channel beats rest some_owed => ?_, fun _ => owed⟩
    · rw [issued, Region.beats]
      rfl
    · rw [region]
      rfl
    · rw [issued] at mem
      exact absurd mem List.not_mem_nil
    · rw [owed]
      exact Nat.zero_le _
    · rw [owed] at some_owed
      exact absurd some_owed.symm (List.cons_ne_nil _ _)
  | true =>
    refine ⟨fun channel used => ?_, fun channel used c mem => ?_, ?_, passes.queued.inflight, ?_, ?_⟩
    · cases passes.lanes active channel used with
      | settled count edge sent =>
        have left := sent.left
        refine ⟨count, by omega, sent.tiles, fun done => ?_⟩
        have none := (empty channel used done).1
        omega
      | awaiting edge _ _ none _ =>
        refine ⟨0, Nat.zero_le _, ?_, fun done => absurd (empty channel used done).2 edge⟩
        rw [none, Region.beats]
        rfl
    · cases passes.lanes active channel used with
      | settled count edge sent => exact sent.fit c mem
      | awaiting _ _ _ none _ =>
        rw [none] at mem
        exact absurd mem List.not_mem_nil
    · rw [passes.queued.length]
      exact passes.queued.few
    · intro channel beats rest owed
      have queued := passes.queued
      rw [owed] at queued
      exact queued.streamSel
    · intro ends
      obtain ⟨playing, done⟩ := ended ends
      exact (passes.done done (passes.settled (.inl playing))).2.2.1

/-- In every orderly run the commands of each pass tile the regions of the program. -/
theorem executes_programs (interleaved : Bool) (base : BitVec 64) (is : List ExecutorIn)
    (orderly : (bookedExecutor interleaved base).Along (Orderly interleaved)
      (bookedExecutor interleaved base).reset is) :
    Executes interleaved base ((bookedExecutor interleaved base).run (bookedExecutor interleaved base).reset is).1
      ((bookedExecutor interleaved base).run (bookedExecutor interleaved base).reset is).2 :=
  (Passes.run orderly).executes

def stillEdge : ExecutorIn := ⟨false, false, none, false, false, fun _ => 0⟩

/-- A program of two beats for CH1 that starts by itself, until its only pass is over. -/
def twoBeatProgram : List ExecutorIn :=
  [{ stillEdge with main := some ⟨2, 1, false, 16, 64⟩ }, { stillEdge with main := some ⟨3, 15, false, 0, 0⟩ },
    stillEdge, stillEdge, stillEdge, { stillEdge with cmdReady := true }, { stillEdge with beatFire := true },
    { stillEdge with beatFire := true }, stillEdge]

theorem twoBeatProgram_executes :
    ((bookedExecutor true 64).run (bookedExecutor true 64).reset twoBeatProgram).1.passEnds true = true ∧
      Executes true 64 ((bookedExecutor true 64).run (bookedExecutor true 64).reset twoBeatProgram).1
        ((bookedExecutor true 64).run (bookedExecutor true 64).reset twoBeatProgram).2 :=
  ⟨by decide +kernel, executes_programs true 64 twoBeatProgram (by decide +kernel)⟩

/-! ## Programs without a clear -/

/-- No region is active and no command is made. -/
structure Blocked (s : Executor) : Prop where
  dormant : s.seq.activeValid = false
  st : s.seq.st = .build ∨ s.seq.st = .prefill
  off : s.pipe.cmdValid = false

/-- A PLAY of a channel that has been played is ignored, and an END then waits for ever. -/
theorem Blocked.step (blocked : Blocked s) (running : i.clear = false) (nothing : s.seq.taken i.main = none) :
    Blocked (s.step interleaved base i) ∧ (s.step interleaved base i).seq.havePlay = s.seq.havePlay ∧ s.sent i = [] ∧
      s.passEnds interleaved = false ∧ (s.seq.st = .prefill → (s.step interleaved base i).seq.st = .prefill) := by
  have away : s.seq.st ≠ .playing := by rcases blocked.st with st | st <;> simp [st]
  have undone : s.prefillDone interleaved = false := by
    rw [Executor.prefillDone, blocked.dormant, Bool.false_and, Bool.false_and, Bool.false_and]
  have moves : s.seq.Moves interleaved i (s.prefillDone interleaved) (s.step interleaved base i).seq :=
    Sequencer.moves interleaved s.seq _ running
  have silent : s.sent i = [] := by
    rw [Executor.sent, Executor.cmdFire, Pipeline.cmdFire, blocked.off]
    rfl
  have goes_on : s.passEnds interleaved = false := by rw [Executor.passEnds, undone, Bool.and_false]
  cases moves with
  | plays channel addr value taken => exact absurd (taken.symm.trans nothing) (Option.some_ne_none _)
  | reloads playing => exact absurd playing away
  | finishes playing => exact absurd playing away
  | quiet _ _ _ active plays states =>
    have st : (s.step interleaved base i).seq.st = .prefill ∨ (s.step interleaved base i).seq.st = s.seq.st := by
      cases states with
      | same st => exact .inr st
      | started _ _ _ st => exact .inl st
      | filled _ _ ends | ready _ _ ends => exact absurd (undone.symm.trans ends) Bool.false_ne_true
      | triggered waiting => rcases blocked.st with st | st <;> simp [st] at waiting
    refine ⟨⟨active.trans blocked.dormant, ?_, (piped_off (.inr blocked.dormant)).2⟩, plays, silent, goes_on,
      fun prefill => st.elim id fun same => same.trans prefill⟩
    rcases st with prefill | same
    · exact .inr prefill
    · exact same ▸ blocked.st

/-- An END of channels that have been played is taken. -/
theorem step_end (running : i.clear = false) (building : s.seq.st = .build) {instr : Instruction}
    (fetched : i.main = some instr) (ends : instr.cmd = 3) (some_play : ∃ channel, s.seq.havePlay channel = true) :
    (s.step interleaved base i).seq.st = .prefill := by
  obtain ⟨channel, played⟩ := some_play
  have any : (List.finRange 8).any s.seq.havePlay = true :=
    List.any_eq_true.mpr ⟨channel, List.mem_finRange channel, played⟩
  have other : ¬ instr.cmd = 2 := by
    rw [ends]
    decide
  change (s.seq.step interleaved i _).st = _
  rw [Sequencer.step, running, if_neg Bool.false_ne_true, Sequencer.advance, building]
  dsimp only
  rw [fetched, Sequencer.fetch, if_neg other, if_pos ends, if_pos any]

/-- A program that is going on, or done, has played a channel. -/
def Played (s : Executor) (b : PassBook) : Prop :=
  s.seq.st ≠ .build ∨ b.finished = true → ∃ channel, s.seq.havePlay channel = true

theorem played_reset : Played .reset .blank := by
  rintro (away | finished)
  · exact absurd rfl away
  · exact absurd finished Bool.false_ne_true

theorem Played.step (played : Played s b) :
    Played (s.step interleaved base i) (b.record interleaved s i (s.step interleaved base i)) := by
  intro going
  cases clear : i.clear with
  | true =>
    have seq : (s.step interleaved base i).seq = { s.seq.clear with trigD := i.trigger } := by
      change s.seq.step interleaved i _ = _
      rw [Sequencer.step, clear, if_pos rfl]
    rw [PassBook.record, clear, seq] at going
    rcases going with away | finished
    · exact absurd rfl away
    · exact absurd finished Bool.false_ne_true
  | false =>
    have moves : s.seq.Moves interleaved i (s.prefillDone interleaved) (s.step interleaved base i).seq :=
      Sequencer.moves interleaved s.seq _ clear
    cases moves with
    | quiet _ _ _ _ plays states =>
      rw [plays]
      cases states with
      | same st _ goes_on =>
        refine played (going.imp (fun away => st ▸ away) fun finished => ?_)
        have ended : s.passEnds interleaved = false := by
          rw [Executor.passEnds]
          by_cases playing : s.seq.st = .playing
          · rw [goes_on (.inl playing), Bool.and_false]
          · rw [beq_eq_false_iff_ne.mpr playing, Bool.false_and]
        rw [record_running clear ended] at finished
        exact finished
      | started _ _ some_play => exact some_play
      | filled away | ready away | triggered away => exact played (.inl (by simp [away]))
    | plays channel addr value _ _ unplayed after =>
      refine ⟨channel, ?_⟩
      rw [after, Sequencer.play, unplayed]
      exact Function.update_self ..
    | reloads playing _ _ after | finishes playing _ _ after =>
      rw [after]
      exact played (.inl (by simp [playing]))

theorem taken_stale {main : Option Instruction} (stale : ∀ instr ∈ main, instr.cmd = 2 →
    ∀ channel ∈ Sequencer.playChannel instr.ch, s.seq.havePlay channel = true) : s.seq.taken main = none := by
  cases main with
  | none => rfl
  | some instr =>
    rw [Sequencer.taken]
    split_ifs with plays
    · cases found : Sequencer.playChannel instr.ch with
      | none => rfl
      | some channel => exact if_pos (stale instr rfl plays.2 channel found)
    · rfl

theorem Blocked.run {js : List ExecutorIn} (blocked : Blocked s) (some_play : ∃ channel, s.seq.havePlay channel = true)
    (running : ∀ i ∈ js, i.clear = false) (stale : ∀ i ∈ js, ∀ instr ∈ i.main, instr.cmd = 2 →
      ∀ channel ∈ Sequencer.playChannel instr.ch, s.seq.havePlay channel = true) :
    (executor interleaved base).log Executor.sent s js = [] ∧
      (executor interleaved base).Along (fun t _ => t.passEnds interleaved = false) s js ∧
      (s.seq.st = .prefill ∨ (∃ i ∈ js, ∃ instr ∈ i.main, instr.cmd = 3) →
        ((executor interleaved base).run s js).seq.st = .prefill) := by
  induction js generalizing s with
  | nil =>
    refine ⟨rfl, trivial, fun going => ?_⟩
    rcases going with st | ⟨i, mem, -⟩
    · exact st
    · exact absurd mem List.not_mem_nil
  | cons i js ih =>
    have here := running i List.mem_cons_self
    have nothing := taken_stale (stale i List.mem_cons_self)
    obtain ⟨after, plays, silent, goes_on, stays⟩ : Blocked (s.step interleaved base i) ∧ _ := blocked.step here nothing
    obtain ⟨log, along, ends⟩ := ih after (by rwa [plays])
      (fun j mem => running j (List.mem_cons_of_mem i mem))
      (fun j mem => by
        rw [plays]
        exact stale j (List.mem_cons_of_mem i mem))
    refine ⟨?_, ⟨goes_on, along⟩, fun going => ends ?_⟩
    · rw [Machine.log_cons, silent]
      exact log
    · rcases going with prefill | ⟨j, mem, instr, fetched, ending⟩
      · exact .inl (stays prefill)
      · rcases List.mem_cons.mp mem with rfl | later
        · left
          rcases blocked.st with building | prefill
          · exact step_end here building fetched ending some_play
          · exact stays prefill
        · exact .inr ⟨j, later, instr, fetched, ending⟩

/-- Without a clear, a program of channels that an earlier one has played sends nothing and never ends: its END is
taken, and the executor waits from then on. -/
theorem stale_program_blocks (interleaved : Bool) (base : BitVec 64) (is js : List ExecutorIn)
    (orderly : (bookedExecutor interleaved base).Along (Orderly interleaved)
      (bookedExecutor interleaved base).reset is)
    (finished : ((bookedExecutor interleaved base).run (bookedExecutor interleaved base).reset is).2.finished = true)
    (running : ∀ i ∈ js, i.clear = false)
    (stale : ∀ i ∈ js, ∀ instr ∈ i.main, instr.cmd = 2 → ∀ channel ∈ Sequencer.playChannel instr.ch,
      ((bookedExecutor interleaved base).run (bookedExecutor interleaved base).reset is).1.seq.havePlay channel = true) :
    (executor interleaved base).log Executor.sent
        ((bookedExecutor interleaved base).run (bookedExecutor interleaved base).reset is).1 js = [] ∧
      (executor interleaved base).Along (fun s _ => s.passEnds interleaved = false)
        ((bookedExecutor interleaved base).run (bookedExecutor interleaved base).reset is).1 js ∧
      ((∃ i ∈ js, ∃ instr ∈ i.main, instr.cmd = 3) →
        ((executor interleaved base).run
          ((bookedExecutor interleaved base).run (bookedExecutor interleaved base).reset is).1 js).seq.st = .prefill) := by
  have passes := Passes.run orderly
  have some_play : ∃ channel,
      ((bookedExecutor interleaved base).run (bookedExecutor interleaved base).reset is).1.seq.havePlay channel = true :=
    (bookedExecutor interleaved base).invariant (P := fun t => Played t.1 t.2) played_reset
      (fun _ _ played => played.step) is (.inr finished)
  have dormant := passes.finished finished
  obtain ⟨st, -, -, -, -, off, -⟩ := passes.dormant dormant
  obtain ⟨log, along, ends⟩ := Blocked.run ⟨dormant, .inl st, off⟩ some_play running stale
  exact ⟨log, along, fun some_end => ends (.inr some_end)⟩

theorem secondProgram_blocks :
    (executor true 64).log Executor.sent
        ((bookedExecutor true 64).run (bookedExecutor true 64).reset (twoBeatProgram ++ [stillEdge])).1
        twoBeatProgram = [] ∧
      (executor true 64).Along (fun s _ => s.passEnds true = false)
        ((bookedExecutor true 64).run (bookedExecutor true 64).reset (twoBeatProgram ++ [stillEdge])).1
        twoBeatProgram ∧
      ((executor true 64).run
        ((bookedExecutor true 64).run (bookedExecutor true 64).reset (twoBeatProgram ++ [stillEdge])).1
        twoBeatProgram).seq.st = .prefill := by
  obtain ⟨log, along, ends⟩ := stale_program_blocks true 64 (twoBeatProgram ++ [stillEdge]) twoBeatProgram
    (by decide) (by decide +kernel) (by decide) (by decide +kernel)
  exact ⟨log, along, ends (by decide)⟩

end Xczu47dr.Bandwidth
