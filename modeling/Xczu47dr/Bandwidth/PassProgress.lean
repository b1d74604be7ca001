import Mathlib.Tactic.IntervalCases
import Xczu47dr.Bandwidth.ExecutedPasses
import Xczu47dr.Clocked.Progress

/-! # Passes end

With the interleaved region, as `TopBandwidthCore` builds the executor: once a program is
started, each pass sends its whole region and all its beats come back, whatever the
DataMover takes its time with.
-/

namespace Xczu47dr.Bandwidth

open Clocked

/-- The edges until the next command is sent. -/
def stageRank : CmdState → Nat
  | .idle => 3
  | .stage => 2
  | .prep => 1
  | .sendCmd => 0

def owedTotal (owed : Owed) : Nat := (owed.map Prod.snd).sum

/-- What is left of the region when the load has been taken over. -/
def regionLeft (s : Executor) : Nat :=
  if s.inter.loadTogD = s.seq.inter.tog then s.inter.bytesLeft else s.seq.inter.bytes

def passRank (t : Executor × PassBook) : Nat :=
  6 * (regionLeft t.1 / 64) + stageRank t.1.pipe.cmdSt + owedTotal t.2.owed +
    (if t.1.seq.st = .prefill then 1 else 0) + if t.1.inter.loadTogD = t.1.seq.inter.tog then 0 else 1

/-- The pass waits for a command to be taken, or else for a beat. -/
def waitsForCommand (t : Executor × PassBook) : Bool := t.1.pipe.cmdSt == .sendCmd

def Going (s : Executor) : Prop := s.seq.st = .prefill ∨ s.seq.st = .playing

variable {base : BitVec 64} {s : Executor} {b : PassBook} {i : ExecutorIn}

theorem owedTotal_takeBeat {owed : Owed} (some_owed : owed ≠ []) (beats : ∀ entry ∈ owed, 0 < entry.2) :
    owedTotal (takeBeat owed) + 1 = owedTotal owed := by
  obtain ⟨⟨channel, left⟩, rest, rfl⟩ := List.exists_cons_of_ne_nil some_owed
  have positive : 0 < left := beats _ List.mem_cons_self
  rw [takeBeat]
  split_ifs with last
  · rw [owedTotal, owedTotal, List.map_cons, List.sum_cons]
    omega
  · rw [owedTotal, owedTotal, List.map_cons, List.sum_cons, List.map_cons, List.sum_cons]
    dsimp only
    omega

theorem owedTotal_append (owed later : Owed) : owedTotal (owed ++ later) = owedTotal owed + owedTotal later := by
  rw [owedTotal, List.map_append, List.sum_append]
  rfl

theorem Passes.active_of_going (passes : Passes true base s b) (away : s.seq.st ≠ .build) :
    s.seq.activeValid = true := by
  cases active : s.seq.activeValid with
  | true => rfl
  | false => exact absurd (passes.dormant active).1 away

/-- The beats owed at the next edge when no command is sent. -/
theorem Passes.owed_silent (passes : Passes true base s b) (orderly : Orderly true (s, b) i)
    (silent : s.cmdFire i = false) :
    owedTotal (b.nextOwed s i) + (if i.beatFire then 1 else 0) = owedTotal b.owed := by
  rw [PassBook.nextOwed, Executor.sent, silent, if_neg Bool.false_ne_true, List.map_nil, List.append_nil]
  cases fires : i.beatFire with
  | false => rfl
  | true => exact owedTotal_takeBeat (orderly.promised fires) fun entry mem => (passes.queued.beats entry mem).1

/-- The beats owed at the next edge when a command is sent. -/
theorem Passes.owed_sent (passes : Passes true base s b) (orderly : Orderly true (s, b) i)
    (fires : s.cmdFire i = true) :
    owedTotal (b.nextOwed s i) ≤ owedTotal b.owed + chunkOf s.inter := by
  obtain ⟨-, -, -, -, -, -, data⟩ := passes.sends fires
  have pushed : owedTotal ((s.sent i).map fun entry => (entry.1, entry.2.bytes / 64)) = chunkOf s.inter := by
    rw [Executor.sent, if_pos fires, List.map_singleton, data, Nat.mul_div_cancel_left _ (by decide)]
    exact Nat.add_zero _
  rw [PassBook.nextOwed, owedTotal_append, pushed]
  refine Nat.add_le_add_right ?_ _
  split_ifs with beat
  · have taken : owedTotal (takeBeat b.owed) + 1 = owedTotal b.owed :=
      owedTotal_takeBeat (orderly.promised beat) fun entry mem => (passes.queued.beats entry mem).1
    omega
  · exact Nat.le_refl _

/-! ## One edge -/

/-- A pass that goes on keeps its load, and leaves PREFILL when all is done. -/
structure GoesOn (base : BitVec 64) (s : Executor) (b : PassBook) (i : ExecutorIn) : Prop where
  load : (s.step true base i).seq.inter = s.seq.inter
  region : b.nextRegion true s i = b.region
  going : Going (s.step true base i) ∨ (s.step true base i).seq.st = .waitTrig
  prefill : (s.step true base i).seq.st = .prefill → s.seq.st = .prefill ∧ s.prefillDone true = false

theorem goes_on (running : i.clear = false) (going : Going s) (short : s.passEnds true = false) :
    GoesOn base s b i := by
  have away : s.seq.st ≠ .build := by rcases going with st | st <;> simp [st]
  have not_over (playing : s.seq.st = .playing) (ends : s.prefillDone true = true) : False := by
    rw [Executor.passEnds, playing, ends] at short
    exact absurd short.symm Bool.false_ne_true
  have region : b.nextRegion true s i = b.region := by
    rw [PassBook.nextRegion, running, short, Sequencer.taken_none_of_st away]
    rfl
  have moves : s.seq.Moves true i (s.prefillDone true) (s.step true base i).seq := Sequencer.moves true s.seq _ running
  cases moves with
  | plays _ _ _ _ building => exact absurd building away
  | reloads playing ends => exact (not_over playing ends).elim
  | finishes playing ends => exact (not_over playing ends).elim
  | quiet _ _ inter _ _ states =>
    cases states with
    | same st _ goes_on =>
      refine ⟨inter, region, .inl (going.imp st.trans st.trans), fun prefill => ?_⟩
      rw [st] at prefill
      exact ⟨prefill, goes_on (.inr prefill)⟩
    | started building => exact absurd building away
    | filled _ _ _ st => exact ⟨inter, region, .inl (.inr st), fun prefill => by simp [st] at prefill⟩
    | ready _ _ _ st => exact ⟨inter, region, .inr st, fun prefill => by simp [st] at prefill⟩
    | triggered waiting => rcases going with st | st <;> simp [st] at waiting

theorem request_none (nothing : ∀ channel, Used true channel → (s.lane true channel).bytesLeft = 0) :
    s.request true = none := by
  cases requests : s.request true with
  | none => rfl
  | some channel =>
    obtain ⟨used, some_left⟩ := request_some requests
    exact absurd (nothing channel used) some_left

theorem idle_stays (running : i.clear = false) (active : s.seq.activeValid = true) (st : s.pipe.cmdSt = .idle)
    (request : s.request true = none) : (s.step true base i).pipe.cmdSt = .idle := by
  have pipe : (s.step true base i).pipe = _ := pipe_running running active
  rw [pipe, Pipeline.step.eq_def, st, request]

/-- The pass comes nearer to its end, or waits for the one whose turn it is. -/
def Nearer (base : BitVec 64) (s : Executor) (b : PassBook) (i : ExecutorIn) : Prop :=
  passRank ((bookedExecutor true base).step (s, b) i) < passRank (s, b) ∨
    passRank ((bookedExecutor true base).step (s, b) i) = passRank (s, b) ∧
      waitsForCommand ((bookedExecutor true base).step (s, b) i) = waitsForCommand (s, b) ∧
      ¬ if waitsForCommand (s, b) then i.cmdReady = true else i.beatFire = true ∨ b.owed = []

/-- The rank after an edge, the load having been taken over. -/
theorem Passes.rank_next (passes : Passes true base s b) (running : i.clear = false) (on : GoesOn base s b i) :
    passRank ((bookedExecutor true base).step (s, b) i) =
      6 * ((s.step true base i).inter.bytesLeft / 64) + stageRank (s.step true base i).pipe.cmdSt +
        owedTotal (b.nextOwed s i) + if (s.step true base i).seq.st = .prefill then 1 else 0 := by
  have tog : (s.step true base i).inter.loadTogD = s.seq.inter.tog :=
    (passes.lane_sent running (fun _ => rfl : Used true 0)).1
  have taken_over : (s.step true base i).inter.loadTogD = (s.step true base i).seq.inter.tog := by
    rw [on.load]
    exact tog
  change 6 * (regionLeft (s.step true base i) / 64) + _ + _ + _ +
    (if (s.step true base i).inter.loadTogD = (s.step true base i).seq.inter.tog then 0 else 1) = _
  rw [regionLeft, if_pos taken_over, if_pos taken_over]
  rfl

theorem rank_settled (settled : s.inter.loadTogD = s.seq.inter.tog) :
    passRank (s, b) = 6 * (s.inter.bytesLeft / 64) + stageRank s.pipe.cmdSt + owedTotal b.owed +
      if s.seq.st = .prefill then 1 else 0 := by
  rw [passRank, regionLeft, if_pos settled, if_pos settled]
  rfl

theorem GoesOn.prefill_le (on : GoesOn base s b i) :
    (if (s.step true base i).seq.st = .prefill then 1 else 0) ≤ if s.seq.st = .prefill then 1 else 0 := by
  split_ifs with now before
  · exact Nat.le_refl 1
  · exact absurd (on.prefill now).1 before
  · exact Nat.zero_le _
  · exact Nat.le_refl 0

theorem Passes.inter_kept (passes : Passes true base s b) (running : i.clear = false)
    (active : s.seq.activeValid = true) (settled : s.inter.loadTogD = s.seq.inter.tog) (silent : s.cmdFire i = false) :
    (s.step true base i).inter = s.inter :=
  passes.lane_kept running active (fun _ => rfl : Used true 0) settled silent

theorem Passes.waits (passes : Passes true base s b) (orderly : Orderly true (s, b) i) (running : i.clear = false)
    (active : s.seq.activeValid = true) (on : GoesOn base s b i) (settled : s.inter.loadTogD = s.seq.inter.tog)
    (silent : s.cmdFire i = false) (same : (s.step true base i).pipe.cmdSt = s.pipe.cmdSt)
    (still : i.beatFire = false →
      ¬ if waitsForCommand (s, b) then i.cmdReady = true else i.beatFire = true ∨ b.owed = []) :
    Nearer base s b i := by
  have owed := passes.owed_silent orderly silent
  have prefill := on.prefill_le
  rw [Nearer, passes.rank_next running on, rank_settled settled, passes.inter_kept running active settled silent, same]
  cases beat : i.beatFire with
  | true =>
    left
    rw [beat, if_pos rfl] at owed
    omega
  | false =>
    rw [beat, if_neg Bool.false_ne_true, Nat.add_zero] at owed
    rw [owed]
    rcases Nat.lt_or_eq_of_le prefill with less | equal
    · left
      omega
    · rw [equal]
      refine .inr ⟨rfl, ?_, beat ▸ still beat⟩
      change ((s.step true base i).pipe.cmdSt == _) = _
      rw [same]
      rfl

theorem Passes.nearer_awaiting (passes : Passes true base s b) (orderly : Orderly true (s, b) i)
    (running : i.clear = false) (active : s.seq.activeValid = true) (on : GoesOn base s b i)
    (awaits : s.inter.loadTogD ≠ s.seq.inter.tog) (none : s.inter.bytesLeft = 0) : Nearer base s b i := by
  have nothing (channel : ChannelSel) (_ : Used true channel) : (s.lane true channel).bytesLeft = 0 := none
  obtain ⟨st, off⟩ := piped_idle passes.piped nothing
  have silent : s.cmdFire i = false := by rw [Executor.cmdFire, Pipeline.cmdFire, off, Bool.false_and]
  have loaded : (s.step true base i).inter.bytesLeft = s.seq.inter.bytes := by
    have lane : (s.step true base i).inter = _ := passes.lane_step running active (fun _ => rfl : Used true 0)
    have edge : (s.lane true 0).loadTogD ≠ (s.laneLoad true 0).tog := awaits
    rw [lane, silent, Bool.false_and, ChannelState.step, if_neg Bool.false_ne_true, ChannelState.load, if_pos edge]
    rfl
  have stays : (s.step true base i).pipe.cmdSt = .idle := idle_stays running active st (request_none nothing)
  have owed := passes.owed_silent orderly silent
  have prefill := on.prefill_le
  left
  rw [passes.rank_next running on, passRank, regionLeft, if_neg awaits, if_neg awaits, loaded, stays, st]
  dsimp only
  omega

/-- While the pipeline is idle, a command is begun, or the beats that are owed come back. -/
theorem Passes.nearer_idle (passes : Passes true base s b) (orderly : Orderly true (s, b) i) (running : i.clear = false)
    (going : Going s) (short : s.passEnds true = false) (active : s.seq.activeValid = true) (on : GoesOn base s b i)
    (settled : s.inter.loadTogD = s.seq.inter.tog) (valid : s.inter.activeValid = (s.inter.bytesLeft != 0))
    (st : s.pipe.cmdSt = .idle) (off : s.pipe.cmdValid = false) : Nearer base s b i := by
  have silent : s.cmdFire i = false := by rw [Executor.cmdFire, Pipeline.cmdFire, off, Bool.false_and]
  have kept := passes.inter_kept running active settled silent
  have owed := passes.owed_silent orderly silent
  have prefill := on.prefill_le
  have owes (some_owed : b.owed ≠ []) (beat : i.beatFire = false) :
      ¬ if waitsForCommand (s, b) then i.cmdReady = true else i.beatFire = true ∨ b.owed = [] := by
    have not_command : waitsForCommand (s, b) = false := by
      rw [waitsForCommand, st]
      rfl
    rw [not_command, if_neg Bool.false_ne_true, beat]
    exact not_or.mpr ⟨Bool.false_ne_true, some_owed⟩
  by_cases none : s.inter.bytesLeft = 0
  · have nothing (channel : ChannelSel) (_ : Used true channel) : (s.lane true channel).bytesLeft = 0 := none
    have stays : (s.step true base i).pipe.cmdSt = .idle := idle_stays running active st (request_none nothing)
    by_cases all : b.owed = []
    · -- all has come back, so the pass leaves PREFILL
      have done : s.prefillDone true = true := by
        have empty : s.retq.count = 0 := by rw [← passes.queued.length, all]; rfl
        rw [Executor.prefillDone, active, st, empty, none]
        simp
      have began : s.seq.st = .prefill := by
        rcases going with began | playing
        · exact began
        · rw [Executor.passEnds, playing, done] at short
          exact absurd short.symm Bool.false_ne_true
      have left : (s.step true base i).seq.st ≠ .prefill := fun still =>
        absurd (done.symm.trans (on.prefill still).2) Bool.noConfusion
      left
      rw [passes.rank_next running on, rank_settled settled, kept, stays, st, if_pos began, if_neg left]
      omega
    · exact passes.waits orderly running active on settled silent (stays.trans st.symm) (owes all)
  · obtain ⟨-, whole, narrow, -⟩ := passes.loaded active (fun _ => rfl : Used true 0) none
    have requests : s.request true = some 0 := by
      have beats := (chunkOf_spec none whole).1
      have width : s.inter.interChunkBeatsW = chunkOf s.inter := @laneBeats_eq true s 0 narrow
      rw [Executor.request, if_pos rfl, active, valid, width, if_pos]
      simp only [Bool.true_and, Bool.and_eq_true, bne_iff_ne]
      exact ⟨⟨none, none⟩, by omega⟩
    have pipe : (s.step true base i).pipe = _ := pipe_running running active
    rw [Pipeline.step.eq_def, st, requests] at pipe
    dsimp only at pipe
    split_ifs at pipe with full
    · have some_owed : b.owed ≠ [] := by
        intro all
        have empty : s.retq.count = 0 := by rw [← passes.queued.length, all]; rfl
        rw [ReturnQueue.full, empty] at full
        exact absurd full (by decide)
      exact passes.waits orderly running active on settled silent (by rw [pipe, st]) (owes some_owed)
    · left
      rw [passes.rank_next running on, rank_settled settled, kept, pipe, st, stageRank, stageRank]
      omega

/-- A command that is made comes nearer to being sent. -/
theorem Passes.nearer_working (passes : Passes true base s b) (orderly : Orderly true (s, b) i)
    (running : i.clear = false) (active : s.seq.activeValid = true) (on : GoesOn base s b i)
    (settled : s.inter.loadTogD = s.seq.inter.tog) (none : s.inter.bytesLeft ≠ 0) (used : Used true s.pipe.reqSel)
    (makes : s.pipe.Makes base s.inter) : Nearer base s b i := by
  have prefill := on.prefill_le
  have pipe : (s.step true base i).pipe = _ := pipe_running running active
  cases makes with
  | stage st off | prep st off =>
    have silent : s.cmdFire i = false := by rw [Executor.cmdFire, Pipeline.cmdFire, off, Bool.false_and]
    have owed := passes.owed_silent orderly silent
    rw [Pipeline.step.eq_def, st] at pipe
    left
    rw [passes.rank_next running on, rank_settled settled, passes.inter_kept running active settled silent, pipe, st,
      stageRank, stageRank]
    omega
  | sendCmd st valid made data =>
    rw [Pipeline.step.eq_def, st] at pipe
    dsimp only at pipe
    cases fires : s.cmdFire i with
    | false =>
      have unsent : s.pipe.cmdFire i = false := fires
      rw [unsent, if_neg Bool.false_ne_true] at pipe
      refine passes.waits orderly running active on settled fires (by rw [pipe]) fun _ => ?_
      rw [waitsForCommand, st, beq_self_eq_true, if_pos rfl]
      rw [Pipeline.cmdFire, valid, Bool.true_and] at unsent
      exact Bool.not_eq_true _ ▸ unsent
    | true =>
      have sent_now : s.pipe.cmdFire i = true := fires
      rw [if_pos sent_now] at pipe
      have owed := passes.owed_sent orderly fires
      obtain ⟨-, whole, narrow, -⟩ := passes.loaded active (fun _ => rfl : Used true 0) none
      obtain ⟨positive, -, within⟩ := chunkOf_spec none whole
      have shorter : (s.step true base i).inter.bytesLeft = s.inter.bytesLeft - 64 * chunkOf s.inter := by
        have lane : (s.step true base i).inter = _ := passes.lane_step running active (fun _ => rfl : Used true 0)
        have remains : (s.inter.bytesLeft + 2 ^ 64 - 64 * chunkOf s.inter) % 2 ^ 64 =
            s.inter.bytesLeft - 64 * chunkOf s.inter := by
          change s.inter.bytesLeft < 2 ^ 35 at narrow
          omega
        rw [lane, fires, used rfl, made.bytes]
        exact remains
      left
      rw [passes.rank_next running on, rank_settled settled, shorter, pipe, st, stageRank, stageRank]
      omega

theorem Passes.nearer (passes : Passes true base s b) (orderly : Orderly true (s, b) i) (running : i.clear = false)
    (going : Going s) (short : s.passEnds true = false) : Nearer base s b i := by
  have away : s.seq.st ≠ .build := by rcases going with st | st <;> simp [st]
  have active := passes.active_of_going away
  have on : GoesOn base s b i := goes_on running going short
  cases passes.lanes active 0 (fun _ => rfl) with
  | awaiting edge _ _ _ idle => exact passes.nearer_awaiting orderly running active on edge idle
  | settled _ edge sent =>
    cases passes.piped with
    | idle st off => exact passes.nearer_idle orderly running going short active on edge sent.active st off
    | working used _ some_left _ makes =>
      exact passes.nearer_working orderly running active on edge some_left used makes

/-! ## Passes end -/

end Xczu47dr.Bandwidth
