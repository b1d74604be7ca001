import Xczu47dr.Clocked.Machine
import Xczu47dr.Playback.DacStream

/-! # The words of the DAC stream

Each enabled lane passes on the words of its FIFO in order and once each; the
common position follows the slowest of them.
-/

namespace Xczu47dr.Playback

/-- What the stream samples, with the words at the heads of the FIFOs. -/
structure WordsIn where
  control : DacStreamIn
  fifoData : Channel → BitVec 256

namespace DacStream

variable (s : DacStream) (i : WordsIn) (ch : Channel)

def shows : Bool :=
  s.active i.control && i.control.channelMask ch && !s.sent ch && !s.silencePending ch

def dacData : BitVec 256 := if s.shows i ch then i.fifoData ch else 0

def dacLast : Bool := s.shows i ch && s.beatLast i.control

def fifoReady : Bool :=
  s.fire i.control ch || (!i.control.channelMask ch && s.beatFire i.control && i.control.fifoValid ch)

/-- The AXI transfers of a lane, with `dac_last`. -/
def transfers : List (BitVec 256 × Bool) :=
  if s.dacValid i.control ch && i.control.dacReady ch then [(s.dacData i ch, s.dacLast i ch)] else []

/-- The words taken from the FIFO of a lane. -/
def reads : List (BitVec 256) := if s.fifoReady i ch then [i.fifoData ch] else []

/-- The beats completed, with `beat_last`. -/
def beats : List Bool := if s.beatFire i.control then [s.beatLast i.control] else []

/-- The words of this session that the lane has transferred. -/
def position : Nat := s.beatPosition.toNat + (s.sent ch).toNat

end DacStream

def dacStream : Clocked.Machine WordsIn DacStream where
  reset := .reset
  step s i := s.step i.control

namespace DacStream

/-- The FIFO of the lane shows its words in order: `k` have been read, and the next one is shown. -/
def Fed (words : Nat → BitVec 256) (ch : Channel) : Nat → DacStream → List WordsIn → Prop
  | _, _, [] => True
  | k, s, i :: is =>
    (i.control.fifoValid ch = true → i.fifoData ch = words k) ∧
      Fed words ch (k + (s.fifoReady i ch).toNat) (s.step i.control) is

/-- A cycle of a session that plays a descriptor. -/
structure Playing (mask : Channel → Bool) (totalBeats : BitVec 32) (i : WordsIn) : Prop where
  playing : i.control.playing = true
  uncleared : i.control.clear = false
  mask : i.control.channelMask = mask
  total : i.control.totalBeats = totalBeats

/-- What holds while a descriptor is played. -/
structure Tracked (mask : Channel → Bool) (totalBeats : BitVec 32) (s : DacStream) : Prop where
  within : s.beatPosition.toNat ≤ totalBeats.toNat
  sent : ∀ ch, s.sent ch = true → mask ch = true ∧ s.beatPosition.toNat < totalBeats.toNat

variable {mask : Channel → Bool} {totalBeats : BitVec 32} {s : DacStream} {i : WordsIn} {ch : Channel}

/-! ## One cycle -/

theorem beatFire_iff : s.beatFire i.control = true ↔ s.active i.control = true ∧
    ∀ ch, i.control.channelMask ch = true → s.sent ch = true ∨ s.fire i.control ch = true := by
  rw [beatFire, Bool.and_eq_true, Bool.not_eq_true', anyLane_eq_false]
  refine and_congr_right fun _ => forall_congr' fun ch => ?_
  cases i.control.channelMask ch <;> cases s.sent ch <;> simp

theorem within_of_active (active : s.active i.control = true) :
    s.beatPosition.toNat < i.control.totalBeats.toNat := by
  simp only [DacStream.active, Bool.and_eq_true, decide_eq_true_eq] at active
  exact BitVec.lt_def.mp active.1.2

theorem toNat_advance (active : s.active i.control = true) :
    (s.beatPosition + 1).toNat = s.beatPosition.toNat + 1 := by
  have within := within_of_active active
  have bounded := i.control.totalBeats.isLt
  rw [BitVec.toNat_add]
  exact Nat.mod_eq_of_lt (by simp only [BitVec.reduceToNat]; omega)

theorem fire_iff : s.fire i.control ch = true ↔ s.active i.control = true ∧ i.control.channelMask ch = true ∧
    s.sent ch = false ∧ s.silencePending ch = false ∧ i.control.fifoValid ch = true ∧
    i.control.dacReady ch = true := by
  simp only [fire, need, Bool.and_eq_true, Bool.not_eq_true', and_assoc]

theorem step_of_unclear (uncleared : i.control.clear = false) :
    (s.step i.control).beatPosition = (if s.beatFire i.control then s.beatPosition + 1 else s.beatPosition) ∧
      (s.step i.control).sent =
        (if s.beatFire i.control then fun _ => false else fun ch => s.sent ch || s.fire i.control ch) := by
  unfold DacStream.step
  simp only [uncleared]
  exact ⟨rfl, rfl⟩

theorem silencePending_step (plays : i.control.playing = true) :
    (s.step i.control).silencePending ch = (s.silencePending ch && !i.control.dacReady ch) := by
  have next : (s.step i.control).silencePending ch =
      if s.silencePending ch && i.control.dacReady ch then false else s.silencePending ch := by
    unfold DacStream.step
    simp only [plays]
    split <;> rfl
  rw [next]
  cases s.silencePending ch <;> cases i.control.dacReady ch <;> rfl

theorem Tracked.step (tracked : Tracked mask totalBeats s) (plays : Playing mask totalBeats i) :
    Tracked mask totalBeats (s.step i.control) := by
  obtain ⟨position, sent⟩ := step_of_unclear (s := s) plays.uncleared
  cases beat : s.beatFire i.control with
  | true =>
    rw [beat, if_pos rfl] at position sent
    have active := (beatFire_iff.mp beat).1
    refine ⟨?_, ?_⟩
    · rw [position, toNat_advance active, ← plays.total]
      exact within_of_active active
    · intro ch shown
      rw [sent] at shown
      cases shown
  | false =>
    rw [beat, if_neg Bool.false_ne_true] at position sent
    refine ⟨by rw [position]; exact tracked.within, ?_⟩
    intro ch shown
    rw [sent] at shown
    rw [position]
    rcases Bool.or_eq_true_iff.mp shown with before | now
    · exact tracked.sent ch before
    · obtain ⟨active, enabled, -⟩ := fire_iff.mp now
      rw [← plays.mask, ← plays.total]
      exact ⟨enabled, within_of_active active⟩

/-- An enabled lane goes on by the word it passes on. -/
theorem position_step (plays : Playing mask totalBeats i) (enabled : mask ch = true) :
    (s.step i.control).position ch = s.position ch + (s.fire i.control ch).toNat := by
  obtain ⟨position, sent⟩ := step_of_unclear (s := s) plays.uncleared
  have exclusive (now : s.fire i.control ch = true) : s.sent ch = false := (fire_iff.mp now).2.2.1
  unfold DacStream.position
  cases beat : s.beatFire i.control with
  | true =>
    rw [beat, if_pos rfl] at position sent
    obtain ⟨active, complete⟩ := beatFire_iff.mp beat
    rw [position, sent, toNat_advance active]
    rw [plays.mask] at complete
    -- the lane is among those that complete the beat, in this cycle or before it
    rcases complete ch enabled with before | now
    · have idle : s.fire i.control ch = false := by
        cases fires : s.fire i.control ch with
        | false => rfl
        | true => exact absurd ((exclusive fires).symm.trans before) Bool.false_ne_true
      rw [before, idle]
      rfl
    · rw [exclusive now, now]
      rfl
  | false =>
    rw [beat, if_neg Bool.false_ne_true] at position sent
    rw [position, sent]
    cases fires : s.fire i.control ch with
    | false => simp [fires]
    | true => simp [fires, exclusive fires]

theorem dacLast_of_shows (shown : s.shows i ch = true) (plays : Playing mask totalBeats i) :
    s.dacLast i ch = decide (s.position ch + 1 = totalBeats.toNat) := by
  simp only [shows, Bool.and_eq_true, Bool.not_eq_true'] at shown
  obtain ⟨⟨⟨active, enabled⟩, unsent⟩, started⟩ := shown
  simp only [dacLast, shows, active, enabled, unsent, started, beatLast, position, Bool.not_false, Bool.and_self,
    Bool.true_and, Bool.toNat_false, Nat.add_zero, plays.total]
  refine decide_eq_decide.mpr ?_
  rw [← BitVec.toNat_inj, toNat_advance active]

theorem shows_of_fire (fires : s.fire i.control ch = true) : s.shows i ch = true := by
  obtain ⟨active, enabled, unsent, started, -⟩ := fire_iff.mp fires
  simp [shows, active, enabled, unsent, started]

theorem dacValid_of_started (plays : i.control.playing = true) (enabled : i.control.channelMask ch = true)
    (started : s.silencePending ch = false) :
    s.dacValid i.control ch = (s.shows i ch && i.control.fifoValid ch) := by
  simp [dacValid, shows, plays, enabled, started]

/-- A stalled zero beat is the only transfer of its lane until it is taken. -/
theorem transfers_of_pending (pending : s.silencePending ch = true) :
    s.transfers i ch = if i.control.dacReady ch then [(0, false)] else [] := by
  simp [transfers, dacValid, dacData, dacLast, shows, pending]

theorem transfers_of_started (plays : Playing mask totalBeats i) (enabled : mask ch = true)
    (started : s.silencePending ch = false) :
    s.transfers i ch =
      if s.fire i.control ch then [(i.fifoData ch, decide (s.position ch + 1 = totalBeats.toNat))] else [] := by
  have valid : (s.dacValid i.control ch && i.control.dacReady ch) = s.fire i.control ch := by
    simp [dacValid, fire, need, plays.playing, plays.mask, enabled, started, Bool.and_assoc]
  rw [transfers, valid]
  cases fires : s.fire i.control ch with
  | false => rfl
  | true =>
    have shown := shows_of_fire fires
    rw [if_pos rfl, if_pos rfl, dacData, if_pos shown, dacLast_of_shows shown plays]

theorem fifoReady_of_enabled (plays : Playing mask totalBeats i) (enabled : mask ch = true) :
    s.fifoReady i ch = s.fire i.control ch := by
  simp [fifoReady, plays.mask, enabled]

theorem fire_of_pending (pending : s.silencePending ch = true) : s.fire i.control ch = false := by
  simp [fire, pending]

/-! ## Runs -/

/-- What an enabled lane transfers and reads in a run, a stalled zero beat first. -/
theorem lane_run {words : Nat → BitVec 256} (enabled : mask ch = true) (is : List WordsIn)
    (tracked : Tracked mask totalBeats s) (plays : ∀ i ∈ is, Playing mask totalBeats i)
    (fed : Fed words ch (s.position ch) s is) :
    ∃ m, (dacStream.run s is).position ch = s.position ch + m ∧
      dacStream.log (fun s i => s.transfers i ch) s is =
        (if s.silencePending ch && !(dacStream.run s is).silencePending ch then [(0, false)] else []) ++
          (List.range' (s.position ch) m).map (fun k => (words k, decide (k + 1 = totalBeats.toNat))) ∧
      dacStream.log (fun s i => s.reads i ch) s is = (List.range' (s.position ch) m).map words ∧
      ((dacStream.run s is).silencePending ch = true → s.silencePending ch = true ∧ m = 0) := by
  induction is generalizing s with
  | nil => exact ⟨0, rfl, by simp, rfl, fun pending => ⟨pending, rfl⟩⟩
  | cons i is ih =>
    have now := plays i List.mem_cons_self
    have ready := fifoReady_of_enabled (s := s) now enabled
    have moves := position_step (s := s) now enabled
    obtain ⟨shown, rest⟩ := fed
    rw [ready, ← moves] at rest
    obtain ⟨m, position, sends, takes, first⟩ :=
      ih (tracked.step now) (fun j mem => plays j (List.mem_cons_of_mem _ mem)) rest
    have silence : (s.step i.control).silencePending ch = (s.silencePending ch && !i.control.dacReady ch) :=
      silencePending_step now.playing
    have ends : dacStream.run s (i :: is) = dacStream.run (s.step i.control) is := rfl
    have sent : dacStream.log (fun s i => s.transfers i ch) s (i :: is) =
        s.transfers i ch ++ dacStream.log (fun s i => s.transfers i ch) (s.step i.control) is := rfl
    have taken : dacStream.log (fun s i => s.reads i ch) s (i :: is) =
        s.reads i ch ++ dacStream.log (fun s i => s.reads i ch) (s.step i.control) is := rfl
    rw [ends, sent, taken]
    generalize dacStream.run (s.step i.control) is = last at position sends takes first ⊢
    cases pending : s.silencePending ch with
    | true =>
      have idle := fire_of_pending (i := i) pending
      rw [idle] at moves ready
      refine ⟨m, position.trans (congrArg (· + m) moves), ?_, ?_, ?_⟩
      · rw [transfers_of_pending pending, sends, moves, silence, pending]
        cases accepted : i.control.dacReady ch with
        | true =>
          have ended : last.silencePending ch = false := by
            cases stays : last.silencePending ch with
            | false => rfl
            | true => exact absurd (first stays).1 (by simp [silence, accepted])
          simp [ended]
        | false => simp
      · rw [DacStream.reads, ready, takes, moves]
        rfl
      · intro stays
        exact ⟨rfl, (first stays).2⟩
    | false =>
      have ended : last.silencePending ch = false := by
        cases stays : last.silencePending ch with
        | false => rfl
        | true => exact absurd (first stays).1 (by simp [silence, pending])
      rw [silence, pending] at sends
      have word := transfers_of_started (s := s) now enabled pending
      cases fires : s.fire i.control ch with
      | true =>
        have head := shown (fire_iff.mp fires).2.2.2.2.1
        rw [fires] at moves ready word
        refine ⟨m + 1, ?_, ?_, ?_, ?_⟩
        · rw [position, moves]
          exact Nat.add_assoc _ 1 m ▸ (by simp [Nat.add_comm])
        · rw [word, sends, moves, head]
          simp [List.range'_succ]
        · rw [DacStream.reads, ready, takes, moves, head]
          simp [List.range'_succ]
        · intro stays
          exact absurd (ended.symm.trans stays) Bool.false_ne_true
      | false =>
        rw [fires] at moves ready word
        refine ⟨m, position.trans (congrArg (· + m) moves), ?_, ?_, ?_⟩
        · rw [word, sends, moves]
          simp
        · rw [DacStream.reads, ready, takes, moves]
          rfl
        · intro stays
          exact absurd (ended.symm.trans stays) Bool.false_ne_true

theorem Tracked.run {is : List WordsIn} (tracked : Tracked mask totalBeats s)
    (plays : ∀ i ∈ is, Playing mask totalBeats i) : Tracked mask totalBeats (dacStream.run s is) := by
  induction is generalizing s with
  | nil => exact tracked
  | cons i is ih =>
    exact ih (tracked.step (plays i List.mem_cons_self)) fun j mem => plays j (List.mem_cons_of_mem _ mem)

theorem beats_run (is : List WordsIn) (plays : ∀ i ∈ is, Playing mask totalBeats i) :
    ∃ b, (dacStream.run s is).beatPosition.toNat = s.beatPosition.toNat + b ∧
      dacStream.log beats s is =
        (List.range' s.beatPosition.toNat b).map fun k => decide (k + 1 = totalBeats.toNat) := by
  induction is generalizing s with
  | nil => exact ⟨0, rfl, rfl⟩
  | cons i is ih =>
    have now := plays i List.mem_cons_self
    obtain ⟨position, -⟩ := step_of_unclear (s := s) now.uncleared
    obtain ⟨b, ends, marks⟩ := ih (s := s.step i.control) fun j mem => plays j (List.mem_cons_of_mem _ mem)
    have last : dacStream.run s (i :: is) = dacStream.run (s.step i.control) is := rfl
    have logged : dacStream.log beats s (i :: is) = s.beats i ++ dacStream.log beats (s.step i.control) is := rfl
    rw [last, logged, ends, marks, beats]
    cases beat : s.beatFire i.control with
    | true =>
      have active := (beatFire_iff.mp beat).1
      have mark : s.beatLast i.control = decide (s.beatPosition.toNat + 1 = totalBeats.toNat) := by
        refine decide_eq_decide.mpr ?_
        rw [← BitVec.toNat_inj, toNat_advance active, now.total]
      rw [position, beat, if_pos rfl, if_pos rfl, toNat_advance active, mark]
      refine ⟨b + 1, by omega, ?_⟩
      rw [List.range'_succ]
      rfl
    | false =>
      rw [position, beat, if_neg Bool.false_ne_true, if_neg Bool.false_ne_true]
      exact ⟨b, rfl, rfl⟩

/-- Nothing of a descriptor has been sent. -/
structure Cleared (s : DacStream) : Prop where
  sent : s.sent = fun _ => false
  beatPosition : s.beatPosition = 0

theorem cleared_of_clear (clears : i.control.clear = true) : Cleared (s.step i.control) := by
  unfold DacStream.step
  rw [if_pos clears]
  exact ⟨rfl, rfl⟩

theorem Cleared.idle (cleared : Cleared s) (rests : i.control.playing = false) : Cleared (s.step i.control) := by
  cases clears : i.control.clear with
  | true => exact cleared_of_clear clears
  | false =>
    obtain ⟨position, sent⟩ := step_of_unclear (s := s) clears
    have inactive : s.active i.control = false := by simp [active, rests]
    have idle : s.beatFire i.control = false := by simp [beatFire, inactive]
    rw [idle, if_neg Bool.false_ne_true] at position sent
    refine ⟨?_, position.trans cleared.beatPosition⟩
    rw [sent, cleared.sent]
    funext ch
    simp [fire, inactive]

theorem Cleared.tracked (cleared : Cleared s) : Tracked mask totalBeats s := by
  refine ⟨by simp [cleared.beatPosition], fun ch shown => ?_⟩
  rw [cleared.sent] at shown
  cases shown

theorem silencePending_idle (rests : i.control.playing = false) :
    (s.step i.control).silencePending ch = !i.control.dacReady ch := by
  unfold DacStream.step
  simp only [rests]
  split <;> rfl

/-- What the lanes have done when the inputs `is` of a session, which begins in the state `s`, have
been taken; `stalled` are the lanes whose last zero beat before it was not. -/
structure Delivered (mask : Channel → Bool) (totalBeats : BitVec 32) (words : Channel → Nat → BitVec 256)
    (stalled : Channel → Bool) (s : DacStream) (is : List WordsIn) : Prop where
  lanes : ∀ ch, mask ch = true → ∃ sent, sent ≤ totalBeats.toNat ∧
    (sent = (dacStream.run s is).beatPosition.toNat ∨ sent = (dacStream.run s is).beatPosition.toNat + 1) ∧
    dacStream.log (fun s i => s.transfers i ch) s is =
      (if stalled ch && !(dacStream.run s is).silencePending ch then [(0, false)] else []) ++
        (List.range sent).map (fun k => (words ch k, decide (k + 1 = totalBeats.toNat))) ∧
    dacStream.log (fun s i => s.reads i ch) s is = (List.range sent).map (words ch) ∧
    (stalled ch = true → (dacStream.run s is).silencePending ch = true → sent = 0)
  beats : (dacStream.run s is).beatPosition.toNat ≤ totalBeats.toNat ∧
    dacStream.log beats s is =
      (List.range (dacStream.run s is).beatPosition.toNat).map fun k => decide (k + 1 = totalBeats.toNat)
  silent : ∀ ch, mask ch = false → ∀ earlier i later, is = earlier ++ i :: later →
    (dacStream.run s earlier).dacData i ch = 0
  own : ∀ ch earlier i later, is = earlier ++ i :: later → (dacStream.run s earlier).fifoReady i ch = true →
    i.control.fifoValid ch = true ∧
      (mask ch = true → (dacStream.run s earlier).dacValid i.control ch = true ∧ i.control.dacReady ch = true)

theorem fifoReady_own (plays : Playing mask totalBeats i) (ready : s.fifoReady i ch = true) :
    i.control.fifoValid ch = true ∧
      (mask ch = true → s.dacValid i.control ch = true ∧ i.control.dacReady ch = true) := by
  rw [fifoReady, Bool.or_eq_true_iff] at ready
  rcases ready with fires | discards
  · obtain ⟨active, enabled, unsent, started, valid, taken⟩ := fire_iff.mp fires
    exact ⟨valid, fun _ => ⟨by simp [dacValid, active, unsent, valid], taken⟩⟩
  · simp only [Bool.and_eq_true, Bool.not_eq_true', plays.mask] at discards
    exact ⟨discards.2, fun enabled => absurd (discards.1.1.symm.trans enabled) Bool.false_ne_true⟩

/-- Every lane passes on its words once each, in order, and no further than the others. -/
theorem words_delivered {words : Channel → Nat → BitVec 256} (idle : WordsIn) {is : List WordsIn}
    (rests : idle.control.playing = false) (cleared : idle.control.clear = true ∨ Cleared s)
    (plays : ∀ i ∈ is, Playing mask totalBeats i)
    (fed : ∀ ch, mask ch = true → Fed (words ch) ch 0 (s.step idle.control) is) :
    Delivered mask totalBeats words (fun ch => !idle.control.dacReady ch) (s.step idle.control) is := by
  have start : Cleared (s.step idle.control) := by
    rcases cleared with clears | before
    · exact cleared_of_clear clears
    · exact before.idle rests
  have tracked : Tracked mask totalBeats (s.step idle.control) := start.tracked
  have ends := tracked.run plays
  have first (ch : Channel) : (s.step idle.control).position ch = 0 := by
    rw [DacStream.position, start.sent, start.beatPosition]
    rfl
  refine ⟨?_, ?_, ?_, ?_⟩
  · intro ch enabled
    obtain ⟨sent, position, sends, takes, waits⟩ :=
      lane_run enabled is tracked plays ((first ch).symm ▸ fed ch enabled)
    rw [first, Nat.zero_add] at position
    rw [first, ← List.range_eq_range'] at sends takes
    rw [silencePending_idle rests] at sends
    refine ⟨sent, ?_, ?_, sends, takes, fun _ pending => (waits pending).2⟩
    · rw [← position, DacStream.position]
      cases last : (dacStream.run (s.step idle.control) is).sent ch with
      | true => exact (ends.sent ch last).2
      | false => exact ends.within
    · rw [← position, DacStream.position]
      cases (dacStream.run (s.step idle.control) is).sent ch with
      | true => exact .inr rfl
      | false => exact .inl rfl
  · obtain ⟨b, position, marks⟩ := beats_run (s := s.step idle.control) is plays
    have zero : (s.step idle.control).beatPosition.toNat = 0 := by simp [start.beatPosition]
    rw [zero, Nat.zero_add] at position
    rw [zero, ← List.range_eq_range'] at marks
    rw [position]
    exact ⟨position ▸ ends.within, marks⟩
  · intro ch disabled earlier i later split
    have now := plays i (by rw [split]; simp)
    simp [dacData, shows, now.mask, disabled]
  · intro ch earlier i later split ready
    exact fifoReady_own (plays i (by rw [split]; simp)) ready

/-- A cycle in which every FIFO shows the word 1. -/
def oneWord (playing ready : Bool) : WordsIn where
  control :=
    { playing, clear := false, channelMask := fun ch => ch = 0, totalBeats := 1, fifoValid := fun _ => true,
      dacReady := fun _ => ready }
  fifoData := fun _ => 1

/-- The stalled zero beat of the idle cycle, and then the word -/
theorem oneWord_delivered :
    Delivered (fun ch => ch = 0) 1 (fun _ _ => 1) (fun _ => true) (reset.step (oneWord false false).control)
      [oneWord true true, oneWord true true] := by
  refine words_delivered (s := reset) (oneWord false false) rfl (.inr ⟨rfl, rfl⟩) ?_ ?_
  · intro i mem
    rcases List.mem_cons.mp mem with rfl | mem
    · exact ⟨rfl, rfl, rfl, rfl⟩
    · rcases List.mem_cons.mp mem with rfl | none
      · exact ⟨rfl, rfl, rfl, rfl⟩
      · cases none
  · exact fun ch _ => ⟨fun _ => rfl, fun _ => rfl, trivial⟩

end DacStream

end Xczu47dr.Playback
