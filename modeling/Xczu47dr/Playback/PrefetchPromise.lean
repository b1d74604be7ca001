import Xczu47dr.Playback.DdrPath

/-! # The promise of a prefetched waveform

What the level of the DDR domain says of the FIFOs.  A ledger beside the path knows whose
frames they hold: it counts the BEGINs, remembers the one the reader was last started under,
and counts the frames of the present descriptor from the last clear, COMMIT or restart on.
-/

namespace Xczu47dr.Playback

/-- The frames of the present descriptor; a descriptor stands from its BEGIN on. -/
structure FrameLedger where
  descriptor : Nat
  reading : Nat
  written : Nat

structure PromisedPath (Word : Type) where
  path : DdrPath Word
  ledger : FrameLedger

namespace PromisedPath

variable {Word : Type} (p : DdrPathParams) (s : PromisedPath Word) (i : DdrPathIn Word)

def reset [Inhabited Word] : PromisedPath Word := ⟨.reset, ⟨0, 0, 0⟩⟩

def starts : Bool := s.path.reader.takes (s.path.readerIn i)

def descriptorAfter : Nat := s.ledger.descriptor + i.beginCmd.toNat

/-- The frame that is written in this cycle is of the present descriptor. -/
def writesOwn : Bool := s.path.readerFrameFire i && decide (s.ledger.reading = s.ledger.descriptor)

/-- Nothing that was written so far counts from here. -/
def forgets : Bool := i.beginCmd || i.commitCmd || s.path.loopRestartStart || s.path.fifoClear

def account : FrameLedger where
  descriptor := s.descriptorAfter i
  reading := if s.starts i then s.descriptorAfter i else s.ledger.reading
  written := if s.forgets i then 0 else s.ledger.written + (s.writesOwn i).toNat

def step : PromisedPath Word := ⟨s.path.step p i, s.account i⟩

def promises : Bool := (s.path.step p i).prefetchSafe

/-- Where the level is high, there was no error, and the FIFOs hold what it promises. -/
def Kept : Prop :=
  s.promises p i = true → s.path.reader.error = false ∧ DdrPath.prefetchTarget p i ≤ (s.account i).written

instance : Decidable (s.Kept p i) := inferInstanceAs (Decidable (_ → _))

/-- The reader has not been started since the last BEGIN. -/
def stale : Bool := decide (s.ledger.reading ≠ s.ledger.descriptor)

/-- A level that is about to be raised belongs to what the reader was started for, and
    nothing starts anew in this cycle. -/
def Undisturbed : Prop := s.promises p i = true → s.forgets i = false ∧ s.stale = false

instance : Decidable (s.Undisturbed p i) := inferInstanceAs (Decidable (_ → _))

/-- The count is one of frames of the present descriptor, but for a frame that a cancelled
    reader still presented. -/
structure Counted : Prop where
  reader : s.path.reader.Inv p.reader
  own : s.ledger.reading = s.ledger.descriptor → s.path.prefetchedBeats ≤ s.ledger.written
  none : s.ledger.reading ≠ s.ledger.descriptor → s.ledger.written = 0
  cancelled : s.ledger.reading ≠ s.ledger.descriptor → s.path.reader.busy = true → s.path.reader.cancelled = true
  one : s.ledger.reading ≠ s.ledger.descriptor →
    s.path.prefetchedBeats + s.path.reader.frameValid.toNat ≤ 1

end PromisedPath

def promisedPath (Word : Type) [Inhabited Word] (p : DdrPathParams) :
    Clocked.Machine (DdrPathIn Word) (PromisedPath Word) where
  reset := .reset
  step s i := s.step p i

namespace PromisedPath

variable {Word : Type} {p : DdrPathParams} {s : PromisedPath Word} {i : DdrPathIn Word}

theorem counted_reset [Inhabited Word] : (reset : PromisedPath Word).Counted p where
  reader := DdrReader.inv_reset
  own _ := Nat.le_refl 0
  none _ := rfl
  cancelled := fun bad => absurd rfl bad
  one := fun bad => absurd rfl bad

/-- Whatever the ledger forgets is not counted either. -/
theorem recounts_of_forgets (forgets : s.forgets i = true) : (s.path.recounts i || s.path.fifoClear) = true := by
  simp only [PromisedPath.forgets, Bool.or_eq_true] at forgets
  simp only [DdrPath.recounts, DdrPath.readerCancel, Bool.or_eq_true]
  tauto

theorem forgets_of_starts (starts : s.starts i = true) : s.forgets i = true := by
  simp only [PromisedPath.starts, DdrReader.takes, DdrPath.readerIn, DdrPath.readerStart, Bool.and_eq_true,
    Bool.or_eq_true] at starts
  simp only [PromisedPath.forgets, Bool.or_eq_true]
  tauto

theorem prefetchedBeats_forgotten (forgets : s.forgets i = true) : (s.path.step p i).prefetchedBeats = 0 :=
  if_pos (recounts_of_forgets forgets)

theorem written_forgotten (forgets : s.forgets i = true) : (s.account i).written = 0 := if_pos forgets

theorem prefetchedBeats_le (s : PromisedPath Word) (i : DdrPathIn Word) :
    (s.path.step p i).prefetchedBeats ≤ s.path.prefetchedBeats + (s.path.readerFrameFire i).toNat := by
  change (if _ then _ else if _ then _ else _) ≤ _
  split_ifs with recounts fire
  · exact Nat.zero_le _
  · rw [fire.1]
    exact Nat.le_refl _
  · exact Nat.le_add_right _ _

/-- Without a BEGIN and a start, frames are of the descriptor they were of. -/
theorem account_same (quiet : i.beginCmd = false) (resting : s.starts i = false) :
    (s.account i).reading = s.ledger.reading ∧ (s.account i).descriptor = s.ledger.descriptor := by
  rw [account, descriptorAfter, quiet, resting]
  exact ⟨rfl, rfl⟩

/-- A reader without the present descriptor goes on draining. -/
theorem cancelled_step (resting : s.starts i = false)
    (cancelled : i.beginCmd = true ∨ (s.path.reader.busy = true → s.path.reader.cancelled = true))
    (busy : (s.path.step p i).reader.busy = true) : (s.path.step p i).reader.cancelled = true := by
  change (s.path.reader.step p.reader (s.path.readerIn i)).busy = true at busy
  change (s.path.reader.step p.reader (s.path.readerIn i)).cancelled = true
  cases before : s.path.reader.busy with
  | false =>
    rw [DdrReader.step_resting before resting] at busy
    exact absurd (before.symm.trans busy) Bool.false_ne_true
  | true =>
    rw [DdrReader.step_of_busy before]
    change (s.path.reader.cancelled || DdrPath.readerCancel i) = true
    cases cancelled with
    | inl begins => simp [DdrPath.readerCancel, begins]
    | inr already => simp [already before]

/-- A cancelled reader only delivers what it presents. -/
theorem frameValid_step (inv : s.path.reader.Inv p.reader) (resting : s.starts i = false)
    (cancelled : s.path.reader.busy = true → s.path.reader.cancelled = true) :
    (s.path.step p i).reader.frameValid.toNat + (s.path.readerFrameFire i).toNat ≤ s.path.reader.frameValid.toNat := by
  change (s.path.reader.step p.reader (s.path.readerIn i)).frameValid.toNat +
    (s.path.reader.frameFire (s.path.readerIn i)).toNat ≤ _
  cases busy : s.path.reader.busy with
  | false =>
    rw [DdrReader.step_resting busy resting, DdrReader.frameFire, (inv.quiet busy).frameValid]
    exact Nat.le_refl 0
  | true =>
    have drains : s.path.reader.draining (s.path.readerIn i) = true := by
      simp [DdrReader.draining, cancelled busy]
    rw [DdrReader.step_of_busy busy]
    simp only [DdrReader.advance, drains, Bool.not_true, Bool.and_false, Bool.false_and, Bool.false_eq_true, if_false]
    cases valid : s.path.reader.frameValid with
    | false => simp [DdrReader.frameFire, valid]
    | true =>
      cases s.path.reader.frameFire (s.path.readerIn i) with
      | false => exact Nat.le_refl 1
      | true => exact Nat.le_refl 1

theorem Counted.step (counted : s.Counted p) (i : DdrPathIn Word) : (s.step p i).Counted p := by
  have count := @prefetchedBeats_le Word p s i
  have inv : (s.step p i).path.reader.Inv p.reader := counted.reader.step
  -- a descriptor that is not being read now was not before, unless this is its BEGIN
  have before : (s.account i).reading ≠ (s.account i).descriptor → s.starts i = false ∧
      (i.beginCmd = true ∨ s.ledger.reading ≠ s.ledger.descriptor) := by
    intro other
    cases starts : s.starts i with
    | true => exact absurd (if_pos starts) other
    | false =>
      refine ⟨rfl, ?_⟩
      cases begins : i.beginCmd with
      | true => exact .inl rfl
      | false =>
        obtain ⟨reading, descriptor⟩ := account_same begins starts
        rw [reading, descriptor] at other
        exact .inr other
  constructor
  · exact inv
  · intro own
    change (s.account i).reading = (s.account i).descriptor at own
    change (s.path.step p i).prefetchedBeats ≤ (s.account i).written
    cases forgets : s.forgets i with
    | true =>
      rw [prefetchedBeats_forgotten forgets]
      exact Nat.zero_le _
    | false =>
      have quiet : i.beginCmd = false ∧ s.starts i = false := by
        constructor
        · simp only [PromisedPath.forgets, Bool.or_eq_false_iff] at forgets
          exact forgets.1.1.1
        · exact Bool.eq_false_iff.mpr fun starts => absurd (forgets_of_starts starts) (by rw [forgets]; decide)
      obtain ⟨reading, descriptor⟩ := account_same quiet.1 quiet.2
      rw [reading, descriptor] at own
      have written : (s.account i).written = s.ledger.written + (s.path.readerFrameFire i).toNat := by
        simp [account, forgets, writesOwn, own]
      have held := counted.own own
      omega
  · intro other
    change (s.account i).written = 0
    cases forgets : s.forgets i with
    | true => exact written_forgotten forgets
    | false =>
      obtain ⟨-, begins | was⟩ := before other
      · simp [PromisedPath.forgets, begins] at forgets
      · simp [account, forgets, writesOwn, was, counted.none was]
  · intro other busy
    obtain ⟨resting, begins | was⟩ := before other
    · exact cancelled_step resting (.inl begins) busy
    · exact cancelled_step resting (.inr (counted.cancelled was)) busy
  · intro other
    change (s.path.step p i).prefetchedBeats + (s.path.step p i).reader.frameValid.toNat ≤ 1
    obtain ⟨resting, begins | was⟩ := before other
    · rw [prefetchedBeats_forgotten (by simp [PromisedPath.forgets, begins]), Nat.zero_add]
      exact Bool.toNat_le _
    · have drained := frameValid_step counted.reader resting (counted.cancelled was)
      have one := counted.one was
      omega

theorem counted_run [Inhabited Word] (p : DdrPathParams) (is : List (DdrPathIn Word)) :
    ((promisedPath Word p).run reset is).Counted p :=
  (promisedPath Word p).invariant counted_reset (fun _ i counted => counted.step i) is

/-! ## When the promise is kept -/

theorem promises_spec (promises : s.promises p i = true) :
    s.path.reader.error = false ∧ DdrPath.prefetchTarget p i ≤ s.path.prefetchedBeats ∧
      1 ≤ DdrPath.prefetchTarget p i := by
  change (!s.path.reader.error && s.path.levelSafe p i && _) = true at promises
  simp only [Bool.and_eq_true, Bool.not_eq_true', DdrPath.levelSafe, decide_eq_true_eq] at promises
  obtain ⟨⟨clean, some_beats, reached⟩, -⟩ := promises
  refine ⟨clean, reached, ?_⟩
  have watermark := p.watermark_pos
  rw [DdrPath.prefetchTarget]
  split_ifs
  · omega
  · exact watermark

theorem kept_iff (counted : s.Counted p) : s.Kept p i ↔ s.Undisturbed p i := by
  constructor
  · intro kept promises
    obtain ⟨-, held⟩ := kept promises
    obtain ⟨-, -, some_beats⟩ := promises_spec promises
    constructor
    · by_contra forgets
      rw [written_forgotten (Bool.not_eq_false _ ▸ forgets)] at held
      omega
    · by_contra other
      have elsewhere : s.ledger.reading ≠ s.ledger.descriptor := by simpa [stale] using other
      have none := counted.none elsewhere
      have written : (s.account i).written ≤ s.ledger.written := by
        simp only [account, writesOwn, elsewhere, decide_false, Bool.and_false, Bool.toNat_false, Nat.add_zero]
        split_ifs
        · exact Nat.zero_le _
        · exact Nat.le_refl _
      omega
  · intro undisturbed promises
    obtain ⟨keeps, fresh⟩ := undisturbed promises
    obtain ⟨clean, reached, -⟩ := promises_spec promises
    have own : s.ledger.reading = s.ledger.descriptor := by simpa [stale] using fresh
    refine ⟨clean, reached.trans ((counted.own own).trans ?_)⟩
    rw [account, keeps]
    exact Nat.le_add_right _ _

/-- A promise for a descriptor that is not being read is one of a single frame. -/
theorem stale_promise [Inhabited Word] (p : DdrPathParams) (is : List (DdrPathIn Word)) (i : DdrPathIn Word)
    (promises : ((promisedPath Word p).run reset is).promises p i = true)
    (stale : ((promisedPath Word p).run reset is).stale = true) : DdrPath.prefetchTarget p i = 1 := by
  obtain ⟨-, reached, some_beats⟩ := promises_spec promises
  have one := (counted_run p is).one (by simpa [PromisedPath.stale] using stale)
  omega

/-- The level keeps what it promises throughout a run exactly when it is never raised while
    something starts anew or for a descriptor the reader has not been started for. -/
theorem prefetch_promise_iff [Inhabited Word] (p : DdrPathParams) (is : List (DdrPathIn Word)) :
    (promisedPath Word p).Along (Kept p) reset is ↔ (promisedPath Word p).Along (Undisturbed p) reset is :=
  (promisedPath Word p).along_congr (C := Kept p) (D := Undisturbed p) (P := Counted p)
    (fun _ _ counted => kept_iff counted) (fun _ i counted => counted.step i) counted_reset is

def promptCycle (totalBeats : Nat) (fifoWriteReady : Bool) : DdrPathIn Unit where
  beginCmd := false
  commitCmd := false
  pauseCmd := false
  stopCmd := false
  abortCmd := false
  loopRestart := false
  descriptorBase := 0x4800000000
  descriptorTotalBeats := totalBeats
  fifoFreeBeats := 1024
  fifoWriteReady := fifoWriteReady
  arready := true
  rdata _ := ()
  rresp := 0
  rvalid := true
  rlast := false

/-- Two beats are committed, and their first frame waits for the FIFOs when a waveform of one
    beat is begun. -/
def begunOverFrame : List (DdrPathIn Unit) :=
  [{ promptCycle 2 false with commitCmd := true }] ++ List.replicate 6 (promptCycle 2 false) ++
    [{ promptCycle 1 false with beginCmd := true }, promptCycle 1 true, promptCycle 1 true]

/-- The frame of the earlier waveform is promised as the one of the new. -/
theorem begunOverFrame_not_kept :
    ¬ ∀ (p : DdrPathParams) (is : List (DdrPathIn Unit)), (promisedPath Unit p).Along (Kept p) reset is := by
  intro claim
  exact absurd (claim ddrPathParams begunOverFrame) (by decide)

end PromisedPath

end Xczu47dr.Playback
