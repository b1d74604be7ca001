import Xczu47dr.Playback.LaneCounters

/-! # Lagging credit

A reservation is released in the cycle its frame is written, and the level that
replaces it reaches the reader five registers later.  In between the frame is
counted by neither: the credit is too high by the frames written in the last five
cycles.  As long as a reservation leaves room for those, no lane is promised more
than it holds.
-/

namespace Xczu47dr.Playback.LaneCounters

open Clocked Machine

variable {Word : Type} {p : ReaderParams} {mask : Channel → Bool} {s : LaneCounters Word}
  {i : LaneCountersIn Word}

/-- A burst is reserved only where the credit register has room for the frames
    already reserved, the new burst and the frames written in the last five cycles. -/
def CreditCounted (p : ReaderParams) (s : LaneCounters Word) (i : LaneCountersIn Word) : Prop :=
  s.path.reader.reserveNew p (s.readerIn i) = true →
    s.path.reader.reserved + s.path.reader.proposedFrames p (s.readerIn i) + s.recentWrites 5 ≤
      DdrReader.fifoFreeCredit (s.readerIn i)

/-- No enabled lane is promised more frames than it has room for. -/
def Fits (mask : Channel → Bool) (s : LaneCounters Word) : Prop :=
  ∀ ch, mask ch = true → s.level ch + s.path.reader.reserved ≤ fifoDepth

/-- No frame is presented while an enabled lane is full. -/
def NeverFull (mask : Channel → Bool) (s : LaneCounters Word) : Prop :=
  s.path.reader.frameValid = true → ∀ ch, mask ch = true → s.level ch < fifoDepth

theorem pairIndex_lt (ch : Channel) : ch.val / 2 < 4 := by omega

/-- What each pipeline register still knows of the level of lane `ch`: register `n`
    may lag it by the frames written in the last `n` cycles. -/
structure Lagging (s : LaneCounters Word) (ch : Channel) : Prop where
  lvlS1 : s.path.adapter.haveActiveS1 = true →
    s.level ch ≤ s.path.adapter.lvlS1 ch + s.recentWrites 1
  pairS2 : s.path.adapter.haveActiveS2 = true →
    s.level ch ≤ s.path.adapter.pairS2 ⟨ch.val / 2, pairIndex_lt ch⟩ + s.recentWrites 2
  maxS3 : s.path.adapter.haveActiveS3 = true → s.level ch ≤ s.path.adapter.maxS3 + s.recentWrites 3
  creditS4 : s.path.adapter.creditS4 + s.level ch ≤ fifoDepth + s.recentWrites 4
  readerCredit : s.path.readerCredit + s.level ch ≤ fifoDepth + s.recentWrites 5

/-- The invariant of a run whose reservations count the recent writes. -/
structure LagInv (p : ReaderParams) (mask : Channel → Bool) (s : LaneCounters Word) : Prop where
  reader : s.path.reader.Inv p
  creditMask : s.path.creditMask = mask ∨
    s.path.creditMask = (fun _ => false) ∧ s.path.reader.frameValid = false
  fits : s.Fits mask
  lagging : ∀ ch, mask ch = true → s.Lagging ch

/-! ## One clock edge -/

theorem neverFull_of_fits (reader : s.path.reader.Inv p) (fits : s.Fits mask) : s.NeverFull mask := by
  intro presented ch on
  have room := fits ch on
  have owned := reader.presented presented
  omega

/-- Without a full lane a presented frame is written to all enabled lanes at once. -/
theorem frameWritten_eq (inv : s.LagInv p mask) :
    s.frameWritten i = s.path.reader.frameValid := by
  have room := neverFull_of_fits inv.reader inv.fits
  rw [Bool.eq_iff_iff, frameWritten, readerIn, FramePath.frameFire_iff]
  refine ⟨fun fires => fires.1, fun presented => ⟨presented, fun ch on => ?_⟩⟩
  rcases inv.creditMask with caughtUp | ⟨-, none⟩
  · exact decide_eq_true (room presented ch (by rw [← caughtUp, on]))
  · rw [none] at presented
    contradiction

theorem level_step_le (inv : s.LagInv p mask) (ch : Channel) :
    (s.step p mask i).level ch ≤ s.level ch + (s.frameWritten i).toNat := by
  have accepted : (s.path.laneAccepted (s.pathIn i) ch).length ≤ (s.frameWritten i).toNat := by
    rw [frameWritten_eq inv]
    unfold FramePath.laneAccepted
    split
    · rename_i takes
      simp only [AdapterIn.fifoValidLane, FramePath.adapterIn, Bool.and_eq_true] at takes
      rw [takes.1.1]
      exact Nat.le_refl _
    · exact Nat.zero_le _
  simp only [step]
  omega

theorem fits_advance (inv : s.LagInv p mask) (counted : s.CreditCounted p i) {ch : Channel}
    (on : mask ch = true) :
    s.level ch + (s.frameWritten i).toNat + (s.path.reader.advance p (s.readerIn i)).reserved ≤
      fifoDepth := by
  have room := inv.fits ch on
  cases ends : s.path.reader.finished (s.readerIn i) with
  | true =>
    have finish := DdrReader.finished_spec ends
    have released : (s.path.reader.advance p (s.readerIn i)).reserved = 0 := by
      simp [DdrReader.advance, ends]
    rw [released, frameWritten, finish.not_frameFire, Bool.toNat_false]
    omega
  | false =>
    have count := DdrReader.reserved_advance inv.reader.queue inv.reader.presented ends
    have now : (s.frameWritten i).toNat = (s.path.reader.frameFire (s.readerIn i)).toNat := rfl
    cases reserve : s.path.reader.reserveNew p (s.readerIn i) with
    | false =>
      rw [reserve, if_neg Bool.false_ne_true] at count
      omega
    | true =>
      rw [reserve, if_pos rfl] at count
      have spare := counted reserve
      have credit := DdrReader.fifoFreeCredit_le (s.readerIn i)
      have register : (s.readerIn i).fifoFreeBeats = s.path.readerCredit := rfl
      have lag := (inv.lagging ch on).readerCredit
      omega

theorem fits_step (inv : s.LagInv p mask) (counted : s.CreditCounted p i) :
    (s.step p mask i).Fits mask := by
  intro ch on
  have level := level_step_le inv (i := i) ch
  have room := inv.fits ch on
  rw [step_reader]
  cases busy : s.path.reader.busy with
  | true =>
    have next := fits_advance inv counted (i := i) on
    have stepped : s.path.reader.step p (s.readerIn i) = s.path.reader.advance p (s.readerIn i) := by
      simp [DdrReader.step, busy]
    rw [stepped]
    omega
  | false =>
    have quiet := inv.reader.quiet busy
    have still : (s.frameWritten i).toNat = 0 := by rw [frameWritten_eq inv, quiet.frameValid]; rfl
    have free : (s.path.reader.step p (s.readerIn i)).reserved = 0 := by
      simp only [DdrReader.step, busy]
      cases (s.readerIn i).start with
      | true => rfl
      | false => exact quiet.reserved
    omega

theorem lagging_step (inv : s.LagInv p mask) (fits : (s.step p mask i).Fits mask) {ch : Channel}
    (on : mask ch = true) : (s.step p mask i).Lagging ch := by
  have level := level_step_le inv (i := i) ch
  have bound : (s.step p mask i).level ch ≤ fifoDepth :=
    Nat.le_trans (Nat.le_add_right _ _) (fits ch on)
  have room : s.level ch ≤ fifoDepth := Nat.le_trans (Nat.le_add_right _ _) (inv.fits ch on)
  have before := inv.lagging ch on
  refine ⟨fun active => ?_, fun active => ?_, fun active => ?_, ?_, ?_⟩
  · rw [recentWrites_step _ _ _ _ (by decide), recentWrites_zero, step_adapter]
    have enabled : s.path.creditMask = mask := by
      rcases inv.creditMask with caughtUp | ⟨none, -⟩
      · exact caughtUp
      · simp [FifoMaskAdapter.step, AdapterIn.haveActive, FramePath.adapterIn, none] at active
    have seen : (s.path.adapter.step (s.path.adapterIn (s.pathIn i))).lvlS1 ch = s.level ch := by
      simp only [FifoMaskAdapter.step, AdapterIn.maskedLevel, FramePath.adapterIn, enabled, on, if_true,
        AdapterIn.levelValue_eq_min]
      exact Nat.min_eq_left room
    omega
  · rw [recentWrites_step _ _ _ _ (by decide), step_adapter]
    have lag := before.lvlS1 active
    have kept := s.path.adapter.lvlS1_le_pairMax ch
    have pair : (s.path.adapter.step (s.path.adapterIn (s.pathIn i))).pairS2 = s.path.adapter.pairMax :=
      rfl
    rw [pair]
    omega
  · rw [recentWrites_step _ _ _ _ (by decide), step_adapter]
    have lag := before.pairS2 active
    have kept := s.path.adapter.pairS2_le_step_maxS3 (s.path.adapterIn (s.pathIn i)) ⟨ch.val / 2, by omega⟩
    omega
  · rw [recentWrites_step _ _ _ _ (by decide), step_adapter]
    simp only [FifoMaskAdapter.step]
    split
    · rename_i active
      have lag := before.maxS3 active
      omega
    · omega
  · rw [recentWrites_step _ _ _ _ (by decide), step_readerCredit]
    have lag := before.creditS4
    omega

theorem LagInv.step (inv : s.LagInv p mask) (counted : s.CreditCounted p i) :
    (s.step p mask i).LagInv p mask where
  reader := inv.reader.step
  creditMask := Or.inl rfl
  fits := fits_step inv counted
  lagging _ on := lagging_step inv (fits_step inv counted) on

theorem lagInv_reset [Inhabited Word] : (reset : LaneCounters Word).LagInv p mask where
  reader := DdrReader.inv_reset
  creditMask := Or.inr ⟨rfl, rfl⟩
  fits _ _ := Nat.zero_le _
  lagging _ _ :=
    ⟨fun _ => Nat.zero_le _, fun _ => Nat.zero_le _, fun _ => Nat.zero_le _, Nat.zero_le _, Nat.zero_le _⟩

/-- Along every run whose reservations leave room for the frames written in the
    last five cycles, no lane is over-committed and no frame meets a full lane. -/
theorem fits_of_creditCounted [Inhabited Word] (p : ReaderParams) (mask : Channel → Bool)
    (inputs : List (LaneCountersIn Word))
    (counted : (laneCounters Word p mask).Along (CreditCounted p) .reset inputs) :
    ((laneCounters Word p mask).run .reset inputs).Fits mask ∧
      ((laneCounters Word p mask).run .reset inputs).NeverFull mask := by
  have inv := (laneCounters Word p mask).invariant_run (P := LagInv p mask) (lagInv_reset)
    (fun _ _ inv counted => inv.step counted) inputs counted
  exact ⟨inv.fits, neverFull_of_fits inv.reader inv.fits⟩

instance decidableCreditCounted (p : ReaderParams) :
    ∀ (s : LaneCounters Word) (i : LaneCountersIn Word), Decidable (CreditCounted p s i) :=
  fun _ _ => inferInstanceAs (Decidable (_ → _))

/-! ## Filling the lanes

A fixed run with all lanes enabled and none of them read.  While the level stands
still the pipeline is flat; a write moves through it in five cycles.
-/

def allLanes : Channel → Bool := fun _ => true

/-- A cycle without lane reads, the address channel always ready. -/
def fillCycle (start : Bool) (totalBeats : Nat) (rvalid rlast : Bool) : LaneCountersIn (BitVec 64) where
  start := start
  cancel := false
  baseAddr := 0x4800000000
  totalBeats := totalBeats
  arready := true
  rdata := fun _ => 0
  rresp := 0
  rvalid := rvalid
  rlast := rlast
  laneReads := fun _ => 0

/-- What the reader sees of such a cycle while no lane is full. -/
def fillReaderIn (credit : Nat) (i : LaneCountersIn (BitVec 64)) : ReaderIn (BitVec 64) where
  start := i.start
  cancel := i.cancel
  baseAddr := i.baseAddr
  totalBeats := i.totalBeats
  fifoFreeBeats := credit
  arready := i.arready
  rdata := i.rdata
  rresp := i.rresp
  rvalid := i.rvalid
  rlast := i.rlast
  frameReady := true

/-- The path with the levels of one, two, to five cycles ago in its pipeline. -/
def pathAt (reader : DdrReader (BitVec 64)) (one two three four five : Nat) : FramePath (BitVec 64) where
  reader := reader
  adapter :=
    { lvlS1 := fun _ => one
      haveActiveS1 := true
      pairS2 := fun _ => two
      haveActiveS2 := true
      maxS3 := three
      haveActiveS3 := true
      creditS4 := fifoDepth - four }
  creditMask := allLanes
  readerCredit := fifoDepth - five

/-- The counted path at a uniform level, its pipeline holding the earlier levels. -/
def FilledTo (s : LaneCounters (BitVec 64)) (reader : DdrReader (BitVec 64))
    (level one two three four five : Nat) : Prop :=
  s.path = pathAt reader one two three four five ∧ s.level = fun _ => level

section Fill

variable {s : LaneCounters (BitVec 64)} {i : LaneCountersIn (BitVec 64)} {r : DdrReader (BitVec 64)}
  {level one two three four five : Nat}

theorem FilledTo.step (p : ReaderParams) (filled : s.FilledTo r level one two three four five)
    (room : level < fifoDepth) (unread : i.laneReads = fun _ => 0) :
    (s.step p allLanes i).FilledTo (r.step p (fillReaderIn (fifoDepth - five) i))
      (level + r.frameValid.toNat) level one two three four := by
  obtain ⟨path, levels, written⟩ := s
  obtain ⟨rfl, rfl⟩ := filled
  set s : LaneCounters (BitVec 64) := ⟨pathAt r one two three four five, fun _ => level, written⟩ with s_eq
  have lanes : ∀ ch, (s.pathIn i).fifoReady ch = true := fun _ => decide_eq_true room
  have ready : s.path.frameReady (s.pathIn i) = true :=
    (FramePath.frameReady_iff _ _).mpr fun ch _ => lanes ch
  have input : s.readerIn i = fillReaderIn (fifoDepth - five) i := by
    simp only [readerIn, FramePath.readerIn, ready, fillReaderIn]
    rfl
  have masked : (s.path.adapterIn (s.pathIn i)).maskedLevel = fun _ => level := by
    funext ch
    rw [AdapterIn.maskedLevel, AdapterIn.levelValue_eq_min]
    exact Nat.min_eq_left room.le
  constructor
  · have adapter : s.path.adapter.step (s.path.adapterIn (s.pathIn i)) =
        (pathAt r level one two three four).adapter := by
      have pairs : s.path.adapter.pairMax = fun _ => one := funext fun _ => Nat.max_self one
      simp only [FifoMaskAdapter.step, masked, pairs]
      simp [s_eq, pathAt, AdapterIn.haveActive, FramePath.adapterIn, allLanes]
    simp only [LaneCounters.step, FramePath.step, adapter]
    rw [show s.path.readerIn (s.pathIn i) = _ from input]
    rfl
  · funext ch
    simp only [LaneCounters.step, FramePath.laneAccepted_enabled s.path _ (show s.path.creditMask ch = true from rfl),
      lanes, unread]
    cases presented : r.frameValid with
    | false => simp [s_eq, pathAt, presented]
    | true => simp [s_eq, pathAt, presented]

/-- While the reader presents nothing the level and the pipeline stand still. -/
theorem FilledTo.run_quiet (p : ReaderParams) (room : level < fifoDepth)
    (is : List (LaneCountersIn (BitVec 64))) (unread : ∀ i ∈ is, i.laneReads = fun _ => 0)
    (filled : s.FilledTo r level level level level level level)
    (quiet : (ddrReader (BitVec 64) p).Along (fun r _ => r.frameValid = false) r
      (is.map (fillReaderIn (fifoDepth - level)))) :
    ((laneCounters (BitVec 64) p allLanes).run s is).FilledTo
      ((ddrReader (BitVec 64) p).run r (is.map (fillReaderIn (fifoDepth - level))))
      level level level level level level := by
  induction is generalizing s r with
  | nil => exact filled
  | cons i is ih =>
    have next := filled.step p room (unread i List.mem_cons_self)
    rw [quiet.1, Bool.toNat_false, Nat.add_zero] at next
    exact ih (fun j held => unread j (List.mem_cons_of_mem _ held)) next quiet.2

/-- A reader that asks for at most one frame asks the same of every credit. -/
def AsksOne (r : DdrReader (BitVec 64)) : Prop :=
  r.arvalid = true ∨ r.remaining = 0 ∨ r.remaining = 1 ∧ r.reserved = 0

instance : Decidable (AsksOne r) := inferInstanceAs (Decidable (_ ∨ _))

theorem step_fillReaderIn (asks : AsksOne r) (i : LaneCountersIn (BitVec 64)) {credit : Nat}
    (low : 1 ≤ credit) (high : credit < 2048) :
    r.step playbackReaderParams (fillReaderIn credit i) =
      r.step playbackReaderParams (fillReaderIn 1 i) := by
  have draining : r.draining (fillReaderIn credit i) = r.draining (fillReaderIn 1 i) := rfl
  have reserve : r.reserveNew playbackReaderParams (fillReaderIn credit i) =
        r.reserveNew playbackReaderParams (fillReaderIn 1 i) ∧
      (r.reserveNew playbackReaderParams (fillReaderIn 1 i) = true →
        r.proposedFrames playbackReaderParams (fillReaderIn credit i) =
          r.proposedFrames playbackReaderParams (fillReaderIn 1 i)) := by
    rcases asks with valid | none | ⟨single, free⟩
    · simp [DdrReader.reserveNew, valid]
    · simp [DdrReader.reserveNew, none]
    · have inRange (c : Nat) (small : c < 2048) : DdrReader.fifoFreeCredit (fillReaderIn c i) = c := by
        have high : ¬ c / 2048 ≠ 0 := by omega
        exact (if_neg high).trans (Nat.mod_eq_of_lt small)
      have clamp : r.burstClamp playbackReaderParams = 1 := by
        simp [DdrReader.burstClamp, playbackReaderParams, single]
      have page : 1 ≤ r.pageFrames := by
        unfold DdrReader.pageFrames
        omega
      have same : r.proposedFrames playbackReaderParams (fillReaderIn credit i) =
          r.proposedFrames playbackReaderParams (fillReaderIn 1 i) := by
        simp only [DdrReader.proposedFrames, inRange credit high, inRange 1 (by decide), clamp, free]
        rw [if_neg (by omega), if_neg (by omega)]
        omega
      exact ⟨by simp only [DdrReader.reserveNew, draining, same], fun _ => same⟩
  obtain ⟨reserves, proposes⟩ := reserve
  have advances : r.advance playbackReaderParams (fillReaderIn credit i) =
      r.advance playbackReaderParams (fillReaderIn 1 i) := by
    have fires : r.frameFire (fillReaderIn credit i) = r.frameFire (fillReaderIn 1 i) := rfl
    simp only [DdrReader.advance, reserves, fires]
    cases now : r.reserveNew playbackReaderParams (fillReaderIn 1 i) with
    | false => cases r.frameFire (fillReaderIn 1 i) <;> rfl
    | true =>
      simp only [proposes now]
      rfl
  unfold DdrReader.step
  rw [advances]
  rfl

/-- A run that asks for one frame at a time is the same at every credit. -/
theorem run_fillReaderIn {credit : Nat} (low : 1 ≤ credit) (high : credit < 2048)
    {D : DdrReader (BitVec 64) → Prop} (is : List (LaneCountersIn (BitVec 64)))
    (asks : (ddrReader (BitVec 64) playbackReaderParams).Along (fun r _ => D r ∧ AsksOne r) r
      (is.map (fillReaderIn 1))) :
    (ddrReader (BitVec 64) playbackReaderParams).Along (fun r _ => D r) r
        (is.map (fillReaderIn credit)) ∧
      (ddrReader (BitVec 64) playbackReaderParams).run r (is.map (fillReaderIn credit)) =
        (ddrReader (BitVec 64) playbackReaderParams).run r (is.map (fillReaderIn 1)) := by
  induction is generalizing r with
  | nil => exact ⟨trivial, rfl⟩
  | cons i is ih =>
    have stepped : (ddrReader (BitVec 64) playbackReaderParams).step r (fillReaderIn credit i) =
        (ddrReader (BitVec 64) playbackReaderParams).step r (fillReaderIn 1 i) :=
      step_fillReaderIn asks.1.2 i low high
    obtain ⟨along, runs⟩ := ih asks.2
    rw [List.map_cons, List.map_cons, run_cons, run_cons, along_cons, stepped]
    exact ⟨⟨asks.1.1, along⟩, runs⟩

end Fill

/-! ## One frame too many -/

def restCycle : LaneCountersIn (BitVec 64) := fillCycle false 0 false false

/-- A read of `totalBeats` frames up to its first complete frame. -/
def firstFrame (totalBeats : Nat) (last : Bool) : List (LaneCountersIn (BitVec 64)) :=
  fillCycle true totalBeats false false :: restCycle :: restCycle ::
    (List.replicate 3 (fillCycle false 0 true false) ++ [fillCycle false 0 true last])

/-- A read of one frame, the write of the frame, and five cycles for the pipeline. -/
def oneFrameRead : List (LaneCountersIn (BitVec 64)) :=
  firstFrame 1 true ++ List.replicate 6 restCycle

/-- A read of one frame into empty lanes reserves with all the credit there is. -/
theorem oneFrameRead_fits :
    ((laneCounters (BitVec 64) playbackReaderParams allLanes).run .reset
        (List.replicate 6 restCycle ++ oneFrameRead)).Fits allLanes ∧
      ((laneCounters (BitVec 64) playbackReaderParams allLanes).run .reset
        (List.replicate 6 restCycle ++ oneFrameRead)).NeverFull allLanes :=
  fits_of_creditCounted playbackReaderParams allLanes _ (by decide)

/-- The lanes are written one word at a time, `n` words after the first one. -/
def filling (n : Nat) : List (LaneCountersIn (BitVec 64)) :=
  List.replicate 6 restCycle ++ oneFrameRead ++ (List.replicate n oneFrameRead).flatten

/-- 1022 words are in every lane, then three frames are read at once. -/
def creditOverrun : List (LaneCountersIn (BitVec 64)) :=
  filling 1021 ++ (firstFrame 3 false ++ [restCycle, restCycle])

/-- The reader on its own, `k` cycles after it has presented the frame of a read. -/
def rested (r : DdrReader (BitVec 64)) (k : Nat) : DdrReader (BitVec 64) :=
  (ddrReader (BitVec 64) playbackReaderParams).run r
    ((firstFrame 1 true ++ List.replicate k restCycle).map (fillReaderIn 1))

/-- The reader reads one frame, presents it for one cycle and rests. -/
structure ReadsOneFrame (r : DdrReader (BitVec 64)) : Prop where
  fetch : (ddrReader (BitVec 64) playbackReaderParams).Along
    (fun r _ => r.frameValid = false ∧ AsksOne r) r ((firstFrame 1 true).map (fillReaderIn 1))
  presents : (rested r 0).frameValid = true
  rests : ∀ k < 5, (rested r (k + 1)).frameValid = false
  asks : ∀ k < 6, AsksOne (rested r k)

instance (r : DdrReader (BitVec 64)) : Decidable (ReadsOneFrame r) :=
  decidable_of_iff (_ ∧ _ ∧ _ ∧ _)
    ⟨fun ⟨fetch, presents, rests, asks⟩ => ⟨fetch, presents, rests, asks⟩,
      fun reads => ⟨reads.fetch, reads.presents, reads.rests, reads.asks⟩⟩

theorem rested_succ (r : DdrReader (BitVec 64)) (k : Nat) :
    rested r (k + 1) = (rested r k).step playbackReaderParams (fillReaderIn 1 restCycle) := by
  rw [rested, List.replicate_succ', ← List.append_assoc, List.map_append, run_append]
  rfl

/-- One cycle after the fetch, a frame presented or not. -/
theorem FilledTo.rest {s : LaneCounters (BitVec 64)} {r : DdrReader (BitVec 64)}
    {k level one two three four five : Nat}
    (filled : ((laneCounters (BitVec 64) playbackReaderParams allLanes).run s
      (firstFrame 1 true ++ List.replicate k restCycle)).FilledTo (rested r k) level one two three four five)
    (asks : AsksOne (rested r k)) (room : level < fifoDepth) (credit : five < fifoDepth) {presented : Bool}
    (presents : (rested r k).frameValid = presented) :
    ((laneCounters (BitVec 64) playbackReaderParams allLanes).run s
      (firstFrame 1 true ++ List.replicate (k + 1) restCycle)).FilledTo (rested r (k + 1))
      (level + presented.toNat) level one two three four := by
  have next := filled.step (i := restCycle) playbackReaderParams room rfl
  have high : fifoDepth - five < 2048 := Nat.lt_of_le_of_lt (Nat.sub_le _ _) (by decide)
  rw [step_fillReaderIn asks restCycle (by omega) high, presents, ← rested_succ] at next
  rw [List.replicate_succ', ← List.append_assoc, run_append]
  exact next

theorem FilledTo.oneFrameRead {s : LaneCounters (BitVec 64)} {r : DdrReader (BitVec 64)} {level : Nat}
    (filled : s.FilledTo r level level level level level level) (reads : ReadsOneFrame r)
    (room : level + 1 < fifoDepth) :
    ((laneCounters (BitVec 64) playbackReaderParams allLanes).run s oneFrameRead).FilledTo
      (rested r 6) (level + 1) (level + 1) (level + 1) (level + 1) (level + 1) (level + 1) := by
  have before : level < fifoDepth := by omega
  have high : fifoDepth - level < 2048 := Nat.lt_of_le_of_lt (Nat.sub_le _ _) (by decide)
  obtain ⟨quiet, fetched⟩ := run_fillReaderIn (by omega) high (firstFrame 1 true) reads.fetch
  have fetch := filled.run_quiet playbackReaderParams before (firstFrame 1 true)
    (fun i held => by fin_cases held <;> rfl) quiet
  rw [fetched] at fetch
  have rest₀ : ((laneCounters (BitVec 64) playbackReaderParams allLanes).run s
      (firstFrame 1 true ++ List.replicate 0 restCycle)).FilledTo (rested r 0) level level level level
      level level := by
    simpa only [List.replicate_zero, List.append_nil, rested] using fetch
  have rest₁ := rest₀.rest (reads.asks 0 (by decide)) before before reads.presents
  -- five cycles carry the new level to the credit register
  have rest₂ := rest₁.rest (reads.asks 1 (by decide)) room before (reads.rests 0 (by decide))
  have rest₃ := rest₂.rest (reads.asks 2 (by decide)) room before (reads.rests 1 (by decide))
  have rest₄ := rest₃.rest (reads.asks 3 (by decide)) room before (reads.rests 2 (by decide))
  have rest₅ := rest₄.rest (reads.asks 4 (by decide)) room before (reads.rests 3 (by decide))
  exact rest₅.rest (reads.asks 5 (by decide)) room before (reads.rests 4 (by decide))

/-- The reader between the reads of a fill. -/
def restingReader : DdrReader (BitVec 64) := rested .reset 6

/-- The burst queue is written in slot zero only. -/
theorem rested_slots (r : DdrReader (BitVec 64)) (clear : ∀ slot, r.burstLengths (slot + 1) = 0)
    (zero : (ddrReader (BitVec 64) playbackReaderParams).Along (fun r i => r.arFire i = true → r.tail = 0) r
      ((firstFrame 1 true ++ List.replicate 6 restCycle).map (fillReaderIn 1))) :
    ∀ slot, (rested r 6).burstLengths (slot + 1) = 0 := by
  refine (ddrReader (BitVec 64) playbackReaderParams).invariant_run
    (P := fun r => ∀ slot, r.burstLengths (slot + 1) = 0) clear ?_ _ zero
  intro r i clear atZero slot
  simp only [ddrReader, DdrReader.step]
  split
  · exact clear slot
  · split
    · simp only [DdrReader.advance]
      split
      · rename_i fire
        rw [atZero fire, Function.update_of_ne (Nat.succ_ne_zero slot)]
        exact clear slot
      · exact clear slot
    · exact clear slot

/-- The reader rests in the same state after every read of one frame. -/
theorem restingReader_again : rested restingReader 6 = restingReader := by
  have first := rested_slots .reset (fun _ => rfl) (by decide)
  have second := rested_slots restingReader first (by decide)
  apply DdrReader.ext
  case assembling =>
    funext ch k
    revert ch k
    decide
  case burstLengths =>
    funext slot
    cases slot with
    | zero => decide
    | succ slot => rw [second slot, restingReader, first slot]
  all_goals decide

/-- Six cycles after reset the credit register holds the whole depth. -/
theorem filledTo_warm : ((laneCounters (BitVec 64) playbackReaderParams allLanes).run .reset
    (List.replicate 6 restCycle)).FilledTo .reset 0 0 0 0 0 0 := by
  refine ⟨FramePath.ext rfl (FifoMaskAdapter.ext ?_ rfl ?_ rfl rfl rfl rfl) rfl rfl, rfl⟩
  · funext ch
    revert ch
    decide
  · funext k
    revert k
    decide

theorem filledTo_filling (n : Nat) (room : n + 1 < fifoDepth) :
    ((laneCounters (BitVec 64) playbackReaderParams allLanes).run .reset (filling n)).FilledTo
      restingReader (n + 1) (n + 1) (n + 1) (n + 1) (n + 1) (n + 1) := by
  induction n with
  | zero =>
    have first := filledTo_warm.oneFrameRead (by decide) room
    rw [← run_append] at first
    rwa [filling, List.replicate_zero, List.flatten_nil, List.append_nil]
  | succ n ih =>
    have next := (ih (by omega)).oneFrameRead (by decide) (by omega)
    have longer : filling (n + 1) = filling n ++ oneFrameRead := by
      simp only [filling, List.replicate_succ' (n := n), List.flatten_append, List.flatten_singleton,
        List.append_assoc]
    rw [longer, run_append]
    rwa [restingReader_again] at next

/-- With 1022 words in every lane a read of three frames reserves its third one on
    a credit that does not yet count the first. -/
theorem FilledTo.overrun {s : LaneCounters (BitVec 64)}
    (filled : s.FilledTo restingReader 1022 1022 1022 1022 1022 1022) :
    ((laneCounters (BitVec 64) playbackReaderParams allLanes).run s
      (firstFrame 3 false ++ [restCycle, restCycle])).level 0 = 1023 ∧
    ((laneCounters (BitVec 64) playbackReaderParams allLanes).run s
      (firstFrame 3 false ++ [restCycle, restCycle])).path.reader.reserved = 2 := by
  have fetch := filled.run_quiet playbackReaderParams (by decide) (firstFrame 3 false)
    (fun i held => by fin_cases held <;> rfl) (by decide)
  have write := fetch.step (i := restCycle) playbackReaderParams (by decide) rfl
  rw [show DdrReader.frameValid _ = true by decide] at write
  have reserve := write.step (i := restCycle) playbackReaderParams (by decide) rfl
  rw [show DdrReader.frameValid _ = false by decide] at reserve
  rw [run_append]
  refine ⟨congrFun reserve.2 0, (congrArg (fun path => path.reader.reserved) reserve.1).trans ?_⟩
  decide

/-- 1023 words and two reservations stand against 1024 places. -/
theorem creditOverrun_not_fits :
    ¬ ((laneCounters (BitVec 64) playbackReaderParams allLanes).run .reset creditOverrun).Fits allLanes := by
  intro fits
  have filled := filledTo_filling 1021 (by decide)
  obtain ⟨level, reserved⟩ := filled.overrun
  have promised := fits 0 rfl
  rw [creditOverrun, run_append, level, reserved] at promised
  exact absurd promised (by decide)

end Xczu47dr.Playback.LaneCounters
