import Xczu47dr.Playback.ReadProgress
import Xczu47dr.Playback.ReaderDrain

/-! # The whole of a read

From its start to the fall of `busy` an undisturbed read delivers the frames of
its range, and the bursts it has put on the bus tile that range.
-/

namespace Xczu47dr.Playback

open Clocked DdrReader

variable {Word : Type}

/-- Bursts, each with its address and its length in bytes, that follow one another
    from `first` to `last`. -/
def Tiles : Nat → Nat → List (Nat × Nat) → Prop
  | first, last, [] => first = last
  | first, last, (address, length) :: rest => address = first ∧ Tiles (first + length) last rest

theorem Tiles.snoc {first last address length : Nat} {bursts : List (Nat × Nat)} (tiles : Tiles first last bursts)
    (next : address = last) : Tiles first (last + length) (bursts ++ [(address, length)]) := by
  induction bursts generalizing first with
  | nil =>
    cases tiles
    exact ⟨next, rfl⟩
  | cons burst rest ih => exact ⟨tiles.1, ih tiles.2⟩

namespace DdrReader

variable {p : ReaderParams} {s : DdrReader Word} {i : ReaderIn Word}

/-- The address on the bus stays within its page. -/
def InPage (s : DdrReader Word) : Prop := s.arvalid = true → s.pendingFrames ≤ s.pageFrames

theorem proposedFrames_le_page (p : ReaderParams) (s : DdrReader Word) (i : ReaderIn Word) :
    s.proposedFrames p i ≤ s.pageFrames := by
  simp only [proposedFrames]
  split
  · exact Nat.zero_le _
  · omega

theorem InPage.advance (inPage : s.InPage) : (s.advance p i).InPage := by
  intro valid
  simp only [DdrReader.advance, pageFrames] at valid ⊢
  cases fire : s.arFire i with
  | true =>
    rw [fire] at valid
    exact absurd valid Bool.false_ne_true
  | false =>
    rw [fire] at valid
    cases reserve : s.reserveNew p i with
    | true => exact proposedFrames_le_page p s i
    | false =>
      rw [reserve] at valid
      exact inPage valid

end DdrReader

namespace MemoryRead

variable (readBeat : Nat → Channel → Word) (p : ReaderParams) (s : MemoryRead Word) (i : MemoryReadIn)

/-- The burst whose address is accepted in this cycle. -/
def accepts : List (Nat × Nat) :=
  if s.reader.arFire (s.readerIn readBeat i) then [(s.reader.araddr, 64 * (s.reader.arlen + 1))] else []

variable {readBeat p s i}

theorem length_accepts :
    (s.accepts readBeat i).length = (s.reader.arFire (s.readerIn readBeat i)).toNat := by
  unfold accepts
  cases s.reader.arFire (s.readerIn readBeat i) <;> rfl

/-- An accepted burst is the next of the range and stays within its page. -/
theorem Reading.accepts_next {base total delivered : Nat} (fits : Fits base total)
    (reading : s.Reading readBeat p base total delivered) (inPage : s.reader.InPage) {bursts : List (Nat × Nat)}
    (tiles : Tiles base s.reader.issueAddr bursts) :
    Tiles base (s.step readBeat p i).reader.issueAddr (bursts ++ s.accepts readBeat i) ∧
      ∀ burst ∈ s.accepts readBeat i, 0 < burst.2 ∧ burst.1 / 4096 = (burst.1 + burst.2 - 1) / 4096 := by
  have issue_eq := reading.issue
  obtain ⟨left, issue, total_eq⟩ := reading.issue_step fits (i := i)
  have before := reading.remaining_le
  unfold accepts
  cases fire : s.reader.arFire (s.readerIn readBeat i) with
  | false =>
    have same : (s.step readBeat p i).reader.issueAddr = s.reader.issueAddr := by
      rw [step_busy reading.busy]
      simp [advance, fire]
    rw [if_neg Bool.false_ne_true, List.append_nil, same]
    exact ⟨tiles, by rintro _ ⟨⟩⟩
  | true =>
    have valid := arFire_arvalid fire
    have at_issue := (reading.presented valid).1
    have range := reading.port.inv.queue.pending_range valid
    have within := inPage valid
    have aligned := fits.aligned
    rw [fire, if_pos rfl] at total_eq
    rw [if_pos rfl, reading.port.arlen_eq valid, at_issue]
    have next : (s.step readBeat p i).reader.issueAddr = s.reader.issueAddr + 64 * (4 * s.reader.pendingFrames) := by omega
    rw [next]
    refine ⟨tiles.snoc rfl, fun burst accepted => ?_⟩
    cases List.mem_singleton.mp accepted
    simp only [pageFrames] at within
    exact ⟨by omega, by omega⟩

/-- A cycle in which the memory does not accept the address. -/
theorem step_stalled (busy : s.reader.busy = true) (live : s.reader.Live) (presented : s.reader.arvalid = true)
    (none : s.reader.outstanding = 0) (clear : s.reader.frameValid = false) (low : s.reader.done = false)
    (in_time : s.reader.watchdog + 1 < p.timeoutCycles) (sized : p.timeoutCycles ≤ 2 ^ 32)
    (no_cancel : i.cancel = false) (unready : i.arready = false) :
    s.step readBeat p i = { s with reader := { s.reader with watchdog := s.reader.watchdog + 1 } } := by
  obtain ⟨cancelled, error⟩ := live
  have cancel : (s.readerIn readBeat i).cancel = false := no_cancel
  have unready : (s.readerIn readBeat i).arready = false := unready
  have no_address : s.reader.arFire (s.readerIn readBeat i) = false := by rw [arFire, unready, Bool.and_false]
  have no_beat : s.reader.rFire (s.readerIn readBeat i) = false := by simp [rFire, rready, none]
  have no_frame : s.reader.frameFire (s.readerIn readBeat i) = false := by rw [frameFire, clear, Bool.false_and]
  have no_last : s.reader.retiring (s.readerIn readBeat i) = false := by rw [retiring, no_beat, Bool.false_and]
  have no_fault : s.reader.rFault (s.readerIn readBeat i) = false := by rw [rFault, no_beat, Bool.false_and]
  have no_burst : s.reader.reserveNew p (s.readerIn readBeat i) = false := by simp [reserveNew, presented]
  have going : s.reader.finished (s.readerIn readBeat i) = false := by simp [finished, presented]
  have counts : s.reader.watchdogRests (s.readerIn readBeat i) = false := by
    simp [watchdogRests, no_address, no_beat, presented]
  have no_timeout : s.reader.timesOut p (s.readerIn readBeat i) = false := by
    have before : s.reader.watchdog ≠ p.timeoutCycles - 1 := by omega
    simp [timesOut, beq_eq_false_iff_ne.mpr before]
  have small : s.reader.watchdog + 1 < 4294967296 := by omega
  have reader : (s.step readBeat p i).reader = { s.reader with watchdog := s.reader.watchdog + 1 } := by
    rw [step_busy busy]
    apply DdrReader.ext <;>
      simp [advance, no_address, no_beat, no_frame, no_last, no_fault, no_burst, going, counts, no_timeout, small,
        presented, clear, error, cancelled, cancel, busy, low]
  have owed : (s.step readBeat p i).owed = s.owed := by simp [step, accepted, no_beat, no_address]
  exact congrArg₂ MemoryRead.mk reader owed

section Runs

variable [Inhabited Word] (readBeat p) (inputs : Nat → MemoryReadIn)

/-- Reader and memory at the start of cycle `n`. -/
def stateAt (n : Nat) : MemoryRead Word := (memoryRead readBeat p).trace inputs n

/-- The bursts accepted in the `count` cycles behind the start. -/
def acceptedBursts (start count : Nat) : List (Nat × Nat) :=
  (memoryRead readBeat p).traceLog (accepts readBeat) inputs (start + 1) count

/-- The bursts whose last beat has returned in these cycles. -/
def returnedBursts (start count : Nat) : Nat :=
  tally (fun n => (stateAt readBeat p inputs n).reader.retiring ((stateAt readBeat p inputs n).readerIn readBeat (inputs n)))
    (start + 1) (start + 1 + count)

/-- The read that starts in cycle `start` is over `count` cycles behind its start. -/
structure EndsAfter (start count : Nat) : Prop where
  busy : ∀ k < count, (stateAt readBeat p inputs (start + 1 + k)).reader.busy = true
  idle : (stateAt readBeat p inputs (start + 1 + count)).reader.busy = false

/-- A cycle of a read. -/
structure CycleOk (start count : Nat) : Prop where
  arlen : (stateAt readBeat p inputs (start + 1 + count)).reader.arvalid = true →
    (stateAt readBeat p inputs (start + 1 + count)).reader.arlen + 1 =
      4 * (stateAt readBeat p inputs (start + 1 + count)).reader.pendingFrames
  page : ∀ burst ∈ acceptedBursts readBeat p inputs start count,
    0 < burst.2 ∧ burst.1 / 4096 = (burst.1 + burst.2 - 1) / 4096
  outstanding : (acceptedBursts readBeat p inputs start count).length ≤
    returnedBursts readBeat p inputs start count + p.maxOutstanding

/-- A read of `total` frames at `base` that is over. -/
structure Complete (base total start count : Nat) : Prop where
  frames : deliveredFrames readBeat p inputs start count = framesAt readBeat base total
  tiles : Tiles base (base + 256 * total) (acceptedBursts readBeat p inputs start count)
  done : ∀ k ≤ count + 1, (stateAt readBeat p inputs (start + 1 + k)).reader.done = decide (k = count)

variable {readBeat p inputs} {base total start count : Nat}

theorem stateAt_succ (n : Nat) :
    stateAt readBeat p inputs (n + 1) = (stateAt readBeat p inputs n).step readBeat p (inputs n) := rfl

/-- The read `count` cycles behind its start. -/
structure Course (readBeat : Nat → Channel → Word) (p : ReaderParams) (inputs : Nat → MemoryReadIn)
    (base total start count : Nat) : Prop where
  reading : (stateAt readBeat p inputs (start + 1 + count)).Reading readBeat p base total
    (deliveredFrames readBeat p inputs start count).length
  frames : deliveredFrames readBeat p inputs start count =
    framesAt readBeat base (deliveredFrames readBeat p inputs start count).length
  inPage : (stateAt readBeat p inputs (start + 1 + count)).reader.InPage
  tiles : Tiles base (stateAt readBeat p inputs (start + 1 + count)).reader.issueAddr
    (acceptedBursts readBeat p inputs start count)
  pages : ∀ burst ∈ acceptedBursts readBeat p inputs start count,
    0 < burst.2 ∧ burst.1 / 4096 = (burst.1 + burst.2 - 1) / 4096
  ledger : (acceptedBursts readBeat p inputs start count).length = returnedBursts readBeat p inputs start count +
    (stateAt readBeat p inputs (start + 1 + count)).reader.outstanding

theorem Course.first (fits : Fits base total) (some_frame : total ≠ 0)
    (idle : (stateAt readBeat p inputs start).reader.busy = false) (starts : (inputs start).start = true)
    (at_base : (inputs start).baseAddr = base) (frames : (inputs start).totalBeats = total) :
    Course readBeat p inputs base total start 0 := by
  have port : (stateAt readBeat p inputs start).PortOk p := portOk_trace start
  have reader : (stateAt readBeat p inputs (start + 1)).reader = _ := step_start starts idle
  refine ⟨reading_start fits port idle starts at_base frames some_frame, rfl, ?_, ?_, ?_, ?_⟩
  · intro valid
    rw [Nat.add_zero, reader] at valid
    exact absurd ((port.inv.quiet idle).arvalid.symm.trans valid) Bool.false_ne_true
  · rw [Nat.add_zero, reader]
    exact at_base.symm
  · exact nofun
  · rw [returnedBursts, Nat.add_zero, tally_self, reader]
    rfl

theorem Course.next (fits : Fits base total) (course : Course readBeat p inputs base total start count)
    (undisturbed : Undisturbed readBeat p (stateAt readBeat p inputs (start + 1 + count)) (inputs (start + 1 + count)))
    (going : (stateAt readBeat p inputs (start + 1 + (count + 1))).reader.busy = true) :
    Course readBeat p inputs base total start (count + 1) := by
  have busy := course.reading.busy
  have reader : (stateAt readBeat p inputs (start + 1 + (count + 1))).reader =
      (stateAt readBeat p inputs (start + 1 + count)).reader.advance p
        ((stateAt readBeat p inputs (start + 1 + count)).readerIn readBeat (inputs (start + 1 + count))) :=
    step_busy busy
  have unfinished : (stateAt readBeat p inputs (start + 1 + count)).reader.finished
      ((stateAt readBeat p inputs (start + 1 + count)).readerIn readBeat (inputs (start + 1 + count))) = false := by
    rw [reader] at going
    simpa [advance] using going
  have delivered : deliveredFrames readBeat p inputs start (count + 1) = deliveredFrames readBeat p inputs start count ++
      (stateAt readBeat p inputs (start + 1 + count)).delivers readBeat (inputs (start + 1 + count)) :=
    Machine.traceLog_succ _ _ _ _ _
  have accepted : acceptedBursts readBeat p inputs start (count + 1) = acceptedBursts readBeat p inputs start count ++
      (stateAt readBeat p inputs (start + 1 + count)).accepts readBeat (inputs (start + 1 + count)) :=
    Machine.traceLog_succ _ _ _ _ _
  obtain ⟨tiles, pages⟩ := course.reading.accepts_next fits course.inPage course.tiles
    (i := inputs (start + 1 + count))
  refine ⟨?_, ?_, ?_, ?_, ?_, ?_⟩
  · rw [delivered, List.length_append]
    exact course.reading.step fits undisturbed unfinished
  · rw [delivered, List.length_append, ← course.reading.delivers_eq, ← course.frames]
  · rw [reader]
    exact course.inPage.advance
  · rw [accepted]
    exact tiles
  · rw [accepted]
    intro burst among
    rcases List.mem_append.mp among with old | new
    · exact course.pages burst old
    · exact pages burst new
  · have count_eq := outstanding_advance course.reading.port.inv.queue
      (i := (stateAt readBeat p inputs (start + 1 + count)).readerIn readBeat (inputs (start + 1 + count)))
    have ledger := course.ledger
    rw [reader, accepted, List.length_append, length_accepts, returnedBursts, ← Nat.add_assoc,
      tally_succ _ (Nat.le_add_right _ _)]
    unfold returnedBursts at ledger
    omega

variable (readBeat p inputs) in
/-- Neither a cancel nor the watchdog interrupts the first `count` cycles of the read. -/
def Uninterrupted (start count : Nat) : Prop :=
  ∀ k < count, Undisturbed readBeat p (stateAt readBeat p inputs (start + 1 + k)) (inputs (start + 1 + k))

theorem course_of_busy (first : Course readBeat p inputs base total start 0) (fits : Fits base total)
    (quiet : Uninterrupted readBeat p inputs start count)
    (busy : ∀ k ≤ count, (stateAt readBeat p inputs (start + 1 + k)).reader.busy = true) :
    Course readBeat p inputs base total start count := by
  induction count with
  | zero => exact first
  | succ count ih =>
    have before := ih (fun k within => quiet k (by omega)) (fun k within => busy k (by omega))
    exact before.next fits (quiet count (Nat.lt_succ_self count)) (busy (count + 1) (Nat.le_refl _))

theorem Course.cycleOk (course : Course readBeat p inputs base total start count) :
    CycleOk readBeat p inputs start count where
  arlen := course.reading.port.arlen_eq
  page := course.pages
  outstanding := by
    have ledger := course.ledger
    have bound := course.reading.port.inv.queue.outstanding_le
    omega

/-- The flag is up in the last of these cycles only. -/
theorem done_iff_ended (ends : EndsAfter readBeat p inputs start count)
    (last : (stateAt readBeat p inputs (start + 1 + count)).reader.done = true) (k : Nat) (within : k ≤ count + 1) :
    (stateAt readBeat p inputs (start + 1 + k)).reader.done = decide (k = count) := by
  have step (n : Nat) : (stateAt readBeat p inputs (n + 1)).reader = (stateAt readBeat p inputs n).reader.step p
    ((stateAt readBeat p inputs n).readerIn readBeat (inputs n)) := rfl
  rcases Nat.lt_trichotomy k count with before | rfl | after
  · rw [decide_eq_false (Nat.ne_of_lt before)]
    by_contra early
    have busy := ends.busy k before
    rw [Nat.add_right_comm, step] at early busy
    rw [idle_of_done (Bool.not_eq_false _ ▸ early)] at busy
    exact Bool.noConfusion busy
  · rw [decide_eq_true rfl, last]
  · have next : k = count + 1 := by omega
    rw [decide_eq_false (Nat.ne_of_gt after), next]
    by_contra late
    rw [← Nat.add_assoc, step] at late
    have busy := (finishes_of_done (Bool.not_eq_false _ ▸ late)).1
    exact Bool.false_ne_true (ends.idle.symm.trans busy)

theorem Course.complete (course : Course readBeat p inputs base total start count)
    (no_cancel : (inputs (start + 1 + count)).cancel = false)
    (ends : EndsAfter readBeat p inputs start (count + 1)) :
    CycleOk readBeat p inputs start (count + 1) ∧ Complete readBeat p inputs base total start (count + 1) := by
  have busy := course.reading.busy
  have reader : (stateAt readBeat p inputs (start + 1 + (count + 1))).reader =
      (stateAt readBeat p inputs (start + 1 + count)).reader.advance p
        ((stateAt readBeat p inputs (start + 1 + count)).readerIn readBeat (inputs (start + 1 + count))) :=
    step_busy busy
  have finished : (stateAt readBeat p inputs (start + 1 + count)).reader.finished
      ((stateAt readBeat p inputs (start + 1 + count)).readerIn readBeat (inputs (start + 1 + count))) = true := by
    have idle := ends.idle
    rw [reader] at idle
    simpa [advance] using idle
  have finish := finished_spec finished
  obtain ⟨all, none, -, done⟩ := course.reading.ends no_cancel finished
  have delivered : deliveredFrames readBeat p inputs start (count + 1) = deliveredFrames readBeat p inputs start count ++
      (stateAt readBeat p inputs (start + 1 + count)).delivers readBeat (inputs (start + 1 + count)) :=
    Machine.traceLog_succ _ _ _ _ _
  have accepted : acceptedBursts readBeat p inputs start (count + 1) = acceptedBursts readBeat p inputs start count := by
    have more : acceptedBursts readBeat p inputs start (count + 1) = acceptedBursts readBeat p inputs start count ++
        (stateAt readBeat p inputs (start + 1 + count)).accepts readBeat (inputs (start + 1 + count)) :=
      Machine.traceLog_succ _ _ _ _ _
    rw [more, accepts, finish.not_arFire, if_neg Bool.false_ne_true, List.append_nil]
  have quiet := course.reading.port.step.inv.quiet ends.idle
  refine ⟨⟨?_, ?_, ?_⟩, ?_, ?_, done_iff_ended ends done⟩
  · intro valid
    exact absurd (quiet.arvalid.symm.trans valid) Bool.false_ne_true
  · rw [accepted]
    exact course.pages
  · have ledger := course.ledger
    have zero := finish.outstanding
    have grown : returnedBursts readBeat p inputs start count ≤ returnedBursts readBeat p inputs start (count + 1) := by
      rw [returnedBursts, returnedBursts, ← Nat.add_assoc, tally_succ _ (Nat.le_add_right _ _)]
      exact Nat.le_add_right _ _
    rw [accepted]
    omega
  · rw [delivered, none, List.append_nil, course.frames, all]
  · have left : (stateAt readBeat p inputs (start + 1 + count)).reader.remaining = 0 :=
      finish.ends.resolve_right (by rw [course.reading.not_draining no_cancel]; exact Bool.false_ne_true)
    have tiles := course.tiles
    rw [course.reading.issue, left, Nat.sub_zero] at tiles
    rw [accepted]
    exact tiles

/-- A read that is served is not interrupted, and it ends. -/
theorem ends_of_served (fits : Fits base total) (some_frame : total ≠ 0)
    (idle : (stateAt readBeat p inputs start).reader.busy = false) (starts : (inputs start).start = true)
    (at_base : (inputs start).baseAddr = base) (frames : (inputs start).totalBeats = total)
    (served : Served p inputs start) :
    ∃ count, Uninterrupted readBeat p inputs start count ∧ EndsAfter readBeat p inputs start count := by
  obtain ⟨last, fell, -⟩ : ∃ count, (stateAt readBeat p inputs (start + 1 + count)).reader.busy = false ∧ _ :=
    read_ends fits served idle starts at_base frames
  obtain ⟨count, -, ends, before⟩ := exists_first (n := 0)
    (Q := fun k => (stateAt readBeat p inputs (start + 1 + k)).reader.busy = false) ⟨last, Nat.zero_le _, fell⟩
  have busy : ∀ k < count, (stateAt readBeat p inputs (start + 1 + k)).reader.busy = true := fun k earlier =>
    Bool.not_eq_false _ ▸ before k (Nat.zero_le _) earlier
  have way : ∀ k < count, UnderWay readBeat p base total inputs start k (stateAt readBeat p inputs (start + 1 + k)) := by
    intro k earlier
    induction k with
    | zero => exact UnderWay.first fits idle starts at_base frames some_frame
    | succ k ih =>
      have now := ih (by omega)
      have next := busy (k + 1) earlier
      refine now.step fits served ?_
      rw [show (stateAt readBeat p inputs (start + 1 + (k + 1))).reader = _ from step_busy now.reading.busy] at next
      simpa [advance] using next
  refine ⟨count, fun k earlier => ⟨served.no_cancel _ (by omega), ?_⟩, busy, ends⟩
  exact (way k earlier).reading.in_time (way k earlier).waits served

/-- A read that nothing interrupts keeps to its range in every cycle, and is whole when it is over.
A read that is served is over at some time. -/
theorem read_whole (fits : Fits base total) (some_frame : total ≠ 0)
    (idle : (stateAt readBeat p inputs start).reader.busy = false) (starts : (inputs start).start = true)
    (at_base : (inputs start).baseAddr = base) (frames : (inputs start).totalBeats = total) :
    (∀ count, Uninterrupted readBeat p inputs start count →
      (∀ k ≤ count, (stateAt readBeat p inputs (start + 1 + k)).reader.busy = true) →
        CycleOk readBeat p inputs start count) ∧
    (∀ count, Uninterrupted readBeat p inputs start count → EndsAfter readBeat p inputs start count →
      CycleOk readBeat p inputs start count ∧ Complete readBeat p inputs base total start count) ∧
    (Served p inputs start →
      ∃ count, Uninterrupted readBeat p inputs start count ∧ EndsAfter readBeat p inputs start count) := by
  have first := Course.first fits some_frame idle starts at_base frames
  refine ⟨fun count quiet busy => (course_of_busy first fits quiet busy).cycleOk, fun count quiet ends => ?_,
    ends_of_served fits some_frame idle starts at_base frames⟩
  cases count with
  | zero => exact absurd (ends.idle.symm.trans first.reading.busy) Bool.false_ne_true
  | succ count =>
    have before : Uninterrupted readBeat p inputs start count := fun k within => quiet k (by omega)
    have course := course_of_busy first fits before (fun k within => ends.busy k (by omega))
    exact course.complete (quiet count (Nat.lt_succ_self count)).no_cancel ends

end Runs

section Stalled

/-- A memory whose words are their addresses. -/
def addressWords (address : Nat) (_ : Channel) : Nat := address

/-- Two frames on either side of a page boundary. -/
def pagedRead (n : Nat) : MemoryReadIn where
  start := n == 0
  cancel := false
  baseAddr := 3840
  totalBeats := 2
  fifoFreeBeats := 1024
  arready := true
  respond := true
  frameReady := true

theorem pagedRead_whole : Complete addressWords playbackReaderParams pagedRead 3840 2 0 12 := by
  have fits : Fits 3840 2 := ⟨by decide, by decide, by decide⟩
  have in_time : ∀ k < 12, (stateAt addressWords playbackReaderParams pagedRead (0 + 1 + k)).reader.timesOut
      playbackReaderParams ((stateAt addressWords playbackReaderParams pagedRead (0 + 1 + k)).readerIn addressWords
        (pagedRead (0 + 1 + k))) = false := by decide
  have ends : EndsAfter addressWords playbackReaderParams pagedRead 0 12 := ⟨by decide, by decide⟩
  exact ((read_whole fits (by decide) rfl rfl rfl rfl).2.1 12 (fun k within => ⟨rfl, in_time k within⟩) ends).2

/-- One frame, whose address the memory accepts only when the watchdog has expired. -/
def stalledRead (n : Nat) : MemoryReadIn where
  start := n == 0
  cancel := false
  baseAddr := 0
  totalBeats := 1
  fifoFreeBeats := 1024
  arready := decide (300002 ≤ n)
  respond := true
  frameReady := true

/-- The reader with its address on the bus, the watchdog at `count`. -/
def stalledAt (count : Nat) : MemoryRead Nat :=
  { stateAt addressWords playbackReaderParams stalledRead 2 with
    reader := { (stateAt addressWords playbackReaderParams stalledRead 2).reader with watchdog := count } }

theorem stateAt_stalled (count : Nat) (early : count < 300000) :
    stateAt addressWords playbackReaderParams stalledRead (2 + count) = stalledAt count := by
  induction count with
  | zero => rfl
  | succ count ih =>
    have unready : (stalledRead (2 + count)).arready = false := decide_eq_false (by omega)
    rw [← Nat.add_assoc, stateAt_succ, ih (by omega)]
    exact step_stalled rfl ⟨rfl, rfl⟩ rfl rfl rfl rfl early (by decide) rfl unready

def expiredAt (count : Nat) : MemoryRead Nat :=
  (memoryRead addressWords playbackReaderParams).run (stalledAt 299999)
    ((List.range count).map fun k => stalledRead (300001 + k))

theorem stateAt_expired (count : Nat) :
    stateAt addressWords playbackReaderParams stalledRead (300001 + count) = expiredAt count := by
  induction count with
  | zero => exact stateAt_stalled 299999 (by decide)
  | succ count ih =>
    rw [← Nat.add_assoc, stateAt_succ, ih, expiredAt, expiredAt, List.range_succ, List.map_append, Machine.run_append]
    rfl

theorem stalledRead_state (n : Nat) (first : 1 ≤ n) (before : n < 300008) :
    (stateAt addressWords playbackReaderParams stalledRead n).reader.busy = true ∧
      (stateAt addressWords playbackReaderParams stalledRead n).reader.frameValid = false := by
  rcases Nat.lt_or_ge n 2 with one | waits
  · rw [show n = 1 by omega]
    exact ⟨rfl, rfl⟩
  · rcases Nat.lt_or_ge n 300001 with early | late
    · rw [show n = 2 + (n - 2) by omega, stateAt_stalled (n - 2) (by omega)]
      exact ⟨rfl, rfl⟩
    · have drains : ∀ k < 7, (expiredAt k).reader.busy = true ∧ (expiredAt k).reader.frameValid = false := by
        decide
      rw [show n = 300001 + (n - 300001) by omega, stateAt_expired (n - 300001)]
      exact drains (n - 300001) (by omega)

theorem stalledRead_incomplete :
    Fits 0 1 ∧ (∀ n, (stalledRead n).cancel = false) ∧
      EndsAfter addressWords playbackReaderParams stalledRead 0 300007 ∧
      deliveredFrames addressWords playbackReaderParams stalledRead 0 300007 = [] ∧
      ¬ Complete addressWords playbackReaderParams stalledRead 0 1 0 300007 := by
  have none : deliveredFrames addressWords playbackReaderParams stalledRead 0 300007 = [] := by
    refine List.flatMap_eq_nil_iff.mpr fun n among => ?_
    have within := List.mem_range'_1.mp among
    have clear := (stalledRead_state n (by omega) (by omega)).2
    change delivers addressWords (stateAt addressWords playbackReaderParams stalledRead n) (stalledRead n) = []
    rw [delivers, frameFire, clear, Bool.false_and, if_neg Bool.false_ne_true]
  refine ⟨⟨by decide, by decide, by decide⟩, fun _ => rfl, ⟨fun k within => ?_, ?_⟩, none, fun whole => ?_⟩
  · exact (stalledRead_state (0 + 1 + k) (by omega) (by omega)).1
  · have idle : (expiredAt 7).reader.busy = false := by decide
    have last : stateAt addressWords playbackReaderParams stalledRead (300001 + 7) = expiredAt 7 := stateAt_expired 7
    exact (congrArg (fun s => s.reader.busy) last).trans idle
  · have one := congrArg List.length whole.frames
    rw [none, length_framesAt] at one
    exact absurd one (by decide)

end Stalled

end MemoryRead

end Xczu47dr.Playback
