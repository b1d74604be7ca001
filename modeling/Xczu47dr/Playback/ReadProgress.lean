import Xczu47dr.Clocked.Progress
import Xczu47dr.Playback.ReadFrames

/-! # The end of a read

A memory that moves both channels within the reader's timeout, and a consumer
that takes frames and grants credit again and again, bring every read to its end.
-/

namespace Xczu47dr.Playback

open Clocked DdrReader

variable {Word : Type}

/-- What the environment of a read that starts in cycle `start` owes it. -/
structure Served (p : ReaderParams) (inputs : Nat → MemoryReadIn) (start : Nat) : Prop where
  no_cancel : ∀ n, start < n → (inputs n).cancel = false
  addresses : ∀ n, start < n → ∃ k, k < p.timeoutCycles ∧ (inputs (n + k)).arready = true
  responds : ∀ n, start < n → ∃ k, k < p.timeoutCycles ∧ (inputs (n + k)).respond = true
  consumes : ∀ n, ∃ k, n ≤ k ∧ (inputs k).frameReady = true
  credits : ∀ n, ∃ k, n ≤ k ∧ (inputs k).fifoFreeBeats ≠ 0

namespace MemoryRead

variable {readBeat : Nat → Channel → Word} {p : ReaderParams} {base total delivered : Nat}
  {s : MemoryRead Word} {i : MemoryReadIn} {inputs : Nat → MemoryReadIn} {start n : Nat}

theorem PortOk.owed_iff (port : s.PortOk p) : s.owed = [] ↔ s.reader.outstanding = 0 := by
  have length := port.length_owed
  rw [← bursts_eq_nil (p := p)]
  constructor
  · intro none
    rw [none, List.length_nil] at length
    cases held : s.reader.bursts p with
    | nil => rfl
    | cons first rest =>
      have below := port.returned_lt first (by rw [held]; rfl)
      rw [held, List.sum_cons] at length
      omega
  · intro none
    rw [none, List.sum_nil] at length
    exact List.length_eq_zero_iff.mp (by omega)

/-- A beat on offer that the reader can take. -/
theorem Reading.rFire_of_respond (reading : s.Reading readBeat p base total delivered)
    (owes : s.reader.outstanding ≠ 0) (ready : s.reader.frameValid = false ∨ i.frameReady = true)
    (respond : i.respond = true) : s.reader.rFire (s.readerIn readBeat i) = true := by
  have some_beat : s.owed.isEmpty = false := by
    cases owed : s.owed with
    | nil => exact absurd (reading.port.owed_iff.mp owed) owes
    | cons first rest => rfl
  have ready : (!s.reader.frameValid || (s.readerIn readBeat i).frameReady) = true := by
    rcases ready with invalid | ready
    · rw [invalid, Bool.not_false, Bool.true_or]
    · rw [show (s.readerIn readBeat i).frameReady = true from ready, Bool.or_true]
  simp only [rFire, rready, reading.busy, ready, Bool.and_true, Bool.true_and, bne_iff_ne, Bool.and_eq_true]
  exact ⟨by rw [readerIn, respond, some_beat]; rfl, owes⟩

/-! ## No timeout -/

/-- The watchdog has counted cycles in which one channel did not move. -/
structure Waits (inputs : Nat → MemoryReadIn) (start n : Nat) (s : MemoryRead Word) : Prop where
  since : start + s.reader.watchdog < n
  channel : s.reader.watchdog = 0 ∨
    (s.reader.arvalid = true ∧ ∀ j, 1 ≤ j → j ≤ s.reader.watchdog → (inputs (n - j)).arready = false) ∨
    (s.reader.frameValid = false ∧ s.reader.outstanding ≠ 0 ∧
      ∀ j, 1 ≤ j → j ≤ s.reader.watchdog → (inputs (n - j)).respond = false)

/-- A cycle the watchdog counts: one channel has not moved since it began to count. -/
theorem Reading.waits_now (reading : s.Reading readBeat p base total delivered) (waits : s.Waits inputs start n)
    (counts : s.reader.watchdogRests (s.readerIn readBeat (inputs n)) = false) :
    (s.reader.arvalid = true ∧ ∀ j, j ≤ s.reader.watchdog → (inputs (n - j)).arready = false) ∨
    ((s.reader.frameValid = false ∨ (inputs n).frameReady = true) ∧ s.reader.outstanding ≠ 0 ∧
      ∀ j, j ≤ s.reader.watchdog → (inputs (n - j)).respond = false) := by
  simp only [watchdogRests, Bool.or_eq_false_iff, Bool.and_eq_false_iff, Bool.not_eq_false'] at counts
  obtain ⟨⟨⟨no_address, no_beat⟩, under_way⟩, ready⟩ := counts
  have address_stalls : s.reader.arvalid = true → (inputs n).arready = false := fun valid => by
    rw [arFire, valid, Bool.true_and] at no_address
    exact no_address
  have data_stalls : s.reader.outstanding ≠ 0 → (s.reader.frameValid = false ∨ (inputs n).frameReady = true) →
      (inputs n).respond = false := fun owes free => by
    by_contra responds
    rw [reading.rFire_of_respond owes free (Bool.not_eq_false _ ▸ responds)] at no_beat
    exact absurd no_beat (by decide)
  have now : ∀ (stalled : Nat → Bool), stalled n = false →
      (s.reader.watchdog = 0 ∨ ∀ j, 1 ≤ j → j ≤ s.reader.watchdog → stalled (n - j) = false) →
      ∀ j, j ≤ s.reader.watchdog → stalled (n - j) = false := by
    intro stalled here before j bound
    cases j with
    | zero => exact here
    | succ j => exact before.elim (fun zero => by omega) (fun held => held (j + 1) (by omega) bound)
  rcases waits.channel with zero | ⟨valid, before⟩ | ⟨invalid, owes, before⟩
  · cases valid : s.reader.arvalid with
    | true => exact .inl ⟨rfl, now (fun k => (inputs k).arready) (address_stalls valid) (.inl zero)⟩
    | false =>
      rw [valid] at ready
      have ready := ready.resolve_left Bool.false_ne_true
      simp only [rready, Bool.and_eq_true, bne_iff_ne, Bool.or_eq_true, Bool.not_eq_true'] at ready
      obtain ⟨⟨-, owes⟩, free⟩ := ready
      exact .inr ⟨free, owes, now (fun k => (inputs k).respond) (data_stalls owes free) (.inl zero)⟩
  · exact .inl ⟨valid, now (fun k => (inputs k).arready) (address_stalls valid) (.inr before)⟩
  · exact .inr ⟨.inl invalid, owes, now (fun k => (inputs k).respond) (data_stalls owes (.inl invalid)) (.inr before)⟩

/-- A memory that moves both channels in time is never timed out. -/
theorem Reading.in_time (reading : s.Reading readBeat p base total delivered) (waits : s.Waits inputs start n)
    (served : Served p inputs start) : s.reader.timesOut p (s.readerIn readBeat (inputs n)) = false := by
  by_contra expires
  simp only [timesOut, Bool.not_eq_false, Bool.and_eq_true, Bool.not_eq_true', beq_iff_eq] at expires
  obtain ⟨⟨counts, -⟩, full⟩ := expires
  have positive := p.timeout_pos
  have since := waits.since
  have within : start < n - s.reader.watchdog := by omega
  rcases reading.waits_now waits counts with ⟨-, stalls⟩ | ⟨-, -, stalls⟩
  · obtain ⟨k, early, moves⟩ := served.addresses (n - s.reader.watchdog) within
    have still := stalls (s.reader.watchdog - k) (by omega)
    rw [show n - (s.reader.watchdog - k) = n - s.reader.watchdog + k by omega, moves] at still
    exact Bool.noConfusion still
  · obtain ⟨k, early, moves⟩ := served.responds (n - s.reader.watchdog) within
    have still := stalls (s.reader.watchdog - k) (by omega)
    rw [show n - (s.reader.watchdog - k) = n - s.reader.watchdog + k by omega, moves] at still
    exact Bool.noConfusion still

theorem Reading.waits_step (reading : s.Reading readBeat p base total delivered) (waits : s.Waits inputs start n)
    (served : Served p inputs start) : (s.step readBeat p (inputs n)).Waits inputs start (n + 1) := by
  have in_time := reading.in_time waits served
  have since := waits.since
  have watchdog : (s.step readBeat p (inputs n)).reader.watchdog =
      if s.reader.watchdogRests (s.readerIn readBeat (inputs n)) then 0 else (s.reader.watchdog + 1) % 2 ^ 32 := by
    rw [step_busy reading.busy]
    simp [advance, reading.live.2, in_time]
  cases counts : s.reader.watchdogRests (s.readerIn readBeat (inputs n)) with
  | true =>
    rw [counts, if_pos rfl] at watchdog
    exact ⟨by omega, .inl watchdog⟩
  | false =>
    rw [counts, if_neg Bool.false_ne_true] at watchdog
    refine ⟨by omega, ?_⟩
    by_cases wraps : (s.reader.watchdog + 1) % 2 ^ 32 = 0
    · exact .inl (watchdog.trans wraps)
    · have one_more : (s.step readBeat p (inputs n)).reader.watchdog ≤ s.reader.watchdog + 1 := by omega
      have before : ∀ (stalled : Nat → Bool), (∀ j, j ≤ s.reader.watchdog → stalled (n - j) = false) →
          ∀ j, 1 ≤ j → j ≤ (s.step readBeat p (inputs n)).reader.watchdog → stalled (n + 1 - j) = false := by
        intro stalled held j low high
        rw [show n + 1 - j = n - (j - 1) by omega]
        exact held (j - 1) (by omega)
      have quiet : s.reader.arFire (s.readerIn readBeat (inputs n)) = false ∧
          s.reader.rFire (s.readerIn readBeat (inputs n)) = false := by
        simp only [watchdogRests, Bool.or_eq_false_iff] at counts
        exact counts.1.1
      have outstanding := outstanding_advance reading.port.inv.queue (i := s.readerIn readBeat (inputs n))
      rcases reading.waits_now waits counts with ⟨valid, stalls⟩ | ⟨free, owes, stalls⟩
      · refine .inr (.inl ⟨?_, before (fun k => (inputs k).arready) stalls⟩)
        rw [step_busy reading.busy]
        simp [advance, quiet.1, valid]
      · refine .inr (.inr ⟨?_, ?_, before (fun k => (inputs k).respond) stalls⟩)
        · have emptied : (s.reader.frameValid && !s.reader.frameFire (s.readerIn readBeat (inputs n))) = false := by
            rcases free with invalid | ready
            · rw [invalid, Bool.false_and]
            · have ready : (s.readerIn readBeat (inputs n)).frameReady = true := ready
              rw [frameFire, ready, Bool.and_true, Bool.and_not_self]
          rw [step_busy reading.busy]
          simp [advance, quiet.2, emptied]
        · rw [step_busy reading.busy]
          rw [quiet.1, retiring, quiet.2] at outstanding
          simp only [Bool.false_and, Bool.toNat_false, Nat.add_zero] at outstanding
          rw [outstanding]
          exact owes

/-! ## What is left to do -/

/-- The work left: every frame costs its reservation, its share of an address, four
    beats and its delivery. -/
def rank (s : MemoryRead Word) : Nat :=
  16 * s.reader.remaining + (!s.reader.arvalid).toNat + 2 * s.owed.length + s.reader.frameValid.toNat

theorem Reading.rank_step (fits : Fits base total) (reading : s.Reading readBeat p base total delivered)
    (no_cancel : i.cancel = false) :
    (s.step readBeat p i).rank + (s.reader.arFire (s.readerIn readBeat i)).toNat +
      (s.reader.rFire (s.readerIn readBeat i)).toNat + (s.reader.reserveNew p (s.readerIn readBeat i)).toNat +
      (s.reader.frameFire (s.readerIn readBeat i)).toNat ≤ s.rank := by
  have length := (reading.addresses_step (i := i)).2
  have total_eq := (reading.issue_step fits (i := i)).2.2
  have remaining := (reading.issue_step fits (i := i)).1
  have left := reading.remaining_le
  have keep := reading.not_draining (i := i) no_cancel
  -- the address register
  have address : (!(s.step readBeat p i).reader.arvalid).toNat +
      (s.reader.reserveNew p (s.readerIn readBeat i)).toNat ≤
        (!s.reader.arvalid).toNat + (s.reader.arFire (s.readerIn readBeat i)).toNat := by
    rw [step_busy reading.busy]
    simp only [advance]
    cases reserve : s.reader.reserveNew p (s.readerIn readBeat i) with
    | true =>
      have r := reserveNew_spec reserve
      simp [r.arvalid, arFire]
    | false =>
      cases fire : s.reader.arFire (s.readerIn readBeat i) with
      | true => rw [arFire_arvalid fire]; rfl
      | false => simp
  -- the frame register
  have frame : (s.step readBeat p i).reader.frameValid.toNat + (s.reader.frameFire (s.readerIn readBeat i)).toNat ≤
      s.reader.frameValid.toNat + (s.reader.rFire (s.readerIn readBeat i)).toNat := by
    rw [step_busy reading.busy]
    simp only [advance, keep]
    cases fire : s.reader.rFire (s.readerIn readBeat i) with
    | true =>
      rw [frameFire_of_rFire fire]
      cases s.reader.frameValid <;> cases s.reader.slice == 3 <;> decide
    | false =>
      simp only [frameFire]
      cases s.reader.frameValid <;> cases (s.readerIn readBeat i).frameReady <;> simp
  unfold rank
  cases fire : s.reader.arFire (s.readerIn readBeat i) with
  | false =>
    rw [fire] at length total_eq address
    simp only [Bool.false_eq_true, if_false, Bool.toNat_false] at length total_eq address ⊢
    omega
  | true =>
    have valid := arFire_arvalid fire
    have pending := (reading.port.inv.queue.pending_range valid).1
    rw [fire] at length total_eq address
    simp only [if_true, Bool.toNat_true] at length total_eq address ⊢
    omega

/-- Who has to act next. -/
inductive Turn
  | consumer
  | data
  | address
  | credit
  deriving DecidableEq

def turn (s : MemoryRead Word) : Turn :=
  if s.reader.frameValid then .consumer
  else if s.owed.isEmpty = false then .data
  else if s.reader.arvalid then .address
  else .credit

def acts (i : MemoryReadIn) : Turn → Prop
  | .consumer => i.frameReady = true
  | .data => i.respond = true
  | .address => i.arready = true
  | .credit => i.fifoFreeBeats ≠ 0

/-- Once the one whose turn it is acts, something moves. -/
theorem Reading.moves (reading : s.Reading readBeat p base total delivered) (no_cancel : i.cancel = false)
    (going : s.reader.finished (s.readerIn readBeat i) = false) (acted : acts i s.turn) :
    s.reader.arFire (s.readerIn readBeat i) = true ∨ s.reader.rFire (s.readerIn readBeat i) = true ∨
      s.reader.reserveNew p (s.readerIn readBeat i) = true ∨ s.reader.frameFire (s.readerIn readBeat i) = true := by
  unfold turn at acted
  cases valid : s.reader.frameValid with
  | true =>
    rw [valid, if_pos rfl] at acted
    have ready : (s.readerIn readBeat i).frameReady = true := acted
    exact .inr (.inr (.inr (by rw [frameFire, valid, ready]; rfl)))
  | false =>
    rw [valid, if_neg Bool.false_ne_true] at acted
    by_cases owes : s.owed.isEmpty = false
    · rw [if_pos owes] at acted
      have outstanding : s.reader.outstanding ≠ 0 := fun zero => by
        rw [reading.port.owed_iff.mpr zero] at owes
        exact Bool.noConfusion owes
      exact .inr (.inl (reading.rFire_of_respond outstanding (.inl valid) acted))
    · rw [if_neg owes] at acted
      cases presented : s.reader.arvalid with
      | true =>
        rw [presented, if_pos rfl] at acted
        have ready : (s.readerIn readBeat i).arready = true := acted
        exact .inl (by rw [arFire, presented, ready]; rfl)
      | false =>
        rw [presented, if_neg Bool.false_ne_true] at acted
        have keep := reading.not_draining (i := i) no_cancel
        have none : s.owed = [] := List.isEmpty_iff.mp (Bool.not_eq_false _ ▸ owes)
        have outstanding := reading.port.owed_iff.mp none
        have empty : s.reader.bursts p = [] := bursts_eq_nil.mpr outstanding
        have positive := maxOutstanding_pos p
        -- nothing is reserved, so every credit will do
        have balanced := reading.port.inv.live reading.live
        have reserved : s.reader.reserved = 0 := by
          have balance := balanced.balance
          have slice := balanced.slice_eq
          rw [balanced.returned_zero empty] at balance slice
          rw [empty, valid, addressed, presented, if_neg Bool.false_ne_true, List.sum_nil, Bool.toNat_false] at balance
          omega
        have left : s.reader.remaining ≠ 0 := by
          intro zero
          rw [finished, presented, outstanding, valid, zero] at going
          simp at going
        have credit : fifoFreeCredit (s.readerIn readBeat i) ≠ 0 := by
          have granted : (s.readerIn readBeat i).fifoFreeBeats ≠ 0 := acted
          unfold fifoFreeCredit fifoCreditMax
          split <;> omega
        have clamp : s.reader.burstClamp p ≠ 0 := by
          have low := p.burst_pos
          have high := p.burst_le
          unfold burstClamp
          by_cases one : p.burstFrames = 1
          · rw [if_pos one, if_pos left]
            exact Nat.one_ne_zero
          · rw [if_neg one]
            split <;> omega
        have proposed : s.reader.proposedFrames p (s.readerIn readBeat i) ≠ 0 := by
          simp only [proposedFrames, reserved, pageFrames]
          rw [if_neg (by omega)]
          omega
        refine .inr (.inr (.inl ?_))
        simp only [reserveNew, reading.busy, keep, presented, Bool.not_false, Bool.true_and, Bool.and_eq_true,
          bne_iff_ne]
        refine ⟨⟨left, ?_⟩, proposed⟩
        split
        · rw [outstanding]
          rfl
        · exact decide_eq_true (by omega)

/-- While nothing moves the turn does not change. -/
theorem Reading.turn_still (reading : s.Reading readBeat p base total delivered)
    (address : s.reader.arFire (s.readerIn readBeat i) = false)
    (beat : s.reader.rFire (s.readerIn readBeat i) = false)
    (reserve : s.reader.reserveNew p (s.readerIn readBeat i) = false)
    (frame : s.reader.frameFire (s.readerIn readBeat i) = false) : (s.step readBeat p i).turn = s.turn := by
  have reader : (s.step readBeat p i).reader = _ := step_busy reading.busy
  have valid : (s.step readBeat p i).reader.frameValid = s.reader.frameValid := by
    rw [reader]
    simp [advance, beat, frame]
  have presented : (s.step readBeat p i).reader.arvalid = s.reader.arvalid := by
    rw [reader]
    simp [advance, address, reserve]
  have owed : (s.step readBeat p i).owed = s.owed := by
    simp [MemoryRead.step, accepted, beat, address]
  rw [turn, turn, valid, presented, owed]

/-- A cycle that does not end the read leaves less to do, or changes nothing. -/
theorem Reading.progress (fits : Fits base total) (reading : s.Reading readBeat p base total delivered)
    (no_cancel : i.cancel = false) (going : s.reader.finished (s.readerIn readBeat i) = false) :
    (s.step readBeat p i).rank < s.rank ∨ (s.step readBeat p i).rank = s.rank ∧
      (s.step readBeat p i).turn = s.turn ∧ ¬ acts i s.turn := by
  have work := reading.rank_step fits no_cancel
  by_cases less : (s.step readBeat p i).rank < s.rank
  · exact .inl less
  · have equal : (s.step readBeat p i).rank = s.rank := by omega
    have address := Bool.toNat_eq_zero.mp (show (s.reader.arFire (s.readerIn readBeat i)).toNat = 0 by omega)
    have beat := Bool.toNat_eq_zero.mp (show (s.reader.rFire (s.readerIn readBeat i)).toNat = 0 by omega)
    have reserve := Bool.toNat_eq_zero.mp (show (s.reader.reserveNew p (s.readerIn readBeat i)).toNat = 0 by omega)
    have frame := Bool.toNat_eq_zero.mp (show (s.reader.frameFire (s.readerIn readBeat i)).toNat = 0 by omega)
    refine .inr ⟨equal, reading.turn_still address beat reserve frame, fun acted => ?_⟩
    have moved := reading.moves no_cancel going acted
    rw [address, beat, reserve, frame] at moved
    simp at moved

end MemoryRead

/-! ## A whole read -/

section Run

open MemoryRead (Fits)

variable [Inhabited Word] {readBeat : Nat → Channel → Word} {p : ReaderParams} {base total : Nat}
  {inputs : Nat → MemoryReadIn} {start : Nat}

/-- The frames delivered in the `count` cycles behind the start. -/
def deliveredFrames (readBeat : Nat → Channel → Word) (p : ReaderParams) (inputs : Nat → MemoryReadIn)
    (start count : Nat) : List (Frame Word) :=
  (memoryRead readBeat p).traceLog (MemoryRead.delivers readBeat) inputs (start + 1) count

theorem portOk_trace (n : Nat) : ((memoryRead readBeat p).trace inputs n).PortOk p :=
  Machine.trace_invariant _ inputs MemoryRead.portOk_reset (fun _ _ port => port.step) n

/-- A read under way, `count` cycles behind its start. -/
structure UnderWay (readBeat : Nat → Channel → Word) (p : ReaderParams) (base total : Nat)
    (inputs : Nat → MemoryReadIn) (start count : Nat) (s : MemoryRead Word) : Prop where
  reading : s.Reading readBeat p base total (deliveredFrames readBeat p inputs start count).length
  waits : s.Waits inputs start (start + 1 + count)
  frames : deliveredFrames readBeat p inputs start count =
    framesAt readBeat base (deliveredFrames readBeat p inputs start count).length

theorem UnderWay.step (fits : Fits base total) (served : Served p inputs start) {count : Nat}
    (way : UnderWay readBeat p base total inputs start count
      ((memoryRead readBeat p).trace inputs (start + 1 + count)))
    (going : ((memoryRead readBeat p).trace inputs (start + 1 + count)).reader.finished
      (((memoryRead readBeat p).trace inputs (start + 1 + count)).readerIn readBeat
        (inputs (start + 1 + count))) = false) :
    UnderWay readBeat p base total inputs start (count + 1)
      ((memoryRead readBeat p).trace inputs (start + 1 + (count + 1))) := by
  have no_cancel := served.no_cancel (start + 1 + count) (by omega)
  have more : deliveredFrames readBeat p inputs start (count + 1) = deliveredFrames readBeat p inputs start count ++
      ((memoryRead readBeat p).trace inputs (start + 1 + count)).delivers readBeat (inputs (start + 1 + count)) :=
    Machine.traceLog_succ _ _ _ _ _
  have reading := way.reading.step fits ⟨no_cancel, way.reading.in_time way.waits served⟩ going
  refine ⟨?_, way.reading.waits_step way.waits served, ?_⟩
  · rw [more, List.length_append]
    exact reading
  · rw [more, List.length_append, ← way.reading.delivers_eq, ← way.frames]

theorem UnderWay.first (fits : Fits base total)
    (idle : ((memoryRead readBeat p).trace inputs start).reader.busy = false)
    (starts : (inputs start).start = true) (at_base : (inputs start).baseAddr = base)
    (frames : (inputs start).totalBeats = total) (some_frame : total ≠ 0) :
    UnderWay readBeat p base total inputs start 0 ((memoryRead readBeat p).trace inputs (start + 1 + 0)) := by
  have watchdog : ((memoryRead readBeat p).trace inputs (start + 1)).reader.watchdog = 0 := by
    have reader := @MemoryRead.step_start Word readBeat p _ _ starts idle
    exact congrArg DdrReader.watchdog reader
  exact ⟨MemoryRead.reading_start fits (portOk_trace start) idle starts at_base frames some_frame,
    ⟨by rw [Nat.add_zero, watchdog]; omega, .inl watchdog⟩, rfl⟩

/-- Every read of a memory that is served ends with exactly its frames delivered. -/
theorem read_ends (fits : Fits base total) (served : Served p inputs start)
    (idle : ((memoryRead readBeat p).trace inputs start).reader.busy = false)
    (starts : (inputs start).start = true) (at_base : (inputs start).baseAddr = base)
    (frames : (inputs start).totalBeats = total) :
    ∃ count, ((memoryRead readBeat p).trace inputs (start + 1 + count)).reader.busy = false ∧
      (total ≠ 0 → ((memoryRead readBeat p).trace inputs (start + 1 + count)).reader.done = true) ∧
      deliveredFrames readBeat p inputs start count = framesAt readBeat base total := by
  by_cases none : total = 0
  · refine ⟨0, MemoryRead.refused_start idle starts (frames.trans none), fun some_frame => absurd none some_frame, ?_⟩
    rw [none]
    rfl
  · have first := UnderWay.first fits idle starts at_base frames none
    have ends := leadsTo_of_turns (σ := fun k => (k, (memoryRead readBeat p).trace inputs (start + 1 + k)))
      (P := fun now => UnderWay readBeat p base total inputs start now.1 now.2)
      (Q := fun now => UnderWay readBeat p base total inputs start now.1 now.2 ∧
        now.2.reader.finished (now.2.readerIn readBeat (inputs (start + 1 + now.1))) = true)
      (fun now => now.2.rank) (fun now => now.2.turn)
      (fun t k => MemoryRead.acts (inputs (start + 1 + k)) t) ?_ ?_ 0 first
    · obtain ⟨count, -, way, finished⟩ := ends
      obtain ⟨whole, last, busy, done⟩ :=
        way.reading.ends (served.no_cancel (start + 1 + count) (by omega)) finished
      refine ⟨count + 1, busy, fun _ => done, ?_⟩
      have more : deliveredFrames readBeat p inputs start (count + 1) =
          deliveredFrames readBeat p inputs start count ++ _ := Machine.traceLog_succ _ _ _ _ _
      rw [more, way.frames, whole]
      exact (congrArg _ last).trans (List.append_nil _)
    · intro k way
      have no_cancel := served.no_cancel (start + 1 + k) (by omega)
      cases finished : ((memoryRead readBeat p).trace inputs (start + 1 + k)).reader.finished
          (((memoryRead readBeat p).trace inputs (start + 1 + k)).readerIn readBeat (inputs (start + 1 + k))) with
      | true => exact .inl ⟨way, rfl⟩
      | false =>
        exact .inr ⟨way.step fits served finished, way.reading.progress fits no_cancel finished⟩
    · intro t n
      cases t with
      | consumer =>
        obtain ⟨k, later, acted⟩ := served.consumes (start + 1 + n)
        exact ⟨k - (start + 1), by omega, by rw [show start + 1 + (k - (start + 1)) = k by omega]; exact acted⟩
      | data =>
        obtain ⟨k, -, acted⟩ := served.responds (start + 1 + n) (by omega)
        exact ⟨n + k, by omega, by rw [← Nat.add_assoc]; exact acted⟩
      | address =>
        obtain ⟨k, -, acted⟩ := served.addresses (start + 1 + n) (by omega)
        exact ⟨n + k, by omega, by rw [← Nat.add_assoc]; exact acted⟩
      | credit =>
        obtain ⟨k, later, acted⟩ := served.credits (start + 1 + n)
        exact ⟨k - (start + 1), by omega, by rw [show start + 1 + (k - (start + 1)) = k by omega]; exact acted⟩

end Run

end Xczu47dr.Playback
