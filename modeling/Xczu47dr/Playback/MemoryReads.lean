import Xczu47dr.Playback.ReaderInvariant

/-! # The reader on a memory

The DDR memory behind the AXI4 read port: it answers the bursts whose addresses
it has accepted, in order, one beat after the other, each beat from its own
address and the last one marked.  It may stall the address and the data channel
as it likes.
-/

namespace Xczu47dr.Playback

open Clocked

variable {Word : Type}

/-- The addresses of a burst's 64-byte beats, each with its `rlast`. -/
def burstBeats (address beats : Nat) : List (Nat × Bool) :=
  (List.range beats).map fun j => (address + 64 * j, j + 1 == beats)

/-- The reader and the beats the memory still owes it. -/
structure MemoryRead (Word : Type) where
  reader : DdrReader Word
  owed : List (Nat × Bool)

/-- What the reader and the memory sample at one clock edge.  `respond` offers the
    next beat if there is one. -/
structure MemoryReadIn where
  start : Bool
  cancel : Bool
  baseAddr : Nat
  totalBeats : Nat
  fifoFreeBeats : Nat
  arready : Bool
  respond : Bool
  frameReady : Bool

namespace MemoryRead

variable (readBeat : Nat → Channel → Word) (p : ReaderParams) (s : MemoryRead Word) (i : MemoryReadIn)

def reset [Inhabited Word] : MemoryRead Word where
  reader := .reset
  owed := []

def readerIn : ReaderIn Word where
  start := i.start
  cancel := i.cancel
  baseAddr := i.baseAddr
  totalBeats := i.totalBeats
  fifoFreeBeats := i.fifoFreeBeats
  arready := i.arready
  rdata := readBeat ((s.owed.head?.map Prod.fst).getD 0)
  rresp := 0
  rvalid := i.respond && !s.owed.isEmpty
  rlast := (s.owed.head?.map Prod.snd).getD false
  frameReady := i.frameReady

/-- The beats of the burst whose address is accepted in this cycle. -/
def accepted : List (Nat × Bool) :=
  if s.reader.arFire (s.readerIn readBeat i) then burstBeats s.reader.araddr (s.reader.arlen + 1) else []

def step : MemoryRead Word where
  reader := s.reader.step p (s.readerIn readBeat i)
  owed := (if s.reader.rFire (s.readerIn readBeat i) then s.owed.tail else s.owed) ++ s.accepted readBeat i

/-- The frame handed downstream in this cycle. -/
def delivers : List (Frame Word) :=
  if s.reader.frameFire (s.readerIn readBeat i) then [s.reader.assembling] else []

end MemoryRead

def memoryRead [Inhabited Word] (readBeat : Nat → Channel → Word) (p : ReaderParams) :
    Machine MemoryReadIn (MemoryRead Word) where
  reset := .reset
  step := MemoryRead.step readBeat p

/-! ## The marks of the last beats -/

/-- The marks of the beats of bursts of these lengths. -/
def lastMarks (lengths : List Nat) : List Bool :=
  lengths.flatMap fun length => (List.range length).map (· + 1 == length)

@[simp] theorem lastMarks_nil : lastMarks [] = [] := rfl

@[simp] theorem lastMarks_append (front back : List Nat) :
    lastMarks (front ++ back) = lastMarks front ++ lastMarks back := List.flatMap_append

@[simp] theorem length_lastMarks (lengths : List Nat) : (lastMarks lengths).length = lengths.sum := by
  induction lengths with
  | nil => rfl
  | cons length rest ih =>
    rw [lastMarks, List.flatMap_cons, List.length_append, List.length_map, List.length_range, List.sum_cons]
    exact congrArg (length + ·) ih

/-- The next mark, and the marks behind it. -/
theorem drop_lastMarks {length returned : Nat} (rest : List Nat) (inside : returned < length) :
    (lastMarks (length :: rest)).drop returned =
      (returned + 1 == length) :: (lastMarks (length :: rest)).drop (returned + 1) := by
  have within : returned < (lastMarks (length :: rest)).length := by
    rw [length_lastMarks, List.sum_cons]
    omega
  rw [List.drop_eq_getElem_cons within]
  congr 1
  simp only [lastMarks, List.flatMap_cons]
  rw [List.getElem_append_left (by simpa using inside), List.getElem_map, List.getElem_range]

theorem drop_lastMarks_length (length : Nat) (rest : List Nat) :
    (lastMarks (length :: rest)).drop length = lastMarks rest := by
  simp only [lastMarks, List.flatMap_cons]
  exact List.drop_left' (by simp)

@[simp] theorem burstBeats_marks (address beats : Nat) :
    (burstBeats address beats).map Prod.snd = lastMarks [beats] := by
  simp [burstBeats, lastMarks]

@[simp] theorem burstBeats_addresses (address beats : Nat) :
    (burstBeats address beats).map Prod.fst = List.range' address beats 64 := by
  apply List.ext_getElem
  · simp [burstBeats]
  · intro j _ _
    simp [burstBeats]

namespace MemoryRead

open DdrReader

/-- The memory owes exactly what the bursts in flight still lack. -/
structure PortOk (p : ReaderParams) (s : MemoryRead Word) : Prop where
  inv : s.reader.Inv p
  arlen_eq : s.reader.arvalid = true → s.reader.arlen + 1 = 4 * s.reader.pendingFrames
  marks : s.owed.map Prod.snd = (lastMarks (s.reader.bursts p)).drop s.reader.returnedInBurst
  returned_lt : ∀ length ∈ (s.reader.bursts p).head?, s.reader.returnedInBurst < length
  returned_zero : s.reader.bursts p = [] → s.reader.returnedInBurst = 0

variable {readBeat : Nat → Channel → Word} {p : ReaderParams} {s : MemoryRead Word} {i : MemoryReadIn}

theorem PortOk.length_owed (port : s.PortOk p) :
    s.owed.length + s.reader.returnedInBurst = (s.reader.bursts p).sum := by
  have length := congrArg List.length port.marks
  rw [List.length_map, List.length_drop, length_lastMarks] at length
  have bounded : s.reader.returnedInBurst ≤ (s.reader.bursts p).sum := by
    cases held : s.reader.bursts p with
    | nil => exact Nat.le_of_eq (port.returned_zero held)
    | cons first rest =>
      have below := port.returned_lt first (by rw [held]; rfl)
      rw [List.sum_cons]
      omega
  omega

/-- The beat that returns is the next of the oldest burst, marked if it is its last. -/
theorem PortOk.beat (port : s.PortOk p) (fire : s.reader.rFire (s.readerIn readBeat i) = true) :
    ∃ address length rest tail, s.reader.bursts p = length :: rest ∧ s.reader.burstLengths s.reader.head = length ∧
      s.reader.returnedInBurst < length ∧
      s.owed = (address, s.reader.returnedInBurst + 1 == length) :: tail ∧
      tail.map Prod.snd = (lastMarks (length :: rest)).drop (s.reader.returnedInBurst + 1) := by
  have held := bursts_of_rFire port.inv.queue fire
  have below := port.returned_lt _ (by rw [held]; rfl)
  have marks := port.marks
  rw [held, drop_lastMarks _ below] at marks
  cases owes : s.owed with
  | nil => simp [owes] at marks
  | cons first tail =>
    rw [owes, List.map_cons, List.cons.injEq] at marks
    refine ⟨first.1, _, _, tail, held, rfl, below, ?_, marks.2⟩
    rw [← marks.1]

theorem PortOk.no_fault (port : s.PortOk p) : s.reader.rFault (s.readerIn readBeat i) = false := by
  cases fire : s.reader.rFire (s.readerIn readBeat i) with
  | false => rw [rFault, fire, Bool.false_and]
  | true =>
    obtain ⟨address, length, rest, tail, -, head, -, owed, -⟩ := port.beat fire
    rw [rFault, fire, Bool.true_and, Bool.or_eq_false_iff]
    refine ⟨rfl, ?_⟩
    simp [readerIn, owed, head]

theorem owed_pushed (port : s.PortOk p) :
    (s.accepted readBeat i).map Prod.snd = lastMarks (s.reader.pushed (s.readerIn readBeat i)) := by
  unfold accepted pushed
  cases fire : s.reader.arFire (s.readerIn readBeat i) with
  | false => rfl
  | true => rw [if_pos rfl, if_pos rfl, burstBeats_marks, port.arlen_eq (arFire_arvalid fire)]

theorem arlen_advance (port : s.PortOk p)
    (valid : (s.reader.advance p (s.readerIn readBeat i)).arvalid = true) :
    (s.reader.advance p (s.readerIn readBeat i)).arlen + 1 =
      4 * (s.reader.advance p (s.readerIn readBeat i)).pendingFrames := by
  simp only [DdrReader.advance] at valid ⊢
  cases reserve : s.reader.reserveNew p (s.readerIn readBeat i) with
  | true =>
    have bound := proposedFrames_le p s.reader (s.readerIn readBeat i)
    have some_ := (reserveNew_spec reserve).proposed
    rw [if_pos rfl, if_pos rfl]
    omega
  | false =>
    rw [reserve] at valid
    rw [if_neg Bool.false_ne_true, if_neg Bool.false_ne_true]
    apply port.arlen_eq
    cases fire : s.reader.arFire (s.readerIn readBeat i) with
    | true => simp [fire] at valid
    | false => simpa [fire] using valid

/-- One busy cycle keeps the books of the memory. -/
theorem PortOk.advance (port : s.PortOk p)
    (reader : (s.step readBeat p i).reader = s.reader.advance p (s.readerIn readBeat i)) :
    (s.step readBeat p i).PortOk p := by
  have pushed_marks : (s.accepted readBeat i).map Prod.snd = _ := owed_pushed port
  have bursts := bursts_advance port.inv.queue (i := s.readerIn readBeat i)
  have whole := port.inv.queue.advance (i := s.readerIn readBeat i)
  cases fire : s.reader.rFire (s.readerIn readBeat i) with
  | false =>
    have still : s.reader.retiring (s.readerIn readBeat i) = false := by rw [retiring, fire, Bool.false_and]
    have returned : (s.reader.advance p (s.readerIn readBeat i)).returnedInBurst = s.reader.returnedInBurst := by
      simp [DdrReader.advance, fire]
    have owed : (s.step readBeat p i).owed = s.owed ++ s.accepted readBeat i := by
      simp [step, fire]
    rw [still, if_neg Bool.false_ne_true] at bursts
    refine ⟨reader ▸ port.inv.advance, reader ▸ arlen_advance port, ?_, ?_, ?_⟩
    · have within : s.reader.returnedInBurst ≤ (lastMarks (s.reader.bursts p)).length := by
        rw [length_lastMarks, ← port.length_owed]
        exact Nat.le_add_left _ _
      rw [owed, reader, bursts, returned, List.map_append, port.marks, pushed_marks, lastMarks_append,
        List.drop_append_of_le_length within]
    · rw [reader, bursts, returned]
      intro length first
      cases held : s.reader.bursts p with
      | nil =>
        rw [held, List.nil_append] at first
        rw [port.returned_zero held]
        exact (pushed_whole port.inv.queue length (List.mem_of_mem_head? first)).2.1
      | cons oldest rest =>
        rw [held] at first
        exact port.returned_lt length (by rw [held]; exact first)
    · rw [reader, bursts, returned]
      exact fun empty => port.returned_zero (List.append_eq_nil_iff.mp empty).1
  | true =>
    obtain ⟨address, length, rest, tail, held, head, below, owes, marks⟩ := port.beat fire
    have owed : (s.step readBeat p i).owed = tail ++ s.accepted readBeat i := by
      simp [step, fire, owes]
    have last : (s.readerIn readBeat i).rlast = (s.reader.returnedInBurst + 1 == length) := by
      simp [readerIn, owes]
    by_cases final : s.reader.returnedInBurst + 1 = length
    · rw [beq_iff_eq.mpr final] at last
      have retire : s.reader.retiring (s.readerIn readBeat i) = true := by rw [retiring, fire, last]; rfl
      have returned : (s.reader.advance p (s.readerIn readBeat i)).returnedInBurst = 0 := by
        simp [DdrReader.advance, fire, last]
      rw [retire, if_pos rfl, held, List.cons_append, List.tail_cons] at bursts
      rw [final, drop_lastMarks_length] at marks
      refine ⟨reader ▸ port.inv.advance, reader ▸ arlen_advance port, ?_, ?_, fun _ => reader ▸ returned⟩
      · rw [owed, reader, bursts, returned, List.map_append, marks, pushed_marks, lastMarks_append, List.drop_zero]
      · rw [reader, returned]
        exact fun length first => (whole.bursts_whole length (List.mem_of_mem_head? first)).2.1
    · rw [beq_eq_false_iff_ne.mpr final] at last
      have retire : s.reader.retiring (s.readerIn readBeat i) = false := by rw [retiring, fire, last]; rfl
      have short := (port.inv.queue.bursts_whole length (by rw [held]; exact List.mem_cons_self)).2.2
      have returned : (s.reader.advance p (s.readerIn readBeat i)).returnedInBurst = s.reader.returnedInBurst + 1 := by
        have in_range : s.reader.returnedInBurst ≠ 511 := by omega
        simp [DdrReader.advance, fire, last, in_range]
      rw [retire, if_neg Bool.false_ne_true, held] at bursts
      refine ⟨reader ▸ port.inv.advance, reader ▸ arlen_advance port, ?_, ?_, ?_⟩
      · have within : s.reader.returnedInBurst + 1 ≤ (lastMarks (length :: rest)).length := by
          rw [length_lastMarks, List.sum_cons]
          omega
        rw [owed, reader, bursts, returned, List.map_append, marks, pushed_marks, lastMarks_append,
          List.drop_append_of_le_length within]
      · rw [reader, bursts, returned]
        intro oldest first
        rw [List.cons_append, List.head?_cons, Option.mem_def, Option.some_inj] at first
        omega
      · rw [reader, bursts]
        exact fun empty => absurd empty (List.cons_ne_nil _ _)

/-- A reader with nothing under way is owed nothing. -/
theorem PortOk.owed_nil (port : s.PortOk p) (idle : s.reader.busy = false) : s.owed = [] := by
  have none : s.reader.bursts p = [] := bursts_eq_nil.mpr (port.inv.quiet idle).outstanding
  have length := port.length_owed
  rw [none, List.sum_nil] at length
  exact List.length_eq_zero_iff.mp (by omega)

theorem PortOk.idle_still (port : s.PortOk p) (idle : s.reader.busy = false) :
    (s.step readBeat p i).owed = [] := by
  have quiet := port.inv.quiet idle
  have no_beat : s.reader.rFire (s.readerIn readBeat i) = false := by simp [rFire, rready, quiet.outstanding]
  have no_address : s.reader.arFire (s.readerIn readBeat i) = false := by simp [arFire, quiet.arvalid]
  simp [step, accepted, no_beat, no_address, port.owed_nil idle]

theorem portOk_of_empty (inv : s.reader.Inv p) (owed : s.owed = []) (arvalid : s.reader.arvalid = false)
    (outstanding : s.reader.outstanding = 0) (returned : s.reader.returnedInBurst = 0) : s.PortOk p := by
  have empty : s.reader.bursts p = [] := bursts_eq_nil.mpr outstanding
  refine ⟨inv, fun valid => ?_, ?_, ?_, fun _ => returned⟩
  · rw [arvalid] at valid
    exact absurd valid Bool.false_ne_true
  · rw [owed, empty, returned]
    rfl
  · rw [empty]
    exact fun length first => by simp at first

theorem step_start (starts : i.start = true) (idle : s.reader.busy = false) :
    (s.step readBeat p i).reader = s.reader.begin (s.readerIn readBeat i) := by
  have taken : ((s.readerIn readBeat i).start && !s.reader.busy) = true := by
    rw [idle, Bool.not_false, Bool.and_true]
    exact starts
  simp only [step, DdrReader.step]
  rw [if_pos taken]

theorem step_busy (busy : s.reader.busy = true) :
    (s.step readBeat p i).reader = s.reader.advance p (s.readerIn readBeat i) := by
  simp [step, DdrReader.step, busy]

theorem PortOk.step (port : s.PortOk p) : (s.step readBeat p i).PortOk p := by
  cases busy : s.reader.busy with
  | true => exact port.advance (step_busy busy)
  | false =>
    have quiet := port.inv.quiet busy
    have empty : s.reader.bursts p = [] := bursts_eq_nil.mpr quiet.outstanding
    cases starts : i.start with
    | true =>
      have reader : (s.step readBeat p i).reader = _ := step_start starts busy
      apply portOk_of_empty port.inv.step (port.idle_still busy) <;> rw [reader]
      · exact quiet.arvalid
      · rfl
      · rfl
    | false =>
      have reader : (s.step readBeat p i).reader = { s.reader with done := false } := by
        simp [MemoryRead.step, DdrReader.step, busy, readerIn, starts]
      apply portOk_of_empty port.inv.step (port.idle_still busy) <;> rw [reader]
      · exact quiet.arvalid
      · exact quiet.outstanding
      · exact port.returned_zero empty

theorem portOk_reset [Inhabited Word] : (reset : MemoryRead Word).PortOk p :=
  portOk_of_empty inv_reset rfl rfl rfl rfl

end MemoryRead

end Xczu47dr.Playback
