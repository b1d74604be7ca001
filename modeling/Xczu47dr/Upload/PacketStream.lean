import Xczu47dr.Upload.PacketRuns

/-! # The packets of the word stream

The words that arrive fall into packets, whatever the writer makes of them.  The
writer keeps in step with them: it starts a packet at its first word, receives it to
its last, and answers it once before it starts another.
-/

namespace Xczu47dr.Upload

open UploadWriter

/-! ## The stream -/

/-- The packets that are complete, and the words of the one under way. -/
structure PacketStream where
  packets : List (List Word)
  current : List Word
  deriving DecidableEq

def PacketStream.take (s : PacketStream) (i : WriterIn) : PacketStream :=
  if i.tvalid then
    if i.tlast then ⟨s.packets ++ [s.current ++ [i.tdata]], []⟩ else { s with current := s.current ++ [i.tdata] }
  else s

/-- The writer beside the stream; `packet` is the number of the packet it has started last. -/
structure FollowedWriter where
  accounted : AccountedWriter
  stream : PacketStream
  packet : Nat

/-- What happens to a packet, by its number in the stream. -/
inductive PacketEvent
  | start (packet : Nat)
  | answer (packet : Nat) (t : Transaction)
  | giveUp (packet : Nat)
  deriving DecidableEq

namespace FollowedWriter

variable (p : WriterParams) (s : FollowedWriter) (i : WriterIn)

def reset : FollowedWriter := ⟨.reset p, ⟨[], []⟩, 0⟩

def step : FollowedWriter where
  accounted := s.accounted.step p i
  stream := s.stream.take i
  packet := if s.accounted.starts p i then s.stream.packets.length else s.packet

def events : List PacketEvent :=
  (if s.accounted.starts p i then [.start s.stream.packets.length] else []) ++
    (s.accounted.answered p i).map (.answer s.packet) ++
    if s.accounted.givesUp p i then [.giveUp s.packet] else []

end FollowedWriter

def followedWriter (p : WriterParams) : Clocked.Machine WriterIn FollowedWriter where
  reset := .reset p
  step := .step p

theorem followedWriter_run (p : WriterParams) (s : FollowedWriter) (is : List WriterIn) :
    ((followedWriter p).run s is).accounted = (accountedWriter p).run s.accounted is := by
  induction is generalizing s with
  | nil => rfl
  | cons i is ih => exact ih _

/-- Packets are started in order, each is answered or given up before the next is started, and
    never twice.  `bound` is past all packets started so far, `pending` the one that is open. -/
inductive Orderly : List PacketEvent → (bound : Nat) → (pending : Option Nat) → Prop
  | nil : Orderly [] 0 none
  | start {log : List PacketEvent} {bound packet : Nat} (before : Orderly log bound none) (next : bound ≤ packet) :
      Orderly (log ++ [.start packet]) (packet + 1) (some packet)
  | answer {log : List PacketEvent} {bound packet : Nat} (before : Orderly log bound (some packet)) (t : Transaction) :
      Orderly (log ++ [.answer packet t]) bound none
  | giveUp {log : List PacketEvent} {bound packet : Nat} (before : Orderly log bound (some packet)) :
      Orderly (log ++ [.giveUp packet]) bound none

/-! ## Receiving -/

namespace UploadWriter

def receiving (s : UploadWriter) : Bool :=
  s.state == .hdr0 || s.state == .hdr1 || s.state == .payload || s.state == .drop

variable {p : WriterParams} {s : UploadWriter} {i : WriterIn}

theorem receives_eq : s.receives i = (i.tvalid && s.receiving) := rfl

theorem receiving_cases (receiving : s.receiving = true) :
    s.state = .hdr0 ∨ s.state = .hdr1 ∨ s.state = .payload ∨ s.state = .drop := by
  simpa [UploadWriter.receiving, or_assoc] using receiving

/-- Without a word the parser waits where it is. -/
theorem receiving_waits (receiving : s.receiving = true) (none : i.tvalid = false) :
    (s.step p i).state = s.state := by
  rcases receiving_cases receiving with state | state | state | state <;> rw [step, state] <;> dsimp only
  · rw [stepHdr0, none, if_neg Bool.false_ne_true, common_state, state]
  · rw [stepHdr1, none, if_neg Bool.false_ne_true, common_state, state]
  · rw [stepPayload, none, if_neg Bool.false_ne_true, common_state, state]
  · rw [none, Bool.false_and, if_neg Bool.false_ne_true, common_state, state]

/-- The parser leaves a packet with its last word and not before. -/
theorem receiving_word (receiving : s.receiving = true) (word : i.tvalid = true) :
    (s.step p i).receiving = !i.tlast := by
  rcases receiving_cases receiving with state | state | state | state <;> rw [step, state] <;> dsimp only
  · rw [stepHdr0, if_pos word]
    cases i.tlast <;> rfl
  · rw [stepHdr1_valid s word]
    cases i.tlast with
    | true => rfl
    | false =>
      rw [if_neg Bool.false_ne_true]
      split_ifs <;> rfl
  · rw [stepPayload_valid p s i word]
    cases i.tlast with
    | true => rfl
    | false =>
      rw [if_neg Bool.false_ne_true]
      split_ifs
      · rfl
      · simp [UploadWriter.receiving, state]
  · rw [word, Bool.true_and]
    cases i.tlast with
    | true => rfl
    | false => simp [UploadWriter.receiving, state]

theorem applyVerdict_elsewhere {n : UploadWriter} {verdict : Verdict} (emits : n.state = .emit) :
    (s.applyVerdict n verdict).state = .idle ∨ (s.applyVerdict n verdict).state = .write ∨
      (s.applyVerdict n verdict).state = .crc ∨ (s.applyVerdict n verdict).state = .crcDone ∨
      (s.applyVerdict n verdict).state = .final ∨ (s.applyVerdict n verdict).state = .emit ∨
      (s.applyVerdict n verdict).state = .readWait ∨ (s.applyVerdict n verdict).state = .readLoad := by
  cases verdict with
  | refuse status offset => simp [applyVerdict, emits]
  | accept core pulse => simp [applyVerdict, emits]
  | check duplicate => simp [applyVerdict]

/-- A packet is started in the idle state only, at a magic word that is not in a packet. -/
theorem receiving_starts (outside : s.receiving = false) (inside : (s.step p i).receiving = true) :
    s.state = .idle ∧ (s.step p i).state = .hdr0 ∧ i.tvalid = true ∧ s.rxActive = false ∧ i.tlast = false ∧
      i.tdata = ctrlMagic := by
  have gone : ∀ n : UploadWriter, s.step p i = n → n.state = .idle ∨ n.state = .write ∨ n.state = .crc ∨
      n.state = .crcDone ∨ n.state = .final ∨ n.state = .emit ∨ n.state = .readWait ∨ n.state = .readLoad → False := by
    intro n next elsewhere
    rw [next] at inside
    rcases receiving_cases inside with state | state | state | state <;> simp [state] at elsewhere
  cases state : s.state with
  | idle =>
    have stepped : s.step p i = s.stepIdle p i := by rw [step, state]
    rw [stepIdle] at stepped
    dsimp only at stepped
    split_ifs at stepped with starts
    · rw [stepped]
      simp only [Bool.and_eq_true, Bool.not_eq_true', beq_iff_eq] at starts
      exact ⟨rfl, rfl, starts.1.1.1.1, starts.1.1.1.2, starts.1.2, starts.2⟩
    · exact absurd (.inl state) (gone _ stepped)
  | hdr0 | hdr1 | payload | drop => simp [UploadWriter.receiving, state] at outside
  | write =>
    refine absurd ?_ (gone (s.stepWrite p i) (by rw [step, state]))
    rw [stepWrite]
    dsimp only
    split_ifs <;> simp [state]
  | crc =>
    refine absurd ?_ (gone (s.stepCrc p i) (by rw [step, state]))
    rw [stepCrc]
    dsimp only
    split_ifs <;> simp [state]
  | crcDone =>
    refine absurd ?_ (gone (s.stepCrcDone p i) (by rw [step, state]))
    rw [stepCrcDone]
    dsimp only
    split_ifs <;> simp
  | final =>
    refine absurd ?_ (gone (s.stepFinal p i) (by rw [step, state]))
    rw [stepFinal]
    dsimp only
    split_ifs <;> first
      | exact applyVerdict_elsewhere rfl
      | simp [state]
  | emit =>
    refine absurd ?_ (gone (s.stepEmit p i) (by rw [step, state]))
    rw [stepEmit]
    dsimp only
    split_ifs <;> simp
  | readWait => exact absurd (by simp) (gone { s.common p i with state := .readLoad } (by rw [step, state]))
  | readLoad =>
    refine absurd ?_ (gone (s.stepReadLoad p i) (by rw [step, state]))
    rw [stepReadLoad]
    split_ifs <;> simp

end UploadWriter

/-! ## What every cycle does to the registers beside the parser -/

namespace UploadWriter

variable (p : WriterParams) (s : UploadWriter) (i : WriterIn)

/-- `rx_active` and `axi_timer` are not the business of any state. -/
theorem setError_beside (n : UploadWriter) (status offset : Nat) :
    (s.setError n status offset).rxActive = n.rxActive ∧ (s.setError n status offset).axiTimer = n.axiTimer := by
  unfold setError
  split <;> exact ⟨rfl, rfl⟩

theorem takesWord_beside : (s.takesWord p i).rxActive = (s.common p i).rxActive ∧
    (s.takesWord p i).axiTimer = (s.common p i).axiTimer := by
  rw [takesWord]
  split
  · exact setError_beside _ _ _ _
  · exact ⟨rfl, rfl⟩

theorem applyVerdict_beside (n : UploadWriter) (verdict : Verdict) :
    (s.applyVerdict n verdict).rxActive = n.rxActive ∧ (s.applyVerdict n verdict).axiTimer = n.axiTimer ∧
      (s.applyVerdict n verdict).response.valid = n.response.valid := by
  cases verdict with
  | refuse status offset =>
    exact ⟨(setError_beside _ _ _ _).1, (setError_beside _ _ _ _).2, setError_valid _ _ _ _⟩
  | accept core pulse => exact ⟨rfl, rfl, rfl⟩
  | check duplicate => exact ⟨rfl, rfl, rfl⟩

/-- What no state touches, but for the cycles that raise an answer. -/
theorem step_beside : (s.step p i).rxActive = (s.common p i).rxActive ∧
    (s.step p i).axiTimer = (s.common p i).axiTimer ∧
    (s.step p i).response.valid = (s.raises p i || (s.response.valid && !i.responseReady)) := by
  have calm : s.state ≠ .write → s.state ≠ .emit → s.raises p i = false := fun no_write no_emit => by
    simp [raises, timesOut, no_write, no_emit]
  rw [step]
  cases state : s.state with
  | idle =>
    rw [calm (by simp [state]) (by simp [state]), stepIdle]
    dsimp only
    split_ifs <;> exact ⟨rfl, rfl, rfl⟩
  | hdr0 =>
    rw [calm (by simp [state]) (by simp [state]), stepHdr0]
    dsimp only
    split_ifs <;> simp [setError_beside]
  | hdr1 =>
    rw [calm (by simp [state]) (by simp [state]), stepHdr1]
    dsimp only
    split_ifs <;> simp [setError_beside]
  | payload =>
    rw [calm (by simp [state]) (by simp [state])]
    cases word : i.tvalid with
    | false =>
      rw [stepPayload, word, if_neg Bool.false_ne_true]
      exact ⟨rfl, rfl, rfl⟩
    | true =>
      rw [stepPayload_valid p s i word]
      dsimp only
      split_ifs <;> simp [setError_beside, takesWord_beside]
  | write =>
    have late : s.raises p i = s.timesOut p i := by simp [raises, state]
    rw [late, stepWrite]
    dsimp only
    cases fires : s.bFires i with
    | true =>
      have in_time : s.timesOut p i = false := by simp [timesOut, fires]
      rw [in_time, if_pos rfl]
      split_ifs <;> exact ⟨rfl, rfl, rfl⟩
    | false =>
      rw [if_neg Bool.false_ne_true]
      cases s.timesOut p i <;> exact ⟨rfl, rfl, rfl⟩
  | crc =>
    rw [calm (by simp [state]) (by simp [state]), stepCrc]
    dsimp only
    split_ifs <;> exact ⟨rfl, rfl, rfl⟩
  | crcDone =>
    rw [calm (by simp [state]) (by simp [state]), stepCrcDone]
    dsimp only
    split_ifs <;> exact ⟨rfl, rfl, rfl⟩
  | final =>
    rw [calm (by simp [state]) (by simp [state]), stepFinal]
    dsimp only
    split_ifs <;> first
      | exact ⟨rfl, rfl, rfl⟩
      | exact applyVerdict_beside _ _ _
  | emit =>
    have raised : s.raises p i = true := by simp [raises, state]
    rw [raised, stepEmit]
    dsimp only
    split_ifs <;> exact ⟨rfl, rfl, rfl⟩
  | drop =>
    rw [calm (by simp [state]) (by simp [state])]
    dsimp only
    split_ifs <;> exact ⟨rfl, rfl, rfl⟩
  | readWait =>
    rw [calm (by simp [state]) (by simp [state])]
    exact ⟨rfl, rfl, rfl⟩
  | readLoad =>
    rw [calm (by simp [state]) (by simp [state]), stepReadLoad]
    split_ifs <;> exact ⟨rfl, rfl, rfl⟩

end UploadWriter

end Xczu47dr.Upload
