import Xczu47dr.Upload.PacketStream

/-! # One answer to every packet

The parser is in step with the packets of the stream, so a packet is started at its
first word only, and between the start of a packet and the next there is one answer
to it.
-/

namespace Xczu47dr.Upload

open UploadWriter

/-- The writer and the stream agree on where a packet begins and ends. -/
structure InStep (s : FollowedWriter) : Prop where
  active : s.accounted.writer.rxActive = !s.stream.current.isEmpty
  received : s.accounted.writer.receiving = true →
    s.stream.current = ctrlMagic :: s.accounted.account.words ∧ s.packet = s.stream.packets.length
  whole : s.accounted.account.isOpen = true → s.accounted.writer.receiving = false →
    s.stream.packets[s.packet]? = some (ctrlMagic :: s.accounted.account.words)

/-- The packet that is open, by its number. -/
def FollowedWriter.pending (s : FollowedWriter) : Option Nat :=
  if s.accounted.account.isOpen then some s.packet else none

/-- What an event says of the packets of the stream. -/
def PacketEvent.TrueOf (p : WriterParams) (stream : PacketStream) : PacketEvent → Prop
  | .start packet => ∃ words, (stream.packets ++ [stream.current])[packet]? = some (ctrlMagic :: words)
  | .answer packet t => stream.packets[packet]? = some (ctrlMagic :: t.words) ∧ t.Lawful p
  | .giveUp packet => ∃ word, stream.packets[packet]? = some [ctrlMagic, word]

section Step

variable {p : WriterParams} {s : FollowedWriter} {i : WriterIn}

/-! ## The stream in a cycle -/

theorem take_quiet (none : i.tvalid = false) : s.stream.take i = s.stream := by
  rw [PacketStream.take, none, if_neg Bool.false_ne_true]

theorem take_last (word : i.tvalid = true) (last : i.tlast = true) :
    s.stream.take i = ⟨s.stream.packets ++ [s.stream.current ++ [i.tdata]], []⟩ := by
  rw [PacketStream.take, if_pos word, if_pos last]

theorem take_more (word : i.tvalid = true) (more : i.tlast = false) :
    s.stream.take i = { s.stream with current := s.stream.current ++ [i.tdata] } := by
  rw [PacketStream.take, if_pos word, more, if_neg Bool.false_ne_true]

/-- A complete packet stays the one it is. -/
theorem take_keeps {packet : Nat} {words : List Word} (known : s.stream.packets[packet]? = some words) :
    (s.stream.take i).packets[packet]? = some words := by
  rw [PacketStream.take]
  split_ifs
  · exact (List.getElem?_append_left (List.getElem?_eq_some_iff.mp known).1).trans known
  · exact known
  · exact known

/-- A packet that is open is received, or complete. -/
theorem Phase.open_of_receiving {a : Account} {w : UploadWriter} (phase : Phase p a w) (receiving : w.receiving = true) :
    a.isOpen = true := by
  cases phase with
  | hdr0 _ fresh | hdr1 _ fresh | payload _ fresh | drop _ fresh | judging _ fresh | checking _ fresh | checked _ fresh =>
    exact fresh.isOpen
  | idle state | draining state => simp [UploadWriter.receiving, state] at receiving
  | writing _ isOpen | emitting _ isOpen => exact isOpen

/-- A packet that is given up has two words. -/
theorem Phase.gives_up (phase : Phase p s.accounted.account s.accounted.writer)
    (gone : s.accounted.givesUp p i = true) :
    i.tvalid = true ∧ i.tlast = true ∧ s.accounted.account.words = [] := by
  rw [AccountedWriter.givesUp, Bool.and_eq_true, beq_iff_eq, beq_iff_eq] at gone
  obtain ⟨hdr0, idle⟩ := gone
  have inside : s.accounted.writer.receiving = true := by simp [UploadWriter.receiving, hdr0]
  have words : s.accounted.account.words = [] := by
    cases phase with
    | hdr0 _ _ words _ => exact words
    | idle state | hdr1 state | payload state | drop state | judging state | checked state | draining state
    | emitting state => exact WriterState.noConfusion (hdr0.symm.trans state)
    | checking state | writing state =>
      rcases state with state | state | state <;> exact WriterState.noConfusion (hdr0.symm.trans state)
  cases word : i.tvalid with
  | false =>
    have waits := receiving_waits (p := p) inside word
    rw [idle, hdr0] at waits
    exact WriterState.noConfusion waits
  | true =>
    have ends := receiving_word (p := p) inside word
    cases last : i.tlast with
    | true => exact ⟨rfl, rfl, words⟩
    | false => simp [UploadWriter.receiving, idle, last] at ends

theorem starts_iff (outside : s.accounted.writer.receiving = false) :
    s.accounted.starts p i = (s.accounted.writer.step p i).receiving := by
  cases inside : (s.accounted.writer.step p i).receiving with
  | true =>
    obtain ⟨idle, next, -⟩ := receiving_starts outside inside
    rw [AccountedWriter.starts, idle, next]
    rfl
  | false =>
    rw [AccountedWriter.starts, Bool.and_eq_false_iff]
    refine .inr (beq_eq_false_iff_ne.mpr fun hdr0 => ?_)
    simp [UploadWriter.receiving, hdr0] at inside

theorem not_starts_receiving (inside : s.accounted.writer.receiving = true) : s.accounted.starts p i = false := by
  apply not_starts
  intro idle
  simp [UploadWriter.receiving, idle] at inside

/-- A packet is started at the first word of a packet, and it is a magic word. -/
theorem InStep.first (inStep : InStep s) (starts : s.accounted.starts p i = true) :
    s.stream.current = [] ∧ i.tvalid = true ∧ i.tlast = false ∧ i.tdata = ctrlMagic := by
  have idle : s.accounted.writer.state = .idle := by
    rw [AccountedWriter.starts, Bool.and_eq_true, beq_iff_eq] at starts
    exact starts.1
  have outside : s.accounted.writer.receiving = false := by simp [UploadWriter.receiving, idle]
  rw [starts_iff outside] at starts
  obtain ⟨-, -, word, inactive, more, magic⟩ := receiving_starts outside starts
  have between : s.stream.current = [] := by
    have active := inStep.active
    rw [inactive] at active
    simpa using active
  exact ⟨between, word, more, magic⟩

/-- The words of the packet after a cycle that does not start one. -/
theorem words_step (none : s.accounted.starts p i = false) :
    (s.step p i).accounted.account.words =
      if i.tvalid && s.accounted.writer.receiving then s.accounted.account.words ++ [i.tdata]
      else s.accounted.account.words := by
  change (s.accounted.nextAccount p i).words = _
  rw [AccountedWriter.nextAccount, none, if_neg Bool.false_ne_true, receives_eq]

theorem open_of_open (none : s.accounted.starts p i = false) (isOpen : (s.step p i).accounted.account.isOpen = true) :
    s.accounted.account.isOpen = true := by
  change (s.accounted.nextAccount p i).isOpen = true at isOpen
  rw [AccountedWriter.nextAccount, none, if_neg Bool.false_ne_true, Bool.and_eq_true, Bool.and_eq_true] at isOpen
  exact isOpen.1.1

theorem InStep.step (inStep : InStep s) (i : WriterIn) :
    InStep (s.step p i) := by
  have beside : (s.accounted.writer.step p i).rxActive = if i.tvalid then !i.tlast else s.accounted.writer.rxActive :=
    (step_beside p s.accounted.writer i).1
  cases inside : s.accounted.writer.receiving with
  | true =>
    obtain ⟨current, packet⟩ := inStep.received inside
    have none := not_starts_receiving (p := p) (i := i) inside
    have words := words_step (p := p) (i := i) none
    have same : (s.step p i).packet = s.packet := by
      rw [FollowedWriter.step, none]
      rfl
    rw [inside, Bool.and_true] at words
    cases word : i.tvalid with
    | false =>
      rw [word, if_neg Bool.false_ne_true] at beside words
      have waits : (s.accounted.writer.step p i).receiving = true := by
        rw [receiving, receiving_waits inside word]
        exact inside
      refine ⟨?_, fun _ => ?_, fun _ outside => absurd (waits.symm.trans outside) (fun bad => Bool.noConfusion bad)⟩
      · change (s.accounted.writer.step p i).rxActive = !(s.stream.take i).current.isEmpty
        rw [beside, take_quiet word, inStep.active]
      · change (s.stream.take i).current = _ ∧ _ = (s.stream.take i).packets.length
        rw [take_quiet word, same, words]
        exact ⟨current, packet⟩
    | true =>
      rw [word, if_pos rfl] at beside words
      have ends := receiving_word (p := p) inside word
      cases last : i.tlast with
      | true =>
        rw [last, Bool.not_true] at beside ends
        refine ⟨?_, fun more => absurd (ends.symm.trans more) (fun bad => Bool.noConfusion bad), fun _ _ => ?_⟩
        · change (s.accounted.writer.step p i).rxActive = !(s.stream.take i).current.isEmpty
          rw [beside, take_last word last]
          rfl
        · change (s.stream.take i).packets[(s.step p i).packet]? = _
          rw [take_last word last, same, words, packet, List.getElem?_concat_length, current]
          rfl
      | false =>
        rw [last, Bool.not_false] at beside ends
        refine ⟨?_, fun _ => ?_, fun _ outside => absurd (ends.symm.trans outside) (fun bad => Bool.noConfusion bad)⟩
        · change (s.accounted.writer.step p i).rxActive = !(s.stream.take i).current.isEmpty
          rw [beside, take_more word last]
          simp
        · change (s.stream.take i).current = _ ∧ _ = (s.stream.take i).packets.length
          rw [take_more word last, same, words, current]
          exact ⟨rfl, packet⟩
  | false =>
    have outside : (s.accounted.writer.step p i).rxActive = !(s.stream.take i).current.isEmpty := by
      rw [beside, PacketStream.take]
      cases i.tvalid <;> cases i.tlast <;> simp [inStep.active]
    cases starts : s.accounted.starts p i with
    | true =>
      obtain ⟨between, word, more, magic⟩ := inStep.first starts
      have inside' := (starts_iff inside).symm.trans starts
      refine ⟨outside, fun _ => ?_, fun _ out => absurd (inside'.symm.trans out) (fun bad => Bool.noConfusion bad)⟩
      have account : (s.accounted.nextAccount p i).words = [] := by
        rw [AccountedWriter.nextAccount, if_pos starts]
      have packet : (s.step p i).packet = s.stream.packets.length := if_pos starts
      change (s.stream.take i).current = ctrlMagic :: (s.accounted.nextAccount p i).words ∧
        _ = (s.stream.take i).packets.length
      rw [take_more word more, account, packet, between, magic]
      exact ⟨rfl, rfl⟩
    | false =>
      have words := words_step starts
      rw [inside, Bool.and_false, if_neg Bool.false_ne_true] at words
      have still := (starts_iff inside).symm.trans starts
      refine ⟨outside, fun more => absurd (still.symm.trans more) (fun bad => Bool.noConfusion bad), fun isOpen _ => ?_⟩
      have was_open : s.accounted.account.isOpen = true := open_of_open starts isOpen
      have packet : (s.step p i).packet = s.packet := by
        rw [FollowedWriter.step, starts]
        rfl
      change (s.stream.take i).packets[(s.step p i).packet]? = _
      rw [packet, words]
      exact take_keeps (inStep.whole was_open inside)

/-! ## The events in a cycle -/

theorem take_packets_length : s.stream.packets.length ≤ (s.stream.take i).packets.length := by
  rw [PacketStream.take]
  split_ifs
  · simp
  · exact Nat.le_refl _
  · exact Nat.le_refl _

/-- What an event says of the stream stays true. -/
theorem PacketEvent.TrueOf.take {e : PacketEvent} (said : e.TrueOf p s.stream) : e.TrueOf p (s.stream.take i) := by
  cases e with
  | answer packet t => exact ⟨take_keeps said.1, said.2⟩
  | giveUp packet =>
    obtain ⟨word, known⟩ := said
    exact ⟨word, take_keeps known⟩
  | start packet =>
    obtain ⟨words, known⟩ := said
    rcases Nat.lt_or_ge packet s.stream.packets.length with complete | under_way
    · rw [List.getElem?_append_left complete] at known
      have kept := take_keeps (i := i) known
      exact ⟨words, (List.getElem?_append_left (List.getElem?_eq_some_iff.mp kept).1).trans kept⟩
    · have last : packet = s.stream.packets.length := by
        have within := (List.getElem?_eq_some_iff.mp known).1
        rw [List.length_append, List.length_singleton] at within
        omega
      rw [last, List.getElem?_concat_length] at known
      have current := Option.some.inj known
      rw [PacketEvent.TrueOf, PacketStream.take]
      split_ifs
      · refine ⟨words ++ [i.tdata], ?_⟩
        rw [List.append_assoc, last, List.getElem?_append_right (Nat.le_refl _), Nat.sub_self, current]
        rfl
      · exact ⟨words ++ [i.tdata], by rw [last, List.getElem?_concat_length, current]; rfl⟩
      · exact ⟨words, by rw [last, List.getElem?_concat_length, current]⟩

/-- The stream when a packet is given up. -/
theorem InStep.given_up (inStep : InStep s) (phase : Phase p s.accounted.account s.accounted.writer)
    (gone : s.accounted.givesUp p i = true) :
    s.stream.take i = ⟨s.stream.packets ++ [[ctrlMagic, i.tdata]], []⟩ ∧ s.packet = s.stream.packets.length := by
  have hdr0 : s.accounted.writer.state = .hdr0 := by
    rw [AccountedWriter.givesUp, Bool.and_eq_true, beq_iff_eq] at gone
    exact gone.1
  have inside : s.accounted.writer.receiving = true := by simp [UploadWriter.receiving, hdr0]
  obtain ⟨current, number⟩ := inStep.received inside
  obtain ⟨word, last, first⟩ := phase.gives_up gone
  rw [take_last word last, current, first]
  exact ⟨rfl, number⟩

/-- What is known of a run: where the writer is, and what it has done to the packets so far. -/
structure Told (p : WriterParams) (log : List PacketEvent) (s : FollowedWriter) : Prop where
  phase : Phase p s.accounted.account s.accounted.writer
  inStep : InStep s
  orderly : ∃ bound, Orderly log bound s.pending ∧ (s.accounted.account.isOpen = true → bound = s.packet + 1) ∧
    (s.accounted.account.isOpen = false → bound ≤ s.stream.packets.length)
  said : ∀ e ∈ log, e.TrueOf p s.stream

theorem Told.step {log : List PacketEvent} (told : Told p log s) (i : WriterIn) :
    Told p (log ++ s.events p i) (s.step p i) := by
  obtain ⟨phase, inStep, ⟨bound, orderly, opened, closed⟩, said⟩ := told
  obtain ⟨next, lawful⟩ := phase.step i
  have inStep' := inStep.step (p := p) i
  have longer := take_packets_length (s := s) (i := i)
  suffices both : (∃ bound, Orderly (log ++ s.events p i) bound (s.step p i).pending ∧
      ((s.step p i).accounted.account.isOpen = true → bound = (s.step p i).packet + 1) ∧
      ((s.step p i).accounted.account.isOpen = false → bound ≤ (s.step p i).stream.packets.length)) ∧
      ∀ e ∈ log ++ s.events p i, e.TrueOf p (s.step p i).stream from ⟨next, inStep', both.1, both.2⟩
  cases starts : s.accounted.starts p i with
  | true =>
    have idle : s.accounted.writer.state = .idle := by
      rw [AccountedWriter.starts, Bool.and_eq_true, beq_iff_eq] at starts
      exact starts.1
    obtain ⟨between, word, more, magic⟩ := inStep.first starts
    have was_closed := phase.closed_of_idle idle
    have pending : s.pending = none := by rw [FollowedWriter.pending, was_closed, if_neg Bool.false_ne_true]
    have events : s.events p i = [.start s.stream.packets.length] := by
      rw [FollowedWriter.events, starts, if_pos rfl, not_answered (raises_false (by simp [idle]) (by simp [idle])),
        givesUp_false (by simp [idle])]
      rfl
    have isOpen : (s.step p i).accounted.account.isOpen = true := by
      change (s.accounted.nextAccount p i).isOpen = true
      rw [AccountedWriter.nextAccount, if_pos starts]
    have packet : (s.step p i).packet = s.stream.packets.length := if_pos starts
    have pending' : (s.step p i).pending = some s.stream.packets.length := by
      rw [FollowedWriter.pending, isOpen, if_pos rfl, packet]
    rw [pending] at orderly
    rw [events, pending', isOpen, packet]
    refine ⟨⟨_, .start orderly (closed was_closed), fun _ => rfl, fun bad => Bool.noConfusion bad⟩, fun e member => ?_⟩
    rcases List.mem_append.mp member with earlier | now
    · exact (said e earlier).take
    · rw [List.mem_singleton] at now
      rw [now]
      change ∃ words, ((s.stream.take i).packets ++ [(s.stream.take i).current])[s.stream.packets.length]? = _
      rw [take_more word more, between, magic]
      exact ⟨[], List.getElem?_concat_length⟩
  | false =>
    have packet : (s.step p i).packet = s.packet := by
      rw [FollowedWriter.step, starts]
      rfl
    have isOpen : (s.step p i).accounted.account.isOpen =
        (s.accounted.account.isOpen && !s.accounted.writer.raises p i && !s.accounted.givesUp p i) := by
      change (s.accounted.nextAccount p i).isOpen = _
      rw [AccountedWriter.nextAccount, starts, if_neg Bool.false_ne_true]
    cases raises : s.accounted.writer.raises p i with
    | true =>
      have was_open := phase.open_of_raises raises
      have answering : s.accounted.writer.state = .emit ∨ s.accounted.writer.state = .write := by
        by_contra neither
        rw [not_or] at neither
        rw [raises_false neither.2 neither.1] at raises
        exact Bool.false_ne_true raises
      have outside : s.accounted.writer.receiving = false := by
        rcases answering with state | state <;> simp [UploadWriter.receiving, state]
      have complete := inStep.whole was_open outside
      have within := (List.getElem?_eq_some_iff.mp complete).1
      have pending : s.pending = some s.packet := by rw [FollowedWriter.pending, was_open, if_pos rfl]
      obtain ⟨t, answer, words⟩ : ∃ t, s.accounted.answered p i = [t] ∧ t.words = s.accounted.account.words := by
        rw [AccountedWriter.answered, raises, if_pos rfl]
        exact ⟨_, rfl, rfl⟩
      have stays : s.accounted.givesUp p i = false :=
        givesUp_false (by rcases answering with state | state <;> simp [state])
      have events : s.events p i = [.answer s.packet t] := by
        rw [FollowedWriter.events, starts, if_neg Bool.false_ne_true, answer, stays, if_neg Bool.false_ne_true]
        rfl
      rw [was_open, raises, Bool.not_true, Bool.and_false, Bool.false_and] at isOpen
      have pending' : (s.step p i).pending = none := by
        rw [FollowedWriter.pending, isOpen, if_neg Bool.false_ne_true]
      rw [pending] at orderly
      rw [events, pending', isOpen]
      refine ⟨⟨_, .answer orderly t, fun bad => Bool.noConfusion bad, fun _ => ?_⟩, fun e member => ?_⟩
      · have at_packet := opened was_open
        exact Nat.le_trans (by omega) longer
      · rcases List.mem_append.mp member with earlier | now
        · exact (said e earlier).take
        · rw [List.mem_singleton] at now
          rw [now]
          exact ⟨words.symm ▸ take_keeps complete, lawful t (by rw [answer]; exact List.mem_singleton_self t)⟩
    | false =>
      cases gone : s.accounted.givesUp p i with
      | true =>
        have hdr0 : s.accounted.writer.state = .hdr0 := by
          rw [AccountedWriter.givesUp, Bool.and_eq_true, beq_iff_eq] at gone
          exact gone.1
        have inside : s.accounted.writer.receiving = true := by simp [UploadWriter.receiving, hdr0]
        have was_open := phase.open_of_receiving inside
        obtain ⟨stream, number⟩ := inStep.given_up phase gone
        have pending : s.pending = some s.packet := by rw [FollowedWriter.pending, was_open, if_pos rfl]
        have events : s.events p i = [.giveUp s.packet] := by
          rw [FollowedWriter.events, starts, if_neg Bool.false_ne_true, not_answered raises, gone, if_pos rfl]
          rfl
        rw [gone, Bool.not_true, Bool.and_false] at isOpen
        have pending' : (s.step p i).pending = none := by
          rw [FollowedWriter.pending, isOpen, if_neg Bool.false_ne_true]
        rw [pending] at orderly
        change (∃ bound, Orderly _ bound _ ∧ _ ∧ (_ → bound ≤ (s.stream.take i).packets.length)) ∧
          ∀ e : PacketEvent, e ∈ _ → e.TrueOf p (s.stream.take i)
        rw [events, pending', isOpen]
        refine ⟨⟨_, .giveUp orderly, fun bad => Bool.noConfusion bad, fun _ => ?_⟩, fun e member => ?_⟩
        · rw [opened was_open, number, stream]
          simp
        · rcases List.mem_append.mp member with earlier | now
          · exact (said e earlier).take
          · rw [List.mem_singleton] at now
            rw [now, number, stream]
            exact ⟨i.tdata, List.getElem?_concat_length⟩
      | false =>
        have events : s.events p i = [] := by
          rw [FollowedWriter.events, starts, if_neg Bool.false_ne_true, not_answered raises, gone,
            if_neg Bool.false_ne_true]
          rfl
        rw [raises, gone, Bool.not_false, Bool.and_true, Bool.and_true] at isOpen
        have pending' : (s.step p i).pending = s.pending := by
          rw [FollowedWriter.pending, FollowedWriter.pending, isOpen, packet]
        rw [events, List.append_nil, pending', isOpen, packet]
        exact ⟨⟨bound, orderly, opened, fun was_closed => Nat.le_trans (closed was_closed) longer⟩,
          fun e member => (said e member).take⟩

end Step

/-- Every run from reset is told by its events. -/
theorem run_told (p : WriterParams) (is : List WriterIn) :
    Told p ((followedWriter p).log (FollowedWriter.events p) (.reset p) is) ((followedWriter p).run (.reset p) is) := by
  induction is using List.reverseRecOn with
  | nil =>
    exact ⟨.idle rfl rfl, ⟨rfl, fun bad => Bool.noConfusion bad, fun bad => Bool.noConfusion bad⟩,
      ⟨0, .nil, fun bad => Bool.noConfusion bad, fun _ => Nat.le_refl 0⟩, fun e bad => absurd bad List.not_mem_nil⟩
  | append_singleton is i ih =>
    rw [Clocked.Machine.run_append, Clocked.Machine.log_append, Clocked.Machine.run_cons, Clocked.Machine.run_nil,
      Clocked.Machine.log_cons, Clocked.Machine.log_nil, List.append_nil]
    exact ih.step i

/-! ## The answer and its reader -/

section Response

variable {p : WriterParams} {a : Account} {w : UploadWriter} {i : WriterIn}

/-- An answer is raised when the one before it has been taken. -/
theorem Phase.free_of_raises (phase : Phase p a w) (raises : w.raises p i = true) : w.response.valid = false := by
  cases phase with
  | emitting _ _ valid => exact valid
  | writing _ _ _ _ _ valid => exact valid
  | draining state _ failed => simp [UploadWriter.raises, timesOut, state, failed] at raises
  | hdr0 _ fresh | hdr1 _ fresh | payload _ fresh | drop _ fresh | judging _ fresh | checking _ fresh | checked _ fresh =>
    exact fresh.valid
  | idle state => simp [UploadWriter.raises, timesOut, state] at raises

/-- An answer stays as it is until it is taken. -/
theorem Phase.answer_kept (phase : Phase p a w) (waits : w.response.valid = true) (untaken : i.responseReady = false) :
    (w.step p i).response = w.response := by
  have common : (w.common p i).response = w.response := by
    change { w.response with valid := w.response.valid && !i.responseReady } = w.response
    rw [untaken, Bool.not_false, Bool.and_true]
  cases phase with
  | emitting _ _ valid | writing _ _ _ _ _ valid => exact absurd (valid.symm.trans waits) Bool.false_ne_true
  | hdr0 _ fresh | hdr1 _ fresh | payload _ fresh | drop _ fresh | judging _ fresh | checking _ fresh | checked _ fresh =>
    exact absurd (fresh.valid.symm.trans waits) Bool.false_ne_true
  | idle state =>
    rw [UploadWriter.step, state]
    dsimp only
    rw [stepIdle, waits, Bool.not_true, Bool.and_false, Bool.false_and, Bool.false_and, if_neg Bool.false_ne_true]
    exact common
  | draining state _ failed =>
    have in_time : w.timesOut p i = false := by simp [timesOut, failed]
    rw [UploadWriter.step, state]
    dsimp only
    rw [stepWrite, failed, if_pos rfl, in_time, if_neg Bool.false_ne_true]
    dsimp only
    split_ifs <;> exact common

end Response

end Xczu47dr.Upload
