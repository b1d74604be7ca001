import Xczu47dr.Upload.PacketProgress
import Xczu47dr.Upload.RepeatedPackets
/-! # Answered packets

What a started packet has left to do ends along every endless run that serves it, so
with the order of its events every packet is answered exactly once.
-/

namespace Xczu47dr.Upload

open UploadWriter

section Endless

variable {p : WriterParams} {inputs : Nat → WriterIn}

/-- What an answer depends on: every packet ends, the playback path admits commands again and
    again, and the status of the playback is given to those who ask for it. -/
structure Served (p : WriterParams) (inputs : Nat → WriterIn) : Prop where
  ends : ∀ n, ∃ k, n ≤ k ∧ ((inputs k).tvalid = true ∧ (inputs k).tlast = true ∨
    ((followedWriter p).trace inputs k).stream.current = [])
  admits : ∀ n, ∃ k, n ≤ k ∧ (inputs k).commandReady = true
  statusPort : ∀ n, ∃ k, n ≤ k ∧ (inputs k).statusRequestReady = true
  snapshot : ∀ n, ((followedWriter p).trace inputs n).accounted.writer.awaitsSnapshot = true →
    ∃ k, n ≤ k ∧ (inputs k).statusSnapshotValid = true

/-- What every state of a run meets. -/
structure Sound (p : WriterParams) (s : FollowedWriter) : Prop where
  phase : Phase p s.accounted.account s.accounted.writer
  inStep : InStep s
  timer : s.accounted.writer.axiTimer < p.axiTimeoutCycles

theorem Sound.step {s : FollowedWriter} (sound : Sound p s) (i : WriterIn) : Sound p (s.step p i) where
  phase := (sound.phase.step i).1
  inStep := sound.inStep.step i
  timer := by
    have positive := p.timeout_pos
    have timer := sound.timer
    change (s.accounted.writer.step p i).axiTimer < _
    rw [(step_beside p _ i).2.1, common]
    dsimp only
    split_ifs with quiet stays
    · omega
    · exact timer
    · rw [Bool.not_eq_true, Bool.or_eq_false_iff, beq_eq_false_iff_ne] at stays
      have late := stays.2
      exact Nat.lt_of_le_of_lt (Nat.mod_le _ _) (by omega)

theorem sound_trace (p : WriterParams) (inputs : Nat → WriterIn) (n : Nat) :
    Sound p ((followedWriter p).trace inputs n) := by
  refine (followedWriter p).trace_invariant inputs ⟨.idle rfl rfl, ?_, p.timeout_pos⟩ (fun s i sound => sound.step i) n
  exact ⟨rfl, fun bad => Bool.noConfusion bad, fun bad => Bool.noConfusion bad⟩

/-- A packet that is open is closed in this cycle, or goes on. -/
theorem Sound.advances {s : FollowedWriter} (sound : Sound p s) (isOpen : s.accounted.account.isOpen = true)
    (i : WriterIn) : (s.step p i).accounted.account.isOpen = false ∨
      Advances p s.accounted.writer i (s.accounted.writer.step p i) := by
  obtain ⟨phase, inStep, timer⟩ := sound
  have active : s.accounted.writer.receiving = true → s.accounted.writer.rxActive = true := by
    intro inside
    rw [inStep.active, (inStep.received inside).1]
    rfl
  have closes : s.accounted.writer.state ≠ .idle → s.accounted.writer.raises p i = true →
      (s.step p i).accounted.account.isOpen = false := by
    intro busy raises
    change (s.accounted.nextAccount p i).isOpen = false
    rw [AccountedWriter.nextAccount, not_starts busy, if_neg Bool.false_ne_true, raises, Bool.not_true, Bool.and_false,
      Bool.false_and]
  cases phase with
  | idle _ closed | draining _ closed => exact absurd (closed.symm.trans isOpen) Bool.false_ne_true
  | hdr0 state | hdr1 state | payload state | drop state =>
    have inside : s.accounted.writer.receiving = true := by simp [UploadWriter.receiving, state]
    exact .inr (receiving_advances inside (active inside))
  | judging state => exact .inr (final_advances state)
  | checking state _ _ _ checked loop => exact .inr (checking_advances loop checked.range.2.1 state)
  | checked state => exact .inr (checked_advances state)
  | writing state _ _ _ _ _ _ checked _ loop =>
    cases late : s.accounted.writer.timesOut p i with
    | false => exact .inr (writing_advances loop checked.range.2.1 timer late state)
    | true =>
      refine .inl (closes ?_ ?_)
      · rcases state with state | state | state <;> simp [state]
      · simp [UploadWriter.raises, late]
  | emitting state =>
    refine .inl (closes ?_ ?_)
    · simp [state]
    · simp [UploadWriter.raises, state]

/-- What is left to do before the open packet is closed. -/
def packetRank (p : WriterParams) (s : FollowedWriter) : Nat ×ₗ Nat :=
  if s.accounted.account.isOpen then toLex (s.accounted.writer.stage + 1, s.accounted.writer.left p) else toLex (0, 0)

theorem closed_eventually (served : Served p inputs) :
    Clocked.LeadsTo ((followedWriter p).trace inputs) (fun _ => True) (fun s => s.accounted.account.isOpen = false) := by
  refine Clocked.leadsTo_of_turns (packetRank p) (fun s => s.accounted.writer.turn)
    (fun t n => ((followedWriter p).trace inputs n).accounted.writer.Comes (inputs n) t) ?_ ?_
  · intro n _
    have sound := sound_trace p inputs n
    cases isOpen : ((followedWriter p).trace inputs n).accounted.account.isOpen with
    | false => exact .inl rfl
    | true =>
      refine .inr ⟨trivial, ?_⟩
      have rank : packetRank p ((followedWriter p).trace inputs n) =
          toLex (((followedWriter p).trace inputs n).accounted.writer.stage + 1,
            ((followedWriter p).trace inputs n).accounted.writer.left p) := by rw [packetRank, isOpen, if_pos rfl]
      rw [Clocked.Machine.trace_succ]
      cases after : (((followedWriter p).trace inputs n).step p (inputs n)).accounted.account.isOpen with
      | false =>
        refine .inl ?_
        change packetRank p (((followedWriter p).trace inputs n).step p (inputs n)) < _
        rw [rank, packetRank, after, if_neg Bool.false_ne_true, Prod.Lex.toLex_lt_toLex]
        exact .inl (Nat.succ_pos _)
      | true =>
        have rank' : packetRank p (((followedWriter p).trace inputs n).step p (inputs n)) =
            toLex ((((followedWriter p).trace inputs n).accounted.writer.step p (inputs n)).stage + 1,
              (((followedWriter p).trace inputs n).accounted.writer.step p (inputs n)).left p) := by
          rw [packetRank, after, if_pos rfl]
          rfl
        change packetRank p (((followedWriter p).trace inputs n).step p (inputs n)) < _ ∨
          packetRank p (((followedWriter p).trace inputs n).step p (inputs n)) = _ ∧ _
        rw [rank, rank', Prod.Lex.toLex_lt_toLex]
        rcases (sound.advances isOpen (inputs n)).resolve_left
          (fun closed => Bool.false_ne_true (closed.symm.trans after)) with less | ⟨same, less⟩ | ⟨same, equal, turn, none⟩
        · exact .inl (.inl (Nat.succ_lt_succ less))
        · exact .inl (.inr ⟨congrArg Nat.succ same, less⟩)
        · refine .inr ⟨?_, turn, none⟩
          rw [same, equal]
  · intro t n
    cases t with
    | words =>
      obtain ⟨k, later, ended | between⟩ := served.ends n
      · exact ⟨k, later, .inl ended⟩
      · refine ⟨k, later, .inr ?_⟩
        rw [(sound_trace p inputs k).inStep.active, between]
        rfl
    | admission => exact served.admits n
    | statusPort => exact served.statusPort n
    | snapshot =>
      cases awaits : ((followedWriter p).trace inputs n).accounted.writer.awaitsSnapshot with
      | false => exact ⟨n, Nat.le_refl n, .inr awaits⟩
      | true =>
        obtain ⟨k, later, valid⟩ := served.snapshot n awaits
        exact ⟨k, later, .inl valid⟩
    | itself => exact ⟨n, Nat.le_refl n, trivial⟩

/-- A packet that is started is answered, or given up after its second word. -/
theorem start_closes (served : Served p inputs) {n packet : Nat}
    (start : .start packet ∈ ((followedWriter p).trace inputs n).events p (inputs n)) :
    ∃ k, n < k ∧ ((∃ t, .answer packet t ∈ ((followedWriter p).trace inputs k).events p (inputs k)) ∨
      ∃ word, ((followedWriter p).trace inputs (k + 1)).stream.packets[packet]? = some [ctrlMagic, word]) := by
  have starts : ((followedWriter p).trace inputs n).accounted.starts p (inputs n) = true ∧
      packet = ((followedWriter p).trace inputs n).stream.packets.length := by
    rw [FollowedWriter.events] at start
    cases starts : ((followedWriter p).trace inputs n).accounted.starts p (inputs n) <;>
      cases gone : ((followedWriter p).trace inputs n).accounted.givesUp p (inputs n) <;>
        simp [starts, gone] at start ⊢ <;> exact start
  have open_next : ((followedWriter p).trace inputs (n + 1)).accounted.account.isOpen = true := by
    change (((followedWriter p).trace inputs n).accounted.nextAccount p (inputs n)).isOpen = true
    rw [AccountedWriter.nextAccount, if_pos starts.1]
  have number_next : ((followedWriter p).trace inputs (n + 1)).packet = packet := by
    rw [starts.2]
    exact if_pos starts.1
  obtain ⟨m, later, closed, first⟩ := Clocked.exists_first (closed_eventually served (n + 1) trivial)
  obtain ⟨k, rfl⟩ : ∃ k, m = k + 1 := ⟨m - 1, by omega⟩
  have from_next : n + 1 ≤ k := by
    rcases Nat.lt_or_ge k (n + 1) with early | late
    · have same : k + 1 = n + 1 := by omega
      rw [same, open_next] at closed
      exact Bool.noConfusion closed
    · exact late
  have still_open : ∀ j, n + 1 ≤ j → j ≤ k → ((followedWriter p).trace inputs j).accounted.account.isOpen = true :=
    fun j after before => Bool.eq_true_of_not_eq_false (first j after (Nat.lt_succ_of_le before))
  have no_start : ∀ j, n + 1 ≤ j → j ≤ k →
      ((followedWriter p).trace inputs j).accounted.starts p (inputs j) = false := by
    intro j after before
    refine not_starts fun idle => ?_
    have closed := (sound_trace p inputs j).phase.closed_of_idle idle
    exact Bool.false_ne_true (closed.symm.trans (still_open j after before))
  have number : ((followedWriter p).trace inputs k).packet = packet := by
    refine Clocked.lasts (P := fun j => ((followedWriter p).trace inputs j).packet = packet) number_next k from_next ?_
    intro j after before same
    change (if _ then _ else _) = packet
    rw [no_start j after (Nat.le_of_lt before), if_neg Bool.false_ne_true]
    exact same
  have sound := sound_trace p inputs k
  have last_start := no_start k from_next (Nat.le_refl k)
  refine ⟨k, from_next, ?_⟩
  cases raises : ((followedWriter p).trace inputs k).accounted.writer.raises p (inputs k) with
  | true =>
    left
    rw [FollowedWriter.events, AccountedWriter.answered, raises, if_pos rfl, number]
    exact ⟨_, by simp; rfl⟩
  | false =>
    right
    have gone : ((followedWriter p).trace inputs k).accounted.givesUp p (inputs k) = true := by
      change (((followedWriter p).trace inputs k).accounted.nextAccount p (inputs k)).isOpen = false at closed
      rw [AccountedWriter.nextAccount, last_start, if_neg Bool.false_ne_true, raises,
        still_open k from_next (Nat.le_refl k), Bool.not_false, Bool.true_and, Bool.true_and] at closed
      simpa using closed
    obtain ⟨stream, at_end⟩ := sound.inStep.given_up sound.phase gone
    refine ⟨(inputs k).tdata, ?_⟩
    change (((followedWriter p).trace inputs k).stream.take (inputs k)).packets[packet]? = _
    rw [stream, ← number, at_end]
    exact List.getElem?_concat_length

end Endless

/-- In every run the packets are started at their first word and in order, each is answered or
    given up before the next is started, never twice, and an answer is for the packet it names;
    the parser is nowhere but in the packet it has started; an answer is not touched before it
    is taken.  In every endless run whose packets end and which is served, every packet that is
    started is answered, unless it has two words. -/
theorem one_answer_per_packet (p : WriterParams) :
    (∀ is : List WriterIn,
      let s := (followedWriter p).run (.reset p) is
      let log := (followedWriter p).log (FollowedWriter.events p) (.reset p) is
      (∃ bound, Orderly log bound s.pending) ∧ (∀ e ∈ log, e.TrueOf p s.stream) ∧
      (s.accounted.writer.receiving = true →
        s.stream.current = ctrlMagic :: s.accounted.account.words ∧ s.pending = some s.stream.packets.length) ∧
      ∀ i, (s.accounted.starts p i = true → s.stream.current = [] ∧ i.tdata = ctrlMagic) ∧
        (s.accounted.writer.raises p i = true → s.accounted.writer.response.valid = false) ∧
        (s.accounted.writer.step p i).response.valid =
          (s.accounted.writer.raises p i || (s.accounted.writer.response.valid && !i.responseReady)) ∧
        (s.accounted.writer.response.valid = true → i.responseReady = false →
          (s.accounted.writer.step p i).response = s.accounted.writer.response)) ∧
    ∀ inputs, Served p inputs → ∀ n packet,
      .start packet ∈ ((followedWriter p).trace inputs n).events p (inputs n) →
      ∃ k, n < k ∧ ((∃ t, .answer packet t ∈ ((followedWriter p).trace inputs k).events p (inputs k)) ∨
        ∃ word, ((followedWriter p).trace inputs (k + 1)).stream.packets[packet]? = some [ctrlMagic, word]) := by
  refine ⟨fun is => ?_, fun inputs served n packet start => start_closes served start⟩
  have told := run_told p is
  obtain ⟨bound, orderly, -⟩ := told.orderly
  refine ⟨⟨bound, orderly⟩, told.said, fun inside => ?_, fun i => ⟨fun starts => ?_, told.phase.free_of_raises,
    (step_beside p _ i).2.2, fun waits untaken => told.phase.answer_kept waits untaken⟩⟩
  · obtain ⟨current, number⟩ := told.inStep.received inside
    refine ⟨current, ?_⟩
    rw [FollowedWriter.pending, told.phase.open_of_receiving inside, if_pos rfl, number]
  · obtain ⟨between, -, -, magic⟩ := told.inStep.first starts
    exact ⟨between, magic⟩

/-! ## A BEGIN that is answered -/

/-- Nothing arrives, and whatever is asked for is given. -/
def servedCycle : WriterIn := { quietCycle 0 with statusSnapshotValid := true }

/-- The BEGIN is complete, and nothing follows it. -/
theorem begin_between (k : Nat) :
    ((followedWriter topWriterParams).run
      ((followedWriter topWriterParams).run (.reset topWriterParams) (packetCycles 0 beginPacket))
      (List.replicate k servedCycle)).stream.current = [] := by
  induction k with
  | zero => decide
  | succ k ih =>
    rw [List.replicate_succ', Clocked.Machine.run_append]
    exact (congrArg PacketStream.current (take_quiet rfl)).trans ih

theorem begin_served :
    Served topWriterParams (Clocked.Machine.endless (packetCycles 0 beginPacket) servedCycle) := by
  have rest : ∀ n, Clocked.Machine.endless (packetCycles 0 beginPacket) servedCycle (n + 11) = servedCycle :=
    fun n => List.getD_eq_default _ _ (Nat.le_add_left 11 n)
  refine ⟨fun n => ⟨n + 11, by omega, .inr ?_⟩, fun n => ⟨n + 11, by omega, ?_⟩, fun n => ⟨n + 11, by omega, ?_⟩,
    fun n _ => ⟨n + 11, by omega, ?_⟩⟩
  · have length : (packetCycles 0 beginPacket).length = 11 := rfl
    rw [Clocked.Machine.trace_endless, List.take_of_length_le (by omega), Clocked.Machine.run_append]
    exact begin_between _
  · rw [rest]
    rfl
  · rw [rest]
    rfl
  · rw [rest]
    rfl

theorem beginPacket_answered :
    ∃ k, 0 < k ∧
      ((∃ t, .answer 0 t ∈ ((followedWriter topWriterParams).trace
        (Clocked.Machine.endless (packetCycles 0 beginPacket) servedCycle) k).events topWriterParams
          (Clocked.Machine.endless (packetCycles 0 beginPacket) servedCycle k)) ∨
      ∃ word, ((followedWriter topWriterParams).trace
        (Clocked.Machine.endless (packetCycles 0 beginPacket) servedCycle) (k + 1)).stream.packets[0]? =
          some [ctrlMagic, word]) :=
  (one_answer_per_packet topWriterParams).2 _ begin_served 0 0 (by decide)

end Xczu47dr.Upload
