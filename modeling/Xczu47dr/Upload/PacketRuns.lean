import Xczu47dr.Upload.PacketWrites

/-! # Runs of the upload writer, packet by packet

Every answered packet of a run is lawful, and the session is what the packets
answered so far have made of it: nothing happens to it between two packets.
-/

namespace Xczu47dr.Upload

open UploadWriter

/-- The packets answered in a run from reset. -/
def answers (p : WriterParams) (is : List WriterIn) : List Transaction :=
  (accountedWriter p).log (AccountedWriter.answered p) (.reset p) is

/-- Each packet finds the session as the one before it has left it. -/
def Chained : UploadCore → List Transaction → UploadCore → Prop
  | c, [], c' => c = c'
  | c, t :: ts, c' => t.before = c ∧ Chained t.after ts c'

theorem Chained.append {c c' c'' : UploadCore} {ts us : List Transaction} (first : Chained c ts c')
    (second : Chained c' us c'') : Chained c (ts ++ us) c'' := by
  induction ts generalizing c with
  | nil =>
    cases first
    exact second
  | cons t ts ih => exact ⟨first.1, ih first.2⟩

theorem Chained.split {c c'' : UploadCore} {ts us : List Transaction} (chained : Chained c (ts ++ us) c'') :
    ∃ c', Chained c ts c' ∧ Chained c' us c'' := by
  induction ts generalizing c with
  | nil => exact ⟨c, rfl, chained⟩
  | cons t ts ih =>
    obtain ⟨c', first, second⟩ := ih chained.2
    exact ⟨c', ⟨chained.1, first⟩, second⟩

section Step

variable {p : WriterParams} {s : AccountedWriter} {i : WriterIn}

theorem Phase.step (phase : Phase p s.account s.writer) (i : WriterIn) :
    Phase p (s.step p i).account (s.step p i).writer ∧ ∀ t ∈ s.answered p i, t.Lawful p := by
  have none : s.writer.state ≠ .write → s.writer.state ≠ .emit → ∀ t ∈ s.answered p i, t.Lawful p := by
    intro no_write no_emit t answered
    rw [not_answered (raises_false no_write no_emit)] at answered
    cases answered
  cases phase with
  | idle state closed => exact ⟨idle_next state closed, none (by simp [state]) (by simp [state])⟩
  | hdr0 state fresh words sound => exact ⟨hdr0_next state fresh words sound, none (by simp [state]) (by simp [state])⟩
  | hdr1 state fresh w0 words opcode error unlatched =>
    exact ⟨hdr1_next state fresh words opcode error unlatched, none (by simp [state]) (by simp [state])⟩
  | payload state fresh header parsing fields =>
    exact ⟨payload_next state fresh header parsing fields, none (by simp [state]) (by simp [state])⟩
  | drop state fresh header error hopeless =>
    exact ⟨drop_next state fresh header error hopeless, none (by simp [state]) (by simp [state])⟩
  | judging state fresh header error first fields =>
    exact ⟨judging_next state fresh header error first fields, none (by simp [state]) (by simp [state])⟩
  | checking state fresh header sound checked loop =>
    refine ⟨checking_next state fresh header sound checked loop, none ?_ ?_⟩ <;>
      rcases state with state | state | state <;> simp [state]
  | checked state fresh header sound checked result =>
    exact ⟨checked_next state fresh header sound checked result, none (by simp [state]) (by simp [state])⟩
  | writing state isOpen core pulses axi valid header checked crc loop =>
    rcases state with state | state | state
    · exact ⟨writing_next (.inl state) isOpen core pulses axi valid header checked crc loop,
        none (by simp [state]) (by simp [state])⟩
    · exact ⟨writing_next (.inr state) isOpen core pulses axi valid header checked crc loop,
        none (by simp [state]) (by simp [state])⟩
    · refine ⟨write_next state isOpen core pulses axi valid header checked crc loop, ?_⟩
      cases late : s.writer.timesOut p i with
      | true => exact timeout_lawful state late core pulses header checked crc loop
      | false =>
        have quiet : s.writer.raises p i = false := by simp [UploadWriter.raises, late, state]
        rw [not_answered quiet]
        exact fun t answered => absurd answered List.not_mem_nil
  | draining state closed failed =>
    refine ⟨draining_next state closed failed, ?_⟩
    have quiet : s.writer.raises p i = false := by simp [UploadWriter.raises, UploadWriter.timesOut, failed, state]
    rw [not_answered quiet]
    exact fun t answered => absurd answered List.not_mem_nil
  | emitting state isOpen valid whole opcode seq outcome =>
    exact ⟨emitting_next state, emitting_lawful state whole opcode seq outcome⟩

/-- Only a packet that is under way is answered. -/
theorem Phase.open_of_raises (phase : Phase p s.account s.writer) (raises : s.writer.raises p i = true) :
    s.account.isOpen = true := by
  cases phase with
  | idle state closed =>
    rw [raises_false (by simp [state]) (by simp [state])] at raises
    exact absurd raises Bool.false_ne_true
  | draining state closed failed => simp [UploadWriter.raises, UploadWriter.timesOut, state, failed] at raises
  | hdr0 state fresh words sound => exact fresh.isOpen
  | hdr1 state fresh w0 words opcode error unlatched => exact fresh.isOpen
  | payload state fresh header parsing fields => exact fresh.isOpen
  | drop state fresh header error hopeless => exact fresh.isOpen
  | judging state fresh header error first fields => exact fresh.isOpen
  | checking state fresh header sound checked loop => exact fresh.isOpen
  | checked state fresh header sound checked result => exact fresh.isOpen
  | writing state isOpen core pulses axi valid header checked crc loop => exact isOpen
  | emitting state isOpen valid whole opcode seq outcome => exact isOpen

theorem Phase.closed_of_idle (phase : Phase p s.account s.writer) (idle : s.writer.state = .idle) :
    s.account.isOpen = false := by
  cases phase with
  | idle _ closed => exact closed
  | draining _ closed _ => exact closed
  | hdr0 state | hdr1 state | payload state | drop state | judging state | checked state | emitting state =>
    exact WriterState.noConfusion (idle.symm.trans state)
  | checking state | writing state =>
    rcases state with state | state | state <;> exact WriterState.noConfusion (idle.symm.trans state)

/-- The session of a writer that waits for a packet, or for a write it has given up. -/
theorem Phase.core_still (phase : Phase p s.account s.writer) (closed : s.account.isOpen = false) (i : WriterIn) :
    (s.writer.step p i).core = s.writer.core := by
  cases phase with
  | idle state _ =>
    rw [UploadWriter.step, state]
    dsimp only
    rw [stepIdle]
    dsimp only
    split_ifs <;> rfl
  | draining state _ failed =>
    rw [UploadWriter.step, state]
    dsimp only
    rw [stepWrite, failed, if_pos rfl]
    dsimp only
    have in_time : s.writer.timesOut p i = false := by simp [UploadWriter.timesOut, failed]
    rw [in_time, if_neg Bool.false_ne_true]
    split_ifs <;> rfl
  | hdr0 _ fresh | hdr1 _ fresh | payload _ fresh | drop _ fresh | judging _ fresh | checking _ fresh | checked _ fresh =>
    exact absurd (fresh.isOpen.symm.trans closed) (fun bad => Bool.noConfusion bad)
  | writing _ isOpen | emitting _ isOpen => exact absurd (isOpen.symm.trans closed) (fun bad => Bool.noConfusion bad)

/-- A packet that is given up has not touched the session. -/
theorem Phase.given_up (phase : Phase p s.account s.writer) (gone : s.givesUp p i = true) :
    (s.writer.step p i).core = s.account.before := by
  rw [AccountedWriter.givesUp, Bool.and_eq_true, beq_iff_eq] at gone
  have at_ := gone.1
  cases phase with
  | hdr0 state fresh _ _ =>
    rw [UploadWriter.step, state]
    dsimp only
    rw [stepHdr0]
    dsimp only
    split_ifs <;> simp [fresh.core]
  | idle state | hdr1 state | payload state | drop state | judging state | checked state | draining state
  | emitting state => exact WriterState.noConfusion (at_.symm.trans state)
  | checking state | writing state =>
    rcases state with state | state | state <;> exact WriterState.noConfusion (at_.symm.trans state)

namespace AccountedWriter

/-- The session as the answered packets have left it. -/
def settled (s : AccountedWriter) : UploadCore := if s.account.isOpen then s.account.before else s.writer.core

/-- A packet is answered, or the session stays as the answered packets have left it. -/
theorem settled_step (phase : Phase p s.account s.writer) (i : WriterIn) :
    Chained s.settled (s.answered p i) (s.step p i).settled := by
  cases raises : s.writer.raises p i with
  | true =>
    have busy : s.writer.state ≠ .idle := by
      intro idle
      rw [raises_false (by simp [idle]) (by simp [idle])] at raises
      exact Bool.false_ne_true raises
    have was_open : s.account.isOpen = true := phase.open_of_raises raises
    have now_closed : (s.step p i).account.isOpen = false := by
      change (s.nextAccount p i).isOpen = false
      rw [nextAccount, not_starts busy, if_neg Bool.false_ne_true, raises, Bool.not_true, Bool.and_false, Bool.false_and]
    rw [answered, raises, if_pos rfl, settled, settled, was_open, now_closed, if_pos rfl, if_neg Bool.false_ne_true]
    exact ⟨rfl, rfl⟩
  | false =>
    rw [not_answered raises]
    change s.settled = (s.step p i).settled
    cases starts : s.starts p i with
    | true =>
      have idle : s.writer.state = .idle := by
        rw [AccountedWriter.starts, Bool.and_eq_true, beq_iff_eq] at starts
        exact starts.1
      have account : (s.step p i).account = ⟨s.writer.core, [], 0, [], [], false, true⟩ := if_pos starts
      rw [settled, settled, account, if_pos rfl, phase.closed_of_idle idle, if_neg Bool.false_ne_true]
    | false =>
      have account : (s.step p i).account.before = s.account.before ∧
          (s.step p i).account.isOpen = (s.account.isOpen && !s.givesUp p i) := by
        change (s.nextAccount p i).before = _ ∧ (s.nextAccount p i).isOpen = _
        rw [nextAccount, starts, if_neg Bool.false_ne_true, raises, Bool.not_false, Bool.and_true]
        exact ⟨rfl, rfl⟩
      rw [settled, settled, account.1, account.2]
      cases isOpen : s.account.isOpen with
      | false =>
        rw [Bool.false_and, if_neg Bool.false_ne_true, if_neg Bool.false_ne_true]
        exact (phase.core_still isOpen i).symm
      | true =>
        cases gone : s.givesUp p i with
        | false => rw [Bool.not_false, Bool.and_true, if_pos rfl, if_pos rfl]
        | true =>
          rw [Bool.not_true, Bool.and_false, if_pos rfl, if_neg Bool.false_ne_true]
          exact (phase.given_up gone).symm

end AccountedWriter

end Step

open AccountedWriter

/-- What is known of every run from reset. -/
theorem run_lawful (p : WriterParams) (is : List WriterIn) :
    Phase p ((accountedWriter p).run (.reset p) is).account ((accountedWriter p).run (.reset p) is).writer ∧
      Chained (.reset p) (answers p is) ((accountedWriter p).run (.reset p) is).settled ∧
      ∀ t ∈ answers p is, t.Lawful p := by
  induction is using List.reverseRecOn with
  | nil => exact ⟨.idle rfl rfl, rfl, fun t answered => absurd answered List.not_mem_nil⟩
  | append_singleton is i ih =>
    obtain ⟨phase, chained, lawful⟩ := ih
    obtain ⟨next, now⟩ := phase.step i
    have longer : answers p (is ++ [i]) = answers p is ++ ((accountedWriter p).run (.reset p) is).answered p i := by
      simp [answers]
    rw [longer, Clocked.Machine.run_append]
    refine ⟨next, chained.append (settled_step phase i), fun t answered => ?_⟩
    rcases List.mem_append.mp answered with earlier | answered
    · exact lawful t earlier
    · exact now t answered

end Xczu47dr.Upload
