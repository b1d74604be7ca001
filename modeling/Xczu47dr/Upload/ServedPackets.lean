import Xczu47dr.Upload.AnsweredPackets
import Xczu47dr.Upload.FedPackets
import Xczu47dr.Upload.DdrImage

/-! # A memory and a playback path that oblige

While nothing arrives, commands are admitted at once and every write is answered OKAY when both
its parts have been taken, a request that has been received is answered without a failure of the
memory, and the writer waits for the next one.
-/

namespace Xczu47dr.Upload

open UploadWriter

/-- Nothing arrives, whatever is asked for is given, and writes are answered at once. -/
def obligingCycle : WriterIn := { servedCycle with bvalid := true }

/-- The words of a packet in consecutive cycles. -/
def wordCycles : List Word → List WriterIn
  | [] => []
  | [w] => [{ obligingCycle with tvalid := true, tdata := w, tlast := true }]
  | w :: rest => { obligingCycle with tvalid := true, tdata := w } :: wordCycles rest

/-- The words, and so many cycles to answer them. -/
def servedWords (words : List Word) (count : Nat) : List WriterIn :=
  wordCycles words ++ List.replicate count obligingCycle

theorem brings_wordCycles {words : List Word} (some_word : words ≠ []) : Brings (wordCycles words) words := by
  induction words with
  | nil => exact absurd rfl some_word
  | cons w rest ih =>
    cases rest with
    | nil => exact ⟨[], _, rfl, rfl, rfl, nofun, rfl⟩
    | cons x rest =>
      obtain ⟨before, last, split, valid, ends, more, all⟩ := ih (List.cons_ne_nil _ _)
      refine ⟨{ obligingCycle with tvalid := true, tdata := w } :: before, last, congrArg (_ :: ·) split, valid, ends,
        ?_, ?_⟩
      · intro i among word
        rcases List.mem_cons.mp among with rfl | later
        · rfl
        · exact more i later word
      · rw [← all]
        rfl

/-- A writer between two packets. -/
structure Rests (s : FollowedWriter) : Prop where
  waits : s.accounted.writer.Waits
  closed : s.accounted.account.isOpen = false
  between : s.stream.current = []

section Serving

variable {p : WriterParams}

/-- Nothing is answered while a packet comes in. -/
theorem feeding_silent {s : AccountedWriter} (waits : s.writer.Waits) (closed : s.account.isOpen = false)
    {is : List WriterIn} (more : ∀ i ∈ is, i.tvalid = true → i.tlast = false) {words : List Word}
    (carries : carried is = ctrlMagic :: words ∨ carried is = []) :
    (accountedWriter p).log (AccountedWriter.answered p) s is = [] := by
  induction is using List.reverseRecOn generalizing words with
  | nil => rfl
  | append_singleton is i ih =>
    have earlier : ∀ j ∈ is, j.tvalid = true → j.tlast = false := fun j among => more j (List.mem_append_left _ among)
    obtain ⟨idle, fed⟩ := feeding (p := p) waits closed is earlier
    have front : (∃ front, carried is = ctrlMagic :: front) ∨ carried is = [] := by
      rw [carried_append] at carries
      cases first : carried is with
      | nil => exact .inr rfl
      | cons w rest =>
        left
        rw [first] at carries
        split_ifs at carries with valid
        · rcases carries with whole | none
          · rw [List.cons_append, List.cons.injEq] at whole
            exact ⟨rest, by rw [whole.1]⟩
          · exact absurd none (by simp)
        · exact ⟨words, carries.resolve_right id⟩
    have before : (accountedWriter p).log (AccountedWriter.answered p) s is = [] := by
      rcases front with ⟨front, some⟩ | none
      · exact ih earlier (.inl some)
      · exact ih earlier (.inr none : carried is = ctrlMagic :: [] ∨ carried is = [])
    have quiet : ((accountedWriter p).run s is).answered p i = [] := by
      refine not_answered ?_
      rcases front with ⟨front, some⟩ | none
      · have receiving := (fed front some).receiving
        rcases receiving_cases receiving with state | state | state | state <;>
          exact raises_false (by simp [state]) (by simp [state])
      · have state := (idle none).1.state
        exact raises_false (by simp [state]) (by simp [state])
    rw [Clocked.Machine.log_append, before]
    simpa using quiet

/-- The run that has brought `is`, and then so many cycles in which nothing arrives. -/
def obliged (p : WriterParams) (is : List WriterIn) (count : Nat) : FollowedWriter :=
  (followedWriter p).run (.reset p) (is ++ List.replicate count obligingCycle)

theorem obliged_succ (is : List WriterIn) (count : Nat) :
    obliged p is (count + 1) = (obliged p is count).step p obligingCycle := by
  rw [obliged, List.replicate_succ', ← List.append_assoc, Clocked.Machine.run_append]
  rfl

/-- The writer with its memory, in the same run. -/
theorem obliged_bus (p : WriterParams) (is : List WriterIn) (count : Nat) :
    ∃ m, Bus (obliged p is count).accounted.writer m := by
  have placed := inPlace_run p (fun _ => 0) (is ++ List.replicate count obligingCycle)
  have same := writerWithMemory_run p (fun _ => 0) (writerWithMemory p fun _ => 0).reset
    (is ++ List.replicate count obligingCycle)
  have bus := placed.bus
  rw [same] at bus
  rw [obliged, followedWriter_run]
  exact ⟨_, bus⟩

/-- A write of the run is answered OKAY as soon as it is issued. -/
theorem obliged_write (p : WriterParams) (is : List WriterIn) (count : Nat) :
    (obliged p is count).accounted.writer.axiFails p obligingCycle = false ∧
      (obliged p is count).accounted.writer.timesOut p obligingCycle = false := by
  obtain ⟨m, bus⟩ := obliged_bus p is count
  have in_time : (obliged p is count).accounted.writer.timesOut p obligingCycle = false := by
    cases late : (obliged p is count).accounted.writer.timesOut p obligingCycle with
    | false => rfl
    | true =>
      have writes : (obliged p is count).accounted.writer.state = .write := by
        simp only [UploadWriter.timesOut, Bool.and_eq_true, beq_iff_eq] at late
        exact late.1.1.1
      have fires : (obliged p is count).accounted.writer.bFires obligingCycle = true := by
        simp only [bFires, bready, awFires, wFires, writes]
        rcases bus.address writes with ⟨-, address, -⟩ | ⟨address, -, -⟩ <;>
          rcases bus.data writes with ⟨-, data, -⟩ | ⟨data, -, -⟩ <;> rw [address, data] <;>
            simp [obligingCycle, servedCycle, quietCycle]
      simp [UploadWriter.timesOut, fires] at late
  have okay : obligingCycle.bresp = 0 := rfl
  exact ⟨by simp [UploadWriter.axiFails, in_time, okay], in_time⟩

theorem obliged_trace (is : List WriterIn) (count : Nat) :
    (followedWriter p).trace (Clocked.Machine.endless is obligingCycle) (count + is.length) = obliged p is count := by
  rw [Clocked.Machine.trace_endless, List.take_of_length_le (Nat.le_add_left _ _), Nat.add_sub_cancel]
  rfl

theorem obliged_between {is : List WriterIn} (between : (obliged p is 0).stream.current = []) (count : Nat) :
    (obliged p is count).stream.current = [] := by
  induction count with
  | zero => exact between
  | succ count ih =>
    rw [obliged_succ]
    exact (congrArg PacketStream.current (take_quiet rfl)).trans ih

/-- The stream between packets, and what is asked for is given. -/
theorem obliged_served (p : WriterParams) {is : List WriterIn} (between : (obliged p is 0).stream.current = []) :
    Served p (Clocked.Machine.endless is obligingCycle) := by
  have rest (n : Nat) : Clocked.Machine.endless is obligingCycle (n + is.length) = obligingCycle :=
    List.getD_eq_default _ _ (Nat.le_add_left _ n)
  refine ⟨fun n => ⟨n + is.length, Nat.le_add_right _ _, .inr ?_⟩, fun n => ⟨n + is.length, Nat.le_add_right _ _, ?_⟩,
    fun n => ⟨n + is.length, Nat.le_add_right _ _, ?_⟩, fun n _ => ⟨n + is.length, Nat.le_add_right _ _, ?_⟩⟩
  · rw [obliged_trace]
    exact obliged_between between n
  · rw [rest]
    rfl
  · rw [rest]
    rfl
  · rw [rest]
    rfl

/-- What is known of a request that has been received, until it is answered. -/
structure Answering (words : List Word) (s : AccountedWriter) : Prop where
  received : s.writer.receiving = false
  words : s.account.words = words
  playback : s.writer.state = .final ∨ s.account.playback = 0
  memory : s.account.axiFails = false

/-- An obliging cycle of a request that has been received: it is answered, or goes on. -/
theorem Answering.next {words : List Word} {is : List WriterIn} {count : Nat}
    (answering : Answering words (obliged p is count).accounted)
    (going : (obliged p is count).accounted.account.isOpen = true) :
    (∃ t, (obliged p is count).accounted.answered p obligingCycle = [t] ∧ t.words = words ∧ t.playback = 0 ∧
      t.axiFails = false ∧ (obliged p is (count + 1)).accounted.account.isOpen = false ∧
      (obliged p is (count + 1)).accounted.writer.state = .idle) ∨
    (obliged p is count).accounted.answered p obligingCycle = [] ∧
      (obliged p is (count + 1)).accounted.account.isOpen = true ∧
      Answering words (obliged p is (count + 1)).accounted := by
  have phase := (run_lawful p (is ++ List.replicate count obligingCycle)).1
  have same : (obliged p is count).accounted =
      (accountedWriter p).run (.reset p) (is ++ List.replicate count obligingCycle) :=
    followedWriter_run p _ _
  rw [← same] at phase
  obtain ⟨sound, in_time⟩ := obliged_write p is count
  have busy : (obliged p is count).accounted.writer.state ≠ .idle := by
    intro idle
    exact Bool.noConfusion ((phase.closed_of_idle idle).symm.trans going)
  have stays : (obliged p is count).accounted.givesUp p obligingCycle = false := by
    apply givesUp_false
    intro state
    have receiving := answering.received
    simp [UploadWriter.receiving, state] at receiving
  rw [obliged_succ]
  change (∃ t, _ ∧ _ ∧ _ ∧ _ ∧ ((obliged p is count).accounted.nextAccount p obligingCycle).isOpen = false ∧
      ((obliged p is count).accounted.writer.step p obligingCycle).state = .idle) ∨
    _ ∧ ((obliged p is count).accounted.nextAccount p obligingCycle).isOpen = true ∧
      Answering words ((obliged p is count).accounted.step p obligingCycle)
  generalize (obliged p is count).accounted = s at *
  have account : s.nextAccount p obligingCycle = _ := AccountedWriter.nextAccount.eq_1 p s obligingCycle
  rw [not_starts busy, if_neg Bool.false_ne_true, stays, sound, Bool.or_false, Bool.not_false, Bool.and_true] at account
  cases raises : s.writer.raises p obligingCycle with
  | true =>
    left
    have emits : s.writer.state = .emit := by
      rw [UploadWriter.raises, in_time, Bool.or_false, beq_iff_eq] at raises
      exact raises
    rw [AccountedWriter.answered, raises, if_pos rfl, sound, Bool.or_false]
    refine ⟨_, rfl, answering.words, answering.playback.resolve_left (by simp [emits]), answering.memory, ?_, ?_⟩
    · rw [account, raises]
      exact Bool.and_false _
    · rw [step, emits]
      dsimp only
      rw [stepEmit]
      dsimp only
      split_ifs <;> rfl
  | false =>
    right
    refine ⟨not_answered raises, ?_, ?_, ?_, ?_, ?_⟩
    · rw [account, raises, Bool.not_false, Bool.and_true]
      exact going
    · cases inside : (s.writer.step p obligingCycle).receiving with
      | false => exact inside
      | true =>
        exact absurd (receiving_starts answering.received inside).1 busy
    · change (s.nextAccount p obligingCycle).words = words
      rw [account, receives_eq, answering.received, Bool.and_false, if_neg Bool.false_ne_true]
      exact answering.words
    · refine .inr ?_
      change (s.nextAccount p obligingCycle).playback = 0
      rw [account]
      dsimp only
      split_ifs with judging
      · rfl
      · exact answering.playback.resolve_left judging
    · change (s.nextAccount p obligingCycle).axiFails = false
      rw [account]
      exact answering.memory

/-- A request has been received, and none of the packets before it is answered again. -/
theorem received_words {is : List WriterIn} (rests : Rests ((followedWriter p).run (.reset p) is)) {words : List Word}
    (good : WellFormed words) :
    let fed := is ++ wordCycles (ctrlMagic :: words)
    Answering words (obliged p fed 0).accounted ∧ (obliged p fed 0).accounted.account.isOpen = true ∧
      (obliged p fed 0).stream.current = [] ∧ answers p fed = answers p is := by
  obtain ⟨waits, closed, -⟩ := rests
  obtain ⟨before, last, split, valid, ends, more, all⟩ := brings_wordCycles (List.cons_ne_nil ctrlMagic words)
  have start : ((followedWriter p).run (.reset p) is).accounted = (accountedWriter p).run (.reset p) is :=
    followedWriter_run p (.reset p) is
  rw [start] at waits closed
  obtain ⟨front, first, whole⟩ : ∃ front, carried before = ctrlMagic :: front ∧ front ++ [last.tdata] = words := by
    cases earlier : carried before with
    | nil =>
      rw [earlier, List.nil_append, List.cons.injEq] at all
      obtain ⟨-, rfl⟩ := all
      exact absurd (wellFormed_long good) (by decide)
    | cons word front =>
      rw [earlier, List.cons_append, List.cons.injEq] at all
      obtain ⟨rfl, rest⟩ := all
      exact ⟨front, rfl, rest⟩
  have fed := (feeding (p := p) waits closed before more).2 front first
  have registered := fed.registered valid ends (by rw [whole]; exact good)
  obtain ⟨-, received⟩ := fed.account last
  rw [valid, if_pos rfl, whole] at received
  have phase := (fed.phase.step last).1
  have state : (obliged p (is ++ wordCycles (ctrlMagic :: words)) 0).accounted =
      (((accountedWriter p).run ((accountedWriter p).run (.reset p) is) before).step p last) := by
    rw [obliged, List.replicate_zero, List.append_nil, split, followedWriter_run, ← List.append_assoc,
      Clocked.Machine.run_append, Clocked.Machine.run_append]
    rfl
  dsimp only
  rw [state]
  have final := registered.state
  have fresh : Fresh (((accountedWriter p).run ((accountedWriter p).run (.reset p) is) before).step p last).account
      (((accountedWriter p).run ((accountedWriter p).run (.reset p) is) before).step p last).writer := by
    cases phase with
    | judging _ fresh => exact fresh
    | hdr0 other | hdr1 other | payload other | drop other | idle other | checked other | draining other
    | emitting other => exact WriterState.noConfusion (final.symm.trans other)
    | checking other | writing other =>
      rcases other with other | other | other <;> exact WriterState.noConfusion (final.symm.trans other)
  refine ⟨⟨by simp [UploadWriter.receiving, final], received, .inl final, fresh.axi⟩, fresh.isOpen, ?_, ?_⟩
  · rw [obliged, List.replicate_zero, List.append_nil, split, ← List.append_assoc, Clocked.Machine.run_append]
    exact congrArg PacketStream.current (take_last valid ends)
  · have silent := feeding_silent (p := p) waits closed more (.inl first)
    have quiet : (((accountedWriter p).run ((accountedWriter p).run (.reset p) is) before)).answered p last = [] := by
      refine not_answered ?_
      rcases receiving_cases fed.receiving with state | state | state | state <;>
        exact raises_false (by simp [state]) (by simp [state])
    rw [answers, split, ← List.append_assoc, Clocked.Machine.log_append, Clocked.Machine.log_append, silent,
      Clocked.Machine.run_append]
    simp [quiet, answers]

/-- A request that is sent to a writer at rest is answered, and the writer rests again. -/
theorem request_served {is : List WriterIn} (rests : Rests ((followedWriter p).run (.reset p) is)) {words : List Word}
    (good : WellFormed words) :
    ∃ count t, answers p (is ++ servedWords (ctrlMagic :: words) count) = answers p is ++ [t] ∧ t.words = words ∧
      t.playback = 0 ∧ t.axiFails = false ∧
      Rests ((followedWriter p).run (.reset p) (is ++ servedWords (ctrlMagic :: words) count)) := by
  obtain ⟨received, going, between, unanswered⟩ := received_words rests good
  generalize whole : is ++ wordCycles (ctrlMagic :: words) = fed at *
  have ends : ∃ m, 0 ≤ m ∧ (obliged p fed m).accounted.account.isOpen = false := by
    obtain ⟨m, later, closed⟩ := closed_eventually (obliged_served p between) fed.length trivial
    obtain ⟨count, rfl⟩ : ∃ count, m = count + fed.length := ⟨m - fed.length, by omega⟩
    rw [obliged_trace] at closed
    exact ⟨count, Nat.zero_le _, closed⟩
  obtain ⟨m, -, closed, first⟩ := Clocked.exists_first ends
  obtain ⟨last, rfl⟩ : ∃ last, m = last + 1 := by
    cases m with
    | zero => exact absurd (going.symm.trans closed) Bool.noConfusion
    | succ last => exact ⟨last, rfl⟩
  have longer (count : Nat) : answers p (fed ++ List.replicate (count + 1) obligingCycle) =
      answers p (fed ++ List.replicate count obligingCycle) ++
        (obliged p fed count).accounted.answered p obligingCycle := by
    have same : (obliged p fed count).accounted =
        (accountedWriter p).run (.reset p) (fed ++ List.replicate count obligingCycle) :=
      followedWriter_run p _ _
    rw [List.replicate_succ', ← List.append_assoc, answers, Clocked.Machine.log_append, same]
    simp [answers]
  have waiting (count : Nat) (early : count ≤ last) : Answering words (obliged p fed count).accounted ∧
      answers p (fed ++ List.replicate count obligingCycle) = answers p is := by
    induction count with
    | zero =>
      rw [List.replicate_zero, List.append_nil]
      exact ⟨received, unanswered⟩
    | succ count ih =>
      obtain ⟨answering, silent⟩ := ih (by omega)
      have still := Bool.eq_true_of_not_eq_false (first count (Nat.zero_le _) (by omega))
      rcases answering.next still with ⟨t, -, -, -, -, over', -⟩ | ⟨none, -, next⟩
      · exact absurd over' (first (count + 1) (Nat.zero_le _) (by omega))
      · rw [longer, silent, none, List.append_nil]
        exact ⟨next, rfl⟩
  obtain ⟨answering, silent⟩ := waiting last (Nat.le_refl _)
  have still := Bool.eq_true_of_not_eq_false (first last (Nat.zero_le _) (Nat.lt_succ_self _))
  rcases answering.next still with ⟨t, answer, own, playback, memory, closed', idle⟩ | ⟨-, open', -⟩
  · -- the cycle after the answer takes it
    refine ⟨last + 2, t, ?_, own, playback, memory, ?_⟩
    · rw [servedWords, ← List.append_assoc, whole, longer, longer, silent, answer, not_answered, List.append_nil]
      exact raises_false (by simp [idle]) (by simp [idle])
    · rw [servedWords, ← List.append_assoc, whole]
      change Rests (obliged p fed (last + 2))
      have sound := sound_trace p (Clocked.Machine.endless fed obligingCycle) (last + 2 + fed.length)
      have current := obliged_between between (last + 2)
      rw [obliged_trace] at sound
      have state : (obliged p fed (last + 2)).accounted.writer =
          (obliged p fed (last + 1)).accounted.writer.common p obligingCycle := by
        rw [obliged_succ]
        change (obliged p fed (last + 1)).accounted.writer.step p obligingCycle = _
        rw [step, idle]
        rfl
      have waits : (obliged p fed (last + 2)).accounted.writer.state = .idle := by
        rw [state, common_state]
        exact idle
      refine ⟨⟨waits, ?_, ?_⟩, sound.phase.closed_of_idle waits, current⟩
      · rw [sound.inStep.active, current]
        rfl
      · rw [state, common_valid]
        exact Bool.and_false _
  · exact absurd (open'.symm.trans closed) Bool.noConfusion

end Serving

end Xczu47dr.Upload
