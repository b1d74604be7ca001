import Xczu47dr.Clocked.Progress
import Xczu47dr.Upload.CommandMailbox

/-! # Delivery of the commands

Every command that the writer pulses finds room in the mailbox, because it was admitted at
the level that it meets; it leaves the mailbox in its turn, a `COMMIT` behind its record,
and the words of a record stand in the writer until they have entered their FIFO.
-/

namespace Xczu47dr.Upload

open Clocked

namespace CommandMailbox

variable {m : CommandMailbox} {pulse : Option PlaybackCommand} {commandWrReady descriptorWrReady : Bool}

def popped (m : CommandMailbox) (commandWrReady : Bool) : List PlaybackCommand :=
  if m.pops commandWrReady then [m.head] else []

/-- The mailbox is a ring of eight, and a record is pending, or accepted, for its last `COMMIT`. -/
structure Sound (m : CommandMailbox) : Prop where
  commandRdPtr : m.commandRdPtr < 8
  commandWrPtr : m.commandWrPtr = (m.commandRdPtr + m.commandCount) % 8
  commandCount : m.commandCount ≤ 8
  pending : m.descriptorPending = true → m.descriptorAccepted = false ∧ .commit ∈ m.contents
  accepted : m.descriptorPending = false → .commit ∈ m.contents → m.descriptorAccepted = true

@[simp] theorem length_contents : m.contents.length = m.commandCount := Ring.length_contents _ _ _ _

theorem count_of_pops (pops : m.pops commandWrReady = true) : m.commandCount ≠ 0 := by
  simp only [CommandMailbox.pops, wrValid, Bool.and_eq_true, decide_eq_true_eq] at pops
  exact pops.1.1

theorem contents_cons (sound : m.Sound) (some_held : m.commandCount ≠ 0) :
    m.contents = m.head :: Ring.contents m.commandMem 8 ((m.commandRdPtr + 1) % 8) (m.commandCount - 1) := by
  obtain ⟨count, counted⟩ := Nat.exists_eq_succ_of_ne_zero some_held
  rw [contents, counted, Nat.succ_eq_add_one, Ring.contents_pop _ count sound.commandRdPtr]
  rfl

/-- A command that is pulsed is held behind the others, and the head leaves if it may. -/
theorem contents_step (sound : m.Sound) (ready : pulse.isSome = true → m.commandReady = true)
    (commandWrReady descriptorWrReady : Bool) :
    m.popped commandWrReady ++ (m.step pulse commandWrReady descriptorWrReady).contents =
      m.contents ++ pulse.toList := by
  have room (command : PlaybackCommand) (pulsed : pulse = some command) : m.commandCount < 8 := by
    have admitted := ready (by rw [pulsed]; rfl)
    simp only [commandReady, Bool.and_eq_true, decide_eq_true_eq] at admitted
    exact admitted.1
  have bounded := sound.commandCount
  cases pulsed : pulse with
  | none =>
    have still : m.pushes none = false := rfl
    by_cases pops : m.pops commandWrReady = true
    · have held := count_of_pops pops
      rw [popped, if_pos pops, contents_cons sound held, contents]
      simp only [step, still, pops, if_true, Bool.false_eq_true, if_false]
      rw [show (m.commandCount + 15) % 16 = m.commandCount - 1 by omega]
      simp
    · rw [Bool.not_eq_true] at pops
      simp only [popped, contents, step, still, pops, Bool.false_eq_true, if_false, List.nil_append, Option.toList_none,
        List.append_nil]
  | some command =>
    have space := room command pulsed
    have pushes : m.pushes (some command) = true := by
      rw [CommandMailbox.pushes, ready (by rw [pulsed]; rfl)]
      rfl
    have appended := Ring.contents_push m.commandMem m.commandRdPtr space command
    rw [← sound.commandWrPtr] at appended
    by_cases pops : m.pops commandWrReady = true
    · have held := count_of_pops pops
      -- the slot that is written is not the one that is read
      have apart : m.commandRdPtr ≠ m.commandWrPtr := by
        rw [sound.commandWrPtr]
        have distinct : (m.commandRdPtr + 0) % 8 ≠ (m.commandRdPtr + m.commandCount) % 8 :=
          Ring.index_ne (Nat.pos_of_ne_zero held) space
        rwa [Nat.add_zero, Nat.mod_eq_of_lt sound.commandRdPtr] at distinct
      rw [Ring.contents_pop _ _ sound.commandRdPtr, Function.update_of_ne apart] at appended
      rw [popped, if_pos pops]
      change m.head :: (m.step (some command) commandWrReady descriptorWrReady).contents = _
      simp only [contents, step, pushes, pops, if_true]
      exact appended
    · rw [Bool.not_eq_true] at pops
      simp only [popped, contents, step, pushes, pops, Bool.false_eq_true, if_false, if_true, List.nil_append]
      rw [Nat.mod_eq_of_lt (by omega)]
      exact appended

/-- What is left are the commands behind those that have left, and then the one pulsed. -/
theorem contents_rest (sound : m.Sound) (ready : pulse.isSome = true → m.commandReady = true)
    (commandWrReady descriptorWrReady : Bool) :
    (m.step pulse commandWrReady descriptorWrReady).contents =
      (if m.pops commandWrReady then m.contents.tail else m.contents) ++ pulse.toList := by
  have step := contents_step sound ready commandWrReady descriptorWrReady
  by_cases pops : m.pops commandWrReady = true
  · rw [popped, if_pos pops, contents_cons sound (count_of_pops pops)] at step
    rw [if_pos pops, contents_cons sound (count_of_pops pops)]
    exact List.tail_eq_of_cons_eq step
  · rw [popped, if_neg pops] at step
    rw [if_neg pops]
    exact step

theorem head_of_pops (pops : m.pops commandWrReady = true) : m.head ≠ .commit ∨ m.descriptorAccepted = true := by
  have held := count_of_pops pops
  simp only [CommandMailbox.pops, wrValid, headIsCommit, Bool.and_eq_true, Bool.or_eq_true, Bool.not_eq_true',
    Bool.and_eq_false_iff, decide_eq_false_iff_not, decide_eq_true_eq] at pops
  obtain ⟨⟨-, (empty | other) | accepted⟩, -⟩ := pops
  · exact absurd held empty
  · exact .inl other
  · exact .inr accepted

/-- No command is pulsed while a record is pending. -/
theorem unpulsed_of_pending (ready : pulse.isSome = true → m.commandReady = true)
    (pending : m.descriptorPending = true) : pulse = none := by
  cases pulse with
  | none => rfl
  | some command =>
    have admitted := ready rfl
    rw [commandReady, pending, Bool.not_true, Bool.and_false] at admitted
    cases admitted

theorem mem_rest (sound : m.Sound) (held : .commit ∈ m.contents) (unaccepted : m.descriptorAccepted = false) :
    .commit ∈ if m.pops commandWrReady then m.contents.tail else m.contents := by
  by_cases pops : m.pops commandWrReady = true
  · rw [if_pos pops]
    rw [contents_cons sound (count_of_pops pops)] at held ⊢
    rcases head_of_pops pops with other | accepted
    · exact (List.mem_cons.mp held).resolve_left fun same => other same.symm
    · rw [unaccepted] at accepted
      cases accepted
  · rwa [if_neg pops]

theorem Sound.step (sound : m.Sound) (ready : pulse.isSome = true → m.commandReady = true)
    (commandWrReady descriptorWrReady : Bool) : (m.step pulse commandWrReady descriptorWrReady).Sound := by
  have rest := contents_rest sound ready commandWrReady descriptorWrReady
  have bounded := sound.commandCount
  have room (pushes : m.pushes pulse = true) : m.commandCount < 8 := by
    simp only [CommandMailbox.pushes, commandReady, Bool.and_eq_true, decide_eq_true_eq] at pushes
    exact pushes.2.1
  refine ⟨?_, ?_, ?_, ?_, ?_⟩
  · have inRange := sound.commandRdPtr
    change (if m.pops commandWrReady then (m.commandRdPtr + 1) % 8 else m.commandRdPtr) < 8
    split_ifs <;> omega
  · have behind := sound.commandWrPtr
    simp only [CommandMailbox.step]
    cases pushes : m.pushes pulse <;> cases pops : m.pops commandWrReady
    · simpa using behind
    · have held := count_of_pops pops
      simp only [Bool.false_eq_true, if_false, if_true]
      omega
    · have space := room pushes
      simp only [Bool.false_eq_true, if_false, if_true]
      omega
    · simp only [if_true]
      omega
  · simp only [CommandMailbox.step]
    cases pushes : m.pushes pulse <;> cases pops : m.pops commandWrReady
    · exact bounded
    · have held := count_of_pops pops
      dsimp only
      omega
    · have space := room pushes
      dsimp only
      omega
    · exact bounded
  · intro pending
    rw [rest, List.mem_append]
    simp only [CommandMailbox.step] at pending ⊢
    by_cases fires : m.descriptorFires descriptorWrReady = true
    · rw [if_pos fires] at pending
      cases pending
    rw [if_neg fires] at pending ⊢
    by_cases commits : pulse = some .commit
    · rw [commits]
      exact ⟨by simp, .inr (by simp)⟩
    · have waits : m.descriptorPending = true := by simpa [commits] using pending
      obtain ⟨unaccepted, held⟩ := sound.pending waits
      exact ⟨by rw [unaccepted, Bool.and_false], .inl (mem_rest sound held unaccepted)⟩
  · intro settled held
    rw [rest, List.mem_append] at held
    simp only [CommandMailbox.step] at settled ⊢
    by_cases fires : m.descriptorFires descriptorWrReady = true
    · rw [if_pos fires]
    rw [if_neg fires] at settled ⊢
    rw [Bool.or_eq_false_iff, decide_eq_false_iff_not] at settled
    have stayed : .commit ∈ m.contents := by
      rcases held with rest | pulsed
      · split_ifs at rest
        · exact List.mem_of_mem_tail rest
        · exact rest
      · exact absurd (by simpa using pulsed) settled.1
    rw [sound.accepted settled.2 stayed, decide_eq_true settled.1]
    rfl

end CommandMailbox

/-! ## The writer and the mailbox -/

namespace CommandPath

variable {p : WriterParams} {s : CommandPath} {tick : CommandTick}

/-- A command is pulsed in `ST_EMIT`, and the mailbox has room for it. -/
structure Steady (s : CommandPath) : Prop where
  mailbox : s.mailbox.Sound
  ready : s.writer.pulse.isSome = true → s.mailbox.commandReady = true
  emits : s.writer.pulse.isSome = true → s.writer.state = .emit

/-- Without a pulse the mailbox does not fill up. -/
theorem commandReady_step {m : CommandMailbox} {commandWrReady descriptorWrReady : Bool}
    (ready : m.commandReady = true) : (m.step none commandWrReady descriptorWrReady).commandReady = true := by
  simp only [CommandMailbox.commandReady, Bool.and_eq_true, decide_eq_true_eq, Bool.not_eq_true'] at ready ⊢
  obtain ⟨space, settled⟩ := ready
  have unpushed : m.pushes none = false := rfl
  simp only [CommandMailbox.step, unpushed, settled]
  refine ⟨?_, by split_ifs <;> rfl⟩
  cases pops : m.pops commandWrReady with
  | false => exact space
  | true =>
    have held := CommandMailbox.count_of_pops pops
    dsimp only
    omega

/-- The words of the descriptor change in an admission only. -/
theorem Steady.recordWords_step (steady : s.Steady) (i : WriterIn)
    (busy : s.writer.pulse.isSome = true ∨ s.mailbox.descriptorPending = true) :
    (s.writer.step p { i with commandReady := s.mailbox.commandReady }).core.recordWords =
      s.writer.core.recordWords := by
  rcases step_cases (p := p) (i := { i with commandReady := s.mailbox.commandReady }) s.writer with
    quiet | ⟨final, admitted⟩
  · exact quiet.record
  · rcases busy with pulsed | pending
    · exact nomatch final.symm.trans (steady.emits pulsed)
    · have admits : s.mailbox.commandReady = true := admitted.ready
      rw [CommandMailbox.commandReady, pending, Bool.not_true, Bool.and_false] at admits
      cases admits

theorem Steady.step (steady : s.Steady) (tick : CommandTick) : (s.step p tick).Steady := by
  cases tick with
  | dac commandShown descriptorShown => exact ⟨steady.mailbox, steady.ready, steady.emits⟩
  | ddr i commandWrReady descriptorWrReady =>
    have sound := steady.mailbox.step steady.ready commandWrReady descriptorWrReady
    rcases step_cases (p := p) (i := { i with commandReady := s.mailbox.commandReady }) s.writer with
      quiet | ⟨final, admitted⟩
    · have unpulsed : (s.step p (.ddr i commandWrReady descriptorWrReady)).writer.pulse.isSome ≠ true := by
        rw [show (s.step p (.ddr i commandWrReady descriptorWrReady)).writer.pulse = none from quiet.pulse]
        nofun
      exact ⟨sound, fun pulsed => absurd pulsed unpulsed, fun pulsed => absurd pulsed unpulsed⟩
    · -- the command before this one has been pulsed long ago
      have unpulsed : s.writer.pulse = none := by
        rw [← Option.not_isSome_iff_eq_none]
        intro pulsed
        exact nomatch final.symm.trans (steady.emits pulsed)
      refine ⟨sound, fun _ => ?_, fun _ => admitted.emits⟩
      change (s.mailbox.step s.writer.pulse commandWrReady descriptorWrReady).commandReady = true
      rw [unpulsed]
      exact commandReady_step admitted.ready

theorem steady_reset : (commandPath p).reset.Steady where
  mailbox := ⟨Nat.zero_lt_succ 7, rfl, Nat.zero_le 8, nofun, fun _ held => by cases held⟩
  ready := nofun
  emits := nofun

/-! ## What is conserved -/

theorem Steady.delivers_step (steady : s.Steady) (tick : CommandTick) :
    s.delivers tick ++ ((s.step p tick).commandFifo ++ (s.step p tick).mailbox.contents) =
      s.commandFifo ++ s.mailbox.contents ++ s.issues tick := by
  cases tick with
  | dac commandShown descriptorShown =>
    cases commandShown with
    | false => simp [delivers, issues, CommandPath.step]
    | true =>
      change s.commandFifo.take 1 ++ (s.commandFifo.tail ++ s.mailbox.contents) = _ ++ []
      rw [← List.append_assoc, ← List.drop_one, List.take_append_drop, List.append_nil]
  | ddr i commandWrReady descriptorWrReady =>
    have moved := CommandMailbox.contents_step steady.mailbox steady.ready commandWrReady descriptorWrReady
    have entered : (s.step p (.ddr i commandWrReady descriptorWrReady)).commandFifo =
        s.commandFifo ++ s.mailbox.popped commandWrReady := by
      simp only [CommandPath.step, CommandMailbox.popped]
      split_ifs
      · rfl
      · exact (List.append_nil _).symm
    rw [entered, List.append_assoc, List.append_assoc]
    exact congrArg (s.commandFifo ++ ·) moved

theorem Steady.enters_step (steady : s.Steady) (tick : CommandTick) :
    s.enters tick ++ (s.step p tick).mailbox.contents = s.mailbox.contents ++ s.issues tick := by
  cases tick with
  | dac commandShown descriptorShown => exact (List.append_nil _).symm
  | ddr i commandWrReady descriptorWrReady =>
    exact CommandMailbox.contents_step steady.mailbox steady.ready commandWrReady descriptorWrReady

theorem delivers_enters_step (tick : CommandTick) :
    s.delivers tick ++ (s.step p tick).commandFifo = s.commandFifo ++ s.enters tick := by
  cases tick with
  | dac commandShown descriptorShown =>
    cases commandShown with
    | false => simp [delivers, enters, step]
    | true =>
      change s.commandFifo.take 1 ++ s.commandFifo.tail = s.commandFifo ++ []
      rw [← List.drop_one, List.take_append_drop, List.append_nil]
  | ddr i commandWrReady descriptorWrReady =>
    simp only [delivers, enters, step, List.nil_append]
    split_ifs
    · rfl
    · exact (List.append_nil _).symm

theorem Steady.records_step (steady : s.Steady) (tick : CommandTick) :
    s.records tick ++ (s.step p tick).pendingRecord = s.pendingRecord ++ s.captures tick := by
  cases tick with
  | dac commandShown descriptorShown => exact (List.append_nil _).symm
  | ddr i commandWrReady descriptorWrReady =>
    have kept := steady.recordWords_step (p := p) i
    have waiting : (s.step p (.ddr i commandWrReady descriptorWrReady)).mailbox.descriptorPending =
        if s.mailbox.descriptorFires descriptorWrReady then false
        else decide (s.writer.pulse = some .commit) || s.mailbox.descriptorPending := rfl
    simp only [pendingRecord, waiting, records, captures]
    by_cases fires : s.mailbox.descriptorFires descriptorWrReady = true
    · have pending : s.mailbox.descriptorPending = true := (Bool.and_eq_true_iff.mp fires).1
      have unpulsed := CommandMailbox.unpulsed_of_pending steady.ready pending
      rw [if_pos fires, if_pos fires, pending, unpulsed]
      rfl
    · rw [if_neg fires, if_neg fires]
      by_cases commits : s.writer.pulse = some .commit
      · have settled : s.mailbox.descriptorPending = false := by
          rw [← Bool.not_eq_true]
          intro pending
          have unpulsed := CommandMailbox.unpulsed_of_pending steady.ready pending
          exact nomatch commits.symm.trans unpulsed
        rw [if_pos commits, decide_eq_true commits, settled]
        exact congrArg (fun words => [words]) (kept (.inl (by rw [commits]; rfl)))
      · rw [if_neg commits, decide_eq_false commits, Bool.false_or, List.nil_append, List.append_nil]
        by_cases pending : s.mailbox.descriptorPending = true
        · rw [if_pos pending, if_pos pending]
          exact congrArg (fun words => [words]) (kept (.inr pending))
        · rw [if_neg pending, if_neg pending]

end CommandPath

/-! ## Runs -/

section Runs

variable (p : WriterParams) (ticks : Nat → CommandTick)

/-- The path before the tick `n`, and what has happened in the ticks before it. -/
def pathAt (n : Nat) : CommandPath := (commandPath p).trace ticks n

def issued (n : Nat) : List PlaybackCommand := (commandPath p).traceLog CommandPath.issues ticks 0 n

def captured (n : Nat) : List RecordWords := (commandPath p).traceLog CommandPath.captures ticks 0 n

def entered (n : Nat) : List PlaybackCommand := (commandPath p).traceLog CommandPath.enters ticks 0 n

def recorded (n : Nat) : List RecordWords := (commandPath p).traceLog CommandPath.records ticks 0 n

def delivered (n : Nat) : List PlaybackCommand := (commandPath p).traceLog CommandPath.delivers ticks 0 n

/-- Neither FIFO keeps its writer waiting for ever, and the DAC side comes to see what is in
    the command FIFO. -/
structure Unstalled : Prop where
  command : ∀ n, ∃ k, n ≤ k ∧ ∃ i descriptorWrReady, ticks k = .ddr i true descriptorWrReady
  descriptor : ∀ n, ∃ k, n ≤ k ∧ ∃ i commandWrReady, ticks k = .ddr i commandWrReady true
  dac : ∀ n, ∃ k, n ≤ k ∧ ∃ descriptorShown, ticks k = .dac true descriptorShown

/-- The commands cross without loss and in their order, each `COMMIT` behind its record. -/
structure Crosses : Prop where
  /-- Each command pulsed has been delivered, or is on its way, once and in its turn. -/
  inOrder : ∀ n, issued p ticks n =
    delivered p ticks n ++ (pathAt p ticks n).commandFifo ++ (pathAt p ticks n).mailbox.contents
  bounded : ∀ n, (pathAt p ticks n).mailbox.commandCount ≤ 8
  /-- The words captured with each `COMMIT` are those that enter the FIFO. -/
  records : ∀ n, captured p ticks n = recorded p ticks n ++ (pathAt p ticks n).pendingRecord
  captures : ∀ n, (captured p ticks n).length = (issued p ticks n).count .commit
  undisturbed : ∀ n, (pathAt p ticks n).mailbox.descriptorPending = true → (pathAt p ticks n).writer.pulse = none
  /-- A `COMMIT` that is delivered in a tick has its record in the FIFO before it. -/
  behind : ∀ n, (delivered p ticks (n + 1)).count .commit ≤ (recorded p ticks n).length
  arrives : Unstalled ticks → ∀ n, ∃ k, issued p ticks n <+: delivered p ticks k

variable {p ticks}

theorem steadyAt (p : WriterParams) (ticks : Nat → CommandTick) (n : Nat) : (pathAt p ticks n).Steady :=
  (commandPath p).trace_invariant ticks CommandPath.steady_reset (fun _ tick steady => steady.step tick) n

theorem issued_eq (n : Nat) : issued p ticks n =
    delivered p ticks n ++ ((pathAt p ticks n).commandFifo ++ (pathAt p ticks n).mailbox.contents) :=
  ((commandPath p).traceLog_conserved _ _ (fun s => s.commandFifo ++ s.mailbox.contents) ticks (steadyAt p ticks)
    (fun _ tick steady => steady.delivers_step tick) n).symm

theorem issued_entered (n : Nat) : issued p ticks n = entered p ticks n ++ (pathAt p ticks n).mailbox.contents :=
  ((commandPath p).traceLog_conserved _ _ (fun s => s.mailbox.contents) ticks (steadyAt p ticks)
    (fun _ tick steady => steady.enters_step tick) n).symm

theorem entered_delivered (n : Nat) : entered p ticks n = delivered p ticks n ++ (pathAt p ticks n).commandFifo :=
  ((commandPath p).traceLog_conserved _ _ (fun s => s.commandFifo) ticks (steadyAt p ticks)
    (fun _ tick _ => CommandPath.delivers_enters_step tick) n).symm

theorem captured_eq (n : Nat) : captured p ticks n = recorded p ticks n ++ (pathAt p ticks n).pendingRecord :=
  ((commandPath p).traceLog_conserved _ _ CommandPath.pendingRecord ticks (steadyAt p ticks)
    (fun _ tick steady => steady.records_step tick) n).symm

theorem length_captures (s : CommandPath) (tick : CommandTick) :
    (s.captures tick).length = (s.issues tick).count .commit := by
  cases tick with
  | dac commandShown descriptorShown => rfl
  | ddr i commandWrReady descriptorWrReady =>
    simp only [CommandPath.captures, CommandPath.issues]
    cases s.writer.pulse with
    | none => rfl
    | some command => cases command <;> rfl

theorem length_captured (n : Nat) : (captured p ticks n).length = (issued p ticks n).count .commit := by
  induction n with
  | zero => rfl
  | succ n ih =>
    have grown := length_captures ((commandPath p).trace ticks (0 + n)) (ticks (0 + n))
    unfold captured issued at ih ⊢
    rw [Clocked.Machine.traceLog_succ, Clocked.Machine.traceLog_succ, List.length_append, List.count_append, ih, grown]

/-- A `COMMIT` does not leave the mailbox before its record has entered the FIFO. -/
theorem commits_entered (n : Nat) : (entered p ticks (n + 1)).count .commit ≤ (recorded p ticks n).length := by
  have steady := steadyAt p ticks n
  have sound := steady.mailbox
  have counted := @length_captured p ticks n
  rw [captured_eq, issued_entered, List.length_append, List.count_append] at counted
  have grown : entered p ticks (n + 1) = entered p ticks n ++ (pathAt p ticks n).enters (ticks n) := by
    have succ := (commandPath p).traceLog_succ CommandPath.enters ticks 0 n
    rwa [Nat.zero_add] at succ
  have waiting : (pathAt p ticks n).pendingRecord.length = (pathAt p ticks n).mailbox.descriptorPending.toNat := by
    rw [CommandPath.pendingRecord]
    cases (pathAt p ticks n).mailbox.descriptorPending <;> rfl
  rw [grown, List.count_append]
  by_cases leaves : .commit ∈ (pathAt p ticks n).enters (ticks n)
  · -- the head is a `COMMIT`, and no record is pending
    cases tick : ticks n with
    | dac commandShown descriptorShown =>
      rw [tick] at leaves
      cases leaves
    | ddr i commandWrReady descriptorWrReady =>
      rw [tick] at leaves
      simp only [CommandPath.enters] at leaves ⊢
      by_cases pops : (pathAt p ticks n).mailbox.pops commandWrReady = true
      · rw [if_pos pops] at leaves ⊢
        have head := List.mem_singleton.mp leaves
        have settled : (pathAt p ticks n).mailbox.descriptorPending = false := by
          rw [← Bool.not_eq_true]
          intro pending
          rcases CommandMailbox.head_of_pops pops with other | accepted
          · exact other head.symm
          · rw [(sound.pending pending).1] at accepted
            cases accepted
        rw [waiting, settled] at counted
        have contents := CommandMailbox.contents_cons sound (CommandMailbox.count_of_pops pops)
        rw [contents, ← head, List.count_cons_self] at counted
        rw [← head, List.count_singleton_self]
        simp only [Bool.toNat_false] at counted
        omega
      · rw [if_neg pops] at leaves
        cases leaves
  · rw [List.count_eq_zero.mpr leaves]
    by_cases pending : (pathAt p ticks n).mailbox.descriptorPending = true
    · have held := List.count_pos_iff.mpr (sound.pending pending).2
      rw [waiting, pending, Bool.toNat_true] at counted
      omega
    · rw [Bool.not_eq_true] at pending
      rw [waiting, pending, Bool.toNat_false] at counted
      omega

theorem commits_delivered (n : Nat) : (delivered p ticks (n + 1)).count .commit ≤ (recorded p ticks n).length := by
  have entered := @commits_entered p ticks n
  rw [entered_delivered, List.count_append] at entered
  omega

/-! ## Delivery -/

theorem issued_succ (n : Nat) : issued p ticks (n + 1) = issued p ticks n ++ (pathAt p ticks n).issues (ticks n) := by
  have succ := (commandPath p).traceLog_succ CommandPath.issues ticks 0 n
  rwa [Nat.zero_add] at succ

theorem entered_succ (n : Nat) : entered p ticks (n + 1) = entered p ticks n ++ (pathAt p ticks n).enters (ticks n) := by
  have succ := (commandPath p).traceLog_succ CommandPath.enters ticks 0 n
  rwa [Nat.zero_add] at succ

theorem delivered_succ (n : Nat) :
    delivered p ticks (n + 1) = delivered p ticks n ++ (pathAt p ticks n).delivers (ticks n) := by
  have succ := (commandPath p).traceLog_succ CommandPath.delivers ticks 0 n
  rwa [Nat.zero_add] at succ

theorem issued_mono {n k : Nat} (later : n ≤ k) : issued p ticks n <+: issued p ticks k := by
  induction k, later using Nat.le_induction with
  | base => exact List.prefix_rfl
  | succ k later ih =>
    rw [issued_succ]
    exact ih.trans (List.prefix_append _ _)

/-- The moves of the mailbox until it is full, or empty of records. -/
def movesLeft (m : CommandMailbox) : Nat := 2 * (8 - m.commandCount) + m.descriptorPending.toNat

theorem movesLeft_lt (m : CommandMailbox) : movesLeft m < 20 := by
  have one := Bool.toNat_le m.descriptorPending
  unfold movesLeft
  omega

/-- A mailbox that may not yet write its head moves on, or stays as it is. -/
theorem movesLeft_step {m : CommandMailbox} {pulse : Option PlaybackCommand} {commandWrReady : Bool}
    (ready : pulse.isSome = true → m.commandReady = true) (stays : m.pops commandWrReady = false)
    (descriptorWrReady : Bool) :
    movesLeft (m.step pulse commandWrReady descriptorWrReady) < movesLeft m ∨
      movesLeft (m.step pulse commandWrReady descriptorWrReady) = movesLeft m ∧
        (m.step pulse commandWrReady descriptorWrReady).descriptorPending = m.descriptorPending ∧
        m.descriptorFires descriptorWrReady = false := by
  cases pulsed : pulse with
  | some command =>
    have admitted := ready (by rw [pulsed]; rfl)
    have pushes : m.pushes (some command) = true := by
      rw [CommandMailbox.pushes, admitted]
      rfl
    simp only [CommandMailbox.commandReady, Bool.and_eq_true, decide_eq_true_eq, Bool.not_eq_true'] at admitted
    obtain ⟨space, settled⟩ := admitted
    have one := Bool.toNat_le (m.step (some command) commandWrReady descriptorWrReady).descriptorPending
    have grown : (m.step (some command) commandWrReady descriptorWrReady).commandCount = (m.commandCount + 1) % 16 := by
      simp only [CommandMailbox.step, pushes, stays]
    left
    rw [movesLeft, movesLeft, grown, settled]
    simp only [Bool.toNat_false]
    omega
  | none =>
    have unpushed : m.pushes none = false := rfl
    have same : (m.step none commandWrReady descriptorWrReady).commandCount = m.commandCount := by
      simp only [CommandMailbox.step, unpushed, stays]
    cases fires : m.descriptorFires descriptorWrReady with
    | true =>
      have pending : m.descriptorPending = true := (Bool.and_eq_true_iff.mp fires).1
      have settled : (m.step none commandWrReady descriptorWrReady).descriptorPending = false := by
        simp only [CommandMailbox.step, fires, if_true]
      left
      rw [movesLeft, movesLeft, same, settled, pending]
      simp
    | false =>
      have kept : (m.step none commandWrReady descriptorWrReady).descriptorPending = m.descriptorPending := by
        simp [CommandMailbox.step, fires]
      exact .inr ⟨by rw [movesLeft, movesLeft, same, kept], kept, rfl⟩

/-- Whose turn it is: the descriptor FIFO's while a record is pending, else the command FIFO's. -/
def Acts (ticks : Nat → CommandTick) (descriptor : Bool) (n : Nat) : Prop :=
  if descriptor then ∃ i commandWrReady, ticks n = .ddr i commandWrReady true
  else ∃ i descriptorWrReady, ticks n = .ddr i true descriptorWrReady

/-- Whatever has been issued enters the command FIFO in the end. -/
theorem enters_all (unstalled : Unstalled ticks) (n : Nat) :
    ∃ k, n ≤ k ∧ (issued p ticks n).length ≤ (entered p ticks k).length := by
  generalize total : (issued p ticks n).length = count
  have leads : LeadsTo id (fun m => count ≤ (issued p ticks m).length)
      (fun m => count ≤ (entered p ticks m).length) := by
    refine leadsTo_of_turns
      (fun m => 20 * (count - (entered p ticks m).length) + movesLeft (pathAt p ticks m).mailbox)
      (fun m => (pathAt p ticks m).mailbox.descriptorPending) (Acts ticks) ?_ ?_
    · intro m issued_enough
      dsimp only [id] at issued_enough ⊢
      by_cases done : count ≤ (entered p ticks m).length
      · exact .inl done
      have more := (@issued_mono p ticks m (m + 1) (Nat.le_succ m)).length_le
      refine .inr ⟨Nat.le_trans issued_enough more, ?_⟩
      have steady := steadyAt p ticks m
      have after : pathAt p ticks (m + 1) = (pathAt p ticks m).step p (ticks m) := rfl
      rw [entered_succ, after, List.length_append]
      cases tick : ticks m with
      | dac commandShown descriptorShown =>
        refine .inr ⟨rfl, rfl, ?_⟩
        rw [Acts, tick]
        split_ifs <;> nofun
      | ddr i commandWrReady descriptorWrReady =>
        simp only [CommandPath.enters, CommandPath.step]
        by_cases pops : (pathAt p ticks m).mailbox.pops commandWrReady = true
        · left
          rw [if_pos pops, List.length_singleton]
          have bound := movesLeft_lt
            ((pathAt p ticks m).mailbox.step (pathAt p ticks m).writer.pulse commandWrReady descriptorWrReady)
          omega
        · rw [if_neg pops, List.length_nil, Nat.add_zero]
          rw [Bool.not_eq_true] at pops
          rcases movesLeft_step steady.ready pops descriptorWrReady with
            fewer | ⟨same, kept, idle⟩
          · left
            omega
          · refine .inr ⟨by rw [same], kept, ?_⟩
            rw [Acts, tick]
            cases pending : (pathAt p ticks m).mailbox.descriptorPending with
            | true =>
              rintro ⟨j, ready, same_tick⟩
              cases same_tick
              rw [CommandMailbox.descriptorFires, pending] at idle
              cases idle
            | false =>
              rintro ⟨j, ready, same_tick⟩
              cases same_tick
              -- the head may be written, since its record has been accepted
              have held : (pathAt p ticks m).mailbox.commandCount ≠ 0 := by
                intro empty
                rw [issued_entered, List.length_append, CommandMailbox.length_contents, empty] at issued_enough
                exact done issued_enough
              have valid : (pathAt p ticks m).mailbox.wrValid = true := by
                rw [CommandMailbox.wrValid, decide_eq_true held, Bool.true_and]
                by_cases head : (pathAt p ticks m).mailbox.head = .commit
                · rw [steady.mailbox.accepted pending (by
                    rw [CommandMailbox.contents_cons steady.mailbox held, head]
                    exact List.mem_cons_self), Bool.or_true]
                · rw [CommandMailbox.headIsCommit, decide_eq_false head, Bool.and_false]
                  rfl
              rw [CommandMailbox.pops, valid] at pops
              cases pops
    · intro descriptor m
      cases descriptor with
      | true => exact unstalled.descriptor m
      | false => exact unstalled.command m
  exact leads n total.ge

/-- Whatever has entered the command FIFO is delivered in the end. -/
theorem delivers_all (unstalled : Unstalled ticks) (n : Nat) :
    ∃ k, n ≤ k ∧ (entered p ticks n).length ≤ (delivered p ticks k).length := by
  generalize total : (entered p ticks n).length = count
  have leads : LeadsTo id (fun m => count ≤ (entered p ticks m).length)
      (fun m => count ≤ (delivered p ticks m).length) := by
    refine leadsTo_of_turns (fun m => count - (delivered p ticks m).length) (fun _ => ())
      (fun _ m => ∃ descriptorShown, ticks m = .dac true descriptorShown) ?_ (fun _ => unstalled.dac)
    intro m entered_enough
    dsimp only [id] at entered_enough ⊢
    by_cases done : count ≤ (delivered p ticks m).length
    · exact .inl done
    refine .inr ⟨?_, ?_⟩
    · rw [entered_succ, List.length_append]
      omega
    · rw [delivered_succ, List.length_append]
      cases tick : ticks m with
      | ddr i commandWrReady descriptorWrReady => exact .inr ⟨rfl, rfl, nofun⟩
      | dac commandShown descriptorShown =>
        cases commandShown with
        | false => exact .inr ⟨rfl, rfl, nofun⟩
        | true =>
          rw [entered_delivered, List.length_append] at entered_enough
          left
          change count - ((delivered p ticks m).length + ((pathAt p ticks m).commandFifo.take 1).length) < _
          rw [List.length_take]
          omega
  exact leads n total.ge

theorem arrives (unstalled : Unstalled ticks) (n : Nat) : ∃ k, issued p ticks n <+: delivered p ticks k := by
  obtain ⟨m, later, enough⟩ := enters_all (p := p) unstalled n
  obtain ⟨k, later_still, arrived⟩ := delivers_all (p := p) unstalled m
  refine ⟨k, List.prefix_of_prefix_length_le (issued_mono (Nat.le_trans later later_still)) ?_
    (Nat.le_trans enough arrived)⟩
  rw [issued_eq k]
  exact List.prefix_append _ _

/-- The commands of the writer cross to the DAC side, whatever the packets, the memory and
    the stalls of the two FIFOs. -/
theorem commands_cross (p : WriterParams) (ticks : Nat → CommandTick) : Crosses p ticks where
  inOrder n := by rw [issued_eq, List.append_assoc]
  bounded n := (steadyAt p ticks n).mailbox.commandCount
  records := captured_eq
  captures := length_captured
  undisturbed n pending := CommandMailbox.unpulsed_of_pending (steadyAt p ticks n).ready pending
  behind := commits_delivered
  arrives := arrives

end Runs

end Xczu47dr.Upload
