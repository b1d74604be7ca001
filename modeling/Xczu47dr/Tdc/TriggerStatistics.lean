import Mathlib.Data.List.Count
import Xczu47dr.Tdc.CompensatingTrigger

/-! # The statistics of the compensating trigger

`accepted_count`, `rejected_count`, `late_count` and `completed_count` against what
has happened since `clear_statistics`.  A cycle that counts something assigns its
counter after the clear, from the old value.
-/

namespace Xczu47dr.Tdc

open Clocked Machine

/-- The trigger on its own; every clock edge brings a beat counter. -/
def compensatingTrigger (targetBeats : Nat) : Machine (BitVec 32 × TriggerIn) CompensatingTrigger where
  reset := .reset
  step s i := s.step targetBeats i.1 i.2

/-- What the statistics are about. -/
inductive Happening
  | presented
  | accepted
  | rejected
  | late
  | completed
  deriving DecidableEq

namespace CompensatingTrigger

/-- The four counters. -/
structure Counts where
  accepted : BitVec 32
  rejected : BitVec 32
  late : BitVec 32
  completed : BitVec 32

def counts (s : CompensatingTrigger) : Counts :=
  ⟨s.acceptedCount, s.rejectedCount, s.lateCount, s.completedCount⟩

section Happenings

variable (targetBeats : Nat) (current : BitVec 32) (s : CompensatingTrigger) (i : TriggerIn)

/-- An event comes while the trigger is enabled and not faulted. -/
def presented : Bool := i.enable && !s.fault && i.eventValid

/-- An event is turned away, at once or as late. -/
def turnsAway : Bool := s.serving i && i.eventValid && !s.accepts targetBeats current i

def turnsAwayLate : Bool := s.serving i && (i.eventValid && !s.rejects current i && late targetBeats current i)

/-- A session that was launched is completed. -/
def completesNow : Bool := s.serving i && s.completes i

def happenings : List Happening :=
  (if s.presented i then [.presented] else []) ++ (if s.accepts targetBeats current i then [.accepted] else []) ++
    (if s.turnsAway targetBeats current i then [.rejected] else []) ++
    (if s.turnsAwayLate targetBeats current i then [.late] else []) ++
    (if s.missesDeadline current i then [.late] else []) ++ if s.completesNow i then [.completed] else []

end Happenings

variable {targetBeats : Nat} {current : BitVec 32} {s : CompensatingTrigger} {i : TriggerIn}

/-! ## One clock edge -/

theorem sample_counts : (s.sample current i).counts = if i.clearStatistics then ⟨0, 0, 0, 0⟩ else s.counts := by
  unfold sample
  split_ifs <;> rfl

theorem finish_counts (t : CompensatingTrigger) : (s.finish i t).counts =
    { t.counts with completed := if s.completes i then s.completedCount + 1 else t.completedCount } := by
  unfold finish completes
  dsimp only
  split_ifs <;> rfl

theorem fire_counts (t : CompensatingTrigger) : (s.fire current t).counts =
    { t.counts with late := if s.overdue current then s.lateCount + 1 else t.lateCount } := by
  unfold fire
  by_cases due : s.due current = true
  · have waits : s.overdue current = false := by rw [overdue, due]; rfl
    rw [if_pos due, waits]
    rfl
  · rw [if_neg due]
    split_ifs <;> rfl

theorem admitRequest_counts (serving : s.serving i = true) (t : CompensatingTrigger) :
    (s.admitRequest targetBeats current i t).counts =
      { accepted := if s.accepts targetBeats current i then s.acceptedCount + 1 else t.acceptedCount
        rejected := if s.turnsAway targetBeats current i then s.rejectedCount + 1 else t.rejectedCount
        late := if i.eventValid && !s.rejects current i && late targetBeats current i then s.lateCount + 1
          else t.lateCount
        completed := t.completedCount } := by
  unfold admitRequest turnsAway accepts
  rw [serving]
  cases i.eventValid with
  | false => rfl
  | true =>
    cases s.rejects current i with
    | true => rfl
    | false => cases late targetBeats current i <;> rfl

/-- An event that is late is not presented while a launch is waiting. -/
theorem not_overdue_of_admitted (admitted : s.rejects current i = false) : s.overdue current = false := by
  obtain ⟨-, -, resting, -, -⟩ := rejects_eq_false.mp admitted
  rw [overdue, resting, Bool.and_false, Bool.false_and]

/-- What a clock edge makes of the counters: a counter that counts does so from its
    old value, whether it is being cleared or not. -/
theorem step_counts : (s.step targetBeats current i).counts =
    { accepted := if s.accepts targetBeats current i then s.acceptedCount + 1
        else if i.clearStatistics then 0 else s.acceptedCount
      rejected := if s.turnsAway targetBeats current i then s.rejectedCount + 1
        else if i.clearStatistics then 0 else s.rejectedCount
      late := if s.turnsAwayLate targetBeats current i || s.missesDeadline current i then s.lateCount + 1
        else if i.clearStatistics then 0 else s.lateCount
      completed := if s.completesNow i then s.completedCount + 1
        else if i.clearStatistics then 0 else s.completedCount } := by
  have cleared := @sample_counts current s i
  cases serving : s.serving i with
  | true =>
    have admitted := @admitRequest_counts targetBeats current s i serving (s.sample current i)
    have fired := @fire_counts current s (s.admitRequest targetBeats current i (s.sample current i))
    have rests (count : Counts → BitVec 32) (zero : count ⟨0, 0, 0, 0⟩ = 0) :
        count (s.sample current i).counts = if i.clearStatistics then 0 else count s.counts := by
      rw [cleared, apply_ite count, zero]
    have accepted : (s.sample current i).acceptedCount = _ := rests Counts.accepted rfl
    have rejected : (s.sample current i).rejectedCount = _ := rests Counts.rejected rfl
    have late : (s.sample current i).lateCount = _ := rests Counts.late rfl
    have answered : (s.admitRequest targetBeats current i (s.sample current i)).lateCount = _ :=
      congrArg Counts.late admitted
    have kept : (s.fire current (s.admitRequest targetBeats current i (s.sample current i))).completedCount = _ :=
      (congrArg Counts.completed fired).trans ((congrArg Counts.completed admitted).trans (rests Counts.completed rfl))
    rw [step_serving serving, finish_counts, fired, admitted, turnsAwayLate, missesDeadline, completesNow, serving, accepted, rejected,
      answered, late, kept, Bool.true_and, Bool.true_and, Bool.true_and]
    -- a deadline that is missed counts once, whether an event is late as well or not
    cases s.overdue current with
    | true =>
      rw [Bool.or_true]
      rfl
    | false =>
      rw [Bool.or_false]
      rfl
  | false =>
    have quiet : s.accepts targetBeats current i = false ∧ s.turnsAway targetBeats current i = false ∧
        s.turnsAwayLate targetBeats current i = false ∧ s.missesDeadline current i = false ∧ s.completesNow i = false := by
      simp [accepts, turnsAway, turnsAwayLate, missesDeadline, completesNow, serving]
    obtain ⟨accepts, turnsAway, late, misses, completes⟩ := quiet
    have same : (s.step targetBeats current i).counts = (s.sample current i).counts := by
      simp only [CompensatingTrigger.serving] at serving
      rw [step]
      dsimp only
      split_ifs <;> first | rfl | simp_all
    rw [same, cleared, accepts, turnsAway, late, misses, completes]
    cases i.clearStatistics <;> rfl

theorem finish_active (t : CompensatingTrigger) : (s.finish i t).active = (t.active && !s.completes i) := by
  unfold finish completes
  cases s.active && s.draining && !i.sourceRunning && !i.outputBusy with
  | true => exact (Bool.and_false _).symm
  | false =>
    rw [Bool.not_false, Bool.and_true, if_neg Bool.false_ne_true]
    split_ifs <;> rfl

/-- A session is active once an event is accepted, and until it is completed. -/
theorem step_active (active : (s.step targetBeats current i).active = true) :
    s.accepts targetBeats current i = true ∨ s.active = true ∧ s.completesNow i = false := by
  by_cases accepts : s.accepts targetBeats current i = true
  · exact .inl accepts
  rw [Bool.not_eq_true] at accepts
  refine .inr ?_
  have sampled : (s.sample current i).active = s.active := (sample_fields current s i).2.2.2.1
  cases serving : s.serving i with
  | true =>
    obtain ⟨rejectedCount, lateCount, answered⟩ := admit_declined accepts serving (s.sample current i)
    have fired : (s.fire current (s.admitRequest targetBeats current i (s.sample current i))).active = true → s.active = true := by
      rw [answered, fire]
      split_ifs
      · exact fun held => sampled ▸ held
      · rintro ⟨⟩
      · exact fun held => sampled ▸ held
    rw [step_serving serving, finish_active, Bool.and_eq_true, Bool.not_eq_true'] at active
    rw [completesNow, serving]
    exact ⟨fired active.1, active.2⟩
  | false =>
    rw [completesNow, serving]
    refine ⟨?_, rfl⟩
    simp only [CompensatingTrigger.serving] at serving
    rw [step] at active
    dsimp only at active
    split_ifs at active
    all_goals first | contradiction | exact sampled ▸ active | simp_all

/-! ## Runs -/

/-- Nothing is counted in a cycle that clears, in which no session is active either,
    and an event that comes while the trigger is enabled and not faulted finds it serving. -/
def Calm (s : CompensatingTrigger) (i : BitVec 32 × TriggerIn) : Prop :=
  (i.2.clearStatistics = true → s.active = false ∧ s.presented i.2 = false ∧ s.missesDeadline i.1 i.2 = false) ∧
    (s.presented i.2 = true → s.serving i.2 = true)

/-- The counters of `s` are the numbers of what has happened, which are in order. -/
structure Exact (happened : List Happening) (s : CompensatingTrigger) : Prop where
  accepted : s.acceptedCount = BitVec.ofNat 32 (happened.count .accepted)
  rejected : s.rejectedCount = BitVec.ofNat 32 (happened.count .rejected)
  late : s.lateCount = BitVec.ofNat 32 (happened.count .late)
  completed : s.completedCount = BitVec.ofNat 32 (happened.count .completed)
  once : happened.count .presented = happened.count .accepted + happened.count .rejected
  ordered : happened.count .completed ≤ happened.count .accepted

/-- A session that is active has been accepted and is not completed. -/
def Ordered (happened : List Happening) (s : CompensatingTrigger) : Prop :=
  happened.count .completed + s.active.toNat ≤ happened.count .accepted

theorem count_happenings (targetBeats : Nat) (current : BitVec 32) (s : CompensatingTrigger) (i : TriggerIn) :
    let happens := s.happenings targetBeats current i
    happens.count .presented = (s.presented i).toNat ∧ happens.count .accepted = (s.accepts targetBeats current i).toNat ∧
      happens.count .rejected = (s.turnsAway targetBeats current i).toNat ∧
      happens.count .late = (s.turnsAwayLate targetBeats current i).toNat + (s.missesDeadline current i).toNat ∧
      happens.count .completed = (s.completesNow i).toNat := by
  simp only [happenings, List.count_append]
  cases s.presented i <;> cases s.accepts targetBeats current i <;> cases s.turnsAway targetBeats current i <;>
    cases s.turnsAwayLate targetBeats current i <;> cases s.missesDeadline current i <;> cases s.completesNow i <;>
    exact ⟨rfl, rfl, rfl, rfl, rfl⟩

/-- Where nothing is presented and no deadline missed, only a session can be completed. -/
theorem counts_nothing (quiet : s.presented i = false) :
    s.accepts targetBeats current i = false ∧ s.turnsAway targetBeats current i = false ∧
      s.turnsAwayLate targetBeats current i = false := by
  have unserved : s.serving i = true → i.eventValid = false := by
    intro serving
    simp only [CompensatingTrigger.serving, Bool.and_eq_true, Bool.not_eq_true'] at serving
    obtain ⟨⟨⟨-, enable⟩, -⟩, fault⟩ := serving
    simpa [presented, enable, fault] using quiet
  cases serving : s.serving i with
  | true => simp [accepts, turnsAway, turnsAwayLate, unserved serving]
  | false => simp [accepts, turnsAway, turnsAwayLate, serving]

theorem step_clears (clears : i.clearStatistics = true) (calm : s.Calm (current, i)) :
    Exact [] (s.step targetBeats current i) ∧ Ordered [] (s.step targetBeats current i) := by
  obtain ⟨rests, quiet, in_time⟩ := calm.1 clears
  obtain ⟨accepts, turnsAway, late⟩ := @counts_nothing targetBeats current s i quiet
  have completes : s.completesNow i = false := by
    change s.active = false at rests
    simp [completesNow, CompensatingTrigger.completes, rests]
  have counts := @step_counts targetBeats current s i
  rw [accepts, turnsAway, late, in_time, completes, clears] at counts
  refine ⟨⟨congrArg Counts.accepted counts, congrArg Counts.rejected counts, congrArg Counts.late counts,
    congrArg Counts.completed counts, rfl, Nat.le_refl _⟩, ?_⟩
  cases active : (s.step targetBeats current i).active with
  | false => rw [Ordered, active]; exact Nat.le_refl _
  | true =>
    obtain accepted | ⟨held, -⟩ := step_active active
    · rw [accepts] at accepted
      contradiction
    · change s.active = false at rests
      rw [rests] at held
      contradiction

/-- An event that finds the trigger serving is accepted or turned away. -/
theorem presented_once (finds : s.presented i = true → s.serving i = true) :
    (s.presented i).toNat = (s.accepts targetBeats current i).toNat + (s.turnsAway targetBeats current i).toNat := by
  cases presents : s.presented i with
  | true =>
    have valid : i.eventValid = true := by
      rw [presented, Bool.and_eq_true] at presents
      exact presents.2
    rw [turnsAway, finds presents, valid]
    cases s.accepts targetBeats current i <;> rfl
  | false =>
    obtain ⟨accepts, turnsAway, -⟩ := @counts_nothing targetBeats current s i presents
    rw [accepts, turnsAway]
    rfl

/-- An event is not turned away as late in a cycle that misses a deadline. -/
theorem late_once : (s.turnsAwayLate targetBeats current i || s.missesDeadline current i).toNat =
    (s.turnsAwayLate targetBeats current i).toNat + (s.missesDeadline current i).toNat := by
  cases late : s.turnsAwayLate targetBeats current i with
  | true =>
    simp only [turnsAwayLate, Bool.and_eq_true, Bool.not_eq_true'] at late
    have in_time := not_overdue_of_admitted late.2.1.2
    rw [missesDeadline, in_time, Bool.and_false]
    rfl
  | false => rw [Bool.false_or, Bool.toNat_false, Nat.zero_add]

theorem count_on {counts : Bool} {c : BitVec 32} {n : Nat} (counted : c = BitVec.ofNat 32 n) :
    (if counts = true then c + 1 else if false = true then 0 else c) = BitVec.ofNat 32 (n + counts.toNat) := by
  rw [counted]
  cases counts with
  | true => exact (BitVec.ofNat_add n 1).symm
  | false => rfl

theorem exact_step {happened : List Happening} (goesOn : i.clearStatistics = false) (calm : s.Calm (current, i))
    (exact : Exact happened s) (ordered : Ordered happened s) :
    Exact (happened ++ s.happenings targetBeats current i) (s.step targetBeats current i) ∧
      Ordered (happened ++ s.happenings targetBeats current i) (s.step targetBeats current i) := by
  obtain ⟨presented, accepted, rejected, late, completed⟩ := count_happenings targetBeats current s i
  have counts := @step_counts targetBeats current s i
  rw [goesOn] at counts
  have active := @step_active targetBeats current s i
  have session : s.completesNow i = true → s.active = true := by
    intro completes
    simp only [completesNow, CompensatingTrigger.completes, Bool.and_eq_true] at completes
    exact completes.2.1.1.1
  have fresh : s.accepts targetBeats current i = true → s.active = false := fun accepts =>
    (rejects_eq_false.mp (accepts_iff.mp accepts).2.2.1).2.1
  have after : happened.count .completed + (s.completesNow i).toNat + (s.step targetBeats current i).active.toNat ≤
      happened.count .accepted + (s.accepts targetBeats current i).toNat := by
    rw [Ordered] at ordered
    cases completes : s.completesNow i with
    | true =>
      have held := session completes
      have ends : (s.step targetBeats current i).active = false := by
        by_contra later
        obtain accepts | ⟨-, unfinished⟩ := active (Bool.not_eq_false _ ▸ later)
        · exact Bool.noConfusion (held.symm.trans (fresh accepts))
        · exact Bool.noConfusion (completes.symm.trans unfinished)
      rw [held] at ordered
      rw [ends]
      exact Nat.le_trans ordered (Nat.le_add_right _ _)
    | false =>
      cases accepts : s.accepts targetBeats current i with
      | true =>
        rw [fresh accepts] at ordered
        exact Nat.add_le_add ordered (Bool.toNat_le _)
      | false =>
        have lasts : (s.step targetBeats current i).active.toNat ≤ s.active.toNat := by
          cases later : (s.step targetBeats current i).active with
          | true =>
            obtain accepted | ⟨held, -⟩ := active later
            · exact Bool.noConfusion (accepts.symm.trans accepted)
            · exact Nat.le_of_eq (congrArg Bool.toNat held.symm)
          | false => exact Nat.zero_le _
        exact Nat.le_trans (Nat.add_le_add_left lasts _) ordered
  have later (h : Happening) : (happened ++ s.happenings targetBeats current i).count h =
      happened.count h + (s.happenings targetBeats current i).count h := List.count_append
  obtain ⟨isAccepted, isRejected, isLate, isCompleted, once, -⟩ := exact
  refine ⟨⟨?_, ?_, ?_, ?_, ?_, ?_⟩, ?_⟩
  · rw [later, accepted]
    exact (congrArg Counts.accepted counts).trans (count_on isAccepted)
  · rw [later, rejected]
    exact (congrArg Counts.rejected counts).trans (count_on isRejected)
  · rw [later, late, ← late_once]
    exact (congrArg Counts.late counts).trans (count_on isLate)
  · rw [later, completed]
    exact (congrArg Counts.completed counts).trans (count_on isCompleted)
  · have now := @presented_once targetBeats current s i calm.2
    rw [later, later, later, presented, accepted, rejected]
    omega
  · rw [later, later, completed, accepted]
    omega
  · rw [Ordered, later, later, completed, accepted]
    exact after

/-- As long as the number of accepted events fits its counter, so does that of the completed ones. -/
theorem Exact.completedCount_le {happened : List Happening} (exact : Exact happened s)
    (fits : happened.count .accepted < 2 ^ 32) : s.completedCount ≤ s.acceptedCount := by
  have ordered := exact.ordered
  rw [exact.completed, exact.accepted, BitVec.le_def, BitVec.toNat_ofNat, BitVec.toNat_ofNat, Nat.mod_eq_of_lt fits,
    Nat.mod_eq_of_lt (Nat.lt_of_le_of_lt ordered fits)]
  exact ordered

theorem exact_run {happened : List Happening} {is : List (BitVec 32 × TriggerIn)}
    (goOn : ∀ i ∈ is, i.2.clearStatistics = false) (calm : (compensatingTrigger targetBeats).Along Calm s is)
    (exact : Exact happened s) (ordered : Ordered happened s) :
    Exact (happened ++ (compensatingTrigger targetBeats).log (fun s i => s.happenings targetBeats i.1 i.2) s is)
      ((compensatingTrigger targetBeats).run s is) := by
  induction is generalizing s happened with
  | nil =>
    rw [log_nil, List.append_nil]
    exact exact
  | cons i is ih =>
    obtain ⟨now, later⟩ := calm
    rw [List.forall_mem_cons] at goOn
    obtain ⟨counted, kept⟩ := @exact_step targetBeats i.1 s i.2 happened goOn.1 now exact ordered
    rw [log_cons, ← List.append_assoc]
    exact ih goOn.2 later counted kept

end CompensatingTrigger

open CompensatingTrigger

/-- From every calm clear on, whatever was before it, the counters are those of what has
    happened since. -/
theorem statistics_exact (targetBeats : Nat) (before after : List (BitVec 32 × TriggerIn))
    (pulse : BitVec 32 × TriggerIn) (clears : pulse.2.clearStatistics = true)
    (last : ∀ i ∈ after, i.2.clearStatistics = false)
    (calm : (compensatingTrigger targetBeats).Along Calm
      ((compensatingTrigger targetBeats).run .reset before) (pulse :: after)) :
    let cleared := (compensatingTrigger targetBeats).run .reset (before ++ [pulse])
    let happened := (compensatingTrigger targetBeats).log (fun s i => s.happenings targetBeats i.1 i.2) cleared after
    let s := (compensatingTrigger targetBeats).run cleared after
    Exact happened s ∧ (happened.count .accepted < 2 ^ 32 → s.completedCount ≤ s.acceptedCount) := by
  intro cleared happened s
  obtain ⟨now, later⟩ := calm
  have one : cleared = ((compensatingTrigger targetBeats).run .reset before).step targetBeats pulse.1 pulse.2 :=
    run_append ..
  obtain ⟨exact, ordered⟩ := @step_clears targetBeats pulse.1 _ pulse.2 clears now
  rw [← one] at exact ordered
  have after : Exact happened s := exact_run last (one ▸ later) exact ordered
  exact ⟨after, after.completedCount_le⟩

/-- An enabled trigger of a session that is not prepared. -/
def unprepared : TriggerIn where
  clear := false
  enable := true
  calibrated := true
  referenceReady := true
  prepared := false
  sourceRunning := false
  outputBusy := false
  sourceDone := false
  loopEnable := false
  runtimeFault := false
  clipPulse := 0
  eventValid := false
  eventGood := true
  eventEpoch := 0
  eventPhase := 0
  phaseOffset := 0
  clearStatistics := false

def untimelyEvent : BitVec 32 × TriggerIn := (0, { unprepared with eventValid := true })

theorem statistics_exact_untimely : ((compensatingTrigger 32).run .reset
    ([untimelyEvent] ++ [(0, { unprepared with clearStatistics := true })] ++ [untimelyEvent])).rejectedCount = 1 := by
  have calm : (compensatingTrigger 32).Along Calm ((compensatingTrigger 32).run .reset [untimelyEvent])
      [(0, { unprepared with clearStatistics := true }), untimelyEvent] := by
    refine ⟨⟨fun _ => ⟨rfl, rfl, rfl⟩, nofun⟩, ⟨nofun, fun _ => rfl⟩, trivial⟩
  have exact := statistics_exact 32 [untimelyEvent] [untimelyEvent] (0, { unprepared with clearStatistics := true }) rfl
    (by simp [untimelyEvent, unprepared]) calm
  rw [run_append]
  exact exact.1.rejected

/-- Of two events the second one comes with the clear, and both stay counted. -/
theorem clear_lost : ((compensatingTrigger 32).run .reset
    ([untimelyEvent] ++ [(0, { unprepared with eventValid := true, clearStatistics := true })])).rejectedCount ∉
      [0#32, 1#32] := by
  decide

end Xczu47dr.Tdc
