import Xczu47dr.Rfdc.ApplyHandshake
import Xczu47dr.Rfdc.ChannelReports

/-! # The verdict on an apply

How an apply that is taken ends: it is the apply before once more, it is rejected, it
fails, or it is confirmed.
-/

namespace Xczu47dr.Rfdc

open Clocked Machine Control

def requestOf (cmd : RfdcRequest) : RuntimeRequest where
  mask := cmd.channelMask
  sequence := cmd.sequence
  ncoHz := cmd.ncoHz
  zone := cmd.nyquistZone
  phase := cmd.phaseMdeg
  current := cmd.currentUa
  validationErrorMask := RuntimeConfig.validationErrorMask cmd

/-- The answer to an apply, and the apply whose answer is kept. -/
structure Verdict where
  status : BitVec 16
  revision : BitVec 32
  appliedMask : BitVec 8
  kept : Option (BitVec 32 × BitVec 32)

/-- The status of an apply that has been turned down before anything was done. -/
def Rejection (status : BitVec 16) : Prop := status = stBadRequest ∨ status = stUnsafeState ∨ status = stRange

instance (status : BitVec 16) : Decidable (Rejection status) := inferInstanceAs (Decidable (_ ∨ _))

namespace RuntimeConfig

variable {p : RuntimeParams} {s t : RuntimeConfig} {i : RuntimeIn}

/-- The sequence and the revision whose answer is kept. -/
def kept (s : RuntimeConfig) : Option (BitVec 32 × BitVec 32) :=
  if s.cachedResponseValid then some (s.cachedSequence, s.cachedRevision) else none

def verdict (s : RuntimeConfig) : Verdict :=
  ⟨s.result.status, s.result.revision, s.result.appliedMask, s.kept⟩

def again (p : RuntimeParams) (s : RuntimeConfig) : RuntimeConfig :=
  { s with
    done := true
    forceMutePulse := false
    readyProbeCount := p.readyProbeIntervalCycles - 1 }

/-- What one clock edge does to the verdict. -/
inductive Answers (p : RuntimeParams) (s : RuntimeConfig) (i : RuntimeIn) (t : RuntimeConfig) : Prop
  | rests : s.state.serves = false → (s.state = .idle → i.start = false) → t.state.serves = false →
      t.verdict = s.verdict → Answers p s i t
  | repeats : s.state = .idle → i.start = true → s.kept = some (i.cmd.sequence, i.cmd.revision) →
      t = s.again p → Answers p s i t
  | rejected (status : BitVec 16) : s.state = .idle → i.start = true →
      s.kept ≠ some (i.cmd.sequence, i.cmd.revision) → Rejection status → t.state = .idle →
      (i.cmd.channelMask ≠ 0 → t.forceMutePulse = true) →
      t.verdict = ⟨status, i.cmd.revision, s.result.appliedMask, none⟩ → Answers p s i t
  | taken : s.state = .idle → i.start = true → s.kept ≠ some (i.cmd.sequence, i.cmd.revision) →
      t.state = .validate → t.request = requestOf i.cmd →
      t.verdict = ⟨stOk, i.cmd.revision, s.result.appliedMask, s.kept⟩ → Answers p s i t
  | outOfRange : s.state = .validate → s.request.validationErrorMask ≠ 0 → t.state = .idle →
      t.forceMutePulse = true →
      t.verdict = { s.verdict with status := stRange, kept := none } → Answers p s i t
  | opened : s.state = .validate → s.request.validationErrorMask = 0 → t.state = .select → t.forceMutePulse = true →
      t.verdict = { s.verdict with appliedMask := 0 } → Answers p s i t
  | works : 2 ≤ s.state.rank → s.state.rank < 63 → 2 ≤ t.state.rank → t.state.rank < 63 → t.verdict = s.verdict →
      Answers p s i t
  | fails (status : BitVec 16) : 2 ≤ s.state.rank → s.state.rank < 63 → t.state = .finish →
      t.forceMutePulse = true → (s.state = .ncoCommitWait → i.ncoCommitError ≠ 0) →
      status ≠ stOk → ¬Rejection status → t.verdict = { s.verdict with status := status } → Answers p s i t
  | confirmed : s.state = .ncoCommitWait → i.ncoCommitDone = true → i.ncoCommitError = 0 → t.state = .finish →
      t.verdict = { s.verdict with appliedMask := s.request.mask } → Answers p s i t
  | finished : s.state = .finish → t.state = .idle →
      t.verdict = { s.verdict with kept := some (s.request.sequence, s.result.revision) } → Answers p s i t

theorem kept_iff (s : RuntimeConfig) (cmd : RfdcRequest) :
    (s.cachedResponseValid && cmd.sequence == s.cachedSequence && cmd.revision == s.cachedRevision) = true ↔
      s.kept = some (cmd.sequence, cmd.revision) := by
  rw [kept, Bool.and_eq_true, Bool.and_eq_true, beq_iff_eq, beq_iff_eq]
  constructor
  · rintro ⟨⟨valid, sequence⟩, revision⟩
    rw [if_pos valid, sequence, revision]
  · intro same
    split_ifs at same with valid
    obtain ⟨sequence, revision⟩ := Prod.mk.inj (Option.some.inj same)
    exact ⟨⟨valid, sequence.symm⟩, revision.symm⟩

theorem failureStatus_fails {code : BitVec 16} (apart : code ≠ stOk ∧ ¬Rejection code) :
    s.failureStatus code ≠ stOk ∧ ¬Rejection (s.failureStatus code) := by
  unfold failureStatus
  split_ifs
  · decide
  · exact apart

theorem answers_finishAccess {a : Access} (now : s.state = .await a) (apply : a ≠ .readyProbe)
    (later : t.state = (s.finishAccess p s.clearPulses a).state)
    (mutes : t.forceMutePulse = (s.finishAccess p s.clearPulses a).forceMutePulse)
    (verdict : t.verdict = (s.finishAccess p s.clearPulses a).verdict) : Answers p s i t := by
  have rank : 2 ≤ s.state.rank ∧ s.state.rank < 63 := by
    rw [now]
    revert apply
    cases a <;> decide
  have passes (there : t.state = a.next) (same : t.verdict = s.verdict) : Answers p s i t := by
    have next : 2 ≤ a.next.rank ∧ a.next.rank < 63 := by
      revert apply
      cases a <;> decide
    rw [← there] at next
    exact .works rank.1 rank.2 next.1 next.2 same
  have elsewhere : s.state = .ncoCommitWait → i.ncoCommitError ≠ 0 := by
    rw [now]
    exact nofun
  unfold finishAccess at later mutes verdict
  split_ifs at later mutes verdict with failed
  · have apart : (if s.transaction.error = 3 then stAxiTimeout else stAxiError) ≠ stOk ∧
        ¬Rejection (if s.transaction.error = 3 then stAxiTimeout else stAxiError) := by
      split_ifs <;> decide
    obtain ⟨fine, other⟩ := failureStatus_fails (s := s) apart
    exact .fails _ rank.1 rank.2 later mutes elsewhere fine other verdict
  · cases a
    case readyProbe => contradiction
    case tile =>
      dsimp only [accessed, tileRead] at later mutes verdict
      split_ifs at later mutes verdict
      · exact passes later verdict
      · obtain ⟨fine, other⟩ := failureStatus_fails (s := s) (show stRfdcNotReady ≠ stOk ∧ ¬Rejection stRfdcNotReady by decide)
        exact .fails _ rank.1 rank.2 later mutes elsewhere fine other verdict
    case rbCfg3 =>
      dsimp only [accessed] at later mutes verdict
      split_ifs at later mutes verdict
      · obtain ⟨fine, other⟩ := failureStatus_fails (s := s) (show stReadback ≠ stOk ∧ ¬Rejection stReadback by decide)
        exact .fails _ rank.1 rank.2 later mutes elsewhere fine other verdict
      · exact passes later verdict
    all_goals exact passes later verdict

theorem next_within {u v : RuntimeState} (within : 2 ≤ u.rank ∧ u.rank < 63) (leads : v ∈ u.next)
    (goesOn : v ≠ .finish) : 2 ≤ v.rank ∧ v.rank < 63 := by
  revert within
  cases u with
  | calcDone d | calcStep d =>
    cases d <;> simp only [RuntimeState.next, List.mem_cons, List.not_mem_nil, or_false] at leads <;> rcases leads with rfl | rfl <;> decide
  | launch a | await a =>
    cases a <;> simp only [RuntimeState.next, List.mem_cons, List.not_mem_nil, or_false] at leads <;> rcases leads with rfl | rfl | rfl <;> first | decide | contradiction
  | _ =>
    simp only [RuntimeState.next, List.mem_cons, List.not_mem_nil, or_false] at leads
    rcases leads with rfl | rfl | rfl <;> first | decide | contradiction

/-- The answer of the same apply comes once more, and nothing else happens. -/
theorem step_again (ported : Ported p s) (started : s.ncoCommit.start = true → s.state = .ncoCommitWait)
    (now : s.state = .idle) (starts : i.start = true) (same : s.kept = some (i.cmd.sequence, i.cmd.revision)) :
    s.step p i = s.again p := by
  have quiet := ported.quiet (by rw [now]; exact nofun)
  have busy : s.busy = false := by
    rw [ported.busy, now]
    rfl
  have uncommitted : s.ncoCommit.start = false := by
    cases start : s.ncoCommit.start with
    | false => rfl
    | true => exact absurd (now.symm.trans (started start)) nofun
  have port : { s.axi with start := false } = s.axi := by
    rw [← quiet.start]
  have commit : { s.ncoCommit with start := false } = s.ncoCommit := by
    rw [← uncommitted]
  have rested : { s.transaction with done := false } = s.transaction := by
    rw [← quiet.done]
  have transaction : s.transaction.step p.axiTimeoutCycles s.axi i.axil = s.transaction := by
    rw [AxilTransaction.step, quiet.start, Bool.false_and, if_neg Bool.false_ne_true,
      if_neg (ne_true_of_eq_false quiet.busy), rested]
  have pulses : s.clearPulses = { s with done := false, forceMutePulse := false } := by
    rw [clearPulses, port, commit]
  have acts : s.act p i = { s.clearPulses with
      busy := false
      done := true
      readyProbeCount := p.readyProbeIntervalCycles - 1 } := by
    simp only [act, now]
    dsimp only [idle, accept]
    rw [if_pos starts, if_pos ((kept_iff s i.cmd).mpr same)]
  rw [step, transaction, acts, pulses, again]
  exact congrArg (fun busy => { s with
    busy := busy
    done := true
    forceMutePulse := false
    readyProbeCount := p.readyProbeIntervalCycles - 1 }) busy.symm

theorem answers_step (ported : Ported p s) (started : s.ncoCommit.start = true → s.state = .ncoCommitWait) :
    Answers p s i (s.step p i) := by
  have later : (s.step p i).state = (s.act p i).state := rfl
  have mutes : (s.step p i).forceMutePulse = (s.act p i).forceMutePulse := rfl
  have verdict : (s.step p i).verdict = (s.act p i).verdict := rfl
  have works {u : RuntimeState} (now : s.state = u) (within : (2 ≤ u.rank ∧ u.rank < 63) ∧ .finish ∉ u.next)
      (same : (s.step p i).verdict = s.verdict) : Answers p s i (s.step p i) := by
    subst now
    have leads := step_next (p := p) (s := s) (i := i)
    have next := next_within within.1 leads fun ends => within.2 (ends ▸ leads)
    exact .works within.1.1 within.1.2 next.1 next.2 same
  cases now : s.state <;> simp only [act, now] at later mutes verdict
  case idle =>
    have outside : s.state.serves = false := by rw [now]; rfl
    have request : (s.step p i).request = (s.act p i).request := rfl
    simp only [act, now] at request
    dsimp only [idle, accept, answerAtOnce] at later mutes verdict request
    split_ifs at later mutes verdict request with starts same empty unsafeNow
    · exact .repeats now starts ((kept_iff s i.cmd).mp same) (step_again ported started now starts ((kept_iff s i.cmd).mp same))
    · exact .rejected _ now starts (fun again => same ((kept_iff s i.cmd).mpr again)) (.inl rfl) (later.trans now)
        (absurd empty) verdict
    · exact .rejected _ now starts (fun again => same ((kept_iff s i.cmd).mpr again)) (.inr (.inl rfl)) (later.trans now)
        (fun _ => mutes) verdict
    · exact .taken now starts (fun again => same ((kept_iff s i.cmd).mpr again)) later request verdict
    · exact .rests outside (fun _ => by simpa using starts) (by rw [later]; rfl) verdict
    · exact .rests outside (fun _ => by simpa using starts) (by rw [later]; exact outside) verdict
  case validate =>
    unfold validate at later mutes verdict
    split_ifs at later mutes verdict with valid
    · exact .outOfRange now valid later mutes verdict
    · exact .opened now (not_not.mp valid) later mutes verdict
  case select =>
    refine works now (by decide) ?_
    dsimp only [select] at verdict
    split_ifs at verdict <;> exact verdict
  case vopPrep =>
    refine works now (by decide) ?_
    dsimp only [vopPrep] at verdict
    split_ifs at verdict <;> exact verdict
  case calcStep d => exact works now (by cases d <;> decide) verdict
  case calcDone d =>
    refine works now (by cases d <;> decide) ?_
    cases d <;> exact verdict
  case launch a =>
    by_cases probe : a = .readyProbe
    · subst probe
      exact .rests (by rw [now]; rfl) (by rw [now]; rintro ⟨⟩) (by rw [later]; rfl) verdict
    · refine works now ?_ verdict
      revert probe
      cases a <;> decide
  case await a =>
    by_cases probe : a = .readyProbe
    · subst probe
      refine .rests (by rw [now]; rfl) (by rw [now]; rintro ⟨⟩) ?_ ?_
      · split_ifs at later
        · rw [finishAccess, if_neg (by simp)] at later
          dsimp only [accessed, probed] at later
          split_ifs at later <;> rw [later] <;> rfl
        · rw [later, clearPulses, now]
          rfl
      · split_ifs at verdict
        · rw [finishAccess, if_neg (by simp)] at verdict
          dsimp only [accessed, probed] at verdict
          split_ifs at verdict <;> exact verdict
        · exact verdict
    · split_ifs at later mutes verdict
      · exact answers_finishAccess now probe later mutes verdict
      · have within : 2 ≤ s.state.rank ∧ s.state.rank < 63 := by
          rw [now]
          revert probe
          cases a <;> decide
        have stays : (s.step p i).state = s.state := later
        exact .works within.1 within.2 (stays ▸ within.1) (stays ▸ within.2) verdict
  case vopDelay =>
    refine works now (by decide) ?_
    unfold vopDelay at verdict
    split_ifs at verdict <;> exact verdict
  case channelDone =>
    refine works now (by decide) ?_
    dsimp only [channelDone] at verdict
    split_ifs at verdict <;> exact verdict
  case ncoCommitStart =>
    refine works now (by decide) ?_
    unfold ncoCommitStart at verdict
    split_ifs at verdict <;> exact verdict
  case ncoCommitWait =>
    have within : 2 ≤ s.state.rank ∧ s.state.rank < 63 := by rw [now]; decide
    unfold ncoCommitWait at later mutes verdict
    split_ifs at later mutes verdict with unfinished failed
    · have stays : (s.step p i).state = s.state := later
      exact .works within.1 within.2 (stays ▸ within.1) (stays ▸ within.2) verdict
    · exact .fails stNcoSync within.1 within.2 later mutes (fun _ => failed) (by decide) (by decide) verdict
    · exact .confirmed now (by simpa using unfinished) (not_not.mp failed) later verdict
  case finish =>
    exact .finished now later verdict
  all_goals exact works now (by decide) verdict

/-! ## The apply whose answer is kept -/

def takes (s : RuntimeConfig) (i : RuntimeIn) : List RfdcRequest :=
  if s.state = .idle ∧ i.start = true then [i.cmd] else []

/-- The sequence and the revision of the last apply, unless it was rejected. -/
def lastAnswered (commands : List RfdcRequest) (status : BitVec 16) : Option (BitVec 32 × BitVec 32) :=
  commands.getLast?.bind fun cmd => if Rejection status then none else some (cmd.sequence, cmd.revision)

/-- What is known of the verdict in every reachable state, after the commands that were taken. -/
structure Accounted (commands : List RfdcRequest) (s : RuntimeConfig) : Prop where
  rests : s.state.serves = false → s.kept = lastAnswered commands s.result.status
  serves : s.state.serves = true →
    ∃ cmd, commands.getLast? = some cmd ∧ s.request = requestOf cmd ∧ s.result.revision = cmd.revision
  unrejected : s.state.serves = true → ¬Rejection s.result.status
  fine : 2 ≤ s.state.rank → s.result.status = stOk

theorem request_step (reckons : Reckons s i t) (now : s.state ≠ .idle) : t.request = s.request := by
  cases reckons with
  | taken idle => exact absurd idle now
  | rests _ _ figures | opened _ _ _ figures | chosen _ _ _ figures | setsUpNco _ _ figures | setsUpPhase _ _ figures
    | ncoWord _ _ figures | phaseWord _ _ _ _ figures | divides _ _ _ _ figures | works _ _ _ figures
    | waits _ figures | refused _ _ _ _ figures | confirmed _ _ _ _ figures =>
    exact congrArg Figures.request figures
  | skips _ _ goesOn | staged _ goesOn =>
    obtain ⟨-, -, figures⟩ | ⟨-, -, figures⟩ := goesOn <;> exact congrArg Figures.request figures

theorem serves_of_rank {state : RuntimeState} (low : 2 ≤ state.rank) : state.serves = true := by
  cases state with
  | idle => contradiction
  | launch a | await a => cases a <;> first | rfl | contradiction
  | _ => rfl

theorem accounted_step {commands : List RfdcRequest} (held : Accounted commands s) (answers : Answers p s i t)
    (reckons : Reckons s i t) : Accounted (commands ++ s.takes i) t := by
  have quiet (elsewhere : s.state = .idle → i.start = false) : commands ++ s.takes i = commands := by
    rw [takes, if_neg fun takes => Bool.noConfusion ((elsewhere takes.1).symm.trans takes.2), List.append_nil]
  have taken (now : s.state = .idle) (starts : i.start = true) : (commands ++ s.takes i).getLast? = some i.cmd := by
    rw [takes, if_pos ⟨now, starts⟩, List.getLast?_concat]
  have resting {commands : List RfdcRequest} (outside : t.state.serves = false)
      (kept : t.kept = lastAnswered commands t.result.status) : Accounted commands t :=
    ⟨fun _ => kept, fun serves => absurd (serves.symm.trans outside) nofun,
      fun serves => absurd (serves.symm.trans outside) nofun,
      fun low => absurd (rank_of_not_serves outside) (Nat.not_lt.mpr low)⟩
  have last {commands : List RfdcRequest} {cmd : RfdcRequest} {status : BitVec 16} (last : commands.getLast? = some cmd) :
      lastAnswered commands status = if Rejection status then none else some (cmd.sequence, cmd.revision) := by
    rw [lastAnswered, last, Option.bind_some]
  -- from the judgement to the end an apply keeps its request and its revision
  have serving (serves : s.state.serves = true) (still : t.state.serves = true)
      (revision : t.result.revision = s.result.revision) (accepted : ¬Rejection t.result.status)
      (fine : 2 ≤ t.state.rank → t.result.status = stOk) : Accounted (commands ++ s.takes i) t := by
    have apart : s.state ≠ .idle := by
      intro now
      rw [now] at serves
      contradiction
    obtain ⟨cmd, getLast, request, same⟩ := held.serves serves
    rw [quiet (absurd · apart)]
    exact ⟨fun outside => absurd (still.symm.trans outside) nofun,
      fun _ => ⟨cmd, getLast, (request_step reckons apart).trans request, revision.trans same⟩, fun _ => accepted, fine⟩
  cases answers with
  | rests outside elsewhere later verdict =>
    rw [quiet elsewhere]
    refine resting later ?_
    rw [show t.kept = s.kept from congrArg Verdict.kept verdict,
      show t.result.status = s.result.status from congrArg Verdict.status verdict]
    exact held.rests outside
  | repeats now starts same again =>
    have outside : s.state.serves = false := by rw [now]; rfl
    have before := held.rests outside
    have later : t.state.serves = false := by rw [again]; exact outside
    have accepted : ¬Rejection s.result.status := by
      intro rejection
      rw [same, lastAnswered] at before
      cases getLast : commands.getLast? with
      | none =>
        rw [getLast, Option.bind_none] at before
        contradiction
      | some cmd =>
        rw [getLast, Option.bind_some, if_pos rejection] at before
        contradiction
    refine resting later ?_
    rw [last (taken now starts), again]
    exact same.trans (if_neg accepted).symm
  | rejected status now starts _ rejection later _ verdict =>
    refine resting (by rw [later]; rfl) ?_
    rw [last (taken now starts), show t.result.status = status from congrArg Verdict.status verdict, if_pos rejection]
    exact congrArg Verdict.kept verdict
  | taken now starts _ later request verdict =>
    have status : t.result.status = stOk := congrArg Verdict.status verdict
    refine ⟨fun outside => ?_, fun _ => ⟨i.cmd, taken now starts, request, congrArg Verdict.revision verdict⟩,
      fun _ => ?_, fun _ => status⟩
    · rw [later] at outside
      contradiction
    · rw [status]
      decide
  | outOfRange now _ later _ verdict =>
    obtain ⟨cmd, getLast, -⟩ := held.serves (by rw [now]; rfl)
    rw [quiet (by rw [now]; exact nofun)]
    refine resting (by rw [later]; rfl) ?_
    rw [last getLast, show t.result.status = stRange from congrArg Verdict.status verdict, if_pos (.inr (.inr rfl))]
    exact congrArg Verdict.kept verdict
  | opened now _ later _ verdict =>
    have serves : s.state.serves = true := by rw [now]; rfl
    have status : t.result.status = s.result.status := congrArg Verdict.status verdict
    refine serving serves (by rw [later]; rfl) (congrArg Verdict.revision verdict) (status ▸ held.unrejected serves) ?_
    exact fun _ => status.trans (held.fine (by rw [now]; decide))
  | works low _ still _ verdict =>
    have status : t.result.status = s.result.status := congrArg Verdict.status verdict
    exact serving (serves_of_rank low) (serves_of_rank still) (congrArg Verdict.revision verdict)
      (status ▸ held.unrejected (serves_of_rank low)) fun _ => status.trans (held.fine low)
  | fails status low _ later _ _ _ accepted verdict =>
    have same : t.result.status = status := congrArg Verdict.status verdict
    refine serving (serves_of_rank low) (by rw [later]; rfl) (congrArg Verdict.revision verdict) (same ▸ accepted)
      fun working => ?_
    rw [later] at working
    contradiction
  | confirmed now _ _ later verdict =>
    have serves : s.state.serves = true := by rw [now]; rfl
    have status : t.result.status = s.result.status := congrArg Verdict.status verdict
    refine serving serves (by rw [later]; rfl) (congrArg Verdict.revision verdict) (status ▸ held.unrejected serves) ?_
    exact fun _ => status.trans (held.fine (by rw [now]; decide))
  | finished now later verdict =>
    have serves : s.state.serves = true := by rw [now]; rfl
    obtain ⟨cmd, getLast, request, revision⟩ := held.serves serves
    rw [quiet (by rw [now]; exact nofun)]
    refine resting (by rw [later]; rfl) ?_
    rw [last getLast, show t.result.status = s.result.status from congrArg Verdict.status verdict,
      if_neg (held.unrejected serves), show t.kept = some (s.request.sequence, s.result.revision) from
        congrArg Verdict.kept verdict, request, revision]
    rfl

end RuntimeConfig

end Xczu47dr.Rfdc
