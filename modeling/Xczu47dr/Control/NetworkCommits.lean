import Xczu47dr.Clocked.Machine
import Xczu47dr.Clocked.Progress
import Xczu47dr.Control.NetworkConfig

/-! # The commits of the network identity

Endless runs in which every pulse comes after the identity of the DNA and while the
configuration is not busy.  The identity changes at a commit and nowhere else, a fixed
time after its restart.  What is not kept: the status of an operation that is answered
in the cycle of the next one, and the check of playback, which a commit does not repeat.
-/

namespace Xczu47dr.Control

open Clocked Machine

/-- `network_config_pl` as a machine. -/
def networkConfigPl : Machine NetworkIn NetworkConfig where
  reset := .reset
  step := NetworkConfig.step

namespace NetworkConfig

def pulses (i : NetworkIn) : Bool := i.applyStart || i.restartStart

/-- The status of an operation of a configuration that is not busy. -/
def answerTo (i : NetworkIn) : BitVec 16 :=
  if playbackActive i then statusUnsafe else if i.applyStart && outOfRange i then statusRange else statusOk

/-- An apply that is answered with `STATUS_OK`. -/
def applied (i : NetworkIn) : Bool := i.applyStart && answerTo i == statusOk

/-- A restart that is answered with `STATUS_OK`. -/
def restarted (i : NetworkIn) : Bool := !i.applyStart && i.restartStart && answerTo i == statusOk

def stagedIdentity (i : NetworkIn) : NetworkIdentity :=
  ⟨i.apply.ip, 0#16 ++ i.apply.mac.extractLsb' 0 48, i.apply.subnet, i.apply.gateway, i.apply.port⟩

variable {s : NetworkConfig} {i : NetworkIn}

/-! ## One cycle -/

/-- What a cycle makes of the identities. -/
structure Moved (s : NetworkConfig) (i : NetworkIn) (u : NetworkConfig) : Prop where
  pulse : u.networkRestartPulse = s.commits
  current : s.takesDna = false → u.current = if s.commits then s.shadow else s.current
  shadow : s.takesDna = false → u.shadow = if s.stages i then stagedIdentity i else s.shadow
  shadowRevision : u.shadowRevision = if s.stages i then i.apply.revision else s.shadowRevision
  shadowValid : u.shadowValid = (s.stages i || s.shadowValid)
  count : u.restartPending = true → s.restartPending = true → u.restartCount = s.restartCount + 1
  dnaReady : s.dnaReady = true → u.dnaReady = true

theorem settle_moved (s : NetworkConfig) (i : NetworkIn) :
    (s.settle i).networkRestartPulse = s.commits ∧
      (s.takesDna = false → (s.settle i).current = if s.commits then s.shadow else s.current) ∧
      (s.takesDna = false → (s.settle i).shadow = s.shadow) ∧
      (s.commits = false → s.restartPending = true → (s.settle i).restartCount = s.restartCount + 1) ∧
      (s.dnaReady = true → (s.settle i).dnaReady = true) := by
  -- the acknowledgement touches none of these registers
  have acknowledged : (s.acknowledge (s.clearPulses i)).current = s.current ∧
      (s.acknowledge (s.clearPulses i)).shadow = s.shadow ∧
      (s.acknowledge (s.clearPulses i)).networkRestartPulse = false ∧
      (s.acknowledge (s.clearPulses i)).dnaReady = s.dnaReady ∧
      (s.acknowledge (s.clearPulses i)).restartCount = s.restartCount := by
    rw [acknowledge]
    split_ifs <;> exact ⟨rfl, rfl, rfl, rfl, rfl⟩
  obtain ⟨current, shadow, pulse, ready, count⟩ := acknowledged
  have restarted : (s.restart (s.acknowledge (s.clearPulses i))).networkRestartPulse = s.commits ∧
      (s.restart (s.acknowledge (s.clearPulses i))).current = (if s.commits then s.shadow else s.current) ∧
      (s.restart (s.acknowledge (s.clearPulses i))).shadow = s.shadow ∧
      (s.commits = false → s.restartPending = true →
        (s.restart (s.acknowledge (s.clearPulses i))).restartCount = s.restartCount + 1) ∧
      (s.restart (s.acknowledge (s.clearPulses i))).dnaReady = s.dnaReady := by
    rw [restart]
    cases commits : s.commits with
    | true => exact ⟨rfl, rfl, shadow, fun kept => Bool.noConfusion kept, ready⟩
    | false =>
      rw [if_neg Bool.false_ne_true, if_neg Bool.false_ne_true]
      cases s.restartPending with
      | true => exact ⟨pulse, current, shadow, fun _ _ => rfl, ready⟩
      | false => exact ⟨pulse, current, shadow, fun _ waits => Bool.noConfusion waits, ready⟩
  obtain ⟨pulse, current, shadow, count, ready⟩ := restarted
  rw [settle, takeDna]
  cases taken : s.takesDna with
  | true =>
    exact ⟨pulse, fun known => Bool.noConfusion known, fun known => Bool.noConfusion known, count, fun _ => rfl⟩
  | false => exact ⟨pulse, fun _ => current, fun _ => shadow, count, fun known => ready.trans known⟩

theorem Moved.answer {t : NetworkConfig} (moved : Moved s i t) (status : BitVec 16) : Moved s i (t.answer status) :=
  ⟨moved.pulse, moved.current, moved.shadow, moved.shadowRevision, moved.shadowValid, moved.count, moved.dnaReady⟩

/-- The stages before an operation, where nothing is staged. -/
theorem moved_settle (unstaged : s.stages i = false) : Moved s i (s.settle i) := by
  obtain ⟨pulse, current, shadow, count, ready⟩ := settle_moved s i
  obtain ⟨-, -, -, pending, valid, revision⟩ := settled s i
  refine ⟨pulse, current, fun known => ?_, ?_, ?_, fun still waits => ?_, ready⟩
  · rw [unstaged, if_neg Bool.false_ne_true, shadow known]
  · rw [unstaged, if_neg Bool.false_ne_true, revision]
  · rw [unstaged, Bool.false_or, valid]
  · rw [pending, waits, Bool.true_and, Bool.not_eq_true'] at still
    exact count still waits

theorem step_moved (s : NetworkConfig) (i : NetworkIn) : Moved s i (s.step i) := by
  rw [step, operate]
  cases opened : !s.restartPending && i.applyStart with
  | true =>
    rw [if_pos rfl]
    rw [Bool.and_eq_true, Bool.not_eq_true'] at opened
    obtain ⟨waits, apply⟩ := opened
    split_ifs with busy active wrong
    · exact (moved_settle (by simp [stages, busy])).answer _
    · exact (moved_settle (by simp [stages, active])).answer _
    · exact (moved_settle (by simp [stages, wrong])).answer _
    · have staged : s.stages i = true := by simp [stages, waits, apply, busy, active, wrong]
      obtain ⟨pulse, current, -, -, ready⟩ := settle_moved s i
      exact ⟨pulse, current, fun _ => by rw [staged, if_pos rfl]; rfl, by rw [staged, if_pos rfl],
        by rw [staged, Bool.true_or], fun _ impossible => Bool.noConfusion (waits.symm.trans impossible), ready⟩
  | false =>
    have moved : Moved s i (s.settle i) := moved_settle (by rw [stages, opened]; rfl)
    rw [if_neg Bool.false_ne_true]
    split_ifs with restart busy active shown
    · exact moved.answer _
    · exact moved.answer _
    · -- the count starts anew, but no restart was pending
      refine ⟨moved.pulse, moved.current, moved.shadow, moved.shadowRevision, moved.shadowValid, fun _ waits => ?_,
        moved.dnaReady⟩
      rw [waits] at restart
      exact Bool.noConfusion restart
    · exact moved.answer _
    · exact moved

/-- A restart begins where an identity is staged. -/
def restarts (s : NetworkConfig) (i : NetworkIn) : Bool := !s.busy && restarted i && s.shadowValid

theorem stages_idle (idle : s.busy = false) (waits : s.restartPending = false) : s.stages i = applied i := by
  rw [stages, applied, idle, waits, answerTo]
  cases i.applyStart with
  | false => rfl
  | true =>
    cases playbackActive i with
    | true => rfl
    | false => cases outOfRange i <;> rfl

/-- An operation of an idle configuration: its status, and the restart it begins. -/
theorem step_idle (idle : s.busy = false) (waits : s.restartPending = false) (pulse : pulses i = true) :
    (s.step i).status = answerTo i ∧ (s.step i).restartPending = s.restarts i ∧
      (s.restarts i = true → (s.step i).restartCount = 0) := by
  obtain ⟨-, -, -, pending, -, -⟩ := settled s i
  rw [waits, Bool.false_and] at pending
  rw [step, operate, restarts, restarted, answerTo, waits, idle]
  rw [pulses, Bool.or_eq_true] at pulse
  cases apply : i.applyStart with
  | true =>
    cases active : playbackActive i with
    | true => exact ⟨rfl, pending, fun never => Bool.noConfusion never⟩
    | false =>
      cases wrong : outOfRange i with
      | true => exact ⟨rfl, pending, fun never => Bool.noConfusion never⟩
      | false => exact ⟨rfl, pending, fun never => Bool.noConfusion never⟩
  | false =>
    have restart : i.restartStart = true := pulse.resolve_left (by rw [apply]; exact Bool.false_ne_true)
    cases active : playbackActive i with
    | true =>
      rw [restart]
      exact ⟨rfl, pending, fun never => Bool.noConfusion never⟩
    | false =>
      rw [restart]
      cases s.shadowValid with
      | true => exact ⟨rfl, rfl, fun _ => rfl⟩
      | false => exact ⟨rfl, pending, fun never => Bool.noConfusion never⟩

/-- A restart that waits goes on to wait until it commits. -/
theorem step_waits (waits : s.restartPending = true) : (s.step i).restartPending = !s.commits := by
  obtain ⟨-, -, -, pending, -, -⟩ := settled s i
  have untaken : s.step i = s.settle i := by rw [step, operate, waits]; rfl
  rw [untaken, pending, waits, Bool.true_and]

/-! ## Whole runs -/

/-- An operation comes after the identity of the DNA and while the configuration is not busy. -/
def Polite (inputs : Nat → NetworkIn) : Prop := ∀ n, pulses (inputs n) = true →
  (networkConfigPl.trace inputs n).dnaReady = true ∧ (networkConfigPl.trace inputs n).busy = false

variable {inputs : Nat → NetworkIn}

theorem coherent_trace (inputs : Nat → NetworkIn) (n : Nat) : (networkConfigPl.trace inputs n).Coherent :=
  networkConfigPl.trace_invariant inputs coherent_reset (fun _ i coherent => coherent.step i) n

/-- No restart waits where an operation comes. -/
theorem Polite.free (polite : Polite inputs) {n : Nat} (pulse : pulses (inputs n) = true) :
    (networkConfigPl.trace inputs n).restartPending = false := by
  by_contra waits
  have busy := (coherent_trace inputs n).busy (Bool.eq_true_of_not_eq_false waits)
  exact Bool.noConfusion ((polite n pulse).2.symm.trans busy)

theorem Polite.takes (polite : Polite inputs) (n : Nat) :
    (networkConfigPl.trace inputs n).takes (inputs n) = pulses (inputs n) := by
  rw [NetworkConfig.takes]
  cases pulse : pulses (inputs n) with
  | true =>
    rw [polite.free pulse]
    exact pulse
  | false =>
    change (_ && pulses (inputs n)) = false
    rw [pulse, Bool.and_false]

theorem applied_pulses {i : NetworkIn} (applied : applied i = true) : pulses i = true := by
  rw [NetworkConfig.applied, Bool.and_eq_true] at applied
  rw [pulses, applied.1, Bool.true_or]

theorem restarted_pulses {i : NetworkIn} (restarted : restarted i = true) : pulses i = true := by
  rw [NetworkConfig.restarted, Bool.and_eq_true, Bool.and_eq_true] at restarted
  rw [pulses, restarted.1.2, Bool.or_true]

theorem Polite.stages (polite : Polite inputs) (n : Nat) :
    (networkConfigPl.trace inputs n).stages (inputs n) = applied (inputs n) := by
  cases pulse : pulses (inputs n) with
  | true => exact stages_idle (polite n pulse).2 (polite.free pulse)
  | false =>
    rw [pulses, Bool.or_eq_false_iff] at pulse
    rw [NetworkConfig.stages, applied, pulse.1, Bool.and_false]
    rfl

/-- Once the identity of the DNA is there, it stays. -/
theorem dnaReady_lasts {k n : Nat} (known : (networkConfigPl.trace inputs k).dnaReady = true) (later : k ≤ n) :
    (networkConfigPl.trace inputs n).dnaReady = true :=
  lasts known n later fun m _ _ known => (step_moved _ (inputs m)).dnaReady known

theorem known_takesDna {s : NetworkConfig} (known : s.dnaReady = true) : s.takesDna = false := by
  rw [takesDna, known]
  rfl

/-- There is something staged after an accepted apply. -/
theorem shadowValid_trace (polite : Polite inputs) (n : Nat) :
    (networkConfigPl.trace inputs n).shadowValid = true ↔ ∃ k < n, applied (inputs k) = true := by
  induction n with
  | zero => exact ⟨fun valid => Bool.noConfusion valid, fun ⟨_, before, _⟩ => absurd before (Nat.not_lt_zero _)⟩
  | succ n ih =>
    have valid := (step_moved (networkConfigPl.trace inputs n) (inputs n)).shadowValid
    rw [polite.stages n] at valid
    change (networkConfigPl.trace inputs (n + 1)).shadowValid = _ at valid
    rw [valid, Bool.or_eq_true, ih]
    constructor
    · rintro (now | ⟨k, before, staged⟩)
      · exact ⟨n, Nat.lt_succ_self n, now⟩
      · exact ⟨k, Nat.lt_succ_of_lt before, staged⟩
    · rintro ⟨k, before, staged⟩
      rcases Nat.lt_succ_iff_lt_or_eq.mp before with earlier | rfl
      · exact .inr ⟨k, earlier, staged⟩
      · exact .inl staged

/-- The staged identity is the one of the last accepted apply. -/
theorem staged_trace (polite : Polite inputs) {k n : Nat} (before : k < n) (staged : applied (inputs k) = true)
    (last : ∀ j, k < j → j < n → applied (inputs j) = false) :
    (networkConfigPl.trace inputs n).shadow = stagedIdentity (inputs k) := by
  have known := (polite k (applied_pulses staged)).1
  have now : (networkConfigPl.trace inputs (k + 1)).shadow = stagedIdentity (inputs k) := by
    have shadow := (step_moved (networkConfigPl.trace inputs k) (inputs k)).shadow (known_takesDna known)
    rw [polite.stages k, staged, if_pos rfl] at shadow
    exact shadow
  -- nothing is staged from then on
  refine lasts (P := fun m => (networkConfigPl.trace inputs m).shadow = stagedIdentity (inputs k)) now n before
    fun m from_k earlier shows => ?_
  have shadow := (step_moved (networkConfigPl.trace inputs m) (inputs m)).shadow
    (known_takesDna (dnaReady_lasts known (by omega)))
  rw [polite.stages m, last m from_k earlier, if_neg Bool.false_ne_true] at shadow
  exact shadow.trans shows

/-- A restart that begins at `k` waits, and counts the cycles. -/
theorem counting_trace (polite : Polite inputs) {k : Nat}
    (begins : (networkConfigPl.trace inputs k).restarts (inputs k) = true) (j : Nat)
    (within : j < restartDelayCycles) :
    (networkConfigPl.trace inputs (k + 1 + j)).restartPending = true ∧
      (networkConfigPl.trace inputs (k + 1 + j)).restartCount = j := by
  induction j with
  | zero =>
    have pulse : pulses (inputs k) = true := by
      rw [restarts, Bool.and_eq_true, Bool.and_eq_true] at begins
      exact restarted_pulses begins.1.2
    obtain ⟨-, waits, count⟩ := step_idle (polite k pulse).2 (polite.free pulse) pulse
    exact ⟨waits.trans begins, count begins⟩
  | succ j ih =>
    obtain ⟨waits, count⟩ := ih (Nat.lt_of_succ_lt within)
    have kept : (networkConfigPl.trace inputs (k + 1 + j)).commits = false := by
      rw [commits, count, waits, Bool.true_and]
      exact decide_eq_false (by omega)
    have still := step_waits (i := inputs (k + 1 + j)) waits
    rw [kept, Bool.not_false] at still
    refine ⟨still, ?_⟩
    have counted := (step_moved _ (inputs (k + 1 + j))).count still waits
    rw [count] at counted
    exact counted

/-- A restart that waits has begun as many cycles ago as it has counted. -/
theorem began_trace (polite : Polite inputs) (n : Nat)
    (waits : (networkConfigPl.trace inputs n).restartPending = true) :
    (networkConfigPl.trace inputs n).restartCount < restartDelayCycles ∧
      ∃ k, k + 1 + (networkConfigPl.trace inputs n).restartCount = n ∧
        (networkConfigPl.trace inputs k).restarts (inputs k) = true := by
  induction n with
  | zero => exact Bool.noConfusion waits
  | succ n ih =>
    cases before : (networkConfigPl.trace inputs n).restartPending with
    | true =>
      obtain ⟨within, k, since, begins⟩ := ih before
      have still := step_waits (i := inputs n) before
      have kept := Bool.not_eq_true' _ |>.mp (still.symm.trans waits)
      have count : (networkConfigPl.trace inputs (n + 1)).restartCount = _ :=
        (step_moved (networkConfigPl.trace inputs n) (inputs n)).count waits before
      rw [commits, before, Bool.true_and, decide_eq_false_iff_not] at kept
      rw [count]
      exact ⟨by omega, k, by omega, begins⟩
    | false =>
      cases pulse : pulses (inputs n) with
      | true =>
        obtain ⟨-, begins, count⟩ := step_idle (polite n pulse).2 before pulse
        have begins := begins.symm.trans waits
        have count : (networkConfigPl.trace inputs (n + 1)).restartCount = 0 := count begins
        rw [count]
        exact ⟨by decide, n, rfl, begins⟩
      | false =>
        have rests := (polite.takes n).trans pulse
        exact Bool.noConfusion ((step_restartPending rests before).symm.trans waits)

/-- A commit comes a fixed time after its restart, and only then. -/
theorem commits_trace (polite : Polite inputs) (n : Nat) : (networkConfigPl.trace inputs n).commits = true ↔
    ∃ k, k + restartDelayCycles = n ∧ (networkConfigPl.trace inputs k).restarts (inputs k) = true := by
  constructor
  · intro commits
    rw [NetworkConfig.commits, Bool.and_eq_true, decide_eq_true_iff] at commits
    obtain ⟨within, k, since, begins⟩ := began_trace polite n commits.1
    exact ⟨k, by omega, begins⟩
  · rintro ⟨k, rfl, begins⟩
    have late : k + restartDelayCycles = k + 1 + (restartDelayCycles - 1) := by
      rw [Nat.add_assoc]
      rfl
    obtain ⟨waits, count⟩ := counting_trace polite begins (restartDelayCycles - 1) (by decide)
    rw [late, NetworkConfig.commits, waits, count, Bool.true_and, decide_eq_true_iff]

theorem restarts_trace (polite : Polite inputs) (k : Nat) :
    (networkConfigPl.trace inputs k).restarts (inputs k) = true ↔
      restarted (inputs k) = true ∧ ∃ j < k, applied (inputs j) = true := by
  rw [restarts, Bool.and_eq_true, Bool.and_eq_true, shadowValid_trace polite k, Bool.not_eq_true', and_assoc]
  exact ⟨fun begins => begins.2, fun begins => ⟨(polite k (restarted_pulses begins.1)).2, begins⟩⟩

/-! ## What is promised of the identity -/

/-- The identity changes by commits only, each operation has one answer of its own, and
    nothing changes while playback is active. -/
structure CommittedOnly (inputs : Nat → NetworkIn) : Prop where
  changes : ∀ n, (networkConfigPl.trace inputs n).dnaReady = true →
    (networkConfigPl.trace inputs (n + 1)).networkRestartPulse = false →
      (networkConfigPl.trace inputs (n + 1)).current = (networkConfigPl.trace inputs n).current
  commits : ∀ n, (networkConfigPl.trace inputs (n + 1)).networkRestartPulse = true →
    ∃ k < n, applied (inputs k) = true ∧ (∀ j, k < j → j < n → applied (inputs j) = false) ∧
      (networkConfigPl.trace inputs (n + 1)).current = stagedIdentity (inputs k)
  delay : ∀ n, (networkConfigPl.trace inputs (n + 1)).networkRestartPulse = true ↔
    ∃ k, k + restartDelayCycles = n ∧ restarted (inputs k) = true ∧ ∃ j < k, applied (inputs j) = true
  rejected : ∀ n, pulses (inputs n) = true → answerTo (inputs n) ≠ statusOk →
    (networkConfigPl.trace inputs (n + 1)).current = (networkConfigPl.trace inputs n).current ∧
    (networkConfigPl.trace inputs (n + 1)).shadow = (networkConfigPl.trace inputs n).shadow ∧
    (networkConfigPl.trace inputs (n + 1)).shadowRevision = (networkConfigPl.trace inputs n).shadowRevision
  undone : (networkConfigPl.trace inputs 0).done = false ∧ (networkConfigPl.trace inputs 1).done = false
  done : ∀ n, (networkConfigPl.trace inputs (n + 2)).done.toNat =
    (inputs n).applyStart.toNat + (inputs n).restartStart.toNat
  status : ∀ n, pulses (inputs n) = true → (networkConfigPl.trace inputs (n + 2)).status = answerTo (inputs n)
  still : ∀ n, (networkConfigPl.trace inputs n).dnaReady = true → playbackActive (inputs n) = true →
    (networkConfigPl.trace inputs (n + 1)).current = (networkConfigPl.trace inputs n).current

/-- No two operations at once, no other answer in the cycle after an operation, and no commit
    of another identity while playback is active. -/
def Undisturbed (inputs : Nat → NetworkIn) (n : Nat) : Prop :=
  ((inputs n).applyStart = true → (inputs n).restartStart = false) ∧
    (pulses (inputs n) = true → pulses (inputs (n + 1)) = true → answerTo (inputs (n + 1)) = answerTo (inputs n)) ∧
      ((networkConfigPl.trace inputs n).commits = true → playbackActive (inputs n) = true →
        (networkConfigPl.trace inputs n).shadow = (networkConfigPl.trace inputs n).current)

theorem done_trace (polite : Polite inputs) (n : Nat) :
    (networkConfigPl.trace inputs (n + 2)).done = pulses (inputs n) := by
  have acked : (networkConfigPl.trace inputs (n + 1)).operationAckPending = _ := step_operationAckPending
  have done : (networkConfigPl.trace inputs (n + 2)).done = _ := step_done
  rw [done, acked, polite.takes n]

/-- The status shown with the answer is the one of the operation after it, if there is one. -/
theorem status_trace (polite : Polite inputs) {n : Nat} (pulse : pulses (inputs n) = true) :
    (networkConfigPl.trace inputs (n + 2)).status =
      if pulses (inputs (n + 1)) then answerTo (inputs (n + 1)) else answerTo (inputs n) := by
  have own : (networkConfigPl.trace inputs (n + 1)).status = answerTo (inputs n) :=
    (step_idle (polite n pulse).2 (polite.free pulse) pulse).1
  cases next : pulses (inputs (n + 1)) with
  | true => exact (step_idle (polite (n + 1) next).2 (polite.free next) next).1
  | false =>
    have rests := (polite.takes (n + 1)).trans next
    exact (step_status rests).trans own

theorem known_of_commits (polite : Polite inputs) {n : Nat}
    (commits : (networkConfigPl.trace inputs n).commits = true) :
    (networkConfigPl.trace inputs n).dnaReady = true := by
  obtain ⟨k, since, begins⟩ := (commits_trace polite n).mp commits
  have pulse := restarted_pulses ((restarts_trace polite k).mp begins).1
  exact dnaReady_lasts (polite k pulse).1 (by omega)

theorem current_trace {n : Nat} (known : (networkConfigPl.trace inputs n).dnaReady = true) :
    (networkConfigPl.trace inputs (n + 1)).current =
      if (networkConfigPl.trace inputs n).commits then (networkConfigPl.trace inputs n).shadow
      else (networkConfigPl.trace inputs n).current :=
  (step_moved _ (inputs n)).current (known_takesDna known)

theorem pulse_trace (n : Nat) :
    (networkConfigPl.trace inputs (n + 1)).networkRestartPulse = (networkConfigPl.trace inputs n).commits :=
  (step_moved _ (inputs n)).pulse

/-- What is promised of the identity holds just where every cycle is undisturbed. -/
theorem committed_only (polite : Polite inputs) : CommittedOnly inputs ↔ ∀ n, Undisturbed inputs n := by
  constructor
  · intro promised n
    refine ⟨fun apply => ?_, fun pulse next => ?_, fun commits active => ?_⟩
    · -- two operations would need two answers
      have one := promised.done n
      rw [apply] at one
      cases restart : (inputs n).restartStart with
      | false => rfl
      | true =>
        rw [restart] at one
        have atMost := Bool.toNat_le (networkConfigPl.trace inputs (n + 2)).done
        exact absurd (one ▸ atMost) (by decide)
    · have own := promised.status n pulse
      rw [status_trace polite pulse, next, if_pos rfl] at own
      exact own
    · have known := known_of_commits polite commits
      have still := promised.still n known active
      rw [current_trace known, commits, if_pos rfl] at still
      exact still
  · intro undisturbed
    constructor
    case changes =>
      intro n known quiet
      rw [pulse_trace] at quiet
      rw [current_trace known, quiet, if_neg Bool.false_ne_true]
    case commits =>
      intro n pulse
      rw [pulse_trace] at pulse
      obtain ⟨m, since, begins⟩ := (commits_trace polite n).mp pulse
      obtain ⟨j, before, staged⟩ := ((restarts_trace polite m).mp begins).2
      have earlier : ∃ j < n, applied (inputs j) = true := ⟨j, by omega, staged⟩
      obtain ⟨k, before, staged, last⟩ := exists_last earlier
      have last := fun j after within => Bool.eq_false_of_not_eq_true (last j after within)
      refine ⟨k, before, staged, last, ?_⟩
      rw [current_trace (known_of_commits polite pulse), pulse, if_pos rfl]
      exact staged_trace polite before staged last
    case delay =>
      intro n
      rw [pulse_trace, commits_trace polite n]
      exact exists_congr fun k => and_congr_right fun _ => restarts_trace polite k
    case rejected =>
      intro n pulse rejected
      have known := (polite n pulse).1
      have kept : (networkConfigPl.trace inputs n).commits = false := by
        rw [NetworkConfig.commits, polite.free pulse, Bool.false_and]
      have unstaged : (networkConfigPl.trace inputs n).stages (inputs n) = false := by
        rw [polite.stages n, applied, beq_eq_false_iff_ne.mpr rejected, Bool.and_false]
      have moved := step_moved (networkConfigPl.trace inputs n) (inputs n)
      have shadow := moved.shadow (known_takesDna known)
      have revision := moved.shadowRevision
      rw [unstaged, if_neg Bool.false_ne_true] at shadow revision
      refine ⟨?_, shadow, revision⟩
      rw [current_trace known, kept, if_neg Bool.false_ne_true]
    case undone => exact ⟨rfl, step_done⟩
    case done =>
      intro n
      rw [done_trace polite n, pulses]
      have single := (undisturbed n).1
      cases apply : (inputs n).applyStart with
      | true =>
        rw [single apply]
        rfl
      | false => exact (Nat.zero_add _).symm
    case status =>
      intro n pulse
      rw [status_trace polite pulse]
      cases next : pulses (inputs (n + 1)) with
      | true => exact (undisturbed n).2.1 pulse next
      | false => rfl
    case still =>
      intro n known active
      rw [current_trace known]
      cases commits : (networkConfigPl.trace inputs n).commits with
      | true => exact (undisturbed n).2.2 commits active
      | false => rfl

/-! ## A restart, and playback after it -/

def idleIn (running : Bool) : NetworkIn :=
  ⟨false, ⟨0x12345, 0xA9FE0507, 0x020000000009, 0xFFFF0000, 0, 1234⟩, false, false, false, running,
    ⟨true, 0x77, 0x99, 0x1234⟩⟩

/-- An apply, a restart, and then playback or none. -/
def restartRun (running : Bool) (n : Nat) : NetworkIn :=
  match n with
  | 3 => { idleIn false with applyStart := true }
  | 5 => { idleIn false with restartStart := true }
  | n => idleIn (running && decide (5 < n))

theorem restartRun_pulses {running : Bool} {n : Nat} (pulse : pulses (restartRun running n) = true) :
    n = 3 ∨ n = 5 := by
  unfold restartRun at pulse
  split at pulse
  · exact .inl rfl
  · exact .inr rfl
  · exact Bool.noConfusion pulse

theorem restartRun_polite (running : Bool) : Polite (restartRun running) := by
  intro n pulse
  rcases restartRun_pulses pulse with rfl | rfl <;> cases running <;> decide

theorem committed_only_restart : CommittedOnly (restartRun false) := by
  refine (committed_only (restartRun_polite false)).mpr fun n =>
    ⟨fun apply => ?_, fun pulse next => ?_, fun _ active => ?_⟩
  · rcases restartRun_pulses (by rw [pulses, apply, Bool.true_or]) with rfl | rfl
    · rfl
    · exact Bool.noConfusion apply
  · rcases restartRun_pulses pulse with rfl | rfl <;> exact Bool.noConfusion next
  · unfold restartRun at active
    split at active <;> exact Bool.noConfusion active

/-- The identity changes while playback runs. -/
theorem commit_while_running : Polite (restartRun true) ∧ ¬ CommittedOnly (restartRun true) := by
  refine ⟨restartRun_polite true, fun promised => ?_⟩
  -- nothing changes until the commit, and it comes in cycle 1029
  have unchanged := lasts (P := fun n => (networkConfigPl.trace (restartRun true) n).dnaReady = true ∧
      (networkConfigPl.trace (restartRun true) n).current = (networkConfigPl.trace (restartRun true) 6).current)
    (n := 6) (by decide) 1029 (by decide) fun n after before known => by
      have quiet : (networkConfigPl.trace (restartRun true) (n + 1)).networkRestartPulse = false := by
        by_contra pulse
        obtain ⟨k, since, restart, -⟩ := (promised.delay n).mp (Bool.eq_true_of_not_eq_false pulse)
        rw [restartDelayCycles] at since
        rcases restartRun_pulses (restarted_pulses restart) with rfl | rfl
        · exact Bool.noConfusion restart
        · omega
      exact ⟨(step_moved _ _).dnaReady known.1, (promised.changes n known.1 quiet).trans known.2⟩
  have pulse := (promised.delay 1029).mpr ⟨5, rfl, by decide, 3, by decide, by decide⟩
  obtain ⟨k, -, staged, -, moved⟩ := promised.commits 1029 pulse
  have still := promised.still 1029 unchanged.1 rfl
  rw [moved, unchanged.2] at still
  rcases restartRun_pulses (applied_pulses staged) with rfl | rfl
  · exact absurd still (by decide)
  · exact Bool.noConfusion staged

end NetworkConfig

end Xczu47dr.Control
