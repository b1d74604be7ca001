import Xczu47dr.Webapp.Leases
import Mathlib.Algebra.Order.BigOperators.Group.List
import Mathlib.Algebra.Order.Ring.Nat

/-! # Programming jobs

`ProgrammerService`: an unfinished job owns its board, and one worker at a time deploys, under the
lock of the service.  The workers do not outlive the server, and nothing looks after their jobs
when it is started again.
-/

namespace Xczu47dr.Webapp

open Records

inductive JobState
  | queued
  | preflight
  | running
  | succeeded
  | failed
  deriving DecidableEq

/-- `state IN ('QUEUED', 'PREFLIGHT', 'RUNNING')` -/
def JobState.unfinished : JobState → Bool
  | .queued | .preflight | .running => true
  | .succeeded | .failed => false

structure ProgramJob where
  id : String
  boardId : String
  artifactId : String
  state : JobState
  /-- in hundredths -/
  progress : Nat
  createdBy : Nat
  createdAt : Nat
  updatedAt : Nat
  error : String
  deriving DecidableEq

namespace ProgramJob

/-- The board of a job that is not finished. -/
def claim (job : ProgramJob) : Option String := if job.state.unfinished then some job.boardId else none

theorem claim_some {job : ProgramJob} {board : String} :
    job.claim = some board ↔ job.state.unfinished = true ∧ job.boardId = board := by
  rw [claim]
  split_ifs with unfinished
  · rw [Option.some.injEq]
    exact ⟨fun named => ⟨unfinished, named⟩, And.right⟩
  · exact ⟨nofun, fun claims => absurd claims.1 unfinished⟩

def created (id board artifact : String) (user now : Nat) : ProgramJob :=
  ⟨id, board, artifact, .queued, 0, user, now, now, ""⟩

/-- `update_program_job` -/
def updated (state : JobState) (progress : Nat) (error : String) (now : Nat) (job : ProgramJob) : ProgramJob :=
  { job with state, progress, error, updatedAt := now }

theorem id_updated (state : JobState) (progress : Nat) (error : String) (now : Nat) (job : ProgramJob) :
    (job.updated state progress error now).id = job.id := rfl

end ProgramJob

abbrev JobTable := Table ProgramJob.id

namespace JobTable

variable (jobs : JobTable)

def active (board : String) : Option ProgramJob := jobs.rows.find? (·.claim = some board)

/-- `create_program_job` -/
def create (id board artifact : String) (user now : Nat) : Except ManagementError JobTable :=
  match jobs.active board with
  | some active => .error (.management ("programming job " ++ active.id ++ " already owns board " ++ board))
  | none =>
    if free : id ∉ jobs.rows.map ProgramJob.id then
      .ok (jobs.insert (ProgramJob.created id board artifact user now) free)
    else .error (.integrity "UNIQUE constraint failed: program_jobs.id")

def update (id : String) (state : JobState) (progress : Nat) (error : String) (now : Nat) : JobTable :=
  jobs.amend id (ProgramJob.updated state progress error now) (ProgramJob.id_updated state progress error now)

end JobTable

/-- What `create` finds when it looks at the board, the artifact and the server. -/
structure Inspection where
  boardEnabled : Option Bool
  targetProfile : String
  jtagCableSerial : String
  artifactProfile : Option String
  leased : Bool
  activeRun : Bool
  filesPresent : Bool
  xsct : String
  xsctPresent : Bool
  psuInitPresent : Bool
  /-- `scan_jtag` -/
  cables : List String
  scanError : String
  deriving DecidableEq

namespace Inspection

variable (found : Inspection)

/-- `_verify_jtag` -/
def verifyJtag : Except ManagementError Unit :=
  if found.jtagCableSerial ∈ found.cables then .ok ()
  else if found.scanError ≠ "" then .error (.management ("JTAG preflight failed: " ++ found.scanError))
  else .error (.management ("registered JTAG cable serial " ++ found.jtagCableSerial ++ " was not found"))

/-- The checks of `create`, in their order -/
def check (board : String) : Except ManagementError Unit :=
  match found.boardEnabled, found.artifactProfile with
  | none, _ => .error (.unknown ("unknown board " ++ board))
  | some _, none => .error (.unknown "unknown artifact")
  | some enabled, some profile =>
    if enabled = false then .error (.management "board is disabled")
    else if found.targetProfile ≠ profile then
      .error (.management "artifact target profile does not match the board")
    else if found.jtagCableSerial = "" then .error (.management "board has no registered JTAG cable serial")
    else if found.leased then .error (.management "release the board lease before programming")
    else if found.activeRun then .error (.management "abort the active waveform run before programming")
    else if found.filesPresent = false then .error (.management "artifact files are missing from server storage")
    else if found.xsctPresent = false then .error (.management ("XSCT not found: " ++ found.xsct))
    else if found.psuInitPresent = false then
      .error (.management "PS initialization script is missing for this target profile")
    else found.verifyJtag

end Inspection

/-- Where the worker of a job stands in `_run`; past `waiting` it is inside of the lock. -/
inductive JobPhase
  | waiting
  | locked
  | preflight
  | running
  | finishing
  | failed
  deriving DecidableEq

def JobPhase.state : JobPhase → JobState
  | .waiting | .locked => .queued
  | .preflight => .preflight
  | .running => .running
  | .finishing => .succeeded
  | .failed => .failed

def JobPhase.rank : JobPhase → Nat
  | .waiting => 6
  | .locked => 5
  | .preflight => 4
  | .running => 3
  | .finishing => 2
  | .failed => 1

inductive JobStep
  | takesLock
  | preflight
  | deploys
  | succeeds
  | fails (error : String)
  | returns
  deriving DecidableEq

structure Programmer where
  jobs : JobTable
  worker : String → Option JobPhase
  lock : Option String

namespace Programmer

def opened : Programmer := ⟨Table.empty ProgramJob.id, fun _ => none, none⟩

variable (s : Programmer)

def setPhase (id : String) (phase : Option JobPhase) : Programmer :=
  { s with worker := Function.update s.worker id phase }

/-- The row is written, and the worker goes on. -/
def writes (id : String) (phase : JobPhase) (progress : Nat) (error : String) (now : Nat) : Programmer :=
  { s with jobs := s.jobs.update id phase.state progress error now }.setPhase id (some phase)

/-- `create`, whose thread starts at once -/
def create (id board artifact : String) (user now : Nat) (found : Inspection) : Except ManagementError Programmer :=
  match found.check board with
  | .error reason => .error reason
  | .ok () =>
    match s.jobs.create id board artifact user now with
    | .error reason => .error reason
    | .ok jobs => .ok ({ s with jobs }.setPhase id (some .waiting))

/-- `_run`, one write at a time -/
def workerStep (id : String) (now : Nat) : JobPhase → JobStep → Option Programmer
  | .waiting, .takesLock =>
    if s.lock = none then some ({ s with lock := some id }.setPhase id (some .locked)) else none
  | .locked, .preflight => some (s.writes id .preflight 5 "" now)
  | .preflight, .deploys => some (s.writes id .running 15 "" now)
  -- XSCT has returned 0 and the board answers
  | .running, .succeeds => some (s.writes id .finishing 100 "" now)
  | .preflight, .fails error => some (s.writes id .failed 100 error now)
  | .running, .fails error => some (s.writes id .failed 100 error now)
  -- the audit log may fail still
  | .finishing, .fails error => some (s.writes id .failed 100 error now)
  | .finishing, .returns => some ({ s with lock := none }.setPhase id none)
  | .failed, .returns => some ({ s with lock := none }.setPhase id none)
  | _, _ => none

inductive Event
  | creates (id board artifact : String) (user : Nat) (found : Inspection)
  | works (id : String) (step : JobStep)
  | restart
  deriving DecidableEq

def step (now : Nat) : Event → Option Programmer
  | .creates id board artifact user found => (s.create id board artifact user now found).toOption
  | .works id step => (s.worker id).bind fun phase => s.workerStep id now phase step
  | .restart => some { s with worker := fun _ => none, lock := none }

/-- A history of events, each at its time; it breaks off at one that is refused. -/
def run (s : Programmer) : List (Nat × Event) → Option Programmer
  | [] => some s
  | (now, event) :: later => (s.step now event).bind fun mid => mid.run later

variable {s} {s' : Programmer} {id : String} {now : Nat} {phase : JobPhase}

/-! ## One step of a worker -/

/-- A write moves on inside of the lock, and never makes a finished job unfinished. -/
structure Precedes (phase next : JobPhase) : Prop where
  inside : phase ≠ .waiting
  stays : next ≠ .waiting
  unfinished : next.state.unfinished = true → phase.state.unfinished = true
  rank : next.rank < phase.rank

theorem workerStep_cases {step : JobStep} (done : s.workerStep id now phase step = some s') :
    (phase = .waiting ∧ s.lock = none ∧ s' = { s with lock := some id }.setPhase id (some .locked)) ∨
      (∃ next progress error, Precedes phase next ∧ s' = s.writes id next progress error now) ∨
      (phase ≠ .waiting ∧ phase.state.unfinished = false ∧ s' = { s with lock := none }.setPhase id none) := by
  cases phase with
  | waiting =>
      cases step with
      | takesLock =>
          simp only [workerStep] at done
          split_ifs at done with free
          cases done
          exact .inl ⟨rfl, free, rfl⟩
      | _ => cases done
  | locked =>
      cases step with
      | preflight =>
          cases done
          exact .inr (.inl ⟨.preflight, 5, "", ⟨nofun, nofun, fun _ => rfl, by decide⟩, rfl⟩)
      | _ => cases done
  | preflight =>
      cases step with
      | deploys =>
          cases done
          exact .inr (.inl ⟨.running, 15, "", ⟨nofun, nofun, fun _ => rfl, by decide⟩, rfl⟩)
      | fails error =>
          cases done
          exact .inr (.inl ⟨.failed, 100, error, ⟨nofun, nofun, fun _ => rfl, by decide⟩, rfl⟩)
      | _ => cases done
  | running =>
      cases step with
      | succeeds =>
          cases done
          exact .inr (.inl ⟨.finishing, 100, "", ⟨nofun, nofun, fun _ => rfl, by decide⟩, rfl⟩)
      | fails error =>
          cases done
          exact .inr (.inl ⟨.failed, 100, error, ⟨nofun, nofun, fun _ => rfl, by decide⟩, rfl⟩)
      | _ => cases done
  | finishing =>
      cases step with
      | fails error =>
          cases done
          exact .inr (.inl ⟨.failed, 100, error, ⟨nofun, nofun, nofun, by decide⟩, rfl⟩)
      | returns =>
          cases done
          exact .inr (.inr ⟨nofun, rfl, rfl⟩)
      | _ => cases done
  | failed =>
      cases step with
      | returns =>
          cases done
          exact .inr (.inr ⟨nofun, rfl, rfl⟩)
      | _ => cases done

/-- A worker inside of the lock can always go on. -/
theorem workerStep_inside (s : Programmer) (id : String) (now : Nat) (inside : phase ≠ .waiting) :
    ∃ step s', s.workerStep id now phase step = some s' := by
  cases phase with
  | waiting => exact absurd rfl inside
  | locked => exact ⟨.preflight, _, rfl⟩
  | preflight => exact ⟨.deploys, _, rfl⟩
  | running => exact ⟨.succeeds, _, rfl⟩
  | finishing => exact ⟨.returns, _, rfl⟩
  | failed => exact ⟨.returns, _, rfl⟩

/-- A created job has a board that no other job owns. -/
theorem create_ok {board artifact : String} {user : Nat} {found : Inspection}
    (done : s.create id board artifact user now found = .ok s') :
    (∀ job ∈ s.jobs.rows, job.claim ≠ some board) ∧ ∃ free : id ∉ s.jobs.rows.map ProgramJob.id,
      s' = { s with jobs := s.jobs.insert (ProgramJob.created id board artifact user now) free }.setPhase id
        (some .waiting) := by
  rw [Programmer.create] at done
  cases checked : found.check board with
  | error reason =>
      rw [checked] at done
      cases done
  | ok passed =>
      rw [checked] at done
      dsimp only at done
      rw [JobTable.create] at done
      cases owner : s.jobs.active board with
      | some active =>
          rw [owner] at done
          cases done
      | none =>
          rw [owner] at done
          dsimp only at done
          by_cases free : id ∉ s.jobs.rows.map ProgramJob.id
          · rw [dif_pos free] at done
            cases done
            refine ⟨fun job among claims => ?_, free, rfl⟩
            exact absurd (decide_eq_true claims) (List.find?_eq_none.mp owner job among)
          · rw [dif_neg free] at done
            cases done

/-! ## Jobs and workers -/

structure Orderly (s : Programmer) : Prop where
  exclusive : Exclusive ProgramJob.claim s.jobs
  follows : ∀ id phase, s.worker id = some phase → ∃ job, s.jobs.find? id = some job ∧ job.state = phase.state
  holds : ∀ id phase, s.worker id = some phase → phase ≠ .waiting → s.lock = some id
  held : ∀ id, s.lock = some id → ∃ phase, s.worker id = some phase ∧ phase ≠ .waiting

theorem Orderly.opened : Orderly opened where
  exclusive := Exclusive.empty
  follows _ phase running := absurd running.symm (Option.some_ne_none phase)
  holds _ phase running := absurd running.symm (Option.some_ne_none phase)
  held id locked := absurd locked.symm (Option.some_ne_none id)

section Updates

variable {jobs : JobTable} {state : JobState} {progress : Nat} {error : String}

theorem find?_update_ne {other : String} (different : other ≠ id) :
    (jobs.update id state progress error now).find? other = jobs.find? other := by
  rw [JobTable.update]
  exact Table.find?_amend_ne jobs _ _ different

theorem find?_update {job : ProgramJob} (found : jobs.find? id = some job) :
    (jobs.update id state progress error now).find? id = some (job.updated state progress error now) := by
  rw [JobTable.update, Table.find?_amend, found]
  rfl

theorem keys_update :
    (jobs.update id state progress error now).rows.map ProgramJob.id = jobs.rows.map ProgramJob.id :=
  Table.keys_amend jobs id (ProgramJob.updated state progress error now)
    (ProgramJob.id_updated state progress error now)

theorem mem_update {row : ProgramJob} : row ∈ (jobs.update id state progress error now).rows ↔
    (row ∈ jobs.rows ∧ row.id ≠ id) ∨
      ∃ old ∈ jobs.rows, old.id = id ∧ old.updated state progress error now = row :=
  @Table.mem_amend _ _ _ _ jobs id (ProgramJob.updated state progress error now)
    (ProgramJob.id_updated state progress error now) row

/-- A job that has its board already may keep it. -/
theorem exclusive_update (exclusive : Exclusive ProgramJob.claim jobs) {job : ProgramJob}
    (found : jobs.find? id = some job) (keeps : state.unfinished = true → job.state.unfinished = true) :
    Exclusive ProgramJob.claim (jobs.update id state progress error now) := by
  obtain ⟨among, rfl⟩ := Table.find?_some found
  rw [JobTable.update]
  cases goes : state.unfinished with
  | true =>
      have owned : job.claim = some job.boardId := ProgramJob.claim_some.mpr ⟨keeps goes, rfl⟩
      have still : (job.updated state progress error now).claim = some job.boardId :=
        ProgramJob.claim_some.mpr ⟨goes, rfl⟩
      refine (exclusive.amend_iff among still).mpr ?_
      rintro ⟨other, otherAmong, different, claims⟩
      exact different (exclusive other otherAmong job among _ claims owned)
  | false =>
      refine exclusive.amend fun row board claims => ?_
      have unfinished := (ProgramJob.claim_some.mp claims).1
      change state.unfinished = true at unfinished
      rw [goes] at unfinished
      cases unfinished

end Updates

theorem setPhase_self {next : Option JobPhase} : (s.setPhase id next).worker id = next := Function.update_self ..

theorem setPhase_ne {next : Option JobPhase} {other : String} (different : other ≠ id) :
    (s.setPhase id next).worker other = s.worker other := Function.update_of_ne different ..

theorem Orderly.writes (orderly : Orderly s) (running : s.worker id = some phase) {next : JobPhase}
    (precedes : Precedes phase next) (progress : Nat) (error : String) :
    Orderly (s.writes id next progress error now) := by
  obtain ⟨job, found, same⟩ := orderly.follows id phase running
  have holding := orderly.holds id phase running precedes.inside
  refine ⟨?_, ?_, ?_, ?_⟩
  · refine exclusive_update orderly.exclusive found fun goes => ?_
    rw [same]
    exact precedes.unfinished goes
  · intro other otherPhase otherRunning
    by_cases this : other = id
    · subst this
      obtain rfl := Option.some.inj (setPhase_self.symm.trans otherRunning)
      exact ⟨_, find?_update found, rfl⟩
    · obtain ⟨otherJob, otherFound, otherSame⟩ :=
        orderly.follows other otherPhase ((setPhase_ne this).symm.trans otherRunning)
      exact ⟨otherJob, (find?_update_ne this).trans otherFound, otherSame⟩
  · intro other otherPhase otherRunning inside
    by_cases this : other = id
    · rw [this]
      exact holding
    · exact orderly.holds other otherPhase ((setPhase_ne this).symm.trans otherRunning) inside
  · intro other locked
    obtain rfl := Option.some.inj (holding.symm.trans locked)
    exact ⟨next, setPhase_self, precedes.stays⟩

theorem Orderly.takesLock (orderly : Orderly s) (waits : s.worker id = some .waiting) (free : s.lock = none) :
    Orderly ({ s with lock := some id }.setPhase id (some .locked)) := by
  obtain ⟨job, found, same⟩ := orderly.follows id .waiting waits
  refine ⟨orderly.exclusive, ?_, ?_, ?_⟩
  · intro other otherPhase otherRunning
    by_cases this : other = id
    · subst this
      obtain rfl := Option.some.inj (setPhase_self.symm.trans otherRunning)
      exact ⟨job, found, same⟩
    · exact orderly.follows other otherPhase ((setPhase_ne this).symm.trans otherRunning)
  · intro other otherPhase otherRunning inside
    by_cases this : other = id
    · rw [this]
      rfl
    · -- nobody has been inside
      have locked := orderly.holds other otherPhase ((setPhase_ne this).symm.trans otherRunning) inside
      rw [free] at locked
      cases locked
  · intro other locked
    obtain rfl := Option.some.inj locked
    exact ⟨.locked, setPhase_self, nofun⟩

theorem Orderly.returns (orderly : Orderly s) (running : s.worker id = some phase) (inside : phase ≠ .waiting) :
    Orderly ({ s with lock := none }.setPhase id none) := by
  have holding := orderly.holds id phase running inside
  have others {other : String} {otherPhase : JobPhase}
      (running : ({ s with lock := none }.setPhase id none).worker other = some otherPhase) :
      other ≠ id ∧ s.worker other = some otherPhase := by
    by_cases this : other = id
    · rw [this, setPhase_self] at running
      cases running
    · exact ⟨this, (setPhase_ne this).symm.trans running⟩
  refine ⟨orderly.exclusive, ?_, ?_, ?_⟩
  · intro other otherPhase otherRunning
    exact orderly.follows other otherPhase (others otherRunning).2
  · intro other otherPhase otherRunning otherInside
    obtain ⟨different, ran⟩ := others otherRunning
    have locked := orderly.holds other otherPhase ran otherInside
    exact absurd (Option.some.inj (locked.symm.trans holding)) different
  · intro other locked
    exact absurd locked.symm (Option.some_ne_none other)

theorem Orderly.create (orderly : Orderly s) {board artifact : String} {user : Nat} {found : Inspection}
    (done : s.create id board artifact user now found = .ok s') : Orderly s' := by
  obtain ⟨alone, free, rfl⟩ := create_ok done
  have unknown : ∀ phase, s.worker id ≠ some phase := by
    intro phase running
    obtain ⟨job, stored, -⟩ := orderly.follows id phase running
    obtain ⟨among, rfl⟩ := Table.find?_some stored
    exact free (List.mem_map.mpr ⟨job, among, rfl⟩)
  have claims : (ProgramJob.created id board artifact user now).claim = some board := rfl
  have exclusive : Exclusive ProgramJob.claim
      (Table.insert s.jobs (ProgramJob.created id board artifact user now) free) := by
    refine orderly.exclusive.insert fun job among resource named => ?_
    rw [claims, Option.some.injEq] at named
    rw [← named]
    exact alone job among
  refine ⟨exclusive, ?_, ?_, ?_⟩
  · intro other phase running
    by_cases this : other = id
    · subst this
      obtain rfl := Option.some.inj (setPhase_self.symm.trans running)
      exact ⟨_, Table.find?_insert s.jobs (ProgramJob.created other board artifact user now) free, rfl⟩
    · obtain ⟨job, stored, same⟩ := orderly.follows other phase ((setPhase_ne this).symm.trans running)
      refine ⟨job, ?_, same⟩
      exact (Table.find?_insert_ne s.jobs free this).trans stored
  · intro other phase running inside
    by_cases this : other = id
    · subst this
      obtain rfl := Option.some.inj (setPhase_self.symm.trans running)
      exact absurd rfl inside
    · exact orderly.holds other phase ((setPhase_ne this).symm.trans running) inside
  · intro other locked
    obtain ⟨phase, running, inside⟩ := orderly.held other locked
    refine ⟨phase, (setPhase_ne ?_).trans running, inside⟩
    rintro rfl
    exact unknown phase running

theorem Orderly.workerStep (orderly : Orderly s) (running : s.worker id = some phase) {step : JobStep}
    (done : s.workerStep id now phase step = some s') : Orderly s' := by
  rcases workerStep_cases done with ⟨rfl, free, rfl⟩ | ⟨next, progress, error, precedes, rfl⟩ | ⟨inside, -, rfl⟩
  · exact orderly.takesLock running free
  · exact orderly.writes running precedes progress error
  · exact orderly.returns running inside

theorem Orderly.step (orderly : Orderly s) {event : Event} (done : s.step now event = some s') : Orderly s' := by
  cases event with
  | creates id board artifact user found => exact orderly.create (ok_of_toOption done)
  | works id step =>
      obtain ⟨phase, running, stepped⟩ := Option.bind_eq_some_iff.mp done
      exact orderly.workerStep running stepped
  | restart =>
      cases done
      exact ⟨orderly.exclusive, fun _ phase running => absurd running.symm (Option.some_ne_none phase),
        fun _ phase running => absurd running.symm (Option.some_ne_none phase),
        fun id locked => absurd locked.symm (Option.some_ne_none id)⟩

theorem Orderly.run {events : List (Nat × Event)} (orderly : Orderly s) (done : s.run events = some s') :
    Orderly s' := by
  induction events generalizing s with
  | nil =>
      cases done
      exact orderly
  | cons event later ih =>
      obtain ⟨now, event⟩ := event
      obtain ⟨mid, here, rest⟩ := Option.bind_eq_some_iff.mp done
      exact ih (orderly.step here) rest

/-! ## The queue drains -/

/-- The steps the worker of a job has left, at most. -/
def left (s : Programmer) (id : String) : Nat := ((s.worker id).map JobPhase.rank).getD 0

def remaining (s : Programmer) : Nat := ((s.jobs.rows.map ProgramJob.id).map s.left).sum

theorem left_congr {other : String} (same : s'.worker other = s.worker other) : s'.left other = s.left other := by
  rw [left, left, same]

theorem left_running (running : s.worker id = some phase) : s.left id = phase.rank := by
  rw [left, running]
  rfl

theorem remaining_lt (keys : s'.jobs.rows.map ProgramJob.id = s.jobs.rows.map ProgramJob.id)
    (others : ∀ other, other ≠ id → s'.worker other = s.worker other) (among : id ∈ s.jobs.rows.map ProgramJob.id)
    (nearer : s'.left id < s.left id) : s'.remaining < s.remaining := by
  rw [remaining, remaining, keys]
  refine List.sum_lt_sum _ _ (fun other _ => ?_) ⟨id, among, nearer⟩
  by_cases this : other = id
  · rw [this]
    exact nearer.le
  · exact (left_congr (others other this)).le

theorem Orderly.remaining_workerStep (orderly : Orderly s) (running : s.worker id = some phase) {step : JobStep}
    (done : s.workerStep id now phase step = some s') : s'.remaining < s.remaining := by
  obtain ⟨job, found, -⟩ := orderly.follows id phase running
  obtain ⟨among, rfl⟩ := Table.find?_some found
  have known : job.id ∈ s.jobs.rows.map ProgramJob.id := List.mem_map.mpr ⟨job, among, rfl⟩
  have ran := left_running running
  rcases workerStep_cases done with ⟨rfl, -, rfl⟩ | ⟨next, progress, error, precedes, rfl⟩ | ⟨inside, -, rfl⟩
  · refine remaining_lt rfl (fun other different => setPhase_ne different) known ?_
    rw [ran, left_running setPhase_self]
    decide
  · refine remaining_lt keys_update (fun other different => setPhase_ne different) known ?_
    rw [ran, Programmer.writes, left_running setPhase_self]
    exact precedes.rank
  · refine remaining_lt rfl (fun other different => setPhase_ne different) known ?_
    rw [ran, left, setPhase_self]
    cases phase <;> decide

theorem remaining_create {board artifact : String} {user : Nat} {found : Inspection}
    (done : s.create id board artifact user now found = .ok s') : s'.remaining = s.remaining + 6 := by
  obtain ⟨-, free, rfl⟩ := create_ok done
  rw [remaining, remaining]
  change ((List.map ProgramJob.id (s.jobs.rows ++ [ProgramJob.created id board artifact user now])).map _).sum = _
  rw [List.map_append, List.map_append, List.sum_append]
  refine congrArg₂ _ (congrArg _ (List.map_congr_left fun other among => left_congr (setPhase_ne ?_))) ?_
  · rintro rfl
    exact free among
  · rw [List.map_singleton, List.map_singleton, List.sum_singleton]
    exact left_running setPhase_self

def Event.creating : Event → Bool
  | .creates _ _ _ _ _ => true
  | .works _ _ | .restart => false

def Event.working : Event → Bool
  | .works _ _ => true
  | .creates _ _ _ _ _ | .restart => false

section Kinds

variable {board artifact : String} {user : Nat} {found : Inspection} {step : JobStep}

@[simp] theorem creating_creates : (Event.creates id board artifact user found).creating = true := rfl

@[simp] theorem creating_works : (Event.works id step).creating = false := rfl

@[simp] theorem working_creates : (Event.creates id board artifact user found).working = false := rfl

@[simp] theorem working_works : (Event.works id step).working = true := rfl

end Kinds

/-- Every job that is not finished has a worker. -/
def Attended (s : Programmer) : Prop := ∀ job ∈ s.jobs.rows, job.state.unfinished = true → s.worker job.id ≠ none

theorem Attended.workerStep (attended : Attended s) (orderly : Orderly s) (running : s.worker id = some phase)
    {step : JobStep} (done : s.workerStep id now phase step = some s') : Attended s' := by
  intro job among unfinished
  rcases workerStep_cases done with ⟨rfl, -, rfl⟩ | ⟨next, progress, error, -, rfl⟩ | ⟨-, finished, rfl⟩
  · by_cases this : job.id = id
    · rw [this, setPhase_self]
      exact Option.some_ne_none _
    · rw [setPhase_ne this]
      exact attended job among unfinished
  · by_cases this : job.id = id
    · rw [this, Programmer.writes, setPhase_self]
      exact Option.some_ne_none _
    · rw [Programmer.writes, setPhase_ne this]
      rcases mem_update.mp among with ⟨old, -⟩ | ⟨old, -, here, rfl⟩
      · exact attended job old unfinished
      · exact absurd here this
  · obtain ⟨row, found, same⟩ := orderly.follows id phase running
    obtain ⟨there, rfl⟩ := Table.find?_some found
    by_cases this : job.id = row.id
    · -- the job whose worker has returned is finished
      rw [s.jobs.eq_of_key among there this, same, finished] at unfinished
      cases unfinished
    · rw [setPhase_ne this]
      exact attended job among unfinished

theorem Attended.create (attended : Attended s) {board artifact : String} {user : Nat} {found : Inspection}
    (done : s.create id board artifact user now found = .ok s') : Attended s' := by
  obtain ⟨-, free, rfl⟩ := create_ok done
  intro job among unfinished
  by_cases this : job.id = id
  · rw [this, setPhase_self]
    exact Option.some_ne_none _
  · rw [setPhase_ne this]
    rcases List.mem_append.mp among with old | new
    · exact attended job old unfinished
    · rw [List.mem_singleton.mp new] at this
      exact absurd rfl this

/-- In a history without a restart the workers do at most six steps for each job, and the jobs are attended. -/
theorem Attended.run {events : List (Nat × Event)} (attended : Attended s) (orderly : Orderly s)
    (alive : ∀ event ∈ events, event.2 ≠ .restart) (done : s.run events = some s') :
    Attended s' ∧ events.countP (·.2.working) + s'.remaining ≤ 6 * events.countP (·.2.creating) + s.remaining := by
  induction events generalizing s with
  | nil =>
      cases done
      exact ⟨attended, le_refl _⟩
  | cons event later ih =>
      obtain ⟨now, event⟩ := event
      obtain ⟨mid, here, rest⟩ := Option.bind_eq_some_iff.mp done
      have after := orderly.step here
      have alive' : ∀ event ∈ later, event.2 ≠ .restart :=
        fun event among => alive event (List.mem_cons_of_mem _ among)
      rw [List.countP_cons, List.countP_cons]
      cases event with
      | creates id board artifact user found =>
          have created := ok_of_toOption here
          have grown := remaining_create created
          obtain ⟨still, bound⟩ := ih (attended.create created) after alive' rest
          refine ⟨still, ?_⟩
          simp only [working_creates, creating_creates, Bool.false_eq_true, if_false, if_true]
          omega
      | works id step =>
          obtain ⟨phase, running, stepped⟩ := Option.bind_eq_some_iff.mp here
          have shrunk := orderly.remaining_workerStep running stepped
          obtain ⟨still, bound⟩ := ih (attended.workerStep orderly running stepped) after alive' rest
          refine ⟨still, ?_⟩
          simp only [working_works, creating_works, Bool.false_eq_true, if_false, if_true]
          omega
      | restart => exact absurd rfl (alive _ List.mem_cons_self)

/-- Where no worker can go on there is none. -/
theorem Orderly.idle (orderly : Orderly s) (stuck : ∀ id step now, s.step now (.works id step) = none) :
    s.lock = none ∧ ∀ id, s.worker id = none := by
  have goes (id : String) (phase : JobPhase) (running : s.worker id = some phase) (step : JobStep) :
      s.workerStep id 0 phase step = none := by
    have none := stuck id step 0
    rw [Programmer.step, running] at none
    exact none
  have unlocked : s.lock = none := by
    cases locked : s.lock with
    | none => rfl
    | some id =>
        obtain ⟨phase, running, inside⟩ := orderly.held id locked
        obtain ⟨step, next, stepped⟩ := workerStep_inside s id 0 inside
        rw [goes id phase running step] at stepped
        cases stepped
  refine ⟨unlocked, fun id => ?_⟩
  cases running : s.worker id with
  | none => rfl
  | some phase =>
      by_cases inside : phase = .waiting
      · subst inside
        have refused := goes id .waiting running .takesLock
        rw [Programmer.workerStep, if_pos unlocked] at refused
        cases refused
      · have locked := orderly.holds id phase running inside
        rw [unlocked] at locked
        cases locked

/-! ## Abandoned jobs -/

def Abandoned (s : Programmer) (job : ProgramJob) : Prop := job ∈ s.jobs.rows ∧ s.worker job.id = none

theorem Abandoned.step {job : ProgramJob} (abandoned : Abandoned s job) {event : Event}
    (done : s.step now event = some s') : Abandoned s' job := by
  obtain ⟨among, orphan⟩ := abandoned
  cases event with
  | creates id board artifact user found =>
      obtain ⟨-, free, rfl⟩ := create_ok (ok_of_toOption done)
      refine ⟨List.mem_append_left _ among, (setPhase_ne ?_).trans orphan⟩
      rintro rfl
      exact free (List.mem_map.mpr ⟨job, among, rfl⟩)
  | works id step =>
      obtain ⟨phase, running, stepped⟩ := Option.bind_eq_some_iff.mp done
      have different : job.id ≠ id := by
        rintro rfl
        rw [orphan] at running
        cases running
      rcases workerStep_cases stepped with ⟨-, -, rfl⟩ | ⟨next, progress, error, -, rfl⟩ | ⟨-, -, rfl⟩
      · exact ⟨among, (setPhase_ne different).trans orphan⟩
      · exact ⟨mem_update.mpr (.inl ⟨among, different⟩), (setPhase_ne different).trans orphan⟩
      · exact ⟨among, (setPhase_ne different).trans orphan⟩
  | restart =>
      cases done
      exact ⟨among, rfl⟩

theorem Abandoned.run {job : ProgramJob} {events : List (Nat × Event)} (abandoned : Abandoned s job)
    (done : s.run events = some s') : Abandoned s' job := by
  induction events generalizing s with
  | nil =>
      cases done
      exact abandoned
  | cons event later ih =>
      obtain ⟨now, event⟩ := event
      obtain ⟨mid, here, rest⟩ := Option.bind_eq_some_iff.mp done
      exact ih (abandoned.step here) rest

theorem run_append (s : Programmer) (earlier later : List (Nat × Event)) :
    s.run (earlier ++ later) = (s.run earlier).bind fun mid => mid.run later := by
  induction earlier generalizing s with
  | nil => rfl
  | cons event earlier ih =>
      obtain ⟨now, event⟩ := event
      rw [List.cons_append, run, run, Option.bind_assoc]
      exact congrArg _ (funext fun mid => ih mid)

/-- The board of an unfinished job gets no other. -/
theorem Orderly.create_refused (orderly : Orderly s) {job : ProgramJob} (among : job ∈ s.jobs.rows)
    (unfinished : job.state.unfinished = true) (id artifact : String) (user now : Nat) {found : Inspection}
    (passes : found.check job.boardId = .ok ()) :
    s.create id job.boardId artifact user now found =
      .error (.management ("programming job " ++ job.id ++ " already owns board " ++ job.boardId)) := by
  have owner : s.jobs.active job.boardId = some job :=
    orderly.exclusive.find?_claim.mpr ⟨among, ProgramJob.claim_some.mpr ⟨unfinished, rfl⟩⟩
  rw [Programmer.create, passes]
  dsimp only
  rw [JobTable.create, owner]

end Programmer

open Programmer

/-- What `create` finds when nothing is wrong -/
def usable : Inspection where
  boardEnabled := some true
  targetProfile := "custom_xczu47dr"
  jtagCableSerial := "210308"
  artifactProfile := some "custom_xczu47dr"
  leased := false
  activeRun := false
  filesPresent := true
  xsct := "xsct"
  xsctPresent := true
  psuInitPresent := true
  cables := ["210308"]
  scanError := ""

def works (id : String) : List JobStep → List (Nat × Event) := List.map fun step => (0, .works id step)

/-- One board is programmed while the job of another waits for the lock. -/
def twoPrograms : List (Nat × Event) :=
  [(0, .creates "1" "b" "a" 1 usable), (0, .creates "2" "c" "a" 1 usable)] ++
    works "2" [.takesLock, .preflight, .deploys]

/-- Whatever requests, workers and restarts do: a board has one unfinished job, the row of a job says where its worker
stands, and one worker at a time is inside of the lock. -/
theorem one_program_at_a_time {s : Programmer} (events : List (Nat × Event)) (done : opened.run events = some s) :
    (∀ first ∈ s.jobs.rows, ∀ second ∈ s.jobs.rows, first.state.unfinished = true → second.state.unfinished = true →
      first.boardId = second.boardId → first = second) ∧
    ∀ id phase, s.worker id = some phase → ∃ job, s.jobs.find? id = some job ∧ job.state = phase.state ∧
      (phase ≠ .waiting → ∀ other otherPhase, s.worker other = some otherPhase → otherPhase ≠ .waiting →
        other = id) := by
  have orderly := Orderly.opened.run done
  refine ⟨?_, ?_⟩
  · intro first firstAmong second secondAmong going still same
    have claims := ProgramJob.claim_some.mpr ⟨going, same⟩
    have claimsToo := ProgramJob.claim_some.mpr ⟨still, (rfl : second.boardId = second.boardId)⟩
    exact s.jobs.eq_of_key firstAmong secondAmong
      (orderly.exclusive first firstAmong second secondAmong _ claims claimsToo)
  · intro id phase running
    obtain ⟨job, found, state⟩ := orderly.follows id phase running
    refine ⟨job, found, state, fun inside other otherPhase otherRunning otherInside => ?_⟩
    have locked := orderly.holds id phase running inside
    exact Option.some.inj ((orderly.holds other otherPhase otherRunning otherInside).symm.trans locked)

theorem twoPrograms_one_at_a_time :
    ∃ s, opened.run twoPrograms = some s ∧ s.worker "1" = some .waiting ∧
      (∀ first ∈ s.jobs.rows, ∀ second ∈ s.jobs.rows, first.state.unfinished = true →
        second.state.unfinished = true → first.boardId = second.boardId → first = second) ∧
      ∀ id phase, s.worker id = some phase → ∃ job, s.jobs.find? id = some job ∧ job.state = phase.state ∧
        (phase ≠ .waiting → ∀ other otherPhase, s.worker other = some otherPhase → otherPhase ≠ .waiting →
          other = id) := by
  have runs : (opened.run twoPrograms).any (fun s => decide (s.worker "1" = some .waiting)) = true := by decide
  obtain ⟨s, done, waits⟩ := (Option.any_eq_true _ _).mp runs
  exact ⟨s, done, of_decide_eq_true waits, one_program_at_a_time twoPrograms done⟩

/-- As long as the server is not started again the workers do six steps for each job at most, whichever of them fail,
and when none can go on all jobs are finished and the lock is free. -/
theorem programs_all_end {s : Programmer} (events : List (Nat × Event)) (alive : ∀ event ∈ events, event.2 ≠ .restart)
    (done : opened.run events = some s) :
    events.countP (·.2.working) ≤ 6 * events.countP (·.2.creating) ∧
      ((∀ id step now, s.step now (.works id step) = none) →
        s.lock = none ∧ ∀ job ∈ s.jobs.rows, job.state.unfinished = false) := by
  have nothing : Attended opened := fun job among => absurd among List.not_mem_nil
  obtain ⟨attended, bound⟩ := nothing.run Orderly.opened alive done
  have start : opened.remaining = 0 := rfl
  refine ⟨by omega, fun stuck => ?_⟩
  obtain ⟨unlocked, idle⟩ := (Orderly.opened.run done).idle stuck
  refine ⟨unlocked, fun job among => ?_⟩
  cases unfinished : job.state.unfinished with
  | false => rfl
  | true => exact absurd (idle job.id) (attended job among unfinished)

theorem twoPrograms_all_end :
    ∃ s, opened.run (twoPrograms ++ works "2" [.fails "XSCT deployment failed with exit code 1", .returns] ++
        works "1" [.takesLock, .preflight, .deploys, .succeeds, .returns]) = some s ∧
      ((∀ id step now, s.step now (.works id step) = none) →
        s.lock = none ∧ ∀ job ∈ s.jobs.rows, job.state.unfinished = false) := by
  have runs : (opened.run (twoPrograms ++ works "2" [.fails "XSCT deployment failed with exit code 1", .returns] ++
      works "1" [.takesLock, .preflight, .deploys, .succeeds, .returns])).isSome = true := by decide
  obtain ⟨s, done⟩ := Option.isSome_iff_exists.mp runs
  exact ⟨s, done, (programs_all_end _ (by decide) done).2⟩

/-- A job that is not finished when the server is started again never is, whatever happens after that, and its board
gets no other job. -/
theorem abandoned_job_blocks {mid s : Programmer} (earlier later : List (Nat × Event)) (now : Nat)
    (before : opened.run earlier = some mid) {job : ProgramJob} (among : job ∈ mid.jobs.rows)
    (unfinished : job.state.unfinished = true) (done : opened.run (earlier ++ (now, .restart) :: later) = some s) :
    job ∈ s.jobs.rows ∧ s.worker job.id = none ∧
      ∀ id artifact user time found, found.check job.boardId = .ok () →
        s.create id job.boardId artifact user time found =
          .error (.management ("programming job " ++ job.id ++ " already owns board " ++ job.boardId)) := by
  have orderly := Orderly.opened.run done
  rw [run_append, before, Option.bind_some, Programmer.run] at done
  have restarted : Abandoned { mid with worker := fun _ => none, lock := none } job := ⟨among, rfl⟩
  obtain ⟨still, orphan⟩ := restarted.run done
  exact ⟨still, orphan, fun id artifact user time found passes =>
    orderly.create_refused still unfinished id artifact user time passes⟩

/-- The server is started again while a board is programmed. -/
theorem interrupted_job_blocks :
    ∃ s, opened.run (twoPrograms ++ [(0, .restart)]) = some s ∧
      s.create "3" "c" "a" 1 1 usable = .error (.management "programming job 2 already owns board c") := by
  have runs : (opened.run (twoPrograms ++ [(0, .restart)])).isSome = true := by decide
  obtain ⟨s, done⟩ := Option.isSome_iff_exists.mp runs
  obtain ⟨mid, before, rest⟩ := Option.bind_eq_some_iff.mp ((run_append _ _ _).symm.trans done)
  have running : ProgramJob.mk "2" "c" "a" .running 15 1 0 0 "" ∈ mid.jobs.rows := by
    have there : (opened.run twoPrograms).any
        (fun s => decide (ProgramJob.mk "2" "c" "a" .running 15 1 0 0 "" ∈ s.jobs.rows)) = true := by decide
    rw [before] at there
    exact of_decide_eq_true there
  obtain ⟨-, -, refused⟩ := abandoned_job_blocks twoPrograms [] 0 before running rfl done
  exact ⟨s, done, refused "3" "a" 1 1 usable (by decide)⟩

end Xczu47dr.Webapp
