import Mathlib.Logic.Function.Basic
import Xczu47dr.Runs.RunStore

/-! # The run coordinator

A run is executed by a thread of its own, which writes the store between its
exchanges with the boards; requests of users and server restarts come in between
at any point.  Beside the state of the server the image of each board's DDR is kept.
-/

namespace Xczu47dr.Runs

open Records RunStore

/-- Where the thread of a run stands in `_execute`; `rest` are the boards still to be uploaded. -/
inductive Phase
  | queued
  | generating
  | uploading (board : String) (rest : List String)
  | begun (board : String) (rest : List String)
  | committed (board : String) (session : Nat) (rest : List String)
  | recorded (rest : List String)
  | ready
  | released
  | faulted
  deriving DecidableEq

/-- A request of a user whose check of the run's state has passed. -/
inductive Pending
  | arm (id : String)
  | start (id : String)
  deriving DecidableEq

def Pending.id : Pending → String
  | .arm id => id
  | .start id => id

structure System where
  store : RunStore
  /-- `_active_by_board` -/
  active : List (String × String)
  thread : String → Option Phase
  pending : List Pending
  /-- the run whose committed waveform is in the DDR of a board -/
  image : String → Option String

namespace System

def empty : System where
  store := Table.empty RunRecord.id
  active := []
  thread := fun _ => none
  pending := []
  image := fun _ => none

variable (s : System)

/-- `_release_group` -/
def releaseGroup (id : String) : System := { s with active := s.active.filter (·.2 ≠ id) }

/-- `active_run_for_board` -/
def activeRunForBoard (board : String) : Option String := (s.active.find? (·.1 = board)).map Prod.snd

def setPhase (id : String) (phase : Phase) : System := { s with thread := Function.update s.thread id (some phase) }

def endThread (id : String) : System := { s with thread := Function.update s.thread id none }

def setImage (board : String) (owner : Option String) : System :=
  { s with image := Function.update s.image board owner }

section Fields

variable {s} {id other board : String} {phase : Phase} {owner : Option String}

@[simp] theorem setPhase_self : (s.setPhase id phase).thread id = some phase := Function.update_self ..

theorem setPhase_ne (different : other ≠ id) : (s.setPhase id phase).thread other = s.thread other :=
  Function.update_of_ne different ..

@[simp] theorem endThread_self : (s.endThread id).thread id = none := Function.update_self ..

theorem endThread_ne (different : other ≠ id) : (s.endThread id).thread other = s.thread other :=
  Function.update_of_ne different ..

@[simp] theorem setImage_self : (s.setImage board owner).image board = owner := Function.update_self ..

theorem setImage_ne (different : other ≠ board) : (s.setImage board owner).image other = s.image other :=
  Function.update_of_ne different ..

end Fields

def Executing (id : String) : Prop := s.thread id ≠ none

instance (id : String) : Decidable (s.Executing id) := inferInstanceAs (Decidable (_ ≠ _))

/-! ## Requests -/

/-- `create`: the boards are taken before the run is stored. -/
def create (id : String) (request : RunCreateRequest) (now : Nat) : Option System :=
  if request.boardIds.any fun board => (s.activeRunForBoard board).isSome then none
  else
    match s.store.create id now request with
    | none => some (s.releaseGroup id)
    | some store =>
        let active := s.active ++ request.boardIds.map fun board => (board, id)
        some ({ s with store, active }.setPhase id .queued)

/-- `_fault`, from the thread or from a request -/
def fault (id error : String) (now : Nat) : System :=
  { s with store := s.store.update id now .fault error }.releaseGroup id

/-- `abort`: the boards are muted, and what failed of that is the error. -/
def abort (id error : String) (now : Nat) : Option System :=
  if (s.store.find? id).isNone then none
  else some ({ s with store := s.store.update id now .aborted error }.releaseGroup id)

/-- The check `arm` and `start` begin with. -/
def asks (request : Pending) : Option System :=
  match request with
  | .arm id =>
      match s.store.find? id with
      | some record => if record.state = .ready then some { s with pending := .arm id :: s.pending } else none
      | none => none
  | .start id =>
      match s.store.find? id with
      | some record => if record.state = .armed then some { s with pending := .start id :: s.pending } else none
      | none => none

/-- The end of `arm` and `start`, the boards having accepted or not. -/
def answers (request : Pending) (outcome : Except String Unit) (now : Nat) : Option System :=
  if request ∈ s.pending then
    let rest := { s with pending := s.pending.erase request }
    match request, outcome with
    | .arm id, .ok () => some { rest with store := s.store.update id now .armed "" }
    | .start id, .ok () => some { rest with store := s.store.update id now .running "" }
    | .arm id, .error error => some (rest.fault id error now)
    | .start id, .error error => some (rest.fault id error now)
  else none

/-- The server is started again: its threads and requests are gone. -/
def restart (now : Nat) : System :=
  { s with
    store := s.store.opened.recoverOrphaned now []
    active := []
    thread := fun _ => none
    pending := [] }

/-! ## The thread -/

inductive ThreadStep
  | generate
  | upload
  | begins
  | commits (session : Nat)
  | records
  | ready
  | runsOn
  | release
  | completes
  | fails (error : String)

/-- `_execute`, one write at a time -/
def threadStep (id : String) (now : Nat) (record : RunRecord) (phase : Phase) : ThreadStep → Option System
  | .generate =>
      match phase with
      | .queued => some ({ s with store := s.store.update id now .generating "" }.setPhase id .generating)
      | _ => none
  | .upload =>
      let next (rest : List String) : Option System :=
        match rest with
        | [] => none
        | board :: rest =>
            -- a dry run transmits nothing and has nothing to record
            if record.dryRun then some (s.setPhase id (.recorded rest))
            else some ({ s with store := s.store.update id now .uploading "" }.setPhase id (.uploading board rest))
      match phase with
      | .generating => next record.boardIds
      | .recorded rest => next rest
      | _ => none
  | .begins =>
      match phase with
      | .uploading board rest => some ((s.setImage board none).setPhase id (.begun board rest))
      | _ => none
  | .commits session =>
      match phase with
      | .begun board rest => some ((s.setImage board (some id)).setPhase id (.committed board session rest))
      | _ => none
  | .records =>
      match phase with
      | .committed board session rest =>
          if session % 2 ^ 32 = 0 ∨ (record.session board).any (· ≠ session % 2 ^ 32) then none
          else
            let sessions := record.withSession board (session % 2 ^ 32)
            some ({ s with store := s.store.setWaveformSessions id now sessions }.setPhase id (.recorded rest))
      | _ => none
  | .ready =>
      match phase with
      | .recorded [] =>
          if record.dryRun ∨ record.request.completionMode = .upload then none
          else some ({ s with store := s.store.completeLoaded id now .ready }.setPhase id .ready)
      | _ => none
  | .runsOn =>
      match phase with
      | .ready =>
          if record.request.playbackMode = .continuousSine ∧ record.request.oneShotDurationMs = 0 then
            some ({ s with store := s.store.update id now .running "" }.endThread id)
          else none
      | _ => none
  | .release =>
      match phase with
      | .recorded [] =>
          if record.dryRun ∨ record.request.completionMode = .upload then
            some ((s.releaseGroup id).setPhase id .released)
          else none
      | .ready =>
          if record.request.playbackMode = .continuousSine ∧ record.request.oneShotDurationMs = 0 then none
          else some ((s.releaseGroup id).setPhase id .released)
      | .faulted => some ((s.releaseGroup id).endThread id)
      | _ => none
  | .completes =>
      match phase with
      | .released =>
          if record.dryRun then some ({ s with store := s.store.completeUnloaded id now }.endThread id)
          else
            match record.request.completionMode with
            | .oneShot => some ({ s with store := s.store.finishOneShot id now }.endThread id)
            | .upload => some ({ s with store := s.store.completeLoaded id now .done }.endThread id)
      | _ => none
  | .fails error =>
      match phase with
      | .released | .faulted => none
      | _ => some ({ s with store := s.store.update id now .fault error }.setPhase id .faulted)

inductive Event
  | create (id : String) (request : RunCreateRequest)
  | thread (id : String) (step : ThreadStep)
  | asks (request : Pending)
  | answers (request : Pending) (outcome : Except String Unit)
  | abort (id error : String)
  | restart
  /-- an upload to the board that is no run's -/
  | overwritten (board : String)

def step (now : Nat) : Event → Option System
  | .create id request => s.create id request now
  | .thread id step =>
      match s.thread id, s.store.find? id with
      | some phase, some record => s.threadStep id now record phase step
      | _, _ => none
  | .asks request => s.asks request
  | .answers request outcome => s.answers request outcome now
  | .abort id error => s.abort id error now
  | .restart => some (s.restart now)
  | .overwritten board => some (s.setImage board none)

/-- A history of events, each at its time; it breaks off at one that cannot happen. -/
def run (s : System) : List (Nat × Event) → Option System
  | [] => some s
  | (now, event) :: later => (s.step now event).bind fun mid => mid.run later

/-! ## The loaded waveform -/

/-- `loaded_run_for_board` -/
def loadedRunForBoard (board : String) : Option RunRecord :=
  (s.store.list.filter fun record =>
    !record.dryRun && record.loaded && decide (record.state = .done) && decide (board ∈ record.boardIds)).head?

/-- `_require_loaded` -/
def requireLoaded (id : String) : Except String RunRecord :=
  match s.store.find? id with
  | none => .error id
  | some record =>
      if record.dryRun ∨ record.state ≠ .done ∨ record.loaded = false then
        .error ("run " ++ id ++ " has no completed waveform loaded on the board")
      else .ok record

end System

/-- `_waveform_session` -/
def waveformSession (record : RunRecord) (board : String) : Except String Nat :=
  if board ∉ record.boardIds then .error (board ++ ": board is not part of run " ++ record.id)
  else
    match record.session board with
    | none => .error (board ++ ": waveform session is missing for run " ++ record.id)
    | some session =>
        if session % 2 ^ 32 = 0 then .error (board ++ ": waveform session is zero for run " ++ record.id)
        else .ok (session % 2 ^ 32)

namespace System

variable (s : System)

/-- The command goes to the boards one after the other, until one refuses it. -/
def commandBoards (record : RunRecord) (accepts : String → Nat → Except String Unit) :
    List String → Except String Unit
  | [] => .ok ()
  | board :: rest =>
      match waveformSession record board with
      | .error reason => .error reason
      | .ok session =>
          match accepts board session with
          | .error reason => .error reason
          | .ok () => commandBoards record accepts rest

/-- `arm_loaded`; `arms` is what `BoardGateway.arm` answers. -/
def armLoaded (id : String) (arms : String → Nat → Except String Unit) : Except String RunRecord :=
  match s.requireLoaded id with
  | .error reason => .error reason
  | .ok record =>
      match commandBoards record arms record.boardIds with
      | .error reason => .error reason
      | .ok () => .ok record

/-- `_trigger_board_ids`; `isMaster` reads the target profile of a board. -/
def triggerBoardIds (isMaster : String → Bool) (record : RunRecord) : Except String (List String) :=
  match record.request.executionMode with
  | .single => .ok record.boardIds
  | .synchronized =>
      match record.boardIds.find? isMaster with
      | some board => .ok [board]
      | none => .error "synchronized run requires one master board (custom_xczu47dr or custom_xczu47dr_master)"

/-- `trigger_loaded`; `plays` is what `BoardGateway.manual_trigger` answers. -/
def triggerLoaded (isMaster : String → Bool) (id : String) (plays : String → Nat → Except String Unit) :
    Except String RunRecord :=
  match s.requireLoaded id with
  | .error reason => .error reason
  | .ok record =>
      match triggerBoardIds isMaster record with
      | .error reason => .error reason
      | .ok boards =>
          match commandBoards record plays boards with
          | .error reason => .error reason
          | .ok () => .ok record

end System

end Xczu47dr.Runs
