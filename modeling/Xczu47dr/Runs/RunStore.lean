import Xczu47dr.Records.Table

/-! # The store of runs

`RunStore`: one row a run, written by updates of a row that is named by its run.
-/

namespace Xczu47dr.Runs

open Records

inductive RunState
  | queued
  | generating
  | uploading
  | ready
  | armed
  | running
  | done
  | fault
  | aborted
  deriving DecidableEq

inductive ExecutionMode
  | single
  | synchronized
  deriving DecidableEq

inductive CompletionMode
  | upload
  | oneShot
  deriving DecidableEq

inductive PlaybackMode
  | single
  | continuousSine
  deriving DecidableEq

/-- A request its validators have let pass. -/
structure RunCreateRequest where
  boardIds : List String
  dryRun : Bool
  executionMode : ExecutionMode
  completionMode : CompletionMode
  playbackMode : PlaybackMode
  oneShotDurationMs : Nat
  once : boardIds.Nodup
  boards : boardIds.length = match executionMode with
    | .single => 1
    | .synchronized => 2
  deriving DecidableEq

structure RunRecord where
  id : String
  state : RunState
  request : RunCreateRequest
  createdAt : Nat
  updatedAt : Nat
  error : String
  loaded : Bool
  waveformSessions : List (String × Nat)
  deriving DecidableEq

namespace RunRecord

variable (record : RunRecord)

def boardIds : List String := record.request.boardIds

def dryRun : Bool := record.request.dryRun

/-- The session COMMIT has returned for the board. -/
def session (board : String) : Option Nat := (record.waveformSessions.find? (·.1 = board)).map Prod.snd

/-- `sessions[board_id] = session` -/
def withSession (board : String) (session : Nat) : List (String × Nat) :=
  (board, session) :: record.waveformSessions.filter (·.1 ≠ board)

end RunRecord

/-- The `runs` table. -/
abbrev RunStore := Table RunRecord.id

namespace RunStore

variable (store : RunStore) (id : String) (now : Nat)

/-- The row of a run that has just been created. -/
def created (request : RunCreateRequest) : RunRecord :=
  { id, state := .queued, request, createdAt := now, updatedAt := now, error := "", loaded := false,
    waveformSessions := [] }

/-- `create`, which the key constraint may refuse -/
def create (request : RunCreateRequest) : Option RunStore :=
  if free : id ∉ store.rows.map RunRecord.id then some (store.insert (created id now request) free) else none

def update (state : RunState) (error : String) : RunStore :=
  store.amend id (fun record => { record with state, error, updatedAt := now }) fun _ => rfl

def setWaveformSessions (sessions : List (String × Nat)) : RunStore :=
  store.amend id (fun record => { record with waveformSessions := sessions, updatedAt := now }) fun _ => rfl

def completeLoaded (state : RunState) : RunStore :=
  store.amend id (fun record => { record with loaded := true, state, updatedAt := now }) fun _ => rfl

def completeUnloaded : RunStore :=
  store.amend id (fun record => { record with loaded := false, state := .done, updatedAt := now }) fun _ => rfl

def finishOneShot : RunStore :=
  store.amend id (fun record => { record with loaded := false, state := .done, updatedAt := now }) fun _ => rfl

/-- The states `recover_orphaned` takes for those of a run in progress. -/
def inProgress : RunState → Bool
  | .queued | .generating | .uploading | .ready | .armed | .running => true
  | .done | .fault | .aborted => false

def orphanError : String := "server restart recovered an orphaned run"

def recoverOrphaned (activeIds : List String) : RunStore :=
  store.rewrite
    (fun record =>
      if inProgress record.state ∧ record.id ∉ activeIds then
        { record with state := .aborted, error := orphanError, updatedAt := now }
      else record)
    fun record => by split <;> rfl

/-- The repair `_initialize` makes: dry runs are not loaded. -/
def opened : RunStore :=
  store.rewrite (fun record => if record.dryRun then { record with loaded := false } else record)
    fun record => by split <;> rfl

/-- `ORDER BY created_at DESC` -/
def newestFirst (first second : RunRecord) : Prop := second.createdAt ≤ first.createdAt

instance : DecidableRel newestFirst := fun _ _ => inferInstanceAs (Decidable (_ ≤ _))

/-- `list`, with its default limit -/
def list : List RunRecord := (store.select (fun _ => true) newestFirst).take 50

variable {store}

theorem find?_create {store after : RunStore} {id : String} {now : Nat} {request : RunCreateRequest}
    (done : store.create id now request = some after) (row : String) :
    after.find? row = if row = id then some (created id now request) else store.find? row := by
  unfold create at done
  split at done
  · rename_i free
    cases done
    by_cases same : row = id
    · rw [if_pos same, same]
      exact Table.find?_insert store (created id now request) free
    · rw [if_neg same]
      exact Table.find?_insert_ne store free same
  · cases done

theorem find?_of_create {store after : RunStore} {id : String} {now : Nat} {request : RunCreateRequest}
    (done : store.create id now request = some after) : store.find? id = none := by
  unfold create at done
  split at done
  · rename_i free
    refine List.find?_eq_none.mpr fun record mem => ?_
    have other : record.id ≠ id := fun same => free (List.mem_map.mpr ⟨record, mem, same⟩)
    simpa using other
  · cases done

theorem mem_rows_of_mem_list {record : RunRecord} (mem : record ∈ store.list) : record ∈ store.rows :=
  (Table.mem_select.mp (List.mem_of_mem_take mem)).1

end RunStore

end Xczu47dr.Runs
