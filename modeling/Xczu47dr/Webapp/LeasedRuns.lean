import Xczu47dr.Webapp.Leases
import Xczu47dr.Runs.BoardDrivers

/-! # Runs under leases

`POST /api/runs` asks for the leases of the boards one after the other and creates the run after
that, while other requests take and give back leases.  `release_board` does not look at the runs;
as long as no lease is given back from under a request or a run, a worker has the boards of its
run under leases of the user who has asked for it.
-/

namespace Xczu47dr.Webapp

open Runs

/-- A request of `create_run`, with the boards whose lease is still to be checked. -/
structure Creating where
  user : Nat
  request : RunCreateRequest
  unchecked : List String
  deriving DecidableEq

/-- The lease of the board has been checked. -/
def Creating.Checked (creating : Creating) (board : String) : Prop :=
  creating.request.dryRun = false ∧ board ∈ creating.request.boardIds ∧ board ∉ creating.unchecked

instance (creating : Creating) (board : String) : Decidable (creating.Checked board) :=
  inferInstanceAs (Decidable (_ ∧ _))

structure Server where
  system : System
  leases : LeaseStore
  /-- the user whose request has created the run -/
  creator : String → Option Nat
  creating : List Creating

namespace Server

inductive Event
  /-- a board is registered, enabled or disabled -/
  | board (board : String) (enabled : Bool)
  | lease (board : String) (user : Nat)
  | release (board : String) (actor : Nat) (force : Bool)
  | asks (user : Nat) (request : RunCreateRequest)
  | checks (creating : Creating)
  | creates (creating : Creating) (id : String)
  /-- the request has failed -/
  | drops (creating : Creating)
  /-- any event of the runs, but that they are created and that the server is started again -/
  | runs (event : System.Event)
  | restart

/-- The server with these leases, and no run yet. -/
def started (leases : LeaseStore) : Server where
  system := System.empty
  leases := leases
  creator := fun _ => none
  creating := []

variable (s : Server)

def asks (user : Nat) (request : RunCreateRequest) : Server :=
  { s with creating := ⟨user, request, if request.dryRun then [] else request.boardIds⟩ :: s.creating }

def drops (creating : Creating) : Server := { s with creating := s.creating.erase creating }

/-- `require_lease` of the next board -/
def checks (creating : Creating) : Option Server :=
  if creating ∈ s.creating then
    match creating.unchecked with
    | [] => none
    | board :: rest =>
      match s.leases.requireLease board creating.user with
      | .error _ => some (s.drops creating)
      | .ok () => some { s with creating := { creating with unchecked := rest } :: s.creating.erase creating }
  else none

/-- `set_run_owner`, where a run has been created -/
def creatorAfter (user : Nat) (id : String) : String → Option Nat :=
  if s.system.store.find? id = none then Function.update s.creator id (some user) else s.creator

/-- `RunCoordinator.create` -/
def creates (creating : Creating) (id : String) (now : Nat) : Option Server :=
  if creating ∈ s.creating ∧ creating.unchecked = [] then
    match s.system.create id creating.request now with
    | none => some (s.drops creating)
    | some system => some { s.drops creating with system, creator := s.creatorAfter creating.user id }
  else none

def runs (event : System.Event) (now : Nat) : Option Server :=
  match event with
  | .create _ _ | .restart => none
  | event => (s.system.step now event).map fun system => { s with system }

def step (now : Nat) : Event → Option Server
  | .board board enabled => some { s with leases := s.leases.setEnabled board enabled }
  | .lease board user => (s.leases.leaseBoard board now user).toOption.map fun leases => { s with leases }
  | .release board actor force =>
    (s.leases.releaseBoard board now actor force).toOption.map fun leases => { s with leases }
  | .asks user request => some (s.asks user request)
  | .checks creating => s.checks creating
  | .creates creating id => s.creates creating id now
  | .drops creating => some (s.drops creating)
  | .runs event => s.runs event now
  | .restart => some { s with system := s.system.restart now, creating := [] }

/-- A history of events, each at its time; it breaks off at one that is refused. -/
def run (s : Server) : List (Nat × Event) → Option Server
  | [] => some s
  | (now, event) :: later => (s.step now event).bind fun mid => mid.run later

/-! ## What the leases are there for -/

def Leased (board : String) (user : Nat) : Prop := s.leases.requireLease board user = .ok ()

/-- The worker of the run, which is not a dry one, drives this board. -/
def Driven (id : String) (board : String) : Prop :=
  ∃ record ∈ s.system.store.find? id, record.dryRun = false ∧ board ∈ record.boardIds ∧
    ∃ phase ∈ s.system.thread id, phase.Drives

instance (id board : String) : Decidable (s.Driven id board) := inferInstanceAs (Decidable (∃ _ ∈ _, _))

/-- Every driven board, and every board that a request has checked, is leased by whoever asked. -/
structure Covered : Prop where
  creating : ∀ creating ∈ s.creating, ∀ board, creating.Checked board → s.Leased board creating.user
  driven : ∀ id board, s.Driven id board → ∃ user, s.creator id = some user ∧ s.Leased board user

def InUse (board : String) : Prop :=
  (∃ creating ∈ s.creating, creating.Checked board) ∨ ∃ record ∈ s.system.store.rows, s.Driven record.id board

instance (board : String) : Decidable (s.InUse board) := inferInstanceAs (Decidable (_ ∨ _))

/-- What `release_board` does not check. -/
def Kept : Event → Prop
  | .release board _ _ => ¬ s.InUse board
  | .board _ _ | .lease _ _ | .asks _ _ | .checks _ | .creates _ _ | .drops _ | .runs _ | .restart => True

instance : (event : Event) → Decidable (s.Kept event)
  | .release _ _ _ => inferInstanceAs (Decidable (¬ _))
  | .board _ _ | .lease _ _ | .asks _ _ | .checks _ | .creates _ _ | .drops _ | .runs _ | .restart =>
    .isTrue trivial

def KeptRun (s : Server) : List (Nat × Event) → Prop
  | [] => True
  | (now, event) :: later => s.Kept event ∧ ∀ mid ∈ s.step now event, KeptRun mid later

instance decidableKeptRun (s : Server) : (events : List (Nat × Event)) → Decidable (s.KeptRun events)
  | [] => .isTrue trivial
  | (now, event) :: later =>
      have (mid : Server) : Decidable (mid.KeptRun later) := decidableKeptRun mid later
      inferInstanceAs (Decidable (s.Kept event ∧ ∀ mid ∈ s.step now event, mid.KeptRun later))

variable {s} {s' : Server} {board : String} {user : Nat} {now : Nat}

theorem inUse_of_driven {id : String} (driven : s.Driven id board) : s.InUse board := by
  obtain ⟨record, found, rest⟩ := driven
  obtain ⟨among, rfl⟩ := Records.Table.find?_some found
  exact .inr ⟨record, among, record, found, rest⟩

/-- A board has one lease, so one user. -/
theorem Leased.unique {other : Nat} (leased : s.Leased board user) (again : s.Leased board other) : user = other := by
  obtain ⟨lease, found, rfl⟩ := LeaseStore.requireLease_ok.mp leased
  obtain ⟨same, stored, rfl⟩ := LeaseStore.requireLease_ok.mp again
  rw [Option.some.inj (found.symm.trans stored)]

/-- The lease is still there when the one of the board is. -/
theorem Leased.congr (same : s'.leases.activeLease board = s.leases.activeLease board)
    (leased : s.Leased board user) : s'.Leased board user := by
  obtain ⟨lease, found, his⟩ := LeaseStore.requireLease_ok.mp leased
  exact LeaseStore.requireLease_ok.mpr ⟨lease, same.trans found, his⟩

/-! ## One event -/

/-- The leases of the boards in use stay, and nothing new comes into use. -/
theorem Covered.keeps (covered : s.Covered)
    (leases : ∀ board, s.InUse board → s'.leases.activeLease board = s.leases.activeLease board)
    (creating : ∀ creating ∈ s'.creating, creating ∈ s.creating)
    (driven : ∀ id board, s'.Driven id board → s.Driven id board ∧ s'.creator id = s.creator id) : s'.Covered where
  creating creating' among board checked := by
    have before := creating creating' among
    exact (covered.creating creating' before board checked).congr (leases board (.inl ⟨creating', before, checked⟩))
  driven id board drives := by
    obtain ⟨before, same⟩ := driven id board drives
    obtain ⟨user, asked, leased⟩ := covered.driven id board before
    exact ⟨user, same.trans asked, leased.congr (leases board (inUse_of_driven before))⟩

theorem Covered.lease (covered : s.Covered) {leases : LeaseStore}
    (leased : s.leases.leaseBoard board now user = .ok leases) : Covered { s with leases } := by
  obtain ⟨free, -, others⟩ := LeaseStore.leaseBoard_ok leased
  refine covered.keeps (fun other used => ?_) (fun _ among => among) fun _ _ drives => ⟨drives, rfl⟩
  refine others other ?_
  rintro rfl
  -- a board in use has a lease
  have held : ∃ user, s.Leased other user := by
    rcases used with ⟨creating, among, checked⟩ | ⟨record, -, drives⟩
    · exact ⟨creating.user, covered.creating creating among other checked⟩
    · obtain ⟨user, -, leased⟩ := covered.driven record.id other drives
      exact ⟨user, leased⟩
  obtain ⟨owner, his⟩ := held
  obtain ⟨lease, found, -⟩ := LeaseStore.requireLease_ok.mp his
  rw [free] at found
  cases found

theorem Covered.release (covered : s.Covered) {leases : LeaseStore} {actor : Nat} {force : Bool}
    (kept : ¬ s.InUse board) (released : s.leases.releaseBoard board now actor force = .ok leases) :
    Covered { s with leases } := by
  obtain ⟨-, -, others⟩ := LeaseStore.releaseBoard_ok released
  refine covered.keeps (fun other used => others other ?_) (fun _ among => among) fun _ _ drives => ⟨drives, rfl⟩
  rintro rfl
  exact kept used

theorem Covered.drops (covered : s.Covered) (creating : Creating) : (s.drops creating).Covered :=
  covered.keeps (fun _ _ => rfl) (fun _ among => List.mem_of_mem_erase among) fun _ _ drives => ⟨drives, rfl⟩

theorem Covered.asks (covered : s.Covered) (user : Nat) (request : RunCreateRequest) :
    (s.asks user request).Covered where
  creating creating among board checked := by
    rcases List.mem_cons.mp among with rfl | before
    · obtain ⟨real, named, absent⟩ := checked
      change request.dryRun = false at real
      rw [real] at absent
      exact absurd named absent
    · exact covered.creating creating before board checked
  driven := covered.driven

theorem Covered.checks (covered : s.Covered) {creating : Creating} (done : s.checks creating = some s') :
    s'.Covered := by
  rw [Server.checks] at done
  split_ifs at done with there
  cases left : creating.unchecked with
  | nil =>
      rw [left] at done
      cases done
  | cons board rest =>
      rw [left] at done
      dsimp only at done
      cases required : s.leases.requireLease board creating.user with
      | error reason =>
          rw [required] at done
          cases done
          exact covered.drops creating
      | ok granted =>
          rw [required] at done
          cases done
          refine ⟨fun other among named checked => ?_, covered.driven⟩
          rcases List.mem_cons.mp among with rfl | before
          · obtain ⟨real, listed, absent⟩ := checked
            by_cases this : named = board
            · subst this
              exact required
            · refine covered.creating creating there named ⟨real, listed, ?_⟩
              rw [left, List.mem_cons, not_or]
              exact ⟨this, absent⟩
          · exact covered.creating other (List.mem_of_mem_erase before) named checked

/-- Beside a run that has just been created nobody drives its boards anew. -/
theorem created_driven {system : System} {id : String} {request : RunCreateRequest}
    (created : s.system.create id request now = some system) {creator : String → Option Nat}
    {creating : List Creating} {run : String} (drives : Driven ⟨system, s.leases, creator, creating⟩ run board) :
    s.Driven run board ∨
      run = id ∧ s.system.store.find? id = none ∧ request.dryRun = false ∧ board ∈ request.boardIds := by
  obtain ⟨record, found, real, among, phase, running, still⟩ := drives
  rcases System.create_cases created with ⟨rfl, -⟩ | ⟨fresh, -, rows, thread⟩
  · exact .inl ⟨record, found, real, among, phase, running, still⟩
  · change system.store.find? run = some record at found
    rw [rows] at found
    by_cases this : run = id
    · rw [if_pos this] at found
      obtain rfl := Option.some.inj found
      exact .inr ⟨this, fresh, real, among⟩
    · rw [if_neg this] at found
      exact .inl ⟨record, found, real, among, phase, (thread run this).symm.trans running, still⟩

theorem Covered.creates (covered : s.Covered) {creating : Creating} {id : String}
    (done : s.creates creating id now = some s') : s'.Covered := by
  rw [Server.creates] at done
  split_ifs at done with asked
  obtain ⟨there, checked⟩ := asked
  cases created : s.system.create id creating.request now with
  | none =>
      rw [created] at done
      cases done
      exact covered.drops creating
  | some system =>
      rw [created] at done
      cases done
      refine ⟨(covered.drops creating).creating, fun run board drives => ?_⟩
      rcases created_driven created drives with before | ⟨rfl, fresh, real, among⟩
      · obtain ⟨user, owns, leased⟩ := covered.driven run board before
        refine ⟨user, ?_, leased⟩
        change s.creatorAfter creating.user id run = some user
        rw [creatorAfter]
        split_ifs with fresh
        · -- the row of the new run was not there
          refine (Function.update_of_ne ?_ ..).trans owns
          rintro rfl
          obtain ⟨record, found, -⟩ := before
          change s.system.store.find? run = some record at found
          rw [fresh] at found
          cases found
        · exact owns
      · refine ⟨creating.user, ?_, covered.creating creating there board ⟨real, among, ?_⟩⟩
        · change s.creatorAfter creating.user run run = some creating.user
          rw [creatorAfter, if_pos fresh, Function.update_self]
        · rw [checked]
          exact List.not_mem_nil

theorem driven_of_runStep {system : System} {id : String} (own : RunStep s.system system id) {run : String}
    (drives : Driven { s with system } run board) : s.Driven run board := by
  obtain ⟨record, found, real, among, phase, running, still⟩ := drives
  by_cases this : run = id
  · subst this
    obtain ⟨before, stored, same⟩ := own.request record found
    obtain ⟨earlier, ran, drove⟩ := own.running phase running
    rw [RunRecord.dryRun, ← same] at real
    rw [RunRecord.boardIds, ← same] at among
    exact ⟨before, stored, real, among, earlier, ran, drove still⟩
  · obtain ⟨thread, rows⟩ := own.others run this
    exact ⟨record, rows.symm.trans found, real, among, phase, thread.symm.trans running, still⟩

theorem Covered.runs (covered : s.Covered) {event : System.Event} (done : s.runs event now = some s') :
    s'.Covered := by
  have moved (creates : ∀ id request, event ≠ .create id request) (restarts : event ≠ .restart)
      (done : (s.system.step now event).map (fun system => { s with system }) = some s') : s'.Covered := by
    obtain ⟨system, stepped, rfl⟩ := Option.map_eq_some_iff.mp done
    obtain ⟨id, own⟩ := runStep_step creates restarts stepped
    exact covered.keeps (fun _ _ => rfl) (fun _ among => among) fun run board drives =>
      ⟨driven_of_runStep own drives, rfl⟩
  cases event with
  | create id request => cases done
  | restart => cases done
  | _ => exact moved (fun _ _ same => by cases same) (fun same => by cases same) done

/-- The threads and the requests are gone. -/
theorem Covered.restart (s : Server) (now : Nat) :
    Covered { s with system := s.system.restart now, creating := [] } where
  creating _ among := absurd among List.not_mem_nil
  driven id board drives := by
    obtain ⟨record, -, -, -, phase, running, -⟩ := drives
    exact absurd running.symm (Option.some_ne_none phase)

theorem Covered.started (leases : LeaseStore) : (started leases).Covered where
  creating _ among := absurd among List.not_mem_nil
  driven id board drives := by
    obtain ⟨record, -, -, -, phase, running, -⟩ := drives
    exact absurd running.symm (Option.some_ne_none phase)

/-! ## Histories -/

theorem Covered.step (covered : s.Covered) {event : Event} (kept : s.Kept event) (done : s.step now event = some s') :
    s'.Covered := by
  cases event with
  | board board enabled =>
      cases done
      exact covered.keeps (fun _ _ => rfl) (fun _ among => among) fun _ _ drives => ⟨drives, rfl⟩
  | lease board user =>
      obtain ⟨leases, leased, rfl⟩ := Option.map_eq_some_iff.mp done
      exact covered.lease (ok_of_toOption leased)
  | release board actor force =>
      obtain ⟨leases, released, rfl⟩ := Option.map_eq_some_iff.mp done
      exact covered.release kept (ok_of_toOption released)
  | asks user request =>
      cases done
      exact covered.asks user request
  | checks creating => exact covered.checks done
  | creates creating id => exact covered.creates done
  | drops creating =>
      cases done
      exact covered.drops creating
  | runs event => exact covered.runs done
  | restart =>
      cases done
      exact Covered.restart s now

theorem Covered.run {events : List (Nat × Event)} (covered : s.Covered) (kept : s.KeptRun events)
    (done : s.run events = some s') : s'.Covered := by
  induction events generalizing s with
  | nil =>
      cases done
      exact covered
  | cons event later ih =>
      obtain ⟨now, event⟩ := event
      obtain ⟨mid, here, rest⟩ := Option.bind_eq_some_iff.mp done
      exact ih (covered.step kept.1 here) (kept.2 mid here) rest

end Server

/-- In every history in which no lease is given back from under a request that has checked it or a run that drives
its board, a worker drives the boards of a run under leases of the user who has asked for the run; no two users have
workers at one board, not even after a run has been aborted under its worker. -/
theorem drivers_hold_leases {leases : LeaseStore} {s : Server} (events : List (Nat × Server.Event))
    (kept : (Server.started leases).KeptRun events) (done : (Server.started leases).run events = some s)
    (id board : String) (driven : s.Driven id board) :
    ∃ user, s.creator id = some user ∧ s.leases.requireLease board user = .ok () ∧
      ∀ other, s.Driven other board → s.creator other = some user := by
  have covered := (Server.Covered.started leases).run kept done
  obtain ⟨user, asked, leased⟩ := covered.driven id board driven
  refine ⟨user, asked, leased, fun other drives => ?_⟩
  obtain ⟨rival, his, leasedToo⟩ := covered.driven other board drives
  rw [his, leasedToo.unique leased]

/-- No board is registered, and nobody has one. -/
def noLeases : LeaseStore where
  enabled := fun _ => none
  leases := Records.Table.empty LeaseRecord.id
  nextId := 0
  numbered _ among := absurd among List.not_mem_nil
  exclusive := Records.Exclusive.empty

/-- The requests of a user for a run of the board, the last one creating it. -/
def asksFor (user : Nat) (id : String) : List (Nat × Server.Event) :=
  [(0, .asks user (onlyBoard .upload)), (0, .checks ⟨user, onlyBoard .upload, ["b"]⟩),
    (0, .creates ⟨user, onlyBoard .upload, []⟩ id)]

def executes (id : String) : List System.ThreadStep → List (Nat × Server.Event) :=
  List.map fun step => (0, .runs (.thread id step))

/-- User 2 has given the board back. The first run of user 1 is aborted while it uploads, and user 1 starts another
one, which user 2 may not. -/
def twiceStarted : List (Nat × Server.Event) :=
  [(0, .board "b" true), (0, .lease "b" 2), (0, .release "b" 2 false), (0, .lease "b" 1)] ++ asksFor 1 "1" ++
    executes "1" [.generate, .upload, .begins] ++ [(0, .runs (.abort "1" ""))] ++
      [(0, .asks 2 (onlyBoard .upload)), (0, .checks ⟨2, onlyBoard .upload, ["b"]⟩)] ++ asksFor 1 "2" ++
        executes "2" [.generate, .upload]

theorem twiceStarted_holds_lease :
    ∃ s, (Server.started noLeases).run twiceStarted = some s ∧ s.creating = [] ∧
      s.Driven "1" "b" ∧ s.Driven "2" "b" ∧
      ∃ user, s.creator "1" = some user ∧ s.leases.requireLease "b" user = .ok () ∧
        ∀ other, s.Driven other "b" → s.creator other = some user := by
  have runs : ((Server.started noLeases).run twiceStarted).any
      (fun s => decide (s.creating = [] ∧ s.Driven "1" "b" ∧ s.Driven "2" "b")) = true := by decide
  obtain ⟨s, done, reached⟩ := (Option.any_eq_true _ _).mp runs
  obtain ⟨idle, first, second⟩ := of_decide_eq_true reached
  exact ⟨s, done, idle, first, second, drivers_hold_leases twiceStarted (by decide) done "1" "b" first⟩

end Xczu47dr.Webapp
