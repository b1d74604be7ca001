import Xczu47dr.Runs.LoadedWaveform

/-! # One driver for each board

As long as nobody takes a board away from under a worker, which is what aborting a run in
progress and a failing request for it do, a worker has all boards of its run to itself and its
run stays in progress.
-/

namespace Xczu47dr.Runs

open Records RunStore

/-- Nothing is done on the boards any more once they are released. -/
def Phase.Drives (phase : Phase) : Prop := phase ≠ .released

def Phase.Works (phase : Phase) : Prop := phase ≠ .released ∧ phase ≠ .faulted

instance (phase : Phase) : Decidable phase.Drives := inferInstanceAs (Decidable (_ ≠ _))

instance (phase : Phase) : Decidable phase.Works := inferInstanceAs (Decidable (_ ∧ _))

/-- What the table of boards says of the workers. -/
structure Reserved (s : System) : Prop where
  single : ∀ board id other, (board, id) ∈ s.active → (board, other) ∈ s.active → id = other
  stored : ∀ id phase, s.thread id = some phase → ∃ record, s.store.find? id = some record
  holds : ∀ id phase record, s.thread id = some phase → phase.Drives → s.store.find? id = some record →
    ∀ board ∈ record.boardIds, (board, id) ∈ s.active
  progress : ∀ id phase record, s.thread id = some phase → phase.Works → s.store.find? id = some record →
    inProgress record.state = true

theorem Reserved.empty : Reserved System.empty where
  single _ _ _ held := absurd held List.not_mem_nil
  stored _ phase running := absurd running.symm (Option.some_ne_none phase)
  holds _ phase _ running := absurd running.symm (Option.some_ne_none phase)
  progress _ phase _ running := absurd running.symm (Option.some_ne_none phase)

/-! ## What happens to one run -/

/-- Only this run is changed, and neither its request nor, for the better, that it drives its boards. -/
structure RunStep (s s' : System) (id : String) : Prop where
  others : ∀ other, other ≠ id → s'.thread other = s.thread other ∧ s'.store.find? other = s.store.find? other
  request : ∀ record, s'.store.find? id = some record →
    ∃ before, s.store.find? id = some before ∧ before.request = record.request
  kept : ∀ record, s.store.find? id = some record → ∃ after, s'.store.find? id = some after
  running : ∀ phase, s'.thread id = some phase →
    ∃ before, s.thread id = some before ∧ (phase.Drives → before.Drives)

/-- The boards are released when they are driven no longer, and not before. -/
structure OwnStep (s s' : System) (id : String) : Prop extends RunStep s s' id where
  active : s'.active = s.active ∨
    s'.active = s.active.filter (·.2 ≠ id) ∧ ∀ phase, s'.thread id = some phase → ¬ phase.Drives
  progress : ∀ phase record, s'.thread id = some phase → phase.Works → s'.store.find? id = some record →
    inProgress record.state = true ∨
      ∃ before earlier, s.thread id = some before ∧ before.Works ∧ s.store.find? id = some earlier ∧
        earlier.state = record.state

variable {s s' : System} {id : String} {now : Nat}

theorem OwnStep.reserved (own : OwnStep s s' id) (reserved : Reserved s) : Reserved s' where
  single board first second held again := by
    have subset : ∀ entry ∈ s'.active, entry ∈ s.active := by
      rcases own.active with same | ⟨filtered, -⟩
      · rw [same]
        exact fun _ among => among
      · rw [filtered]
        exact fun _ among => List.mem_of_mem_filter among
    exact reserved.single board first second (subset _ held) (subset _ again)
  stored run phase running := by
    by_cases this : run = id
    · subst this
      obtain ⟨before, ran, -⟩ := own.running phase running
      obtain ⟨record, found⟩ := reserved.stored run before ran
      exact own.kept record found
    · obtain ⟨thread, found⟩ := own.others run this
      rw [found]
      exact reserved.stored run phase (thread ▸ running)
  holds run phase record running drives found := by
    by_cases this : run = id
    · subst this
      obtain ⟨before, ran, driven⟩ := own.running phase running
      obtain ⟨earlier, stored, same⟩ := own.request record found
      have held := reserved.holds run before earlier ran (driven drives) stored
      rcases own.active with kept | ⟨-, ended⟩
      · rw [kept, RunRecord.boardIds, ← same]
        exact held
      · exact absurd drives (ended phase running)
    · obtain ⟨thread, store⟩ := own.others run this
      have held := reserved.holds run phase record (thread ▸ running) drives (store ▸ found)
      rcases own.active with kept | ⟨filtered, -⟩
      · rw [kept]
        exact held
      · intro board among
        rw [filtered]
        exact List.mem_filter.mpr ⟨held board among, decide_eq_true this⟩
  progress run phase record running works found := by
    by_cases this : run = id
    · subst this
      rcases own.progress phase record running works found with going | ⟨before, earlier, ran, worked, stored, same⟩
      · exact going
      · rw [← same]
        exact reserved.progress run before earlier ran worked stored
    · obtain ⟨thread, store⟩ := own.others run this
      exact reserved.progress run phase record (thread ▸ running) works (store ▸ found)

/-- A row is written, and the thread goes on, ends or stays. -/
theorem ownStep_amend (change : RunRecord → RunRecord) (keeps : ∀ record, (change record).id = record.id)
    {thread : String → Option Phase} {active : List (String × String)} {pending : List Pending}
    {image : String → Option String}
    (request : ∀ record, (change record).request = record.request)
    (others : ∀ other, other ≠ id → thread other = s.thread other)
    (running : ∀ phase, thread id = some phase →
      ∃ before, s.thread id = some before ∧ (phase.Drives → before.Drives))
    (released : active = s.active ∨
      active = s.active.filter (·.2 ≠ id) ∧ ∀ phase, thread id = some phase → ¬ phase.Drives)
    (progress : ∀ phase record, thread id = some phase → phase.Works → s.store.find? id = some record →
      inProgress (change record).state = true ∨
        ∃ before, s.thread id = some before ∧ before.Works ∧ record.state = (change record).state) :
    OwnStep s ⟨s.store.amend id change keeps, active, thread, pending, image⟩ id where
  others other different := ⟨others other different, Table.find?_amend_ne s.store change keeps different⟩
  request record found := by
    rw [Table.find?_amend] at found
    obtain ⟨before, stored, rfl⟩ := Option.map_eq_some_iff.mp found
    exact ⟨before, stored, (request before).symm⟩
  kept record found := ⟨change record, by rw [Table.find?_amend, found]; rfl⟩
  running := running
  active := released
  progress phase record run works found := by
    rw [Table.find?_amend] at found
    obtain ⟨before, stored, rfl⟩ := Option.map_eq_some_iff.mp found
    rcases progress phase before run works stored with going | ⟨earlier, ran, worked, same⟩
    · exact .inl going
    · exact .inr ⟨earlier, before, ran, worked, stored, same⟩

theorem ownStep_moves {thread : String → Option Phase} {active : List (String × String)}
    {image : String → Option String}
    (others : ∀ other, other ≠ id → thread other = s.thread other)
    (running : ∀ phase, thread id = some phase →
      ∃ before, s.thread id = some before ∧ (phase.Drives → before.Drives))
    (released : active = s.active ∨
      active = s.active.filter (·.2 ≠ id) ∧ ∀ phase, thread id = some phase → ¬ phase.Drives)
    (works : ∀ phase, thread id = some phase → phase.Works → ∃ before, s.thread id = some before ∧ before.Works) :
    OwnStep s ⟨s.store, active, thread, s.pending, image⟩ id where
  others other different := ⟨others other different, rfl⟩
  request record found := ⟨record, found, rfl⟩
  kept record found := ⟨record, found⟩
  running := running
  active := released
  progress phase record run working found := by
    obtain ⟨before, ran, worked⟩ := works phase run working
    exact .inr ⟨before, record, ran, worked, found, rfl⟩

section Thread

variable {phase next : Phase}

theorem own_turns (image : String → Option String) (ran : s.thread id = some phase)
    (drives : next.Drives → phase.Drives) (works : next.Works → phase.Works) :
    OwnStep s ({ s with image := image }.setPhase id next) id := by
  refine ownStep_moves (fun other different => Function.update_of_ne different ..) ?_ (.inl rfl) ?_
  · intro now running
    rw [Function.update_self] at running
    obtain rfl := Option.some.inj running
    exact ⟨phase, ran, drives⟩
  · intro now running working
    rw [Function.update_self] at running
    obtain rfl := Option.some.inj running
    exact ⟨phase, ran, works working⟩

theorem own_goesOn (change : RunRecord → RunRecord) {keeps : ∀ record, (change record).id = record.id}
    (ran : s.thread id = some phase) (drives : phase.Drives)
    (request : ∀ record, (change record).request = record.request)
    (state : next.Works → ∀ record, inProgress (change record).state = true ∨
      phase.Works ∧ record.state = (change record).state) :
    OwnStep s ({ s with store := s.store.amend id change keeps }.setPhase id next) id := by
  refine ownStep_amend change keeps request (fun _ different => Function.update_of_ne different ..) ?_ (.inl rfl) ?_
  · intro now running
    exact ⟨phase, ran, fun _ => drives⟩
  · intro now record running working _
    rw [Function.update_self] at running
    obtain rfl := Option.some.inj running
    exact (state working record).imp_right fun same => ⟨phase, ran, same⟩

theorem endThread_silent (now : Phase) (running : Function.update s.thread id none id = some now) {P : Prop} :
    P := by
  rw [Function.update_self] at running
  cases running

theorem own_ends (change : RunRecord → RunRecord) {keeps : ∀ record, (change record).id = record.id}
    (request : ∀ record, (change record).request = record.request) :
    OwnStep s ({ s with store := s.store.amend id change keeps }.endThread id) id :=
  ownStep_amend change keeps request (fun _ different => Function.update_of_ne different ..)
    (fun now running => endThread_silent now running) (.inl rfl) fun now _ running => endThread_silent now running

theorem own_releases (ran : s.thread id = some phase) : OwnStep s ((s.releaseGroup id).setPhase id .released) id := by
  have released : ∀ now, Function.update s.thread id (some .released) id = some now → now = .released := by
    intro now running
    rw [Function.update_self] at running
    exact (Option.some.inj running).symm
  refine ownStep_moves (fun other different => Function.update_of_ne different ..) ?_ (.inr ⟨rfl, ?_⟩) ?_
  · intro now running
    exact ⟨phase, ran, fun drives => absurd (released now running) drives⟩
  · intro now running drives
    exact drives (released now running)
  · intro now running working
    exact absurd (released now running) working.1

theorem own_leaves : OwnStep s ((s.releaseGroup id).endThread id) id :=
  ownStep_moves (fun _ different => Function.update_of_ne different ..)
    (fun now running => endThread_silent now running)
    (.inr ⟨rfl, fun now running => endThread_silent now running⟩) fun now running => endThread_silent now running

end Thread

theorem ownStep_threadStep {record : RunRecord} {phase : Phase} {step : System.ThreadStep}
    (ran : s.thread id = some phase) (done : s.threadStep id now record phase step = some s') : OwnStep s s' id := by
  have uploads {board : String} {rest : List String} (drives : phase.Drives) (works : phase.Works) :
      OwnStep s (if record.dryRun then s.setPhase id (.recorded rest)
        else { s with store := s.store.update id now .uploading "" }.setPhase id (.uploading board rest)) id := by
    split_ifs
    · exact own_turns s.image ran (fun _ => drives) fun _ => works
    · exact own_goesOn _ ran drives (fun _ => rfl) fun _ _ => .inl rfl
  cases step with
  | generate =>
      cases phase <;> cases done
      exact own_goesOn _ ran (by rintro ⟨⟩) (fun _ => rfl) fun _ _ => .inl rfl
  | upload =>
      cases phase with
      | generating =>
          simp only [System.threadStep] at done
          cases boards : record.boardIds with
          | nil =>
              rw [boards] at done
              cases done
          | cons board rest =>
              rw [boards] at done
              simp only [← apply_ite some, Option.some.injEq] at done
              subst done
              exact uploads (by rintro ⟨⟩) ⟨by rintro ⟨⟩, by rintro ⟨⟩⟩
      | recorded rest =>
          simp only [System.threadStep] at done
          cases rest with
          | nil => cases done
          | cons board rest =>
              simp only [← apply_ite some, Option.some.injEq] at done
              subst done
              exact uploads (by rintro ⟨⟩) ⟨by rintro ⟨⟩, by rintro ⟨⟩⟩
      | _ => cases done
  | begins =>
      cases phase with
      | uploading board rest =>
          cases done
          exact own_turns _ ran (fun _ => by rintro ⟨⟩) fun _ => ⟨by rintro ⟨⟩, by rintro ⟨⟩⟩
      | _ => cases done
  | commits session =>
      cases phase with
      | begun board rest =>
          cases done
          exact own_turns _ ran (fun _ => by rintro ⟨⟩) fun _ => ⟨by rintro ⟨⟩, by rintro ⟨⟩⟩
      | _ => cases done
  | records =>
      cases phase with
      | committed board session rest =>
          simp only [System.threadStep] at done
          split at done
          · cases done
          · cases done
            exact own_goesOn _ ran (by rintro ⟨⟩) (fun _ => rfl) fun _ _ => .inr ⟨⟨by rintro ⟨⟩, by rintro ⟨⟩⟩, rfl⟩
      | _ => cases done
  | ready =>
      cases phase with
      | recorded rest =>
          cases rest with
          | cons board rest => cases done
          | nil =>
              simp only [System.threadStep] at done
              split at done
              · cases done
              · cases done
                exact own_goesOn _ ran (by rintro ⟨⟩) (fun _ => rfl) fun _ _ => .inl rfl
      | _ => cases done
  | runsOn =>
      cases phase with
      | ready =>
          simp only [System.threadStep] at done
          split at done
          · cases done
            exact own_ends _ fun _ => rfl
          · cases done
      | _ => cases done
  | release =>
      cases phase with
      | recorded rest =>
          cases rest with
          | cons board rest => cases done
          | nil =>
              simp only [System.threadStep] at done
              split at done
              · cases done
                exact own_releases ran
              · cases done
      | ready =>
          simp only [System.threadStep] at done
          split at done
          · cases done
          · cases done
            exact own_releases ran
      | faulted =>
          cases done
          exact own_leaves
      | _ => cases done
  | completes =>
      cases phase with
      | released =>
          simp only [System.threadStep] at done
          split at done
          · cases done
            exact own_ends _ fun _ => rfl
          · split at done
            · cases done
              exact own_ends _ fun _ => rfl
            · cases done
              exact own_ends _ fun _ => rfl
      | _ => cases done
  | fails error =>
      have drives : phase.Drives := by
        rintro rfl
        cases done
      have failed : s' = { s with store := s.store.update id now .fault error }.setPhase id .faulted := by
        cases phase <;> cases done <;> rfl
      subst failed
      exact own_goesOn _ ran drives (fun _ => rfl) fun works => absurd rfl works.2

/-! ## Histories -/

/-- The state of a run is written by a request, with its worker gone or the run still in progress. -/
theorem ownStep_update {state : RunState} {error : String} {pending : List Pending}
    (going : s.Executing id → inProgress state = true) :
    OwnStep s { s with store := s.store.update id now state error, pending := pending } id := by
  refine ownStep_amend (fun record => { record with state, error, updatedAt := now }) (fun _ => rfl) (fun _ => rfl)
    (fun _ _ => rfl) (fun phase running => ⟨phase, running, fun drives => drives⟩) (.inl rfl) ?_
  intro phase record running _ _
  exact .inl (going fun ended => absurd (running.symm.trans ended) (Option.some_ne_none phase))

/-- A request takes the boards of a run whose worker is gone. -/
theorem ownStep_takes {state : RunState} {error : String} {pending : List Pending} (ended : ¬ s.Executing id) :
    OwnStep s ({ s with store := s.store.update id now state error, pending := pending }.releaseGroup id) id := by
  have idle : s.thread id = none := not_not.mp ended
  have silent {P : Prop} (phase : Phase) (running : s.thread id = some phase) : P := by
    rw [idle] at running
    cases running
  exact ownStep_amend (fun record => { record with state, error, updatedAt := now }) (fun _ => rfl) (fun _ => rfl)
    (fun _ _ => rfl) (fun phase running => silent phase running)
    (.inr ⟨rfl, fun phase running => silent phase running⟩) fun phase _ running => silent phase running

theorem ownStep_answers {request : Pending} {outcome : Except String Unit}
    (unforced : ∀ reason, outcome = .error reason → ¬ s.Executing request.id)
    (done : s.answers request outcome now = some s') : OwnStep s s' request.id := by
  unfold System.answers at done
  split at done
  · cases request with
    | arm id =>
        cases outcome with
        | ok accepted =>
            cases done
            exact ownStep_update fun _ => rfl
        | error reason =>
            cases done
            exact ownStep_takes (unforced reason rfl)
    | start id =>
        cases outcome with
        | ok accepted =>
            cases done
            exact ownStep_update fun _ => rfl
        | error reason =>
            cases done
            exact ownStep_takes (unforced reason rfl)
  · cases done

/-- A request writes the state of a run, whatever its worker does, and the boards may be released. -/
theorem runStep_update {state : RunState} {error : String} {active : List (String × String)} {pending : List Pending} :
    RunStep s ⟨s.store.update id now state error, active, s.thread, pending, s.image⟩ id where
  others other different :=
    ⟨rfl, Table.find?_amend_ne s.store (fun record => { record with state, error, updatedAt := now }) (fun _ => rfl)
      different⟩
  request record found := by
    rw [RunStore.update, Table.find?_amend] at found
    obtain ⟨before, stored, rfl⟩ := Option.map_eq_some_iff.mp found
    exact ⟨before, stored, rfl⟩
  kept record found := ⟨_, find?_update found⟩
  running phase ran := ⟨phase, ran, fun drives => drives⟩

theorem runStep_still {pending : List Pending} {image : String → Option String} :
    RunStep s ⟨s.store, s.active, s.thread, pending, image⟩ id where
  others _ _ := ⟨rfl, rfl⟩
  request record found := ⟨record, found, rfl⟩
  kept record found := ⟨record, found⟩
  running phase ran := ⟨phase, ran, fun drives => drives⟩

/-- Beside the requests that create runs, and a restart, every event is about one run. -/
theorem runStep_step {event : System.Event} (creates : ∀ id request, event ≠ .create id request)
    (restarts : event ≠ .restart) (done : s.step now event = some s') : ∃ id, RunStep s s' id := by
  cases event with
  | create id request => exact absurd rfl (creates id request)
  | restart => exact absurd rfl restarts
  | thread id step =>
      simp only [System.step] at done
      split at done
      · rename_i phase record running found
        exact ⟨id, (ownStep_threadStep running done).toRunStep⟩
      · cases done
  | asks request =>
      cases request with
      | arm id | start id =>
          simp only [System.step, System.asks] at done
          split at done
          · split at done
            · cases done
              exact ⟨id, runStep_still⟩
            · cases done
          · cases done
  | answers request outcome =>
      simp only [System.step, System.answers] at done
      split at done
      · cases request with
        | arm id | start id =>
            cases outcome with
            | ok accepted | error reason =>
                cases done
                exact ⟨id, runStep_update⟩
      · cases done
  | abort id error =>
      simp only [System.step, System.abort] at done
      split at done
      · cases done
      · cases done
        exact ⟨id, runStep_update⟩
  | overwritten board =>
      cases done
      exact ⟨board, runStep_still⟩

/-- A run is created, or the key constraint has refused it. -/
theorem System.create_cases {request : RunCreateRequest} (done : s.create id request now = some s') :
    (s' = s.releaseGroup id ∧ s.store.find? id ≠ none) ∨
      s.store.find? id = none ∧ s'.active = s.active ++ request.boardIds.map (·, id) ∧
        (∀ row, s'.store.find? row = if row = id then some (created id now request) else s.store.find? row) ∧
        ∀ other, other ≠ id → s'.thread other = s.thread other := by
  unfold System.create at done
  split at done
  · cases done
  · cases stored : s.store.create id now request with
    | none =>
        rw [stored] at done
        cases done
        refine .inl ⟨rfl, fun absent => ?_⟩
        unfold RunStore.create at stored
        split at stored
        · cases stored
        · rename_i taken
          rw [not_not] at taken
          obtain ⟨record, among, rfl⟩ := List.mem_map.mp taken
          rw [Table.find?_of_mem s.store among] at absent
          cases absent
    | some store =>
        rw [stored] at done
        cases done
        exact .inr ⟨RunStore.find?_of_create stored, rfl, RunStore.find?_create stored,
          fun other different => System.setPhase_ne different⟩

theorem System.create_unclaimed {request : RunCreateRequest} (done : s.create id request now = some s') :
    ∀ board ∈ request.boardIds, ∀ owner, (board, owner) ∉ s.active := by
  intro board among owner held
  unfold System.create at done
  split at done
  · cases done
  · rename_i taken
    refine taken (List.any_eq_true.mpr ⟨board, among, ?_⟩)
    rw [System.activeRunForBoard, Option.isSome_map, List.find?_isSome]
    exact ⟨(board, owner), held, decide_eq_true rfl⟩

/-- New boards are taken only when nobody has them. -/
theorem Reserved.create {request : RunCreateRequest} (reserved : Reserved s) (fresh : s.store.find? id = none)
    (done : s.create id request now = some s') : Reserved s' := by
  have unclaimed := System.create_unclaimed done
  rcases System.create_cases done with ⟨-, taken⟩ | ⟨-, active, rows, thread⟩
  · exact absurd fresh taken
  · refine ⟨?_, ?_, ?_, ?_⟩
    · intro board first second held again
      rw [active] at held again
      rcases List.mem_append.mp held with before | new
      · rcases List.mem_append.mp again with still | other
        · exact reserved.single board first second before still
        · obtain ⟨named, among, same⟩ := List.mem_map.mp other
          cases same
          exact absurd before (unclaimed board among first)
      · obtain ⟨named, among, same⟩ := List.mem_map.mp new
        cases same
        rcases List.mem_append.mp again with still | other
        · exact absurd still (unclaimed board among second)
        · obtain ⟨_, -, same⟩ := List.mem_map.mp other
          exact congrArg Prod.snd same
    · intro run phase running
      by_cases this : run = id
      · exact ⟨_, (rows run).trans (if_pos this)⟩
      · obtain ⟨record, before⟩ := reserved.stored run phase ((thread run this).symm.trans running)
        exact ⟨record, (rows run).trans ((if_neg this).trans before)⟩
    · intro run phase record running drives after board among
      rw [active]
      rw [rows] at after
      by_cases this : run = id
      · subst this
        rw [if_pos rfl] at after
        obtain rfl := Option.some.inj after
        exact List.mem_append_right _ (List.mem_map.mpr ⟨board, among, rfl⟩)
      · rw [if_neg this] at after
        have ran : s.thread run = some phase := (thread run this).symm.trans running
        exact List.mem_append_left _ (reserved.holds run phase record ran drives after board among)
    · intro run phase record running works after
      rw [rows] at after
      by_cases this : run = id
      · rw [if_pos this] at after
        obtain rfl := Option.some.inj after
        rfl
      · rw [if_neg this] at after
        exact reserved.progress run phase record ((thread run this).symm.trans running) works after

/-- What an event must find for no board to be taken away from under a worker. -/
def Unforced (s : System) : System.Event → Prop
  | .create id _ => s.store.find? id = none
  | .abort id _ => ¬ s.Executing id
  | .answers request (.error _) => ¬ s.Executing request.id
  | .answers _ (.ok _) | .thread _ _ | .asks _ | .restart | .overwritten _ => True

instance : (event : System.Event) → Decidable (Unforced s event)
  | .create _ _ => inferInstanceAs (Decidable (_ = _))
  | .abort _ _ => inferInstanceAs (Decidable (¬ _))
  | .answers _ (.error _) => inferInstanceAs (Decidable (¬ _))
  | .answers _ (.ok _) | .thread _ _ | .asks _ | .restart | .overwritten _ => .isTrue trivial

def UnforcedRun (s : System) : List (Nat × System.Event) → Prop
  | [] => True
  | (now, event) :: later => Unforced s event ∧ ∀ mid ∈ s.step now event, UnforcedRun mid later

instance decidableUnforcedRun (s : System) : (events : List (Nat × System.Event)) → Decidable (UnforcedRun s events)
  | [] => .isTrue trivial
  | (now, event) :: later =>
      have (mid : System) : Decidable (UnforcedRun mid later) := decidableUnforcedRun mid later
      inferInstanceAs (Decidable (Unforced s event ∧ ∀ mid ∈ s.step now event, UnforcedRun mid later))

theorem Reserved.step {event : System.Event} (reserved : Reserved s) (unforced : Unforced s event)
    (done : s.step now event = some s') : Reserved s' := by
  cases event with
  | create id request => exact reserved.create unforced done
  | thread id step =>
      simp only [System.step] at done
      split at done
      · rename_i phase record running found
        exact (ownStep_threadStep running done).reserved reserved
      · cases done
  | asks request =>
      cases request with
      | arm id | start id =>
          simp only [System.step, System.asks] at done
          split at done
          · split at done
            · cases done
              exact ⟨reserved.single, reserved.stored, reserved.holds, reserved.progress⟩
            · cases done
          · cases done
  | answers request outcome =>
      refine (ownStep_answers (fun reason failed => ?_) done).reserved reserved
      subst failed
      exact unforced
  | abort id error =>
      simp only [System.step, System.abort] at done
      split at done
      · cases done
      · cases done
        exact (ownStep_takes unforced).reserved reserved
  | restart =>
      cases done
      exact ⟨fun _ _ _ held => absurd held List.not_mem_nil, fun _ _ running => absurd running (by rintro ⟨⟩),
        fun _ _ _ running => absurd running (by rintro ⟨⟩), fun _ _ _ running => absurd running (by rintro ⟨⟩)⟩
  | overwritten board =>
      cases done
      exact ⟨reserved.single, reserved.stored, reserved.holds, reserved.progress⟩

theorem Reserved.run {events : List (Nat × System.Event)} (reserved : Reserved s) (unforced : UnforcedRun s events)
    (done : s.run events = some s') : Reserved s' := by
  induction events generalizing s with
  | nil =>
      cases done
      exact reserved
  | cons event later ih =>
      obtain ⟨now, event⟩ := event
      obtain ⟨mid, here, rest⟩ := Option.bind_eq_some_iff.mp done
      exact ih (reserved.step unforced.1 here) (unforced.2 mid here) rest

/-- In the table of boards there is one run for a board that is held. -/
theorem Reserved.activeRun (reserved : Reserved s) {board : String} (held : (board, id) ∈ s.active) :
    s.activeRunForBoard board = some id := by
  rw [System.activeRunForBoard]
  cases first : s.active.find? (·.1 = board) with
  | none => exact absurd (decide_eq_true rfl) (List.find?_eq_none.mp first (board, id) held)
  | some entry =>
      obtain ⟨name, owner⟩ := entry
      have named : name = board :=
        of_decide_eq_true (List.find?_some (p := fun e : String × String => e.1 = board) first)
      have owned := reserved.single board owner id (named ▸ List.mem_of_find?_eq_some first) held
      rw [owned]
      rfl

end Xczu47dr.Runs
