import Xczu47dr.Runs.RunHistory

/-! # The loaded waveform of a board

The `loaded` flag is set in the row of a run and is meant for its boards: no upload
takes it back from the run whose waveform it replaces.
-/

namespace Xczu47dr.Runs

open Records RunStore

variable {s s' : System} {id : String} {now : Nat}

/-- What `loaded_run_for_board`, `arm_loaded` and `trigger_loaded` say of the boards is so.
A waveform is not reported before its run has ended. -/
structure LoadedIdentity (s : System) : Prop where
  lookup : ∀ board, (s.loadedRunForBoard board).map RunRecord.id =
    (s.image board).filter fun id => !decide (s.Executing id)
  atMostOne : ∀ board first second, first ∈ s.store.rows → second ∈ s.store.rows → Flagged first → Flagged second →
    board ∈ first.boardIds → board ∈ second.boardIds → first.id = second.id
  arms : ∀ id answers record, s.armLoaded id answers = .ok record →
    ∀ board ∈ record.boardIds, s.image board = some id
  triggers : ∀ isMaster id answers record, s.triggerLoaded isMaster id answers = .ok record →
    ∀ board ∈ record.boardIds, s.image board = some id

/-- A row of the run says that it is loaded. -/
def Loaded (s : System) (id : String) : Prop := ∃ record, s.store.find? id = some record ∧ Flagged record

/-- The flags and the waveforms agree. -/
structure Current (s : System) : Prop where
  held : ∀ id record, s.store.find? id = some record → Flagged record →
    ∀ board ∈ record.boardIds, s.image board = some id
  shown : ∀ board id, s.image board = some id → s.Executing id ∨ Loaded s id
  listed : ∀ id record, s.store.find? id = some record → Flagged record → record ∈ s.store.list

theorem Current.empty : Current System.empty where
  held := nofun
  shown := nofun
  listed := nofun

/-! ## The conditions of the events -/

instance (record : RunRecord) : Decidable (Flagged record) := inferInstanceAs (Decidable (_ ∧ _ ∧ _))

/-- No run says that it is loaded on the board. -/
def Unclaimed (s : System) (board : String) : Prop :=
  ∀ record ∈ s.store.rows, Flagged record → board ∉ record.boardIds

instance (board : String) : Decidable (Unclaimed s board) := inferInstanceAs (Decidable (∀ record ∈ _, _))

/-- The waveform of the run is on none of its boards. -/
def Gone (s : System) (record : RunRecord) : Prop := ∀ board ∈ record.boardIds, s.image board ≠ some record.id

instance (record : RunRecord) : Decidable (Gone s record) := inferInstanceAs (Decidable (∀ board ∈ _, _))

/-- The run has its waveform on all its boards, and no fifty runs are newer. -/
def Holds (s : System) (record : RunRecord) : Prop :=
  (∀ board ∈ record.boardIds, s.image board = some record.id) ∧ record ∈ s.store.list

instance (record : RunRecord) : Decidable (Holds s record) := inferInstanceAs (Decidable (_ ∧ _))

/-- The board whose memory the next exchange of the thread changes. -/
def Phase.board : Phase → Option String
  | .uploading board _ | .begun board _ => some board
  | _ => none

def SafeStep (s : System) (record : RunRecord) (phase : Phase) : System.ThreadStep → Prop
  | .begins | .commits _ => ∀ board ∈ phase.board, Unclaimed s board
  | .completes =>
      (PlaysOnce record → Gone s record) ∧
        (record.dryRun = false → record.request.completionMode = .upload → Holds s record)
  | .runsOn => Gone s record
  | .release => phase = .faulted → Gone s record
  | .generate | .upload | .records | .ready | .fails _ => True

instance (record : RunRecord) : Decidable (PlaysOnce record) := inferInstanceAs (Decidable (_ ∧ _))

instance (record : RunRecord) (phase : Phase) : (step : System.ThreadStep) → Decidable (SafeStep s record phase step)
  | .begins | .commits _ => inferInstanceAs (Decidable (∀ board ∈ _, _))
  | .completes => inferInstanceAs (Decidable ((_ → _) ∧ (_ → _ → _)))
  | .runsOn => inferInstanceAs (Decidable (Gone _ _))
  | .release => inferInstanceAs (Decidable (_ → _))
  | .generate | .upload | .records | .ready | .fails _ => .isTrue trivial

/-- What an event must find for the flags to stay right. -/
def Safe (s : System) (now : Nat) : System.Event → Prop
  | .create id request =>
      ∀ store ∈ s.store.create id now request, ∀ record ∈ s.store.list, Flagged record → record ∈ store.list
  | .thread id step => ∀ phase ∈ s.thread id, ∀ record ∈ s.store.find? id, SafeStep s record phase step
  | .abort id _ => ¬ s.Executing id → ∀ record ∈ s.store.find? id, Gone s record
  | .restart => ∀ record ∈ s.store.rows, s.Executing record.id → Gone s record
  | .overwritten board => Unclaimed s board
  | .asks _ | .answers _ _ => True

instance : (event : System.Event) → Decidable (Safe s now event)
  | .create _ _ => inferInstanceAs (Decidable (∀ store ∈ _, ∀ record ∈ _, _ → _))
  | .thread _ _ => inferInstanceAs (Decidable (∀ phase ∈ _, ∀ record ∈ _, _))
  | .abort _ _ => inferInstanceAs (Decidable (_ → ∀ record ∈ _, _))
  | .restart => inferInstanceAs (Decidable (∀ record ∈ _, _ → _))
  | .overwritten _ => inferInstanceAs (Decidable (Unclaimed _ _))
  | .asks _ | .answers _ _ => .isTrue trivial

/-- Every event of the history finds what it must. -/
def SafeRun (s : System) : List (Nat × System.Event) → Prop
  | [] => True
  | (now, event) :: later => Safe s now event ∧ ∀ mid ∈ s.step now event, SafeRun mid later

instance decidableSafeRun (s : System) : (events : List (Nat × System.Event)) → Decidable (SafeRun s events)
  | [] => .isTrue trivial
  | (now, event) :: later =>
      have (mid : System) : Decidable (SafeRun mid later) := decidableSafeRun mid later
      inferInstanceAs (Decidable (Safe s now event ∧ ∀ mid ∈ s.step now event, SafeRun mid later))

/-! ## Threads and lists -/

theorem executing_setPhase {phase : Phase} : (s.setPhase id phase).Executing id := by
  rw [System.Executing, System.setPhase_self]
  rintro ⟨⟩

theorem System.Executing.setPhase {other : String} {phase : Phase} (executing : s.Executing other) :
    (s.setPhase id phase).Executing other := by
  by_cases same : other = id
  · rw [same]
    exact executing_setPhase
  · rwa [System.Executing, System.setPhase_ne same]

theorem System.Executing.endThread {other : String} (executing : s.Executing other) (different : other ≠ id) :
    (s.endThread id).Executing other := by
  rwa [System.Executing, System.endThread_ne different]

/-- The order of the rows is that of their creation, which no update changes. -/
theorem list_rewrite (store : RunStore) (change : RunRecord → RunRecord)
    (keeps : ∀ record, (change record).id = record.id)
    (created : ∀ record, (change record).createdAt = record.createdAt) :
    RunStore.list (store.rewrite change keeps) = store.list.map change := by
  have sorted := List.map_insertionSort newestFirst newestFirst change store.rows
    fun first _ second _ => by rw [newestFirst, newestFirst, created, created]
  have all (rows : List RunRecord) : rows.filter (fun _ => true) = rows := List.filter_eq_self.mpr fun _ _ => rfl
  rw [RunStore.list, RunStore.list, Table.select, Table.select, all, all, List.map_take, sorted]
  rfl

theorem mem_list_amend {store : RunStore} (id : String) (change : RunRecord → RunRecord)
    {keeps : ∀ record, (change record).id = record.id}
    (created : ∀ record, (change record).createdAt = record.createdAt) {record : RunRecord}
    (mem : record ∈ store.list) :
    (if record.id = id then change record else record) ∈ RunStore.list (store.amend id change keeps) := by
  rw [Table.amend, list_rewrite]
  · exact List.mem_map_of_mem mem
  · intro row
    split
    · exact created row
    · rfl

/-! ## What the events preserve -/

theorem Current.next (current : Current s) (image : s'.image = s.image)
    (rows : ∀ id record, s'.store.find? id = some record → Flagged record →
      s.store.find? id = some record ∧ (record ∈ s.store.list → record ∈ s'.store.list))
    (shown : ∀ board id, s.image board = some id → s.Executing id ∨ Loaded s id → s'.Executing id ∨ Loaded s' id) :
    Current s' := by
  refine ⟨?_, ?_, ?_⟩
  · intro id record found flagged
    rw [image]
    exact current.held id record (rows id record found flagged).1 flagged
  · intro board id owns
    rw [image] at owns
    exact shown board id owns (current.shown board id owns)
  · intro id record found flagged
    obtain ⟨before, stays⟩ := rows id record found flagged
    exact stays (current.listed id record before flagged)

theorem Current.moves (current : Current s) (store : s'.store = s.store) (image : s'.image = s.image)
    (executing : ∀ board id, s.image board = some id → s.Executing id → s'.Executing id) : Current s' := by
  refine current.next image ?_ ?_
  · intro id record found _
    rw [store] at found ⊢
    exact ⟨found, fun mem => mem⟩
  · intro board id owns before
    rcases before with running | ⟨record, found, flagged⟩
    · exact .inl (executing board id owns running)
    · rw [← store] at found
      exact .inr ⟨record, found, flagged⟩

/-- The row of a run has been written, and does not say that the run is loaded. -/
theorem Current.writes (current : Current s) (change : RunRecord → RunRecord)
    (keeps : ∀ record, (change record).id = record.id) (store : s'.store = s.store.amend id change keeps)
    (created : ∀ record, (change record).createdAt = record.createdAt) (image : s'.image = s.image)
    (unflagged : ∀ record, s.store.find? id = some record → ¬ Flagged (change record))
    (others : ∀ other, other ≠ id → s.Executing other → s'.Executing other)
    (ended : ∀ board, s.image board = some id → s'.Executing id) : Current s' := by
  refine current.next image ?_ ?_
  · intro row record found flagged
    rw [store] at found ⊢
    by_cases same : row = id
    · rw [same, Table.find?_amend] at found
      obtain ⟨old, before, rfl⟩ := Option.map_eq_some_iff.mp found
      exact absurd flagged (unflagged old before)
    · rw [Table.find?_amend_ne _ _ _ same] at found
      refine ⟨found, fun mem => ?_⟩
      have after : _ ∈ RunStore.list (s.store.amend id change keeps) := mem_list_amend id change created mem
      rwa [(Table.find?_some found).2, if_neg same] at after
  · intro board row owns before
    by_cases same : row = id
    · rw [same] at owns ⊢
      exact .inl (ended board owns)
    · rcases before with running | ⟨record, found, flagged⟩
      · exact .inl (others row same running)
      · refine .inr ⟨record, ?_, flagged⟩
        rwa [store, Table.find?_amend_ne _ _ _ same]

/-- An upload to a board of which no run says that it is loaded there. -/
theorem Current.replaces (current : Current s) {board : String} {owner : Option String}
    (unclaimed : Unclaimed s board) (executing : ∀ id, owner = some id → s.Executing id) :
    Current (s.setImage board owner) := by
  refine ⟨?_, ?_, current.listed⟩
  · intro id record found flagged other mem
    have elsewhere : other ≠ board := fun same =>
      unclaimed record (Table.find?_some found).1 flagged (same ▸ mem)
    rw [System.setImage_ne elsewhere]
    exact current.held id record found flagged other mem
  · intro other id owns
    by_cases same : other = board
    · rw [same, System.setImage_self] at owns
      exact .inl (executing id owns)
    · rw [System.setImage_ne same] at owns
      exact current.shown other id owns

/-! ## One event -/

theorem not_flagged_of_state {record : RunRecord} (busy : record.state ≠ .done) : ¬ Flagged record :=
  fun flagged => busy flagged.2.2

/-- The run that has uploaded its waveform, and whose waveform is still there, is loaded. -/
theorem Current.completes (current : Current s) {record : RunRecord} (found : s.store.find? id = some record)
    (real : record.dryRun = false) (holds : Holds s record) :
    Current ({ s with store := s.store.completeLoaded id now .done }.endThread id) := by
  have name := (Table.find?_some found).2
  have changed : (s.store.completeLoaded id now .done).find? id =
      some { record with loaded := true, state := .done, updatedAt := now } := by
    rw [RunStore.completeLoaded, Table.find?_amend, found, Option.map_some]
  have listed {row : RunRecord} (mem : row ∈ s.store.list) :
      (if row.id = id then { row with loaded := true, state := .done, updatedAt := now } else row) ∈
        RunStore.list (s.store.completeLoaded id now .done) :=
    mem_list_amend id (fun row => { row with loaded := true, state := .done, updatedAt := now }) (fun _ => rfl) mem
  have others {other : String} (different : other ≠ id) :
      (s.store.completeLoaded id now .done).find? other = s.store.find? other :=
    Table.find?_amend_ne _ _ _ different
  refine ⟨?_, ?_, ?_⟩
  · intro row after foundAfter flagged board mem
    by_cases same : row = id
    · rw [same] at foundAfter ⊢
      obtain rfl := Option.some.inj (changed.symm.trans foundAfter)
      rw [← name]
      exact holds.1 board mem
    · exact current.held row after ((others same).symm.trans foundAfter) flagged board mem
  · intro board row owns
    by_cases same : row = id
    · rw [same]
      exact .inr ⟨_, changed, real, rfl, rfl⟩
    · rcases current.shown board row owns with running | ⟨old, before, flagged⟩
      · exact .inl (System.Executing.endThread running same)
      · exact .inr ⟨old, (others same).trans before, flagged⟩
  · intro row after foundAfter flagged
    by_cases same : row = id
    · rw [same] at foundAfter
      obtain rfl := Option.some.inj (changed.symm.trans foundAfter)
      have mem := listed holds.2
      rwa [if_pos name] at mem
    · have before := (others same).symm.trans foundAfter
      have mem := listed (current.listed row after before flagged)
      rwa [if_neg] at mem
      rw [(Table.find?_some before).2]
      exact same

theorem Current.goesOn (current : Current s) {state : RunState} {error : String} {phase : Phase}
    (busy : state ≠ .done) :
    Current ({ s with store := s.store.update id now state error }.setPhase id phase) :=
  current.writes (fun record => { record with state, error, updatedAt := now }) (fun _ => rfl) rfl (fun _ => rfl) rfl
    (fun _ _ => not_flagged_of_state busy) (fun _ _ running => System.Executing.setPhase running) fun _ _ => executing_setPhase

theorem Current.setPhase (current : Current s) (phase : Phase) : Current (s.setPhase id phase) :=
  current.moves rfl rfl fun _ _ _ running => System.Executing.setPhase running

theorem Current.endThread (current : Current s) (gone : ∀ board, s.image board ≠ some id) : Current (s.endThread id) := by
  refine current.moves rfl rfl fun board other owns running => ?_
  refine System.Executing.endThread running ?_
  rintro rfl
  exact gone board owns

theorem Current.releaseGroup (current : Current s) (id : String) : Current (s.releaseGroup id) :=
  current.moves rfl rfl fun _ _ _ running => running

/-- The last write of a thread, with its waveform on no board. -/
theorem Current.finishes (current : Current s) (change : RunRecord → RunRecord)
    {keeps : ∀ record, (change record).id = record.id}
    (created : ∀ record, (change record).createdAt = record.createdAt)
    (unflagged : ∀ record, ¬ Flagged (change record)) (gone : ∀ board, s.image board ≠ some id) :
    Current ({ s with store := s.store.amend id change keeps }.endThread id) :=
  current.writes change keeps rfl created rfl (fun record _ => unflagged record)
    (fun _ different running => System.Executing.endThread running different)
    fun board owns => absurd owns (gone board)

/-- A waveform is on boards of its run only. -/
theorem Sound.gone (sound : Sound s) {record : RunRecord} (found : s.store.find? id = some record)
    (gone : record.dryRun = false → Gone s record) (board : String) : s.image board ≠ some id := by
  intro owns
  obtain ⟨owner, ownerFound, mem, real⟩ := sound.owner board id owns
  obtain rfl := Option.some.inj (found.symm.trans ownerFound)
  refine gone real board mem ?_
  rwa [(Table.find?_some found).2]

theorem Current.threadStep {record : RunRecord} {phase : Phase} {step : System.ThreadStep} (current : Current s)
    (sound : Sound s) (running : s.thread id = some phase) (found : s.store.find? id = some record)
    (safe : SafeStep s record phase step) (done : s.threadStep id now record phase step = some s') :
    Current s' := by
  have executing : s.Executing id := by
    rw [System.Executing, running]
    rintro ⟨⟩
  cases step with
  | generate =>
      cases phase <;> cases done
      exact current.goesOn (by rintro ⟨⟩)
  | upload =>
      have next (board : String) (rest : List String) :
          Current (if record.dryRun then s.setPhase id (.recorded rest)
            else { s with store := s.store.update id now .uploading "" }.setPhase id (.uploading board rest)) := by
        split
        · exact current.setPhase _
        · exact current.goesOn (by rintro ⟨⟩)
      cases phase with
      | generating =>
          simp only [System.threadStep] at done
          cases boards : record.boardIds with
          | nil =>
              rw [boards] at done
              cases done
          | cons board rest =>
              rw [boards] at done
              simp only [← apply_ite some, Option.some.injEq] at done
              subst done
              exact next board rest
      | recorded rest =>
          simp only [System.threadStep] at done
          cases rest with
          | nil => cases done
          | cons board rest =>
              simp only [← apply_ite some, Option.some.injEq] at done
              subst done
              exact next board rest
      | _ => cases done
  | begins =>
      cases phase with
      | uploading board rest =>
          cases done
          refine (current.replaces (safe board rfl) ?_).setPhase _
          intro owner owns
          cases owns
      | _ => cases done
  | commits session =>
      cases phase with
      | begun board rest =>
          cases done
          refine (current.replaces (safe board rfl) ?_).setPhase _
          intro owner owns
          obtain rfl := Option.some.inj owns
          exact executing
      | _ => cases done
  | records =>
      cases phase with
      | committed board session rest =>
          obtain ⟨stored, same, busy, _⟩ := sound.executing id _ running
          obtain rfl := Option.some.inj (found.symm.trans same)
          simp only [System.threadStep] at done
          split at done
          · cases done
          · cases done
            let sessions := record.withSession board (session % 2 ^ 32)
            refine current.writes (fun row => { row with waveformSessions := sessions, updatedAt := now }) (fun _ => rfl)
              rfl (fun _ => rfl) rfl ?_ (fun _ _ before => System.Executing.setPhase before)
              fun _ _ => executing_setPhase
            intro row rowFound
            obtain rfl := Option.some.inj (found.symm.trans rowFound)
            exact not_flagged_of_state busy
      | _ => cases done
  | ready =>
      cases phase with
      | recorded rest =>
          cases rest with
          | cons board rest => cases done
          | nil =>
              simp only [System.threadStep] at done
              split at done
              · cases done
              · cases done
                refine current.writes (fun row => { row with loaded := true, state := .ready, updatedAt := now })
                  (fun _ => rfl) rfl (fun _ => rfl) rfl ?_ (fun _ _ before => System.Executing.setPhase before)
                  fun _ _ => executing_setPhase
                intro row rowFound
                exact not_flagged_of_state (by rintro ⟨⟩)
      | _ => cases done
  | runsOn =>
      cases phase with
      | ready =>
          simp only [System.threadStep] at done
          split at done
          · cases done
            exact current.finishes _ (fun _ => rfl) (fun _ => not_flagged_of_state (by rintro ⟨⟩))
              (sound.gone found fun _ => safe)
          · cases done
      | _ => cases done
  | release =>
      cases phase with
      | recorded rest =>
          cases rest with
          | cons board rest => cases done
          | nil =>
              simp only [System.threadStep] at done
              split at done
              · cases done
                exact (current.releaseGroup id).setPhase _
              · cases done
      | ready =>
          simp only [System.threadStep] at done
          split at done
          · cases done
          · cases done
            exact (current.releaseGroup id).setPhase _
      | faulted =>
          cases done
          exact (current.releaseGroup id).endThread (sound.gone found fun _ => safe rfl)
      | _ => cases done
  | completes =>
      cases phase with
      | released =>
          simp only [System.threadStep] at done
          have unloaded (record : RunRecord) : ¬ Flagged { record with loaded := false, state := .done, updatedAt := now } :=
            fun flagged => Bool.false_ne_true flagged.2.1
          cases dry : record.dryRun with
          | true =>
              rw [if_pos dry] at done
              cases done
              exact current.finishes _ (fun _ => rfl) unloaded (sound.gone found fun real => absurd dry (by simp [real]))
          | false =>
              rw [if_neg (Bool.eq_false_iff.mp dry)] at done
              cases mode : record.request.completionMode with
              | oneShot =>
                  rw [mode] at done
                  cases done
                  exact current.finishes _ (fun _ => rfl) unloaded (sound.gone found fun _ => safe.1 ⟨dry, mode⟩)
              | upload =>
                  rw [mode] at done
                  cases done
                  exact current.completes found dry (safe.2 dry mode)
      | _ => cases done
  | fails error =>
      have failed : s' = { s with store := s.store.update id now .fault error }.setPhase id .faulted := by
        cases phase <;> cases done <;> rfl
      subst failed
      exact current.goesOn (by rintro ⟨⟩)

theorem Current.create {request : RunCreateRequest} (current : Current s)
    (safe : Safe s now (.create id request)) (done : s.create id request now = some s') : Current s' := by
  unfold System.create at done
  split at done
  · cases done
  · cases stored : s.store.create id now request with
    | none =>
        rw [stored] at done
        cases done
        exact current.releaseGroup id
    | some store =>
        rw [stored] at done
        cases done
        have absent := RunStore.find?_of_create stored
        have found := RunStore.find?_create stored
        refine current.next rfl ?_ ?_
        · intro row record after flagged
          have elsewhere : row ≠ id := by
            rintro rfl
            obtain rfl := Option.some.inj (((found row).trans (if_pos rfl)).symm.trans after)
            exact nomatch flagged.2.2
          exact ⟨((found row).trans (if_neg elsewhere)).symm.trans after,
            fun mem => safe store stored record mem flagged⟩
        · intro board row _ before
          rcases before with running | ⟨record, old, flagged⟩
          · exact .inl (System.Executing.setPhase running)
          · refine .inr ⟨record, ((found row).trans (if_neg ?_)).trans old, flagged⟩
            rintro rfl
            rw [absent] at old
            cases old

theorem Current.asks {request : Pending} (current : Current s) (done : s.asks request = some s') : Current s' := by
  unfold System.asks at done
  cases request with
  | arm id | start id =>
      simp only at done
      split at done
      · split at done
        · cases done
          exact current.moves rfl rfl fun _ _ _ running => running
        · cases done
      · cases done

theorem Current.answers {request : Pending} {outcome : Except String Unit} (current : Current s) (sound : Sound s)
    (done : s.answers request outcome now = some s') : Current s' := by
  unfold System.answers at done
  split at done
  · rename_i mem
    -- a run that waits for its boards plays once, and is not loaded
    have playing (board : String) (owns : s.image board = some request.id) : s.Executing request.id := by
      obtain ⟨record, found, once⟩ := sound.pending request mem
      rcases current.shown board _ owns with running | ⟨row, rowFound, flagged⟩
      · exact running
      · obtain rfl := Option.some.inj (found.symm.trans rowFound)
        obtain ⟨mode, _⟩ := sound.flagged _ _ rowFound flagged
        rw [once.2] at mode
        cases mode
    have answered (state : RunState) (error : String) (busy : state ≠ .done) :
        Current { s with store := s.store.update request.id now state error, pending := s.pending.erase request } :=
      current.writes (fun record => { record with state, error, updatedAt := now }) (fun _ => rfl) rfl
        (fun _ => rfl) rfl (fun _ _ => not_flagged_of_state busy) (fun _ _ running => running) playing
    cases request with
    | arm id =>
        cases outcome with
        | ok accepted =>
            cases done
            exact answered .armed "" nofun
        | error reason =>
            cases done
            exact (answered .fault reason nofun).releaseGroup id
    | start id =>
        cases outcome with
        | ok accepted =>
            cases done
            exact answered .running "" nofun
        | error reason =>
            cases done
            exact (answered .fault reason nofun).releaseGroup id
  · cases done

theorem recovered_flagged {record : RunRecord} (flagged : Flagged record) : recovered now record = record := by
  have same : repaired record = record := if_neg (Bool.eq_false_iff.mp flagged.1)
  unfold recovered
  rw [same, if_neg]
  rw [flagged.2.2]
  exact fun orphan => Bool.false_ne_true orphan.1

theorem mem_list_recovered {store : RunStore} {record : RunRecord} (mem : record ∈ store.list)
    (flagged : Flagged record) : record ∈ RunStore.list (store.opened.recoverOrphaned now []) := by
  have same : repaired record = record := if_neg (Bool.eq_false_iff.mp flagged.1)
  have opened : record ∈ RunStore.list store.opened := by
    rw [RunStore.opened, list_rewrite]
    · exact List.mem_map.mpr ⟨record, mem, same⟩
    · intro row
      split <;> rfl
  rw [RunStore.recoverOrphaned, list_rewrite]
  · refine List.mem_map.mpr ⟨record, opened, if_neg ?_⟩
    rw [flagged.2.2]
    exact fun orphan => Bool.false_ne_true orphan.1
  · intro row
    split <;> rfl

theorem Current.restart (current : Current s) (sound : Sound s) (safe : Safe s now .restart) : Current (s.restart now) := by
  have found (id : String) : (s.store.opened.recoverOrphaned now []).find? id = (s.store.find? id).map (recovered now) :=
    find?_recovered s.store id
  refine current.next rfl ?_ ?_
  · intro id record after flagged
    obtain ⟨old, before, rfl⟩ := Option.map_eq_some_iff.mp ((found id).symm.trans after)
    have same := recovered_of_flagged flagged
    rw [same] at flagged ⊢
    exact ⟨before, fun mem => mem_list_recovered mem flagged⟩
  · intro board id owns before
    rcases before with running | ⟨record, old, flagged⟩
    · obtain ⟨row, stored, mem, _⟩ := sound.owner board id owns
      obtain ⟨among, rfl⟩ := Table.find?_some stored
      exact absurd owns (safe row among running board mem)
    · refine .inr ⟨record, (found id).trans ?_, flagged⟩
      rw [old, Option.map_some, recovered_flagged flagged]

theorem Current.step {event : System.Event} (current : Current s) (sound : Sound s) (safe : Safe s now event)
    (done : s.step now event = some s') : Current s' := by
  cases event with
  | create id request => exact current.create safe done
  | thread id step =>
      simp only [System.step] at done
      split at done
      · rename_i phase record running found
        exact current.threadStep sound running found (safe phase running record found) done
      · cases done
  | asks request => exact current.asks done
  | answers request outcome => exact current.answers sound done
  | abort id error =>
      simp only [System.step, System.abort] at done
      split at done
      · cases done
      · cases done
        have shown (board : String) (owns : s.image board = some id) : s.Executing id := by
          obtain ⟨record, found, mem, _⟩ := sound.owner board id owns
          by_contra ended
          refine safe ended record found board mem ?_
          rwa [(Table.find?_some found).2]
        have aborted : Current { s with store := s.store.update id now .aborted error } :=
          current.writes (fun record => { record with state := .aborted, error, updatedAt := now }) (fun _ => rfl) rfl
            (fun _ => rfl) rfl (fun _ _ => not_flagged_of_state (by rintro ⟨⟩)) (fun _ _ running => running) shown
        exact aborted.releaseGroup id
  | restart =>
      cases done
      exact current.restart sound safe
  | overwritten board =>
      cases done
      refine current.replaces safe ?_
      intro owner owns
      cases owns

theorem Current.run {events : List (Nat × System.Event)} (current : Current s) (sound : Sound s)
    (safe : SafeRun s events) (done : s.run events = some s') : Current s' := by
  induction events generalizing s with
  | nil =>
      cases done
      exact current
  | cons event later ih =>
      obtain ⟨now, event⟩ := event
      obtain ⟨mid, here, rest⟩ := Option.bind_eq_some_iff.mp done
      exact ih (current.step sound safe.1 here) (sound.step here) (safe.2 mid here) rest

/-! ## What is reported -/

theorem requireLoaded_ok {record : RunRecord} (passes : s.requireLoaded id = .ok record) :
    s.store.find? id = some record ∧ Flagged record := by
  unfold System.requireLoaded at passes
  split at passes
  · cases passes
  · rename_i row found
    split at passes
    · cases passes
    · rename_i refused
      obtain rfl := Except.ok.inj passes
      rw [not_or, not_or, not_not] at refused
      obtain ⟨real, state, loaded⟩ := refused
      exact ⟨found, Bool.eq_false_iff.mpr real, Bool.eq_true_of_not_eq_false loaded, state⟩

theorem requireLoaded_of_armLoaded {answers : String → Nat → Except String Unit} {record : RunRecord}
    (armed : s.armLoaded id answers = .ok record) : s.requireLoaded id = .ok record := by
  unfold System.armLoaded at armed
  cases passes : s.requireLoaded id with
  | error reason =>
      rw [passes] at armed
      cases armed
  | ok row =>
      simp only [passes] at armed
      split at armed
      · cases armed
      · exact armed

theorem requireLoaded_of_triggerLoaded {isMaster : String → Bool} {answers : String → Nat → Except String Unit}
    {record : RunRecord} (played : s.triggerLoaded isMaster id answers = .ok record) :
    s.requireLoaded id = .ok record := by
  unfold System.triggerLoaded at played
  cases passes : s.requireLoaded id with
  | error reason =>
      rw [passes] at played
      cases played
  | ok row =>
      simp only [passes] at played
      split at played
      · cases played
      · split at played
        · cases played
        · exact played

theorem mem_loadedRunForBoard {board : String} {record : RunRecord} :
    (record ∈ s.store.list.filter fun record =>
      !record.dryRun && record.loaded && decide (record.state = .done) && decide (board ∈ record.boardIds)) ↔
      record ∈ s.store.list ∧ Flagged record ∧ board ∈ record.boardIds := by
  simp only [List.mem_filter, Flagged, Bool.and_eq_true, Bool.not_eq_true', decide_eq_true_eq, and_assoc]

theorem Current.identity (current : Current s) (sound : Sound s) : LoadedIdentity s := by
  have held (record : RunRecord) (mem : record ∈ s.store.rows) (flagged : Flagged record) (board : String)
      (claims : board ∈ record.boardIds) : s.image board = some record.id :=
    current.held record.id record (s.store.find?_of_mem mem) flagged board claims
  refine ⟨?_, ?_, ?_, ?_⟩
  · intro board
    unfold System.loadedRunForBoard
    cases rows : s.store.list.filter fun record =>
      !record.dryRun && record.loaded && decide (record.state = .done) && decide (board ∈ record.boardIds) with
    | nil =>
        cases owns : s.image board with
        | none => rfl
        | some id =>
            rcases current.shown board id owns with running | ⟨record, found, flagged⟩
            · rw [Option.filter_some, if_neg]
              · rfl
              · simpa using running
            · -- its row would have been found
              obtain ⟨owner, ownerFound, mem, _⟩ := sound.owner board id owns
              obtain rfl := Option.some.inj (found.symm.trans ownerFound)
              have among := mem_loadedRunForBoard.mpr ⟨current.listed id record found flagged, flagged, mem⟩
              rw [rows] at among
              cases among
    | cons record rest =>
        have among := List.mem_cons_self (a := record) (l := rest)
        rw [← rows, mem_loadedRunForBoard] at among
        obtain ⟨mem, flagged, claims⟩ := among
        have stored := RunStore.mem_rows_of_mem_list mem
        have ended : ¬ s.Executing record.id := by
          intro running
          obtain ⟨phase, runs⟩ := Option.ne_none_iff_exists'.mp running
          obtain ⟨row, found, busy, _⟩ := sound.executing record.id phase runs
          obtain rfl := Option.some.inj ((s.store.find?_of_mem stored).symm.trans found)
          exact busy flagged.2.2
        rw [held record stored flagged board claims, Option.filter_some, if_pos]
        · rfl
        · simpa using ended
  · intro board first second firstMem secondMem firstFlagged secondFlagged firstClaims secondClaims
    have owner := held first firstMem firstFlagged board firstClaims
    rw [held second secondMem secondFlagged board secondClaims] at owner
    exact (Option.some.inj owner).symm
  · intro id answers record armed board claims
    obtain ⟨found, flagged⟩ := requireLoaded_ok (requireLoaded_of_armLoaded armed)
    exact current.held id record found flagged board claims
  · intro isMaster id answers record played board claims
    obtain ⟨found, flagged⟩ := requireLoaded_ok (requireLoaded_of_triggerLoaded played)
    exact current.held id record found flagged board claims

/-- In a history whose events all find what they must, the flags are right. -/
theorem loaded_identity {events : List (Nat × System.Event)} (safe : SafeRun System.empty events)
    (done : System.empty.run events = some s) : LoadedIdentity s :=
  (Current.empty.run Sound.empty safe done).identity (Sound.empty.run done)

/-- The events of an upload to one board that fails nowhere; `ends` follows its session. -/
def uploadOf (id : String) (request : RunCreateRequest) (session : Nat) (ends : List System.ThreadStep) :
    List (Nat × System.Event) :=
  let steps : List System.ThreadStep := [.generate, .upload, .begins, .commits session, .records] ++ ends
  (0, .create id request) :: steps.map fun step => (0, .thread id step)

/-- A run of the board `"b"` alone -/
def onlyBoard (completionMode : CompletionMode) : RunCreateRequest where
  boardIds := ["b"]
  dryRun := false
  executionMode := .single
  completionMode
  playbackMode := .single
  oneShotDurationMs := 0
  once := List.nodup_singleton _
  boards := rfl

theorem uploadedRun_identity : ∃ s, System.empty.run (uploadOf "1" (onlyBoard .upload) 7 [.release, .completes]) =
    some s ∧ s.image "b" = some "1" ∧ LoadedIdentity s := by
  have runs : (System.empty.run (uploadOf "1" (onlyBoard .upload) 7 [.release, .completes])).any
      (fun s => s.image "b" = some "1") = true := by decide
  obtain ⟨s, done, owns⟩ := (Option.any_eq_true _ _).mp runs
  exact ⟨s, done, of_decide_eq_true owns, loaded_identity (by decide) done⟩

/-- A run that only uploads stays the loaded one after a run that plays once has taken the board. -/
theorem replacedRun_still_reported :
    ¬ ∀ events s, System.empty.run events = some s → LoadedIdentity s := by
  intro claim
  have runs : (System.empty.run (uploadOf "1" (onlyBoard .upload) 7 [.release, .completes] ++
      uploadOf "2" (onlyBoard .oneShot) 8 [.ready, .release, .completes])).any
      (fun s => decide ((s.loadedRunForBoard "b").map RunRecord.id = some "1" ∧ s.image "b" = some "2")) = true := by
    decide
  obtain ⟨s, done, reports⟩ := (Option.any_eq_true _ _).mp runs
  obtain ⟨reported, owner⟩ := of_decide_eq_true reports
  have lookup := (claim _ s done).lookup "b"
  rw [reported, owner, Option.filter_some] at lookup
  split at lookup
  · exact absurd (Option.some.inj lookup) (by decide)
  · cases lookup

end Xczu47dr.Runs
