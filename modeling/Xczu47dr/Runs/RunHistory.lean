import Xczu47dr.Runs.RunCoordinator

/-! # What is known of every history of runs

A thread executes a run that is stored and not done, with the sessions of the boards
it has left behind; an image belongs to a run of the board.
-/

namespace Xczu47dr.Runs

open Records RunStore

variable {s : System} {id : String} {now : Nat}

/-- A waveform of the run has been uploaded, and its task has completed. -/
def Flagged (record : RunRecord) : Prop := record.dryRun = false ∧ record.loaded = true ∧ record.state = .done

def PlaysOnce (record : RunRecord) : Prop :=
  record.dryRun = false ∧ record.request.completionMode = .oneShot

/-- The sessions of the boards are stored, but for those left. -/
def SessionsBut (record : RunRecord) (left : List String) : Prop :=
  record.dryRun = false → ∀ board ∈ record.boardIds, board ∉ left →
    ∃ session, record.session board = some session ∧ session % 2 ^ 32 ≠ 0

/-- What the thread of a run has behind it. -/
def Fits (record : RunRecord) : Phase → Prop
  | .queued | .generating | .faulted => True
  | .uploading board rest | .begun board rest | .committed board _ rest =>
      record.dryRun = false ∧ board ∈ record.boardIds ∧ (∀ other ∈ rest, other ∈ record.boardIds) ∧
        SessionsBut record (board :: rest)
  | .recorded rest => (∀ other ∈ rest, other ∈ record.boardIds) ∧ SessionsBut record rest
  | .ready => PlaysOnce record ∧ SessionsBut record []
  | .released => SessionsBut record []

structure Sound (s : System) : Prop where
  executing : ∀ id phase, s.thread id = some phase →
    ∃ record, s.store.find? id = some record ∧ record.state ≠ .done ∧ Fits record phase
  owner : ∀ board id, s.image board = some id →
    ∃ record, s.store.find? id = some record ∧ board ∈ record.boardIds ∧ record.dryRun = false
  waiting : ∀ id record, s.store.find? id = some record → record.state = .ready ∨ record.state = .armed →
    PlaysOnce record
  pending : ∀ request ∈ s.pending, ∃ record, s.store.find? request.id = some record ∧ PlaysOnce record
  flagged : ∀ id record, s.store.find? id = some record → Flagged record →
    record.request.completionMode = .upload ∧ SessionsBut record []

theorem Sound.empty : Sound System.empty where
  executing := nofun
  owner := nofun
  waiting := nofun
  pending := nofun
  flagged := nofun

/-- Rows are not compared by what an update of the state writes. -/
theorem Fits.congr {record changed : RunRecord} {phase : Phase} (fits : Fits record phase)
    (request : changed.request = record.request) (sessions : changed.waveformSessions = record.waveformSessions) :
    Fits changed phase := by
  have same : (changed.request, changed.waveformSessions) = (record.request, record.waveformSessions) :=
    Prod.ext request sessions
  obtain ⟨_, _, _, _, _, _, _, _⟩ := record
  obtain ⟨_, _, _, _, _, _, _, _⟩ := changed
  cases same
  exact fits

/-! ## One write -/

/-- What an update of a row must keep. -/
structure Keeps (s : System) (record changed : RunRecord) : Prop where
  request : changed.request = record.request
  busy : s.Executing record.id → changed.state ≠ .done
  fits : ∀ phase, s.thread record.id = some phase → Fits record phase → Fits changed phase
  waiting : changed.state = .ready ∨ changed.state = .armed → PlaysOnce changed
  flagged : Flagged changed → changed.request.completionMode = .upload ∧ SessionsBut changed []

theorem PlaysOnce.congr {record changed : RunRecord} (once : PlaysOnce record)
    (request : changed.request = record.request) : PlaysOnce changed := by
  simpa only [PlaysOnce, RunRecord.dryRun, request] using once

theorem Sound.amend (sound : Sound s) {change : RunRecord → RunRecord}
    (keeps : ∀ record, (change record).id = record.id)
    (kept : ∀ record, s.store.find? id = some record → Keeps s record (change record)) :
    Sound { s with store := s.store.amend id change keeps } := by
  have changed (record : RunRecord) (found : s.store.find? id = some record) :
      (s.store.amend id change keeps).find? id = some (change record) := by
    rw [Table.find?_amend, found, Option.map_some]
  have unchanged {other : String} (different : other ≠ id) :
      (s.store.amend id change keeps).find? other = s.store.find? other := Table.find?_amend_ne _ _ _ different
  -- a row found afterwards is the changed one or an old one
  have cases {other : String} {after : RunRecord}
      (found : (s.store.amend id change keeps).find? other = some after) :
      s.store.find? other = some after ∨
        ∃ record, other = id ∧ s.store.find? id = some record ∧ after = change record := by
    by_cases same : other = id
    · rw [same, Table.find?_amend] at found
      obtain ⟨record, old, rfl⟩ := Option.map_eq_some_iff.mp found
      exact .inr ⟨record, same, old, rfl⟩
    · rw [unchanged same] at found
      exact .inl found
  refine ⟨?_, ?_, ?_, ?_, ?_⟩
  · intro other phase running
    obtain ⟨record, found, busy, fits⟩ := sound.executing other phase running
    by_cases same : other = id
    · subst same
      have keep := kept record found
      obtain rfl := (Table.find?_some found).2
      exact ⟨change record, changed record found, keep.busy (by rw [System.Executing, running]; nofun),
        keep.fits phase running fits⟩
    · exact ⟨record, (unchanged same).trans found, busy, fits⟩
  · intro board other owns
    obtain ⟨record, found, mem, dry⟩ := sound.owner board other owns
    by_cases same : other = id
    · subst same
      have request := (kept record found).request
      refine ⟨change record, changed record found, ?_, ?_⟩
      · rwa [RunRecord.boardIds, request]
      · rwa [RunRecord.dryRun, request]
    · exact ⟨record, (unchanged same).trans found, mem, dry⟩
  · intro other after found state
    rcases cases found with old | ⟨record, _, old, rfl⟩
    · exact sound.waiting other after old state
    · exact (kept record old).waiting state
  · intro request mem
    obtain ⟨record, found, once⟩ := sound.pending request mem
    by_cases same : request.id = id
    · rw [same] at found ⊢
      exact ⟨change record, changed record found, once.congr (kept record found).request⟩
    · exact ⟨record, (unchanged same).trans found, once⟩
  · intro other after found flagged
    rcases cases found with old | ⟨record, _, old, rfl⟩
    · exact sound.flagged other after old flagged
    · exact (kept record old).flagged flagged

/-- `update` never writes DONE, and READY and ARMED only for runs that play once. -/
theorem Sound.update (sound : Sound s) {state : RunState} {error : String} (busy : state ≠ .done)
    (waits : state = .ready ∨ state = .armed → ∀ record, s.store.find? id = some record → PlaysOnce record) :
    Sound { s with store := s.store.update id now state error } := by
  refine sound.amend _ fun record found => ⟨rfl, fun _ => busy, ?_, ?_, fun flagged => absurd flagged.2.2 busy⟩
  · exact fun phase _ fits => fits.congr rfl rfl
  · exact fun state => (waits state record found).congr rfl

theorem Sound.setPhase (sound : Sound s) {record : RunRecord} {phase : Phase}
    (found : s.store.find? id = some record) (busy : record.state ≠ .done) (fits : Fits record phase) :
    Sound (s.setPhase id phase) := by
  refine { sound with executing := ?_ }
  intro other other_phase running
  by_cases same : other = id
  · subst same
    rw [System.setPhase_self] at running
    obtain rfl := Option.some.inj running
    exact ⟨record, found, busy, fits⟩
  · rw [System.setPhase_ne same] at running
    exact sound.executing other other_phase running

theorem Sound.endThread (sound : Sound s) (id : String) : Sound (s.endThread id) := by
  refine { sound with executing := ?_ }
  intro other phase running
  by_cases same : other = id
  · subst same
    rw [System.endThread_self] at running
    cases running
  · rw [System.endThread_ne same] at running
    exact sound.executing other phase running

theorem Sound.releaseGroup (sound : Sound s) (id : String) : Sound (s.releaseGroup id) := { sound with }

theorem Sound.clears (sound : Sound s) (board : String) : Sound (s.setImage board none) := by
  refine { sound with owner := ?_ }
  intro other id owns
  by_cases same : other = board
  · subst same
    rw [System.setImage_self] at owns
    cases owns
  · rw [System.setImage_ne same] at owns
    exact sound.owner other id owns

theorem Sound.commits (sound : Sound s) {board : String} {record : RunRecord}
    (found : s.store.find? id = some record) (mem : board ∈ record.boardIds) (real : record.dryRun = false) :
    Sound (s.setImage board (some id)) := by
  refine { sound with owner := ?_ }
  intro other owner owns
  by_cases same : other = board
  · subst same
    rw [System.setImage_self] at owns
    obtain rfl := Option.some.inj owns
    exact ⟨record, found, mem, real⟩
  · rw [System.setImage_ne same] at owns
    exact sound.owner other owner owns

/-! ## One step -/

theorem find?_update {record : RunRecord} {state : RunState} {error : String}
    (found : s.store.find? id = some record) :
    (s.store.update id now state error).find? id = some { record with state, error, updatedAt := now } := by
  rw [RunStore.update, Table.find?_amend, found]
  rfl

/-- The thread writes a state of a run in progress, and goes on. -/
theorem Sound.goesOn (sound : Sound s) {record : RunRecord} {state : RunState} {error : String} {phase : Phase}
    (found : s.store.find? id = some record) (busy : state ≠ .done) (ready : state ≠ .ready) (armed : state ≠ .armed)
    (fits : Fits record phase) :
    Sound ({ s with store := s.store.update id now state error }.setPhase id phase) := by
  have updated : Sound { s with store := s.store.update id now state error } :=
    sound.update busy fun waits => absurd waits (by simp [ready, armed])
  exact updated.setPhase (find?_update found) busy (fits.congr rfl rfl)

/-- With the run no longer executed, its row may say DONE, if it is then loaded only by an upload. -/
theorem Sound.finishes (sound : Sound s) (change : RunRecord → RunRecord)
    {keeps : ∀ record, (change record).id = record.id}
    (request : ∀ record, (change record).request = record.request)
    (done : ∀ record, (change record).state = .done)
    (flagged : ∀ record, s.store.find? id = some record → Flagged (change record) →
      record.request.completionMode = .upload ∧ SessionsBut (change record) []) :
    Sound ({ s with store := s.store.amend id change keeps }.endThread id) := by
  have idle := sound.endThread id
  refine idle.amend keeps fun record found => ⟨request record, ?_, ?_, ?_, ?_⟩
  · intro running
    rw [(Table.find?_some found).2] at running
    exact absurd System.endThread_self running
  · intro phase running
    rw [(Table.find?_some found).2, System.endThread_self] at running
    cases running
  · intro waits
    rw [done record] at waits
    exact absurd waits (by decide)
  · intro loaded
    obtain ⟨mode, sessions⟩ := flagged record found loaded
    exact ⟨(congrArg _ (request record)).trans mode, sessions⟩

theorem session_withSession (record : RunRecord) (board other : String) (session : Nat) :
    ({ record with waveformSessions := record.withSession board session } : RunRecord).session other =
      if other = board then some session else record.session other := by
  unfold RunRecord.session RunRecord.withSession
  by_cases same : other = board
  · simp [same]
  · rw [if_neg same, List.find?_cons_of_neg (by simpa using fun h => same h.symm), List.find?_filter]
    refine congrArg _ (congrArg (fun p => record.waveformSessions.find? p) (funext fun entry => ?_))
    by_cases here : entry.1 = other
    · simp [here, same]
    · simp [here]

theorem Sound.uploads (sound : Sound s) {record : RunRecord} {rest : List String} {board : String}
    (found : s.store.find? id = some record) (busy : record.state ≠ .done)
    (inside : ∀ other ∈ board :: rest, other ∈ record.boardIds) (sessions : SessionsBut record (board :: rest)) :
    Sound (if record.dryRun then s.setPhase id (.recorded rest)
      else { s with store := s.store.update id now .uploading "" }.setPhase id (.uploading board rest)) := by
  have behind (other : String) (mem : other ∈ rest) : other ∈ record.boardIds := inside other (List.mem_cons_of_mem _ mem)
  cases dry : record.dryRun with
  | true =>
      rw [if_pos rfl]
      refine sound.setPhase found busy ⟨behind, fun real => ?_⟩
      rw [dry] at real
      cases real
  | false =>
      rw [if_neg Bool.false_ne_true]
      exact sound.goesOn found (by decide) (by decide) (by decide)
        ⟨dry, inside board List.mem_cons_self, behind, sessions⟩

theorem Sound.threadStep {s' : System} {record : RunRecord} {phase : Phase} {step : System.ThreadStep}
    (sound : Sound s) (running : s.thread id = some phase) (found : s.store.find? id = some record)
    (done : s.threadStep id now record phase step = some s') : Sound s' := by
  obtain ⟨stored, same, busy, fits⟩ := sound.executing id phase running
  obtain rfl := Option.some.inj (found.symm.trans same)
  cases step with
  | generate =>
      cases phase <;> cases done
      exact sound.goesOn found (by decide) (by decide) (by decide) trivial
  | upload =>
      cases phase with
      | generating =>
          simp only [System.threadStep] at done
          cases boards : record.boardIds with
          | nil =>
              rw [boards] at done
              cases done
          | cons board rest =>
              rw [boards] at done
              simp only [← apply_ite some, Option.some.injEq] at done
              subst done
              refine sound.uploads found busy (fun other mem => boards ▸ mem) fun _ other mem absent => ?_
              rw [boards] at mem
              exact absurd mem absent
      | recorded rest =>
          simp only [System.threadStep] at done
          obtain ⟨inside, sessions⟩ := fits
          cases rest with
          | nil => cases done
          | cons board rest =>
              simp only [← apply_ite some, Option.some.injEq] at done
              subst done
              exact sound.uploads found busy inside sessions
      | _ => cases done
  | begins =>
      cases phase with
      | uploading board rest =>
          cases done
          exact (sound.clears board).setPhase found busy fits
      | _ => cases done
  | commits session =>
      cases phase with
      | begun board rest =>
          cases done
          exact (sound.commits found fits.2.1 fits.1).setPhase found busy fits
      | _ => cases done
  | records =>
      cases phase with
      | committed board session rest =>
          simp only [System.threadStep] at done
          split at done
          · cases done
          · rename_i valid
            cases done
            have nonzero := (not_or.mp valid).1
            obtain ⟨real, mem, inside, sessions⟩ := fits
            have changed : (s.store.setWaveformSessions id now (record.withSession board (session % 2 ^ 32))).find? id =
                some { record with
                  waveformSessions := record.withSession board (session % 2 ^ 32), updatedAt := now } := by
              rw [RunStore.setWaveformSessions, Table.find?_amend, found]
              rfl
            have grown (left : List String) (before : SessionsBut record (board :: left)) :
                SessionsBut { record with
                  waveformSessions := record.withSession board (session % 2 ^ 32), updatedAt := now } left := by
              intro dry other otherMem absent
              have after := session_withSession record board other (session % 2 ^ 32)
              by_cases here : other = board
              · rw [if_pos here] at after
                exact ⟨_, after, by rwa [Nat.mod_mod]⟩
              · rw [if_neg here] at after
                obtain ⟨old, stored, positive⟩ := before dry other otherMem (by simp [here, absent])
                exact ⟨old, after.trans stored, positive⟩
            have stored : Sound { s with
                store := s.store.setWaveformSessions id now (record.withSession board (session % 2 ^ 32)) } := by
              refine sound.amend _ fun old oldFound => ?_
              obtain rfl := Option.some.inj (found.symm.trans oldFound)
              refine ⟨rfl, fun _ => busy, ?_, fun state => (sound.waiting id record found state).congr rfl, ?_⟩
              · intro phase' running' _
                rw [(Table.find?_some found).2, running] at running'
                cases running'
                refine ⟨real, mem, inside, grown (board :: rest) fun dry other otherMem absent => ?_⟩
                exact sessions dry other otherMem fun bad => absent (List.mem_cons_of_mem _ bad)
              · exact fun flagged => absurd flagged.2.2 busy
            exact stored.setPhase changed busy ⟨inside, grown rest sessions⟩
      | _ => cases done
  | ready =>
      cases phase with
      | recorded rest =>
          cases rest with
          | cons board rest => cases done
          | nil =>
              simp only [System.threadStep] at done
              split at done
              · cases done
              · rename_i once
                cases done
                obtain ⟨_, sessions⟩ := fits
                have plays : PlaysOnce record := by
                  rw [not_or] at once
                  refine ⟨Bool.eq_false_iff.mpr once.1, ?_⟩
                  cases mode : record.request.completionMode with
                  | upload => exact absurd mode once.2
                  | oneShot => rfl
                have stored : Sound { s with store := s.store.completeLoaded id now .ready } := by
                  refine sound.amend _ fun old oldFound => ?_
                  obtain rfl := Option.some.inj (found.symm.trans oldFound)
                  exact ⟨rfl, fun _ => nofun, fun _ _ fits => fits.congr rfl rfl, fun _ => plays.congr rfl,
                    fun flagged => nomatch flagged.2.2⟩
                have changed : (s.store.completeLoaded id now .ready).find? id =
                    some { record with loaded := true, state := .ready, updatedAt := now } := by
                  rw [RunStore.completeLoaded, Table.find?_amend, found]
                  rfl
                exact stored.setPhase changed nofun ⟨plays.congr rfl, sessions⟩
      | _ => cases done
  | runsOn =>
      cases phase with
      | ready =>
          simp only [System.threadStep] at done
          split at done
          · cases done
            exact (sound.update (by decide) fun waits => absurd waits (by decide)).endThread id
          · cases done
      | _ => cases done
  | release =>
      cases phase with
      | recorded rest =>
          cases rest with
          | cons board rest => cases done
          | nil =>
              simp only [System.threadStep] at done
              split at done
              · cases done
                exact (sound.releaseGroup id).setPhase found busy fits.2
              · cases done
      | ready =>
          simp only [System.threadStep] at done
          split at done
          · cases done
          · cases done
            exact (sound.releaseGroup id).setPhase found busy fits.2
      | faulted =>
          cases done
          exact (sound.releaseGroup id).endThread id
      | _ => cases done
  | completes =>
      cases phase with
      | released =>
          simp only [System.threadStep] at done
          split at done
          · cases done
            exact sound.finishes _ (fun _ => rfl) (fun _ => rfl) fun _ _ flagged =>
              absurd flagged.2.1 Bool.false_ne_true
          · split at done
            · cases done
              exact sound.finishes _ (fun _ => rfl) (fun _ => rfl) fun _ _ flagged =>
              absurd flagged.2.1 Bool.false_ne_true
            · rename_i mode
              cases done
              refine sound.finishes _ (fun _ => rfl) (fun _ => rfl) fun old oldFound _ => ?_
              obtain rfl := Option.some.inj (found.symm.trans oldFound)
              exact ⟨mode, fits⟩
      | _ => cases done
  | fails error =>
      have failed : s' = { s with store := s.store.update id now .fault error }.setPhase id .faulted := by
        cases phase <;> cases done <;> rfl
      subst failed
      exact sound.goesOn found (by decide) (by decide) (by decide) trivial

theorem Sound.create {s' : System} {request : RunCreateRequest} (sound : Sound s)
    (done : s.create id request now = some s') : Sound s' := by
  unfold System.create at done
  split at done
  · cases done
  · cases stored : s.store.create id now request with
    | none =>
        rw [stored] at done
        cases done
        exact sound.releaseGroup id
    | some store =>
        rw [stored] at done
        cases done
        have absent := RunStore.find?_of_create stored
        have found := RunStore.find?_create stored
        -- the rows there were are still there
        have old {row : String} {record : RunRecord} (before : s.store.find? row = some record) :
            store.find? row = some record := by
          rw [found row, if_neg, before]
          rintro rfl
          rw [absent] at before
          cases before
        have cases {row : String} {record : RunRecord} (after : store.find? row = some record) :
            s.store.find? row = some record ∨ record = RunStore.created id now request := by
          rw [found row] at after
          split at after
          · exact .inr (Option.some.inj after).symm
          · exact .inl after
        have stored' : Sound { s with
            store, active := s.active ++ request.boardIds.map fun board => (board, id) } := by
          refine ⟨?_, ?_, ?_, ?_, ?_⟩
          · intro row phase running
            obtain ⟨record, before, rest⟩ := sound.executing row phase running
            exact ⟨record, old before, rest⟩
          · intro board row owns
            obtain ⟨record, before, rest⟩ := sound.owner board row owns
            exact ⟨record, old before, rest⟩
          · intro row record after waits
            rcases cases after with before | rfl
            · exact sound.waiting row record before waits
            · exact absurd waits (by simp [RunStore.created])
          · intro asked mem
            obtain ⟨record, before, once⟩ := sound.pending asked mem
            exact ⟨record, old before, once⟩
          · intro row record after flagged
            rcases cases after with before | rfl
            · exact sound.flagged row record before flagged
            · exact nomatch flagged.2.2
        exact stored'.setPhase ((found id).trans (if_pos rfl)) nofun trivial

theorem Sound.asks {s' : System} {request : Pending} (sound : Sound s) (done : s.asks request = some s') :
    Sound s' := by
  -- the row of a run that waits says that it plays once
  have asked (record : RunRecord) (found : s.store.find? request.id = some record)
      (waits : record.state = .ready ∨ record.state = .armed) : Sound { s with pending := request :: s.pending } := by
    refine { sound with pending := ?_ }
    intro other mem
    rcases List.mem_cons.mp mem with rfl | mem
    · exact ⟨record, found, sound.waiting _ record found waits⟩
    · exact sound.pending other mem
  unfold System.asks at done
  cases request with
  | arm id | start id =>
      simp only at done
      split at done
      · rename_i record found
        split at done
        · rename_i state
          cases done
          exact asked record found (by simp [state])
        · cases done
      · cases done

theorem Sound.answers {s' : System} {request : Pending} {outcome : Except String Unit} (sound : Sound s)
    (done : s.answers request outcome now = some s') : Sound s' := by
  unfold System.answers at done
  split at done
  · rename_i mem
    obtain ⟨record, found, once⟩ := sound.pending request mem
    have rest : Sound { s with pending := s.pending.erase request } :=
      { sound with pending := fun other mem => sound.pending other (List.mem_of_mem_erase mem) }
    have plays (other : RunRecord) (otherFound : s.store.find? request.id = some other) : PlaysOnce other := by
      obtain rfl := Option.some.inj (found.symm.trans otherFound)
      exact once
    cases request with
    | arm id =>
        cases outcome with
        | ok done' =>
            cases done
            exact rest.update (by decide) fun _ => plays
        | error reason =>
            cases done
            exact (rest.update (by decide) fun waits => absurd waits (by decide)).releaseGroup id
    | start id =>
        cases outcome with
        | ok done' =>
            cases done
            exact rest.update (by decide) fun waits => absurd waits (by decide)
        | error reason =>
            cases done
            exact (rest.update (by decide) fun waits => absurd waits (by decide)).releaseGroup id
  · cases done

/-- The repair of a row when the store is opened. -/
def repaired (record : RunRecord) : RunRecord := if record.dryRun then { record with loaded := false } else record

def recovered (now : Nat) (record : RunRecord) : RunRecord :=
  if inProgress (repaired record).state ∧ (repaired record).id ∉ ([] : List String) then
    { repaired record with state := .aborted, error := orphanError, updatedAt := now }
  else repaired record

theorem find?_recovered (store : RunStore) (id : String) :
    (store.opened.recoverOrphaned now []).find? id = (store.find? id).map (recovered now) := by
  rw [RunStore.recoverOrphaned, Table.find?_rewrite, RunStore.opened, Table.find?_rewrite, Option.map_map]
  rfl

theorem repaired_request (record : RunRecord) : (repaired record).request = record.request := by
  unfold repaired
  split <;> rfl

theorem recovered_request (now : Nat) (record : RunRecord) : (recovered now record).request = record.request := by
  unfold recovered
  split <;> exact repaired_request record

/-- No row is left in a state of a run in progress. -/
theorem recovered_settled (now : Nat) (record : RunRecord) : inProgress (recovered now record).state = false := by
  unfold recovered
  split
  · rfl
  · rename_i settled
    rw [not_and_or, not_not] at settled
    rcases settled with idle | active
    · exact Bool.eq_false_iff.mpr idle
    · cases active

theorem recovered_of_flagged {record : RunRecord} (flagged : Flagged (recovered now record)) :
    recovered now record = record := by
  obtain ⟨real, _, state⟩ := flagged
  rw [RunRecord.dryRun, recovered_request] at real
  have same : repaired record = record := if_neg (Bool.eq_false_iff.mp real)
  unfold recovered at state ⊢
  rw [same] at state ⊢
  split at state
  · cases state
  · rename_i idle
    exact if_neg idle

theorem Sound.restart (sound : Sound s) (now : Nat) : Sound (s.restart now) := by
  refine ⟨nofun, ?_, ?_, nofun, ?_⟩
  · intro board id owns
    obtain ⟨record, found, mem, real⟩ := sound.owner board id owns
    have request := recovered_request now record
    refine ⟨recovered now record, (find?_recovered s.store id).trans (by rw [found]; rfl), ?_, ?_⟩
    · rwa [RunRecord.boardIds, request]
    · rwa [RunRecord.dryRun, request]
  · intro id record found waits
    obtain ⟨old, _, rfl⟩ := Option.map_eq_some_iff.mp ((find?_recovered s.store id).symm.trans found)
    have settled := recovered_settled now old
    rcases waits with state | state
    · rw [state] at settled
      cases settled
    · rw [state] at settled
      cases settled
  · intro id record found flagged
    obtain ⟨old, before, rfl⟩ := Option.map_eq_some_iff.mp ((find?_recovered s.store id).symm.trans found)
    obtain same := recovered_of_flagged flagged
    rw [same] at flagged ⊢
    exact sound.flagged id old before flagged

theorem Sound.step {s' : System} {event : System.Event} (sound : Sound s) (done : s.step now event = some s') :
    Sound s' := by
  cases event with
  | create id request => exact sound.create done
  | thread id step =>
      simp only [System.step] at done
      split at done
      · rename_i phase record running found
        exact sound.threadStep running found done
      · cases done
  | asks request => exact sound.asks done
  | answers request outcome => exact sound.answers done
  | abort id error =>
      simp only [System.step, System.abort] at done
      split at done
      · cases done
      · cases done
        exact (sound.update (by decide) fun waits => absurd waits (by decide)).releaseGroup id
  | restart =>
      cases done
      exact sound.restart now
  | overwritten board =>
      cases done
      exact sound.clears board

theorem Sound.run {s' : System} {events : List (Nat × System.Event)} (sound : Sound s)
    (done : s.run events = some s') : Sound s' := by
  induction events generalizing s with
  | nil =>
      cases done
      exact sound
  | cons event later ih =>
      obtain ⟨now, event⟩ := event
      obtain ⟨mid, here, rest⟩ := Option.bind_eq_some_iff.mp done
      exact ih (sound.step here) rest

end Xczu47dr.Runs
