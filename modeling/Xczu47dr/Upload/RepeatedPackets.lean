import Xczu47dr.Playback.PlaybackController
import Xczu47dr.Upload.RejectedPackets

/-! # Packets that are sent again

The host sends a request again when its answer is lost, and the writer may have
processed it already.  Processing the same packet twice in a row never changes the
session twice; what the second answer says depends on the request.
-/

namespace Xczu47dr.Upload

open Playback (PlaybackController ControllerIn)

/-! ## Commands that may be repeated -/

/-- The playback controller is given this command and no other. -/
def PlaybackCommand.GivenTo (k : PlaybackCommand) (i : ControllerIn) : Prop :=
  i.beginCmd = decide (k = .begin) ∧ i.commitCmd = decide (k = .commit) ∧ i.playCmd = decide (k = .play) ∧
    i.pauseCmd = decide (k = .pause) ∧ i.stopCmd = decide (k = .stop) ∧ i.abortCmd = decide (k = .abort)

/-- The controllers are in the same session, whatever triggers they have counted. -/
def SameSession (s t : PlaybackController) : Prop :=
  s.state = t.state ∧ s.playPending = t.playPending ∧ s.loopRestart = t.loopRestart ∧ s.loopPosition = t.loopPosition

/-- Given a second time, the command changes nothing in the playback controller. -/
def PlaybackCommand.Idempotent (k : PlaybackCommand) : Prop :=
  ∀ (s : PlaybackController) (i j : ControllerIn), k.GivenTo i → k.GivenTo j → SameSession ((s.step i).step j) (s.step i)

theorem countTrigger_sameSession (s : PlaybackController) (i : ControllerIn) : SameSession (s.countTrigger i) s := by
  unfold PlaybackController.countTrigger
  split_ifs <;> exact ⟨rfl, rfl, rfl, rfl⟩

/-- A cycle in which the playback controller is told to stop or to pause. -/
theorem halt_step {s : PlaybackController} {i : ControllerIn} {k : PlaybackCommand} (given : k.GivenTo i)
    (halts : k = .pause ∨ k = .stop) :
    s.step i =
      let t := { s.countTrigger i with loopRestart := false }
      if s.activeFault i then { t with state := .error, playPending := false }
      else if k = .stop ∧ s.state = .upload then t.settle .idle
      else if s.haltable then t.settle .ready
      else t := by
  obtain ⟨begins, commits, -, pauses, stops, aborts⟩ := given
  rcases halts with rfl | rfl <;>
    cases state : s.state <;>
      simp [PlaybackController.step, PlaybackController.haltable, PlaybackController.advance, begins, commits, pauses,
        stops, aborts, state]

/-- What a halted session looks like. -/
structure Halted (k : PlaybackCommand) (s : PlaybackController) : Prop where
  restart : s.loopRestart = false
  state : s.state = .idle ∨ s.state = .ready ∨ s.state = .error ∨ k = .pause ∧ s.state = .upload
  ready : s.state = .ready → s.playPending = false ∧ s.loopPosition = 0

theorem halted_of_step {s : PlaybackController} {i : ControllerIn} {k : PlaybackCommand} (given : k.GivenTo i)
    (halts : k = .pause ∨ k = .stop) : Halted k (s.step i) := by
  obtain ⟨seen, -⟩ := countTrigger_sameSession s i
  rw [halt_step given halts]
  dsimp only
  split_ifs with fault upload haltable
  · exact ⟨rfl, .inr (.inr (.inl rfl)), fun bad => Playback.SessionState.noConfusion bad⟩
  · exact ⟨rfl, .inl rfl, fun bad => Playback.SessionState.noConfusion bad⟩
  · exact ⟨rfl, .inr (.inl rfl), fun _ => ⟨rfl, rfl⟩⟩
  · have still : s.state = .idle ∨ s.state = .error ∨ s.state = .upload := by
      cases state : s.state <;> simp [PlaybackController.haltable, state] at haltable ⊢
    refine ⟨rfl, ?_, fun ready => ?_⟩
    · rcases still with still | still | still
      · exact .inl (seen.trans still)
      · exact .inr (.inr (.inl (seen.trans still)))
      · refine .inr (.inr (.inr ⟨halts.resolve_right fun stops => upload ⟨stops, still⟩, seen.trans still⟩))
    · have bad := seen.symm.trans ready
      rcases still with still | still | still <;> exact Playback.SessionState.noConfusion (still.symm.trans bad)

theorem halted_step {s : PlaybackController} {j : ControllerIn} {k : PlaybackCommand} (given : k.GivenTo j)
    (halts : k = .pause ∨ k = .stop) (halted : Halted k s) : SameSession (s.step j) s := by
  obtain ⟨seen, pending, -, position⟩ := countTrigger_sameSession s j
  have restart := halted.restart
  have sound : s.activeFault j = false := by
    rcases halted.state with state | state | state | ⟨-, state⟩ <;> simp [PlaybackController.activeFault, state]
  rw [halt_step given halts, sound, if_neg Bool.false_ne_true]
  dsimp only
  split_ifs with upload haltable
  · rcases halted.state with state | state | state | ⟨pauses, -⟩
    · exact Playback.SessionState.noConfusion (state.symm.trans upload.2)
    · exact Playback.SessionState.noConfusion (state.symm.trans upload.2)
    · exact Playback.SessionState.noConfusion (state.symm.trans upload.2)
    · exact PlaybackCommand.noConfusion (pauses.symm.trans upload.1)
  · have ready : s.state = .ready := by
      rcases halted.state with state | state | state | ⟨-, state⟩ <;>
        simp [PlaybackController.haltable, state] at haltable ⊢
    obtain ⟨no_play, start⟩ := halted.ready ready
    exact ⟨ready.symm, no_play.symm, restart.symm, start.symm⟩
  · exact ⟨seen, pending, restart.symm, position⟩

/-- Stopping, pausing and aborting twice is stopping, pausing and aborting once. -/
theorem halt_idempotent {k : PlaybackCommand} (halts : k = .pause ∨ k = .stop ∨ k = .abort) : k.Idempotent := by
  intro s i j first second
  rcases halts with rfl | rfl | rfl
  · exact halted_step second (.inl rfl) (halted_of_step first (.inl rfl))
  · exact halted_step second (.inr rfl) (halted_of_step first (.inr rfl))
  · simp [PlaybackController.step, first.2.2.2.2.2, second.2.2.2.2.2, PlaybackController.settle, SameSession]

/-! ## The request of a packet in another session -/

/-- Of the fields of a DATA only the check of its offset depends on the session. -/
theorem dataOf_session (c c' : UploadCore) (bytes : Nat) (d : DataFields) (payload : List Word) :
    dataOf c' bytes d payload =
      { dataOf c bytes d payload with offsetOk := (dataOf c' bytes d payload).offsetOk } := by
  induction payload using List.reverseRecOn with
  | nil => rfl
  | append_singleton payload w ih =>
    rw [dataOf_append, dataOf_append, ih]
    unfold UploadWriter.takeData
    split <;> rfl

/-- What a packet asks for, in whatever session. -/
theorem requestOf_session (c c' : UploadCore) (words : List Word) :
    requestOf c' words =
      { requestOf c words with
        data := { (requestOf c words).data with offsetOk := (requestOf c' words).data.offsetOk } } := by
  simp only [requestOf]
  rw [← dataOf_session]

theorem crcMatches_session (c c' : UploadCore) (words : List Word) :
    CrcMatches words (requestOf c' words) ↔ CrcMatches words (requestOf c words) := by
  rw [requestOf_session c c']
  rfl

namespace Transaction

variable {p : WriterParams} {t u : Transaction}

/-! ## What is answered, given the verdict -/

theorem Lawful.of_malformed (lawful : t.Lawful p) (bad : ¬ WellFormed t.words) :
    t.status = statusBadRequest ∧ t.Unchanged := by
  cases lawful.outcome with
  | malformed _ status unchanged => exact ⟨status, unchanged⟩
  | status good | refused good | accepted good | badCrc good | repeated good | stored good | failed good =>
    exact absurd good bad

theorem Lawful.of_refuse (lawful : t.Lawful p) (good : WellFormed t.words) (opcode : opcodeOf t.words ≠ opStatus)
    {status offset : Nat} (verdict : t.verdict p = .refuse status offset) : t.status = status ∧ t.Unchanged := by
  cases lawful.outcome with
  | malformed bad => exact absurd good bad
  | status _ bad => exact absurd bad opcode
  | refused _ _ _ own unchanged =>
    rw [own] at verdict
    cases verdict
    exact ⟨rfl, unchanged⟩
  | accepted _ _ _ own | badCrc _ _ _ own | repeated _ _ own | stored _ _ own | failed _ _ own =>
    exact Verdict.noConfusion (own.symm.trans verdict)

theorem Lawful.of_accept (lawful : t.Lawful p) (good : WellFormed t.words) (opcode : opcodeOf t.words ≠ opStatus)
    {after : UploadCore} {pulse : Option PlaybackCommand} (verdict : t.verdict p = .accept after pulse) :
    t.status = statusOk ∧ t.after = after ∧ t.pulses = pulse.toList ∧ t.writes = [] := by
  cases lawful.outcome with
  | malformed bad => exact absurd good bad
  | status _ bad => exact absurd bad opcode
  | accepted _ _ _ own status pulses writes _ =>
    rw [own] at verdict
    cases verdict
    exact ⟨status, rfl, pulses, writes⟩
  | refused _ _ _ own | badCrc _ _ _ own | repeated _ _ own | stored _ _ own | failed _ _ own =>
    exact Verdict.noConfusion (own.symm.trans verdict)

/-- A DATA that is checked as a repetition is not written. -/
theorem Lawful.of_repeated (lawful : t.Lawful p) (good : WellFormed t.words)
    (verdict : t.verdict p = .check true) (crc : CrcMatches t.words t.request) : t.status = statusOk ∧ t.Unchanged := by
  have data : opcodeOf t.words = opData := (judge_check verdict).1
  cases lawful.outcome with
  | malformed bad => exact absurd good bad
  | status _ bad =>
    rw [data] at bad
    exact absurd bad (by decide)
  | repeated _ _ _ _ status unchanged => exact ⟨status, unchanged⟩
  | badCrc _ _ _ _ bad => exact absurd crc bad
  | refused _ _ _ own | accepted _ _ _ own => exact Verdict.noConfusion (own.symm.trans verdict)
  | stored _ _ own | failed _ _ own =>
    rw [own] at verdict
    exact Bool.noConfusion (Verdict.check.inj verdict)

theorem Lawful.of_badCrc (lawful : t.Lawful p) (good : WellFormed t.words) {duplicate : Bool}
    (verdict : t.verdict p = .check duplicate) (bad_crc : ¬ CrcMatches t.words t.request) :
    t.status = statusCrc ∧ t.Unchanged := by
  have data : opcodeOf t.words = opData := (judge_check verdict).1
  cases lawful.outcome with
  | malformed bad => exact absurd good bad
  | status _ bad =>
    rw [data] at bad
    exact absurd bad (by decide)
  | badCrc _ _ _ _ _ status unchanged => exact ⟨status, unchanged⟩
  | refused _ _ _ own | accepted _ _ _ own => exact Verdict.noConfusion (own.symm.trans verdict)
  | repeated _ _ _ crc | stored _ _ _ crc | failed _ _ _ crc => exact absurd crc bad_crc

end Transaction

/-! ## Judging the same request again -/

/-- Only a DATA is judged by the fields of a DATA. -/
theorem judge_data_free (p : WriterParams) (c : UploadCore) (r : UploadRequest) (d : DataFields) (playback : Nat)
    (not_data : r.opcode ≠ opData) : { r with data := d }.judge p c playback = r.judge p c playback := by
  unfold UploadRequest.judge
  rw [if_neg not_data, if_neg not_data]
  rfl

/-- An accepted request is accepted again, without a second effect, unless it has ended the
    session it names or the upload it has stopped. -/
theorem judge_accepted_again {p : WriterParams} {c after : UploadCore} {r : UploadRequest} {playback playback' : Nat}
    {pulse : Option PlaybackCommand} (verdict : r.judge p c playback = .accept after pulse)
    (quiet : pulse = none → playback' = playback) (moved : pulse ≠ none → playback' ≠ 8)
    (named : r.opcode = opAbort → low r.sessionWord = 0) (stops : r.opcode = opStop → c.uploadActive = false) :
    ∃ again, r.judge p after playback' = .accept after again ∧ ∀ k ∈ again.toList, k.Idempotent := by
  have same : after = c → pulse = none → ∃ again, r.judge p after playback' = .accept after again ∧
      ∀ k ∈ again.toList, k.Idempotent := by
    rintro rfl rfl
    rw [quiet rfl]
    exact ⟨none, verdict, fun k bad => absurd bad List.not_mem_nil⟩
  have kept := verdict
  unfold UploadRequest.judge at verdict
  split_ifs at verdict with begins data differs commit play halt abort
  · unfold UploadRequest.judgeBegin at verdict
    split_ifs at verdict with malformed repeated other
    · cases verdict
      exact same rfl rfl
    · cases verdict
      refine ⟨none, ?_, fun k bad => absurd bad List.not_mem_nil⟩
      unfold UploadRequest.judge UploadRequest.judgeBegin
      rw [if_pos begins, if_neg malformed, if_pos (by simp [UploadRequest.beginRepeated, UploadCore.begun]),
        if_neg (by simp [UploadRequest.beginDiffers, UploadCore.begun])]
  · unfold UploadRequest.judgeData at verdict
    split_ifs at verdict
  · unfold UploadRequest.judgeCommit at verdict
    split_ifs at verdict with again closed incomplete
    · cases verdict
      exact same rfl rfl
    · cases verdict
      refine ⟨none, ?_, fun k bad => absurd bad List.not_mem_nil⟩
      have names : r.sessionDiffers (c.commits r) = false := Bool.eq_false_iff.mpr differs
      unfold UploadRequest.judge
      rw [if_neg begins, if_neg data, names, if_neg Bool.false_ne_true, if_pos commit]
      exact if_pos ⟨rfl, rfl⟩
  · unfold UploadRequest.judgePlay at verdict
    split_ifs at verdict with again unsafe_
    · cases verdict
      exact same rfl rfl
    · cases verdict
      refine ⟨none, ?_, fun k bad => absurd bad List.not_mem_nil⟩
      have names : r.sessionDiffers (c.plays r) = false := Bool.eq_false_iff.mpr differs
      unfold UploadRequest.judge
      rw [if_neg begins, if_neg data, names, if_neg Bool.false_ne_true, if_neg commit, if_pos play]
      exact if_pos ⟨rfl, rfl⟩
  · unfold UploadRequest.judgeHalt at verdict
    split_ifs at verdict with upload unsafe_ stop
    · exact absurd ((stops upload.2).symm.trans upload.1) Bool.false_ne_true
    · cases verdict
      have still : ¬ (c.committed = false ∨ playback' = 8) := not_or.mpr ⟨(not_or.mp unsafe_).1, moved nofun⟩
      refine ⟨some .stop, ?_, fun k only => ?_⟩
      · unfold UploadRequest.judge UploadRequest.judgeHalt
        rw [if_neg begins, if_neg data, if_neg differs, if_neg commit, if_neg play, if_pos halt, if_neg upload,
          if_neg still, if_pos stop]
      · rw [Option.toList_some, List.mem_singleton] at only
        exact halt_idempotent (.inr (.inl only))
    · cases verdict
      have still : ¬ (c.committed = false ∨ playback' = 8) := not_or.mpr ⟨(not_or.mp unsafe_).1, moved nofun⟩
      refine ⟨some .pause, ?_, fun k only => ?_⟩
      · unfold UploadRequest.judge UploadRequest.judgeHalt
        rw [if_neg begins, if_neg data, if_neg differs, if_neg commit, if_neg play, if_pos halt, if_neg upload,
          if_neg still, if_neg stop]
      · rw [Option.toList_some, List.mem_singleton] at only
        exact halt_idempotent (.inl only)
  · cases verdict
    refine ⟨some .abort, ?_, fun k only => ?_⟩
    · have names : r.sessionDiffers c.aborts = false := by
        simp only [UploadRequest.sessionDiffers, decide_eq_true_eq, not_or, not_not] at differs
        simp [UploadRequest.sessionDiffers, differs.1, named abort]
      unfold UploadRequest.judge
      rw [if_neg begins, if_neg data, names, if_neg Bool.false_ne_true, if_neg commit, if_neg play, if_neg halt,
        if_pos abort]
      rfl
    · rw [Option.toList_some, List.mem_singleton] at only
      exact halt_idempotent (.inr (.inr only))
  · cases verdict
    exact same rfl rfl

/-- A DATA that has been stored is taken for a repetition. -/
theorem judge_stored_again {p : WriterParams} {c : UploadCore} {r : UploadRequest} {playback : Nat}
    (verdict : r.judge p c playback = .check false) (length : Nat) (ok : Bool) :
    { r with data := { r.data with offsetOk := ok } }.judge p (c.stores r length) playback = .check true := by
  obtain ⟨data, session, active, sound, range, -, -⟩ := judge_check verdict
  have not_begin : r.opcode ≠ opBegin := by
    rw [data]
    decide
  have held : ¬ (r.data.session ≠ c.session ∨ c.uploadActive = false ∨ playback = 8) := by
    simp [session, active, sound]
  unfold UploadRequest.judge UploadRequest.judgeData
  rw [if_neg not_begin, if_pos data]
  change (if r.data.session ≠ c.session ∨ c.uploadActive = false ∨ playback = 8 then _ else
    if r.data.rangeOk = false then _ else _) = _
  rw [if_neg held, range, if_neg (fun bad => Bool.noConfusion bad), if_pos]
  simp [UploadRequest.dataRepeated, UploadCore.stores]

theorem judge_data_closed {p : WriterParams} {c : UploadCore} {r : UploadRequest} (data : r.opcode = opData)
    (inactive : c.uploadActive = false) (playback : Nat) :
    r.judge p c playback = .refuse statusBadRequest r.data.offset := by
  have not_begin : r.opcode ≠ opBegin := by
    rw [data]
    decide
  unfold UploadRequest.judge UploadRequest.judgeData
  rw [if_neg not_begin, if_pos data, if_pos (.inr (.inl inactive))]

/-- An ABORT that names its session does not find it a second time. -/
theorem judge_abort_again {p : WriterParams} {c : UploadCore} {r : UploadRequest} (abort : r.opcode = opAbort)
    (named : low r.sessionWord ≠ 0) (playback : Nat) :
    ∃ offset, r.judge p c.aborts playback = .refuse statusBadRequest offset := by
  have differs : r.sessionDiffers c.aborts = true := by simp [UploadRequest.sessionDiffers, UploadCore.aborts, named]
  refine ⟨0, ?_⟩
  unfold UploadRequest.judge
  rw [if_neg (by rw [abort]; decide), if_neg (by rw [abort]; decide), if_pos differs]
  rfl

/-- A STOP that has dropped the upload finds nothing to stop a second time. -/
theorem judge_stop_again {p : WriterParams} {c : UploadCore} {r : UploadRequest} (stop : r.opcode = opStop)
    (uncommitted : c.committed = false) (playback : Nat) :
    ∃ status offset, status ≠ statusOk ∧ r.judge p c.dropsUpload playback = .refuse status offset := by
  unfold UploadRequest.judge
  rw [if_neg (by rw [stop]; decide), if_neg (by rw [stop]; decide)]
  by_cases differs : r.sessionDiffers c.dropsUpload = true
  · rw [if_pos differs]
    exact ⟨_, _, by decide, rfl⟩
  · rw [if_neg differs, if_neg (by rw [stop]; decide), if_neg (by rw [stop]; decide), if_pos (.inr stop)]
    unfold UploadRequest.judgeHalt
    rw [if_neg (fun bad => Bool.noConfusion bad.1), if_pos (.inl uncommitted)]
    exact ⟨_, _, by decide, rfl⟩

/-- An accepted command names the session, and data is never just accepted. -/
theorem judge_accept_named {p : WriterParams} {c after : UploadCore} {r : UploadRequest} {playback : Nat}
    {pulse : Option PlaybackCommand} (verdict : r.judge p c playback = .accept after pulse) :
    r.opcode ≠ opData ∧ (r.opcode ≠ opBegin → r.sessionDiffers c = false) := by
  unfold UploadRequest.judge at verdict
  split_ifs at verdict with begins data differs
  · refine ⟨?_, fun not_begin => absurd begins not_begin⟩
    rw [begins]
    decide
  · unfold UploadRequest.judgeData at verdict
    split_ifs at verdict
  all_goals exact ⟨data, fun _ => Bool.eq_false_iff.mpr differs⟩

/-- An upload that is open is not committed. -/
def Exclusive (c : UploadCore) : Prop := c.uploadActive = true → c.committed = false

theorem judge_accept_exclusive {p : WriterParams} {c after : UploadCore} {r : UploadRequest} {playback : Nat}
    {pulse : Option PlaybackCommand} (exclusive : Exclusive c) (verdict : r.judge p c playback = .accept after pulse) :
    Exclusive after := by
  unfold UploadRequest.judge UploadRequest.judgeBegin UploadRequest.judgeData UploadRequest.judgeCommit
    UploadRequest.judgePlay UploadRequest.judgeHalt at verdict
  split_ifs at verdict <;> cases verdict <;> first
    | exact exclusive
    | exact fun _ => rfl
    | exact fun active => Bool.noConfusion active

namespace Transaction

variable {p : WriterParams} {t u : Transaction}

theorem Lawful.exclusive (lawful : t.Lawful p) (exclusive : Exclusive t.before) : Exclusive t.after := by
  cases lawful.outcome with
  | malformed _ _ unchanged | status _ _ unchanged | refused _ _ _ _ unchanged | badCrc _ _ _ _ _ _ unchanged
  | repeated _ _ _ _ _ unchanged => exact unchanged.after ▸ exclusive
  | accepted _ _ _ verdict => exact judge_accept_exclusive exclusive verdict
  | stored _ _ _ _ _ after => exact after ▸ exclusive
  | failed _ _ _ _ _ after => exact after ▸ fun active => Bool.noConfusion active

/-- The packet of `t` again, and nothing has moved the playback but what `t` has commanded. -/
structure Resent (t u : Transaction) : Prop where
  words : u.words = t.words
  quiet : t.pulses = [] → u.playback = t.playback
  moved : t.pulses ≠ [] → u.playback ≠ 8

/-- The packet sent again has had no effect of its own and is answered as it was. -/
structure Harmless (t u : Transaction) : Prop where
  session : u.after = t.after
  image : u.writes = []
  commands : ∀ k ∈ u.pulses, k.Idempotent
  status : u.status = t.status

/-- The packet has ended what it refers to: the memory has failed it, it has aborted the
    session it names, or it has stopped an upload. -/
def EndsItsSession (t : Transaction) : Prop :=
  t.axiFails = true ∨ WellFormed t.words ∧ t.request.sessionDiffers t.before = false ∧
    (opcodeOf t.words = opAbort ∧ low t.request.sessionWord ≠ 0 ∨
      opcodeOf t.words = opStop ∧ t.before.uploadActive = true)

instance (t : Transaction) : Decidable t.EndsItsSession :=
  inferInstanceAs (Decidable (_ ∨ _))

/-- After a packet that has changed nothing the same packet is judged the same. -/
theorem Resent.same (resent : Resent t u) (next : u.before = t.after) (unchanged : t.Unchanged) :
    u.verdict p = t.verdict p ∧ u.request = t.request := by
  rw [verdict, verdict, request, request, resent.words, next, unchanged.after, resent.quiet unchanged.pulses]
  exact ⟨rfl, rfl⟩

/-- A packet that has changed nothing, twice. -/
theorem harmless_of_unchanged (next : u.before = t.after) (status : u.status = t.status) (unchanged : u.Unchanged) :
    Harmless t u where
  session := unchanged.after.trans next
  image := unchanged.writes
  commands := by
    rw [unchanged.pulses]
    exact fun k bad => absurd bad List.not_mem_nil
  status := status

/-- The packet sent again makes the same request as far as the session does not matter. -/
theorem Resent.request (resent : Resent t u) :
    u.request = { t.request with data := { t.request.data with offsetOk := u.request.data.offsetOk } } := by
  rw [Transaction.request, Transaction.request, resent.words]
  exact requestOf_session t.before u.before t.words

/-- A packet that leaves its session in place may be sent again. -/
theorem harmless_of_not_ends (first : t.Lawful p) (second : u.Lawful p) (next : u.before = t.after)
    (resent : Resent t u) (not_status : opcodeOf t.words ≠ opStatus) (repeatable : ¬ EndsItsSession t) :
    Harmless t u := by
  have not_status' : opcodeOf u.words ≠ opStatus := resent.words ▸ not_status
  cases first.outcome with
  | malformed bad status unchanged =>
    obtain ⟨status', unchanged'⟩ := second.of_malformed (resent.words ▸ bad)
    exact harmless_of_unchanged next (status'.trans status.symm) unchanged'
  | status _ opcode => exact absurd opcode not_status
  | refused good _ offset verdict unchanged =>
    have again := (resent.same (p := p) next unchanged).1.trans verdict
    obtain ⟨status', unchanged'⟩ := second.of_refuse (resent.words ▸ good) not_status' again
    exact harmless_of_unchanged next status' unchanged'
  | badCrc good _ duplicate verdict crc status unchanged =>
    obtain ⟨same, request⟩ := resent.same (p := p) next unchanged
    have crc' : ¬ CrcMatches u.words u.request := by
      rw [request, resent.words]
      exact crc
    obtain ⟨status', unchanged'⟩ := second.of_badCrc (resent.words ▸ good) (same.trans verdict) crc'
    exact harmless_of_unchanged next (status'.trans status.symm) unchanged'
  | repeated good _ verdict crc status unchanged =>
    obtain ⟨same, request⟩ := resent.same (p := p) next unchanged
    have crc' : CrcMatches u.words u.request := by
      rw [request, resent.words]
      exact crc
    obtain ⟨status', unchanged'⟩ := second.of_repeated (resent.words ▸ good) (same.trans verdict) crc'
    exact harmless_of_unchanged next (status'.trans status.symm) unchanged'
  | stored good _ verdict crc status after pulses =>
    have again : u.verdict p = .check true := by
      rw [Transaction.verdict, resent.request, next, after, resent.quiet pulses]
      exact judge_stored_again verdict _ _
    have crc' : CrcMatches u.words u.request := by
      rw [resent.words, Transaction.request, resent.words, crcMatches_session t.before]
      exact crc
    obtain ⟨status', unchanged'⟩ := second.of_repeated (resent.words ▸ good) again crc'
    exact harmless_of_unchanged next (status'.trans status.symm) unchanged'
  | failed _ _ _ _ _ _ _ _ _ _ axi => exact absurd (.inl axi) repeatable
  | accepted good _ pulse verdict status pulses =>
    obtain ⟨not_data, named⟩ := judge_accept_named verdict
    have quiet : pulse = none → u.playback = t.playback := fun none => resent.quiet (by rw [pulses, none]; rfl)
    have moved : pulse ≠ none → u.playback ≠ 8 := fun some => resent.moved (by
      rw [pulses]
      simpa [Option.toList_eq_nil_iff] using some)
    have aborts : t.request.opcode = opAbort → low t.request.sessionWord = 0 := fun abort => by
      by_contra word
      exact repeatable (.inr ⟨good, named (by rw [abort]; decide), .inl ⟨abort, word⟩⟩)
    have stops : t.request.opcode = opStop → t.before.uploadActive = false := fun stop => by
      cases active : t.before.uploadActive with
      | false => rfl
      | true => exact absurd (.inr ⟨good, named (by rw [stop]; decide), .inr ⟨stop, active⟩⟩) repeatable
    obtain ⟨again, same, halts⟩ := judge_accepted_again verdict quiet moved aborts stops
    have again_verdict : u.verdict p = .accept t.after again := by
      rw [Transaction.verdict, resent.request, next, judge_data_free _ _ _ _ _ not_data]
      exact same
    obtain ⟨status', after', pulses', writes'⟩ := second.of_accept (resent.words ▸ good) not_status' again_verdict
    exact ⟨after', writes', pulses' ▸ halts, status'.trans status.symm⟩

/-- A packet that has ended its session is answered differently the second time. -/
theorem not_harmless_of_ends (first : t.Lawful p) (second : u.Lawful p) (exclusive : Exclusive t.before)
    (next : u.before = t.after) (resent : Resent t u) (ends : EndsItsSession t) : ¬ Harmless t u := by
  intro harmless
  have opcode : u.request.opcode = opcodeOf t.words := congrArg opcodeOf resent.words
  rcases ends with failed | ⟨good, named, ⟨abort, word⟩ | ⟨stop, active⟩⟩
  · -- the failure has closed the upload, so the data is refused for another reason
    obtain ⟨data, status⟩ := first.axiFails_iff.mp failed
    rw [first.opcode] at data
    have good : WellFormed t.words := by
      cases first.outcome with
      | malformed _ _ unchanged => exact absurd (unchanged.axi.symm.trans failed) (fun bad => Bool.noConfusion bad)
      | status good | refused good | accepted good | badCrc good | repeated good | stored good | failed good => exact good
    have refused := judge_data_closed (p := p) (opcode.trans data) (next ▸ (first.closes failed).1) u.playback
    obtain ⟨status', -⟩ := second.of_refuse (resent.words ▸ good) (by rw [resent.words, data]; decide) refused
    rw [← harmless.status, status'] at status
    exact absurd status (by decide)
  · have accepted : t.verdict p = .accept t.before.aborts (some .abort) := by
      have abort' : t.request.opcode = opAbort := abort
      rw [Transaction.verdict]
      unfold UploadRequest.judge
      rw [if_neg (by rw [abort']; decide), if_neg (by rw [abort']; decide), named, if_neg Bool.false_ne_true,
        if_neg (by rw [abort']; decide), if_neg (by rw [abort']; decide), if_neg (by rw [abort']; decide), if_pos abort']
    obtain ⟨status, after, -, -⟩ := first.of_accept good (by rw [abort]; decide) accepted
    have word' : low u.request.sessionWord ≠ 0 := by
      rw [resent.request]
      exact word
    obtain ⟨offset, refused⟩ := judge_abort_again (p := p) (c := t.before) (opcode.trans abort) word' u.playback
    have verdict : u.verdict p = .refuse statusBadRequest offset := by
      rw [Transaction.verdict, next, after]
      exact refused
    obtain ⟨status', -⟩ := second.of_refuse (resent.words ▸ good) (by rw [resent.words, abort]; decide) verdict
    exact absurd (status'.symm.trans (harmless.status.trans status)) (by decide)
  · have accepted : t.verdict p = .accept t.before.dropsUpload (some .stop) := by
      have stop' : t.request.opcode = opStop := stop
      rw [Transaction.verdict]
      unfold UploadRequest.judge UploadRequest.judgeHalt
      rw [if_neg (by rw [stop']; decide), if_neg (by rw [stop']; decide), named, if_neg Bool.false_ne_true,
        if_neg (by rw [stop']; decide), if_neg (by rw [stop']; decide), if_pos (.inr stop'), if_pos ⟨active, stop'⟩]
    obtain ⟨status, after, -, -⟩ := first.of_accept good (by rw [stop]; decide) accepted
    obtain ⟨code, offset, not_ok, refused⟩ :=
      judge_stop_again (p := p) (opcode.trans stop) (exclusive active) u.playback
    have verdict : u.verdict p = .refuse code offset := by
      rw [Transaction.verdict, next, after]
      exact refused
    obtain ⟨status', -⟩ := second.of_refuse (resent.words ▸ good) (by rw [resent.words, stop]; decide) verdict
    exact not_ok (status'.symm.trans (harmless.status.trans status))

end Transaction

theorem Chained.exclusive {p : WriterParams} {c c' : UploadCore} {ts : List Transaction} (chained : Chained c ts c')
    (lawful : ∀ t ∈ ts, t.Lawful p) (exclusive : Exclusive c) : Exclusive c' := by
  induction ts generalizing c with
  | nil =>
    cases chained
    exact exclusive
  | cons t ts ih =>
    obtain ⟨before, rest⟩ := chained
    exact ih rest (fun u later => lawful u (List.mem_cons_of_mem _ later))
      ((lawful t List.mem_cons_self).exclusive (before.symm ▸ exclusive))

/-- In every run, a packet that is processed twice in a row changes nothing the second time and
    is answered as the first time, exactly if it has not ended the session it refers to. -/
theorem resent_harmless_iff (p : WriterParams) (is : List WriterIn) (earlier rest : List Transaction)
    (t u : Transaction) (answered : answers p is = earlier ++ t :: u :: rest) (resent : t.Resent u)
    (not_status : opcodeOf t.words ≠ opStatus) : t.Harmless u ↔ ¬ t.EndsItsSession := by
  obtain ⟨-, chained, lawful⟩ := run_lawful p is
  rw [answered] at chained lawful
  obtain ⟨c, before, at_t, next, -⟩ := chained.split
  have first := lawful t (by simp)
  have second := lawful u (by simp)
  have exclusive : Exclusive t.before :=
    at_t.symm ▸ before.exclusive (fun v inside => lawful v (by simp [inside])) (fun bad => Bool.noConfusion bad)
  exact ⟨fun harmless ends => Transaction.not_harmless_of_ends first second exclusive next resent ends harmless,
    Transaction.harmless_of_not_ends first second next resent not_status⟩

/-! ## A STOP that is sent again -/

/-- Nothing arrives; answers are taken and commands admitted at once. -/
def quietCycle (playback : Nat) : WriterIn where
  responseReady := true
  statusRequestReady := true
  statusSnapshotValid := false
  statusSnapshot := ⟨0, 0, 0, 0⟩
  commandReady := true
  tvalid := false
  tdata := 0
  tlast := false
  playbackState := playback
  awready := true
  wready := true
  bvalid := false
  bresp := 0

/-- The words of a packet in consecutive cycles, and the cycles until its answer is taken. -/
def packetCycles (playback : Nat) (words : List Word) : List WriterIn :=
  words.zipIdx.map (fun w =>
    { quietCycle playback with tvalid := true, tdata := w.1, tlast := w.2 + 1 == words.length }) ++
    List.replicate 4 (quietCycle playback)

/-- BEGIN of session 5: one frame for one channel. -/
def beginPacket : List Word :=
  [ctrlMagic, 0x0000000100000001, 0x0000001C00000007, 0x0000010000000005, 0x0000010100000000, 0x0000000100000001,
    0x0000000000000040]

def stopPacket : List Word := [ctrlMagic, 0x0000000600000001, 0x0000000400000008, 0x0000000000000005]

def stopSentTwice : List WriterIn :=
  packetCycles 0 beginPacket ++ packetCycles 1 stopPacket ++ packetCycles 0 stopPacket

def begunCore : UploadCore :=
  (UploadCore.reset topWriterParams).begun topWriterParams (requestOf (.reset topWriterParams) beginPacket.tail)

def begunAnswer : Transaction :=
  ⟨.reset topWriterParams, beginPacket.tail, 0, 7, opBegin, statusOk, begunCore, [.begin], [], false⟩

def stoppedAnswer : Transaction :=
  ⟨begunCore, stopPacket.tail, 1, 8, opStop, statusOk, begunCore.dropsUpload, [.stop], [], false⟩

/-- The second STOP names a session that is no more. -/
def stoppedAgain : Transaction :=
  ⟨begunCore.dropsUpload, stopPacket.tail, 0, 8, opStop, statusBadRequest, begunCore.dropsUpload, [], [], false⟩

/-- The answer to a STOP of an upload does not survive its repetition. -/
theorem stopSentTwice_not_harmless :
    ¬ ∀ (p : WriterParams) (is : List WriterIn) (earlier rest : List Transaction) (t u : Transaction),
      answers p is = earlier ++ t :: u :: rest → t.Resent u → opcodeOf t.words ≠ opStatus → t.Harmless u := by
  intro claim
  have harmless := claim topWriterParams stopSentTwice [begunAnswer] [] stoppedAnswer stoppedAgain (by decide)
    ⟨rfl, by decide, by decide⟩ (by decide)
  exact absurd harmless.status (by decide)

/-- A BEGIN is harmless a second time. -/
theorem beginSentTwice_harmless :
    begunAnswer.Harmless ⟨begunCore, beginPacket.tail, 1, 7, opBegin, statusOk, begunCore, [], [], false⟩ :=
  (resent_harmless_iff topWriterParams (packetCycles 0 beginPacket ++ packetCycles 1 beginPacket) [] [] begunAnswer
    ⟨begunCore, beginPacket.tail, 1, 7, opBegin, statusOk, begunCore, [], [], false⟩ (by decide)
    ⟨rfl, by decide, by decide⟩ (by decide)).mpr (by decide)

end Xczu47dr.Upload
