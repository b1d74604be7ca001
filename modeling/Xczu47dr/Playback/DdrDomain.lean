import Xczu47dr.Playback.DdrPath
import Xczu47dr.Upload.PacketVerdicts

/-! # The DDR domain

The upload writer, the shadow of the playback state that `Top` keeps for it, and the DDR
side of the playback path.  The writer judges requests by the shadow, its command pulses
move the shadow and the path, and an error of the reader holds the shadow.
-/

namespace Xczu47dr.Playback

open Clocked Upload UploadWriter

/-- `wave_playback_state_ddr` and `wave_play_pending_ddr` -/
structure PlaybackShadow where
  state : Nat
  playPending : Bool

namespace PlaybackShadow

variable (s : PlaybackShadow)

/-- What a command, or else the end of the prefetch, makes of the shadow. -/
def moved (pulse : Option PlaybackCommand) (prefetchSafe : Bool) : PlaybackShadow :=
  match pulse with
  | some .begin => ⟨1, false⟩
  | some .abort => ⟨0, false⟩
  | some .stop | some .pause => ⟨if s.state = 1 then 0 else 2, false⟩
  | some .commit => ⟨3, false⟩
  | some .play => ⟨if s.state = 4 then 5 else if s.state = 2 ∨ s.state = 7 then 3 else s.state, true⟩
  | none => if s.state = 3 ∧ prefetchSafe = true then ⟨if s.playPending then 5 else 4, false⟩ else s

def step (readerError : Bool) (pulse : Option PlaybackCommand) (prefetchSafe : Bool) (snapshot : Option Nat) :
    PlaybackShadow :=
  if readerError then ⟨8, false⟩
  else match snapshot with
    | some state => { s.moved pulse prefetchSafe with state := state }
    | none => s.moved pulse prefetchSafe

end PlaybackShadow

/-- The inputs of the writer but for the playback state, and those of the path but for the
    commands and the descriptor. -/
structure DdrDomainIn (Word : Type) where
  writer : WriterIn
  path : DdrPathIn Word

structure DdrDomain (Word : Type) where
  writer : UploadWriter
  shadow : PlaybackShadow
  path : DdrPath Word

namespace DdrDomain

variable {Word : Type} (s : DdrDomain Word) (i : DdrDomainIn Word)

def writerIn : WriterIn := { i.writer with playbackState := s.shadow.state }

def pathIn : DdrPathIn Word :=
  { i.path with
    beginCmd := s.writer.pulse == some .begin
    commitCmd := s.writer.pulse == some .commit
    pauseCmd := s.writer.pulse == some .pause
    stopCmd := s.writer.pulse == some .stop
    abortCmd := s.writer.pulse == some .abort
    descriptorBase := s.writer.core.ddrBaseAddr
    descriptorTotalBeats := s.writer.core.totalBeats }

def step (p : WriterParams) (q : DdrPathParams) : DdrDomain Word where
  writer := s.writer.step p (s.writerIn i)
  shadow := s.shadow.step s.path.reader.error s.writer.pulse s.path.prefetchSafe
    (if i.writer.statusSnapshotValid then some i.writer.statusSnapshot.state else none)
  path := s.path.step q (s.pathIn i)

end DdrDomain

def ddrDomain (Word : Type) [Inhabited Word] (p : WriterParams) (q : DdrPathParams) :
    Machine (DdrDomainIn Word) (DdrDomain Word) where
  reset := ⟨.reset p, ⟨0, false⟩, .reset⟩
  step s i := s.step i p q

/-! ## Requests while the shadow shows an error -/

def Apart (w : UploadWriter) : Prop :=
  w.state ≠ .readWait ∧ w.state ≠ .readLoad ∧ w.state ≠ .crc ∧ w.state ≠ .crcDone ∧ w.state ≠ .write

/-- What is left of a session when it does not get on. -/
structure Withers (before after : UploadCore) : Prop where
  generation : after.generation = before.generation
  committed : after.committed = true → before.committed = true
  received : after.receivedBytes = before.receivedBytes ∨ after.receivedBytes = 0

theorem Withers.refl (c : UploadCore) : Withers c c := ⟨rfl, id, .inl rfl⟩

theorem Withers.trans {a b c : UploadCore} (first : Withers a b) (second : Withers b c) : Withers a c where
  generation := second.generation.trans first.generation
  committed := first.committed ∘ second.committed
  received := second.received.elim (fun same => first.received.imp same.trans same.trans) .inr

variable {p : WriterParams} {q : DdrPathParams}

/-- With the shadow at ERROR a request that is accepted starts and stores nothing. -/
theorem judge_error {c after : UploadCore} {r : UploadRequest} {pulse : Option PlaybackCommand}
    (verdict : r.judge p c 8 = .accept after pulse) :
    pulse ≠ some .commit ∧ pulse ≠ some .play ∧ Withers c after := by
  have same {pulse' : Option PlaybackCommand} (equal : Verdict.accept c none = .accept after pulse') :
      pulse' ≠ some .commit ∧ pulse' ≠ some .play ∧ Withers c after := by
    obtain ⟨rfl, rfl⟩ := Verdict.accept.inj equal
    exact ⟨by decide, by decide, .refl c⟩
  unfold UploadRequest.judge at verdict
  split_ifs at verdict with begins data differs commit play halt abort
  · unfold UploadRequest.judgeBegin at verdict
    split_ifs at verdict
    · exact same verdict
    · obtain ⟨rfl, rfl⟩ := Verdict.accept.inj verdict
      exact ⟨by decide, by decide, rfl, fun committed => absurd committed Bool.false_ne_true, .inr rfl⟩
  · unfold UploadRequest.judgeData at verdict
    split_ifs at verdict
  · unfold UploadRequest.judgeCommit at verdict
    split_ifs at verdict with repeated refused
    · exact same verdict
    · exact absurd (.inr (.inr rfl)) refused
  · unfold UploadRequest.judgePlay at verdict
    split_ifs at verdict with repeated refused
    · exact same verdict
    · exact absurd (.inr (by decide)) refused
  · unfold UploadRequest.judgeHalt at verdict
    split_ifs at verdict with drops refused
    · obtain ⟨rfl, rfl⟩ := Verdict.accept.inj verdict
      exact ⟨by decide, by decide, rfl, id, .inr rfl⟩
    · exact absurd (.inr rfl) refused
    · exact absurd (.inr rfl) refused
  · obtain ⟨rfl, rfl⟩ := Verdict.accept.inj verdict
    exact ⟨by decide, by decide, rfl, fun committed => absurd committed Bool.false_ne_true, .inr rfl⟩
  · exact same verdict

/-- What a writer does that starts and stores nothing. -/
structure Withering (w w' : UploadWriter) : Prop where
  apart : Apart w'
  commit : w'.pulse ≠ some .commit
  play : w'.pulse ≠ some .play
  core : Withers w.core w'.core

theorem Withering.of_state {w w' : UploadWriter} (apart : Apart w') (pulse : w'.pulse = none) (core : w'.core = w.core) :
    Withering w w' := by
  refine ⟨apart, ?_, ?_, core ▸ .refl w.core⟩
  · rw [pulse]
    decide
  · rw [pulse]
    decide

theorem withering_final {w : UploadWriter} {i : WriterIn} (state : w.state = .final) (error : i.playbackState = 8) :
    Withering w (w.stepFinal p i) := by
  by_cases status : w.request.opcode = opStatus ∧ w.packetError = false
  · rw [stepFinal, if_pos status]
    split_ifs <;> exact .of_state (by simp [Apart, state]) rfl rfl
  · by_cases held : (w.requiresAdmission && !i.commandReady) = true
    · rw [stepFinal, if_neg status, if_pos held]
      exact .of_state (by simp [Apart, state]) rfl rfl
    · cases bad : w.packetError with
      | true =>
        rw [stepFinal, if_neg status, if_neg held, bad, if_pos rfl]
        exact .of_state (by simp [Apart]) rfl rfl
      | false =>
        have not_status : w.request.opcode ≠ opStatus := fun opcode => status ⟨opcode, bad⟩
        obtain ⟨emits, core, -, -, -, -, pulse, -⟩ := beforeVerdict_fields (p := p) (i := i) w
        rw [stepFinal_sound w not_status bad (Bool.eq_false_iff.mpr held), error]
        cases verdict : w.request.judge p w.core 8 with
        | refuse code offset =>
          refine .of_state ?_ ((setError_pulse _ _ _ _).trans pulse) ((setError_core _ _ _ _).trans core)
          have emitting := (setError_state w (w.beforeVerdict p i) code offset).trans emits
          rw [applyVerdict, Apart, emitting]
          decide
        | accept after command =>
          obtain ⟨no_commit, no_play, withers⟩ := judge_error verdict
          refine ⟨?_, no_commit, no_play, withers⟩
          rw [applyVerdict, Apart]
          dsimp only
          rw [emits]
          decide
        | check again => exact absurd rfl (judge_check verdict).2.2.2.1

theorem withering_step {w : UploadWriter} {i : WriterIn} (apart : Apart w) (error : i.playbackState = 8) :
    Withering w (w.step p i) := by
  obtain ⟨no_wait, no_load, no_crc, no_done, no_write⟩ := apart
  rw [UploadWriter.step]
  cases state : w.state with
  | readWait => exact absurd state no_wait
  | readLoad => exact absurd state no_load
  | crc => exact absurd state no_crc
  | crcDone => exact absurd state no_done
  | write => exact absurd state no_write
  | idle =>
    dsimp only
    rw [stepIdle]
    split_ifs
    · exact .of_state (by simp [Apart]) rfl rfl
    · exact .of_state (by simp [Apart, state]) rfl rfl
  | hdr0 =>
    dsimp only
    rw [stepHdr0]
    split_ifs <;> exact .of_state (by simp [Apart, state]) (by simp) (by simp)
  | hdr1 =>
    dsimp only
    rw [stepHdr1]
    split_ifs <;> exact .of_state (by simp [Apart, state]) (by simp) (by simp)
  | payload =>
    dsimp only
    rw [stepPayload]
    split_ifs <;> exact .of_state (by simp [Apart, state]) (by simp) (by simp)
  | emit =>
    dsimp only
    rw [stepEmit]
    split_ifs <;> exact .of_state (by simp [Apart]) rfl rfl
  | drop =>
    dsimp only
    split_ifs
    · exact .of_state (by simp [Apart]) rfl rfl
    · exact .of_state (by simp [Apart, state]) rfl rfl
  | final => exact withering_final state error

/-! ## The lock -/

/-- The reader has stopped with an error, the shadow shows it, and nothing that starts the reader is on its way. -/
structure LockedOut {Word : Type} (s : DdrDomain Word) : Prop where
  error : s.path.reader.error = true
  shadow : s.shadow.state = 8
  commit : s.writer.pulse ≠ some .commit
  pending : s.path.loopRestartPending = false
  start : s.path.loopRestartStart = false
  apart : Apart s.writer

variable {Word : Type} {s : DdrDomain Word} {i : DdrDomainIn Word}

theorem LockedOut.step (locked : LockedOut s) (no_restart : i.path.loopRestart = false) :
    LockedOut (s.step i p q) ∧ Withering s.writer (s.step i p q).writer ∧
      (s.path.reader.busy = false → (s.step i p q).path.reader.busy = false) := by
  have withers : Withering s.writer (s.step i p q).writer := withering_step locked.apart locked.shadow
  have no_start : s.path.readerStart (s.pathIn i) = false := by
    have no_commit : (s.pathIn i).commitCmd = false := beq_eq_false_iff_ne.mpr locked.commit
    rw [DdrPath.readerStart, no_commit, locked.start, Bool.or_self]
  have rests : s.path.reader.takes (s.path.readerIn (s.pathIn i)) = false := by
    rw [DdrReader.takes, show (s.path.readerIn (s.pathIn i)).start = false from no_start, Bool.false_and]
  have restarts : s.path.restarts = false := by rw [DdrPath.restarts, locked.pending]; rfl
  refine ⟨⟨(DdrReader.error_latched locked.error rests).1, ?_, withers.commit, ?_, restarts, withers.apart⟩, withers,
    fun idle => ?_⟩
  · change (s.shadow.step s.path.reader.error _ _ _).state = 8
    rw [locked.error]
    rfl
  · change (!s.path.restarts && ((s.pathIn i).loopRestart || _)) = false
    rw [locked.pending, Bool.false_and, Bool.or_false, show (s.pathIn i).loopRestart = false from no_restart,
      Bool.and_false]
  · change (s.path.reader.step q.reader _).busy = false
    rw [DdrReader.step_resting idle rests]
    exact idle

/-- Once the reader has stopped with an error that the shadow shows, nothing but a restart from the DAC domain starts
it again: whatever requests come, none stores a byte, commits or plays, and the error stays. -/
theorem reader_error_locks_out [Inhabited Word] (p : WriterParams) (q : DdrPathParams) (is js : List (DdrDomainIn Word))
    (locked : LockedOut ((ddrDomain Word p q).run (ddrDomain Word p q).reset is))
    (no_restart : ∀ i ∈ js, i.path.loopRestart = false) :
    LockedOut ((ddrDomain Word p q).run ((ddrDomain Word p q).run (ddrDomain Word p q).reset is) js) ∧
      (∀ command ∈ (ddrDomain Word p q).log (fun s i => (s.step i p q).writer.pulse.toList)
          ((ddrDomain Word p q).run (ddrDomain Word p q).reset is) js, command ≠ .commit ∧ command ≠ .play) ∧
      Withers ((ddrDomain Word p q).run (ddrDomain Word p q).reset is).writer.core
        ((ddrDomain Word p q).run ((ddrDomain Word p q).run (ddrDomain Word p q).reset is) js).writer.core ∧
      (((ddrDomain Word p q).run (ddrDomain Word p q).reset is).path.reader.busy = false →
        ((ddrDomain Word p q).run
          ((ddrDomain Word p q).run (ddrDomain Word p q).reset is) js).path.reader.busy = false) := by
  generalize (ddrDomain Word p q).run (ddrDomain Word p q).reset is = s at *
  induction js generalizing s with
  | nil => exact ⟨locked, fun command mem => absurd mem List.not_mem_nil, .refl _, id⟩
  | cons i js ih =>
    obtain ⟨still, withers, rests⟩ := locked.step (p := p) (q := q) (no_restart i List.mem_cons_self)
    obtain ⟨ends, commands, later, idle⟩ :=
      ih (fun j mem => no_restart j (List.mem_cons_of_mem i mem)) (s.step i p q) still
    refine ⟨ends, fun command mem => ?_, withers.core.trans later, idle ∘ rests⟩
    rw [Machine.log_cons] at mem
    rcases List.mem_append.mp mem with now | after
    · have pulsed : (s.step i p q).writer.pulse = some command := Option.mem_toList.mp now
      exact ⟨fun commits => withers.commit (commits ▸ pulsed), fun plays => withers.play (plays ▸ pulsed)⟩
    · exact commands command after

/-- A cycle in which nothing comes in but, perhaps, a restart. -/
def restartCycle (loopRestart : Bool) : DdrDomainIn Unit where
  writer := default
  path :=
    { beginCmd := false, commitCmd := false, pauseCmd := false, stopCmd := false, abortCmd := false
      loopRestart := loopRestart, descriptorBase := 0, descriptorTotalBeats := 0, fifoFreeBeats := 0
      fifoWriteReady := true, arready := false, rdata := fun _ => (), rresp := 0, rvalid := false, rlast := false }

/-- A restart with no descriptor, the clear before it, and the error. -/
def failedRestart : List (DdrDomainIn Unit) := restartCycle true :: List.replicate 24 (restartCycle false)

def failed : DdrDomain Unit :=
  (ddrDomain Unit topWriterParams ddrPathParams).run (ddrDomain Unit topWriterParams ddrPathParams).reset failedRestart

theorem failedRestart_locks_out :
    LockedOut failed ∧
      LockedOut ((ddrDomain Unit topWriterParams ddrPathParams).run failed [restartCycle false, restartCycle false]) := by
  have locked : LockedOut failed := by
    refine ⟨by decide +kernel, by decide +kernel, by decide +kernel, by decide +kernel, by decide +kernel, ?_⟩
    rw [Apart]
    decide +kernel
  exact ⟨locked, (reader_error_locks_out topWriterParams ddrPathParams failedRestart
    [restartCycle false, restartCycle false] locked (by decide)).1⟩

end Xczu47dr.Playback
