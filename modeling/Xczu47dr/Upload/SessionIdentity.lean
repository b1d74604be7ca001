import Xczu47dr.Upload.RepeatedPackets

/-! # Which upload a session number names

A device object numbers its uploads itself, from 1; the board compares session
numbers only, and to arm a run the gateway reads a STATUS that is not compared with
anything. The runs of a board are followed here with the upload each of them made.
-/

namespace Xczu47dr.Upload

/-! ## The numbers of the uploads -/

/-- `_run_id` after an upload has taken its value. -/
def nextRunId (runId : Nat) : Nat := if (runId + 1) % 2 ^ 32 = 0 then 1 else (runId + 1) % 2 ^ 32

/-- `_run_id` of a device object that has numbered `count` uploads. -/
def runId : Nat → Nat
  | 0 => 1
  | count + 1 => nextRunId (runId count)

/-- The number starts again after `2 ^ 32 - 1` uploads. -/
theorem runId_eq (count : Nat) : runId count = count % (2 ^ 32 - 1) + 1 := by
  induction count with
  | zero => rfl
  | succ count ih =>
      rw [runId, ih, nextRunId]
      split <;> omega

/-- An upload is made by a device object, which numbers it unless the caller has given a session. -/
structure UploadCall (Device : Type) where
  device : Device
  session : Option Nat
  valid : ∀ given ∈ session, 0 < given ∧ given < 2 ^ 32

section Numbers

variable {Device : Type} [DecidableEq Device] (uploads : List (UploadCall Device))

def UploadCall.numberedBy (device : Device) (call : UploadCall Device) : Bool :=
  call.session.isNone && decide (call.device = device)

def sessionOf (u : Fin uploads.length) : Nat :=
  (uploads.get u).session.getD (runId ((uploads.take u).countP (UploadCall.numberedBy (uploads.get u).device)))

/-- Two uploads never carry the same session. -/
def SessionsDistinct : Prop := ∀ u v : Fin uploads.length, sessionOf uploads u = sessionOf uploads v → u = v

/-- One device object numbers uploads, not more than it has numbers, and the sessions that are given are
    different ones beyond its numbers. -/
structure OneNumbering : Prop where
  oneDevice : ∀ u v : Fin uploads.length, (uploads.get u).session = none → (uploads.get v).session = none →
    (uploads.get u).device = (uploads.get v).device
  fits : uploads.countP (·.session.isNone) ≤ 2 ^ 32 - 1
  beyond : ∀ (u : Fin uploads.length) given, (uploads.get u).session = some given →
    uploads.countP (·.session.isNone) < given
  distinct : ∀ (u v : Fin uploads.length) given, (uploads.get u).session = some given →
    (uploads.get v).session = some given → u = v

variable {uploads}

theorem sessionOf_none {u : Fin uploads.length} (own : (uploads.get u).session = none) :
    sessionOf uploads u =
      (uploads.take u).countP (UploadCall.numberedBy (uploads.get u).device) % (2 ^ 32 - 1) + 1 := by
  rw [sessionOf, own, Option.getD_none, runId_eq]

theorem sessionOf_some {u : Fin uploads.length} {given : Nat} (explicit : (uploads.get u).session = some given) :
    sessionOf uploads u = given := by
  rw [sessionOf, explicit, Option.getD_some]

theorem sessionOf_range (u : Fin uploads.length) : 0 < sessionOf uploads u ∧ sessionOf uploads u < 2 ^ 32 := by
  cases session : (uploads.get u).session with
  | none =>
      rw [sessionOf_none session]
      omega
  | some given =>
      rw [sessionOf_some session]
      exact (uploads.get u).valid given session

/-- Among the elements of a kind there is one behind any smaller number of them. -/
theorem exists_at_count {α : Type} (kind : α → Bool) (xs : List α) {count : Nat} (fewer : count < xs.countP kind) :
    ∃ at' : Fin xs.length, kind (xs.get at') = true ∧ (xs.take at').countP kind = count := by
  induction xs generalizing count with
  | nil => exact absurd fewer (Nat.not_lt_zero _)
  | cons x xs ih =>
      rw [List.countP_cons] at fewer
      by_cases here : kind x = true ∧ count = 0
      · exact ⟨⟨0, Nat.succ_pos _⟩, here.1, here.2.symm⟩
      · by_cases counted : kind x = true
        · have positive : count ≠ 0 := fun zero => here ⟨counted, zero⟩
          rw [if_pos counted] at fewer
          obtain ⟨at', holds, before⟩ := ih (show count - 1 < xs.countP kind by omega)
          refine ⟨at'.succ, holds, ?_⟩
          simp only [Fin.val_succ, List.take_succ_cons, List.countP_cons, counted, if_true, before]
          omega
        · rw [if_neg counted, Nat.add_zero] at fewer
          obtain ⟨at', holds, before⟩ := ih fewer
          refine ⟨at'.succ, holds, ?_⟩
          simp only [Fin.val_succ, List.take_succ_cons, List.countP_cons, counted, before]
          rfl

/-- An element of the kind is counted behind it. -/
theorem countP_take_lt {α : Type} (kind : α → Bool) {xs : List α} {u : Fin xs.length} {k : Nat}
    (holds : kind (xs.get u) = true) (behind : u < k) : (xs.take u).countP kind < (xs.take k).countP kind := by
  have upTo : (xs.take (u + 1)).countP kind = (xs.take u).countP kind + 1 := by
    rw [← List.take_append_getElem u.isLt, List.countP_append]
    simp only [List.countP_singleton, ← List.get_eq_getElem, holds, if_true]
  have monotone : (xs.take (u + 1)).countP kind ≤ (xs.take k).countP kind :=
    (List.take_prefix_take_left behind).sublist.countP_le
  omega

theorem countP_take_inj {α : Type} (kind : α → Bool) {xs : List α} {u v : Fin xs.length}
    (first : kind (xs.get u) = true) (second : kind (xs.get v) = true)
    (same : (xs.take u).countP kind = (xs.take v).countP kind) : u = v := by
  rcases Nat.lt_trichotomy u v with before | equal | after
  · exact absurd same (Nat.ne_of_lt (countP_take_lt kind first before))
  · exact Fin.ext equal
  · exact absurd same (Nat.ne_of_gt (countP_take_lt kind second after))

/-- With one device object its own uploads are all the uploads it numbers. -/
theorem numberedBy_eq (oneDevice : ∀ u v : Fin uploads.length, (uploads.get u).session = none →
    (uploads.get v).session = none → (uploads.get u).device = (uploads.get v).device)
    {u : Fin uploads.length} (own : (uploads.get u).session = none) (k : Nat) :
    (uploads.take k).countP (UploadCall.numberedBy (uploads.get u).device) =
      (uploads.take k).countP (·.session.isNone) := by
  apply List.countP_congr
  intro call mem
  obtain ⟨v, rfl⟩ := List.get_of_mem (List.mem_of_mem_take mem)
  cases session : (uploads.get v).session with
  | none =>
      have device := oneDevice v u session own
      simp only [UploadCall.numberedBy, session, device, Option.isNone_none, decide_true, Bool.and_self]
  | some given => simp only [UploadCall.numberedBy, session, Option.isNone_some, Bool.false_and]

theorem SessionsDistinct.oneDevice (distinct : SessionsDistinct uploads) {u v : Fin uploads.length}
    (first : (uploads.get u).session = none) (second : (uploads.get v).session = none) :
    (uploads.get u).device = (uploads.get v).device := by
  -- the first upload a device object numbers is number 1
  have one (w : Fin uploads.length) (own : (uploads.get w).session = none) :
      ∃ start, (uploads.get start).device = (uploads.get w).device ∧ sessionOf uploads start = 1 := by
    have some' : 0 < uploads.countP (UploadCall.numberedBy (uploads.get w).device) := by
      refine List.countP_pos_iff.mpr ⟨uploads.get w, List.get_mem uploads w, ?_⟩
      simp only [UploadCall.numberedBy, own, Option.isNone_none, decide_true, Bool.and_self]
    obtain ⟨start, numbered, none⟩ := exists_at_count _ uploads some'
    simp only [UploadCall.numberedBy, Bool.and_eq_true, Option.isNone_iff_eq_none, decide_eq_true_eq] at numbered
    refine ⟨start, numbered.2, ?_⟩
    rw [sessionOf_none numbered.1, numbered.2, none, Nat.zero_mod]
  obtain ⟨a, aDevice, aOne⟩ := one u first
  obtain ⟨b, bDevice, bOne⟩ := one v second
  obtain rfl := distinct a b (aOne.trans bOne.symm)
  exact aDevice.symm.trans bDevice

theorem distinct_iff_oneNumbering : SessionsDistinct uploads ↔ OneNumbering uploads := by
  constructor
  · intro distinct
    have oneDevice (u v : Fin uploads.length) (first : (uploads.get u).session = none)
        (second : (uploads.get v).session = none) := distinct.oneDevice first second
    have numbered (count : Nat) (fewer : count < uploads.countP (·.session.isNone)) :
        ∃ u : Fin uploads.length, (uploads.get u).session = none ∧
          (uploads.take u).countP (·.session.isNone) = count ∧
          sessionOf uploads u = count % (2 ^ 32 - 1) + 1 := by
      obtain ⟨u, own, before⟩ := exists_at_count (·.session.isNone) uploads fewer
      rw [Option.isNone_iff_eq_none] at own
      exact ⟨u, own, before, by rw [sessionOf_none own, numberedBy_eq oneDevice own, before]⟩
    refine ⟨oneDevice, ?_, ?_, ?_⟩
    · by_contra many
      obtain ⟨a, _, aBefore, aSession⟩ := numbered 0 (by omega)
      obtain ⟨b, _, bBefore, bSession⟩ := numbered (2 ^ 32 - 1) (by omega)
      obtain rfl := distinct a b (aSession.trans (bSession.trans (by rw [Nat.mod_self, Nat.zero_mod])).symm)
      omega
    · intro u given explicit
      by_contra within
      obtain ⟨positive, bounded⟩ := (uploads.get u).valid given explicit
      obtain ⟨a, own, _, session⟩ := numbered (given - 1) (by omega)
      have same : sessionOf uploads a = sessionOf uploads u := by
        rw [session, sessionOf_some explicit, Nat.mod_eq_of_lt (by omega)]
        omega
      obtain rfl := distinct a u same
      rw [own] at explicit
      cases explicit
    · intro u v given first second
      exact distinct u v ((sessionOf_some first).trans (sessionOf_some second).symm)
  · rintro ⟨oneDevice, fits, beyond, distinct⟩ u v same
    have within (w : Fin uploads.length) (own : (uploads.get w).session = none) :
        (uploads.take w).countP (·.session.isNone) < uploads.countP (·.session.isNone) ∧
          sessionOf uploads w = (uploads.take w).countP (·.session.isNone) + 1 := by
      have counted : (uploads.get w).session.isNone = true := by rw [own, Option.isNone_none]
      have before := countP_take_lt (·.session.isNone) counted w.isLt
      rw [List.take_length] at before
      rw [sessionOf_none own, numberedBy_eq oneDevice own, Nat.mod_eq_of_lt (by omega)]
      exact ⟨before, rfl⟩
    cases first : (uploads.get u).session with
    | none =>
        obtain ⟨uBefore, uSession⟩ := within u first
        cases second : (uploads.get v).session with
        | none =>
            obtain ⟨_, vSession⟩ := within v second
            apply countP_take_inj (·.session.isNone)
            · rw [first, Option.isNone_none]
            · rw [second, Option.isNone_none]
            · omega
        | some given =>
            rw [sessionOf_some second] at same
            have above := beyond v given second
            omega
    | some given =>
        rw [sessionOf_some first] at same
        cases second : (uploads.get v).session with
        | none =>
            obtain ⟨vBefore, vSession⟩ := within v second
            have above := beyond u given first
            omega
        | some other =>
            rw [sessionOf_some second] at same
            exact distinct u v given first (same ▸ second)

end Numbers

/-! ## What a packet makes of the open session -/

namespace Transaction

variable {p : WriterParams} {t : Transaction}

/-- An accepted request opens the session of its BEGIN, leaves the open one or closes it. -/
theorem judge_session {c after : UploadCore} {r : UploadRequest} {playback : Nat} {pulse : Option PlaybackCommand}
    (verdict : r.judge p c playback = .accept after pulse) :
    (r.opcode = opBegin ∧ pulse = some .begin ∧ after.session = r.begin.session) ∨
      (pulse ≠ some .begin ∧ (after.session = c.session ∨ after.session = 0)) := by
  unfold UploadRequest.judge at verdict
  split_ifs at verdict with begins data differs commit play halt abort
  · unfold UploadRequest.judgeBegin at verdict
    split_ifs at verdict
    · cases verdict
      exact .inr ⟨nofun, .inl rfl⟩
    · cases verdict
      exact .inl ⟨begins, rfl, rfl⟩
  · unfold UploadRequest.judgeData at verdict
    split_ifs at verdict
  · unfold UploadRequest.judgeCommit at verdict
    split_ifs at verdict <;> cases verdict
    · exact .inr ⟨nofun, .inl rfl⟩
    · exact .inr ⟨by decide, .inl rfl⟩
  · unfold UploadRequest.judgePlay at verdict
    split_ifs at verdict <;> cases verdict
    · exact .inr ⟨nofun, .inl rfl⟩
    · exact .inr ⟨by decide, .inl rfl⟩
  · unfold UploadRequest.judgeHalt at verdict
    split_ifs at verdict <;> cases verdict
    · exact .inr ⟨by decide, .inr rfl⟩
    · exact .inr ⟨by decide, .inl rfl⟩
    · exact .inr ⟨by decide, .inl rfl⟩
  · cases verdict
    exact .inr ⟨by decide, .inr rfl⟩
  · cases verdict
    exact .inr ⟨nofun, .inl rfl⟩

theorem Lawful.session (lawful : t.Lawful p) :
    (t.request.opcode = opBegin ∧ t.pulses = [.begin] ∧ t.after.session = t.request.begin.session) ∨
      (t.pulses ≠ [.begin] ∧ (t.after.session = t.before.session ∨ t.after.session = 0)) := by
  have quiet (pulses : t.pulses = []) (session : t.after.session = t.before.session) :
      t.pulses ≠ [.begin] ∧ (t.after.session = t.before.session ∨ t.after.session = 0) := by
    rw [pulses]
    exact ⟨List.cons_ne_nil _ _ ∘ Eq.symm, .inl session⟩
  cases lawful.outcome with
  | malformed _ _ unchanged | status _ _ unchanged | refused _ _ _ _ unchanged | badCrc _ _ _ _ _ _ unchanged
  | repeated _ _ _ _ _ unchanged => exact .inr (quiet unchanged.pulses (congrArg UploadCore.session unchanged.after))
  | stored _ _ _ _ _ after pulses | failed _ _ _ _ _ after pulses =>
      refine .inr (quiet pulses ?_)
      rw [after]
      rfl
  | accepted _ _ pulse verdict _ pulses =>
      rw [pulses]
      rcases judge_session verdict with ⟨opcode, rfl, session⟩ | ⟨other, session⟩
      · exact .inl ⟨opcode, rfl, session⟩
      · refine .inr ⟨?_, session⟩
        cases pulse with
        | none => exact List.cons_ne_nil _ _ ∘ Eq.symm
        | some command => exact fun same => other (congrArg some (List.cons.inj same).1)

/-- A PLAY, PAUSE or STOP that names a session is accepted only for the open one. -/
theorem Lawful.named (lawful : t.Lawful p) (ok : t.status = statusOk)
    (command : t.request.opcode = opPlay ∨ t.request.opcode = opPause ∨ t.request.opcode = opStop)
    (names : low t.request.sessionWord ≠ 0) : low t.request.sessionWord = t.before.session := by
  have not_data : opcodeOf t.words ≠ opData := fun data => by
    have same : t.request.opcode = opData := data
    rw [same] at command
    exact absurd command (by decide)
  cases lawful.outcome with
  | malformed _ status => exact absurd (status.symm.trans ok) (by decide)
  | status _ opcode =>
      have same : t.request.opcode = opStatus := opcode
      rw [same] at command
      exact absurd command (by decide)
  | refused _ _ _ verdict => exact absurd ok (judge_refuse verdict).1
  | badCrc _ data | repeated _ data | stored _ data | failed _ data => exact absurd data not_data
  | accepted _ _ pulse verdict =>
      by_contra other
      have differs : t.request.sessionDiffers t.before = true := decide_eq_true (.inr ⟨names, other⟩)
      have not_begin : t.request.opcode ≠ opBegin := fun same => by
        rw [same] at command
        exact absurd command (by decide)
      rw [Transaction.verdict, UploadRequest.judge, if_neg not_begin, if_neg (show t.request.opcode ≠ opData from not_data),
        if_pos differs] at verdict
      cases verdict

end Transaction

/-! ## The exchanges of a board -/

/-- Who has sent a request: an upload, a run that made an upload, or anyone else. -/
inductive Sender (n : Nat)
  | upload (u : Fin n)
  | command (u : Fin n)
  | arm (u : Fin n)
  | other
  deriving DecidableEq

/-- A request and its answer; `state` is the playback state in the answer. -/
structure Exchange (n : Nat) where
  sender : Sender n
  answer : Transaction
  state : Nat
  deriving DecidableEq

section Exchanges

variable {Device : Type} [DecidableEq Device] (uploads : List (UploadCall Device))

/-- Requests carry the session of the upload they are made for, and only uploads begin one. -/
def Exchange.Consistent (e : Exchange uploads.length) : Prop :=
  match e.sender with
  | .upload u =>
      (e.answer.request.opcode = opBegin ∧ e.answer.request.begin.session = sessionOf uploads u) ∨
        (e.answer.request.opcode = opData ∧ e.answer.request.data.session = sessionOf uploads u) ∨
          (e.answer.request.opcode = opCommit ∧ low e.answer.request.sessionWord = sessionOf uploads u)
  | .command u =>
      (e.answer.request.opcode = opPlay ∨ e.answer.request.opcode = opPause ∨ e.answer.request.opcode = opStop) ∧
        low e.answer.request.sessionWord = sessionOf uploads u
  | .arm u => e.answer.request.opcode = opStatus ∧ low e.answer.request.sessionWord = sessionOf uploads u
  | .other => e.answer.request.opcode ≠ opBegin

instance (e : Exchange uploads.length) : Decidable (e.Consistent uploads) := by
  unfold Exchange.Consistent
  split <;> infer_instance

variable {n : Nat}

/-- The upload whose session is open after an exchange. -/
def holderAfter (holder : Option (Fin n)) (e : Exchange n) : Option (Fin n) :=
  if e.answer.pulses = [.begin] then
    match e.sender with
    | .upload u => some u
    | _ => none
  else if e.answer.after.session = 0 then none
  else holder

/-- The upload that the descriptor of the board belongs to. -/
def holder (history : List (Exchange n)) : Option (Fin n) := history.foldl holderAfter none

inductive ArmError
  | zeroSession
  | statusFailed (status : Nat)
  | notWaiting (session state : Nat)

/-- `BoardGateway.arm`, from the STATUS answer it reads. -/
def arm (session status state : Nat) : Except ArmError Unit :=
  if session = 0 then .error .zeroSession
  else if status ≠ statusOk then .error (.statusFailed status)
  else if state ≠ 3 ∧ state ≠ 4 then .error (.notWaiting session state)
  else .ok ()

/-- A command that names the session of a run is accepted only while the board holds its upload. -/
def CommandsOwn (history : List (Exchange uploads.length)) : Prop :=
  ∀ earlier e later u, history = earlier ++ e :: later → e.sender = .command u → e.answer.status = statusOk →
    holder earlier = some u

/-- A run is armed only while the board holds its upload. -/
def ArmsOwn (history : List (Exchange uploads.length)) : Prop :=
  ∀ earlier e later u, history = earlier ++ e :: later → e.sender = .arm u →
    arm (sessionOf uploads u) e.answer.status e.state = .ok () → holder earlier = some u

/-- A run is asked to be armed, on a board that prefetches or waits for a trigger, only if the upload the
    board holds is its own. -/
def ArmsAsked (history : List (Exchange uploads.length)) : Prop :=
  ∀ earlier e later u, history = earlier ++ e :: later → e.sender = .arm u → e.answer.status = statusOk →
    e.state = 3 ∨ e.state = 4 → holder earlier = some u

variable {uploads}

theorem arm_ok_iff {session status state : Nat} (positive : 0 < session) :
    arm session status state = .ok () ↔ status = statusOk ∧ (state = 3 ∨ state = 4) := by
  unfold arm
  rw [if_neg (Nat.ne_of_gt positive)]
  by_cases ok : status = statusOk
  · by_cases waits : state ≠ 3 ∧ state ≠ 4
    · rw [if_neg (not_not.mpr ok), if_pos waits]
      exact iff_of_false nofun (fun both => by omega)
    · rw [if_neg (not_not.mpr ok), if_neg waits]
      exact iff_of_true rfl ⟨ok, by omega⟩
  · rw [if_pos ok]
    exact iff_of_false nofun (fun both => ok both.1)

theorem armsOwn_iff (history : List (Exchange uploads.length)) : ArmsOwn uploads history ↔ ArmsAsked uploads history := by
  constructor
  · intro own earlier e later u split sender ok waits
    exact own earlier e later u split sender ((arm_ok_iff (sessionOf_range u).1).mpr ⟨ok, waits⟩)
  · intro asked earlier e later u split sender armed
    obtain ⟨ok, waits⟩ := (arm_ok_iff (sessionOf_range u).1).mp armed
    exact asked earlier e later u split sender ok waits

/-- An open session is that of the upload the board holds. -/
def HolderNamed (uploads : List (UploadCall Device)) (session : Nat) (held : Option (Fin uploads.length)) : Prop :=
  session = 0 ∨ ∃ u, held = some u ∧ session = sessionOf uploads u

theorem HolderNamed.next {p : WriterParams} {e : Exchange uploads.length} {held : Option (Fin uploads.length)}
    (named : HolderNamed uploads e.answer.before.session held) (lawful : e.answer.Lawful p)
    (consistent : e.Consistent uploads) : HolderNamed uploads e.answer.after.session (holderAfter held e) := by
  unfold holderAfter
  rcases lawful.session with ⟨opcode, begun, session⟩ | ⟨quiet, session⟩
  · rw [if_pos begun, session]
    unfold Exchange.Consistent at consistent
    rw [opcode] at consistent
    cases sender : e.sender with
    | upload u =>
        simp only [sender] at consistent
        rcases consistent with ⟨_, own⟩ | ⟨bad, _⟩ | ⟨bad, _⟩
        · exact .inr ⟨u, rfl, own⟩
        · exact absurd bad (by decide)
        · exact absurd bad (by decide)
    | command u =>
        simp only [sender] at consistent
        exact absurd consistent.1 (by decide)
    | arm u =>
        simp only [sender] at consistent
        exact absurd consistent.1 (by decide)
    | other =>
        simp only [sender] at consistent
        exact absurd rfl consistent
  · rw [if_neg quiet]
    by_cases closed : e.answer.after.session = 0
    · exact .inl closed
    · rw [if_neg closed, session.resolve_right closed]
      exact named

theorem holderNamed_of_chained {p : WriterParams} {c c' : UploadCore} {history : List (Exchange uploads.length)}
    {held : Option (Fin uploads.length)} (named : HolderNamed uploads c.session held)
    (chained : Chained c (history.map Exchange.answer) c') (lawful : ∀ e ∈ history, e.answer.Lawful p)
    (consistent : ∀ e ∈ history, e.Consistent uploads) :
    HolderNamed uploads c'.session (history.foldl holderAfter held) := by
  induction history generalizing c held with
  | nil =>
      cases chained
      exact named
  | cons e rest ih =>
      obtain ⟨before, later⟩ := chained
      refine ih (HolderNamed.next (before ▸ named) (lawful e List.mem_cons_self) (consistent e List.mem_cons_self))
        later ?_ ?_
      · exact fun f mem => lawful f (List.mem_cons_of_mem _ mem)
      · exact fun f mem => consistent f (List.mem_cons_of_mem _ mem)

/-- With different sessions, a command reaches only its own upload. -/
theorem commandsOwn {p : WriterParams} {is : List WriterIn} {history : List (Exchange uploads.length)}
    (recorded : history.map Exchange.answer = answers p is) (consistent : ∀ e ∈ history, e.Consistent uploads)
    (distinct : SessionsDistinct uploads) : CommandsOwn uploads history := by
  intro earlier e later u split sender ok
  obtain ⟨-, chained, lawful⟩ := run_lawful p is
  rw [← recorded, split, List.map_append, List.map_cons] at chained
  have lawful' (f : Exchange uploads.length) (mem : f ∈ history) : f.answer.Lawful p :=
    lawful f.answer (recorded ▸ List.mem_map_of_mem mem)
  obtain ⟨c, first, at_e, -⟩ := chained.split
  have named : HolderNamed uploads c.session (holder earlier) := by
    refine holderNamed_of_chained (.inl rfl) first (fun f mem => lawful' f ?_) (fun f mem => consistent f ?_)
    · rw [split]
      exact List.mem_append_left _ mem
    · rw [split]
      exact List.mem_append_left _ mem
  have here : e ∈ history := split ▸ List.mem_append_right _ List.mem_cons_self
  have carries := consistent e here
  simp only [Exchange.Consistent, sender] at carries
  obtain ⟨command, session⟩ := carries
  have positive := (sessionOf_range u).1
  have open' := (lawful' e here).named ok command (by omega)
  rw [session, at_e] at open'
  rcases named with closed | ⟨v, held, own⟩
  · omega
  · rw [held, distinct u v (open'.trans own)]

/-- Sessions name uploads, commands and arming reach only their own upload, exactly if one device object
    numbers the uploads of the board and a board that waits is asked to arm the run it holds. -/
theorem session_identity_iff (p : WriterParams) (is : List WriterIn) (uploads : List (UploadCall Device))
    (history : List (Exchange uploads.length)) (recorded : history.map Exchange.answer = answers p is)
    (consistent : ∀ e ∈ history, e.Consistent uploads) :
    (SessionsDistinct uploads ∧ CommandsOwn uploads history ∧ ArmsOwn uploads history) ↔
      (OneNumbering uploads ∧ ArmsAsked uploads history) := by
  constructor
  · rintro ⟨distinct, _, arms⟩
    exact ⟨distinct_iff_oneNumbering.mp distinct, (armsOwn_iff history).mp arms⟩
  · rintro ⟨numbering, asked⟩
    have distinct := distinct_iff_oneNumbering.mpr numbering
    exact ⟨distinct, commandsOwn recorded consistent distinct, (armsOwn_iff history).mpr asked⟩

end Exchanges

/-! ## Two fresh device objects -/

def freshUploads : List (UploadCall Nat) := [⟨0, none, nofun⟩, ⟨1, none, nofun⟩]

/-- BEGIN of session 1, with the sequence number of its device object. -/
def freshBegin (seq : BitVec 32) : List Word :=
  [ctrlMagic, 0x0000000100000001, 0x0000001C#32 ++ seq, 0x0000010000000001, 0x0000010100000000, 0x0000000100000001,
    0x0000000000000040]

def freshStop : List Word := [ctrlMagic, 0x0000000600000001, 0x0000000400000009, 0x0000000000000001]

def staleStop : List WriterIn :=
  packetCycles 0 (freshBegin 7) ++ packetCycles 1 (freshBegin 8) ++ packetCycles 1 freshStop

/-- Both uploads are begun, and then the first run is muted. -/
def staleStopHistory : List (Exchange freshUploads.length) :=
  List.zipWith (fun sender answer => ⟨sender, answer, 1⟩)
    [.upload ⟨0, by decide⟩, .upload ⟨1, by decide⟩, .command ⟨0, by decide⟩] (answers topWriterParams staleStop)

/-- The upload of the second object is stopped by a command of the first run. -/
theorem staleStop_not_own :
    ¬ ∀ (p : WriterParams) (is : List WriterIn) (uploads : List (UploadCall Nat))
      (history : List (Exchange uploads.length)), history.map Exchange.answer = answers p is →
      (∀ e ∈ history, e.Consistent uploads) →
      SessionsDistinct uploads ∧ CommandsOwn uploads history ∧ ArmsOwn uploads history := by
  intro claim
  obtain ⟨-, own, -⟩ := claim topWriterParams staleStop freshUploads staleStopHistory (by decide)
    (by decide)
  have stopped : staleStopHistory[2]?.map (fun e => (e.sender, e.answer.status)) =
      some (.command ⟨0, by decide⟩, statusOk) := by decide
  obtain ⟨e, third, stop⟩ := Option.map_eq_some_iff.mp stopped
  obtain ⟨sender, ok⟩ := Prod.mk.inj stop
  have split : staleStopHistory = staleStopHistory.take 2 ++ e :: [] := by
    have whole : staleStopHistory.take 3 = staleStopHistory := by decide
    rw [List.take_add_one, third] at whole
    exact whole.symm
  have held := own (staleStopHistory.take 2) e [] ⟨0, by decide⟩ split sender ok
  exact absurd held (by decide)

/-- One upload under a session its caller has chosen. -/
def chosenUpload : List (UploadCall Nat) := [⟨0, some 5, fun given mem => by cases mem; decide⟩]

def chosenHistory : List (Exchange chosenUpload.length) := [⟨.upload ⟨0, by decide⟩, begunAnswer, 1⟩]

theorem chosenUpload_identity :
    SessionsDistinct chosenUpload ∧ CommandsOwn chosenUpload chosenHistory ∧
      ArmsOwn chosenUpload chosenHistory := by
  refine (session_identity_iff topWriterParams (packetCycles 0 beginPacket) chosenUpload chosenHistory
    (by decide) (by decide)).mpr ⟨⟨?_, ?_, ?_, ?_⟩, ?_⟩
  · decide
  · decide
  · rintro ⟨u, small⟩ given explicit
    obtain rfl : u = 0 := Nat.lt_one_iff.mp small
    cases explicit
    decide
  · rintro ⟨u, small⟩ ⟨v, small'⟩ _ _ _
    exact Fin.ext ((Nat.lt_one_iff.mp small).trans (Nat.lt_one_iff.mp small').symm)
  · intro earlier e later u split sender
    have mem : e ∈ chosenHistory := split ▸ List.mem_append_right _ List.mem_cons_self
    rw [List.mem_singleton.mp mem] at sender
    cases sender

end Xczu47dr.Upload
