import Mathlib.Logic.Relation
import Xczu47dr.Upload.ServedPackets
import Xczu47dr.Upload.UploadRequests

/-! # An upload through a network that loses, repeats and delays

`UdpTransport.request_wave` sends a request again, unchanged, until a response with its
number and opcode comes; the network may lose, repeat and delay packets and responses.  The
writer answers what reaches it.  However the two are interleaved, every packet of an upload
takes effect exactly once.
-/

namespace Xczu47dr.Upload

open UploadWriter Wire Host

/-! ## The two ends and the network -/

/-- The host, the packets it has sent, and the answers of the board. -/
structure UploadLink where
  /-- the request the host is at; those before it have been answered OK -/
  index : Nat
  /-- the packets that have been sent, once or more often, are those below -/
  sent : Nat
  answered : List Transaction
  /-- the status the host has given up with -/
  refused : Option Nat

/-- A step of the host, of the board, or of the response path; what is lost makes no step. -/
inductive UploadLink.Step (u : WaveUpload) (s : UploadLink) : UploadLink → Prop
  /-- `send`: for the first time, or again after a timeout -/
  | transmits (more : s.index < u.requests.length) (going : s.refused = none) :
      UploadLink.Step u s { s with sent := s.index + 1 }
  /-- one of the packets sent so far is answered, whichever and however often -/
  | answers (k : Nat) (sent : k < s.sent) (r : WaveRequest) (request : u.requests[k]? = some r) (t : Transaction)
      (words : t.words = r.words) : UploadLink.Step u s { s with answered := s.answered ++ [t] }
  /-- `receive_wave_response`: an answer given so far, now or late, that matches the request -/
  | receives (r : WaveRequest) (request : u.requests[s.index]? = some r) (going : s.refused = none) (t : Transaction)
      (given : t ∈ s.answered) (own : t.seq = seqOf r.words ∧ t.opcode = opcodeOf r.words) :
      UploadLink.Step u s
        (if t.status = statusOk then { s with index := s.index + 1 } else { s with refused := some t.status })

/-- What can have happened since the host started with the upload. -/
def UploadLink.Reaches (u : WaveUpload) : UploadLink → Prop :=
  Relation.ReflTransGen (UploadLink.Step u) ⟨0, 0, [], none⟩

/-! ## Every interleaving -/

namespace WaveUpload

variable {u : WaveUpload}

theorem request_wellFormed (u : WaveUpload) {k : Nat} {r : WaveRequest} (request : u.requests[k]? = some r) :
    WellFormed r.words := by
  rcases request_cases request with ⟨-, rfl⟩ | ⟨j, d, -, found, rfl⟩ | ⟨-, rfl⟩
  · exact packed_wellFormed (r := .begin u.opening) (packWaveBegin_ok.mpr ⟨u.opens, rfl⟩)
  · exact packed_wellFormed (r := .data d) (packWaveData_ok.mpr ⟨(u.sends d (List.mem_of_getElem? found)).1, rfl⟩)
  · exact packed_wellFormed (r := .command u.closing) (packWaveCommand_ok.mpr ⟨u.closes.1, rfl⟩)

def numbers (u : WaveUpload) : List Int := u.opening.seq :: (u.datas.map (·.seq) ++ [u.closing.seq])

theorem number_of_request {k : Nat} {r : WaveRequest} (request : u.requests[k]? = some r) :
    ∃ number : Int, 0 ≤ number ∧ u.numbers[k]? = some number ∧ seqOf r.words = number.toNat := by
  rcases request_cases request with ⟨rfl, rfl⟩ | ⟨j, d, rfl, found, rfl⟩ | ⟨rfl, rfl⟩
  · have seq := (begin_request u.opens (.reset topWriterParams)).2.1
    exact ⟨_, u.opens.seq.1, rfl, seq⟩
  · obtain ⟨fit, -⟩ := u.sends d (List.mem_of_getElem? found)
    have inside := (List.getElem?_eq_some_iff.mp found).1
    refine ⟨d.seq, fit.seq.1, ?_, (data_request fit (.reset topWriterParams)).2.1⟩
    rw [numbers, List.getElem?_cons_succ, List.getElem?_append_left (by rwa [List.length_map]), List.getElem?_map, found]
    rfl
  · obtain ⟨fit, -⟩ := u.closes
    refine ⟨u.closing.seq, fit.seq.1, ?_, (command_request fit (.reset topWriterParams)).2.1⟩
    rw [numbers, List.getElem?_cons_succ, List.getElem?_append_right (by rw [List.length_map]), List.length_map,
      Nat.sub_self]
    rfl

theorem request_of_number {j k : Nat} {r q : WaveRequest} (first : u.requests[j]? = some r)
    (second : u.requests[k]? = some q) (same : seqOf r.words = seqOf q.words) : j = k := by
  obtain ⟨a, positive, named, own⟩ := number_of_request first
  obtain ⟨b, positive', named', own'⟩ := number_of_request second
  have equal : a = b := by omega
  have inside := (List.getElem?_eq_some_iff.mp named).1
  exact (List.getElem?_inj inside u.numbered).mp (named.trans (equal ▸ named'.symm))

end WaveUpload

/-- What is known of the link when the board has taken `done` requests. -/
structure Linked (u : WaveUpload) (s : UploadLink) (done : Nat) (c : UploadCore) (payloads : List (List Wire.Byte)) :
    Prop where
  going : s.refused = none
  reached : s.index ≤ done ∧ done ≤ s.sent ∧ s.sent ≤ s.index + 1
  progress : Progress u done c payloads
  pulses : s.answered.flatMap (·.pulses) = u.commands done
  answers : ∀ t ∈ s.answered, ∃ k r, u.requests[k]? = some r ∧ t.words = r.words ∧ k + 1 ≤ done ∧
    (s.index ≤ k → t.status = statusOk)

/-- What packets have left is determined by them. -/
theorem Chained.unique {c c' c'' : UploadCore} {ts : List Transaction} (first : Chained c ts c')
    (second : Chained c ts c'') : c' = c'' := by
  induction ts generalizing c with
  | nil => exact first.symm.trans second
  | cons t ts ih => exact ih first.2 second.2

section Interleavings

variable {u : WaveUpload} {p : WriterParams} {s : UploadLink}

/-- The board is never more than one request ahead of the host, and never behind it. -/
theorem linked_of_reaches (reaches : s.Reaches u) {c : UploadCore} {payloads : List (List Wire.Byte)}
    (unseen : ¬ (c.session = u.opening.session.toNat ∧ c.lastBeginRequest = u.opening.seq.toNat))
    (lawful : ∀ t ∈ s.answered, t.Lawful p) (memory : ∀ t ∈ s.answered, t.axiFails = false)
    (calm : ∀ t ∈ s.answered, t.playback ≠ 8) {c' : UploadCore} (chained : Chained c s.answered c') :
    ∃ done, Linked u s done c' (s.answered.foldl (fun payloads t => t.uploads payloads) payloads) := by
  induction reaches generalizing c' with
  | refl =>
    cases chained
    exact ⟨0, rfl, ⟨Nat.le_refl 0, Nat.le_refl 0, Nat.zero_le 1⟩, .waiting unseen, rfl, nofun⟩
  | @tail link _ earlier step ih =>
    cases step with
    | transmits =>
      obtain ⟨done, going, reached, progress, pulses, answers⟩ := ih lawful memory calm chained
      exact ⟨done, going, ⟨reached.1, by dsimp only; omega, Nat.le_refl _⟩, progress, pulses, answers⟩
    | answers k sent r request t words =>
      have before (x : Transaction) (among : x ∈ link.answered) : x ∈ link.answered ++ [t] :=
        List.mem_append_left _ among
      have last : t ∈ link.answered ++ [t] := List.mem_append_right _ List.mem_cons_self
      obtain ⟨between, first, now, rfl⟩ := chained.split
      obtain ⟨done, going, reached, progress, pulses, answers⟩ := ih (fun x among => lawful x (before x among))
        (fun x among => memory x (before x among)) (fun x among => calm x (before x among)) first
      rw [← now] at progress
      obtain ⟨done', moves, taken, next, commands, okay⟩ := progress.answers (lawful t last) request words (by omega)
        (memory t last) (calm t last)
      refine ⟨done', going, ⟨by dsimp only; omega, by dsimp only; omega, reached.2.2⟩, ?_, ?_, fun x among => ?_⟩
      · rw [List.foldl_append]
        exact next
      · rw [List.flatMap_append, pulses, ← commands]
        exact congrArg _ (List.append_nil _)
      · rcases List.mem_append.mp among with old | new
        · obtain ⟨j, q, requested, same, behind, status⟩ := answers x old
          exact ⟨j, q, requested, same, by omega, status⟩
        · obtain rfl := List.mem_singleton.mp new
          exact ⟨k, r, request, words, taken, fun waited => okay (by dsimp only at waited; omega)⟩
    | receives r request going t given own =>
      obtain ⟨done, going, reached, progress, pulses, answers⟩ := ih (by split_ifs at lawful <;> exact lawful)
        (by split_ifs at memory <;> exact memory) (by split_ifs at calm <;> exact calm)
        (by split_ifs at chained <;> exact chained)
      obtain ⟨k, q, requested, same, behind, status⟩ := answers t given
      have lawful' : t.Lawful p := by
        split_ifs at lawful <;> exact lawful t given
      have index : _ = k := WaveUpload.request_of_number request requested
        (own.1.symm.trans (lawful'.seq.trans (congrArg seqOf same)))
      have okay := status (Nat.le_of_eq index)
      rw [if_pos okay]
      refine ⟨done, going, ⟨by dsimp only; omega, reached.2.1, by dsimp only; omega⟩, progress, pulses,
      fun x among => ?_⟩
      obtain ⟨j, q', requested', same', behind', status'⟩ := answers x among
      exact ⟨j, q', requested', same', behind', fun waited => status' (by dsimp only at waited; omega)⟩

/-- When the host is through, so is the board. -/
theorem Linked.whole {done : Nat} {c : UploadCore} {payloads : List (List Wire.Byte)}
    (linked : Linked u s done c payloads) (through : s.index = u.requests.length) :
    SessionOf u c ∧ c.committed = true ∧ payloads.flatten = Host.carried u.datas ∧
      s.answered.flatMap (·.pulses) = [.begin, .commit] := by
  obtain ⟨-, reached, progress, pulses, -⟩ := linked
  have length : u.requests.length = u.datas.length + 2 := by simp [WaveUpload.requests]
  cases progress with
  | waiting => omega
  | receiving => omega
  | committed session committed =>
    refine ⟨session, committed, WaveUpload.payloads_all, ?_⟩
    rw [pulses, WaveUpload.commands, if_pos (Nat.le_add_left _ _), if_pos rfl]
    rfl

/-- What the packets that are answered later make of the session and of the memory. -/
theorem link_effect {before during : List WriterIn} {ts : List Transaction} (initial : Nat → Wire.Byte)
    (answered : answers p (before ++ during) = answers p before ++ ts) :
    Chained ((accountedWriter p).run (.reset p) before).settled ts
        ((accountedWriter p).run (.reset p) (before ++ during)).settled ∧ (∀ t ∈ ts, t.Lawful p) ∧
      HoldsAt (2 ^ 64)
        ((writerWithMemory p initial).run (writerWithMemory p initial).reset (before ++ during)).2.bytes p.ddrAddrBase
        (ts.foldl (fun payloads t => t.uploads payloads) (uploaded (answers p before))).flatten := by
  obtain ⟨-, chained, -⟩ := run_lawful p before
  obtain ⟨-, chained', lawful⟩ := run_lawful p (before ++ during)
  have held := (inPlace_run p initial (before ++ during)).held.of_append
  rw [answered] at chained' lawful held
  obtain ⟨between, first, rest⟩ := chained'.split
  obtain rfl := first.unique chained
  rw [uploaded, List.foldl_append] at held
  exact ⟨rest, fun t among => lawful t (List.mem_append_right _ among), held⟩

/-- From a writer at rest the requests can be made one after the other. -/
theorem link_reaches {is : List WriterIn} (rests : Rests ((followedWriter p).run (.reset p) is))
    (unseen : ¬ (((accountedWriter p).run (.reset p) is).settled.session = u.opening.session.toNat ∧
      ((accountedWriter p).run (.reset p) is).settled.lastBeginRequest = u.opening.seq.toNat))
    (count : Nat) (most : count ≤ u.requests.length) :
    ∃ during s, UploadLink.Reaches u s ∧ s.index = count ∧ s.refused = none ∧
      answers p (is ++ during) = answers p is ++ s.answered ∧ (∀ t ∈ s.answered, t.axiFails = false) ∧
      (∀ t ∈ s.answered, t.playback ≠ 8) ∧ Rests ((followedWriter p).run (.reset p) (is ++ during)) := by
  induction count with
  | zero =>
    refine ⟨[], ⟨0, 0, [], none⟩, .refl, rfl, rfl, ?_, nofun, nofun, ?_⟩
    · rw [List.append_nil, List.append_nil]
    · rw [List.append_nil]
      exact rests
  | succ count ih =>
    obtain ⟨during, s, reaches, index, going, answered, memory, calm, rests'⟩ := ih (by omega)
    obtain ⟨r, request⟩ : ∃ r, u.requests[count]? = some r := ⟨_, List.getElem?_eq_getElem most⟩
    obtain ⟨more, t, answer, words, playback, sound, rests''⟩ := request_served rests' (u.request_wellFormed request)
    rw [List.append_assoc] at answer rests''
    have memory' (x : Transaction) (among : x ∈ s.answered ++ [t]) : x.axiFails = false := by
      rcases List.mem_append.mp among with old | new
      · exact memory x old
      · rw [List.mem_singleton.mp new]
        exact sound
    have calm' (x : Transaction) (among : x ∈ s.answered ++ [t]) : x.playback ≠ 8 := by
      rcases List.mem_append.mp among with old | new
      · exact calm x old
      · rw [List.mem_singleton.mp new, playback]
        decide
    have all : answers p (is ++ (during ++ servedWords (ctrlMagic :: r.words) more)) =
        answers p is ++ (s.answered ++ [t]) := by
      rw [answer, answered, List.append_assoc]
    obtain ⟨chained, lawful', -⟩ := link_effect (fun _ => 0) all
    have last : t ∈ s.answered ++ [t] := List.mem_append_right _ List.mem_cons_self
    -- the request goes out, is answered, and its answer comes in
    have transmitted : UploadLink.Reaches u { s with sent := s.index + 1 } :=
      reaches.tail (.transmits (by omega) going)
    have given : UploadLink.Reaches u { s with sent := s.index + 1, answered := s.answered ++ [t] } :=
      transmitted.tail (.answers count (by dsimp only; omega) r request t words)
    obtain ⟨done, linked⟩ := @linked_of_reaches _ _ _ given _ [] unseen lawful' memory' calm' _ chained
    obtain ⟨k, q, requested, same, -, status⟩ := linked.answers t last
    have okay : t.status = statusOk := by
      refine status ?_
      rw [WaveUpload.request_of_number request requested (congrArg seqOf (words.symm.trans same))] at index
      exact Nat.le_of_eq index
    have own : t.seq = seqOf r.words ∧ t.opcode = opcodeOf r.words :=
      words ▸ ⟨(lawful' t last).seq, (lawful' t last).opcode⟩
    have waiting : u.requests[s.index]? = some r := index.symm ▸ request
    have received := UploadLink.Step.receives (s := { s with sent := s.index + 1, answered := s.answered ++ [t] })
      r waiting going t last own
    rw [if_pos okay] at received
    exact ⟨_, _, given.tail received, congrArg (· + 1) index, going, all, memory', calm', rests''⟩

end Interleavings

/-- What an upload has done when the host is at a request: the board has taken that request at
most once more than the host knows of, and its memory, session and commands show each of the
requests it has taken once. -/
structure TakesEffect (p : WriterParams) (u : WaveUpload) (s : UploadLink) (c : UploadCore) (m : DdrMemory) : Prop where
  going : s.refused = none
  once : ∃ done payloads, s.index ≤ done ∧ done ≤ s.index + 1 ∧ Progress u done c payloads ∧
    HoldsAt (2 ^ 64) m.bytes p.ddrAddrBase payloads.flatten ∧ s.answered.flatMap (·.pulses) = u.commands done
  whole : s.index = u.requests.length → SessionOf u c ∧ c.committed = true ∧
    HoldsAt (2 ^ 64) m.bytes p.ddrAddrBase (Host.carried u.datas) ∧
    s.answered.flatMap (·.pulses) = [.begin, .commit]

/-- However requests are lost, repeated and delayed and however late responses come, as long as
the memory answers and the playback path has no error, the host never meets a refusal and every
request takes effect exactly once.  When the host is through, the session is committed and the
record lies in the memory. -/
theorem upload_takes_effect_once (p : WriterParams) (initial : Nat → Wire.Byte) (u : WaveUpload)
    (before during : List WriterIn) (s : UploadLink) (reaches : s.Reaches u)
    (answered : answers p (before ++ during) = answers p before ++ s.answered)
    (memory : ∀ t ∈ s.answered, t.axiFails = false) (calm : ∀ t ∈ s.answered, t.playback ≠ 8)
    (unseen : ¬ (((accountedWriter p).run (.reset p) before).settled.session = u.opening.session.toNat ∧
      ((accountedWriter p).run (.reset p) before).settled.lastBeginRequest = u.opening.seq.toNat)) :
    TakesEffect p u s ((accountedWriter p).run (.reset p) (before ++ during)).settled
      ((writerWithMemory p initial).run (writerWithMemory p initial).reset (before ++ during)).2 := by
  obtain ⟨chained, lawful, held⟩ := link_effect initial answered
  obtain ⟨done, linked⟩ := linked_of_reaches reaches unseen lawful memory calm chained
  have reached := linked.reached
  refine ⟨linked.going, ⟨done, _, reached.1, by omega, linked.progress, held, linked.pulses⟩, fun through => ?_⟩
  obtain ⟨session, committed, payloads, pulses⟩ := linked.whole through
  rw [payloads] at held
  exact ⟨session, committed, held, pulses⟩

/-- A record of one frame in one DATA packet. -/
def frameUpload : WaveUpload where
  opening := ⟨5, 256, 1, 1, 1, 1, 7⟩
  datas := [⟨5, 0, 0, List.replicate 256 0x5A, 8⟩]
  closing := ⟨waveOpCommit, 5, 9⟩
  opens := ⟨by decide, by decide, by decide, by decide, by decide, rfl, rfl, ⟨by decide, by decide⟩⟩
  sends d among := by
    obtain rfl := List.mem_singleton.mp among
    refine ⟨⟨by decide, ⟨by decide, by decide⟩, ?_, by decide, ?_, ?_, ⟨by decide, by decide⟩⟩, rfl⟩ <;>
      rw [List.length_replicate] <;> decide
  closes := ⟨⟨by decide, ⟨by decide, by decide⟩, ⟨by decide, by decide⟩⟩, rfl, rfl⟩
  carries := ⟨rfl, rfl, by rw [List.length_replicate]; decide, trivial⟩
  whole := by
    rw [Host.carried, List.flatMap_singleton, List.length_replicate]
    rfl
  numbered := by decide

theorem rests_reset (p : WriterParams) : Rests ((followedWriter p).run (.reset p) []) := ⟨⟨rfl, rfl, rfl⟩, rfl, rfl⟩

theorem frameUpload_once :
    ∃ during s, s.Reaches frameUpload ∧ s.index = 3 ∧
      TakesEffect topWriterParams frameUpload s
        ((accountedWriter topWriterParams).run (.reset topWriterParams) ([] ++ during)).settled
        ((writerWithMemory topWriterParams fun _ => 0).run (writerWithMemory topWriterParams fun _ => 0).reset
          ([] ++ during)).2 := by
  obtain ⟨during, s, reaches, index, -, answered, memory, calm, -⟩ :=
    link_reaches (u := frameUpload) (rests_reset topWriterParams) (by decide) 3 (Nat.le_refl _)
  exact ⟨during, s, reaches, index,
    upload_takes_effect_once topWriterParams (fun _ => 0) frameUpload [] during s reaches answered memory calm
      (by decide)⟩

/-- From every state in which the writer rests every upload can be carried through, whatever the
session was before: the writer never gets stuck. -/
theorem upload_completes (p : WriterParams) (initial : Nat → Wire.Byte) (u : WaveUpload) (is : List WriterIn)
    (rests : Rests ((followedWriter p).run (.reset p) is))
    (unseen : ¬ (((accountedWriter p).run (.reset p) is).settled.session = u.opening.session.toNat ∧
      ((accountedWriter p).run (.reset p) is).settled.lastBeginRequest = u.opening.seq.toNat)) :
    ∃ during s, UploadLink.Reaches u s ∧ s.index = u.requests.length ∧
      answers p (is ++ during) = answers p is ++ s.answered ∧
      Rests ((followedWriter p).run (.reset p) (is ++ during)) ∧
      ((accountedWriter p).run (.reset p) (is ++ during)).settled.committed = true ∧
      HoldsAt (2 ^ 64) ((writerWithMemory p initial).run (writerWithMemory p initial).reset (is ++ during)).2.bytes
        p.ddrAddrBase (Host.carried u.datas) := by
  obtain ⟨during, s, reaches, index, -, answered, memory, calm, rests'⟩ :=
    link_reaches rests unseen u.requests.length (Nat.le_refl _)
  obtain ⟨chained, lawful, held⟩ := link_effect initial answered
  obtain ⟨done, linked⟩ := linked_of_reaches reaches unseen lawful memory calm chained
  obtain ⟨-, committed, payloads, -⟩ := linked.whole index
  rw [payloads] at held
  exact ⟨during, s, reaches, index, answered, rests', committed, held⟩

theorem frameUpload_completes :
    ∃ during s, UploadLink.Reaches frameUpload s ∧ s.index = frameUpload.requests.length ∧
      answers topWriterParams ([] ++ during) = answers topWriterParams [] ++ s.answered ∧
      Rests ((followedWriter topWriterParams).run (.reset topWriterParams) ([] ++ during)) ∧
      ((accountedWriter topWriterParams).run (.reset topWriterParams) ([] ++ during)).settled.committed = true ∧
      HoldsAt (2 ^ 64) ((writerWithMemory topWriterParams fun _ => 0).run
          (writerWithMemory topWriterParams fun _ => 0).reset ([] ++ during)).2.bytes
        topWriterParams.ddrAddrBase (Host.carried frameUpload.datas) :=
  upload_completes topWriterParams (fun _ => 0) frameUpload [] (rests_reset topWriterParams) (by decide)

end Xczu47dr.Upload
