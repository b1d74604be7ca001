import Mathlib.Data.List.Basic
import Mathlib.Tactic.Common
import Xczu47dr.Control.Response

/-! # The stream of response words

What the output stage of `pl_riscv_control_v1` has still to hand over, and that a
loaded response leaves it word by word, its last word marked.
-/

namespace Xczu47dr.Control

/-- The words of one packet on a stream: only the last one carries `tlast`. -/
def framed : List (BitVec 64) → List (BitVec 64 × Bool)
  | [] => []
  | [word] => [(word, true)]
  | word :: next :: words => (word, false) :: framed (next :: words)

theorem framed_cons (word : BitVec 64) (words : List (BitVec 64)) :
    framed (word :: words) = (word, words.isEmpty) :: framed words := by
  cases words <;> rfl

namespace ResponseRequest

variable (q : ResponseRequest) (ids : BuildIds) (st : ControlStatus) (diagGeneration : BitVec 64)

/-- Opcode and sequence number of the command this answers. -/
def answer : BitVec 32 × BitVec 32 := (q.opcode, q.sequence)

/-- Every response has its three header words and fits the 48-word buffer. -/
theorem words_length : 3 ≤ (q.words ids st diagGeneration).length ∧
    (q.words ids st diagGeneration).length ≤ 47 := by
  unfold words
  cases q.kind <;>
    simp [header, ControlStatus.statusPayload, ControlStatus.rfdcPayload, ControlStatus.networkPayload,
      ControlStatus.diagPayload, ControlStatus.rfdcChannelWords]

end ResponseRequest

/-- Opcode and sequence number in the header of a response packet. -/
def packetAnswer (words : List (BitVec 64)) : BitVec 32 × BitVec 32 :=
  ((words.getD 1 0).extractLsb' 32 32, (words.getD 2 0).extractLsb' 0 32)

theorem packetAnswer_words (q : ResponseRequest) (ids : BuildIds) (st : ControlStatus)
    (diagGeneration : BitVec 64) : packetAnswer (q.words ids st diagGeneration) = q.answer := by
  have opcode (status version : BitVec 16) :
      (q.opcode ++ status ++ version : BitVec 64).extractLsb' 32 32 = q.opcode := by
    ext k inside
    simp only [BitVec.getElem_extractLsb', BitVec.getLsbD_append]
    simp [show ¬ 32 + k < 16 by omega, show ¬ 32 + k - 16 < 16 by omega, show 32 + k - 16 - 16 = k by omega,
      BitVec.getLsbD_eq_getElem inside]
  have sequence (bytes : BitVec 32) :
      (bytes ++ q.sequence : BitVec 64).extractLsb' 0 32 = q.sequence := by
    ext k inside
    rw [BitVec.getElem_extractLsb', Nat.zero_add, BitVec.getLsbD_append, if_pos inside,
      BitVec.getLsbD_eq_getElem inside]
  unfold ResponseRequest.words packetAnswer
  cases q.kind <;> simp [ResponseRequest.header, opcode, sequence, ResponseRequest.answer]

namespace ResponseOutput

variable {s : ResponseOutput}

/-- The words of the loaded response that have not been handed over. -/
def rest (s : ResponseOutput) : List (BitVec 64 × Bool) :=
  if s.tvalid then framed (s.words.drop s.index) else []

/-- The registers show the next word of the loaded response. -/
def Shows (s : ResponseOutput) : Prop :=
  s.tvalid = true → s.count = s.words.length ∧ s.words.length < 64 ∧
    ∃ words, s.words.drop s.index = s.tdata :: words ∧ s.tlast = words.isEmpty

theorem shows_reset : reset.Shows := fun valid => Bool.noConfusion valid

theorem shows_load {words : List (BitVec 64)} (two : 2 ≤ words.length) (short : words.length < 64) :
    (load words).Shows := by
  intro _
  refine ⟨rfl, short, ?_⟩
  rcases words with - | ⟨word, - | ⟨next, words⟩⟩
  · simp at two
  · simp at two
  · exact ⟨next :: words, rfl, rfl⟩

theorem shows_advance (shows' : s.Shows) (valid : s.tvalid = true) :
    s.advance.Shows ∧ s.advance.rest = s.rest.tail := by
  obtain ⟨count, short, words, drop, last⟩ := shows' valid
  have inside : s.index < s.words.length := by
    by_contra beyond
    rw [List.drop_eq_nil_of_le (by omega)] at drop
    contradiction
  rw [rest, rest, valid, if_pos rfl, drop, framed_cons, List.tail_cons]
  rw [← List.getElem_cons_drop inside] at drop
  obtain ⟨-, behind⟩ := List.cons_eq_cons.mp drop
  cases words with
  | nil =>
    have final : s.tlast = true := last
    simp [advance, final, Shows, framed]
  | cons next words =>
    have more : s.tlast = false := last
    have room : s.index + 1 < s.words.length := by
      by_contra beyond
      rw [List.drop_eq_nil_of_le (by omega)] at behind
      contradiction
    have index : (s.index + 1) % 64 = s.index + 1 := Nat.mod_eq_of_lt (by omega)
    have split := List.getElem_cons_drop room
    rw [behind] at split
    obtain ⟨head, tail⟩ := List.cons_eq_cons.mp split
    have data : s.words.getD (s.index + 1) 0 = next := by
      rw [List.getD_eq_getElem?_getD, List.getElem?_eq_getElem room, head]
      rfl
    have lengths : words.length + (s.index + 2) = s.words.length := by
      rw [← tail, List.length_drop]
      omega
    constructor
    · intro _
      simp only [advance, more, index, data]
      refine ⟨count, short, words, behind, ?_⟩
      have end' : (s.count + 63) % 64 = s.words.length - 1 := by omega
      change (s.index + 1 == (s.count + 63) % 64) = words.isEmpty
      rw [end']
      cases words with
      | nil =>
        simp only [List.length_nil] at lengths
        rw [List.isEmpty_nil, beq_iff_eq]
        omega
      | cons _ words =>
        simp only [List.length_cons] at lengths
        rw [List.isEmpty_cons, beq_eq_false_iff_ne]
        omega
    · simp [advance, more, index, valid, behind]

/-- One clock edge: what is handed over and what remains is what was owed, and the
    response that is loaded. -/
theorem step_spec (shows' : s.Shows) {request : Option (List (BitVec 64))}
    (free : request ≠ none → s.tvalid = false)
    (fits : ∀ words ∈ request, 2 ≤ words.length ∧ words.length < 64) (tready : Bool) :
    (s.step request tready).Shows ∧
      s.delivered tready ++ (s.step request tready).rest =
        s.rest ++ request.toList.flatMap framed := by
  cases request with
  | some words =>
    have idle := free (by simp)
    obtain ⟨two, short⟩ := fits words rfl
    refine ⟨shows_load two short, ?_⟩
    simp [step, delivered, rest, idle, load]
  | none =>
    cases valid : s.tvalid with
    | false => simp [step, delivered, rest, valid, Shows]
    | true =>
      cases tready with
      | false => simpa [step, delivered, valid] using shows'
      | true =>
        obtain ⟨next, remains⟩ := shows_advance shows' valid
        obtain ⟨-, -, words, drop, last⟩ := shows' valid
        simp only [step, valid, Bool.and_self, if_true, Option.toList_none, List.flatMap_nil,
          List.append_nil]
        refine ⟨next, ?_⟩
        rw [remains]
        simp [delivered, rest, valid, drop, framed_cons, last]

end ResponseOutput

end Xczu47dr.Control
