import Mathlib.Data.List.TakeDrop
import Mathlib.Tactic.Common
import Xczu47dr.Control.Framer

/-! # Packets seen by the framer

The framer counts the declared payload and looks at `tlast` in two states only.
It keeps packets apart as long as every packet is as long as it declares, carries
the magic nowhere else a search could find it, and leaves one cycle for the word
still held back at its end.
-/

namespace Xczu47dr.Control

open Clocked Machine

def udpWords (cycles : List UdpIn) : List (BitVec 64) :=
  (cycles.filter UdpIn.tvalid).map UdpIn.tdata

/-- One packet of the UDP stream with the cycles around its words: `body` up to the
    final word, which alone has `tlast`, and idle cycles behind it. -/
structure Reception where
  body : List UdpIn
  final : BitVec 64
  gap : List UdpIn
  body_open : ∀ c ∈ body, c.tvalid = true → c.tlast = false
  gap_idle : ∀ c ∈ gap, c.tvalid = false

namespace Reception

variable (r : Reception)

def cycles : List UdpIn := r.body ++ ⟨true, r.final, true⟩ :: r.gap

/-- The words of the packet before its final one. -/
def bodyWords : List (BitVec 64) := udpWords r.body

def words : List (BitVec 64) := r.bodyWords ++ [r.final]

/-- A packet that opens with the magic and goes on. -/
def IsCommand : Prop := r.bodyWords.head? = some rfctrl2Magic

instance : Decidable r.IsCommand := inferInstanceAs (Decidable (_ = _))

/-- The words the packet declares: magic, two header words and the payload. -/
def declaredWords : Nat :=
  match r.words with
  | _ :: _ :: hdr1 :: _ => 3 + loadedWords hdr1
  | words => words.length

end Reception

/-- The same cycles without the words that follow the first `n`. -/
def muteAfter : Nat → List UdpIn → List UdpIn
  | _, [] => []
  | 0, c :: cycles => { c with tvalid := false } :: muteAfter 0 cycles
  | n + 1, c :: cycles => c :: muteAfter (if c.tvalid then n else n + 1) cycles

namespace Framer

/-- What the framer is to emit for a packet: nothing unless it is a command, else
    what it makes of the declared words of this packet alone. -/
def own (r : Reception) : List RvctrlWord :=
  if r.IsCommand then framer.log emitted .reset (muteAfter r.declaredWords r.cycles) else []

/-- The packets have been kept apart: each contributed what is its own, and the
    framer is ready for the next one. -/
structure Isolated (rs : List Reception) : Prop where
  emits : framer.log emitted .reset (rs.flatMap Reception.cycles) = rs.flatMap own
  ready : (framer.run .reset (rs.flatMap Reception.cycles)).state = .idle

/-- A packet the framer keeps to itself. -/
structure Clean (r : Reception) : Prop where
  foreign : ¬ r.IsCommand → rfctrl2Magic ∉ r.bodyWords
  complete : r.IsCommand → 3 ≤ r.words.length ∧ r.declaredWords ≤ r.words.length
  surplus : r.IsCommand → rfctrl2Magic ∉ r.bodyWords.drop r.declaredWords
  settled : r.IsCommand → r.declaredWords = r.words.length → r.gap ≠ []

/-! ## Live registers -/

/-- Two framers that will do the same: they agree on the registers their state
    still reads. -/
def Alike (s t : Framer) : Prop :=
  s.state = t.state ∧ s.skidValid = t.skidValid ∧ (s.skidValid = true → s.state = .payload) ∧
    match s.state with
    | .idle | .hdr0 | .drop => True
    | .hdr1 => s.hdr0Word = t.hdr0Word
    | .emitHdr1 => s.hdr1Word = t.hdr1Word ∧ s.payloadWordsLeft = t.payloadWordsLeft ∧
        s.wordCount = t.wordCount ∧ s.nonzero = t.nonzero ∧ s.moreThanOne = t.moreThanOne
    | .payload => s.payloadWordsLeft = t.payloadWordsLeft ∧ s.wordCount = t.wordCount ∧
        s.nonzero = t.nonzero ∧ s.moreThanOne = t.moreThanOne ∧
        (s.skidValid = true → s.skidWord = t.skidWord)

def Parked (s : Framer) : Prop := s.state = .idle ∧ s.skidValid = false

theorem Parked.alike {s t : Framer} (hs : s.Parked) (ht : t.Parked) : s.Alike t := by
  refine ⟨by rw [hs.1, ht.1], by rw [hs.2, ht.2], fun valid => ?_, ?_⟩
  · rw [hs.2] at valid
    contradiction
  · rw [hs.1]
    trivial

theorem alike_step (s t : Framer) (i : UdpIn) (alike : s.Alike t) :
    (s.step i).Alike (t.step i) ∧ s.emitted i = t.emitted i := by
  obtain ⟨state, valid, out, hdr0, hdr1, skid, skidValid, left, count, nonzero, more⟩ := s
  obtain ⟨state', valid', out', hdr0', hdr1', skid', skidValid', left', count', nonzero', more'⟩ := t
  obtain ⟨rfl, rfl, held, live⟩ := alike
  cases state with
  | idle =>
    have empty : skidValid = false := by simpa using held
    subst empty
    simp only [emitted, step, stepIdle]
    split <;> simp [Alike, output, quiet]
  | hdr0 =>
    have empty : skidValid = false := by simpa using held
    subst empty
    simp only [emitted, step, stepHdr0]
    split
    · cases i.tlast <;> simp [Alike, output, quiet]
    · simp [Alike, output, quiet]
  | hdr1 =>
    have empty : skidValid = false := by simpa using held
    subst empty
    obtain rfl : hdr0 = hdr0' := live
    simp only [emitted, step, stepHdr1]
    split <;> simp [Alike, output, quiet, emit]
  | emitHdr1 =>
    have empty : skidValid = false := by simpa using held
    subst empty
    obtain ⟨rfl, rfl, rfl, rfl, rfl⟩ := live
    simp only [emitted, step, stepEmitHdr1]
    split
    · simp [Alike, output, quiet, emit]
    · split
      · exact ⟨⟨rfl, rfl, fun _ => rfl, rfl, rfl, rfl, rfl, fun _ => rfl⟩, rfl⟩
      · simp [Alike, output, quiet, emit]
  | payload =>
    obtain ⟨rfl, rfl, rfl, rfl, same⟩ := live
    simp only [emitted, step, stepPayload]
    cases skidValid with
    | true =>
      obtain rfl : skid = skid' := same rfl
      simp only [if_true]
      split
      · exact ⟨⟨rfl, rfl, fun _ => rfl, rfl, rfl, rfl, rfl, fun _ => rfl⟩, rfl⟩
      · cases nonzero <;> simp [Alike, output, quiet, emit]
    | false =>
      simp only [Bool.false_eq_true, if_false]
      split
      · split
        · simp [Alike, output, quiet, emit]
        · exact ⟨⟨rfl, rfl, fun _ => rfl, rfl, rfl, rfl, rfl, fun valid => Bool.noConfusion valid⟩, rfl⟩
      · simp [Alike, output, quiet]
  | drop =>
    have empty : skidValid = false := by simpa using held
    subst empty
    simp only [emitted, step, stepDrop]
    split <;> simp [Alike, output, quiet]

/-- From rest every run emits what it emits from reset. -/
theorem Parked.log_eq {s : Framer} (parked : s.Parked) (cycles : List UdpIn) :
    (framer.run s cycles).Alike (framer.run .reset cycles) ∧
      framer.log emitted s cycles = framer.log emitted .reset cycles :=
  framer.log_eq_of_alike (R := Alike) alike_step (parked.alike ⟨rfl, rfl⟩) cycles

/-! ## Cycles in which nothing is found -/

/-- No word of these cycles opens a command. -/
def Unmarked (cycles : List UdpIn) : Prop :=
  ∀ c ∈ cycles, c.tvalid = true → c.tlast = false → c.tdata ≠ rfctrl2Magic

theorem Parked.step_unmarked {s : Framer} (parked : s.Parked) {c : UdpIn}
    (unmarked : c.tvalid = true → c.tlast = false → c.tdata ≠ rfctrl2Magic) :
    (s.step c).Parked ∧ s.emitted c = [] := by
  have missed : (c.tvalid && c.tdata == rfctrl2Magic && !c.tlast) = false := by
    cases valid : c.tvalid with
    | false => rfl
    | true =>
      cases last : c.tlast with
      | true => simp
      | false => simp [unmarked valid last]
  simp [emitted, step, stepIdle, parked.1, missed, Parked, quiet, output, parked.2]

theorem Parked.run_unmarked {s : Framer} (parked : s.Parked) (cycles : List UdpIn)
    (unmarked : Unmarked cycles) :
    (framer.run s cycles).Parked ∧ framer.log emitted s cycles = [] := by
  induction cycles generalizing s with
  | nil => exact ⟨parked, rfl⟩
  | cons c cycles ih =>
    obtain ⟨next, silent⟩ := parked.step_unmarked (unmarked c List.mem_cons_self)
    obtain ⟨rest, quiet⟩ := ih next fun c held => unmarked c (List.mem_cons_of_mem _ held)
    exact ⟨rest, by rw [log_cons, silent]; exact quiet⟩

/-! ## The declared words -/

/-- At most one word is still to leave, whatever comes next. -/
def Settling (s : Framer) : Prop :=
  s.Parked ∨ s.state = .emitHdr1 ∧ s.skidValid = false ∧ s.nonzero = false ∨
    s.state = .payload ∧ s.skidValid = true ∧ s.nonzero = false

/-- A settling framer is parked one cycle later and ignores that cycle's word, unless
    it was parked already and the word opens a command. -/
theorem Settling.step {s : Framer} (settling : s.Settling) {c : UdpIn}
    (unmarked : c.tvalid = true → c.tlast = false → c.tdata ≠ rfctrl2Magic) :
    (s.step c).Parked ∧ s.emitted c = s.emitted { c with tvalid := false } := by
  rcases settling with parked | ⟨state, skid, last⟩ | ⟨state, skid, last⟩
  · have silent := parked.step_unmarked unmarked
    have muted := parked.step_unmarked (c := { c with tvalid := false }) (by simp)
    exact ⟨silent.1, by rw [silent.2, muted.2]⟩
  · simp [emitted, Framer.step, stepEmitHdr1, state, last, Parked, output, emit, quiet]
  · simp [emitted, Framer.step, stepPayload, state, skid, last, Parked, output, emit, quiet]

theorem Settling.run {s : Framer} (settling : s.Settling) (cycles : List UdpIn)
    (unmarked : Unmarked cycles) :
    (cycles ≠ [] → (framer.run s cycles).Parked) ∧
      framer.log emitted s cycles =
        framer.log emitted s (cycles.map fun c => { c with tvalid := false }) := by
  cases cycles with
  | nil => exact ⟨fun none => absurd rfl none, rfl⟩
  | cons c cycles =>
    have rest : Unmarked cycles := fun c held => unmarked c (List.mem_cons_of_mem _ held)
    have muted : Unmarked (cycles.map fun c => { c with tvalid := false }) := by
      intro c held valid
      obtain ⟨_, -, rfl⟩ := List.mem_map.mp held
      contradiction
    obtain ⟨next, same⟩ := settling.step (unmarked c List.mem_cons_self)
    obtain ⟨nextMuted, -⟩ := settling.step (c := { c with tvalid := false }) (by simp)
    refine ⟨fun _ => (next.run_unmarked cycles rest).1, ?_⟩
    rw [List.map_cons, log_cons, log_cons, same]
    have tail := (next.run_unmarked cycles rest).2
    have tailMuted := (nextMuted.run_unmarked _ muted).2
    exact congrArg _ (tail.trans tailMuted.symm)

/-- Cycles that carry exactly these words and end with the last of them.  Only the
    last may have `tlast`. -/
inductive Carries : List UdpIn → List (BitVec 64) → Prop
  | nil : Carries [] []
  | idle {c cycles words} : c.tvalid = false → words ≠ [] → Carries cycles words →
      Carries (c :: cycles) words
  | word {c cycles words} : c.tvalid = true → (words ≠ [] → c.tlast = false) → Carries cycles words →
      Carries (c :: cycles) (c.tdata :: words)

/-- The payload counters say that `n` words are outstanding. -/
structure Owes (s : Framer) (n : Nat) : Prop where
  left : s.payloadWordsLeft = n
  nonzero : s.nonzero = (n != 0)
  moreThanOne : s.moreThanOne = decide (1 < n)
  bound : n < 2 ^ 32

/-- The words that complete the packet under way. -/
def Expects (s : Framer) (words : List (BitVec 64)) : Prop :=
  match s.state with
  | .idle => s.skidValid = false ∧ (words = [] ∨
      ∃ hdr0 hdr1 payload, words = rfctrl2Magic :: hdr0 :: hdr1 :: payload ∧
        payload.length = loadedWords hdr1)
  | .hdr0 => s.skidValid = false ∧
      ∃ hdr0 hdr1 payload, words = hdr0 :: hdr1 :: payload ∧ payload.length = loadedWords hdr1
  | .hdr1 => s.skidValid = false ∧ ∃ hdr1 payload, words = hdr1 :: payload ∧
      payload.length = loadedWords hdr1
  | .emitHdr1 => s.skidValid = false ∧ s.Owes words.length
  | .payload => s.Owes words.length ∧ (words = [] → s.skidValid = true)
  | .drop => False

theorem loadedWords_lt (hdr1 : BitVec 64) : loadedWords hdr1 < 2 ^ 32 := by
  unfold loadedWords
  omega

theorem Owes.count {s t : Framer} {n : Nat} (owes : s.Owes (n + 1))
    (left : t.payloadWordsLeft = s.count.payloadWordsLeft) (nonzero : t.nonzero = s.count.nonzero)
    (more : t.moreThanOne = s.count.moreThanOne) : t.Owes n := by
  have bound := owes.bound
  refine ⟨?_, ?_, ?_, by omega⟩
  · simp only [left, Framer.count, owes.left]
    omega
  · rw [nonzero, Framer.count, owes.moreThanOne]
    cases n <;> simp
  · simp only [more, Framer.count, owes.left, decide_eq_decide]
    omega

/-- A cycle without event leaves the registers it reads alone. -/
theorem Expects.quiet {s : Framer} {words : List (BitVec 64)} (expects : s.Expects words) :
    s.quiet.Expects words := by
  have same : s.quiet.state = s.state := rfl
  unfold Expects at expects ⊢
  rw [same]
  cases at_ : s.state with
  | emitHdr1 =>
    rw [at_] at expects
    exact ⟨expects.1, { expects.2 with }⟩
  | payload =>
    rw [at_] at expects
    exact ⟨{ expects.1 with }, expects.2⟩
  | idle | hdr0 | hdr1 | drop =>
    rw [at_] at expects
    exact expects

/-- An idle cycle leaves the outstanding words outstanding. -/
theorem Expects.idle {s : Framer} {words : List (BitVec 64)} (expects : s.Expects words)
    (some : words ≠ []) {c : UdpIn} (idle : c.tvalid = false) : (s.step c).Expects words := by
  cases at_ : s.state with
  | idle => simpa [Framer.step, at_, stepIdle, idle] using expects.quiet
  | hdr0 => simpa [Framer.step, at_, stepHdr0, idle] using expects.quiet
  | hdr1 => simpa [Framer.step, at_, stepHdr1, idle] using expects.quiet
  | emitHdr1 =>
    rw [Expects, at_] at expects
    obtain ⟨skid, owes⟩ := expects
    have outstanding : s.nonzero = true := by
      rw [owes.nonzero, bne_iff_ne, Ne, List.length_eq_zero_iff]
      exact some
    rw [Framer.step, at_]
    simp only [stepEmitHdr1, outstanding, idle]
    exact ⟨⟨owes.left, owes.nonzero, owes.moreThanOne, owes.bound⟩, fun none => absurd none some⟩
  | payload =>
    cases skid : s.skidValid with
    | true =>
      rw [Expects, at_] at expects
      obtain ⟨owes, -⟩ := expects
      have outstanding : s.nonzero = true := by
        rw [owes.nonzero, bne_iff_ne, Ne, List.length_eq_zero_iff]
        exact some
      rw [Framer.step, at_]
      simp only [stepPayload, skid, outstanding, idle]
      exact ⟨⟨owes.left, owes.nonzero, owes.moreThanOne, owes.bound⟩, fun none => absurd none some⟩
    | false => simpa [Framer.step, at_, stepPayload, skid, idle] using expects.quiet
  | drop => simp [Expects, at_] at expects

theorem Expects.word {s : Framer} {c : UdpIn} {words : List (BitVec 64)}
    (expects : s.Expects (c.tdata :: words)) (valid : c.tvalid = true)
    (opens : words ≠ [] → c.tlast = false) : (s.step c).Expects words := by
  cases at_ : s.state with
  | idle =>
    rw [Expects, at_] at expects
    obtain ⟨skid, none | ⟨hdr0, hdr1, payload, eq, length⟩⟩ := expects
    · contradiction
    · obtain ⟨magic, rfl⟩ := List.cons_eq_cons.mp eq
      have more := opens (by simp)
      simp only [Framer.step, at_, stepIdle, valid, magic, more]
      exact ⟨skid, hdr0, hdr1, payload, rfl, length⟩
  | hdr0 =>
    rw [Expects, at_] at expects
    obtain ⟨skid, hdr0, hdr1, payload, eq, length⟩ := expects
    obtain ⟨-, rfl⟩ := List.cons_eq_cons.mp eq
    have more := opens (by simp)
    simp only [Framer.step, at_, stepHdr0, valid, more]
    exact ⟨skid, hdr1, payload, rfl, length⟩
  | hdr1 =>
    rw [Expects, at_] at expects
    obtain ⟨skid, hdr1, payload, eq, length⟩ := expects
    obtain ⟨rfl, rfl⟩ := List.cons_eq_cons.mp eq
    simp only [Framer.step, at_, stepHdr1, valid]
    refine ⟨skid, ?_, ?_, ?_, ?_⟩
    · exact length.symm
    · rw [length]
      rfl
    · rw [length]
      rfl
    · rw [length]
      exact loadedWords_lt _
  | emitHdr1 =>
    rw [Expects, at_] at expects
    obtain ⟨skid, owes⟩ := expects
    have outstanding : s.nonzero = true := by rw [owes.nonzero, bne_iff_ne]; simp
    rw [Framer.step, at_]
    simp only [stepEmitHdr1, outstanding, valid]
    exact ⟨owes.count rfl rfl rfl, fun _ => rfl⟩
  | payload =>
    rw [Expects, at_] at expects
    obtain ⟨owes, -⟩ := expects
    have outstanding : s.nonzero = true := by rw [owes.nonzero, bne_iff_ne]; simp
    rw [Framer.step, at_]
    cases skid : s.skidValid with
    | true =>
      simp only [stepPayload, skid, outstanding, valid]
      exact ⟨owes.count rfl rfl rfl, fun _ => rfl⟩
    | false =>
      cases more : s.moreThanOne with
      | false =>
        have single : words = [] := by
          have short := owes.moreThanOne
          rw [more, eq_comm, decide_eq_false_iff_not, List.length_cons] at short
          exact List.length_eq_zero_iff.mp (by omega)
        simp only [stepPayload, skid, outstanding, valid, more]
        exact ⟨skid, Or.inl single⟩
      | true =>
        have several : words ≠ [] := by
          rintro rfl
          have short := owes.moreThanOne
          simp [more] at short
        simp only [stepPayload, skid, outstanding, valid, more]
        exact ⟨owes.count rfl (by rw [Framer.count]; exact more.symm) rfl, fun none => absurd none several⟩
  | drop => simp [Expects, at_] at expects

theorem Expects.run {s : Framer} {cycles : List UdpIn} {words : List (BitVec 64)}
    (expects : s.Expects words) (carries : Carries cycles words) :
    (framer.run s cycles).Expects [] := by
  induction carries generalizing s with
  | nil => exact expects
  | idle idle some _ ih => exact ih (expects.idle some idle)
  | word valid opens _ ih => exact ih (expects.word valid opens)

theorem Expects.settling {s : Framer} (expects : s.Expects []) : s.Settling := by
  cases at_ : s.state with
  | idle =>
    rw [Expects, at_] at expects
    exact Or.inl ⟨at_, expects.1⟩
  | emitHdr1 =>
    rw [Expects, at_] at expects
    exact Or.inr (Or.inl ⟨at_, expects.1, expects.2.nonzero⟩)
  | payload =>
    rw [Expects, at_] at expects
    exact Or.inr (Or.inr ⟨at_, expects.2 rfl, expects.1.nonzero⟩)
  | hdr0 | hdr1 | drop => simp [Expects, at_] at expects

/-! ## Cutting a packet at its declared end -/

theorem Carries.last {cycles : List UdpIn} {words : List (BitVec 64)} (carries : Carries cycles words) :
    ∀ c ∈ cycles.getLast?, c.tvalid = true := by
  induction carries with
  | nil => simp
  | @idle c cycles words _ some carries ih =>
    cases carries with
    | nil => exact absurd rfl some
    | idle | word => simpa using ih
  | @word c cycles words valid _ carries ih =>
    cases carries with
    | nil => simpa using valid
    | idle | word => simpa using ih

/-- Only the final word has `tlast`. -/
def OpenUntilFinal : List UdpIn → Prop
  | [] => True
  | c :: cycles => (c.tvalid = true → udpWords cycles ≠ [] → c.tlast = false) ∧ OpenUntilFinal cycles

/-- The words without `tlast`. -/
def openWords (cycles : List UdpIn) : List (BitVec 64) :=
  (cycles.filter fun c => c.tvalid && !c.tlast).map UdpIn.tdata

theorem udpWords_cons_idle {c : UdpIn} (idle : c.tvalid = false) (cycles : List UdpIn) :
    udpWords (c :: cycles) = udpWords cycles := by
  simp [udpWords, idle]

theorem udpWords_cons_word {c : UdpIn} (valid : c.tvalid = true) (cycles : List UdpIn) :
    udpWords (c :: cycles) = c.tdata :: udpWords cycles := by
  simp [udpWords, valid]

theorem mem_openWords {c : UdpIn} {cycles : List UdpIn} (held : c ∈ cycles) (valid : c.tvalid = true)
    (more : c.tlast = false) : c.tdata ∈ openWords cycles :=
  List.mem_map.mpr ⟨c, List.mem_filter.mpr ⟨held, by simp [valid, more]⟩, rfl⟩

theorem muteAfter_zero (cycles : List UdpIn) :
    muteAfter 0 cycles = cycles.map fun c => { c with tvalid := false } := by
  induction cycles with
  | nil => rfl
  | cons c cycles ih => rw [muteAfter, ih, List.map_cons]

/-- The cycles up to the `n`-th word, and what is behind it. -/
structure CutAt (n : Nat) (cycles head tail : List UdpIn) : Prop where
  split : cycles = head ++ tail
  carries : Carries head ((udpWords cycles).take n)
  mute : muteAfter n cycles = head ++ tail.map fun c => { c with tvalid := false }
  rest : udpWords tail = (udpWords cycles).drop n
  behind : ∀ c ∈ tail, c.tvalid = true → c.tlast = false → c.tdata ∈ (openWords cycles).drop n

theorem exists_cutAt (cycles : List UdpIn) (opens : OpenUntilFinal cycles) (n : Nat)
    (enough : n ≤ (udpWords cycles).length) : ∃ head tail, CutAt n cycles head tail := by
  induction cycles generalizing n with
  | nil =>
    obtain rfl : n = 0 := by simpa [udpWords] using enough
    exact ⟨[], [], rfl, .nil, rfl, rfl, by simp⟩
  | cons c cycles ih =>
    cases n with
    | zero =>
      refine ⟨[], c :: cycles, rfl, by rw [List.take_zero]; exact .nil, muteAfter_zero _, rfl, ?_⟩
      exact fun d held valid more => mem_openWords held valid more
    | succ n =>
      cases valid : c.tvalid with
      | false =>
        rw [udpWords_cons_idle valid] at enough
        obtain ⟨head, tail, cut⟩ := ih opens.2 (n + 1) enough
        have kept : openWords (c :: cycles) = openWords cycles := by simp [openWords, valid]
        refine ⟨c :: head, tail, by rw [cut.split]; rfl, ?_, ?_, ?_, ?_⟩
        · rw [udpWords_cons_idle valid]
          refine .idle valid ?_ cut.carries
          intro none
          have short := congrArg List.length none
          rw [List.length_take, List.length_nil] at short
          omega
        · rw [muteAfter, valid, if_neg Bool.false_ne_true, cut.mute]
          rfl
        · rw [cut.rest, udpWords_cons_idle valid]
        · rw [kept]
          exact cut.behind
      | true =>
        rw [udpWords_cons_word valid, List.length_cons] at enough
        obtain ⟨head, tail, cut⟩ := ih opens.2 n (by omega)
        refine ⟨c :: head, tail, by rw [cut.split]; rfl, ?_, ?_, ?_, ?_⟩
        · rw [udpWords_cons_word valid, List.take_succ_cons]
          refine .word valid ?_ cut.carries
          intro more
          refine opens.1 valid ?_
          intro none
          simp [none] at more
        · rw [muteAfter, valid, if_pos rfl, cut.mute]
          rfl
        · rw [cut.rest, udpWords_cons_word valid, List.drop_succ_cons]
        · cases last : c.tlast with
          | false =>
            have kept : openWords (c :: cycles) = c.tdata :: openWords cycles := by
              simp [openWords, valid, last]
            rw [kept, List.drop_succ_cons]
            exact cut.behind
          | true =>
            -- behind the final word there is none
            have none : udpWords cycles = [] := by
              by_contra some
              simpa [last] using opens.1 valid some
            intro d held valid
            have gone : d.tdata ∈ udpWords cycles := by
              refine List.mem_map.mpr ⟨d, List.mem_filter.mpr ⟨?_, valid⟩, rfl⟩
              rw [cut.split]
              exact List.mem_append_right _ held
            rw [none] at gone
            exact absurd gone List.not_mem_nil

theorem openUntilFinal_idle {gap : List UdpIn} (idle : ∀ c ∈ gap, c.tvalid = false) :
    OpenUntilFinal gap := by
  induction gap with
  | nil => trivial
  | cons c gap ih =>
    refine ⟨fun valid => ?_, ih fun d held => idle d (List.mem_cons_of_mem _ held)⟩
    rw [idle c List.mem_cons_self] at valid
    contradiction

theorem openUntilFinal_append {body rest : List UdpIn}
    (opens : ∀ c ∈ body, c.tvalid = true → c.tlast = false) (behind : OpenUntilFinal rest) :
    OpenUntilFinal (body ++ rest) := by
  induction body with
  | nil => exact behind
  | cons c body ih =>
    exact ⟨fun valid _ => opens c List.mem_cons_self valid,
      ih fun d held => opens d (List.mem_cons_of_mem _ held)⟩

/-! ## One packet -/

section Packet

variable (r : Reception)

theorem udpWords_gap : udpWords r.gap = [] := by
  rw [udpWords, List.map_eq_nil_iff, List.filter_eq_nil_iff]
  intro c held
  simp [r.gap_idle c held]

theorem udpWords_cycles : udpWords r.cycles = r.words := by
  have gap := udpWords_gap r
  simp only [udpWords] at gap
  simp [Reception.cycles, Reception.words, Reception.bodyWords, udpWords, gap]

theorem openWords_cycles : openWords r.cycles = r.bodyWords := by
  have body : openWords r.body = r.bodyWords := by
    unfold openWords Reception.bodyWords udpWords
    congr 1
    refine List.filter_congr fun c held => ?_
    cases valid : c.tvalid with
    | false => rfl
    | true => simp [r.body_open c held valid]
  have gap : openWords r.gap = [] := by
    rw [openWords, List.map_eq_nil_iff, List.filter_eq_nil_iff]
    intro c held
    simp [r.gap_idle c held]
  simp only [openWords] at body gap
  simp [Reception.cycles, openWords, body, gap]

theorem openUntilFinal_cycles : OpenUntilFinal r.cycles := by
  refine openUntilFinal_append r.body_open ⟨fun _ some => absurd (udpWords_gap r) some, ?_⟩
  exact openUntilFinal_idle r.gap_idle

variable {r}

/-- A command that is as long as it declares carries what a parked framer expects. -/
theorem expects_declared (command : r.IsCommand) (clean : Clean r) {s : Framer} (parked : s.Parked) :
    s.Expects (r.words.take r.declaredWords) := by
  obtain ⟨three, enough⟩ := clean.complete command
  have opens : r.words.head? = some rfctrl2Magic := by
    rw [Reception.words, List.head?_append, command]
    rfl
  unfold Reception.declaredWords at enough ⊢
  rcases words : r.words with - | ⟨magic, - | ⟨hdr0, - | ⟨hdr1, payload⟩⟩⟩
  · simp [words] at three
  · simp [words] at three
  · simp [words] at three
  · rw [words, List.head?_cons, Option.some_inj] at opens
    rw [words] at enough
    simp only [List.length_cons] at enough
    rw [Expects, parked.1]
    refine ⟨parked.2, Or.inr ⟨hdr0, hdr1, payload.take (loadedWords hdr1), ?_, ?_⟩⟩
    · change List.take (3 + loadedWords hdr1) _ = _
      rw [opens, Nat.add_comm 3]
      rfl
    · rw [List.length_take]
      omega

/-- A clean command leaves the framer parked and what it emits is its own. -/
theorem Parked.command {s : Framer} (parked : s.Parked) (command : r.IsCommand) (clean : Clean r) :
    (framer.run s r.cycles).Parked ∧ framer.log emitted s r.cycles = own r := by
  obtain ⟨-, enough⟩ := clean.complete command
  rw [← udpWords_cycles r] at enough
  obtain ⟨head, tail, cut⟩ := exists_cutAt r.cycles (openUntilFinal_cycles r) r.declaredWords enough
  have carries := cut.carries
  rw [udpWords_cycles] at carries
  have unmarked : Unmarked tail := by
    intro c held valid more same
    have inside := cut.behind c held valid more
    rw [openWords_cycles, same] at inside
    exact clean.surplus command inside
  have behind : tail ≠ [] := by
    rintro rfl
    have all : r.words.drop r.declaredWords = [] := by
      rw [← udpWords_cycles r, ← cut.rest]
      rfl
    rw [List.drop_eq_nil_iff] at all
    rw [udpWords_cycles] at enough
    have gap := clean.settled command (Nat.le_antisymm enough all)
    obtain ⟨c, ends⟩ := Option.ne_none_iff_exists'.mp (mt List.getLast?_eq_none_iff.mp gap)
    have last : head.getLast? = some c := by
      rw [← List.append_nil head, ← cut.split, Reception.cycles, List.getLast?_append,
        List.getLast?_cons, ends]
      rfl
    have valid := carries.last c last
    rw [r.gap_idle c (List.mem_of_getLast? ends)] at valid
    contradiction
  have settles (t : Framer) (parked : t.Parked) : (framer.run t head).Settling :=
    ((expects_declared command clean parked).run carries).settling
  refine ⟨?_, ?_⟩
  · rw [cut.split, run_append]
    exact ((settles s parked).run tail unmarked).1 behind
  · rw [(parked.log_eq r.cycles).2, own, if_pos command, cut.mute, cut.split, log_append, log_append]
    exact congrArg _ ((settles .reset ⟨rfl, rfl⟩).run tail unmarked).2

/-- A clean foreign packet passes unnoticed. -/
theorem Parked.foreign {s : Framer} (parked : s.Parked) (foreign : ¬ r.IsCommand) (clean : Clean r) :
    (framer.run s r.cycles).Parked ∧ framer.log emitted s r.cycles = own r := by
  have unmarked : Unmarked r.cycles := by
    intro c held valid more same
    have inside := mem_openWords held valid more
    rw [openWords_cycles, same] at inside
    exact clean.foreign foreign inside
  rw [own, if_neg foreign]
  exact parked.run_unmarked r.cycles unmarked

end Packet

/-! ## Whole streams -/

theorem Parked.receptions {s : Framer} (parked : s.Parked) (rs : List Reception)
    (clean : ∀ r ∈ rs, Clean r) :
    (framer.run s (rs.flatMap Reception.cycles)).Parked ∧
      framer.log emitted s (rs.flatMap Reception.cycles) = rs.flatMap own := by
  induction rs generalizing s with
  | nil => exact ⟨parked, rfl⟩
  | cons r rs ih =>
    have one : (framer.run s r.cycles).Parked ∧ framer.log emitted s r.cycles = own r := by
      by_cases command : r.IsCommand
      · exact parked.command command (clean r List.mem_cons_self)
      · exact parked.foreign command (clean r List.mem_cons_self)
    obtain ⟨parkedAll, all⟩ := ih one.1 fun r held => clean r (List.mem_cons_of_mem _ held)
    rw [List.flatMap_cons, List.flatMap_cons, run_append, log_append]
    exact ⟨parkedAll, by rw [one.2, all]⟩

/-- A stream of clean packets is kept apart. -/
theorem isolated_of_clean (rs : List Reception) (clean : ∀ r ∈ rs, Clean r) : Isolated rs := by
  have parked : (reset : Framer).Parked := ⟨rfl, rfl⟩
  obtain ⟨ends, emits⟩ := parked.receptions rs clean
  exact ⟨emits, ends.1⟩

instance (r : Reception) : Decidable (Clean r) :=
  decidable_of_iff (_ ∧ _ ∧ _ ∧ _)
    ⟨fun ⟨foreign, complete, surplus, settled⟩ => ⟨foreign, complete, surplus, settled⟩,
      fun clean => ⟨clean.foreign, clean.complete, clean.surplus, clean.settled⟩⟩

/-- A packet without gaps, followed by `gap` idle cycles. -/
def packet (body : List (BitVec 64)) (final : BitVec 64) (gap : Nat) : Reception where
  body := body.map fun word => ⟨true, word, false⟩
  final := final
  gap := List.replicate gap ⟨false, 0, false⟩
  body_open c held _ := by
    obtain ⟨_, -, rfl⟩ := List.mem_map.mp held
    rfl
  gap_idle c held := by rw [(List.mem_replicate.mp held).2]

/-- Opcode 1 with sequence number 7 and one payload word, then a packet of another
    protocol, then opcode 1 again without payload. -/
def cleanPackets : List Reception :=
  [packet [rfctrl2Magic, 0x0000000100000001, 0x0000000800000007] 0x1122334455667788 1,
    packet [0x3052544345564157, 0x0000000200000001] 0x00324C5254434652 0,
    packet [rfctrl2Magic, 0x0000000100000001] 0x0000000000000008 1]

theorem cleanPackets_isolated : Isolated cleanPackets :=
  isolated_of_clean cleanPackets (by decide)

/-- One packet that opens with another magic, its payload looking like a command. -/
def foreignPacket : Reception :=
  packet [0x3052544345564157, rfctrl2Magic, 0x0000000100000001, 0x0000000000000009] 0 1

/-- The words inside the foreign packet are framed as a command. -/
theorem foreignPacket_not_isolated : ¬ Isolated [foreignPacket] := by
  intro isolated
  have emits := congrArg List.length isolated.emits
  revert emits
  decide

end Framer

end Xczu47dr.Control
