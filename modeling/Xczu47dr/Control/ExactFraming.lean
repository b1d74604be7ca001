import Xczu47dr.Control.FramedCommands
import Xczu47dr.Control.Response

/-! # Where the framer puts its last marks

Behind the second header word the framer holds one payload word back as long as the
words follow each other without a gap.  If the gap comes in front of the final word, the
word held back leaves with `tlast` and the final word has one of its own.  A payload of
2^29 words wraps the length arithmetic to zero and is lost.
-/

namespace Xczu47dr.Control

open Clocked Machine

/-- A packet with exactly the payload words it announces. -/
structure WirePacket where
  hdr0 : BitVec 64
  hdr1 : BitVec 64
  payload : List (BitVec 64)
  length : payload.length = (payloadBytes hdr1 + 7) / 8

/-- Words behind the first one of a packet.  The final one has `tlast`; a straggler
    gives it to the one in front of it too. -/
def marked (straggles : Bool) (count : Nat) : List (BitVec 64) → List RvctrlWord
  | [] => []
  | d :: words =>
    ⟨d, false, words.isEmpty || straggles && words.length == 1, count, rvctrlProtocolRf2⟩ ::
      marked straggles count words

namespace WirePacket

variable (p : WirePacket)

def words : List (BitVec 64) := [rfctrl2Magic, p.hdr0, p.hdr1] ++ p.payload

def wordCount : Nat := 4 + (payloadBytes p.hdr1 + 3) / 4

def framed : List RvctrlWord :=
  ⟨p.hdr0, true, false, p.wordCount, rvctrlProtocolRf2⟩ :: marked false p.wordCount (p.hdr1 :: p.payload)

end WirePacket

/-- A packet and its cycles, two idle cycles at least behind it. -/
structure Sending extends Reception where
  packet : WirePacket
  carries : toReception.words = packet.words
  spaced : 2 ≤ gap.length

/-- The cycles behind the first `n` words. -/
def behind : Nat → List UdpIn → List UdpIn
  | 0, cycles => cycles
  | _ + 1, [] => []
  | n + 1, c :: cycles => behind (if c.tvalid then n else n + 1) cycles

def backToBack (cycles : List UdpIn) : Nat := (cycles.takeWhile UdpIn.tvalid).length

namespace Sending

variable (x : Sending)

/-- The payload follows the headers without a gap, except for its final word. -/
def Straggles : Prop :=
  0 < backToBack (behind 3 x.cycles) ∧ backToBack (behind 3 x.cycles) + 1 = x.packet.payload.length

instance : Decidable x.Straggles := inferInstanceAs (Decidable (_ ∧ _))

/-- The payload is shorter than 2^29 words. -/
def Short : Prop := x.packet.payload.length < 2 ^ 29

instance : Decidable x.Short := inferInstanceAs (Decidable (_ < _))

end Sending

namespace Framer

variable {s : Framer} {c : UdpIn} {cycles gap : List UdpIn} {words : List (BitVec 64)} {count : Nat}

/-! ## The payload -/

/-- Payload words pass as they come. -/
structure Passes (count : Nat) (words : List (BitVec 64)) (s : Framer) : Prop where
  state : s.state = .payload
  skid : s.skidValid = false
  counts : s.wordCount = count
  owes : s.Owes words.length

/-- A payload word is held back. -/
structure HoldsBack (count : Nat) (word : BitVec 64) (words : List (BitVec 64)) (s : Framer) : Prop where
  state : s.state = .payload
  skid : s.skidValid = true
  holds : s.skidWord = word
  counts : s.wordCount = count
  owes : s.Owes words.length

theorem Owes.some {n : Nat} (owes : s.Owes (n + 1)) : s.nonzero = true := by
  rw [owes.nonzero]
  rfl

theorem Passes.idle (passes : Passes count words s) (quiet : c.tvalid = false) :
    Passes count words (s.step c) ∧ s.emitted c = [] := by
  obtain ⟨state, skid, counts, owes⟩ := passes
  have next : s.step c = s.quiet := by simp [step, stepPayload, state, skid, quiet]
  refine ⟨?_, ?_⟩
  · rw [next]
    exact ⟨state, skid, counts, { owes with }⟩
  · rw [emitted, next]
    rfl

/-- The next word passes; the final one ends the packet. -/
theorem Passes.word (passes : Passes count (c.tdata :: words) s) (valid : c.tvalid = true) :
    s.emitted c = [⟨c.tdata, false, words.isEmpty, count, rvctrlProtocolRf2⟩] ∧
      if words = [] then (s.step c).Parked else Passes count words (s.step c) := by
  obtain ⟨state, skid, rfl, owes⟩ := passes
  have some := owes.some
  cases words with
  | nil =>
    have single : s.moreThanOne = false := owes.moreThanOne
    have next : s.step c = { s.quiet.emit c.tdata false true s.wordCount with
        payloadWordsLeft := 0, nonzero := false, moreThanOne := false, state := .idle } := by
      simp [step, stepPayload, state, skid, valid, some, single]
    rw [emitted, next]
    exact ⟨rfl, rfl, skid⟩
  | cons word words =>
    have several : s.moreThanOne = true := owes.moreThanOne.trans (by simp)
    have next : s.step c = { (s.quiet.emit c.tdata false false s.wordCount).count with
        nonzero := true, state := .payload } := by
      simp [step, stepPayload, state, skid, valid, some, several]
    rw [emitted, next]
    refine ⟨rfl, ?_⟩
    rw [if_neg (List.cons_ne_nil _ _)]
    exact ⟨rfl, skid, rfl, owes.count rfl several.symm rfl⟩

/-- From the first gap on every word passes, and only the final one is marked. -/
theorem Passes.run (passes : Passes count words s) (some : words ≠ []) (carries : Carries cycles words)
    (idle : ∀ c ∈ gap, c.tvalid = false) :
    framer.log emitted s (cycles ++ gap) = marked false count words ∧ (framer.run s (cycles ++ gap)).Parked := by
  induction carries generalizing s with
  | nil => exact absurd rfl some
  | idle quiet _ _ ih =>
    obtain ⟨next, silent⟩ := passes.idle quiet
    obtain ⟨later, after⟩ := ih next some
    rw [List.cons_append, log_cons, silent]
    exact ⟨later, after⟩
  | @word c cycles words valid _ carries ih =>
    obtain ⟨out, next⟩ := passes.word valid
    rw [List.cons_append, log_cons, out]
    cases words with
    | nil =>
      cases carries with
      | nil =>
        obtain ⟨after, silent⟩ := Parked.run_unmarked (s := s.step c) next gap fun d held valid =>
          Bool.noConfusion ((idle d held).symm.trans valid)
        exact ⟨congrArg _ silent, after⟩
      | idle _ none => exact absurd rfl none
    | cons word words =>
      obtain ⟨later, after⟩ := ih next (List.cons_ne_nil _ _)
      exact ⟨congrArg _ later, after⟩

/-- A word held back leaves when the next one comes, and that one is held back. -/
theorem HoldsBack.word {word : BitVec 64} (held : HoldsBack count word (c.tdata :: words) s)
    (valid : c.tvalid = true) :
    s.emitted c = [⟨word, false, false, count, rvctrlProtocolRf2⟩] ∧ HoldsBack count c.tdata words (s.step c) := by
  obtain ⟨state, skid, rfl, rfl, owes⟩ := held
  have some := owes.some
  have next : s.step c = { (s.quiet.emit s.skidWord false false s.wordCount).count with
      skidWord := c.tdata, skidValid := true, state := .payload } := by
    simp [step, stepPayload, state, skid, valid, some]
  rw [emitted, next]
  exact ⟨rfl, rfl, rfl, rfl, rfl, owes.count rfl rfl rfl⟩

/-- In a gap it leaves too, with `tlast` if one word is left. -/
theorem HoldsBack.idle {word : BitVec 64} (held : HoldsBack count word words s) (some : words ≠ [])
    (quiet : c.tvalid = false) :
    s.emitted c = [⟨word, false, words.length == 1, count, rvctrlProtocolRf2⟩] ∧ Passes count words (s.step c) := by
  obtain ⟨state, skid, rfl, rfl, owes⟩ := held
  obtain ⟨next, later, rfl⟩ := List.exists_cons_of_ne_nil some
  have outstanding := owes.some
  have single : s.moreThanOne = !((next :: later).length == 1) := by
    rw [owes.moreThanOne]
    cases later <;> simp
  have step : s.step c = { s.quiet.emit s.skidWord false ((next :: later).length == 1) s.wordCount with
      skidValid := false, state := .payload } := by
    simp [Framer.step, stepPayload, state, skid, quiet, outstanding, single]
  rw [emitted, step]
  exact ⟨rfl, rfl, rfl, rfl, { owes with }⟩

/-- The final word leaves in the cycle behind it. -/
theorem HoldsBack.final {word : BitVec 64} (held : HoldsBack count word [] s) :
    s.emitted c = [⟨word, false, true, count, rvctrlProtocolRf2⟩] ∧ (s.step c).Parked := by
  obtain ⟨state, skid, rfl, rfl, owes⟩ := held
  have none : s.nonzero = false := owes.nonzero
  have step : s.step c = { s.quiet.emit s.skidWord false true s.wordCount with
      skidValid := false, state := .idle } := by
    simp [Framer.step, stepPayload, state, skid, none]
  rw [emitted, step]
  exact ⟨rfl, rfl, rfl⟩

theorem backToBack_cons : backToBack (c :: cycles) = if c.tvalid then backToBack cycles + 1 else 0 := by
  rw [backToBack, List.takeWhile_cons]
  split
  · rfl
  · rfl

theorem backToBack_idle (idle : ∀ c ∈ gap, c.tvalid = false) : backToBack (cycles ++ gap) = backToBack cycles := by
  induction cycles with
  | nil =>
    cases gap with
    | nil => rfl
    | cons c gap => rw [List.nil_append, backToBack_cons, idle c List.mem_cons_self]; rfl
  | cons c cycles ih => rw [List.cons_append, backToBack_cons, backToBack_cons, ih]

/-- The mark in front of a final word, or none. -/
theorem marked_gapped (some : words ≠ []) (word : BitVec 64) :
    ⟨word, false, words.length == 1, count, rvctrlProtocolRf2⟩ :: marked false count words =
      marked (decide (1 = words.length)) count (word :: words) := by
  obtain ⟨next, later, rfl⟩ := List.exists_cons_of_ne_nil some
  cases later with
  | nil => rfl
  | cons _ _ => simp [marked]

/-- A word with more than a final word behind it is not marked. -/
theorem marked_cons {straggles : Bool} (far : straggles = true → words ≠ []) (word next : BitVec 64) :
    ⟨word, false, false, count, rvctrlProtocolRf2⟩ :: marked straggles count (next :: words) =
      marked straggles count (word :: next :: words) := by
  cases straggles with
  | false => rfl
  | true =>
    obtain ⟨later, rest, rfl⟩ := List.exists_cons_of_ne_nil (far rfl)
    simp [marked]

/-- The words behind one that is held back: the first gap decides about the marks. -/
theorem HoldsBack.run {word : BitVec 64} (held : HoldsBack count word words s) (carries : Carries cycles words)
    (idle : ∀ c ∈ gap, c.tvalid = false) (some : gap ≠ []) :
    framer.log emitted s (cycles ++ gap) =
        marked (decide (backToBack cycles + 1 = words.length)) count (word :: words) ∧
      (framer.run s (cycles ++ gap)).Parked := by
  induction carries generalizing s word with
  | nil =>
    obtain ⟨c, rest, rfl⟩ := List.exists_cons_of_ne_nil some
    obtain ⟨out, parked⟩ := held.final (c := c)
    obtain ⟨after, silent⟩ := parked.run_unmarked rest fun d member valid =>
      Bool.noConfusion ((idle d (List.mem_cons_of_mem _ member)).symm.trans valid)
    rw [List.nil_append, log_cons, out]
    exact ⟨congrArg _ silent, after⟩
  | @idle c cycles words quiet outstanding carries _ =>
    obtain ⟨out, passes⟩ := held.idle outstanding quiet
    obtain ⟨later, after⟩ := passes.run outstanding carries idle
    have gapped : backToBack (c :: cycles) = 0 := by rw [backToBack_cons, quiet]; rfl
    rw [List.cons_append, log_cons, out, gapped]
    refine ⟨?_, after⟩
    change _ :: framer.log emitted (s.step c) (cycles ++ gap) = _
    rw [later, Nat.zero_add]
    exact marked_gapped outstanding word
  | @word c cycles words valid _ carries ih =>
    obtain ⟨out, next⟩ := held.word valid
    obtain ⟨later, after⟩ := ih next
    have longer : backToBack (c :: cycles) = backToBack cycles + 1 := by rw [backToBack_cons, valid]; rfl
    rw [List.cons_append, log_cons, out, longer]
    refine ⟨?_, after⟩
    change _ :: framer.log emitted (s.step c) (cycles ++ gap) = _
    have same : decide (backToBack cycles + 1 + 1 = (c.tdata :: words).length) =
        decide (backToBack cycles + 1 = words.length) := by
      rw [List.length_cons, decide_eq_decide]
      omega
    have far : decide (backToBack cycles + 1 = words.length) = true → words ≠ [] := by
      rw [decide_eq_true_eq]
      rintro last rfl
      exact absurd last (Nat.succ_ne_zero _)
    rw [later, same]
    exact marked_cons far word c.tdata

/-! ## The headers -/

theorem Carries.next {word : BitVec 64} (carries : Carries cycles (word :: words)) :
    ∃ idles c later, cycles = idles ++ c :: later ∧ (∀ d ∈ idles, d.tvalid = false) ∧ c.tvalid = true ∧
      c.tdata = word ∧ (words ≠ [] → c.tlast = false) ∧ Carries later words := by
  generalize whole : word :: words = all at carries
  induction carries with
  | nil => contradiction
  | @idle c cycles _ quiet _ _ ih =>
    obtain ⟨idles, d, later, rfl, silent, found⟩ := ih whole
    refine ⟨c :: idles, d, later, rfl, fun e member => ?_, found⟩
    rcases List.mem_cons.mp member with rfl | inside
    · exact quiet
    · exact silent e inside
  | @word c cycles _ valid opens carries _ =>
    obtain ⟨rfl, rfl⟩ := List.cons_eq_cons.mp whole
    exact ⟨[], c, cycles, rfl, by simp, valid, rfl, opens, carries⟩

theorem behind_next {n : Nat} {idles : List UdpIn} (silent : ∀ d ∈ idles, d.tvalid = false)
    (valid : c.tvalid = true) : behind (n + 1) (idles ++ c :: cycles) = behind n cycles := by
  induction idles with
  | nil => rw [List.nil_append, behind, valid]; rfl
  | cons d idles ih =>
    rw [List.cons_append, behind, silent d List.mem_cons_self]
    exact ih fun e member => silent e (List.mem_cons_of_mem _ member)

/-- The headers have been taken, and the second one is still to leave. -/
structure Opened (hdr1 : BitVec 64) (s : Framer) : Prop where
  state : s.state = .emitHdr1
  skid : s.skidValid = false
  holds : s.hdr1Word = hdr1
  counts : s.wordCount = framedWordCount hdr1
  owes : s.Owes (loadedWords hdr1)

/-- In these states a cycle without word changes nothing that is read. -/
theorem quiet_of_idle (before : s.state = .idle ∨ s.state = .hdr0 ∨ s.state = .hdr1) (quiet : c.tvalid = false) :
    s.step c = s.quiet := by
  rcases before with state | state | state <;>
    simp [step, state, stepIdle, stepHdr0, stepHdr1, quiet]

theorem log_idles {idles : List UdpIn} (silent : ∀ d ∈ idles, d.tvalid = false)
    (before : s.state = .idle ∨ s.state = .hdr0 ∨ s.state = .hdr1) :
    framer.log emitted s idles = [] ∧ (framer.run s idles).state = s.state ∧
      (framer.run s idles).skidValid = s.skidValid ∧ (framer.run s idles).hdr0Word = s.hdr0Word := by
  induction idles generalizing s with
  | nil => exact ⟨rfl, rfl, rfl, rfl⟩
  | cons d idles ih =>
    have next : s.step d = s.quiet := quiet_of_idle before (silent d List.mem_cons_self)
    obtain ⟨none, state, skid, word⟩ := ih (s := s.quiet) (fun e member => silent e (List.mem_cons_of_mem _ member))
      before
    rw [log_cons, run_cons, emitted, next]
    change _ ++ framer.log emitted (s.step d) idles = [] ∧ (framer.run (s.step d) idles).state = _ ∧
      (framer.run (s.step d) idles).skidValid = _ ∧ (framer.run (s.step d) idles).hdr0Word = _
    rw [next]
    exact ⟨none, state, skid, word⟩

theorem Parked.takes_magic {idles : List UdpIn} (parked : s.Parked) (silent : ∀ d ∈ idles, d.tvalid = false)
    (valid : c.tvalid = true) (magic : c.tdata = rfctrl2Magic) (last : c.tlast = false) :
    framer.log emitted s (idles ++ [c]) = [] ∧ (framer.run s (idles ++ [c])).state = .hdr0 ∧
      (framer.run s (idles ++ [c])).skidValid = false := by
  obtain ⟨none, state, skid, -⟩ := log_idles silent (.inl parked.1)
  have step : (framer.run s idles).step c = { (framer.run s idles).quiet with state := .hdr0 } := by
    simp [Framer.step, stepIdle, state, parked.1, valid, magic, last]
  rw [log_append, run_append, none, log_cons, run_cons, emitted, List.nil_append]
  change _ ++ [] = [] ∧ ((framer.run s idles).step c).state = _ ∧ ((framer.run s idles).step c).skidValid = _
  rw [step]
  exact ⟨rfl, rfl, skid.trans parked.2⟩

theorem takes_hdr0 {idles : List UdpIn} (at_hdr0 : s.state = .hdr0) (unheld : s.skidValid = false)
    (silent : ∀ d ∈ idles, d.tvalid = false) (valid : c.tvalid = true) (last : c.tlast = false) :
    framer.log emitted s (idles ++ [c]) = [] ∧ (framer.run s (idles ++ [c])).state = .hdr1 ∧
      (framer.run s (idles ++ [c])).skidValid = false ∧ (framer.run s (idles ++ [c])).hdr0Word = c.tdata := by
  obtain ⟨none, state, skid, -⟩ := log_idles silent (.inr (.inl at_hdr0))
  have step : (framer.run s idles).step c =
      { (framer.run s idles).quiet with hdr0Word := c.tdata, state := .hdr1 } := by
    simp [Framer.step, stepHdr0, state, at_hdr0, valid, last]
  rw [log_append, run_append, none, log_cons, run_cons, emitted, List.nil_append]
  change _ ++ [] = [] ∧ ((framer.run s idles).step c).state = _ ∧ ((framer.run s idles).step c).skidValid = _ ∧
    ((framer.run s idles).step c).hdr0Word = _
  rw [step]
  exact ⟨rfl, rfl, skid.trans unheld, rfl⟩

/-- The second one lets the first one go. -/
theorem takes_hdr1 {idles : List UdpIn} (at_hdr1 : s.state = .hdr1) (unheld : s.skidValid = false)
    (silent : ∀ d ∈ idles, d.tvalid = false) (valid : c.tvalid = true) :
    framer.log emitted s (idles ++ [c]) =
        [⟨s.hdr0Word, true, false, framedWordCount c.tdata, rvctrlProtocolRf2⟩] ∧
      Opened c.tdata (framer.run s (idles ++ [c])) := by
  obtain ⟨none, state, skid, word⟩ := log_idles silent (.inr (.inr at_hdr1))
  have step : (framer.run s idles).step c =
      { (framer.run s idles).quiet.emit s.hdr0Word true false (framedWordCount c.tdata) with
        hdr1Word := c.tdata
        payloadWordsLeft := loadedWords c.tdata
        nonzero := loadedWords c.tdata != 0
        moreThanOne := decide (1 < loadedWords c.tdata)
        wordCount := framedWordCount c.tdata
        state := .emitHdr1 } := by
    simp [Framer.step, stepHdr1, state, at_hdr1, valid, word]
  rw [log_append, run_append, none, log_cons, run_cons, emitted, List.nil_append]
  change _ ++ [] = _ ∧ Opened c.tdata ((framer.run s idles).step c)
  rw [step]
  exact ⟨rfl, rfl, skid.trans unheld, rfl, rfl, rfl, rfl, rfl, loadedWords_lt _⟩

/-- From the magic to the second header word: the first one leaves, marked as the first. -/
theorem Parked.opens {hdr0 hdr1 : BitVec 64} {payload : List (BitVec 64)} (parked : s.Parked)
    (carries : Carries cycles (rfctrl2Magic :: hdr0 :: hdr1 :: payload)) (gap : List UdpIn) :
    ∃ t rest, Opened hdr1 t ∧ Carries rest payload ∧ behind 3 (cycles ++ gap) = rest ++ gap ∧
      framer.log emitted s (cycles ++ gap) =
        ⟨hdr0, true, false, framedWordCount hdr1, rvctrlProtocolRf2⟩ :: framer.log emitted t (rest ++ gap) ∧
      framer.run s (cycles ++ gap) = framer.run t (rest ++ gap) := by
  obtain ⟨idles₁, c₁, rest₁, rfl, silent₁, valid₁, magic, open₁, carries⟩ := carries.next
  obtain ⟨idles₂, c₂, rest₂, rfl, silent₂, valid₂, rfl, open₂, carries⟩ := carries.next
  obtain ⟨idles₃, c₃, rest₃, rfl, silent₃, valid₃, rfl, -, carries⟩ := carries.next
  obtain ⟨none₁, at₁, unheld₁⟩ := parked.takes_magic silent₁ valid₁ magic (open₁ (by simp))
  obtain ⟨none₂, at₂, unheld₂, holds⟩ := takes_hdr0 at₁ unheld₁ silent₂ valid₂ (open₂ (by simp))
  obtain ⟨first, opened⟩ := takes_hdr1 at₂ unheld₂ silent₃ valid₃
  have split : idles₁ ++ c₁ :: (idles₂ ++ c₂ :: (idles₃ ++ c₃ :: rest₃)) ++ gap =
      (idles₁ ++ [c₁]) ++ ((idles₂ ++ [c₂]) ++ ((idles₃ ++ [c₃]) ++ (rest₃ ++ gap))) := by simp
  refine ⟨_, rest₃, opened, carries, ?_, ?_, ?_⟩
  · simp only [List.append_assoc, List.cons_append]
    rw [behind_next silent₁ valid₁, behind_next silent₂ valid₂, behind_next silent₃ valid₃, behind]
  · rw [split, log_append framer emitted s (idles₁ ++ [c₁]), none₁, log_append framer emitted _ (idles₂ ++ [c₂]), none₂,
      log_append framer emitted _ (idles₃ ++ [c₃]), first, holds]
    rfl
  · rw [split, run_append framer s (idles₁ ++ [c₁]), run_append framer _ (idles₂ ++ [c₂]),
      run_append framer _ (idles₃ ++ [c₃])]

/-- The payload as counted follows, and the first gap decides about the marks. -/
theorem Opened.run {hdr1 : BitVec 64} {payload : List (BitVec 64)} (opened : Opened hdr1 s)
    (counted : loadedWords hdr1 = payload.length) (carries : Carries cycles payload)
    (idle : ∀ c ∈ gap, c.tvalid = false) (some : gap ≠ []) :
    framer.log emitted s (cycles ++ gap) =
        marked (decide (0 < backToBack (cycles ++ gap) ∧ backToBack (cycles ++ gap) + 1 = payload.length))
          (framedWordCount hdr1) (hdr1 :: payload) ∧
      (framer.run s (cycles ++ gap)).Parked := by
  obtain ⟨state, skid, holds, counts, owes⟩ := opened
  rw [counted] at owes
  rw [backToBack_idle idle]
  cases carries with
  | nil =>
    obtain ⟨c, rest, rfl⟩ := List.exists_cons_of_ne_nil some
    have none : s.nonzero = false := owes.nonzero
    have step : s.step c = { s.quiet.emit hdr1 false true (framedWordCount hdr1) with
        skidValid := false, state := .idle } := by
      simp [Framer.step, stepEmitHdr1, state, none, holds, counts]
    have parked : (s.step c).Parked := by
      rw [step]
      exact ⟨rfl, rfl⟩
    obtain ⟨after, silent⟩ := parked.run_unmarked rest fun d member valid =>
      Bool.noConfusion ((idle d (List.mem_cons_of_mem _ member)).symm.trans valid)
    refine ⟨?_, after⟩
    change s.emitted c ++ framer.log emitted (s.step c) rest = _
    rw [silent, emitted, step]
    rfl
  | @idle c cycles _ quiet outstanding carries =>
    obtain ⟨next, later, rfl⟩ := List.exists_cons_of_ne_nil outstanding
    have step : s.step c = { s.quiet.emit hdr1 false false (framedWordCount hdr1) with state := .payload } := by
      simp [Framer.step, stepEmitHdr1, state, owes.some, quiet, holds, counts]
    have passes : Passes (framedWordCount hdr1) (next :: later) (s.step c) := by
      rw [step]
      exact ⟨rfl, skid, counts, { owes with }⟩
    obtain ⟨out, after⟩ := passes.run outstanding carries idle
    have gapped : backToBack (c :: cycles) = 0 := by rw [backToBack_cons, quiet]; rfl
    refine ⟨?_, after⟩
    change s.emitted c ++ framer.log emitted (s.step c) (cycles ++ gap) = _
    rw [out, emitted, step, gapped]
    rfl
  | @word c cycles words valid _ carries =>
    have step : s.step c = { (s.quiet.emit hdr1 false false (framedWordCount hdr1)).count with
        skidWord := c.tdata, skidValid := true, state := .payload } := by
      simp [Framer.step, stepEmitHdr1, state, owes.some, valid, holds, counts]
    have held : HoldsBack (framedWordCount hdr1) c.tdata words (s.step c) := by
      rw [step]
      exact ⟨rfl, rfl, rfl, counts, owes.count rfl rfl rfl⟩
    obtain ⟨out, after⟩ := held.run carries idle some
    have longer : backToBack (c :: cycles) = backToBack cycles + 1 := by rw [backToBack_cons, valid]; rfl
    refine ⟨?_, after⟩
    change s.emitted c ++ framer.log emitted (s.step c) (cycles ++ gap) = _
    have same : decide (0 < backToBack cycles + 1 ∧ backToBack cycles + 1 + 1 = (c.tdata :: words).length) =
        decide (backToBack cycles + 1 = words.length) := by
      rw [List.length_cons, decide_eq_decide]
      omega
    have far : decide (backToBack cycles + 1 = words.length) = true → words ≠ [] := by
      rw [decide_eq_true_eq]
      rintro last rfl
      exact absurd last (Nat.succ_ne_zero _)
    rw [out, emitted, step, longer, same]
    exact marked_cons far hdr1 c.tdata

end Framer

/-! ## Packets -/

namespace Sending

variable (x : Sending)

theorem cycles_eq : x.cycles = (x.body ++ [⟨true, x.final, true⟩]) ++ x.gap := by simp [Reception.cycles]

theorem carries_cycles : Framer.Carries (x.body ++ [⟨true, x.final, true⟩]) x.packet.words := by
  have words : udpWords x.body ++ [x.final] = x.packet.words := x.carries
  exact words ▸ Framer.carries_body x.body x.body_open x.final

theorem gap_some : x.gap ≠ [] := by
  intro none
  have spaced := x.spaced
  rw [none] at spaced
  contradiction

end Sending

namespace Framer

variable {s : Framer} {x : Sending}

/-- A short packet leaves whole, with one mark too many if its final word straggles. -/
theorem Parked.sends (parked : s.Parked) (short : x.Short) :
    framer.log emitted s x.cycles =
        ⟨x.packet.hdr0, true, false, x.packet.wordCount, rvctrlProtocolRf2⟩ ::
          marked (decide x.Straggles) x.packet.wordCount (x.packet.hdr1 :: x.packet.payload) ∧
      (framer.run s x.cycles).Parked := by
  have length := x.packet.length
  rw [Sending.Short] at short
  have counted : loadedWords x.packet.hdr1 = x.packet.payload.length := by
    rw [loadedWords]
    omega
  have counts : framedWordCount x.packet.hdr1 = x.packet.wordCount := by
    rw [framedWordCount, WirePacket.wordCount]
    omega
  obtain ⟨t, rest, opened, carries, place, log, run⟩ := parked.opens x.carries_cycles x.gap
  obtain ⟨out, after⟩ := opened.run counted carries x.gap_idle x.gap_some
  rw [← x.cycles_eq] at place log run
  rw [log, run, out, counts]
  refine ⟨?_, after⟩
  rw [← place]
  rfl

/-- A longer one leaves with a last mark on its second header word. -/
theorem Parked.sends_long (parked : s.Parked) (long : ¬ x.Short) :
    ∃ later, framer.log emitted s x.cycles =
      ⟨x.packet.hdr0, true, false, framedWordCount x.packet.hdr1, rvctrlProtocolRf2⟩ ::
        ⟨x.packet.hdr1, false, true, framedWordCount x.packet.hdr1, rvctrlProtocolRf2⟩ :: later := by
  have length := x.packet.length
  have bytes : payloadBytes x.packet.hdr1 < 2 ^ 32 := (x.packet.hdr1.extractLsb' 32 32).isLt
  rw [Sending.Short] at long
  have wrapped : loadedWords x.packet.hdr1 = 0 := by
    rw [loadedWords]
    omega
  obtain ⟨t, rest, opened, -, -, log, -⟩ := parked.opens x.carries_cycles x.gap
  rw [← x.cycles_eq] at log
  obtain ⟨c, later, split⟩ := List.exists_cons_of_ne_nil (List.append_ne_nil_of_right_ne_nil rest x.gap_some)
  have none : t.nonzero = false := by rw [opened.owes.nonzero, wrapped]; rfl
  have out : t.emitted c =
      [⟨x.packet.hdr1, false, true, framedWordCount x.packet.hdr1, rvctrlProtocolRf2⟩] := by
    simp [emitted, step, stepEmitHdr1, opened.state, none, opened.holds, opened.counts, output, emit]
  refine ⟨framer.log emitted (t.step c) later, ?_⟩
  rw [log, split, log_cons, out]
  rfl

theorem length_marked (straggles : Bool) (count : Nat) (words : List (BitVec 64)) :
    (marked straggles count words).length = words.length := by
  induction words with
  | nil => rfl
  | cons word words ih => rw [marked, List.length_cons, List.length_cons, ih]

theorem marked_straggling (count : Nat) {words : List (BitVec 64)} (several : 2 ≤ words.length) :
    marked true count words ≠ marked false count words := by
  induction words with
  | nil => contradiction
  | cons word words ih =>
    intro same
    rw [marked, marked, List.cons.injEq] at same
    by_cases more : 2 ≤ words.length
    · exact ih more same.2
    · have single : words.length = 1 := by
        rw [List.length_cons] at several
        omega
      obtain ⟨final, rfl⟩ := List.length_eq_one_iff.mp single
      exact absurd (congrArg RvctrlWord.tlast same.1) (by simp)

/-- Packet by packet, from any state between two of them. -/
theorem Parked.exact_iff (parked : s.Parked) (xs : List Sending) :
    framer.log emitted s (xs.flatMap fun x => x.cycles) = xs.flatMap (fun x => x.packet.framed) ↔
      ∀ x ∈ xs, x.Short ∧ ¬ x.Straggles := by
  induction xs generalizing s with
  | nil => simp
  | cons x xs ih =>
    rw [List.flatMap_cons, List.flatMap_cons, log_append, List.forall_mem_cons]
    by_cases short : x.Short
    · obtain ⟨out, after⟩ := parked.sends short
      rw [out]
      by_cases straggles : x.Straggles
      · -- the two lists of the packet are of one length and differ
        refine iff_of_false (fun same => ?_) (fun good => good.1.2 straggles)
        have own := (List.append_inj same (by rw [WirePacket.framed, List.length_cons, List.length_cons,
          length_marked, length_marked])).1
        rw [WirePacket.framed, List.cons.injEq, decide_eq_true straggles] at own
        refine marked_straggling _ ?_ own.2
        have payload := straggles.2
        rw [List.length_cons]
        omega
      · have own : (⟨x.packet.hdr0, true, false, x.packet.wordCount, rvctrlProtocolRf2⟩ ::
            marked (decide x.Straggles) x.packet.wordCount (x.packet.hdr1 :: x.packet.payload)) =
            x.packet.framed := by
          rw [decide_eq_false straggles, WirePacket.framed]
        rw [own, List.append_cancel_left_eq, ih after]
        exact (and_iff_right ⟨short, straggles⟩).symm
    · refine iff_of_false (fun same => ?_) (fun good => short good.1.1)
      obtain ⟨later, out⟩ := parked.sends_long short
      have some : x.packet.payload ≠ [] := by
        rintro none
        rw [Sending.Short, none] at short
        exact short (by decide)
      rw [out, WirePacket.framed, marked, List.cons_append, List.cons_append, List.cons_append, List.cons_append,
        List.cons.injEq, List.cons.injEq] at same
      have mark := congrArg RvctrlWord.tlast same.2.1
      simp [some] at mark

end Framer

/-- The framer has re-framed every packet exactly. -/
def ReFramed (xs : List Sending) : Prop :=
  framer.log Framer.emitted .reset (xs.flatMap fun x => x.cycles) = xs.flatMap fun x => x.packet.framed

instance (xs : List Sending) : Decidable (ReFramed xs) := inferInstanceAs (Decidable (_ = _))

theorem reFramed_iff_no_straggler (xs : List Sending) :
    ReFramed xs ↔ ∀ x ∈ xs, x.Short ∧ ¬ x.Straggles :=
  Framer.Parked.exact_iff ⟨rfl, rfl⟩ xs

/-- A command of two payload words, one idle cycle in front of the second. -/
def straggler : Sending where
  body := [⟨true, rfctrl2Magic, false⟩, ⟨true, rf2Version.zeroExtend 64, false⟩, ⟨true, 16#32 ++ 1#32, false⟩,
    ⟨true, 1, false⟩, ⟨false, 0, false⟩]
  final := 2
  gap := [⟨false, 0, false⟩, ⟨false, 0, false⟩]
  body_open := by decide
  gap_idle := by decide
  packet := ⟨rf2Version.zeroExtend 64, 16#32 ++ 1#32, [1, 2], by decide⟩
  carries := by decide
  spaced := by decide

theorem straggler_not_reFramed : ¬ ReFramed [straggler] := by decide

end Xczu47dr.Control
