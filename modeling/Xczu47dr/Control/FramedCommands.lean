import Xczu47dr.Control.FramerIsolation

/-! # Well-formed commands on the wire and behind the framer

A well-formed packet leaves the framer as its two header words and its payload, with
gaps wherever the UDP stream has them.  `tlast` is set on the final word, and it may
be set on the word before it as well.  Two idle cycles between packets become at
least three behind the framer.
-/

namespace Xczu47dr.Control

open Clocked Machine

/-- A command as it is sent: the payload is padded to whole words and shorter than
    any datagram that would overflow the length arithmetic. -/
structure CommandPacket where
  hdr0 : BitVec 64
  hdr1 : BitVec 64
  payload : List (BitVec 64)
  length : payload.length = (payloadBytes hdr1 + 7) / 8
  short : payload.length < 2 ^ 29

namespace CommandPacket

variable (p : CommandPacket)

def body : List (BitVec 64) := p.hdr0 :: p.hdr1 :: p.payload

def words : List (BitVec 64) := rfctrl2Magic :: p.body

def wordCount : Nat := 4 + (payloadBytes p.hdr1 + 3) / 4

theorem framedWordCount_hdr1 : framedWordCount p.hdr1 = p.wordCount := by
  have length := p.length
  have short := p.short
  unfold framedWordCount wordCount
  omega

theorem loadedWords_hdr1 : loadedWords p.hdr1 = p.payload.length := by
  have length := p.length
  have short := p.short
  unfold loadedWords
  omega

theorem wordCount_bounds : p.wordCount ≤ 2 * p.body.length ∧ 2 * p.body.length ≤ p.wordCount + 1 := by
  have length := p.length
  simp only [wordCount, body, List.length_cons]
  omega

end CommandPacket

/-- A well-formed packet and its cycles, two idle cycles at least behind it. -/
structure Transmission extends Reception where
  packet : CommandPacket
  carries : toReception.words = packet.words
  spaced : 2 ≤ gap.length

/-- The cycles of one transmission after the other. -/
def udpStream (ts : List Transmission) : List UdpIn := ts.flatMap fun t => t.cycles

/-- The framed stream, one entry a cycle, hands over these words.  `first` says that the
    first of them is still to come; only the final one must have `tlast`. -/
inductive Delivers (count : Nat) : Bool → List (BitVec 64) → List (Option RvctrlWord) → Prop
  | done {first} : Delivers count first [] []
  | idle {first words stream} : words ≠ [] → Delivers count first words stream →
      Delivers count first words (none :: stream)
  | word {first d words w stream} : w.tdata = d → w.tfirst = first → w.wordCount = count →
      (words = [] → w.tlast = true) → Delivers count false words stream →
      Delivers count first (d :: words) (some w :: stream)

/-- The packets arrive whole, in order, with three idle cycles at least behind each. -/
inductive Stream : List CommandPacket → List (Option RvctrlWord) → Prop
  | rest {stream} : (∀ o ∈ stream, o = none) → Stream [] stream
  | packet {p packets words stream} : Delivers p.wordCount true p.body words →
      Stream packets stream → Stream (p :: packets) (words ++ none :: none :: none :: stream)

theorem Stream.idle {packets : List CommandPacket} {stream : List (Option RvctrlWord)}
    (arrives : Stream packets stream) : Stream packets (none :: stream) := by
  cases arrives with
  | rest silent => exact .rest (by simpa using silent)
  | packet delivers arrives => exact .packet (.idle (by simp [CommandPacket.body]) delivers) arrives

theorem Stream.idles {packets : List CommandPacket} {stream : List (Option RvctrlWord)}
    (arrives : Stream packets stream) (n : Nat) : Stream packets (List.replicate n none ++ stream) := by
  induction n with
  | zero => exact arrives
  | succ n ih => exact ih.idle

namespace Framer

def shown (s : Framer) : Option RvctrlWord := if s.rvctrlValid then some s.rvctrl else none

/-- Every word put out is marked as RF2, so the decoders of the older protocols in
    `pl_riscv_control_v1` never run. -/
theorem protocol_of_valid (s : Framer) (i : UdpIn) :
    (s.step i).rvctrlValid = true → (s.step i).rvctrl.protocol = rvctrlProtocolRf2 := by
  cases at_ : s.state with
  | idle | hdr0 | drop =>
    simp only [step, at_, stepIdle, stepHdr0, stepDrop]
    split <;> exact fun valid => Bool.noConfusion valid
  | hdr1 =>
    simp only [step, at_, stepHdr1]
    split
    · exact fun _ => rfl
    · exact fun valid => Bool.noConfusion valid
  | emitHdr1 =>
    simp only [step, at_, stepEmitHdr1]
    split_ifs <;> exact fun _ => rfl
  | payload =>
    simp only [step, at_, stepPayload]
    split_ifs <;> first | exact fun _ => rfl | exact fun valid => Bool.noConfusion valid

/-! ## What the framer still has to put out -/

def held (s : Framer) : List (BitVec 64) :=
  match s.state with
  | .hdr1 => [s.hdr0Word]
  | .emitHdr1 => [s.hdr1Word]
  | .payload => if s.skidValid then [s.skidWord] else []
  | .idle | .hdr0 | .drop => []

/-- The first word of the packet has not been put out. -/
def opening (s : Framer) : Bool := s.state == .idle || s.state == .hdr0 || s.state == .hdr1

/-- `words` are the outstanding words of a packet that counts `count` 32-bit words. -/
def Counts (count : Nat) (s : Framer) (words : List (BitVec 64)) : Prop :=
  match s.state with
  | .idle => words ≠ [] → ∃ hdr0 hdr1 payload, words = rfctrl2Magic :: hdr0 :: hdr1 :: payload ∧
      framedWordCount hdr1 = count
  | .hdr0 => ∃ hdr0 hdr1 payload, words = hdr0 :: hdr1 :: payload ∧ framedWordCount hdr1 = count
  | .hdr1 => ∃ hdr1 payload, words = hdr1 :: payload ∧ framedWordCount hdr1 = count
  | .emitHdr1 | .payload => s.wordCount = count
  | .drop => False

/-- The words the framer puts out for what it holds and what is outstanding. -/
def owed (s : Framer) (words : List (BitVec 64)) : List (BitVec 64) :=
  s.held ++ if s.state = .idle then words.tail else words

/-- What one clock edge does to what is owed: it puts out the first word of it, or
    nothing. -/
inductive Puts (count : Nat) (s t : Framer) (owed owed' : List (BitVec 64)) : Prop
  | nothing : t.shown = none → owed' = owed → t.opening = s.opening → Puts count s t owed owed'
  | first (w : RvctrlWord) : t.shown = some w → owed = w.tdata :: owed' → w.wordCount = count →
      w.tfirst = s.opening → (owed' = [] → w.tlast = true) → (owed' ≠ [] → t.opening = false) →
      Puts count s t owed owed'

variable {count : Nat} {s : Framer} {c : UdpIn} {words : List (BitVec 64)}

theorem puts_idle (expects : s.Expects words) (counts : s.Counts count words) (idle : c.tvalid = false) :
    Puts count s (s.step c) (s.owed words) ((s.step c).owed words) ∧ (s.step c).Counts count words := by
  obtain ⟨state, valid, out, hdr0, hdr1, skid, skidValid, left, wordCount, nonzero, more⟩ := s
  cases state with
  | idle | hdr0 | hdr1 =>
    simp only [step, stepIdle, stepHdr0, stepHdr1, idle]
    exact ⟨.nothing rfl rfl rfl, counts⟩
  | emitHdr1 =>
    obtain rfl : wordCount = count := counts
    obtain ⟨rfl, owes⟩ : skidValid = false ∧ _ := expects
    cases words with
    | nil =>
      obtain rfl : nonzero = false := owes.nonzero
      exact ⟨.first _ rfl rfl rfl rfl (fun _ => rfl) (absurd rfl), absurd rfl⟩
    | cons word words =>
      obtain rfl : nonzero = true := owes.nonzero
      simp only [step, stepEmitHdr1, idle]
      exact ⟨.first _ rfl rfl rfl rfl (fun none => by contradiction) (fun _ => rfl), rfl⟩
  | payload =>
    obtain rfl : wordCount = count := counts
    obtain ⟨owes, holds⟩ := expects
    cases skidValid with
    | true =>
      cases words with
      | nil =>
        obtain rfl : nonzero = false := owes.nonzero
        simp only [step, stepPayload, idle]
        exact ⟨.first _ rfl rfl rfl rfl (fun _ => rfl) (absurd rfl), absurd rfl⟩
      | cons word words =>
        obtain rfl : nonzero = true := owes.nonzero
        simp only [step, stepPayload, idle]
        exact ⟨.first _ rfl rfl rfl rfl (fun none => by contradiction) (fun _ => rfl), rfl⟩
    | false =>
      simp only [step, stepPayload, idle]
      exact ⟨.nothing rfl rfl rfl, rfl⟩
  | drop => simp [Expects] at expects

/-- A cycle with the next outstanding word. -/
theorem puts_word (expects : s.Expects (c.tdata :: words)) (counts : s.Counts count (c.tdata :: words))
    (valid : c.tvalid = true) (opens : words ≠ [] → c.tlast = false) :
    Puts count s (s.step c) (s.owed (c.tdata :: words)) ((s.step c).owed words) ∧
      (s.step c).Counts count words := by
  obtain ⟨state, shown, out, hdr0, hdr1, skid, skidValid, left, wordCount, nonzero, more⟩ := s
  cases state with
  | idle =>
    obtain ⟨first, second, payload, eq, declared⟩ := counts (by simp)
    obtain ⟨magic, rfl⟩ := List.cons_eq_cons.mp eq
    have more := opens (by simp)
    simp only [step, stepIdle, valid, magic, more]
    exact ⟨.nothing rfl rfl rfl, first, second, payload, rfl, declared⟩
  | hdr0 =>
    obtain ⟨first, second, payload, eq, declared⟩ := counts
    obtain ⟨-, rfl⟩ := List.cons_eq_cons.mp eq
    have more := opens (by simp)
    simp only [step, stepHdr0, valid, more]
    exact ⟨.nothing rfl rfl rfl, second, payload, rfl, declared⟩
  | hdr1 =>
    obtain ⟨second, payload, eq, declared⟩ := counts
    obtain ⟨rfl, rfl⟩ := List.cons_eq_cons.mp eq
    simp only [step, stepHdr1, valid]
    exact ⟨.first _ rfl rfl declared rfl (fun none => by contradiction) (fun _ => rfl), declared⟩
  | emitHdr1 =>
    obtain rfl : wordCount = count := counts
    obtain ⟨rfl, owes⟩ : skidValid = false ∧ _ := expects
    obtain rfl : nonzero = true := owes.nonzero
    simp only [step, stepEmitHdr1, valid]
    exact ⟨.first _ rfl rfl rfl rfl (fun none => by contradiction) (fun _ => rfl), rfl⟩
  | payload =>
    obtain rfl : wordCount = count := counts
    obtain ⟨owes, -⟩ := expects
    obtain rfl : nonzero = true := owes.nonzero
    obtain rfl : more = decide (1 < words.length + 1) := owes.moreThanOne
    cases skidValid with
    | true =>
      simp only [step, stepPayload, valid]
      exact ⟨.first _ rfl rfl rfl rfl (fun none => by contradiction) (fun _ => rfl), rfl⟩
    | false =>
      simp only [step, stepPayload, valid]
      cases words with
      | nil => exact ⟨.first _ rfl rfl rfl rfl (fun _ => rfl) (absurd rfl), absurd rfl⟩
      | cons word words =>
        have several : decide (1 < (word :: words).length + 1) = true := by simp
        simp only [several]
        exact ⟨.first _ rfl rfl rfl rfl (fun none => by contradiction) (fun _ => rfl), rfl⟩
  | drop => simp [Expects] at expects

theorem owed_ne_nil (counts : s.Counts count words) (some : words ≠ []) : s.owed words ≠ [] := by
  intro none
  obtain ⟨-, outstanding⟩ := List.append_eq_nil_iff.mp none
  cases at_ : s.state with
  | idle =>
    rw [Counts, at_] at counts
    obtain ⟨hdr0, hdr1, payload, rfl, -⟩ := counts some
    simp [at_] at outstanding
  | hdr0 | hdr1 | emitHdr1 | payload | drop => exact some (by simpa [at_] using outstanding)

/-- The registers after each clock edge of a run. -/
def shows (s : Framer) (cycles : List UdpIn) : List (Option RvctrlWord) :=
  framer.log (fun s c => [(s.step c).shown]) s cycles

theorem shows_cons (c : UdpIn) (cycles : List UdpIn) :
    s.shows (c :: cycles) = (s.step c).shown :: (s.step c).shows cycles := rfl

theorem shows_append (cycles later : List UdpIn) :
    s.shows (cycles ++ later) = s.shows cycles ++ (framer.run s cycles).shows later :=
  log_append ..

theorem delivers_nil {opening : Bool} {stream : List (Option RvctrlWord)}
    (delivers : Delivers count opening [] stream) : stream = [] := by
  cases delivers with
  | done => rfl
  | idle some => exact absurd rfl some

theorem delivers_of_puts {t : Framer} {owed owed' : List (BitVec 64)} {stream : List (Option RvctrlWord)}
    (puts : Puts count s t owed owed') (some : owed ≠ []) (delivers : Delivers count t.opening owed' stream) :
    Delivers count s.opening owed (t.shown :: stream) := by
  cases puts with
  | nothing shown same opening =>
    rw [shown]
    rw [same, opening] at delivers
    exact .idle some delivers
  | first w shown split counts first last later =>
    rw [shown, split]
    refine .word rfl first counts last ?_
    cases owed' with
    | nil =>
      obtain rfl := delivers_nil delivers
      exact .done
    | cons word owed' => exact later (by simp) ▸ delivers

/-- A parked framer puts nothing out without a word. -/
theorem Parked.shows_idle {s : Framer} (parked : s.Parked) (gap : List UdpIn)
    (idle : ∀ c ∈ gap, c.tvalid = false) :
    s.shows gap = List.replicate gap.length none ∧ (framer.run s gap).Parked := by
  induction gap generalizing s with
  | nil => exact ⟨rfl, parked⟩
  | cons c gap ih =>
    have next : s.step c = s.quiet := by simp [step, parked.1, stepIdle, idle c List.mem_cons_self]
    obtain ⟨silent, rests⟩ := ih (s := s.quiet) parked fun d held => idle d (List.mem_cons_of_mem _ held)
    rw [shows_cons, next, silent, run_cons]
    exact ⟨rfl, by change (framer.run (s.step c) gap).Parked; rw [next]; exact rests⟩

/-- From any point of a packet to its end: what is owed is delivered, and at least one
    idle cycle remains of two. -/
theorem delivers_run {cycles : List UdpIn} (carries : Carries cycles words) (expects : s.Expects words)
    (counts : s.Counts count words) {gap : List UdpIn} (idle : ∀ c ∈ gap, c.tvalid = false)
    (spaced : 2 ≤ gap.length) : (framer.run s (cycles ++ gap)).Parked ∧
      ∃ stream n, s.shows (cycles ++ gap) = stream ++ List.replicate (n + 1) none ∧
        Delivers count s.opening (s.owed words) stream := by
  induction carries generalizing s with
  | nil =>
    rcases gap with - | ⟨c, gap⟩
    · simp at spaced
    · have puts := (puts_idle expects counts (idle c List.mem_cons_self)).1
      have unmarked : c.tvalid = true → c.tlast = false → c.tdata ≠ rfctrl2Magic := by
        simp [idle c List.mem_cons_self]
      have parked : (s.step c).Parked := (expects.settling.step unmarked).1
      obtain ⟨silent, rests⟩ := parked.shows_idle gap fun d held => idle d (List.mem_cons_of_mem _ held)
      have free : (s.step c).owed [] = [] := by simp [owed, held, parked.1]
      refine ⟨rests, ?_⟩
      rw [List.nil_append, shows_cons, silent]
      rw [free] at puts
      cases puts with
      | nothing shown same =>
        rw [shown, ← same]
        exact ⟨[], gap.length, rfl, .done⟩
      | first w shown split counts first last =>
        obtain ⟨n, length⟩ : ∃ n, gap.length = n + 1 := ⟨gap.length - 1, by simp at spaced; omega⟩
        rw [shown, split, length]
        exact ⟨[some w], n, rfl, .word rfl first counts last .done⟩
  | @idle c cycles words quiet some carries ih =>
    obtain ⟨puts, counts'⟩ := puts_idle expects counts quiet
    obtain ⟨parked, stream, n, shows, delivers⟩ := ih (expects.idle some quiet) counts'
    refine ⟨parked, (s.step c).shown :: stream, n, ?_, ?_⟩
    · rw [List.cons_append, shows_cons, shows, List.cons_append]
    · exact delivers_of_puts puts (owed_ne_nil counts some) delivers
  | @word c cycles words valid opens carries ih =>
    obtain ⟨puts, counts'⟩ := puts_word expects counts valid opens
    obtain ⟨parked, stream, n, shows, delivers⟩ := ih (expects.word valid opens) counts'
    refine ⟨parked, (s.step c).shown :: stream, n, ?_, ?_⟩
    · rw [List.cons_append, shows_cons, shows, List.cons_append]
    · exact delivers_of_puts puts (owed_ne_nil counts (by simp)) delivers

/-- The first two words of a packet only open it. -/
theorem Parked.shows_opening {s : Framer} (parked : s.Parked) (c d : UdpIn) (cycles : List UdpIn) :
    ∃ later, s.shows (c :: d :: cycles) = none :: none :: later := by
  have opens : (s.step c).shown = none ∧ ((s.step c).state = .idle ∨ (s.step c).state = .hdr0) := by
    simp only [step, parked.1, stepIdle]
    split
    · exact ⟨rfl, Or.inr rfl⟩
    · exact ⟨rfl, Or.inl parked.1⟩
  have second : ((s.step c).step d).shown = none := by
    rcases opens.2 with at_ | at_
    · simp only [step.eq_1 (s.step c), at_, stepIdle]
      split <;> rfl
    · simp only [step.eq_1 (s.step c), at_, stepHdr0]
      split <;> rfl
  exact ⟨_, by rw [shows_cons, shows_cons, opens.1, second]⟩

theorem delivers_later {words : List (BitVec 64)} (some : words ≠ []) {opening : Bool}
    {stream trail later : List (Option RvctrlWord)} (delivers : Delivers count opening words stream)
    (begins : stream ++ trail = none :: later) :
    ∃ stream', stream = none :: stream' ∧ Delivers count opening words stream' := by
  cases delivers with
  | done => exact absurd rfl some
  | idle _ delivers => exact ⟨_, rfl, delivers⟩
  | word => simp at begins

theorem carries_body (body : List UdpIn) (opens : ∀ c ∈ body, c.tvalid = true → c.tlast = false)
    (final : BitVec 64) : Carries (body ++ [⟨true, final, true⟩]) (udpWords body ++ [final]) := by
  induction body with
  | nil => exact .word rfl (absurd rfl) .nil
  | cons c body ih =>
    have rest := ih fun d held => opens d (List.mem_cons_of_mem _ held)
    cases valid : c.tvalid with
    | false =>
      rw [udpWords_cons_idle valid]
      exact .idle valid (by simp) rest
    | true =>
      rw [udpWords_cons_word valid]
      exact .word valid (fun _ => opens c List.mem_cons_self valid) rest

/-- A parked framer delivers a well-formed packet and is parked again. -/
theorem Parked.shows_transmission {s : Framer} (parked : s.Parked) (t : Transmission) :
    (framer.run s t.cycles).Parked ∧
      ∃ stream n, s.shows t.cycles = none :: none :: (stream ++ List.replicate (n + 1) none) ∧
        Delivers t.packet.wordCount true t.packet.body stream := by
  have words : udpWords t.body ++ [t.final] = t.packet.words := t.carries
  have carries := carries_body t.body t.body_open t.final
  rw [words] at carries
  have expects : s.Expects t.packet.words := by
    rw [Expects, parked.1]
    exact ⟨parked.2, Or.inr ⟨_, _, _, rfl, t.packet.loadedWords_hdr1.symm⟩⟩
  have counts : s.Counts t.packet.wordCount t.packet.words := by
    rw [Counts, parked.1]
    exact fun _ => ⟨_, _, _, rfl, t.packet.framedWordCount_hdr1⟩
  obtain ⟨after, stream, n, shows, delivers⟩ := delivers_run carries expects counts t.gap_idle t.spaced
  have cycles : t.cycles = t.body ++ [⟨true, t.final, true⟩] ++ t.gap := by simp [Reception.cycles]
  rw [← cycles] at after shows
  refine ⟨after, ?_⟩
  have owes : s.owed t.packet.words = t.packet.body := by
    simp [owed, held, parked.1, CommandPacket.words]
  have opening : s.opening = true := by simp [Framer.opening, parked.1]
  rw [owes, opening] at delivers
  obtain ⟨c, d, rest, long⟩ : ∃ c d rest, t.cycles = c :: d :: rest := by
    have length : 2 ≤ t.cycles.length := by
      have spaced := t.spaced
      simp only [cycles, List.length_append]
      omega
    rcases split : t.cycles with - | ⟨c, - | ⟨d, rest⟩⟩
    · simp [split] at length
    · simp [split] at length
    · exact ⟨c, d, rest, rfl⟩
  obtain ⟨later, opens⟩ := parked.shows_opening c d rest
  rw [← long] at opens
  have some : t.packet.body ≠ [] := by simp [CommandPacket.body]
  obtain ⟨stream, rfl, once⟩ := delivers_later some delivers (shows.symm.trans opens)
  rw [shows, List.cons_append, List.cons.injEq] at opens
  obtain ⟨stream, rfl, twice⟩ := delivers_later some once opens.2
  exact ⟨stream, n, shows, twice⟩

/-- A stream of transmissions arrives two cycles late, packet after packet. -/
theorem Parked.shows_transmissions {s : Framer} (parked : s.Parked) (ts : List Transmission) :
    (framer.run s (udpStream ts)).Parked ∧
      ∃ stream, s.shows (udpStream ts) ++ [none, none] = none :: none :: stream ∧
        Stream (ts.map Transmission.packet) stream := by
  induction ts generalizing s with
  | nil => exact ⟨parked, [], rfl, .rest (by simp)⟩
  | cons t ts ih =>
    obtain ⟨between, words, n, shows, delivers⟩ := parked.shows_transmission t
    obtain ⟨after, stream, later, arrives⟩ := ih between
    rw [udpStream, List.flatMap_cons, run_append, shows_append, shows]
    refine ⟨after, words ++ none :: none :: none :: (List.replicate n none ++ stream), ?_,
      .packet delivers (arrives.idles n)⟩
    change none :: none :: _ ++ Framer.shows _ (udpStream ts) ++ _ = _
    rw [List.append_assoc, later]
    have nones : List.replicate (n + 1) none ++ none :: none :: stream =
        (none :: none :: none :: (List.replicate n none ++ stream) : List (Option RvctrlWord)) := by
      change List.replicate (n + 1) none ++ (List.replicate 2 none ++ stream) =
        List.replicate 3 none ++ (List.replicate n none ++ stream)
      rw [← List.append_assoc, ← List.append_assoc, List.replicate_append_replicate,
        List.replicate_append_replicate]
      congr 2
      omega
    rw [List.cons_append, List.cons_append, List.append_assoc, nones]

end Framer

end Xczu47dr.Control
