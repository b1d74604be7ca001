import Xczu47dr.Upload.PacketStream

/-! # A packet fed to an idle writer

A request that is fed word by word to a writer that waits for one, with any gaps between
its words, is registered as it stands when its last word has arrived.
-/

namespace Xczu47dr.Upload

open UploadWriter

def carried (is : List WriterIn) : List Word := (is.filter (·.tvalid)).map (·.tdata)

/-- A run that brings one packet, the last word in its last cycle. -/
def Brings (is : List WriterIn) (words : List Word) : Prop :=
  ∃ before last, is = before ++ [last] ∧ last.tvalid = true ∧ last.tlast = true ∧
    (∀ i ∈ before, i.tvalid = true → i.tlast = false) ∧ carried before ++ [last.tdata] = words

/-- The writer waits for a packet: none is under way, and no answer waits to be taken. -/
structure UploadWriter.Waits (s : UploadWriter) : Prop where
  state : s.state = .idle
  between : s.rxActive = false
  answered : s.response.valid = false

theorem carried_append (is : List WriterIn) (i : WriterIn) :
    carried (is ++ [i]) = if i.tvalid then carried is ++ [i.tdata] else carried is := by
  cases valid : i.tvalid <;> simp [carried, valid]

section Feeding

variable {p : WriterParams}

theorem UploadWriter.Waits.next {s : UploadWriter} (waits : s.Waits) {i : WriterIn} (none : i.tvalid = false) :
    (s.step p i).Waits ∧ (s.step p i).core = s.core := by
  have stays : s.step p i = s.common p i := by
    rw [step, waits.state]
    dsimp only
    rw [stepIdle, none]
    rfl
  rw [stays]
  refine ⟨⟨waits.state, ?_, ?_⟩, rfl⟩
  · change (if i.tvalid then !i.tlast else s.rxActive) = false
    rw [none, if_neg Bool.false_ne_true]
    exact waits.between
  · rw [common_valid, waits.answered, Bool.false_and]

theorem UploadWriter.Waits.starts {s : UploadWriter} (waits : s.Waits) {i : WriterIn} (valid : i.tvalid = true)
    (more : i.tlast = false) (magic : i.tdata = ctrlMagic) : (s.step p i).state = .hdr0 := by
  rw [step, waits.state]
  dsimp only
  rw [stepIdle, valid, more, magic, waits.between, waits.answered]
  rfl

/-- What is known of a packet while it is fed: the words so far are in the account. -/
structure Fed (p : WriterParams) (c : UploadCore) (words : List Word) (s : AccountedWriter) : Prop where
  phase : Phase p s.account s.writer
  before : s.account.before = c
  receiving : s.writer.receiving = true
  words : s.account.words = words

theorem Fed.account {c : UploadCore} {words : List Word} {s : AccountedWriter} (fed : Fed p c words s) (i : WriterIn) :
    (s.step p i).account.before = c ∧
      (s.step p i).account.words = if i.tvalid then words ++ [i.tdata] else words := by
  have busy : s.writer.state ≠ .idle := by
    intro idle
    have receiving := fed.receiving
    simp [UploadWriter.receiving, idle] at receiving
  have account : s.nextAccount p i = _ := AccountedWriter.nextAccount.eq_1 p s i
  rw [not_starts busy, if_neg Bool.false_ne_true] at account
  change (s.nextAccount p i).before = c ∧ (s.nextAccount p i).words = _
  rw [account, receives_eq, fed.receiving, Bool.and_true]
  exact ⟨fed.before, by rw [fed.words]⟩

theorem Fed.next {c : UploadCore} {words : List Word} {s : AccountedWriter} (fed : Fed p c words s) {i : WriterIn}
    (more : i.tvalid = true → i.tlast = false) :
    Fed p c (if i.tvalid then words ++ [i.tdata] else words) (s.step p i) where
  phase := (fed.phase.step i).1
  before := (fed.account i).1
  receiving := by
    cases valid : i.tvalid with
    | false =>
      have waits := receiving_waits (p := p) fed.receiving valid
      change (s.writer.step p i).receiving = true
      rw [UploadWriter.receiving, waits]
      exact fed.receiving
    | true =>
      have stays := receiving_word (p := p) fed.receiving valid
      rw [more valid] at stays
      exact stays
  words := (fed.account i).2

/-- Before its first word the writer waits; from then on the packet is being received. -/
theorem feeding {s : AccountedWriter} (waits : s.writer.Waits) (closed : s.account.isOpen = false)
    (is : List WriterIn) (more : ∀ i ∈ is, i.tvalid = true → i.tlast = false) :
    (carried is = [] → ((accountedWriter p).run s is).writer.Waits ∧
        ((accountedWriter p).run s is).account.isOpen = false ∧
        ((accountedWriter p).run s is).writer.core = s.writer.core) ∧
      ∀ words, carried is = ctrlMagic :: words → Fed p s.writer.core words ((accountedWriter p).run s is) := by
  induction is using List.reverseRecOn with
  | nil => exact ⟨fun _ => ⟨waits, closed, rfl⟩, nofun⟩
  | append_singleton is i ih =>
    obtain ⟨waiting, receiving⟩ := ih fun j earlier => more j (List.mem_append_left _ earlier)
    have last := more i (List.mem_append_right _ List.mem_cons_self)
    rw [Clocked.Machine.run_append, carried_append]
    change (_ → ((accountedWriter p).run s is |>.step p i).writer.Waits ∧ _) ∧
      ∀ words, _ → Fed p _ words ((accountedWriter p).run s is |>.step p i)
    cases valid : i.tvalid with
    | false =>
      rw [if_neg Bool.false_ne_true]
      refine ⟨fun none => ?_, fun words some => ?_⟩
      · obtain ⟨waits', closed', core⟩ := waiting none
        obtain ⟨stays, kept⟩ := waits'.next (p := p) valid
        have phase : Phase p ((accountedWriter p).run s is).account ((accountedWriter p).run s is).writer :=
          .idle waits'.state closed'
        exact ⟨stays, (phase.step i).1.closed_of_idle stays.state, kept.trans core⟩
      · have next := (receiving words some).next last
        rwa [valid, if_neg Bool.false_ne_true] at next
    | true =>
      rw [if_pos rfl]
      refine ⟨fun none => absurd none (by simp), fun words some => ?_⟩
      cases earlier : carried is with
      | nil =>
        -- the first word
        obtain ⟨waits', closed', core⟩ := waiting earlier
        rw [earlier, List.nil_append, List.cons.injEq] at some
        obtain ⟨magic, rfl⟩ := some
        have next : (((accountedWriter p).run s is).step p i).writer.state = .hdr0 :=
          waits'.starts valid (last valid) magic
        have phase : Phase p ((accountedWriter p).run s is).account ((accountedWriter p).run s is).writer :=
          .idle waits'.state closed'
        have starts : ((accountedWriter p).run s is).starts p i = true := by
          rw [AccountedWriter.starts, waits'.state]
          exact beq_iff_eq.mpr next
        have account : (((accountedWriter p).run s is).step p i).account =
            ⟨((accountedWriter p).run s is).writer.core, [], 0, [], [], false, true⟩ := if_pos starts
        refine ⟨(phase.step i).1, ?_, ?_, ?_⟩
        · rw [account]
          exact core
        · simp [UploadWriter.receiving, next]
        · rw [account]
      | cons first words' =>
        rw [earlier, List.cons_append, List.cons.injEq] at some
        obtain ⟨rfl, rfl⟩ := some
        have next := (receiving words' earlier).next last
        rwa [valid, if_pos rfl] at next

/-- A request is complete with its last word. -/
theorem Fed.last {c : UploadCore} {words : List Word} {s : AccountedWriter} (fed : Fed p c words s) {i : WriterIn}
    (valid : i.tvalid = true) (last : i.tlast = true) (good : WellFormed (words ++ [i.tdata])) :
    (s.writer.step p i).state = .final := by
  have long := wellFormed_long good
  rw [← fed.words, List.length_append, List.length_singleton] at long
  cases fed.phase with
  | hdr0 _ _ none =>
    rw [none] at long
    exact absurd long (by decide)
  | hdr1 _ _ w0 one =>
    rw [one, List.length_singleton] at long
    exact absurd long (by decide)
  | payload state =>
    rw [step, state]
    dsimp only
    rw [stepPayload_valid p s.writer i valid, last, if_pos rfl]
  | drop _ _ _ _ hopeless =>
    rw [← fed.words] at good
    exact absurd good (hopeless _ [])
  | idle state | judging state | checked state | draining state | emitting state =>
    have receiving := fed.receiving
    simp [UploadWriter.receiving, state] at receiving
  | checking state | writing state =>
    have receiving := fed.receiving
    rcases state with state | state | state <;> simp [UploadWriter.receiving, state] at receiving

/-- A request that has been fed is registered, and nothing else has happened. -/
structure Registered (c : UploadCore) (words : List Word) (w : UploadWriter) : Prop where
  state : w.state = .final
  sound : w.packetError = false
  core : w.core = c
  agrees : Agrees c words w.request
  data : opcodeOf words = opData → (requestOf c words).data.rangeOk = true →
    ∀ k, k < (requestOf c words).data.length / 8 → w.dataMem k = dataWord words k

theorem Fed.registered {c : UploadCore} {words : List Word} {s : AccountedWriter} (fed : Fed p c words s) {i : WriterIn}
    (valid : i.tvalid = true) (last : i.tlast = true) (good : WellFormed (words ++ [i.tdata])) :
    Registered c (words ++ [i.tdata]) (s.step p i).writer := by
  have final : (s.step p i).writer.state = .final := fed.last valid last good
  have phase := (fed.phase.step i).1
  obtain ⟨core, account⟩ := fed.account i
  rw [valid, if_pos rfl] at account
  cases phase with
  | judging state fresh header error _ fields =>
    rw [account] at header error fields
    rw [core] at fields
    have received := fields good
    refine ⟨state, ?_, fresh.core.trans core, received.agrees header good, received.buffered good⟩
    rw [error, decide_eq_true good, Bool.not_true]
  | hdr0 state | hdr1 state | payload state | drop state | idle state | checked state | draining state
  | emitting state => exact WriterState.noConfusion (final.symm.trans state)
  | checking state | writing state =>
    rcases state with state | state | state <;> exact WriterState.noConfusion (final.symm.trans state)

theorem registered_of_brings {s : UploadWriter} (waits : s.Waits) {is : List WriterIn} {words : List Word}
    (brings : Brings is (ctrlMagic :: words)) (good : WellFormed words) :
    Registered s.core words ((uploadWriter p).run s is) := by
  obtain ⟨before, last, rfl, valid, ends, more, all⟩ := brings
  have long := wellFormed_long good
  obtain ⟨front, first, whole⟩ : ∃ front, carried before = ctrlMagic :: front ∧ front ++ [last.tdata] = words := by
    cases earlier : carried before with
    | nil =>
      rw [earlier, List.nil_append, List.cons.injEq] at all
      obtain ⟨-, rfl⟩ := all
      exact absurd long (by decide)
    | cons word front =>
      rw [earlier, List.cons_append, List.cons.injEq] at all
      obtain ⟨rfl, rest⟩ := all
      exact ⟨front, rfl, rest⟩
  -- the writer beside an account that has not started
  have fed := (feeding (p := p) (s := ⟨s, ⟨s.core, [], 0, [], [], false, false⟩⟩) waits rfl before more).2 front first
  rw [← whole] at good
  have registered := fed.registered valid ends good
  rw [whole] at registered
  rw [← accountedWriter_run p ⟨s, ⟨s.core, [], 0, [], [], false, false⟩⟩ (before ++ [last]), Clocked.Machine.run_append]
  exact registered

end Feeding

end Xczu47dr.Upload
