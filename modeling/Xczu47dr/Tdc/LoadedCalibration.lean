import Xczu47dr.Tdc.EnabledCompensation
import Xczu47dr.Tdc.MeasuredTable

/-! # Loading a calibration

`load_calibration`: the entries of a table written one by one, read again and committed,
from whatever an earlier load has left in the registers.
-/

namespace Xczu47dr.Tdc

open Effects

/-- The keys of a calibration that `load_calibration` looks up. -/
structure StoredCalibration where
  identity : Option Int
  units : Option String
  table : List Int
  /-- Empty where the key is missing. -/
  deviceUid : String

def writeEntries : Nat → List Int → TdcCall Unit
  | _, [] => pure ()
  | index, value :: values => do
    let _ ← writeTdcRegister (RegisterBank.lutAddress index) (BitVec.ofInt 32 value)
    writeEntries (index + 1) values

def readEntries : Nat → List Int → TdcCall Unit
  | _, [] => pure ()
  | index, value :: values => do
    let word ← readTdcRegister (RegisterBank.lutAddress index)
    if (word.toNat : Int) ≠ value then throw (.runtime s!"Calibration readback failed at tap {index}")
    else readEntries (index + 1) values

/-- The registers from the control register on. -/
def writeTable (table : List Int) : TdcCall Unit := do
  let _ ← writeTdcRegister 0x0004 0
  writeEntries 0 table
  readEntries 0 table
  let _ ← writeTdcRegister 0x0058 2
  let status ← readTdcRegister 0x0008
  if status.getLsbD 1 then pure () else throw (.runtime "Calibration did not commit")

/-- The board's unique identity is asked for in another request, `none` if that fails. -/
def loadCalibration (polls : Nat) (actualUid : Option String) (calibration : StoredCalibration) : TdcCall Unit := do
  checkIdentity
  if calibration.identity ≠ some identity ∨ calibration.units ≠ some "10 ps" then
    throw (.value "Calibration identity or units do not match")
  else match validateTable calibration.table, actualUid with
    | .error text, _ => throw (.value text)
    | .ok _, none => throw .transport
    | .ok table, some actual =>
      if calibration.deviceUid ≠ "" ∧ actual ≠ calibration.deviceUid then
        throw (.value "Calibration belongs to a different board")
      else do
        waitIdle polls
        writeTable table

/-! ## What may be found -/

/-- The access has found an unarmed board and has been answered. -/
def AccessEntry.Steady (entry : AccessEntry) : Prop := entry.answered = true ∧ entry.found.armed = false

def AccessEntry.Accepted (entry : AccessEntry) : Prop := ∃ r, entry.reply = some r ∧ r.error = 0

def AccessEntry.TurnsOff (entry : AccessEntry) : Prop := entry.access = ⟨true, 0x0004, 0⟩ ∧ entry.Accepted

/-- No access is refused but by an armed board. -/
def Served (log : List AccessEntry) : Prop := ∀ entry ∈ log, entry.Steady → entry.Accepted

def Holds (entries : BitVec 11 → BitVec 16) (values : List Int) : Prop :=
  ∀ (index : Nat) (value : Int), values[index]? = some value →
    ((entries (BitVec.ofNat 11 index)).toNat : Int) = value

/-- Compensation is off, and a valid table is the new one or the one from before. -/
def Harmless (start : Settings) (values : List Int) (now : Settings) : Prop :=
  now.control.getLsbD 0 = false ∧ (now.calibrationValid = true →
    Holds now.entries values ∨ (start.calibrationValid = true ∧ now.entries = start.entries))

/-- The call has found an armed board or has not been answered; and once it has cleared the control
register it leaves no harm. -/
def Interrupted (start : Settings) (values : List Int) (t : HostSession) : Prop :=
  (∃ entry ∈ t.log, ¬ entry.Steady) ∧ Served t.log ∧
    ((∃ entry ∈ t.log, entry.TurnsOff) → Harmless start values t.registers.settings)

/-- The table is in the registers, and valid. -/
def Loaded (values : List Int) (t : HostSession) : Prop :=
  Served t.log ∧ t.registers.bank.calibrationValid = true ∧ t.registers.bank.control = 0 ∧
    Holds t.registers.table values

variable {s t : HostSession} {a : Access} {values : List Int} {start now : Settings}

theorem Served.append {log : List AccessEntry} {entry : AccessEntry} (served : Served log)
    (last : entry.Steady → entry.Accepted) : Served (log ++ [entry]) := by
  intro other mem steady
  rcases List.mem_append.mp mem with earlier | here
  · exact served other earlier steady
  · obtain rfl := List.mem_singleton.mp here
    exact last steady

/-- An access that only an armed board refuses. -/
theorem access_served (left : HostSession → Prop) (served : Served s.log)
    (accepted : s.found.bank.armed = false → (s.found.perform (s.turns 0).now a).2.error = 0)
    (leaves : ∀ reply answered t, Entered s a reply answered t → left t) :
    Ends (access a) s (fun data t => Entered s a (some ⟨0, data⟩) true t ∧ Served t.log)
      (fun _ t => (∃ entry ∈ t.log, ¬ entry.Steady) ∧ Served t.log ∧ left t) := by
  apply (access_ends a s).mono
  · intro data t entered
    refine ⟨entered, ?_⟩
    rw [entered.log]
    exact served.append fun _ => ⟨_, rfl, rfl⟩
  · rintro e t (⟨-, reply, entered⟩ | ⟨r, -, failed, entered⟩)
    · refine ⟨⟨_, entered.mem, fun steady => Bool.noConfusion steady.1⟩, ?_, leaves _ _ _ entered⟩
      rw [entered.log]
      exact served.append fun steady => Bool.noConfusion steady.1
    · have armed : ¬ s.found.bank.armed = false := by
        intro unarmed
        rw [entered.write.2] at failed
        exact failed (accepted unarmed)
      refine ⟨⟨_, entered.mem, fun steady => armed steady.2⟩, ?_, leaves _ _ _ entered⟩
      rw [entered.log]
      exact served.append fun steady => absurd steady.2 armed

theorem Entered.settings {reply : Option Reply} {answered : Bool} (entered : Entered s a reply answered t)
    (reads : a.write = false) : t.registers.settings = s.registers.settings := by
  cases reply with
  | none => exact entered.unperformed rfl
  | some r => exact (entered.read reads).1

theorem read_accepted (reads : a.write = false)
    (answers : (s.found.bank.read (s.found.shown (s.turns 0).now a) a.addr).error = 0) :
    (s.found.perform (s.turns 0).now a).2.error = 0 := by
  rw [(TdcRegisters.perform_read reads).2, answers]

/-! ## Before the control register -/

/-- So far the call has only read. -/
structure Reading (start : Settings) (t : HostSession) : Prop where
  served : Served t.log
  reads : ∀ entry ∈ t.log, entry.access.write = false
  settings : t.registers.settings = start

theorem read_ends (reading : Reading start s) (reads : a.write = false)
    (answers : (s.found.bank.read (s.found.shown (s.turns 0).now a) a.addr).error = 0) :
    Ends (access a) s (fun data t => Entered s a (some ⟨0, data⟩) true t ∧ Reading start t)
      (fun _ t => Interrupted start values t) := by
  have logged {reply : Option Reply} {answered : Bool} {t : HostSession} (entered : Entered s a reply answered t) :
      ∀ entry ∈ t.log, entry.access.write = false := by
    intro entry mem
    rw [entered.log] at mem
    rcases List.mem_append.mp mem with earlier | last
    · exact reading.reads entry earlier
    · rw [List.mem_singleton.mp last]
      exact reads
  apply (access_served (fun t => ∀ entry ∈ t.log, entry.access.write = false) reading.served
    (fun _ => read_accepted reads answers) fun _ _ _ entered => logged entered).mono
  · rintro data t ⟨entered, served⟩
    exact ⟨entered, served, logged entered, (entered.settings reads).trans reading.settings⟩
  · rintro e t ⟨disturbed, served, reads⟩
    refine ⟨disturbed, served, ?_⟩
    rintro ⟨entry, mem, written, -⟩
    have read := reads entry mem
    rw [written] at read
    cases read

theorem checkIdentity_ends (reading : Reading start s) :
    Ends checkIdentity s (fun _ t => Reading start t) (fun _ t => Interrupted start values t) := by
  have answer (b : RegisterBank) (i : BankIn) : b.read i 0x0000 = ⟨0, 0x54444301⟩ := by
    rw [RegisterBank.read]
    cases b.histogramClearing <;> rfl
  apply Ends.bind
  apply (read_ends reading rfl (congrArg Reply.error (answer _ _))).mono
  · rintro word t ⟨entered, reading⟩
    have identity := (entered.read rfl).2
    rw [answer] at identity
    rw [(Reply.mk.inj identity).2]
    exact reading
  · exact fun _ _ interrupted => interrupted

theorem waitIdle_reading (polls : Nat) (s : HostSession) (reading : Reading start s)
    (some : 0 < polls ∨ ∃ entry ∈ s.log, ¬ entry.Steady) :
    Ends (waitIdle polls) s (fun _ t => Reading start t) (fun _ t => Interrupted start values t) := by
  induction polls generalizing s with
  | zero =>
    refine ⟨some.resolve_left (Nat.lt_irrefl 0), reading.served, ?_⟩
    rintro ⟨entry, mem, written, -⟩
    have read := reading.reads entry mem
    rw [written] at read
    cases read
  | succ polls ih =>
    apply Ends.bind
    apply (read_ends reading rfl (congrArg Reply.error (RegisterBank.read_status _ _))).mono
    · rintro status t ⟨entered, reading⟩
      cases waits : status.getLsbD 5 with
      | true =>
        have armed := entered.status.2.2.1
        rw [waits] at armed
        exact ih t reading (.inr ⟨_, entered.mem, fun steady => Bool.noConfusion (armed.trans steady.2)⟩)
      | false => exact reading
    · exact fun _ _ interrupted => interrupted

/-! ## From the control register on -/

/-- `count` values have been written, after whatever has been there at the start. -/
structure Loading (start : Settings) (values : List Int) (count : Nat) (now : Settings) : Prop where
  control : now.control = 0
  untouched : count = 0 → now.calibrationValid = start.calibrationValid ∧ now.entries = start.entries
  touched : count ≠ 0 → now.calibrationValid = false ∧ now.writtenCount.toNat = count ∧
    ∀ last, values[count - 1]? = some last → (now.previousEntry.toNat : Int) = last
  entries : Holds now.entries (values.take count)

theorem Loading.harmless {count : Nat} (loading : Loading start values count now) : Harmless start values now := by
  refine ⟨by rw [loading.control]; rfl, fun valid => .inr ?_⟩
  rcases Nat.eq_zero_or_pos count with none | some
  · obtain ⟨same, entries⟩ := loading.untouched none
    exact ⟨same.symm.trans valid, entries⟩
  · exact Bool.noConfusion (valid.symm.trans (loading.touched some.ne').1)

theorem loading_start (control : now = { start with control := 0 }) : Loading start values 0 now := by
  rw [control]
  exact ⟨rfl, fun _ => ⟨rfl, rfl⟩, fun none => absurd rfl none, nofun⟩

/-- The value of an entry as the word that is written. -/
theorem word_facts {value : Int} (range : 0 ≤ value ∧ value ≤ 600) :
    ((BitVec.ofInt 32 value).toNat : Int) = value ∧
      (((BitVec.ofInt 32 value).extractLsb' 0 16).toNat : Int) = value := by
  obtain ⟨low, high⟩ := range
  have word : ((BitVec.ofInt 32 value).toNat : Int) = value := by
    rw [BitVec.toNat_ofInt]
    omega
  refine ⟨word, ?_⟩
  rw [BitVec.extractLsb'_toNat, Nat.shiftRight_zero, Nat.mod_eq_of_lt (by omega)]
  exact word

theorem Loading.next {count : Nat} {value : Int} (loading : Loading start values count now)
    (inside : count < taps) (there : values[count]? = some value) {entry : BitVec 16}
    (word : (entry.toNat : Int) = value) :
    Loading start values (count + 1) { now with
      calibrationValid := false
      writtenCount := BitVec.ofNat 12 (count + 1)
      previousEntry := entry
      entries := Function.update now.entries (BitVec.ofNat 11 count) entry } := by
  rw [taps] at inside
  refine ⟨loading.control, by rintro ⟨⟩, fun _ => ⟨rfl, ?_, ?_⟩, ?_⟩
  · exact Nat.mod_eq_of_lt (by omega)
  · intro last same
    rw [Nat.add_sub_cancel, there] at same
    exact word.trans (Option.some.inj same)
  · intro index value' mem
    rw [List.getElem?_take] at mem
    split_ifs at mem with before
    dsimp only
    rcases Nat.eq_or_lt_of_le (Nat.le_of_lt_succ before) with rfl | earlier
    · rw [Function.update_self]
      exact word.trans (Option.some.inj (there.symm.trans mem))
    · have apart : BitVec.ofNat 11 index ≠ BitVec.ofNat 11 count := by
        intro same
        have values := congrArg BitVec.toNat same
        rw [BitVec.toNat_ofNat, BitVec.toNat_ofNat] at values
        omega
      rw [Function.update_of_ne apart]
      apply loading.entries
      rw [List.getElem?_take, if_pos earlier]
      exact mem

theorem TdcRegisters.accepted_unarmed {r : TdcRegisters} {i : BankIn} (write : a.write = true)
    (accepted : (r.perform i a).2.error = 0) : r.bank.armed = false := by
  have outcome := RegisterBank.perform_outcome r.bank (r.bank.measure (r.shown i a)) (r.shown i a) a
  generalize performed : r.bank.perform (r.bank.measure (r.shown i a)) (r.shown i a) a = after at outcome
  rw [TdcRegisters.perform_eq performed] at accepted
  cases outcome with
  | read reads => exact Bool.noConfusion (reads.symm.trans write)
  | rejected r _ failed => exact absurd accepted failed
  | entry _ unarmed | control _ unarmed | offset _ unarmed | clear _ unarmed | commit _ unarmed
  | restart _ unarmed =>
    exact unarmed

/-- A write that an unarmed board accepts with the settings `new`. -/
theorem write_ends {new : Settings} (write : a.write = true) (served : Served s.log)
    (accepts : s.found.bank.armed = false → (s.found.perform (s.turns 0).now a).2.error = 0 ∧
      (s.found.perform (s.turns 0).now a).1.settings = new)
    (old : (∃ entry ∈ s.log, entry.TurnsOff) → Harmless start values s.registers.settings)
    (harmless : Harmless start values new) :
    Ends (access a) s (fun _ t => Served t.log ∧ t.registers.settings = new)
      (fun _ t => Interrupted start values t) := by
  apply (access_served (fun t => (∃ entry ∈ t.log, entry.TurnsOff) → Harmless start values t.registers.settings)
    served (fun unarmed => (accepts unarmed).1) ?_).mono
  · rintro data t ⟨entered, served⟩
    obtain ⟨registers, reply⟩ := entered.write
    have unarmed := TdcRegisters.accepted_unarmed write (congrArg Reply.error reply).symm
    exact ⟨served, by rw [registers, (accepts unarmed).2]⟩
  · exact fun _ _ interrupted => interrupted
  · rintro reply answered t entered ⟨entry, mem, off⟩
    have changed {r : Reply} (performed : reply = some r) (accepted : r.error = 0) :
        t.registers.settings = new := by
      rw [performed] at entered
      obtain ⟨registers, same⟩ := entered.write
      rw [same] at accepted
      rw [registers, (accepts (TdcRegisters.accepted_unarmed write accepted)).2]
    rw [entered.log] at mem
    cases performed : reply with
    | none =>
      rw [entered.unperformed performed]
      rcases List.mem_append.mp mem with earlier | last
      · exact old ⟨entry, earlier, off⟩
      · obtain ⟨-, r, replied, -⟩ := off
        rw [List.mem_singleton.mp last, performed] at replied
        cases replied
    | some r =>
      by_cases accepted : r.error = 0
      · rw [changed performed accepted]
        exact harmless
      · rcases List.mem_append.mp mem with earlier | last
        · rw [performed] at entered
          obtain ⟨registers, same⟩ := entered.write
          rw [same] at accepted
          rw [registers, TdcRegisters.perform_refused accepted, s.found_facts.1]
          exact old ⟨entry, earlier, off⟩
        · obtain ⟨-, r', replied, none⟩ := off
          rw [List.mem_singleton.mp last, performed] at replied
          rw [Option.some.inj replied] at accepted
          exact absurd none accepted

/-- A read after the control register has been cleared. -/
theorem readback_ends (served : Served s.log) (reads : a.write = false)
    (answers : (s.found.bank.read (s.found.shown (s.turns 0).now a) a.addr).error = 0)
    (harmless : Harmless start values s.registers.settings) :
    Ends (access a) s (fun data t => Entered s a (some ⟨0, data⟩) true t ∧ Served t.log)
      (fun _ t => Interrupted start values t) := by
  apply (access_served (fun t => t.registers.settings = s.registers.settings) served
    (fun _ => read_accepted reads answers) fun _ _ _ entered => entered.settings reads).mono
  · exact fun _ _ entered => entered
  · rintro e t ⟨disturbed, served, same⟩
    refine ⟨disturbed, served, fun _ => ?_⟩
    rw [same]
    exact harmless

theorem Loading.found {count : Nat} (loading : Loading start values count s.registers.settings) :
    Loading start values count s.found.settings := by
  rw [s.found_facts.1]
  exact loading

theorem entry_accepted (valid : ValidTable values) {count : Nat} {value : Int} {r : TdcRegisters} {i : BankIn}
    (loading : Loading start values count r.settings) (inside : count < taps) (there : values[count]? = some value)
    (unarmed : r.bank.armed = false) :
    (r.perform i ⟨true, RegisterBank.lutAddress count, BitVec.ofInt 32 value⟩).2.error = 0 ∧
      (r.perform i ⟨true, RegisterBank.lutAddress count, BitVec.ofInt 32 value⟩).1.settings = { r.settings with
        calibrationValid := false
        writtenCount := BitVec.ofNat 12 (count + 1)
        previousEntry := (BitVec.ofInt 32 value).extractLsb' 0 16
        entries := Function.update r.settings.entries (BitVec.ofNat 11 count)
          ((BitVec.ofInt 32 value).extractLsb' 0 16) } := by
  have range := valid.range value (List.mem_of_getElem? there)
  obtain ⟨whole, low⟩ := word_facts range
  have allowed := @TdcRegisters.entry_allowed r i (BitVec.ofInt 32 value) count inside unarmed
    loading.control (by omega) ?_
  · exact ⟨congrArg Reply.error allowed.2, allowed.1⟩
  · intro later
    obtain ⟨-, counted, previous⟩ := loading.touched later
    refine ⟨counted, ?_⟩
    -- the entry before is the value before
    have before : count - 1 + 1 < values.length := by rw [valid.size]; omega
    have last := previous _ (List.getElem?_eq_getElem (Nat.lt_of_succ_lt before))
    have rises := valid.rises (count - 1) before
    have here : values[count - 1 + 1] = value := by
      apply Option.some.inj
      rw [← List.getElem?_eq_getElem before, Nat.sub_add_cancel (Nat.one_le_iff_ne_zero.mpr later), there]
    rw [here, ← last, ← low] at rises
    rw [BitVec.le_def]
    exact_mod_cast rises

/-! ## The loops -/

theorem writeEntries_ends (valid : ValidTable values) (rest : List Int) (count : Nat) (s : HostSession)
    (suffix : values.drop count = rest) (inside : count ≤ taps) (served : Served s.log)
    (loading : Loading start values count s.registers.settings) :
    Ends (writeEntries count rest) s
      (fun _ t => Served t.log ∧ Loading start values taps t.registers.settings)
      (fun _ t => Interrupted start values t) := by
  induction rest generalizing count s with
  | nil =>
    have short := List.drop_eq_nil_iff.mp suffix
    rw [valid.size] at short
    obtain rfl := Nat.le_antisymm inside short
    exact ⟨served, loading⟩
  | cons value rest ih =>
    have there : values[count]? = some value := by
      rw [← List.head?_drop, suffix]
      rfl
    have room : count < taps := by
      rw [← valid.size]
      exact (List.getElem?_eq_some_iff.mp there).1
    have low := (word_facts (valid.range value (List.mem_of_getElem? there))).2
    have next := loading.found.next room there low
    apply Ends.bind
    apply (write_ends rfl served (entry_accepted valid loading.found room there) (fun _ => loading.harmless)
      next.harmless).mono
    · rintro word t ⟨served, settings⟩
      refine ih (count + 1) t ?_ room served (by rw [settings]; exact next)
      rw [← List.tail_drop, suffix]
      rfl
    · exact fun _ _ interrupted => interrupted

theorem Entered.entry {count : Nat} {data : BitVec 32} (inside : count < taps)
    (entered : Entered s ⟨false, RegisterBank.lutAddress count, 0⟩ (some ⟨0, data⟩) true t) :
    data.toNat = (s.registers.settings.entries (BitVec.ofNat 11 count)).toNat := by
  have reply := (entered.read rfl).2
  rw [RegisterBank.read_entry _ _ inside] at reply
  obtain ⟨-, here, -⟩ := RegisterBank.lutAddress_facts inside
  obtain ⟨settings, quiet⟩ := s.found_facts
  rw [(Reply.mk.inj reply).2, ← settings, TdcRegisters.entries_quiet quiet, BitVec.toNat_setWidth,
    TdcRegisters.shown, here]
  exact Nat.mod_eq_of_lt (by omega)

theorem readEntries_ends (valid : ValidTable values) (rest : List Int) (count : Nat) (s : HostSession)
    (suffix : values.drop count = rest) (served : Served s.log)
    (loading : Loading start values taps s.registers.settings) :
    Ends (readEntries count rest) s
      (fun _ t => Served t.log ∧ Loading start values taps t.registers.settings)
      (fun _ t => Interrupted start values t) := by
  induction rest generalizing count s with
  | nil => exact ⟨served, loading⟩
  | cons value rest ih =>
    have there : values[count]? = some value := by
      rw [← List.head?_drop, suffix]
      rfl
    have room : count < taps := by
      rw [← valid.size]
      exact (List.getElem?_eq_some_iff.mp there).1
    have held := loading.entries count value (by rw [List.getElem?_take, if_pos room, there])
    apply Ends.bind
    apply (readback_ends served rfl (congrArg Reply.error (RegisterBank.read_entry _ _ room)) loading.harmless).mono
    · rintro word t ⟨entered, served⟩
      rw [entered.entry room, if_neg (not_not.mpr held)]
      refine ih (count + 1) t ?_ served (by rw [entered.settings rfl]; exact loading)
      rw [← List.tail_drop, suffix]
      rfl
    · exact fun _ _ interrupted => interrupted

theorem commit_ends (valid : ValidTable values) (served : Served s.log)
    (loading : Loading start values taps s.registers.settings) :
    Ends (writeTdcRegister 0x0058 2 >>= fun _ => readTdcRegister 0x0008 >>= fun status =>
        if status.getLsbD 1 then pure () else throw (.runtime "Calibration did not commit")) s
      (fun _ => Loaded values) (fun _ t => Interrupted start values t) := by
  have whole : values.take taps = values := List.take_of_length_le valid.size.le
  have holds : Holds s.found.settings.entries values := by
    have entries := loading.found.entries
    rwa [whole] at entries
  have harmless : Harmless start values { s.found.settings with calibrationValid := true } :=
    ⟨loading.found.harmless.1, fun _ => .inl holds⟩
  have commits (unarmed : s.found.bank.armed = false) :=
    TdcRegisters.commit_allowed (i := (s.turns 0).now) unarmed loading.found.control
      (loading.found.touched (by decide)).2.1
  apply Ends.bind
  apply (write_ends rfl served (fun unarmed => ⟨(commits unarmed).2, (commits unarmed).1⟩)
    (fun _ => loading.harmless) harmless).mono
  · rintro word t ⟨served, settings⟩
    apply Ends.bind
    apply (readback_ends served rfl (congrArg Reply.error (RegisterBank.read_status _ _))
      (by rw [settings]; exact harmless)).mono
    · rintro status u ⟨entered, served⟩
      have committed : t.found.bank.calibrationValid = true := by
        rw [(found_settings t).2, settings]
      rw [entered.status.2.2.2.2, committed, if_pos rfl]
      have same := entered.settings rfl
      rw [settings] at same
      have quiet : u.registers.bank.calibWrEn = false := by
        rw [entered.write.1]
        exact TdcRegisters.edge_quiet _ _
      refine ⟨served, congrArg Settings.calibrationValid same,
        (congrArg Settings.control same).trans loading.found.control, ?_⟩
      rw [← TdcRegisters.entries_quiet quiet, same]
      exact holds
    · exact fun _ _ interrupted => interrupted
  · exact fun _ _ interrupted => interrupted

theorem writeTable_ends (valid : ValidTable values) (reading : Reading start s) :
    Ends (writeTable values) s (fun _ => Loaded values) (fun _ t => Interrupted start values t) := by
  have off : Loading start values 0 { s.found.settings with control := 0 } := by
    apply loading_start
    rw [s.found_facts.1, reading.settings]
  have clears (unarmed : s.found.bank.armed = false) :=
    @TdcRegisters.control_allowed s.found (s.turns 0).now 0 unarmed (by decide) nofun
  apply Ends.bind
  apply (write_ends rfl reading.served
    (fun unarmed => ⟨congrArg Reply.error (clears unarmed).2, (clears unarmed).1⟩) ?_ off.harmless).mono
  · rintro word t ⟨served, settings⟩
    apply Ends.bind
    apply (writeEntries_ends valid values 0 t rfl (Nat.zero_le taps) served (by rw [settings]; exact off)).mono
    · rintro _ u ⟨served, loading⟩
      apply Ends.bind
      apply (readEntries_ends valid values 0 u rfl served loading).mono
      · rintro _ v ⟨served, loading⟩
        exact commit_ends valid served loading
      · exact fun _ _ interrupted => interrupted
    · exact fun _ _ interrupted => interrupted
  · exact fun _ _ interrupted => interrupted
  · rintro ⟨entry, mem, written, -⟩
    have read := reading.reads entry mem
    rw [written] at read
    cases read

/-! ## The call -/

/-- The calibration is one of this board, and its table valid. -/
def Loadable (actualUid : String) (calibration : StoredCalibration) : Prop :=
  calibration.identity = some identity ∧ calibration.units = some "10 ps" ∧
    (calibration.deviceUid = "" ∨ calibration.deviceUid = actualUid) ∧
      ∃ table, validateTable calibration.table = .ok table

theorem load_ends (registers : TdcRegisters) (turns : Nat → Turn) (polls : Nat) {actualUid : String}
    {calibration : StoredCalibration} (loadable : Loadable actualUid calibration) :
    Ends (loadCalibration (polls + 1) (some actualUid) calibration) ⟨registers, turns, []⟩
      (fun _ => Loaded calibration.table)
      (fun _ t => Interrupted registers.settings calibration.table t) := by
  obtain ⟨sameIdentity, sameUnits, sameUid, table, validated⟩ := loadable
  obtain ⟨rfl, valid⟩ := validateTable_ok.mp validated
  have own : ¬ (calibration.deviceUid ≠ "" ∧ actualUid ≠ calibration.deviceUid) := by
    rintro ⟨named, other⟩
    exact other (sameUid.resolve_left named).symm
  have reading : Reading registers.settings ⟨registers, turns, []⟩ :=
    ⟨fun _ none => absurd none List.not_mem_nil, fun _ none => absurd none List.not_mem_nil, rfl⟩
  apply Ends.bind
  apply (checkIdentity_ends reading).mono
  · intro _ t reading
    rw [if_neg (by rw [not_or, not_not, not_not]; exact ⟨sameIdentity, sameUnits⟩), validated]
    dsimp only
    rw [if_neg own]
    apply Ends.bind
    apply (waitIdle_reading (polls + 1) t reading (.inl (Nat.zero_lt_succ polls))).mono
    · exact fun _ u reading => writeTable_ends valid reading
    · exact fun _ _ interrupted => interrupted
  · exact fun _ _ interrupted => interrupted

/-- A measured calibration with the identity of the board it has been measured on. -/
def MeasuredCalibration.stored (result : MeasuredCalibration) (deviceUid : String) : StoredCalibration where
  identity := some result.identity
  units := some result.units
  table := result.table
  deviceUid := deviceUid

theorem stored_loadable {histogram : List Int} {minimumSamples : Int} {result : MeasuredCalibration}
    (accepted : calibrationFromHistogram histogram minimumSamples = .ok result) (actualUid : String) :
    Loadable actualUid (result.stored actualUid) := by
  refine ⟨?_, ?_, .inr rfl, _, (measured_exactly accepted).accepted⟩
  all_goals
    obtain ⟨-, -, rfl⟩ := calibration_ok.mp accepted
    rfl

/-- An accepted histogram gives a valid table, near all positions of its bins, and loadable; one
that passes the checks is accepted; and a loadable calibration is loaded, whatever the registers
hold, unless the board is found armed or an access is not answered, which leaves no harm. -/
theorem calibration_loadable (histogram : List Int) (minimumSamples : Int) (registers : TdcRegisters)
    (turns : Nat → Turn) (polls : Nat) (actualUid : String) :
    (∀ result, calibrationFromHistogram histogram minimumSamples = .ok result →
      MeasuredExactly histogram result ∧ Loadable actualUid (result.stored actualUid)) ∧
    (Sampled histogram minimumSamples histogram.sum → histogram.sum < 2 ^ 63 →
      ∃ result, calibrationFromHistogram histogram minimumSamples = .ok result) ∧
    ∀ calibration, Loadable actualUid calibration →
      Ends (loadCalibration (polls + 1) (some actualUid) calibration) ⟨registers, turns, []⟩
        (fun _ => Loaded calibration.table)
        (fun _ t => Interrupted registers.settings calibration.table t) :=
  ⟨fun _ accepted => ⟨measured_exactly accepted, stored_loadable accepted actualUid⟩,
    fun sampled counted => measured_accepted sampled counted,
    fun _ loadable => load_ends registers turns polls loadable⟩

end Xczu47dr.Tdc
