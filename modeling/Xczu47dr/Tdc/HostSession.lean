import Xczu47dr.Effects.Ends
import Xczu47dr.Tdc.CalibrationSafety

/-! # The host at the TDC registers

`Dr47Device.read_tdc_register` and `write_tdc_register`: one access at a time, each
performed at some edge of the sample clock after the one before, answered or not.
-/

namespace Xczu47dr.Tdc

open Effects

namespace RegisterBank

variable (s t : RegisterBank) (i : BankIn) (data : BitVec 32)

/-! ## Writes by their addresses -/

theorem perform_control : s.perform t i ⟨true, 0x0004, data⟩ =
    if s.armed then (t, ⟨4, 0⟩) else s.writeControl t i ⟨true, 0x0004, data⟩ := by
  have answered : (s.read i 0x0004).error = 0 := by
    rw [read]
    cases s.histogramClearing <;> rfl
  unfold perform
  dsimp only
  rw [answered, armed]
  cases s.armedSync.getLsbD 2 <;> cases s.control.getLsbD 0 <;> rfl

theorem perform_offset : s.perform t i ⟨true, 0x000c, data⟩ =
    if s.armed || s.compensates then (t, ⟨4, 0⟩) else t.writePhaseOffset ⟨true, 0x000c, data⟩ := by
  have answered : (s.read i 0x000c).error = 0 := by
    rw [read]
    cases s.histogramClearing <;> rfl
  unfold perform
  dsimp only
  rw [answered, armed, compensates]
  cases s.armedSync.getLsbD 2 <;> cases s.control.getLsbD 0 <;> rfl

theorem perform_command : s.perform t i ⟨true, 0x0058, data⟩ =
    if s.armed || s.compensates then (t, ⟨4, 0⟩)
    else s.writeCommand t ⟨true, 0x0058, data⟩ (s.read i 0x0058) := by
  have answered : (s.read i 0x0058).error = 0 := by
    rw [read]
    cases s.histogramClearing <;> rfl
  unfold perform
  dsimp only
  rw [answered, armed, compensates]
  cases s.armedSync.getLsbD 2 <;> cases s.control.getLsbD 0 <;> rfl

theorem read_status : s.read i 0x0008 = ⟨0, s.statusWord i⟩ := by
  rw [read]
  cases s.histogramClearing <;> rfl

theorem statusWord_bits : (s.statusWord i).getLsbD 5 = s.armed ∧ (s.statusWord i).getLsbD 2 = s.compensates ∧
    (s.statusWord i).getLsbD 1 = s.calibrationValid := by
  refine ⟨?_, ?_, ?_⟩ <;>
    simp only [statusWord, armed, compensates, BitVec.getLsbD_append, BitVec.getLsbD_ofBool] <;> simp

/-! ## The table -/

/-- `LUT_BASE + 4 * index` -/
def lutAddress (index : Nat) : BitVec 16 := BitVec.ofNat 16 (0x1000 + 4 * index)

variable {index : Nat}

theorem lutAddress_facts (inside : index < taps) : isLut (lutAddress index) = true ∧
    lutIndex (lutAddress index) = BitVec.ofNat 11 index ∧ (lutAddress index).extractLsb' 0 2 = 0 ∧
      isHistogram (lutAddress index) = false ∧ lutAddress index ≠ 0x0004 := by
  have value : (lutAddress index).toNat = 0x1000 + 4 * index := by
    rw [taps] at inside
    rw [lutAddress, BitVec.toNat_ofNat, Nat.mod_eq_of_lt (by omega)]
  rw [taps] at inside
  refine ⟨?_, ?_, ?_, ?_, fun same => ?_⟩
  · rw [isLut, value, taps, Bool.and_eq_true_iff, decide_eq_true_iff, decide_eq_true_iff]
    omega
  · apply BitVec.eq_of_toNat_eq
    rw [lutIndex, BitVec.extractLsb'_toNat, BitVec.toNat_sub, value, BitVec.toNat_ofNat, Nat.shiftRight_eq_div_pow]
    change (2 ^ 16 - 4096 + (0x1000 + 4 * index)) % 2 ^ 16 / 2 ^ 2 % 2 ^ 11 = _
    omega
  · apply BitVec.eq_of_toNat_eq
    rw [BitVec.extractLsb'_toNat, value, Nat.shiftRight_zero]
    change (0x1000 + 4 * index) % 2 ^ 2 = 0
    omega
  · rw [isHistogram, value, taps, Bool.and_eq_false_iff, decide_eq_false_iff_not, decide_eq_false_iff_not]
    omega
  · have apart := congrArg BitVec.toNat same
    rw [value] at apart
    change 0x1000 + 4 * index = 4 at apart
    omega

theorem read_entry (inside : index < taps) :
    s.read i (lutAddress index) = ⟨0, i.calibRdData.zeroExtend 32⟩ := by
  obtain ⟨lut, -, aligned, bins, -⟩ := lutAddress_facts inside
  rw [read, aligned, lut, bins, Bool.and_false]
  rfl

theorem perform_entry (inside : index < taps) : s.perform t i ⟨true, lutAddress index, data⟩ =
    if s.armed || s.compensates then (t, ⟨4, 0⟩) else s.writeLut t ⟨true, lutAddress index, data⟩ := by
  obtain ⟨lut, -, -, -, other⟩ := lutAddress_facts inside
  have differs : (lutAddress index != 0x0004) = true := bne_iff_ne.mpr other
  unfold perform
  dsimp only
  rw [read_entry s i inside, armed, compensates, differs, Bool.and_true, if_pos lut]
  rfl

end RegisterBank

/-! ## The registers and the table -/

structure TdcRegisters where
  bank : RegisterBank
  /-- `calibration` of `tdc_event_capture` -/
  table : BitVec 11 → BitVec 16

/-- What a measurement leaves as it is. -/
@[ext] structure Settings where
  control : BitVec 3
  calibrationValid : Bool
  phaseOffset : BitVec 16
  writtenCount : BitVec 12
  previousEntry : BitVec 16
  /-- The table once the write that is under way has reached it. -/
  entries : BitVec 11 → BitVec 16

namespace TdcRegisters

variable (s : TdcRegisters) (i : BankIn) (a : Access)

def settings : Settings where
  control := s.bank.control
  calibrationValid := s.bank.calibrationValid
  phaseOffset := s.bank.phaseOffset
  writtenCount := s.bank.writtenCount
  previousEntry := s.bank.previousEntry
  entries := s.bank.written s.table

/-- One edge of the sample clock without an access. -/
def edge : TdcRegisters := ⟨s.bank.measure i, s.bank.written s.table⟩

/-- The table is read as it is at the edge. -/
def shown : BankIn := { i with calibRdData := s.table (RegisterBank.lutIndex a.addr) }

/-- The edge of the sample clock at which an access is performed. -/
def perform : TdcRegisters × Reply :=
  let after := s.bank.perform (s.bank.measure (s.shown i a)) (s.shown i a) a
  (⟨after.1, s.bank.written s.table⟩, after.2)

theorem edge_quiet : (s.edge i).bank.calibWrEn = false := (s.bank.measure_calibration i).1

theorem settings_edge : (s.edge i).settings = s.settings := by
  obtain ⟨quiet, control, valid, offset, count, previous⟩ := s.bank.measure_calibration i
  rw [settings, settings, edge, RegisterBank.written_quiet quiet, control, valid, offset, count, previous]

variable {s i a}

theorem entries_quiet (quiet : s.bank.calibWrEn = false) : s.settings.entries = s.table :=
  RegisterBank.written_quiet quiet

/-- What an access leaves of the registers, the rest being measured. -/
theorem perform_eq {after : RegisterBank × Reply}
    (performed : s.bank.perform (s.bank.measure (s.shown i a)) (s.shown i a) a = after) :
    s.perform i a = (⟨after.1, s.bank.written s.table⟩, after.2) := by
  rw [← performed]
  rfl

/-- An access that reads, or is refused, changes no setting. -/
theorem settings_measured {reply : Reply}
    (performed : s.bank.perform (s.bank.measure (s.shown i a)) (s.shown i a) a =
      (s.bank.measure (s.shown i a), reply)) :
    (s.perform i a).1.settings = s.settings ∧ (s.perform i a).2 = reply := by
  rw [perform_eq performed]
  exact ⟨s.settings_edge (s.shown i a), rfl⟩

theorem perform_read (reads : a.write = false) :
    (s.perform i a).1.settings = s.settings ∧ (s.perform i a).2 = s.bank.read (s.shown i a) a.addr := by
  apply settings_measured
  unfold RegisterBank.perform
  dsimp only
  rw [reads]
  rfl

theorem perform_refused (refused : (s.perform i a).2.error ≠ 0) : (s.perform i a).1.settings = s.settings := by
  have rules := (RegisterBank.perform_outcome s.bank (s.bank.measure (s.shown i a)) (s.shown i a) a).rules
  exact (settings_measured (Prod.ext (rules.2.2.2.2.2 refused) rfl)).1

/-! ## Accepted writes -/

variable {data : BitVec 32}

theorem control_allowed (unarmed : s.bank.armed = false) (high : data.extractLsb' 3 29 = 0)
    (allowed : data.getLsbD 0 = true → s.bank.calibrationValid = true ∧ i.referenceReady = true ∧
      data.getLsbD 1 = false ∧ s.bank.histogramClearing = false) :
    (s.perform i ⟨true, 0x0004, data⟩).1.settings = { s.settings with control := data.extractLsb' 0 3 } ∧
      (s.perform i ⟨true, 0x0004, data⟩).2 = ⟨0, data⟩ := by
  have written := RegisterBank.perform_control s.bank (s.bank.measure (s.shown i ⟨true, 0x0004, data⟩))
    (s.shown i ⟨true, 0x0004, data⟩) data
  obtain ⟨quiet, -, valid, offset, count, previous⟩ := s.bank.measure_calibration (s.shown i ⟨true, 0x0004, data⟩)
  have accepts : ¬ (data.extractLsb' 3 29 ≠ 0 ∨ (data.getLsbD 0 = true ∧
      (s.bank.calibrationValid = false ∨ i.referenceReady = false ∨ data.getLsbD 1 = true ∨
        s.bank.histogramClearing = true))) := by
    rintro (other | ⟨enables, refused⟩)
    · exact other high
    · obtain ⟨valid, ready, source, still⟩ := allowed enables
      rcases refused with invalid | unready | sourced | clearing
      · exact Bool.noConfusion (valid.symm.trans invalid)
      · exact Bool.noConfusion (ready.symm.trans unready)
      · exact Bool.noConfusion (source.symm.trans sourced)
      · exact Bool.noConfusion (still.symm.trans clearing)
  rw [unarmed, if_neg Bool.false_ne_true, RegisterBank.writeControl] at written
  rw [perform_eq (written.trans (if_neg accepts))]
  exact ⟨Settings.ext rfl valid offset count previous (RegisterBank.written_quiet quiet), rfl⟩

theorem control_refused (refused : s.bank.armed = true ∨ data.getLsbD 0 = true ∧
      (s.bank.calibrationValid = false ∨ i.referenceReady = false ∨ s.bank.histogramClearing = true)) :
    (s.perform i ⟨true, 0x0004, data⟩).2.error ≠ 0 := by
  have written := RegisterBank.perform_control s.bank (s.bank.measure (s.shown i ⟨true, 0x0004, data⟩))
    (s.shown i ⟨true, 0x0004, data⟩) data
  cases armed : s.bank.armed with
  | true =>
    rw [armed, if_pos rfl] at written
    rw [perform_eq written]
    exact (by decide : (4 : BitVec 16) ≠ 0)
  | false =>
    obtain ⟨enables, locked⟩ := refused.resolve_left (fun other => Bool.noConfusion (armed.symm.trans other))
    rw [armed, if_neg Bool.false_ne_true, RegisterBank.writeControl] at written
    have rejects : data.extractLsb' 3 29 ≠ 0 ∨ (data.getLsbD 0 = true ∧
        (s.bank.calibrationValid = false ∨ i.referenceReady = false ∨ data.getLsbD 1 = true ∨
          s.bank.histogramClearing = true)) := by
      refine .inr ⟨enables, ?_⟩
      rcases locked with invalid | unready | clearing
      · exact .inl invalid
      · exact .inr (.inl unready)
      · exact .inr (.inr (.inr clearing))
    rw [perform_eq (written.trans (if_pos rejects))]
    exact (by decide : (3 : BitVec 16) ≠ 0)

theorem offset_allowed (unarmed : s.bank.armed = false) (idle : s.bank.compensates = false)
    (low : -1999 ≤ data.toInt) (high : data.toInt ≤ 1999) :
    (s.perform i ⟨true, 0x000c, data⟩).1.settings = { s.settings with phaseOffset := data.extractLsb' 0 16 } ∧
      (s.perform i ⟨true, 0x000c, data⟩).2 = ⟨0, data⟩ := by
  have written := RegisterBank.perform_offset s.bank (s.bank.measure (s.shown i ⟨true, 0x000c, data⟩))
    (s.shown i ⟨true, 0x000c, data⟩) data
  obtain ⟨quiet, control, valid, -, count, previous⟩ := s.bank.measure_calibration (s.shown i ⟨true, 0x000c, data⟩)
  rw [unarmed, idle, Bool.or_false, if_neg Bool.false_ne_true, RegisterBank.writePhaseOffset] at written
  rw [perform_eq (written.trans (if_neg (by rw [not_or, Int.not_lt, Int.not_lt]; exact ⟨low, high⟩)))]
  exact ⟨Settings.ext control valid rfl count previous (RegisterBank.written_quiet quiet), rfl⟩

theorem offset_refused (refused : s.bank.armed = true ∨ s.bank.compensates = true) :
    (s.perform i ⟨true, 0x000c, data⟩).2.error ≠ 0 := by
  have written := RegisterBank.perform_offset s.bank (s.bank.measure (s.shown i ⟨true, 0x000c, data⟩))
    (s.shown i ⟨true, 0x000c, data⟩) data
  rw [if_pos (Bool.or_eq_true_iff.mpr refused)] at written
  rw [perform_eq written]
  exact (by decide : (4 : BitVec 16) ≠ 0)

theorem commit_allowed (unarmed : s.bank.armed = false) (control : s.bank.control = 0)
    (full : s.bank.writtenCount.toNat = taps) :
    (s.perform i ⟨true, 0x0058, 2⟩).1.settings = { s.settings with calibrationValid := true } ∧
      (s.perform i ⟨true, 0x0058, 2⟩).2.error = 0 := by
  have written := RegisterBank.perform_command s.bank (s.bank.measure (s.shown i ⟨true, 0x0058, 2⟩))
    (s.shown i ⟨true, 0x0058, 2⟩) 2
  obtain ⟨quiet, control', -, offset, count, previous⟩ := s.bank.measure_calibration (s.shown i ⟨true, 0x0058, 2⟩)
  rw [unarmed, RegisterBank.compensates, control, Bool.false_or, if_neg (by decide), RegisterBank.writeCommand,
    if_neg (by intro clears; exact absurd clears.1 (by decide : (2 : BitVec 32) ≠ 1)), control,
    if_pos ⟨rfl, full, by decide⟩] at written
  rw [perform_eq written]
  exact ⟨Settings.ext control' rfl offset count previous (RegisterBank.written_quiet quiet),
    RegisterBank.read_command (a := ⟨true, 0x0058, 2⟩) rfl⟩

theorem entry_allowed {index : Nat} (inside : index < taps) (unarmed : s.bank.armed = false)
    (control : s.bank.control = 0) (small : data.toNat ≤ 600)
    (follows : index ≠ 0 → s.bank.writtenCount.toNat = index ∧ s.bank.previousEntry ≤ data.extractLsb' 0 16) :
    (s.perform i ⟨true, RegisterBank.lutAddress index, data⟩).1.settings = { s.settings with
        calibrationValid := false
        writtenCount := BitVec.ofNat 12 (index + 1)
        previousEntry := data.extractLsb' 0 16
        entries := Function.update s.settings.entries (BitVec.ofNat 11 index) (data.extractLsb' 0 16) } ∧
      (s.perform i ⟨true, RegisterBank.lutAddress index, data⟩).2 = ⟨0, data⟩ := by
  obtain ⟨-, here, -, -, -⟩ := RegisterBank.lutAddress_facts inside
  have written := RegisterBank.perform_entry s.bank
    (s.bank.measure (s.shown i ⟨true, RegisterBank.lutAddress index, data⟩))
    (s.shown i ⟨true, RegisterBank.lutAddress index, data⟩) data inside
  obtain ⟨-, control', -, offset, -, -⟩ :=
    s.bank.measure_calibration (s.shown i ⟨true, RegisterBank.lutAddress index, data⟩)
  rw [taps] at inside
  have wide : (BitVec.ofNat 11 index).zeroExtend 12 = BitVec.ofNat 12 index := by
    apply BitVec.eq_of_toNat_eq
    rw [BitVec.toNat_setWidth, BitVec.toNat_ofNat, BitVec.toNat_ofNat]
    omega
  have accepts : ¬ (600 < data.toNat ∨ (BitVec.ofNat 11 index ≠ 0 ∧
      ((BitVec.ofNat 11 index).zeroExtend 12 ≠ s.bank.writtenCount ∨
        data.extractLsb' 0 16 < s.bank.previousEntry))) := by
    rintro (large | ⟨later, other | falls⟩)
    · exact absurd small (Nat.not_le.mpr large)
    all_goals
      have nonzero : index ≠ 0 := fun zero => later (congrArg (BitVec.ofNat 11) zero)
      obtain ⟨counted, rises⟩ := follows nonzero
    · apply other
      rw [wide, ← counted, BitVec.ofNat_toNat, BitVec.setWidth_eq]
    · exact absurd falls (BitVec.not_lt.mpr rises)
  rw [unarmed, RegisterBank.compensates, control, Bool.false_or, if_neg (by decide),
    RegisterBank.writeLut] at written
  dsimp only at written
  rw [here, if_neg accepts] at written
  rw [perform_eq written]
  have count : (BitVec.ofNat 11 index).zeroExtend 12 + 1 = BitVec.ofNat 12 (index + 1) := by
    rw [wide]
    exact (BitVec.ofNat_add index 1).symm
  exact ⟨Settings.ext control' rfl offset count rfl rfl, rfl⟩

end TdcRegisters

/-! ## A session -/

/-- What becomes of a request: it does not reach the registers, its reply does not reach the host,
or it is answered. -/
inductive Delivery
  | lost
  | unanswered
  | answered

/-- The edges of the sample clock since the access before, that of this access, and its delivery. -/
structure Turn where
  first : BankIn
  idle : List BankIn
  now : BankIn
  delivery : Delivery

/-- What an access has found and what came of it, `none` if it was not performed. -/
structure AccessEntry where
  access : Access
  found : RegisterBank
  referenceReady : Bool
  reply : Option Reply
  answered : Bool

structure HostSession where
  registers : TdcRegisters
  turns : Nat → Turn
  log : List AccessEntry

/-- The exceptions of the host. -/
inductive TdcError
  | value (text : String)
  | runtime (text : String)
  | timeout (text : String)
  | deviceStatus (status : BitVec 16)
  | transport

abbrev TdcCall (α : Type) := EStateM TdcError HostSession α

namespace HostSession

variable (s : HostSession) (a : Access)

/-- The registers as the next access finds them. -/
def found : TdcRegisters := ((s.turns 0).first :: (s.turns 0).idle).foldl TdcRegisters.edge s.registers

def next (registers : TdcRegisters) (reply : Option Reply) (answered : Bool) : HostSession where
  registers := registers
  turns n := s.turns (n + 1)
  log := s.log ++ [⟨a, s.found.bank, (s.turns 0).now.referenceReady, reply, answered⟩]

theorem found_facts : s.found.settings = s.registers.settings ∧ s.found.bank.calibWrEn = false := by
  have edges (idle : List BankIn) (r : TdcRegisters) (quiet : r.bank.calibWrEn = false) :
      (idle.foldl TdcRegisters.edge r).settings = r.settings ∧
        (idle.foldl TdcRegisters.edge r).bank.calibWrEn = false := by
    induction idle generalizing r with
    | nil => exact ⟨rfl, quiet⟩
    | cons i idle ih =>
      obtain ⟨same, still⟩ := ih (r.edge i) (r.edge_quiet i)
      exact ⟨same.trans (r.settings_edge i), still⟩
  obtain ⟨same, still⟩ := edges (s.turns 0).idle _ (s.registers.edge_quiet (s.turns 0).first)
  exact ⟨same.trans (s.registers.settings_edge _), still⟩

end HostSession

/-- `_tdc_register`: an error in the reply is raised. -/
def access (a : Access) : TdcCall (BitVec 32) := fun s =>
  let performed := s.found.perform (s.turns 0).now a
  match (s.turns 0).delivery with
  | .lost => .error .transport (s.next a (s.found.edge (s.turns 0).now) none false)
  | .unanswered => .error .transport (s.next a performed.1 (some performed.2) false)
  | .answered =>
    if performed.2.error = 0 then .ok performed.2.data (s.next a performed.1 (some performed.2) true)
    else .error (.deviceStatus performed.2.error) (s.next a performed.1 (some performed.2) true)

def readTdcRegister (address : BitVec 16) : TdcCall (BitVec 32) := access ⟨false, address, 0⟩

def writeTdcRegister (address : BitVec 16) (data : BitVec 32) : TdcCall (BitVec 32) := access ⟨true, address, data⟩

/-- `check_identity` -/
def checkIdentity : TdcCall Unit := do
  let identity ← readTdcRegister 0x0000
  if identity ≠ 0x54444301 then
    throw (.runtime "This board does not expose the expected TDC register version")

/-- `_wait_idle`, `polls` being the number of times it asks before its deadline. -/
def waitIdle : Nat → TdcCall Unit
  | 0 => throw (.timeout "TDC configuration requires an idle, unarmed board")
  | polls + 1 => do
    let status ← readTdcRegister 0x0008
    if status.getLsbD 5 then waitIdle polls else pure ()

/-- What an access has done to the session. -/
structure Entered (s : HostSession) (a : Access) (reply : Option Reply) (answered : Bool)
    (t : HostSession) : Prop where
  log : t.log = s.log ++ [⟨a, s.found.bank, (s.turns 0).now.referenceReady, reply, answered⟩]
  turns : t.turns = fun n => s.turns (n + 1)
  unperformed : reply = none → t.registers.settings = s.registers.settings
  performed : ∀ r, reply = some r → (t.registers, r) = s.found.perform (s.turns 0).now a

theorem access_cases (a : Access) (s : HostSession) :
    ((s.turns 0).delivery ≠ .answered ∧ ∃ reply t, access a s = .error .transport t ∧ Entered s a reply false t) ∨
    ((s.turns 0).delivery = .answered ∧ (s.found.perform (s.turns 0).now a).2.error ≠ 0 ∧
      ∃ t, access a s = .error (.deviceStatus (s.found.perform (s.turns 0).now a).2.error) t ∧
        Entered s a (some (s.found.perform (s.turns 0).now a).2) true t) ∨
    ((s.turns 0).delivery = .answered ∧ (s.found.perform (s.turns 0).now a).2.error = 0 ∧
      ∃ t, t = s.next a (s.found.perform (s.turns 0).now a).1 (some (s.found.perform (s.turns 0).now a).2) true ∧
        access a s = .ok (s.found.perform (s.turns 0).now a).2.data t ∧
          Entered s a (some (s.found.perform (s.turns 0).now a).2) true t) := by
  have enters (answered : Bool) : Entered s a (some (s.found.perform (s.turns 0).now a).2) answered
      (s.next a (s.found.perform (s.turns 0).now a).1 (some (s.found.perform (s.turns 0).now a).2) answered) :=
    ⟨rfl, rfl, nofun, fun r same => by rw [← Option.some.inj same]; rfl⟩
  unfold access
  dsimp only
  cases (s.turns 0).delivery with
  | lost =>
    refine .inl ⟨nofun, none, _, rfl, rfl, rfl, fun _ => ?_, nofun⟩
    exact (s.found.settings_edge _).trans s.found_facts.1
  | unanswered => exact .inl ⟨nofun, _, _, rfl, enters false⟩
  | answered =>
    by_cases accepted : (s.found.perform (s.turns 0).now a).2.error = 0
    · exact .inr (.inr ⟨rfl, accepted, _, rfl, if_pos accepted, enters true⟩)
    · exact .inr (.inl ⟨rfl, accepted, _, if_neg accepted, enters true⟩)

theorem access_ends (a : Access) (s : HostSession) : Ends (access a) s
    (fun data t => Entered s a (some ⟨0, data⟩) true t)
    (fun e t => e = .transport ∧ (∃ reply, Entered s a reply false t) ∨
      ∃ r, e = .deviceStatus r.error ∧ r.error ≠ 0 ∧ Entered s a (some r) true t) := by
  unfold Ends
  obtain ⟨-, reply, t, ended, entered⟩ | ⟨-, failed, t, ended, entered⟩ | ⟨-, accepted, t, -, ended, entered⟩ :=
    access_cases a s
  · rw [ended]
    exact .inl ⟨rfl, reply, entered⟩
  · rw [ended]
    exact .inr ⟨_, rfl, failed, entered⟩
  · rw [ended]
    dsimp only
    rw [← accepted]
    exact entered

variable {s t : HostSession} {a : Access} {r : Reply} {answered : Bool}

theorem Entered.write (entered : Entered s a (some r) answered t) :
    t.registers = (s.found.perform (s.turns 0).now a).1 ∧ r = (s.found.perform (s.turns 0).now a).2 :=
  Prod.mk.inj (entered.performed r rfl)

theorem Entered.read (entered : Entered s a (some r) answered t) (reads : a.write = false) :
    t.registers.settings = s.registers.settings ∧
      r = s.found.bank.read (s.found.shown (s.turns 0).now a) a.addr := by
  obtain ⟨registers, reply⟩ := entered.write
  obtain ⟨same, word⟩ := TdcRegisters.perform_read (s := s.found) (i := (s.turns 0).now) reads
  exact ⟨by rw [registers, same, s.found_facts.1], reply.trans word⟩

theorem Entered.status (entered : Entered s ⟨false, 0x0008, 0⟩ (some r) answered t) :
    t.registers.settings = s.registers.settings ∧ r.error = 0 ∧ r.data.getLsbD 5 = s.found.bank.armed ∧
      r.data.getLsbD 2 = s.found.bank.compensates ∧ r.data.getLsbD 1 = s.found.bank.calibrationValid := by
  obtain ⟨same, reply⟩ := entered.read rfl
  rw [RegisterBank.read_status] at reply
  rw [reply]
  exact ⟨same, rfl, RegisterBank.statusWord_bits _ _⟩

/-- The access is the last entry of the log. -/
theorem Entered.mem {reply : Option Reply} (entered : Entered s a reply answered t) :
    ⟨a, s.found.bank, (s.turns 0).now.referenceReady, reply, answered⟩ ∈ t.log := by
  rw [entered.log]
  exact List.mem_append_right _ (List.mem_singleton.mpr rfl)

end Xczu47dr.Tdc
