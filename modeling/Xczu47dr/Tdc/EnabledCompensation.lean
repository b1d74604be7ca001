import Xczu47dr.Tdc.HostSession

/-! # Enabling the compensation

`enable_compensation`: the offset, the control register and a look at the status,
against the interlocks of the registers.
-/

namespace Xczu47dr.Tdc

open Effects

/-- What `enable_compensation` writes to the control register. -/
def enableBits (carrierPhase : Bool) : BitVec 32 := if carrierPhase then 5 else 1

/-- `(offset // 10) & 0xFFFFFFFF` -/
def offsetWord (offsetPs : Int) : BitVec 32 := BitVec.ofInt 32 (offsetPs / 10)

/-- The offsets that `enable_compensation` accepts. -/
def AcceptsOffset (offsetPs : Int) : Prop := offsetPs % 10 = 0 ∧ -19990 ≤ offsetPs ∧ offsetPs ≤ 19990

instance (offsetPs : Int) : Decidable (AcceptsOffset offsetPs) := inferInstanceAs (Decidable (_ ∧ _ ∧ _))

def enableCompensation (polls : Nat) (carrierPhase : Bool) (offsetPs : Int) : TdcCall Unit := do
  if AcceptsOffset offsetPs then
    waitIdle polls
    let _ ← writeTdcRegister 0x000c (offsetWord offsetPs)
    let _ ← writeTdcRegister 0x0004 (enableBits carrierPhase)
    let status ← readTdcRegister 0x0008
    if status.getLsbD 2 then pure () else throw (.runtime "Compensation did not enable")
  else throw (.value "Phase offset must be a 10 ps multiple in -19990..19990 ps")

/-- A register bank in which the control register refuses to enable the compensation. -/
def RegisterBank.Locked (b : RegisterBank) (referenceReady : Bool) : Prop :=
  b.armed = true ∨ b.calibrationValid = false ∨ referenceReady = false ∨ b.histogramClearing = true

theorem RegisterBank.unlocked_iff {b : RegisterBank} {referenceReady : Bool} : ¬ b.Locked referenceReady ↔
    b.armed = false ∧ b.calibrationValid = true ∧ referenceReady = true ∧ b.histogramClearing = false := by
  rw [Locked, not_or, not_or, not_or, Bool.not_eq_true, Bool.not_eq_false, Bool.not_eq_false, Bool.not_eq_true]

/-- The access has found an idle calibrated board and has been answered. -/
def AccessEntry.Calm (entry : AccessEntry) : Prop :=
  entry.answered = true ∧ ¬ entry.found.Locked entry.referenceReady

def Enabled (carrierPhase : Bool) (offsetPs : Int) (t : HostSession) : Prop :=
  t.registers.settings.control = (enableBits carrierPhase).extractLsb' 0 3 ∧
    t.registers.settings.phaseOffset.toInt = offsetPs / 10

/-- The call has found a board that was not idle and calibrated or has not been answered; and if it
has been rejected, the control bits and the offset are those before. -/
def Unharmed (s : HostSession) (e : TdcError) (t : HostSession) : Prop :=
  (∃ entry ∈ t.log, ¬ entry.Calm) ∧ ∀ status, e = .deviceStatus status →
    t.registers.settings.control = s.registers.settings.control ∧
      t.registers.settings.phaseOffset = s.registers.settings.phaseOffset

/-- The call enables the compensation unless it finds a board that is not idle and calibrated, or
is not answered; and a call that is rejected leaves the control bits and the offset. -/
def Enables (polls : Nat) (carrierPhase : Bool) (offsetPs : Int) (s : HostSession) : Prop :=
  Ends (enableCompensation polls carrierPhase offsetPs) s (fun _ => Enabled carrierPhase offsetPs) (Unharmed s)

/-- The session after the offset has been written and answered. -/
def HostSession.offsetWritten (s : HostSession) (offsetPs : Int) : HostSession :=
  let performed := s.found.perform (s.turns 0).now ⟨true, 0x000c, offsetWord offsetPs⟩
  s.next ⟨true, 0x000c, offsetWord offsetPs⟩ performed.1 (some performed.2) true

/-- Once the board is found unarmed and the offset is answered: if compensation is on, the board
is not idle and calibrated all the time; if it is off and the control register then refuses, the
offset asked for is the old one. -/
def EnableSupported (polls : Nat) (offsetPs : Int) (s : HostSession) : Prop :=
  ∀ t, waitIdle polls s = .ok () t → (t.turns 0).delivery = .answered → t.found.bank.armed = false →
    (s.registers.bank.compensates = true →
      (∃ entry ∈ t.log, ¬ entry.Calm) ∨ t.found.bank.Locked (t.turns 0).now.referenceReady) ∧
    (s.registers.bank.compensates = false → ((t.offsetWritten offsetPs).turns 0).delivery = .answered →
      (t.offsetWritten offsetPs).found.bank.Locked ((t.offsetWritten offsetPs).turns 0).now.referenceReady →
      s.registers.settings.phaseOffset.toInt = offsetPs / 10)

variable {polls : Nat} {carrierPhase : Bool} {offsetPs : Int} {s t : HostSession}

theorem offsetWord_facts (accepts : AcceptsOffset offsetPs) :
    (offsetWord offsetPs).toInt = offsetPs / 10 ∧ -1999 ≤ (offsetWord offsetPs).toInt ∧
      (offsetWord offsetPs).toInt ≤ 1999 ∧ ((offsetWord offsetPs).extractLsb' 0 16).toInt = offsetPs / 10 := by
  obtain ⟨-, low, high⟩ := accepts
  have value : (offsetWord offsetPs).toInt = offsetPs / 10 := by
    rw [offsetWord, BitVec.toInt_ofInt, Int.bmod_def]
    norm_num
    omega
  refine ⟨value, by omega, by omega, ?_⟩
  have half : (offsetWord offsetPs).extractLsb' 0 16 = BitVec.ofInt 16 (offsetPs / 10) := by
    apply BitVec.eq_of_toNat_eq
    rw [BitVec.extractLsb'_toNat, Nat.shiftRight_zero, offsetWord, BitVec.toNat_ofInt, BitVec.toNat_ofInt]
    omega
  rw [half, BitVec.toInt_ofInt, Int.bmod_def]
  norm_num
  omega

theorem enableBits_facts (carrierPhase : Bool) : (enableBits carrierPhase).extractLsb' 3 29 = 0 ∧
    (enableBits carrierPhase).getLsbD 0 = true ∧ (enableBits carrierPhase).getLsbD 1 = false ∧
      ((enableBits carrierPhase).extractLsb' 0 3).getLsbD 0 = true := by
  cases carrierPhase <;> decide

theorem waitIdle_ends (polls : Nat) (s : HostSession) (some : 0 < polls ∨ ∃ entry ∈ s.log, ¬ entry.Calm) :
    Ends (waitIdle polls) s (fun _ t => t.registers.settings = s.registers.settings)
      (fun e t => (∃ entry ∈ t.log, ¬ entry.Calm) ∧ ∀ status, e ≠ .deviceStatus status) := by
  induction polls generalizing s with
  | zero => exact ⟨some.resolve_left (Nat.lt_irrefl 0), fun _ => nofun⟩
  | succ polls ih =>
    apply Ends.bind
    apply (access_ends ⟨false, 0x0008, 0⟩ s).mono
    · intro status t entered
      obtain ⟨same, -, armed, -, -⟩ := entered.status
      cases waits : s.found.bank.armed with
      | true =>
        rw [armed, waits, if_pos rfl]
        have found : ∃ entry ∈ t.log, ¬ entry.Calm := ⟨_, entered.mem, fun calm => calm.2 (.inl waits)⟩
        exact (ih t (.inr found)).mono (fun _ _ kept => kept.trans same) fun _ _ raised => raised
      | false =>
        rw [armed, waits, if_neg Bool.false_ne_true]
        exact same
    · rintro e t (⟨rfl, reply, entered⟩ | ⟨r, rfl, failed, entered⟩)
      · exact ⟨⟨_, entered.mem, fun calm => Bool.noConfusion calm.1⟩, fun _ => nofun⟩
      · exact absurd entered.status.2.1 failed

theorem Unharmed.of_undelivered {a : Access} {reply : Option Reply} {u : HostSession}
    (entered : Entered t a reply false u) : Unharmed s .transport u :=
  ⟨⟨_, entered.mem, fun calm => Bool.noConfusion calm.1⟩, fun _ => nofun⟩

/-- After an accepted CONTROL write the status shows the compensation on. -/
theorem status_ends (control : t.registers.settings.control = (enableBits carrierPhase).extractLsb' 0 3)
    (offset : t.registers.settings.phaseOffset.toInt = offsetPs / 10) :
    Ends (readTdcRegister 0x0008 >>= fun status =>
      if status.getLsbD 2 then pure () else throw (.runtime "Compensation did not enable")) t
      (fun _ u => Enabled carrierPhase offsetPs u) (Unharmed s) := by
  apply Ends.bind
  apply (access_ends ⟨false, 0x0008, 0⟩ t).mono
  · intro status u entered
    obtain ⟨same, -, -, compensates, -⟩ := entered.status
    have enabled : t.found.bank.compensates = true := by
      have found : t.found.bank.control = t.registers.settings.control := congrArg Settings.control t.found_facts.1
      rw [RegisterBank.compensates, found, control]
      exact (enableBits_facts carrierPhase).2.2.2
    rw [compensates, enabled, if_pos rfl]
    exact ⟨by rw [same, control], by rw [same, offset]⟩
  · rintro e u (⟨rfl, reply, entered⟩ | ⟨r, rfl, failed, entered⟩)
    · exact .of_undelivered entered
    · exact absurd entered.status.2.1 failed

/-! ## The two writes -/

/-- The settings found are those left, whatever has been measured. -/
theorem found_settings (t : HostSession) : t.found.bank.control = t.registers.settings.control ∧
    t.found.bank.calibrationValid = t.registers.settings.calibrationValid :=
  ⟨congrArg Settings.control t.found_facts.1, congrArg Settings.calibrationValid t.found_facts.1⟩

theorem control_iff (control : t.registers.settings.control = s.registers.settings.control)
    (offset : t.registers.settings.phaseOffset.toInt = offsetPs / 10) :
    Ends (writeTdcRegister 0x0004 (enableBits carrierPhase) >>= fun _ => readTdcRegister 0x0008 >>= fun status =>
        if status.getLsbD 2 then pure () else throw (.runtime "Compensation did not enable")) t
        (fun _ => Enabled carrierPhase offsetPs) (Unharmed s) ↔
      ((t.turns 0).delivery = .answered → t.found.bank.Locked (t.turns 0).now.referenceReady →
        s.registers.settings.phaseOffset.toInt = offsetPs / 10) := by
  obtain ⟨high, on, source, -⟩ := enableBits_facts carrierPhase
  unfold Ends
  obtain ⟨undelivered, reply, u, ended, entered⟩ | ⟨answered, failed, u, ended, entered⟩ |
    ⟨answered, accepted, u, -, ended, entered⟩ := access_cases ⟨true, 0x0004, enableBits carrierPhase⟩ t
  · rw [writeTdcRegister, bind_error ended]
    exact iff_of_true (.of_undelivered entered) fun answered => absurd answered undelivered
  · rw [writeTdcRegister, bind_error ended]
    have locked : t.found.bank.Locked (t.turns 0).now.referenceReady := by
      by_contra unlocked
      obtain ⟨unarmed, valid, ready, still⟩ := RegisterBank.unlocked_iff.mp unlocked
      have allowed := (TdcRegisters.control_allowed (s := t.found) (i := (t.turns 0).now) unarmed high
        fun _ => ⟨valid, ready, source, still⟩).2
      exact failed (congrArg Reply.error allowed)
    have kept : u.registers.settings = t.registers.settings := by
      rw [entered.write.1, TdcRegisters.perform_refused failed, t.found_facts.1]
    constructor
    · intro unharmed _ _
      rw [← (unharmed.2 _ rfl).2, kept, offset]
    · intro same
      refine ⟨⟨_, entered.mem, fun calm => calm.2 locked⟩, fun _ _ => ⟨by rw [kept, control], ?_⟩⟩
      rw [kept]
      exact BitVec.eq_of_toInt_eq (offset.trans (same answered locked).symm)
  · have unlocked : ¬ t.found.bank.Locked (t.turns 0).now.referenceReady := by
      intro locked
      refine TdcRegisters.control_refused (s := t.found) (i := (t.turns 0).now) ?_ accepted
      rcases locked with armed | other
      · exact .inl armed
      · exact .inr ⟨on, other⟩
    obtain ⟨unarmed, valid, ready, still⟩ := RegisterBank.unlocked_iff.mp unlocked
    have settings := (TdcRegisters.control_allowed (s := t.found) (i := (t.turns 0).now) unarmed high
      fun _ => ⟨valid, ready, source, still⟩).1
    rw [← entered.write.1, t.found_facts.1] at settings
    refine iff_of_true ?_ fun _ locked => absurd locked unlocked
    rw [writeTdcRegister, bind_ok ended]
    exact status_ends (by rw [settings]) (by rw [settings]; exact offset)

theorem offset_iff (accepts : AcceptsOffset offsetPs) (same : t.registers.settings = s.registers.settings) :
    Ends (writeTdcRegister 0x000c (offsetWord offsetPs) >>= fun _ =>
        writeTdcRegister 0x0004 (enableBits carrierPhase) >>= fun _ => readTdcRegister 0x0008 >>= fun status =>
          if status.getLsbD 2 then pure () else throw (.runtime "Compensation did not enable")) t
        (fun _ => Enabled carrierPhase offsetPs) (Unharmed s) ↔
      ((t.turns 0).delivery = .answered → t.found.bank.armed = false →
        (s.registers.bank.compensates = true →
          (∃ entry ∈ t.log, ¬ entry.Calm) ∨ t.found.bank.Locked (t.turns 0).now.referenceReady) ∧
        (s.registers.bank.compensates = false → ((t.offsetWritten offsetPs).turns 0).delivery = .answered →
          (t.offsetWritten offsetPs).found.bank.Locked ((t.offsetWritten offsetPs).turns 0).now.referenceReady →
          s.registers.settings.phaseOffset.toInt = offsetPs / 10)) := by
  obtain ⟨-, low, high, half⟩ := offsetWord_facts accepts
  have compensates : t.found.bank.compensates = s.registers.bank.compensates := by
    have control := (found_settings t).1
    rw [same] at control
    rw [RegisterBank.compensates, control]
    rfl
  unfold Ends
  obtain ⟨undelivered, reply, u, ended, entered⟩ | ⟨answered, failed, u, ended, entered⟩ |
    ⟨answered, accepted, u, written, ended, entered⟩ := access_cases ⟨true, 0x000c, offsetWord offsetPs⟩ t
  · rw [writeTdcRegister, bind_error ended]
    exact iff_of_true (.of_undelivered entered) fun answered => absurd answered undelivered
  · rw [writeTdcRegister, bind_error ended]
    have kept : u.registers.settings = s.registers.settings := by
      rw [entered.write.1, TdcRegisters.perform_refused failed, t.found_facts.1, same]
    have unharmed : Unharmed s
        (.deviceStatus (t.found.perform (t.turns 0).now ⟨true, 0x000c, offsetWord offsetPs⟩).2.error) u ↔
        (∃ entry ∈ t.log, ¬ entry.Calm) ∨ t.found.bank.Locked (t.turns 0).now.referenceReady := by
      constructor
      · rintro ⟨⟨entry, mem, disturbed⟩, -⟩
        rw [entered.log] at mem
        rcases List.mem_append.mp mem with earlier | last
        · exact .inl ⟨entry, earlier, disturbed⟩
        · rw [List.mem_singleton.mp last] at disturbed
          exact .inr (by_contra fun unlocked => disturbed ⟨rfl, unlocked⟩)
      · intro disturbed
        refine ⟨?_, fun _ _ => ⟨by rw [kept], by rw [kept]⟩⟩
        rcases disturbed with ⟨entry, mem, disturbed⟩ | locked
        · exact ⟨entry, by rw [entered.log]; exact List.mem_append_left _ mem, disturbed⟩
        · exact ⟨_, entered.mem, fun calm => calm.2 locked⟩
    refine unharmed.trans ?_
    cases unarmed : t.found.bank.armed with
    | true => exact iff_of_true (.inr (.inl unarmed)) fun _ => by rintro ⟨⟩
    | false =>
      cases on : s.registers.bank.compensates with
      | false =>
        have allowed := (TdcRegisters.offset_allowed (s := t.found) (i := (t.turns 0).now) unarmed
          (compensates.trans on) low high).2
        exact absurd (congrArg Reply.error allowed) failed
      | true =>
        constructor
        · exact fun disturbed _ _ => ⟨fun _ => disturbed, by rintro ⟨⟩⟩
        · exact fun supported => (supported answered rfl).1 rfl
  · have free : t.found.bank.armed = false ∧ t.found.bank.compensates = false := by
      constructor
      · exact Bool.eq_false_iff.mpr fun armed => TdcRegisters.offset_refused (.inl armed) accepted
      · exact Bool.eq_false_iff.mpr fun on => TdcRegisters.offset_refused (.inr on) accepted
    have settings := (TdcRegisters.offset_allowed (s := t.found) (i := (t.turns 0).now) free.1 free.2 low high).1
    rw [← entered.write.1, t.found_facts.1, same] at settings
    rw [writeTdcRegister, bind_ok ended]
    refine (control_iff (s := s) (t := u) (by rw [settings]) (by rw [settings]; exact half)).trans ?_
    have same_session : t.offsetWritten offsetPs = u := written.symm
    rw [same_session]
    constructor
    · intro supported _ _
      exact ⟨fun on => Bool.noConfusion (free.2.symm.trans (compensates.trans on)), fun _ => supported⟩
    · intro supported
      exact (supported answered free.1).2 (compensates.symm.trans free.2)

/-! ## The call -/

/-- Among all boards, and whatever is measured between the accesses, the call does what it should
exactly if compensation is off, or the board is not idle and calibrated anyway, and no refusal of
the control register comes after a change of the offset. -/
theorem enable_iff (registers : TdcRegisters) (turns : Nat → Turn) (polls : Nat) (carrierPhase : Bool)
    (offsetPs : Int) (accepts : AcceptsOffset offsetPs) :
    Enables (polls + 1) carrierPhase offsetPs ⟨registers, turns, []⟩ ↔
      EnableSupported (polls + 1) offsetPs ⟨registers, turns, []⟩ := by
  have waited := waitIdle_ends (polls + 1) ⟨registers, turns, []⟩ (.inl (Nat.zero_lt_succ polls))
  rw [Enables, enableCompensation, if_pos accepts, EnableSupported]
  unfold Ends at waited ⊢
  cases ended : waitIdle (polls + 1) ⟨registers, turns, []⟩ with
  | error e t =>
    rw [ended] at waited
    rw [bind_error ended]
    exact iff_of_true ⟨waited.1, fun status rejected => absurd rejected (waited.2 status)⟩ fun _ => nofun
  | ok u t =>
    rw [ended] at waited
    rw [bind_ok ended]
    refine (offset_iff accepts waited).trans ?_
    constructor
    · intro supported t' same
      obtain ⟨-, rfl⟩ := EStateM.Result.ok.inj same
      exact supported
    · exact fun supported => supported t rfl

/-! ## Two calls -/

/-- An edge at which nothing is measured, the reference being ready and nothing armed. -/
def calmEdge : BankIn where
  armedDac := false
  referenceReady := true
  monitorToggle := false
  monitorData := 0
  eventValid := false
  eventGood := false
  eventOverflow := false
  eventBubble := false
  eventEpoch := 0
  eventPhase := 0
  eventTap := 0
  calibRdData := 0

def calmTurn : Turn := ⟨calmEdge, [], calmEdge, .answered⟩

/-- A table has been loaded, and the histogram is clear. -/
def loaded : TdcRegisters where
  bank := { RegisterBank.reset fun _ => 0 with
    calibrationValid := true
    writtenCount := 2048
    previousEntry := 500
    calibrationRevision := 1
    histogramClearing := false
    histogramClearAddress := 2047 }
  table index := if index.toNat < 1024 then 0 else 500

theorem enable_loaded : Enables 1 true 10 ⟨loaded, fun _ => calmTurn, []⟩ := by
  refine (enable_iff loaded (fun _ => calmTurn) 0 true 10 (by decide)).mpr ?_
  intro t waited _ _
  obtain ⟨-, rfl⟩ := EStateM.Result.ok.inj (waited.symm.trans
    (rfl : waitIdle 1 ⟨loaded, fun _ => calmTurn, []⟩ = .ok () _))
  exact ⟨nofun, fun _ _ locked => absurd locked (RegisterBank.unlocked_iff.mpr (by decide))⟩

/-- A second call that only changes the offset is rejected, compensation being on. -/
theorem second_call_rejected : ∃ t, enableCompensation 1 true 0 ⟨loaded, fun _ => calmTurn, []⟩ = .ok () t ∧
    ¬ Enables 1 true 10 ⟨t.registers, fun _ => calmTurn, []⟩ := by
  refine ⟨_, rfl, fun enables => ?_⟩
  obtain ⟨⟨entry, mem, disturbed⟩, -⟩ := enables
  rcases mem with _ | ⟨_, _ | ⟨_, none⟩⟩
  · exact disturbed ⟨rfl, RegisterBank.unlocked_iff.mpr (by decide)⟩
  · exact disturbed ⟨rfl, RegisterBank.unlocked_iff.mpr (by decide)⟩
  · cases none

end Xczu47dr.Tdc
