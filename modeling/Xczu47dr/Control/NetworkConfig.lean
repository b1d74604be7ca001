import Mathlib.Tactic.SplitIfs
import Xczu47dr.Control.RiscvControl

/-! # The network configuration

`network_config_pl`: a `NETWORK_APPLY` stages an identity, a `NETWORK_RESTART`
commits it after a delay, and the first identity comes from the DNA of the device.
(The reader of the DNA runs on a clock of its own; its outputs are inputs here.)
-/

namespace Xczu47dr.Control

/-- The identity of the board on the network. -/
structure NetworkIdentity where
  ip : BitVec 32
  mac : BitVec 64
  subnet : BitVec 32
  gateway : BitVec 32
  port : BitVec 16
  deriving DecidableEq

/-- The outputs of the DNA reader, `dna_ready_dna` to `dna_ip_dna`. -/
structure Dna where
  ready : Bool
  uid : BitVec 64
  mac : BitVec 48
  ip : BitVec 16
  deriving Inhabited

/-- What `network_config_pl` samples at one clock edge. -/
structure NetworkIn where
  applyStart : Bool
  apply : NetworkRequest
  restartStart : Bool
  playbackArmed : Bool
  playbackPrepared : Bool
  playbackRunning : Bool
  dna : Dna

structure NetworkConfig where
  busy : Bool
  done : Bool
  status : BitVec 16
  resultRevision : BitVec 32
  current : NetworkIdentity
  clearArpCache : Bool
  networkRestartPulse : Bool
  deviceUid : BitVec 64
  bootstrapMac : BitVec 64
  shadow : NetworkIdentity
  shadowRevision : BitVec 32
  shadowValid : Bool
  restartPending : Bool
  operationAckPending : Bool
  ackReleaseBusy : Bool
  restartCount : Nat
  dnaSync1 : Dna
  dnaSync2 : Dna
  dnaReady : Bool

/-- What a response shows of the network besides its status. -/
structure NetworkReport where
  revision : BitVec 32
  identity : NetworkIdentity
  deviceUid : BitVec 64
  bootstrapMac : BitVec 64
  deriving DecidableEq

namespace NetworkConfig

def statusOk : BitVec 16 := 0x0000
def statusBusy : BitVec 16 := 0x0004
def statusUnsafe : BitVec 16 := 0x0006
def statusRange : BitVec 16 := 0x0007

def defaultMac : BitVec 64 := 0x0200000000000001

def defaultIdentity : NetworkIdentity := ⟨0xA9FEFEFE, defaultMac, 0xFFFF0000, 0, 1234⟩

/-- `RESTART_DELAY_CYCLES` -/
def restartDelayCycles : Nat := 1024

def reset : NetworkConfig where
  busy := false
  done := false
  status := statusOk
  resultRevision := 0
  current := defaultIdentity
  clearArpCache := false
  networkRestartPulse := false
  deviceUid := 0
  bootstrapMac := defaultMac
  shadow := defaultIdentity
  shadowRevision := 0
  shadowValid := false
  restartPending := false
  operationAckPending := false
  ackReleaseBusy := false
  restartCount := 0
  dnaSync1 := ⟨false, 0, 0, 0⟩
  dnaSync2 := ⟨false, 0, 0, 0⟩
  dnaReady := false

variable (s t : NetworkConfig) (i : NetworkIn)

def report : NetworkReport := ⟨s.resultRevision, s.current, s.deviceUid, s.bootstrapMac⟩

/-- `dna_default_ip`: the link-local network, no octet of the host part being 0 or 255. -/
def dnaDefaultIp (fold : BitVec 16) : BitVec 32 :=
  let high := fold.extractLsb' 8 8
  let low := fold.extractLsb' 0 8
  let octet2 : BitVec 8 := if high = 0x00 ∨ high = 0xFF then 0xFE else high
  let octet3 : BitVec 8 := if low = 0x00 ∨ low = 0xFF then 0x7E else low
  169#8 ++ 254#8 ++ (if fold = 0xFA0B then 0xFE7E else octet2 ++ octet3)

/-- `dna_default_mac` -/
def dnaDefaultMac (mac : BitVec 48) : BitVec 48 :=
  if mac = 0 then defaultMac.extractLsb' 0 48 else 0x02#8 ++ mac.extractLsb' 0 40

/-! ## The stages of a cycle

Each reads the registers `s` of the cycle before and updates `t`, what the earlier
stages have made of them. -/

def clearPulses : NetworkConfig :=
  { s with
    done := false
    clearArpCache := false
    networkRestartPulse := false
    dnaSync1 := i.dna
    dnaSync2 := s.dnaSync1 }

/-- The acknowledgement comes one cycle after the operation. -/
def acknowledge : NetworkConfig :=
  if s.operationAckPending then
    { t with
      operationAckPending := false
      done := true
      busy := t.busy && !s.ackReleaseBusy
      ackReleaseBusy := false }
  else t

def commits : Bool := s.restartPending && decide (restartDelayCycles - 1 ≤ s.restartCount)

/-- A restart waits until its acknowledgement is out, then commits the identity. -/
def restart : NetworkConfig :=
  if s.commits then
    { t with
      current := s.shadow
      resultRevision := s.shadowRevision
      clearArpCache := true
      networkRestartPulse := true
      restartPending := false
      restartCount := 0
      busy := false }
  else if s.restartPending then { t with restartCount := s.restartCount + 1 }
  else t

/-- The DNA has been read and not been taken. -/
def takesDna : Bool := !s.dnaReady && s.dnaSync2.ready

def takeDna : NetworkConfig :=
  if s.takesDna then
    let ip := dnaDefaultIp s.dnaSync2.ip
    let mac := 0#16 ++ dnaDefaultMac s.dnaSync2.mac
    { t with
      deviceUid := s.dnaSync2.uid
      current := { t.current with ip := ip, mac := mac, subnet := 0xFFFF0000 }
      shadow := { t.shadow with ip := ip, mac := mac, subnet := 0xFFFF0000 }
      bootstrapMac := mac
      dnaReady := true }
  else t

def answer (status : BitVec 16) : NetworkConfig :=
  { t with status := status, operationAckPending := true, ackReleaseBusy := false }

/-- The identity of an apply is out of range. -/
def outOfRange : Bool :=
  i.apply.ip == 0 || i.apply.mac.extractLsb' 0 48 == 0 || i.apply.mac.extractLsb' 40 8 == 0xFF ||
    i.apply.mac.getLsbD 40 || i.apply.port == 0 || i.apply.subnet == 0

def playbackActive : Bool := i.playbackArmed || i.playbackPrepared || i.playbackRunning

/-- An apply is taken and its identity staged. -/
def stages : Bool := !s.restartPending && i.applyStart && !s.busy && !playbackActive i && !outOfRange i

def operate : NetworkConfig :=
  if !s.restartPending && i.applyStart then
    if s.busy then t.answer statusBusy
    else if playbackActive i then t.answer statusUnsafe
    else if outOfRange i then t.answer statusRange
    else
      { t with
        busy := true
        shadow := ⟨i.apply.ip, 0#16 ++ i.apply.mac.extractLsb' 0 48, i.apply.subnet, i.apply.gateway, i.apply.port⟩
        shadowRevision := i.apply.revision
        shadowValid := true
        resultRevision := i.apply.revision
        status := statusOk
        operationAckPending := true
        ackReleaseBusy := true }
  else if !s.restartPending && i.restartStart then
    if s.busy then t.answer statusBusy
    else if playbackActive i then t.answer statusUnsafe
    else if s.shadowValid then
      { t with
        resultRevision := s.shadowRevision
        restartPending := true
        restartCount := 0
        busy := true
        status := statusOk
        operationAckPending := true
        ackReleaseBusy := false }
    else t.answer statusOk
  else t

def settle : NetworkConfig := s.takeDna (s.restart (s.acknowledge (s.clearPulses i)))

/-- One clock edge of `network_config_pl`. -/
def step : NetworkConfig := s.operate (s.settle i) i

/-! ## What a cycle changes -/

def takes : Bool := !s.restartPending && (i.applyStart || i.restartStart)

variable {s t i}

/-- A restart that waits keeps the controller busy, and a staged identity shows its revision. -/
structure Coherent (s : NetworkConfig) : Prop where
  busy : s.restartPending = true → s.busy = true
  revision : s.shadowValid = true → s.resultRevision = s.shadowRevision
  held : s.restartPending = true → s.ackReleaseBusy = false

/-- What the stages before an operation leave of the registers a response depends on. -/
structure Settled (s t : NetworkConfig) : Prop where
  done : t.done = s.operationAckPending
  unacked : t.operationAckPending = false
  status : t.status = s.status
  pending : t.restartPending = (s.restartPending && !s.commits)
  shadowValid : t.shadowValid = s.shadowValid
  shadowRevision : t.shadowRevision = s.shadowRevision

theorem settled (s : NetworkConfig) (i : NetworkIn) :
    Settled s (s.settle i) := by
  have acknowledged : (s.acknowledge (s.clearPulses i)).done = s.operationAckPending ∧
      (s.acknowledge (s.clearPulses i)).operationAckPending = false ∧
      (s.acknowledge (s.clearPulses i)).status = s.status ∧
      (s.acknowledge (s.clearPulses i)).restartPending = s.restartPending ∧
      (s.acknowledge (s.clearPulses i)).shadowValid = s.shadowValid ∧
      (s.acknowledge (s.clearPulses i)).shadowRevision = s.shadowRevision := by
    rw [acknowledge]
    cases acked : s.operationAckPending with
    | false => exact ⟨rfl, acked, rfl, rfl, rfl, rfl⟩
    | true => exact ⟨rfl, rfl, rfl, rfl, rfl, rfl⟩
  obtain ⟨done, unacked, status, pending, valid, revision⟩ := acknowledged
  have restarted : Settled s (s.restart (s.acknowledge (s.clearPulses i))) := by
    rw [restart]
    cases commits : s.commits with
    | true => exact ⟨done, unacked, status, by rw [commits, Bool.not_true, Bool.and_false]; rfl, valid, revision⟩
    | false =>
      have still : s.restartPending = (s.restartPending && !s.commits) := by
        rw [commits, Bool.not_false, Bool.and_true]
      cases waits : s.restartPending with
      | true => exact ⟨done, unacked, status, pending.trans still, valid, revision⟩
      | false => exact ⟨done, unacked, status, pending.trans still, valid, revision⟩
  rw [settle, takeDna]
  split_ifs
  · exact ⟨restarted.done, restarted.unacked, restarted.status, restarted.pending, restarted.shadowValid,
      restarted.shadowRevision⟩
  · exact restarted

/-- What an operation makes of the registers `t`. -/
inductive Operation (s t : NetworkConfig) (i : NetworkIn) : NetworkConfig → Prop
  | rests : s.takes i = false → Operation s t i t
  | answered (status : BitVec 16) : s.takes i = true → Operation s t i (t.answer status)
  | staged : s.takes i = true → s.stages i = true → Operation s t i
      { t with
        busy := true
        shadow := ⟨i.apply.ip, 0#16 ++ i.apply.mac.extractLsb' 0 48, i.apply.subnet, i.apply.gateway, i.apply.port⟩
        shadowRevision := i.apply.revision
        shadowValid := true
        resultRevision := i.apply.revision
        status := statusOk
        operationAckPending := true
        ackReleaseBusy := true }
  | restarting : s.takes i = true → s.shadowValid = true → Operation s t i
      { t with
        resultRevision := s.shadowRevision
        restartPending := true
        restartCount := 0
        busy := true
        status := statusOk
        operationAckPending := true
        ackReleaseBusy := false }

theorem step_operation (s : NetworkConfig) (i : NetworkIn) : Operation s (s.settle i) i (s.step i) := by
  unfold step operate
  split_ifs with apply busy active wrong restart busy active valid
  · exact .answered _ (by simp_all [takes])
  · exact .answered _ (by simp_all [takes])
  · exact .answered _ (by simp_all [takes])
  · exact .staged (by simp_all [takes]) (by simp_all [stages])
  · exact .answered _ (by simp_all [takes])
  · exact .answered _ (by simp_all [takes])
  · exact .restarting (by simp_all [takes]) valid
  · exact .answered _ (by simp_all [takes])
  · exact .rests (by cases waits : s.restartPending <;> simp_all [takes])

theorem takes_unpending (takes : s.takes i = true) : s.restartPending = false := by
  rw [NetworkConfig.takes, Bool.and_eq_true, Bool.not_eq_true'] at takes
  exact takes.1

/-- An operation is done two cycles after it is taken, and only then. -/
theorem step_done : (s.step i).done = s.operationAckPending := by
  rw [← (settled s i).done]
  have operation := step_operation s i
  generalize s.step i = u at operation
  cases operation <;> rfl

theorem step_operationAckPending : (s.step i).operationAckPending = s.takes i := by
  have unacked := (settled s i).unacked
  have operation := step_operation s i
  generalize s.step i = u at operation
  cases operation with
  | rests rests => rw [unacked, rests]
  | answered _ takes | staged takes _ | restarting takes _ => exact takes.symm

/-- Only an operation changes the status. -/
theorem step_status (rests : s.takes i = false) : (s.step i).status = s.status := by
  rw [← (settled s i).status]
  have operation := step_operation s i
  generalize s.step i = u at operation
  cases operation with
  | rests _ => rfl
  | answered _ takes | staged takes _ | restarting takes _ => exact Bool.noConfusion (rests.symm.trans takes)

theorem step_restartPending (rests : s.takes i = false) (waits : s.restartPending = false) :
    (s.step i).restartPending = false := by
  have pending := (settled s i).pending
  rw [waits, Bool.false_and] at pending
  have operation := step_operation s i
  generalize s.step i = u at operation
  cases operation with
  | rests _ => exact pending
  | answered _ takes | staged takes _ | restarting takes _ => exact Bool.noConfusion (rests.symm.trans takes)

theorem report_settled (kept : s.commits = false) (known : s.takesDna = false) :
    (s.settle i).report = s.report := by
  have acknowledged : (s.acknowledge (s.clearPulses i)).report = s.report := by
    rw [acknowledge]
    split_ifs <;> rfl
  rw [settle, takeDna, known, restart, kept, if_neg Bool.false_ne_true, if_neg Bool.false_ne_true]
  split_ifs <;> exact acknowledged

/-- Only a staged identity, a commit or the DNA changes what a response shows. -/
theorem step_report (coherent : s.Coherent) (kept : s.commits = false) (known : s.takesDna = false)
    (unstaged : s.stages i = false) : (s.step i).report = s.report := by
  rw [← report_settled (i := i) kept known]
  have operation := step_operation s i
  generalize s.step i = u at operation
  cases operation with
  | rests _ | answered _ _ => rfl
  | staged _ stages => exact Bool.noConfusion (unstaged.symm.trans stages)
  | restarting _ valid =>
    -- the staged revision is shown already
    have shown := congrArg NetworkReport.revision (report_settled (i := i) kept known)
    change _ = s.resultRevision at shown
    rw [report, ← coherent.revision valid, ← shown]
    rfl

theorem coherent_reset : Coherent reset := by
  constructor <;> exact fun impossible => absurd impossible (by decide)

theorem Coherent.step (coherent : s.Coherent) (i : NetworkIn) : (s.step i).Coherent := by
  obtain ⟨-, -, -, pending, valid, shadow⟩ := settled s i
  have busy : (s.settle i).restartPending = true →
      (s.settle i).busy = true ∧ (s.settle i).ackReleaseBusy = false := by
    intro waits
    rw [pending, Bool.and_eq_true, Bool.not_eq_true'] at waits
    obtain ⟨waits, kept⟩ := waits
    have busy := coherent.busy waits
    have held := coherent.held waits
    rw [settle, takeDna, restart, kept, waits, acknowledge]
    split_ifs <;> simp_all [clearPulses]
  have revision : s.shadowValid = true → (s.settle i).resultRevision = s.shadowRevision := by
    intro valid
    have shown := coherent.revision valid
    rw [settle, takeDna, restart, acknowledge]
    split_ifs <;> first | rfl | exact shown
  have operation := step_operation s i
  generalize s.step i = u at operation
  cases operation with
  | rests _ =>
    exact ⟨fun waits => (busy waits).1, fun now => (revision (valid ▸ now)).trans shadow.symm, fun waits => (busy waits).2⟩
  | answered _ _ =>
    exact ⟨fun waits => (busy waits).1, fun now => (revision (valid ▸ now)).trans shadow.symm, fun _ => rfl⟩
  | staged takes _ =>
    refine ⟨fun _ => rfl, fun _ => rfl, fun waits => ?_⟩
    change (s.settle i).restartPending = true at waits
    rw [pending, takes_unpending takes, Bool.false_and] at waits
    exact absurd waits Bool.false_ne_true
  | restarting _ _ => exact ⟨fun _ => rfl, fun _ => shadow.symm, fun _ => rfl⟩

end NetworkConfig

end Xczu47dr.Control
