import Mathlib.Tactic.IntervalCases
import Xczu47dr.Rfdc.AllOrNothing
import Xczu47dr.Signed.Rounding

/-! # The simulated readback

`BoardGateway.rfdc_apply` in simulation mode beside `rfdc_runtime_config_pl`.  Both
turn a frequency, a phase and a current into words; the simulation rounds the quotients
down and its current to the nearest microampere, the controller works on magnitudes and
drops every fraction.
-/

namespace Xczu47dr.Rfdc

open Clocked Machine Control Signed RuntimeConfig

/-- What `rfdc_apply` reads of an `RfdcChannelConfig`, its decimals being exact. -/
structure RfdcChannelConfig where
  channel : Nat
  ncoHz : ℚ
  nyquistZone : Nat
  ncoPhaseDeg : ℚ
  dacOutputCurrentMa : ℚ

/-- A channel of the simulated response; the fields in degrees and in milliamperes repeat others. -/
structure SimulatedChannel where
  channel : Nat
  ncoHz : Int
  nyquistZone : Nat
  ncoPhaseMdeg : Int
  dacOutputCurrentUa : Int
  ncoWord : Int
  phaseWord : Int
  vopCode : Int
  deriving DecidableEq

namespace BoardGateway

/-- `normalize_rfdc_phase_mdeg` -/
def normalizeRfdcPhaseMdeg (phaseDeg : ℚ) : Int :=
  let phase := (phaseDeg + 180 - 360 * ⌊(phaseDeg + 180) / 360⌋) - 180
  roundHalfEven (phase * 1000)

/-- The channel as the simulation knows it: the last one of that number, or none. -/
def previousChannel (previous : List SimulatedChannel) (channel : Nat) : SimulatedChannel :=
  (previous.reverse.find? fun item => item.channel == channel).getD ⟨channel, 0, 0, 0, 0, 0, 0, 0⟩

/-- One turn of the loop over the channels. -/
def simulatedChannel (previous : List SimulatedChannel) (channelMask : BitVec 8) (item : RfdcChannelConfig) :
    SimulatedChannel :=
  if !channelMask.getLsbD (item.channel - 1) then previousChannel previous item.channel
  else
    let phaseMdeg := normalizeRfdcPhaseMdeg item.ncoPhaseDeg
    let vopCode := max 0 (truncate ((item.dacOutputCurrentMa * 1000 - 1400) / (175 / 4)))
    { channel := item.channel
      ncoHz := roundHalfEven item.ncoHz
      nyquistZone := item.nyquistZone
      ncoPhaseMdeg := phaseMdeg
      dacOutputCurrentUa := roundHalfEven (1400 + vopCode * (175 / 4))
      ncoWord := roundHalfEven item.ncoHz * 2 ^ 48 / 6400000000 % 2 ^ 48
      phaseWord := phaseMdeg * 2 ^ 17 / 180000 % 2 ^ 18
      vopCode := vopCode }

/-- `rfdc_apply` in simulation mode: the channels of the response, in the order of their numbers. -/
def rfdcApply (previous : List SimulatedChannel) (channels : List RfdcChannelConfig) (channelMask : BitVec 8) :
    List SimulatedChannel :=
  (channels.mergeSort fun a b => a.channel ≤ b.channel).map (simulatedChannel previous channelMask)

end BoardGateway

open BoardGateway

/-- The channel of a command that the host packs for the item. -/
structure Packs (item : RfdcChannelConfig) (cmd : RfdcRequest) (c : Fin 8) : Prop where
  ncoHz : (cmd.ncoHz c).toInt = roundHalfEven item.ncoHz
  phaseMdeg : (cmd.phaseMdeg c).toInt = normalizeRfdcPhaseMdeg item.ncoPhaseDeg
  currentUa : ((cmd.currentUa c).toNat : ℚ) = item.dacOutputCurrentMa * 1000

/-- The simulated words and the reported ones are the same. -/
structure Agrees (simulated : SimulatedChannel) (reported : ChannelReport) : Prop where
  ncoWord : simulated.ncoWord = reported.ncoWord.toNat
  phaseWord : simulated.phaseWord = reported.phaseWord.toNat
  vopCode : simulated.vopCode = reported.vopCode.toNat
  currentUa : simulated.dacOutputCurrentUa = reported.currentUa.toNat

/-- The frequency and the phase are not negative or have exact words, and the current is in one of
    the parts of each 350 microamperes whose code has a current that is not rounded up. -/
structure Exact (hz mdeg : Int) (ua : Nat) : Prop where
  ncoHz : 0 ≤ hz ∨ 390625 ∣ hz
  phaseMdeg : 0 ≤ mdeg ∨ 5625 ∣ mdeg
  currentUa : (ua - 1400) % 350 < 44 ∨ 132 ≤ (ua - 1400) % 350 ∧ (ua - 1400) % 350 < 219 ∨ 263 ≤ (ua - 1400) % 350

/-! ## The conversions -/

theorem toNat_padded {k w : Nat} (z : Int) : ((0#k ++ BitVec.ofInt w z).toNat : Int) = z % (2 ^ w : Nat) := by
  have pos : ((2 ^ w : Nat) : Int) ≠ 0 := by exact_mod_cast (Nat.two_pow_pos w).ne'
  rw [BitVec.toNat_append, BitVec.toNat_ofNat, Nat.zero_mod, Nat.zero_shiftLeft, Nat.zero_or, BitVec.toNat_ofInt,
    Int.toNat_of_nonneg (Int.emod_nonneg z pos)]

/-- The words of a number scaled up and divided. -/
theorem word_agrees {k w : Nat} (z : Int) (scale d : Nat) (wide : w ≠ 0) (pos : 0 < d) (up : 0 < scale) :
    z * scale / d % (2 ^ w : Nat) =
        ((0#k ++ BitVec.ofInt w (z.sign * (z.natAbs * scale / d : Nat))).toNat : Int) ↔
      0 ≤ z ∨ (d : Int) ∣ z * scale := by
  have positive : (0 : Int) < scale := Int.natCast_pos.mpr up
  have quotient : z.sign * (z.natAbs * scale / d : Nat) = (z * scale).tdiv d := by
    rw [tdiv_eq_sign_mul, Int.natAbs_mul, Int.natAbs_natCast, Int.sign_mul, Int.sign_eq_one_of_pos positive,
      mul_one]
  rw [quotient, toNat_padded, emod_ediv_eq_tdiv pos (Nat.one_lt_two_pow wide)]
  exact or_congr_left (mul_nonneg_iff_of_pos_right positive)

theorem ncoWord_agrees (hz : BitVec 64) :
    hz.toInt * 2 ^ 48 / 6400000000 % 2 ^ 48 = ((0#16 ++ ncoWordOf hz).toNat : Int) ↔
      0 ≤ hz.toInt ∨ 390625 ∣ hz.toInt := by
  refine (word_agrees hz.toInt (2 ^ 48) 6400000000 (by decide) (by decide) (by decide)).trans (or_congr_right ?_)
  exact dvd_scaled hz.toInt (q := 390625) (s := 2 ^ 34) (g := 2 ^ 14) (by decide) (by decide)

theorem phaseWord_agrees (mdeg : BitVec 32) :
    mdeg.toInt * 2 ^ 17 / 180000 % 2 ^ 18 = ((0#14 ++ phaseWordOf mdeg).toNat : Int) ↔
      0 ≤ mdeg.toInt ∨ 5625 ∣ mdeg.toInt := by
  refine (word_agrees mdeg.toInt (2 ^ 17) 180000 (by decide) (by decide) (by decide)).trans (or_congr_right ?_)
  exact dvd_scaled mdeg.toInt (q := 5625) (s := 2 ^ 12) (g := 2 ^ 5) (by decide) (by decide)

theorem vopCode_agrees {ua : Nat} (low : 1400 ≤ ua) :
    max 0 (truncate (((ua : ℚ) - 1400) / (175 / 4))) = codeOf ua := by
  have quarters : ((ua : ℚ) - 1400) / (175 / 4) = (((ua - 1400) * 4 : Nat) : Int) / ((175 : Nat) : ℚ) := by
    push_cast [low]
    ring
  have nonneg : (0 : ℚ) ≤ (((ua - 1400) * 4 : Nat) : Int) / ((175 : Nat) : ℚ) :=
    div_nonneg (by exact_mod_cast Nat.zero_le _) (Nat.cast_nonneg _)
  have floor : truncate (((ua : ℚ) - 1400) / (175 / 4)) = ((ua - 1400) * 4 : Nat) / (175 : Nat) :=
    (congrArg truncate quarters).trans ((truncate_of_nonneg nonneg).trans (Rat.floor_intCast_div_natCast _ _))
  rw [floor, codeOf]
  push_cast
  omega

/-- The current of a code is rounded on the one side, and its fraction dropped on the other. -/
theorem currentUa_agrees (code : Nat) :
    roundHalfEven (1400 + (code : ℚ) * (175 / 4)) = ((1400 + code * 175 / 4 : Nat) : Int) ↔
      code % 8 ∉ [1, 2, 5] := by
  have quarters : 1400 + (code : ℚ) * (175 / 4) = ((5600 + code * 175 : Nat) : Int) / ((4 : Nat) : ℚ) := by
    push_cast
    ring
  -- eight codes are 350 microamperes
  obtain ⟨k, r, small, rfl⟩ : ∃ k r, r < 8 ∧ code = 8 * k + r := ⟨code / 8, code % 8, by omega, by omega⟩
  have fraction : (8 * k + r) * 175 = 4 * (350 * k) + r * 175 := by ring
  have rest : (8 * k + r) % 8 = r := by omega
  rw [quarters, roundHalfEven_div _ (by decide), fraction, rest]
  push_cast
  interval_cases r <;> simp <;> omega

/-- Of the eight codes of 350 microamperes three have a current that is rounded up. -/
theorem codeOf_kept (ua : Nat) : codeOf ua % 8 ∉ [1, 2, 5] ↔
    (ua - 1400) % 350 < 44 ∨ 132 ≤ (ua - 1400) % 350 ∧ (ua - 1400) % 350 < 219 ∨ 263 ≤ (ua - 1400) % 350 := by
  rw [codeOf]
  generalize ua - 1400 = extra
  have code : extra * 4 / 175 = extra % 350 * 4 / 175 + 8 * (extra / 350) := by omega
  have small : extra % 350 * 4 / 175 < 8 := by omega
  rw [code, Nat.add_mul_mod_self_left, Nat.mod_eq_of_lt small]
  simp only [List.mem_cons, List.not_mem_nil, or_false]
  omega

/-! ## A response -/

/-- A channel of the request, on both sides. -/
theorem agrees_iff {previous : List SimulatedChannel} {cmd : RfdcRequest} {item : RfdcChannelConfig} {c : Fin 8}
    (valid : validationErrorMask cmd = 0) (own : item.channel = c + 1) (packs : Packs item cmd c)
    (requested : cmd.channelMask.getLsbD c = true) :
    Agrees (simulatedChannel previous cmd.channelMask item) ((requestOf cmd).report c) ↔
      Exact (cmd.ncoHz c).toInt (cmd.phaseMdeg c).toInt (cmd.currentUa c).toNat := by
  have range := inRange_of_valid cmd valid c requested
  have code : max 0 (truncate ((item.dacOutputCurrentMa * 1000 - 1400) / (175 / 4))) =
      codeOf (cmd.currentUa c).toNat := by
    rw [← packs.currentUa]
    exact vopCode_agrees (by omega)
  have fits : codeOf (cmd.currentUa c).toNat < 1024 := codeOf_lt (by omega)
  have current : (BitVec.ofNat 32 (1400 + codeOf (cmd.currentUa c).toNat * 175 / 4)).toNat =
      1400 + codeOf (cmd.currentUa c).toNat * 175 / 4 := by
    rw [BitVec.toNat_ofNat, Nat.mod_eq_of_lt (by omega)]
  have whole : (BitVec.ofNat 32 (codeOf (cmd.currentUa c).toNat)).toNat = codeOf (cmd.currentUa c).toNat := by
    rw [BitVec.toNat_ofNat, Nat.mod_eq_of_lt (by omega)]
  have hit : (!cmd.channelMask.getLsbD (item.channel - 1)) = false := by
    rw [own, Nat.add_sub_cancel, requested]
    rfl
  have simulated : simulatedChannel previous cmd.channelMask item =
      { channel := item.channel
        ncoHz := (cmd.ncoHz c).toInt
        nyquistZone := item.nyquistZone
        ncoPhaseMdeg := (cmd.phaseMdeg c).toInt
        dacOutputCurrentUa := roundHalfEven (1400 + (codeOf (cmd.currentUa c).toNat : ℚ) * (175 / 4))
        ncoWord := (cmd.ncoHz c).toInt * 2 ^ 48 / 6400000000 % 2 ^ 48
        phaseWord := (cmd.phaseMdeg c).toInt * 2 ^ 17 / 180000 % 2 ^ 18
        vopCode := codeOf (cmd.currentUa c).toNat } := by
    rw [simulatedChannel, hit, if_neg Bool.false_ne_true, packs.ncoHz, packs.phaseMdeg, code]
    rfl
  rw [simulated]
  constructor
  · rintro ⟨ncoWord, phaseWord, -, currentUa⟩
    refine ⟨(ncoWord_agrees _).mp ncoWord, (phaseWord_agrees _).mp phaseWord, (codeOf_kept _).mp ?_⟩
    exact (currentUa_agrees _).mp (currentUa.trans (congrArg Nat.cast current))
  · rintro ⟨ncoHz, phaseMdeg, currentUa⟩
    refine ⟨(ncoWord_agrees _).mpr ncoHz, (phaseWord_agrees _).mpr phaseMdeg, congrArg Nat.cast whole.symm, ?_⟩
    exact ((currentUa_agrees _).mpr ((codeOf_kept _).mpr currentUa)).trans (congrArg Nat.cast current.symm)

theorem previousChannel_channel (previous : List SimulatedChannel) (channel : Nat) :
    (previousChannel previous channel).channel = channel := by
  rw [previousChannel]
  cases found : previous.reverse.find? fun item => item.channel == channel with
  | none => rfl
  | some item =>
    have own := List.find?_some found
    exact beq_iff_eq.mp own

theorem simulatedChannel_channel (previous : List SimulatedChannel) (mask : BitVec 8) (item : RfdcChannelConfig) :
    (simulatedChannel previous mask item).channel = item.channel := by
  rw [simulatedChannel]
  split_ifs
  · exact previousChannel_channel previous item.channel
  · rfl

/-- After an apply that is confirmed, and with the other channels the same on both sides before, the
    simulated response shows what the controller reports if and only if every channel of the request
    is exact. -/
theorem simulated_readback (p : RuntimeParams) (inputs : Nat → RuntimeIn) {n m : Nat}
    {previous : List SimulatedChannel} {channels : List RfdcChannelConfig}
    (taken : Taken ((runtimeConfig p).trace inputs) inputs n) (ended : Over ((runtimeConfig p).trace inputs) n m)
    (new : ((runtimeConfig p).trace inputs n).kept ≠ some ((inputs n).cmd.sequence, (inputs n).cmd.revision))
    (ok : ((runtimeConfig p).trace inputs m).result.status = stOk) (valid : validationErrorMask (inputs n).cmd = 0)
    (packs : ∀ item ∈ channels, ∀ c : Fin 8, item.channel = c + 1 → Packs item (inputs n).cmd c)
    (before : ∀ item ∈ channels, ∀ c : Fin 8, item.channel = c + 1 → (inputs n).cmd.channelMask.getLsbD c = false →
      Agrees (previousChannel previous item.channel) (((runtimeConfig p).trace inputs n).actual.channel c)) :
    (∀ shown ∈ rfdcApply previous channels (inputs n).cmd.channelMask, ∀ c : Fin 8, shown.channel = c + 1 →
      Agrees shown (((runtimeConfig p).trace inputs m).actual.channel c)) ↔
    ∀ item ∈ channels, ∀ c : Fin 8, item.channel = c + 1 → (inputs n).cmd.channelMask.getLsbD c = true →
      Exact ((inputs n).cmd.ncoHz c).toInt ((inputs n).cmd.phaseMdeg c).toInt
        ((inputs n).cmd.currentUa c).toNat := by
  have confirmed := (concluded (runs_trace p inputs) taken ended new).resolve_right fun refused => refused.status ok
  constructor
  · intro shows item listed c own requested
    have shown : simulatedChannel previous (inputs n).cmd.channelMask item ∈
        rfdcApply previous channels (inputs n).cmd.channelMask :=
      List.mem_map_of_mem (List.mem_mergeSort.mpr listed)
    have agrees := shows _ shown c ((simulatedChannel_channel ..).trans own)
    rw [confirmed.actual c, requested, if_pos rfl] at agrees
    exact (agrees_iff valid own (packs item listed c own) requested).mp agrees
  · intro exact shown listed c own
    obtain ⟨item, sorted, rfl⟩ := List.mem_map.mp listed
    have listed := List.mem_mergeSort.mp sorted
    rw [simulatedChannel_channel] at own
    rw [confirmed.actual c]
    cases requested : (inputs n).cmd.channelMask.getLsbD c with
    | true =>
      have exact := exact item listed c own requested
      exact (agrees_iff valid own (packs item listed c own) requested).mpr exact
    | false =>
      -- neither side touches the channel
      have kept : simulatedChannel previous (inputs n).cmd.channelMask item =
          previousChannel previous item.channel := by
        rw [simulatedChannel, own, Nat.add_sub_cancel, requested]
        rfl
      rw [kept]
      exact before item listed c own requested

/-! ## An apply for one channel -/

/-- A phase in range is its own normal form. -/
theorem normalize_inRange {mdeg : Int} (low : -180000 ≤ mdeg) (high : mdeg < 180000) :
    normalizeRfdcPhaseMdeg (mdeg / 1000) = mdeg := by
  have turn : ⌊((mdeg : ℚ) / 1000 + 180) / 360⌋ = 0 := by
    have low : (-180000 : ℚ) ≤ mdeg := by exact_mod_cast low
    have high : (mdeg : ℚ) < 180000 := by exact_mod_cast high
    rw [Int.floor_eq_zero_iff]
    constructor
    · linarith
    · linarith
  have same : ((mdeg : ℚ) / 1000 + 180 - 360 * (0 : Int) - 180) * 1000 = mdeg := by
    push_cast
    ring
  rw [normalizeRfdcPhaseMdeg, turn]
  exact (congrArg roundHalfEven same).trans (roundHalfEven_intCast mdeg)

/-- An apply for the first channel, all registers of the converter reading the same: tiles that are
    up, the second zone, and the code of 10.15 mA. -/
def applyOnce (hz : Int) (n : Nat) : RuntimeIn where
  start := n == 0
  cmd := ⟨1, 1, 1, fun _ => BitVec.ofInt 64 hz, fun _ => 2, fun _ => 0, fun _ => 10150⟩
  playbackArmed := false
  playbackRunning := false
  ncoCommitBusy := false
  ncoCommitDone := true
  ncoCommitError := 0
  axil := ⟨true, true, 0, true, true, 200 * 64 + 15, 0, true⟩

def onceParams : RuntimeParams := ⟨1, 2, 1000, by decide, by decide, by decide, by decide⟩

def onceChannels (hz : Int) : List RfdcChannelConfig :=
  (List.range 8).map fun c => ⟨c + 1, hz, 2, 0, 203 / 20⟩

theorem once_packs {hz : Int} (low : -2 ^ 63 ≤ hz) (high : hz < 2 ^ 63) :
    ∀ item ∈ onceChannels hz, ∀ c : Fin 8, item.channel = c + 1 → Packs item (applyOnce hz 0).cmd c := by
  intro item listed c own
  obtain ⟨channel, -, rfl⟩ := List.mem_map.mp listed
  refine ⟨?_, ?_, ?_⟩
  · change (BitVec.ofInt 64 hz).toInt = roundHalfEven hz
    rw [roundHalfEven_intCast, BitVec.toInt_ofInt_eq_self (by decide) low high]
  · have zero := @normalize_inRange 0 (by decide) (by decide)
    rw [Int.cast_zero, zero_div] at zero
    exact zero.symm
  · change ((10150 : Nat) : ℚ) = 203 / 20 * 1000
    norm_num

theorem once_before (hz : Int) : ∀ item ∈ onceChannels hz, ∀ c : Fin 8, item.channel = c + 1 →
    (applyOnce hz 0).cmd.channelMask.getLsbD c = false →
      Agrees (previousChannel [] item.channel)
        (((runtimeConfig onceParams).trace (applyOnce hz) 0).actual.channel c) :=
  fun _ _ _ _ _ => ⟨rfl, rfl, rfl, rfl⟩

theorem over_of_undone {σ : Nat → RuntimeConfig} {m : Nat} (after : 0 < m) (done : (σ m).done = true)
    (undone : ∀ k < m, (σ k).done = false) : Over σ 0 m :=
  ⟨after, done, fun k _ before => undone k before⟩

/-- A positive frequency comes out the same. -/
theorem simulated_readback_positive :
    ∃ shown ∈ rfdcApply [] (onceChannels 1000000000) 1, shown.channel = 1 ∧
      Agrees shown (((runtimeConfig onceParams).trace (applyOnce 1000000000) 171).actual.channel 0) := by
  have exact : Exact (BitVec.ofInt 64 1000000000).toInt (0 : BitVec 32).toInt (10150 : BitVec 32).toNat :=
    ⟨.inl (by decide +kernel), .inl (by decide), .inl (by decide)⟩
  have mem : simulatedChannel [] 1 ⟨1, (1000000000 : Int), 2, 0, 203 / 20⟩ ∈
      rfdcApply [] (onceChannels 1000000000) 1 :=
    List.mem_map_of_mem (List.mem_mergeSort.mpr (List.mem_map_of_mem (List.mem_range.mpr (by decide))))
  exact ⟨_, mem, rfl, (simulated_readback onceParams (applyOnce 1000000000) (n := 0) ⟨rfl, rfl⟩
    (over_of_undone (by decide) (by decide +kernel) (by decide +kernel)) (by decide) (by decide +kernel)
    (by decide +kernel) (once_packs (by decide) (by decide)) (once_before 1000000000)).mpr
      (fun _ _ _ _ _ => exact) _ mem 0 rfl⟩

/-- Of one hertz below zero the simulated word is one less than the reported one. -/
theorem negative_frequency_differs : let σ := (runtimeConfig onceParams).trace (applyOnce (-1))
    Taken σ (applyOnce (-1)) 0 ∧ Over σ 0 171 ∧ (σ 171).result.status = stOk ∧
      (∀ item ∈ onceChannels (-1), ∀ c : Fin 8, item.channel = c + 1 → Packs item (applyOnce (-1) 0).cmd c) ∧
      ∃ shown ∈ rfdcApply [] (onceChannels (-1)) 1, shown.channel = 1 ∧
        ¬ Agrees shown ((σ 171).actual.channel 0) := by
  refine ⟨⟨rfl, rfl⟩, over_of_undone (by decide) (by decide +kernel) (by decide +kernel), by decide +kernel,
    once_packs (by decide) (by decide), simulatedChannel [] 1 ⟨1, (-1 : Int), 2, 0, 203 / 20⟩, ?_, rfl,
    fun agrees => ?_⟩
  · exact List.mem_map_of_mem (List.mem_mergeSort.mpr (List.mem_map_of_mem (List.mem_range.mpr (by decide))))
  · exact absurd agrees.ncoWord (by decide +kernel)

end Xczu47dr.Rfdc
