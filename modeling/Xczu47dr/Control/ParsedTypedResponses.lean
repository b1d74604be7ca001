import Mathlib.Data.Nat.Bitwise
import Mathlib.Tactic.IntervalCases
import Xczu47dr.Control.RiscvControl
import Xczu47dr.Host.Rfctrl2Responses

/-! # The typed responses as the host reads them

The words of `load_rf2_status`, `load_rf2_diag`, `load_rfdc_response` and
`load_network_response` carry the inputs they are loaded from where the parsers of the
host look for them.
-/

namespace Xczu47dr.Control

open Wire Host

/-! ## Fields of words -/

section Fields

variable {m n s k : Nat}

theorem unpackAt_wordBytes (words : List (BitVec 64)) {offset width : Nat} (inside : offset % 8 + width ≤ 8)
    (below : offset / 8 < words.length) :
    unpackAt (wordBytes words) offset width =
      ((words.getD (offset / 8) 0).extractLsb' (8 * (offset % 8)) (8 * width)).toNat := by
  obtain ⟨word, rest, split⟩ : ∃ word rest, words.drop (offset / 8) = word :: rest := by
    cases tail : words.drop (offset / 8) with
    | nil => exact absurd (List.drop_eq_nil_iff.mp tail) (by omega)
    | cons word rest => exact ⟨word, rest, rfl⟩
  have found : words.getD (offset / 8) 0 = word := by
    have first := congrArg (·.head?) split
    simp only [List.head?_drop, List.head?_cons] at first
    rw [List.getD_eq_getElem?_getD, first, Option.getD_some]
  have size : offset = 8 * (offset / 8) + offset % 8 := (Nat.div_add_mod offset 8).symm
  have three : littleEndian 8 word.toNat = littleEndian (offset % 8) word.toNat ++
      (littleEndian width (word.toNat / 256 ^ (offset % 8)) ++
        littleEndian (8 - offset % 8 - width) (word.toNat / 256 ^ (offset % 8) / 256 ^ width)) := by
    rw [← littleEndian_add, ← littleEndian_add]
    congr 1
    omega
  rw [unpackAt, size, ← List.drop_drop, drop_wordBytes, split, wordBytes_cons, three, List.append_assoc,
    List.drop_left' length_littleEndian, List.append_assoc, List.take_left' length_littleEndian,
    ofLittleEndian_littleEndian, ← size, found, BitVec.extractLsb'_toNat, Nat.shiftRight_eq_div_pow]
  rw [show 256 ^ (offset % 8) = 2 ^ (8 * (offset % 8)) from (Nat.pow_mul 2 8 _).symm,
    show 256 ^ width = 2 ^ (8 * width) from (Nat.pow_mul 2 8 _).symm]

theorem unpackAt_half (words : List (BitVec 64)) {offset : Nat} (inside : offset % 8 + 4 ≤ 8)
    (below : offset / 8 < words.length) :
    unpackAt (wordBytes words) offset 4 =
      ((words.getD (offset / 8) 0).extractLsb' (8 * (offset % 8)) 32).toNat :=
  unpackAt_wordBytes words inside below

theorem unpackAt_word (words : List (BitVec 64)) {offset : Nat} (aligned : offset % 8 = 0)
    (below : offset / 8 < words.length) :
    unpackAt (wordBytes words) offset 8 = (words.getD (offset / 8) 0).toNat := by
  rw [unpackAt_wordBytes words (by omega) below, aligned]
  exact congrArg _ BitVec.extractLsb'_eq_self

theorem toNat_append_word (high : BitVec n) (low : BitVec m) :
    (high ++ low).toNat = high.toNat * 2 ^ m + low.toNat := by
  rw [BitVec.toNat_append, ← Nat.shiftLeft_add_eq_or_of_lt low.isLt, Nat.shiftLeft_eq]

theorem signed_toNat (w : BitVec m) {width : Nat} (size : 8 * width = m) :
    (BitVec.ofNat (8 * width) w.toNat).toInt = w.toInt := by
  subst size
  rw [BitVec.ofNat_toNat, BitVec.setWidth_eq]

/-- A field that starts with all of the low part. -/
theorem toNat_extractLsb'_append {high : BitVec n} {low : BitVec m} (within : m ≤ k) :
    ((high ++ low).extractLsb' 0 k).toNat = (high.extractLsb' 0 (k - m)).toNat * 2 ^ m + low.toNat := by
  have size : 2 ^ k = 2 ^ m * 2 ^ (k - m) := by rw [← Nat.pow_add, Nat.add_sub_cancel' within]
  have low_part : (high.toNat * 2 ^ m + low.toNat) % 2 ^ m = low.toNat := by
    rw [Nat.mul_add_mod_self_right, Nat.mod_eq_of_lt low.isLt]
  have high_part : (high.toNat * 2 ^ m + low.toNat) / 2 ^ m = high.toNat := by
    rw [Nat.mul_comm, Nat.mul_add_div (Nat.two_pow_pos m), Nat.div_eq_of_lt low.isLt, Nat.add_zero]
  rw [BitVec.extractLsb'_toNat, BitVec.extractLsb'_toNat, toNat_append_word, Nat.shiftRight_zero,
    Nat.shiftRight_zero, size, Nat.mod_mul, low_part, high_part, Nat.mul_comm, Nat.add_comm]

theorem extractLsb'_zero : (0#n).extractLsb' s k = 0#k := by
  apply BitVec.eq_of_toNat_eq
  rw [BitVec.extractLsb'_toNat, BitVec.toNat_ofNat, BitVec.toNat_ofNat, Nat.zero_mod, Nat.zero_shiftRight,
    Nat.zero_mod]

theorem and_ones (x : Nat) (n : Nat) {mask : Nat} (ones : mask = 2 ^ n - 1) : x &&& mask = x % 2 ^ n := by
  rw [ones, Nat.and_two_pow_sub_one_eq_mod]

theorem shiftRight_and (w : BitVec m) (s n : Nat) {mask : Nat} (ones : mask = 2 ^ n - 1) :
    (w.toNat >>> s) &&& mask = (w.extractLsb' s n).toNat := by
  rw [and_ones _ n ones, BitVec.extractLsb'_toNat]

theorem shiftRight_masked (w : BitVec m) (s : Nat) :
    (w.toNat >>> s) &&& 0x3 = (w.extractLsb' s 2).toNat ∧ (w.toNat >>> s) &&& 0xF = (w.extractLsb' s 4).toNat ∧
      (w.toNat >>> s) &&& 0xFF = (w.extractLsb' s 8).toNat ∧
      (w.toNat >>> s) &&& 0xFFFF = (w.extractLsb' s 16).toNat ∧
      (w.toNat >>> s) &&& 0xFFFFFFFF = (w.extractLsb' s 32).toNat :=
  ⟨shiftRight_and w s 2 rfl, shiftRight_and w s 4 rfl, shiftRight_and w s 8 rfl, shiftRight_and w s 16 rfl,
    shiftRight_and w s 32 rfl⟩

theorem masked (w : BitVec m) :
    w.toNat &&& 0x7 = (w.extractLsb' 0 3).toNat ∧ w.toNat &&& 0xFF = (w.extractLsb' 0 8).toNat ∧
      w.toNat &&& 0xFFFF = (w.extractLsb' 0 16).toNat ∧ w.toNat &&& 0x3FFFF = (w.extractLsb' 0 18).toNat ∧
      w.toNat &&& 0xFFFFFFFF = (w.extractLsb' 0 32).toNat :=
  ⟨shiftRight_and w 0 3 rfl, shiftRight_and w 0 8 rfl, shiftRight_and w 0 16 rfl, shiftRight_and w 0 18 rfl,
    shiftRight_and w 0 32 rfl⟩

theorem truth_and (w : BitVec m) (k : Nat) {mask : Nat} (one : mask = 2 ^ k) :
    truth (w.toNat &&& mask) = w.getLsbD k := by
  rw [one, truth, Nat.and_two_pow, BitVec.getLsbD]
  cases w.toNat.testBit k with
  | false => rw [Bool.toNat_false, Nat.zero_mul]; rfl
  | true => rw [Bool.toNat_true, Nat.one_mul, decide_eq_true (Nat.ne_of_gt (Nat.two_pow_pos k))]

theorem truth_masked (w : BitVec m) :
    truth (w.toNat &&& 1) = w.getLsbD 0 ∧ truth (w.toNat &&& 2) = w.getLsbD 1 ∧
      truth (w.toNat &&& 4) = w.getLsbD 2 ∧ truth (w.toNat &&& 8) = w.getLsbD 3 ∧
      truth (w.toNat &&& 16) = w.getLsbD 4 ∧ truth (w.toNat &&& 32) = w.getLsbD 5 ∧
      truth (w.toNat &&& 64) = w.getLsbD 6 ∧ truth (w.toNat &&& 128) = w.getLsbD 7 ∧
      truth (w.toNat &&& 256) = w.getLsbD 8 :=
  ⟨truth_and w 0 rfl, truth_and w 1 rfl, truth_and w 2 rfl, truth_and w 3 rfl, truth_and w 4 rfl,
    truth_and w 5 rfl, truth_and w 6 rfl, truth_and w 7 rfl, truth_and w 8 rfl⟩

theorem truth_shiftRight (w : BitVec m) (s : Nat) : truth ((w.toNat >>> s) &&& 1) = w.getLsbD s := by
  have one_bit : (w.toNat >>> s) &&& 1 = (w.extractLsb' s 1).toNat := shiftRight_and w s 1 rfl
  rw [one_bit, BitVec.getLsbD_eq_extractLsb', truth]
  rcases BitVec.eq_zero_or_eq_one (w.extractLsb' s 1) with low | low <;> rw [low] <;> rfl

theorem getLsbD_append_low {high : BitVec n} {low : BitVec m} (below : k < m) :
    (high ++ low).getLsbD k = low.getLsbD k := by
  rw [BitVec.getLsbD_append, if_pos below]

theorem getLsbD_append_high {high : BitVec n} {low : BitVec m} (above : m ≤ k) :
    (high ++ low).getLsbD k = high.getLsbD (k - m) := by
  rw [BitVec.getLsbD_append, if_neg (Nat.not_lt.mpr above)]

@[simp] theorem bit_getLsbD (flag : Bool) : (bit flag).getLsbD 0 = flag := by cases flag <;> rfl

end Fields

/-! ## STATUS -/

/-- The inputs of the control plane as a STATUS names them. -/
def ControlStatus.asStatus (st : ControlStatus) (ids : BuildIds) (response : Rfresp2) : Rfctrl2Status where
  response := response
  capabilities := rf2Capabilities.toNat
  stateFlags := st.statusFlags.toNat
  configValidMask := st.rfdcConfigValidMask.toNat
  lastRevision := st.rfdcResultRevision.toNat
  lastError := st.rfdcApplyStatus.toNat
  lastErrorStage := st.rfdcFailureStage.toNat
  lastErrorAddr := st.rfdcFailureAddress.toNat
  playConfigChannelMask := st.playConfigChannelMask.toNat
  playFifoValidMask := st.playFifoValidMask.toNat
  playFifoReadyMask := st.playFifoReadyMask.toNat
  playExecutorState := st.playExecutorState.toNat
  playDdrReadCounter := st.playDdrReadCounter.toNat
  playBadInstrCount := st.playBadInstrCount.toNat
  playPrefillReady := st.playPrefillReady
  playActiveValid := st.playActiveValid
  playPendingValid := st.playPendingValid
  dacMtsRequired := st.dacMtsRequired
  dacMtsReady := st.dacMtsReady
  dacMtsFailed := st.dacMtsFailed
  dacMtsTileMask := st.dacMtsTileMask.toNat
  dacMtsError := st.dacMtsError.toNat
  ncoSyncReady := st.ncoSyncReady
  ncoSyncEpoch := st.ncoSyncEpoch.toNat
  syncStatus := (bit st.syncRoleMaster ++ bit st.syncBypass ++ bit st.syncLinkReady ++ bit st.syncSeen).toNat
  triggerInputCount := st.triggerInputCount.toNat
  triggerAcceptedCount := st.triggerAcceptedCount.toNat
  triggerOutputCount := st.triggerOutputCount.toNat
  extTriggerPhaseSlot := st.extTriggerPhaseSlot.toNat
  extTriggerPhaseValid := st.extTriggerPhaseValid
  extTriggerPhaseOverflow := st.extTriggerPhaseOverflow
  extTriggerPhaseMetastable := st.extTriggerPhaseMetastable
  extTriggerTapIndex := st.extTriggerTapIndex.toNat
  extTriggerPhasePsX10 := st.extTriggerPhasePsX10.toNat
  playbackAdmittedCount := st.playbackAdmittedCount.toNat
  playbackSkippedCount := st.playbackSkippedCount.toNat
  buildProfileId := (ids.buildProfileId.extractLsb' 0 16).toNat
  buildProfile := rf2BuildProfileName (ids.buildProfileId.extractLsb' 0 16).toNat
  sourceCommitId := ids.sourceCommitId.toNat
  triggerPathVersion := ids.triggerPathVersion.toNat
  rfdcReady := st.rfdcReady
  rfdcBusy := st.rfdcApplyBusy
  armed := st.playbackArmed
  running := st.playbackRunning
  prepared := st.playbackPrepared

theorem parse_status (st : ControlStatus) (ids : BuildIds) (response : Rfresp2)
    (payload : response.payload = wordBytes (st.statusPayload ids)) :
    parseRfctrl2StatusPayload response = st.asStatus ids response := by
  have length : (wordBytes (st.statusPayload ids)).length = 128 := length_wordBytes _
  have half {offset : Nat} (inside : offset % 8 + 4 ≤ 8) (below : offset / 8 < 16) :
      unpackAt (wordBytes (st.statusPayload ids)) offset 4 = _ := unpackAt_half _ inside below
  have word {offset : Nat} (aligned : offset % 8 = 0) (below : offset / 8 < 16) :
      unpackAt (wordBytes (st.statusPayload ids)) offset 8 = _ := unpackAt_word _ aligned below
  rw [parseRfctrl2StatusPayload, payload]
  simp only [Rfctrl2Status.parseLegacy, length]
  simp (disch := decide) only [half, word, Nat.reduceLeDiff, if_true]
  simp (disch := decide) only [Rfctrl2Status.parseExtensions, length, half, word, Nat.reduceLeDiff, if_true]
  simp only [Nat.reduceDiv, Nat.reduceMod, Nat.reduceMul, ControlStatus.statusPayload, List.getD_cons_succ,
    List.getD_cons_zero]
  simp only [shiftRight_masked, masked, truth_masked, truth_shiftRight]
  simp (disch := decide) only [BitVec.extractLsb'_append_eq_of_le, BitVec.extractLsb'_append_eq_of_add_le]
  simp (disch := decide) only [BitVec.extractLsb'_extractLsb'_of_le, BitVec.extractLsb'_append_eq_of_le,
    BitVec.extractLsb'_append_eq_of_add_le, toNat_extractLsb'_append, extractLsb'_zero, Nat.reduceSub,
    BitVec.extractLsb'_eq_self]
  simp (disch := decide) only [BitVec.getLsbD_extractLsb', getLsbD_append_low, getLsbD_append_high, Nat.zero_add,
    Nat.reduceLT, Nat.reduceSub, decide_true, Bool.true_and, bit_getLsbD]
  simp only [Rfctrl2Status.parseStateFlags, rf2StatusRfdcReady, rf2StatusRfdcBusy, rf2StatusArmed, rf2StatusRunning,
    rf2StatusPrepared, rf2StatusDacMtsReady, rf2StatusDacMtsFailed, rf2StatusNcoSyncReady,
    rf2StatusDacMtsRequired, truth_masked, ControlStatus.statusFlags]
  simp (disch := decide) only [getLsbD_append_low, getLsbD_append_high, Nat.reduceSub, bit_getLsbD]
  simp only [ControlStatus.asStatus, ControlStatus.statusFlags, toNat_append_word, BitVec.toNat_zero, Nat.zero_mul,
    Nat.zero_add, Bool.or_self]

/-! ## DIAG_SNAPSHOT -/

/-- The snapshot, and the inputs that are read without it, as a DIAG_SNAPSHOT names them.  Rejected triggers, the
    mute and the abort have no input and read as nothing; both DMA counts are the DDR read counter. -/
def ControlStatus.asDiagnostics (st : ControlStatus) (diagGeneration : BitVec 64) (response : Rfresp2) :
    Rfctrl2Diagnostics where
  response := response
  generation := diagGeneration.toNat
  triggerInputCount := st.triggerInputCount.toNat
  triggerCaptureTick := st.diagTriggerCaptureTick.toNat
  triggerAcceptedCount := st.triggerAcceptedCount.toNat
  triggerSkippedCount := st.playbackSkippedCount.toNat
  triggerLaunchTick := st.diagTriggerLaunchTick.toNat
  playbackStartTick := st.diagPlaybackStartTick.toNat
  firstValidTick := st.diagFirstValidTick.toNat
  triggerToLaunchLast :=
    (st.diagTriggerLaunchTick.extractLsb' 0 32 - st.diagTriggerCaptureTick.extractLsb' 0 32).toNat
  launchToFirstValidLast :=
    (st.diagFirstValidTick.extractLsb' 0 32 - st.diagTriggerLaunchTick.extractLsb' 0 32).toNat
  replayReady := st.diagReplayReady
  replayActive := st.diagReplayActive
  preparedDac := st.diagPreparedDac
  outputPermittedDac := st.diagOutputPermittedDac
  underflowMask := st.diagUnderflowMask.toNat
  rfdcStatus := st.rfdcApplyStatus.toNat
  rfdcFailureStage := (st.rfdcFailureStage.extractLsb' 0 16).toNat
  rfdcFailureAddress := st.rfdcFailureAddress.toNat
  rfdcAxiResponse := st.rfdcFailureAxiResponse.toNat
  dmaChunkBeats := st.playDdrReadCounter.toNat
  dmaOutstandingBeats := st.playDdrReadCounter.toNat
  dacDirectInputCount := st.diagDirectInputCount.toNat
  dacDirectAcceptCount := st.diagDirectAcceptCount.toNat
  dacDirectTriggerPulse := st.diagTriggerPulse
  dacTriggerLaunch := st.diagTriggerLaunch

theorem parse_diagnostics (st : ControlStatus) (ids : BuildIds) (diagGeneration : BitVec 64) (response : Rfresp2)
    (payload : response.payload = wordBytes (st.diagPayload ids diagGeneration)) :
    parseRfctrl2DiagnosticsPayload response = st.asDiagnostics diagGeneration response := by
  have length : (wordBytes (st.diagPayload ids diagGeneration)).length = 152 := length_wordBytes _
  have word {offset : Nat} (aligned : offset % 8 = 0) (below : offset / 8 < 19) :
      unpackAt (wordBytes (st.diagPayload ids diagGeneration)) offset 8 = _ := unpackAt_word _ aligned below
  rw [parseRfctrl2DiagnosticsPayload, payload]
  simp only [Rfctrl2Diagnostics.parseTicks, Rfctrl2Diagnostics.wordAt, length, Rfctrl2Diagnostics.parseFlags,
    Rfctrl2Diagnostics.parseRfdc, Rfctrl2Diagnostics.parseDac, Nat.reduceAdd, Nat.reduceMul, Nat.reduceLeDiff,
    if_true]
  simp (disch := decide) only [word]
  simp only [Nat.reduceDiv, ControlStatus.diagPayload, List.getD_cons_succ, List.getD_cons_zero]
  simp only [shiftRight_masked, masked, truth_masked, truth_shiftRight]
  simp (disch := decide) only [BitVec.extractLsb'_append_eq_of_le, BitVec.extractLsb'_append_eq_of_add_le,
    Nat.reduceSub, BitVec.extractLsb'_eq_self]
  simp (disch := decide) only [getLsbD_append_low, getLsbD_append_high, Nat.reduceSub, bit_getLsbD]
  simp only [ControlStatus.asDiagnostics, toNat_append_word, BitVec.toNat_zero, Nat.zero_mul, Nat.zero_add,
    BitVec.getLsbD_zero, Bool.or_false]

/-! ## RFDC_APPLY and RFDC_GET_CONFIG -/

theorem getD_flatMap {α β : Type} {f : α → List β} {size : Nat} (uniform : ∀ x, (f x).length = size) (fallback : β)
    {j : Nat} (small : j < size) :
    ∀ (xs : List α) {i : Nat} (inside : i < xs.length),
      (xs.flatMap f).getD (size * i + j) fallback = (f (xs.get ⟨i, inside⟩)).getD j fallback
  | x :: rest, 0, _ => by
    rw [List.flatMap_cons, Nat.mul_zero, Nat.zero_add, List.getD_append _ _ _ _ (by rw [uniform]; exact small)]
    rfl
  | x :: rest, i + 1, inside => by
    have shift : size * (i + 1) + j - size = size * i + j := by rw [Nat.mul_succ]; omega
    rw [List.flatMap_cons, List.getD_append_right _ _ _ _ (by rw [uniform, Nat.mul_succ]; omega), uniform, shift]
    exact getD_flatMap uniform fallback small rest (Nat.lt_of_succ_lt_succ inside)

/-- The words of a channel lie behind the four of the header. -/
theorem rfdcPayload_getD (st : ControlStatus) (channel : Fin 8) {j : Nat} (small : j < 5) :
    st.rfdcPayload.getD (4 + 5 * channel.val + j) 0 = (st.rfdcChannelWords channel).getD j 0 := by
  have behind : 4 + 5 * channel.val + j = 5 * channel.val + j + 1 + 1 + 1 + 1 := by omega
  have uniform (x : Fin 8) : (st.rfdcChannelWords x).length = 5 := rfl
  rw [behind, ControlStatus.rfdcPayload, List.cons_append, List.cons_append, List.cons_append, List.cons_append,
    List.nil_append, List.getD_cons_succ, List.getD_cons_succ, List.getD_cons_succ, List.getD_cons_succ,
    getD_flatMap uniform 0 small (List.finRange 8) (by rw [List.length_finRange]; exact channel.isLt)]
  simp only [List.get_eq_getElem, List.getElem_finRange, Fin.cast_mk, Fin.eta]

/-- A channel as an entry of `channels` names it. -/
def ControlStatus.asChannelConfig (st : ControlStatus) (channel : Fin 8) : RfdcChannelConfig where
  channel := channel.val + 1
  ncoHz := (st.rfdcChannels channel).actualNcoHz.toInt
  nyquistZone := (st.rfdcChannels channel).actualNyquistZone.toNat
  ncoPhaseMdeg := (st.rfdcChannels channel).actualPhaseMdeg.toInt
  dacOutputCurrentUa := (st.rfdcChannels channel).actualCurrentUa.toNat
  status := (st.rfdcChannels channel).channelStatus.toNat
  ncoWord := (st.rfdcChannels channel).actualNcoWord.toNat
  phaseWord := (st.rfdcChannels channel).actualPhaseWord.toNat
  vopCode := (st.rfdcChannels channel).actualVopCode.toNat

theorem parse_channel (st : ControlStatus) (channel : Fin 8) :
    parseRfdcChannel (wordBytes st.rfdcPayload) (32 + channel.val * 40) (channel.val + 1) =
      st.asChannelConfig channel := by
  have length : st.rfdcPayload.length = 44 := rfl
  have half {j r : Nat} (small : j < 5) (low : r = 0 ∨ r = 4) :
      unpackAt (wordBytes st.rfdcPayload) (32 + channel.val * 40 + (8 * j + r)) 4 =
        (((st.rfdcChannelWords channel).getD j 0).extractLsb' (8 * r) 32).toNat := by
    have place : (32 + channel.val * 40 + (8 * j + r)) / 8 = 4 + 5 * channel.val + j := by omega
    have side : (32 + channel.val * 40 + (8 * j + r)) % 8 = r := by omega
    rw [unpackAt_half _ (by omega) (by omega), place, side, rfdcPayload_getD st channel small]
  have word {j : Nat} (small : j < 5) :
      unpackAt (wordBytes st.rfdcPayload) (32 + channel.val * 40 + 8 * j) 8 =
        ((st.rfdcChannelWords channel).getD j 0).toNat := by
    have place : (32 + channel.val * 40 + 8 * j) / 8 = 4 + 5 * channel.val + j := by omega
    rw [unpackAt_word _ (by omega) (by omega), place, rfdcPayload_getD st channel small]
  -- the fields in the order of the entry's format
  have nco := word (j := 0) (by decide)
  have zone := half (j := 1) (by decide) (.inl rfl)
  have phase := half (j := 1) (by decide) (.inr rfl)
  have current := half (j := 2) (by decide) (.inl rfl)
  have status := half (j := 2) (by decide) (.inr rfl)
  have nco_word := word (j := 3) (by decide)
  have phase_word := half (j := 4) (by decide) (.inl rfl)
  have vop_code := half (j := 4) (by decide) (.inr rfl)
  simp only [Nat.reduceMul, Nat.reduceAdd, Nat.add_zero] at nco zone phase current status nco_word phase_word vop_code
  rw [parseRfdcChannel, unpackSignedAt, unpackSignedAt, nco, zone, phase, current, status, nco_word, phase_word,
    vop_code]
  simp only [ControlStatus.rfdcChannelWords, List.getD_cons_succ, List.getD_cons_zero]
  simp (disch := decide) only [BitVec.extractLsb'_append_eq_of_le, BitVec.extractLsb'_append_eq_of_add_le,
    toNat_extractLsb'_append, extractLsb'_zero, Nat.reduceSub, BitVec.extractLsb'_eq_self]
  simp only [ControlStatus.asChannelConfig, BitVec.toNat_zero, Nat.zero_mul, Nat.zero_add]
  rw [signed_toNat _ rfl, signed_toNat _ rfl]

/-- The configuration as the response names it. -/
def ControlStatus.asRfdcConfig (st : ControlStatus) (response : Rfresp2) : Rfctrl2RfdcConfig where
  response := response
  revision := st.rfdcResultRevision.toNat
  appliedMask := st.rfdcResultAppliedMask.toNat
  errorMask := st.rfdcResultErrorMask.toNat
  configValidMask := st.rfdcConfigValidMask.toNat
  failureStage := st.rfdcFailureStage.toNat
  failureAddress := st.rfdcFailureAddress.toNat
  axiResponse := st.rfdcFailureAxiResponse.toNat
  stateFlags := st.rfdcFlags.toNat
  channels := (List.finRange 8).map st.asChannelConfig

theorem parse_rfdc (st : ControlStatus) (response : Rfresp2) (payload : response.payload = wordBytes st.rfdcPayload) :
    parseRfctrl2RfdcConfigResponse response = .ok (st.asRfdcConfig response) := by
  have length : (wordBytes st.rfdcPayload).length = 352 := length_wordBytes _
  have nonempty : wordBytes st.rfdcPayload ≠ [] := by
    intro empty
    rw [empty] at length
    exact absurd length (by decide)
  have half {offset : Nat} (inside : offset % 8 + 4 ≤ 8) (below : offset / 8 < 44) :
      unpackAt (wordBytes st.rfdcPayload) offset 4 = _ := unpackAt_half _ inside below
  have channels : ((List.range rfdcApplyChannels).map fun k =>
      parseRfdcChannel (wordBytes st.rfdcPayload)
        (rfdcApplyResponseHeaderBytes + k * rfdcApplyResponseEntryBytes) (k + 1)) =
      (List.finRange 8).map st.asChannelConfig := by
    have range : List.range rfdcApplyChannels = (List.finRange 8).map Fin.val := (List.map_coe_finRange_eq_range).symm
    rw [range, List.map_map]
    exact List.map_congr_left fun channel _ => parse_channel st channel
  rw [parseRfctrl2RfdcConfigResponse, payload]
  rw [if_neg (fun empty => nonempty empty.1), length, if_neg (fun differs => differs rfl), channels]
  simp (disch := decide) only [half]
  simp only [Nat.reduceDiv, Nat.reduceMod, Nat.reduceMul, ControlStatus.rfdcPayload, List.cons_append,
    List.getD_cons_succ, List.getD_cons_zero]
  simp (disch := decide) only [BitVec.extractLsb'_append_eq_of_le, BitVec.extractLsb'_append_eq_of_add_le,
    toNat_extractLsb'_append, extractLsb'_zero, Nat.reduceSub, Nat.sub_eq_zero_of_le,
    BitVec.extractLsb'_eq_self]
  simp only [ControlStatus.asRfdcConfig, toNat_append_word, BitVec.toNat_zero, Nat.zero_mul, Nat.zero_add]

/-! ## NETWORK_GET, NETWORK_APPLY and NETWORK_RESTART -/

/-- The byte `index` of a word. -/
def byteAt (word : BitVec m) (index : Nat) : Nat := (word.extractLsb' (8 * index) 8).toNat

def dottedQuad (address : BitVec 32) : String :=
  s!"{byteAt address 3}.{byteAt address 2}.{byteAt address 1}.{byteAt address 0}"

/-- The low 48 bits of a word as a MAC address. -/
def colonMac (word : BitVec 64) : String :=
  ":".intercalate ([5, 4, 3, 2, 1, 0].map fun index => String.ofList (lowerHex 2 (byteAt word index)))

theorem u32Ipv4_toNat (address : BitVec 32) : u32Ipv4 address.toNat = dottedQuad address := by
  have low : address.toNat &&& 0xFFFFFFFF = address.toNat :=
    (and_ones _ 32 rfl).trans (Nat.mod_eq_of_lt address.isLt)
  have top : address.toNat >>> 24 = (address.extractLsb' 24 8).toNat := by
    rw [BitVec.extractLsb'_toNat, Nat.mod_eq_of_lt]
    rw [Nat.shiftRight_eq_div_pow]
    exact Nat.div_lt_of_lt_mul address.isLt
  rw [u32Ipv4]
  simp only [low, top, shiftRight_masked, masked, dottedQuad, byteAt, Nat.reduceMul]

theorem lowerHex_succ {width value : Nat} (some_digit : 0 < width) :
    lowerHex (width + 1) value = lowerHex width (value / 16) ++ [(value % 16).digitChar] := by
  by_cases small : value < 16
  · rw [lowerHex, lowerHex, Nat.toDigits_of_lt_base small, Nat.div_eq_of_lt small, Nat.toDigits_zero,
      Nat.mod_eq_of_lt small]
    obtain ⟨fewer, rfl⟩ := Nat.exists_eq_succ_of_ne_zero (Nat.ne_of_gt some_digit)
    rw [List.length_singleton, List.length_singleton, Nat.add_sub_cancel, Nat.succ_sub_one, List.replicate_succ',
      List.append_assoc]
  · rw [lowerHex, lowerHex, Nat.toDigits_of_base_le (by decide) (Nat.le_of_not_lt small), List.length_append,
      List.length_singleton, Nat.add_sub_add_right, List.append_assoc]

theorem length_lowerHex_two {value : Nat} (byte : value < 256) : (lowerHex 2 value).length = 2 := by
  rw [lowerHex_succ (by decide), List.length_append, lowerHex, Nat.toDigits_of_lt_base (by omega)]
  rfl

theorem lowerHex_add_two {width value : Nat} (some_digit : 0 < width) :
    lowerHex (width + 2) value = lowerHex width (value / 256) ++ lowerHex 2 (value % 256) := by
  have one : lowerHex 1 (value % 256 / 16) = [(value / 16 % 16).digitChar] := by
    rw [lowerHex, Nat.toDigits_of_lt_base (by omega), show value % 256 / 16 = value / 16 % 16 by omega]
    rfl
  rw [lowerHex_succ (by omega), lowerHex_succ some_digit, lowerHex_succ (by decide), one, Nat.div_div_eq_div_mul,
    show value % 256 % 16 = value % 16 by omega, List.append_assoc]

theorem byteAt_eq (word : BitVec m) (index : Nat) : byteAt word index = word.toNat / 256 ^ index % 256 := by
  rw [byteAt, BitVec.extractLsb'_toNat, Nat.shiftRight_eq_div_pow, Nat.pow_mul]

theorem u64Mac_toNat (word : BitVec 64) : u64Mac word.toNat = colonMac word := by
  -- six bytes of two digits each
  have raw : lowerHex 12 (word.toNat &&& 0xFFFFFFFFFFFF) =
      lowerHex 2 (byteAt word 5) ++ lowerHex 2 (byteAt word 4) ++ lowerHex 2 (byteAt word 3) ++
        lowerHex 2 (byteAt word 2) ++ lowerHex 2 (byteAt word 1) ++ lowerHex 2 (byteAt word 0) := by
    have low : word.toNat &&& 0xFFFFFFFFFFFF = word.toNat % 256 ^ 6 := and_ones _ 48 rfl
    rw [low, lowerHex_add_two (by decide), lowerHex_add_two (by decide), lowerHex_add_two (by decide),
      lowerHex_add_two (by decide), lowerHex_add_two (by decide)]
    have digit {k : Nat} (within : k < 6) :
        byteAt word k = word.toNat % 256 ^ 6 / 256 ^ k % 256 := by
      rw [byteAt_eq]
      interval_cases k <;> omega
    have top : word.toNat % 256 ^ 6 / 256 ^ 5 % 256 = word.toNat % 256 ^ 6 / 256 ^ 5 := by omega
    rw [digit (k := 5) (by decide), digit (k := 4) (by decide), digit (k := 3) (by decide),
      digit (k := 2) (by decide), digit (k := 1) (by decide), digit (k := 0) (by decide), top]
    simp only [Nat.div_div_eq_div_mul, Nat.reduceMul, Nat.reducePow, Nat.div_one]
  have two (index : Nat) : ∃ high low, lowerHex 2 (byteAt word index) = [high, low] :=
    List.length_eq_two.mp (length_lowerHex_two (word.extractLsb' (8 * index) 8).isLt)
  choose high low digits using two
  rw [u64Mac, raw, colonMac]
  simp only [digits]
  rfl

/-- The network configuration as the response names it.  The playback state of the extension is the word of
    status flags again. -/
def ControlStatus.asNetwork (st : ControlStatus) (ids : BuildIds) (response : Rfresp2) : Rfctrl2Network where
  response := response
  deviceUid := String.ofList (lowerHex 16 st.networkDeviceUid.toNat)
  currentIp := dottedQuad st.networkCurrentIp
  currentMac := colonMac st.networkCurrentMac
  bootstrapIp := dottedQuad st.networkBootstrapIp
  revision := st.networkResultRevision.toNat
  port := st.networkCurrentPort.toNat
  statusFlags := st.networkStatusFlags.toNat
  capabilities := st.networkCapabilities.toNat
  bootstrapMac := colonMac st.networkBootstrapMac
  subnetMask := dottedQuad st.networkCurrentSubnet
  gateway := dottedQuad st.networkCurrentGateway
  linkState := st.networkLinkState.toNat
  buildProfileId := ids.buildProfileId.toNat
  buildProfile := rf2BuildProfileName ids.buildProfileId.toNat
  playbackState := st.networkStatusFlags.toNat
  playbackArmed := st.networkStatusFlags.getLsbD 2
  playbackPrepared := st.networkStatusFlags.getLsbD 4
  playbackRunning := st.networkStatusFlags.getLsbD 3
  rfdcConfigValidMask := st.rfdcConfigValidMask.toNat
  hmcDone := st.networkStatusFlags.getLsbD 5
  syncDone := st.networkStatusFlags.getLsbD 6

theorem parse_network (st : ControlStatus) (ids : BuildIds) (response : Rfresp2)
    (payload : response.payload = wordBytes (st.networkPayload ids)) :
    parseRfctrl2NetworkResponse response = .ok (st.asNetwork ids response) := by
  have length : (wordBytes (st.networkPayload ids)).length = 80 := length_wordBytes _
  have nonempty : wordBytes (st.networkPayload ids) ≠ [] := by
    intro empty
    rw [empty] at length
    exact absurd length (by decide)
  have word {offset : Nat} (aligned : offset % 8 = 0) (below : offset / 8 < 10) :
      unpackAt (wordBytes (st.networkPayload ids)) offset 8 = _ := unpackAt_word _ aligned below
  rw [parseRfctrl2NetworkResponse, payload, if_neg (fun empty => nonempty empty.1), length,
    if_neg (fun differs => differs.2 rfl)]
  simp only [Rfctrl2Network.parseWords, Rfctrl2Network.parseExtension, length, Nat.reduceDiv, Nat.reduceLeDiff,
    if_true]
  simp (disch := decide) only [word]
  simp only [Nat.reduceDiv, ControlStatus.networkPayload, List.getD_cons_succ, List.getD_cons_zero]
  simp only [shiftRight_masked, masked]
  simp (disch := decide) only [BitVec.extractLsb'_append_eq_of_le, BitVec.extractLsb'_append_eq_of_add_le,
    Nat.reduceSub, BitVec.extractLsb'_eq_self]
  simp only [Rfctrl2Network.parseFlags, rf2StatusArmed, rf2StatusPrepared, rf2StatusRunning, rf2NetStatusHmcDone,
    rf2NetStatusSyncDone, truth_masked, toNat_append_word, BitVec.toNat_zero, Nat.zero_mul, Nat.zero_add,
    u32Ipv4_toNat, u64Mac_toNat, ControlStatus.asNetwork]

/-! ## The envelope -/

def asRfresp2 (opcode sequence : BitVec 32) (status : BitVec 16) (payload : List (BitVec 64)) : Rfresp2 where
  version := rfctrl2Version
  status := status.toNat
  opcode := opcode.toNat
  flags := status.toNat
  seq := sequence.toNat
  payloadBytes := 8 * payload.length
  payload := wordBytes payload

/-- A response that announces its payload is read as it was loaded. -/
theorem parse_envelope (q : ResponseRequest) (status : BitVec 16) (payloadBytes : BitVec 32)
    (payload : List (BitVec 64)) (magic : q.magic = rfresp2Magic) (version : q.version = rf2Version)
    (announced : payloadBytes.toNat = 8 * payload.length) :
    parseRfresp2Packet (wordBytes (q.header status payloadBytes ++ payload)) true =
      .ok (asRfresp2 q.opcode q.sequence status payload) := by
  have word {offset : Nat} (aligned : offset % 8 = 0)
      (below : offset / 8 < (q.header status payloadBytes ++ payload).length) := unpackAt_word _ aligned below
  have length : (wordBytes (q.header status payloadBytes ++ payload)).length = 24 + 8 * payload.length := by
    rw [length_wordBytes, List.length_append, ResponseRequest.header, List.length_cons, List.length_cons,
      List.length_singleton]
    omega
  have behind : ((wordBytes (q.header status payloadBytes ++ payload)).drop 24).take (8 * payload.length) =
      wordBytes payload := by
    have dropped : (wordBytes (q.header status payloadBytes ++ payload)).drop 24 = wordBytes payload :=
      drop_wordBytes _ 3
    rw [dropped, List.take_of_length_le (Nat.le_of_eq (length_wordBytes _))]
  have count : 3 ≤ (q.header status payloadBytes ++ payload).length := by
    rw [List.length_append]
    exact Nat.le_add_right 3 _
  have magic_read : unpackAt (wordBytes (q.header status payloadBytes ++ payload)) 0 8 = udpRfresp2Magic :=
    (word rfl (Nat.lt_of_lt_of_le (by decide) count)).trans (congrArg BitVec.toNat magic)
  have hdr0 : unpackAt (wordBytes (q.header status payloadBytes ++ payload)) 8 8 =
      (q.opcode ++ status ++ q.version).toNat := word rfl (Nat.lt_of_lt_of_le (by decide) count)
  have hdr1 : unpackAt (wordBytes (q.header status payloadBytes ++ payload)) 16 8 =
      (payloadBytes ++ q.sequence).toNat := word rfl (Nat.lt_of_lt_of_le (by decide) count)
  rw [parseRfresp2Packet, length, if_neg (by omega)]
  simp only [magic_read, hdr0, hdr1, shiftRight_masked, masked]
  simp (disch := decide) only [BitVec.extractLsb'_append_eq_of_le, BitVec.extractLsb'_append_eq_of_add_le,
    Nat.reduceSub, BitVec.extractLsb'_eq_self]
  rw [version, announced, behind, if_neg (fun differs => differs rfl), if_neg (fun differs => differs.2 rfl),
    if_neg (Nat.lt_irrefl _)]
  rfl

/-- For every value of the inputs the four typed responses are read as these values. -/
theorem typed_responses_round_trip (ids : BuildIds) (st : ControlStatus) (diagGeneration : BitVec 64) (i : RiscvIn)
    (opcode sequence : BitVec 32) :
    (parseRfresp2Packet (wordBytes ((RiscvControl.rf2Status opcode sequence).words ids st diagGeneration)) true =
        .ok (asRfresp2 opcode sequence 0 (st.statusPayload ids)) ∧
      parseRfctrl2StatusPayload (asRfresp2 opcode sequence 0 (st.statusPayload ids)) =
        st.asStatus ids (asRfresp2 opcode sequence 0 (st.statusPayload ids))) ∧
    (parseRfresp2Packet (wordBytes ((RiscvControl.rf2Diag opcode sequence).words ids st diagGeneration)) true =
        .ok (asRfresp2 opcode sequence 0 (st.diagPayload ids diagGeneration)) ∧
      parseRfctrl2DiagnosticsPayload (asRfresp2 opcode sequence 0 (st.diagPayload ids diagGeneration)) =
        st.asDiagnostics diagGeneration (asRfresp2 opcode sequence 0 (st.diagPayload ids diagGeneration))) ∧
    (parseRfresp2Packet (wordBytes ((RiscvControl.rfdcResponse opcode sequence).words ids st diagGeneration)) true =
        .ok (asRfresp2 opcode sequence (if opcode = rf2OpRfdcGetConfig then 0 else st.rfdcApplyStatus)
          st.rfdcPayload) ∧
      parseRfctrl2RfdcConfigResponse (asRfresp2 opcode sequence
          (if opcode = rf2OpRfdcGetConfig then 0 else st.rfdcApplyStatus) st.rfdcPayload) =
        .ok (st.asRfdcConfig (asRfresp2 opcode sequence
          (if opcode = rf2OpRfdcGetConfig then 0 else st.rfdcApplyStatus) st.rfdcPayload))) ∧
    (parseRfresp2Packet (wordBytes ((RiscvControl.networkResponse i opcode sequence).words ids st diagGeneration)) true =
        .ok (asRfresp2 opcode sequence i.status.networkStatus (st.networkPayload ids)) ∧
      parseRfctrl2NetworkResponse (asRfresp2 opcode sequence i.status.networkStatus (st.networkPayload ids)) =
        .ok (st.asNetwork ids (asRfresp2 opcode sequence i.status.networkStatus (st.networkPayload ids)))) := by
  refine ⟨⟨?_, ?_⟩, ⟨?_, ?_⟩, ⟨?_, ?_⟩, ⟨?_, ?_⟩⟩
  · exact parse_envelope (RiscvControl.rf2Status opcode sequence) 0 128 (st.statusPayload ids) rfl rfl rfl
  · exact parse_status st ids _ rfl
  · exact parse_envelope (RiscvControl.rf2Diag opcode sequence) 0 152 (st.diagPayload ids diagGeneration) rfl rfl rfl
  · exact parse_diagnostics st ids diagGeneration _ rfl
  · exact parse_envelope (RiscvControl.rfdcResponse opcode sequence) _ 352 st.rfdcPayload rfl rfl rfl
  · exact parse_rfdc st _ rfl
  · exact parse_envelope (RiscvControl.networkResponse i opcode sequence) _ 80 (st.networkPayload ids) rfl rfl rfl
  · exact parse_network st ids _ rfl

end Xczu47dr.Control
