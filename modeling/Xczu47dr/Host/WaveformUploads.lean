import Xczu47dr.Host.StreamedUpload
import Xczu47dr.Host.WaveFormats

/-! # Uploads of waveforms

`Dr47Device.upload_waveforms`: the waveforms of the channels are converted, muted where the
channel mask leaves them out, packed into one image and sent.
-/

namespace Xczu47dr.Host

/-- What a caller has handed over: a list, or an array with items of so many bytes. -/
inductive WaveSource
  | list
  | ndarray (itemsize : Nat)

structure Wave where
  array : WaveArray
  source : WaveSource

/-- The exceptions of `upload_waveforms`. -/
inductive WaveformError
  | format (e : WaveformFormatError)
  | unsupportedParameter (operation required : String)
  | upload (e : UploadError)

abbrev WaveformCall (α : Type) := ExceptT WaveformError (StateM UploadRun) α

def uploading {α : Type} (x : Sending α) : WaveformCall α := fun run =>
  match x run with
  | (.ok a, next) => (.ok a, next)
  | (.error e, next) => (.error (.upload e), next)

def converting {α : Type} (x : Except WaveformError α) : WaveformCall α :=
  match x with
  | .ok a => pure a
  | .error e => throw e

/-- A `ParameterRangeError` -/
def outOfRange (text : String) : WaveformError := .upload (.wire (.parameterRange text))

/-- `_infer_wave_format` -/
def inferWaveFormat (wave : Wave) (physicalChannel : Int) : String :=
  if wave.array.shape.length = 2 then "iq_matrix"
  else match wave.source with
    | .list =>
      if wave.array.items ≠ [] ∧ ∀ item ∈ wave.array.items, -32768 ≤ item ∧ item ≤ 32767 then
        if physicalChannel = 5 ∨ physicalChannel = 6 then "z" else "interleaved_iq"
      else "packed_iq"
    | .ndarray itemsize => if 4 ≤ itemsize then "packed_iq" else "interleaved_iq"

/-- `(wave_formats or {}).get(physical) or _infer_wave_format(wave, physical)` -/
def waveFormatOf (waveFormats : List (Int × String)) (wave : Wave) (physical : Int) : String :=
  match waveFormats.lookup physical with
  | some fmt => if fmt = "" then inferWaveFormat wave physical else fmt
  | none => inferWaveFormat wave physical

/-- `normalized` after the loop over `channel_waves` -/
def normalizeWaves (waveFormats : List (Int × String)) : List (Int × Wave) → Except WaveformError ChannelWaves
  | [] => .ok []
  | (physical, wave) :: rest => do
    if ¬ (1 ≤ physical ∧ physical ≤ 8) then
      throw (outOfRange "physical channel must be in 1..8")
    let lanes ← (ezqWaveToInterleavedInt16 wave.array (waveFormatOf waveFormats wave physical)).mapError .format
    let others ← normalizeWaves waveFormats rest
    return (physical.toNat, lanes) :: others

/-- `sum(1 << (ch - 1) for ch in normalized)` -/
def channelBits (converted : ChannelWaves) : Nat := (converted.map fun (ch, _) => 1 <<< (ch - 1)).sum

/-- The channels that the mask leaves out become zeros. -/
def muted (mask : Nat) (converted : ChannelWaves) : ChannelWaves :=
  converted.map fun (ch, wave) => (ch, if mask.testBit (ch - 1) then wave else List.replicate wave.length 0)

/-- The arguments of `upload_waveforms`; the channels are the keys of a dictionary. -/
structure WaveformArguments where
  channelWaves : List (Int × Wave)
  channelSequences : Bool
  waveFormats : List (Int × String)
  channelMask : Option Int
  loopCount : Int
  distinct : (channelWaves.map Prod.fst).Nodup

structure WaveformReport where
  session : Nat
  channels : List Nat
  channelMask : Nat
  bytes : Nat
  bytesPerChannel : Nat
  totalBeats : Nat
  loopCount : Int
  packetCount : Nat
  state : Nat
  descriptor : Nat

/-- `packet_bytes` of `upload_waveforms` -/
def imagePacketBytes : Nat := 1024

/-- `upload_waveforms` from the BEGIN on; the reply to the COMMIT. -/
def uploadImage (board : Board) (session mask : Nat) (loopCount : Int) (image : List Wire.Byte) :
    Sending WaveReply := do
  let begun ← waveRequest board fun seq =>
    .begin ⟨session, image.length, mask, (image.length / waveDacFrameBytes : Nat), loopCount,
      waveLayoutInterleaved512b, seq⟩
  let _ ← checkWaveResponse begun "BEGIN"
  let _ ← sendPieces board session 0 (pieces imagePacketBytes image) 0
  let reply ← waveRequest board fun seq => .commit ⟨waveOpCommit, session, seq⟩
  checkWaveResponse reply "COMMIT"

/-- `upload_waveforms` -/
def uploadWaveforms (board : Board) (a : WaveformArguments) : WaveformCall WaveformReport := do
  if a.channelWaves.isEmpty then
    throw (outOfRange "channel_waves must not be empty")
  if a.channelSequences then
    throw (.unsupportedParameter "channel_sequences" "instruction playback was removed")
  let converted ← converting (normalizeWaves a.waveFormats a.channelWaves)
  let mask ← uploading (raising (waveUint (a.channelMask.getD (channelBits converted)) 8 "channel_mask" true))
  let packed := packInterleaved512bWaveforms (muted mask converted)
  if packed.1.isEmpty then
    throw (outOfRange "waveform image must contain at least one beat")
  let session ← uploading (takeSession none)
  let committed ← uploading (uploadImage board session mask a.loopCount packed.1)
  return {
    session := session
    channels := (converted.map Prod.fst).mergeSort
    channelMask := mask
    bytes := packed.1.length
    bytesPerChannel := packed.2 * 2
    totalBeats := packed.1.length / waveDacFrameBytes
    loopCount := a.loopCount
    packetCount := (packed.1.length + imagePacketBytes - 1) / imagePacketBytes
    state := committed.state
    descriptor := committed.descriptor }

/-! ## The waveforms that are left -/

/-- The samples of a channel: those of its converted waveform, if the mask names the channel. -/
def playedSamples (mask : Nat) (converted : ChannelWaves) (channel : Nat) : List Sample :=
  if mask.testBit (channel - 1) then normalized converted channel else []

theorem normalized_muted (mask : Nat) (converted : ChannelWaves) (channel : Nat) :
    normalized (muted mask converted) channel =
      if mask.testBit (channel - 1) then normalized converted channel
      else List.replicate (normalized converted channel).length 0 := by
  induction converted with
  | nil =>
    rw [muted, List.map_nil, normalized, List.lookup_nil]
    split_ifs <;> rfl
  | cons entry rest ih =>
    obtain ⟨ch, wave⟩ := entry
    rw [normalized, normalized] at ih
    rw [muted, List.map_cons, normalized, normalized, List.lookup_cons, List.lookup_cons]
    by_cases own : (channel == ch) = true
    · rw [own]
      obtain rfl := beq_iff_eq.mp own
      rfl
    · rw [Bool.eq_false_iff.mpr own]
      exact ih

/-- A muted channel is as good as one without a waveform. -/
theorem muted_getD (mask : Nat) (converted : ChannelWaves) (channel position : Nat) :
    (waveformBytes (normalized (muted mask converted) channel)).getD position 0 =
      (waveformBytes (playedSamples mask converted channel)).getD position 0 := by
  rw [normalized_muted, playedSamples]
  split_ifs with enabled
  · rfl
  · rw [waveformBytes_zeros, List.getD_eq_getElem?_getD, List.getElem?_replicate]
    split <;> rfl

end Xczu47dr.Host
