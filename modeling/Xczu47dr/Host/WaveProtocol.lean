import Xczu47dr.Host.InterleavedLayout
import Xczu47dr.Wire.LittleEndian

/-! # The waveform packets of the host

`pack_wave_*` and `parse_wave_response` of `protocol.py`.  An argument is a Python
integer of any size; a refusal carries the text of its exception.
-/

namespace Xczu47dr.Host

open Wire

/-- The exceptions of the wire formats. -/
inductive ProtocolError
  | parameterRange (text : String)
  | protocol (text : String)
  | protocolVersion (text : String)
  /-- `struct.error` -/
  | layout
  deriving DecidableEq, Repr

def waveCtrlMagic : Nat := 0x5741564543545230
def waveRespMagic : Nat := 0x5741564552535030
def waveProtocolVersion : Nat := 1
def waveOpBegin : Nat := 1
def waveOpData : Nat := 2
def waveOpCommit : Nat := 3
def waveOpPlay : Nat := 4
def waveOpPause : Nat := 5
def waveOpStop : Nat := 6
def waveOpAbort : Nat := 7
def waveOpStatus : Nat := 8
def waveLayoutInterleaved512b : Nat := 1
def waveCtrlHeaderBytes : Nat := 24
def waveDataHeaderBytes : Nat := 24
def waveResponseHeaderBytes : Nat := 24
def waveResponseCommonBytes : Nat := 28
def waveResponseDataBytes : Nat := 60
def waveResponseStatusBytes : Nat := 80
def waveDacFrameBytes : Nat := 8 * 32
def ddrUsableWaveformBytes : Nat := 8 * 1024 * 1024 * 1024 - 1 * 1024 * 1024
def ddrMaxBytesPerChannel : Nat := ddrUsableWaveformBytes / 8 / beatBytes * beatBytes
def ddrMaxInterleavedBytes : Nat := ddrMaxBytesPerChannel * 8
def udpMaxPayloadBytes : Nat := 1500 - 20 - 8

/-- `WAVEFORM_STATE_NAMES` -/
def waveformStateName : Nat → Option String
  | 0 => some "idle"
  | 1 => some "upload"
  | 2 => some "ready"
  | 3 => some "prefetch"
  | 4 => some "wait_trigger"
  | 5 => some "playing"
  | 6 => some "draining"
  | 7 => some "done"
  | 8 => some "error"
  | _ => none

/-! ## Requests -/

/-- `zlib.crc32`, bit by bit. -/
def crc32Bit (crc : BitVec 32) (bit : Bool) : BitVec 32 :=
  if (crc.getLsbD 0 ^^ bit) = true then (crc >>> 1) ^^^ 0xEDB88320 else crc >>> 1

def crc32 (payload : List Byte) : Nat :=
  ((payload.flatMap fun byte => (List.range 8).map byte.getLsbD).foldl crc32Bit 0xFFFFFFFF ^^^ 0xFFFFFFFF).toNat

/-- `_wave_uint` -/
def waveUint (value : Int) (bits : Nat) (name : String) (nonzero : Bool) : Except ProtocolError Nat :=
  if (nonzero.toNat : Int) ≤ value ∧ value < 2 ^ bits then .ok value.toNat
  else .error (.parameterRange s!"{name} is outside unsigned {bits}-bit range")

/-- `raw + b"\x00" * ((-len(raw)) % 8)` -/
def padded (raw : List Byte) : List Byte := raw ++ List.replicate ((8 - raw.length % 8) % 8) 0

/-- `_pack_wave_packet`, whose `flags` are always zero. -/
def packWavePacket (opcode : Int) (payload : List Byte) (seq : Int) : Except ProtocolError (List Byte) := do
  let opcode ← waveUint opcode 32 "opcode" false
  let seq ← waveUint seq 32 "seq" false
  return pack [(8, waveCtrlMagic), (8, opcode <<< 32 ||| waveProtocolVersion), (8, payload.length <<< 32 ||| seq)] ++
    padded payload

/-- The arguments of `pack_wave_begin`. -/
structure BeginArguments where
  session : Int
  totalBytes : Int
  channelMask : Int
  totalBeats : Int
  loopCount : Int
  layout : Int
  seq : Int

def packWaveBegin (a : BeginArguments) : Except ProtocolError (List Byte) := do
  let session ← waveUint a.session 32 "session" true
  let totalBytes ← waveUint a.totalBytes 64 "total_bytes" true
  let totalBeats ← waveUint a.totalBeats 32 "total_beats" true
  let channelMask ← waveUint a.channelMask 8 "channel_mask" true
  let loopCount ← waveUint a.loopCount 32 "loop_count" true
  let layout ← waveUint a.layout 8 "layout" false
  if ddrMaxInterleavedBytes < totalBytes ∨ totalBytes ≠ totalBeats * waveDacFrameBytes then
    throw (.parameterRange "total_bytes must equal total_beats * 8 * 32 and fit DDR capacity")
  if layout ≠ waveLayoutInterleaved512b then
    throw (.parameterRange "only eight-lane interleaved layout 1 is supported")
  packWavePacket waveOpBegin
    (pack [(4, session), (8, totalBytes), (1, channelMask), (1, layout), (2, 0), (4, totalBeats), (4, loopCount),
      (4, ddrInterleavedBeatBytes)]) a.seq

/-- The arguments of `pack_wave_data`. -/
structure DataArguments where
  session : Int
  packetSeq : Int
  byteOffset : Int
  payload : List Byte
  seq : Int

/-- `max_data` -/
def maxData : Nat := (udpMaxPayloadBytes - waveCtrlHeaderBytes - waveDataHeaderBytes) / beatBytes * beatBytes

def packWaveData (a : DataArguments) : Except ProtocolError (List Byte) := do
  let session ← waveUint a.session 32 "session" true
  let packetSeq ← waveUint a.packetSeq 32 "packet_seq" false
  let byteOffset ← waveUint a.byteOffset 64 "byte_offset" false
  if a.payload.length = 0 ∨ maxData < a.payload.length ∨ a.payload.length % beatBytes ≠ 0 then
    throw (.parameterRange s!"DATA must contain 32-byte multiples in 32..{maxData}")
  if byteOffset % beatBytes ≠ 0 ∨ 2 ^ 64 < byteOffset + a.payload.length then
    throw (.parameterRange "DATA offset must be 32-byte aligned without address overflow")
  packWavePacket waveOpData
    (pack [(4, session), (4, packetSeq), (8, byteOffset), (4, a.payload.length), (4, crc32 a.payload)] ++ a.payload) a.seq

/-- The arguments of `pack_wave_command`. -/
structure CommandArguments where
  opcode : Int
  session : Int
  seq : Int

def packWaveCommand (a : CommandArguments) : Except ProtocolError (List Byte) := do
  let opcode ← waveUint a.opcode 32 "opcode" false
  if opcode ∉ [waveOpCommit, waveOpPlay, waveOpPause, waveOpStop, waveOpAbort, waveOpStatus] then
    throw (.parameterRange s!"unsupported waveform command opcode: {opcode}")
  let session ← waveUint a.session 32 "session" false
  packWavePacket opcode (pack [(4, session)]) a.seq

/-! ## Responses -/

/-- The acknowledgement extension of a DATA response. -/
structure DataAcknowledgement where
  ackPacketSeq : Nat
  nextExpectedSequence : Nat
  receivedBytes : Nat
  firstErrorOffset : Nat
  expectedCrc : Nat
  actualCrc : Nat
  deriving DecidableEq

/-- The extension of a STATUS response. -/
structure StatusReport where
  currentBeat : Nat
  loopPosition : Nat
  loopCount : Nat
  channelMask : Nat
  layout : Nat
  fifoLevels : List Nat
  errorCount : Nat
  underflowCount : Nat
  triggerSeenCount : Nat
  triggerDroppedCount : Nat
  triggerFireCount : Nat
  deriving DecidableEq

inductive WaveExtension
  | common
  | data (acknowledgement : DataAcknowledgement)
  | status (report : StatusReport)
  deriving DecidableEq

/-- The result of `parse_wave_response`. -/
structure WaveResponse where
  version : Nat
  opcode : Nat
  flags : Nat
  seq : Nat
  payloadBytes : Nat
  payload : List Byte
  session : Nat
  state : Nat
  stateName : String
  status : Nat
  errorCode : Nat
  descriptor : Nat
  errorOffset : Nat
  extension : WaveExtension
  deriving DecidableEq

/-- `0x{value:016X}` -/
def hexWord (value : Nat) : String :=
  let digits := (Nat.toDigits 16 value).map Char.toUpper
  "0x" ++ String.ofList (List.replicate (16 - digits.length) '0' ++ digits)

def waveResponseBytes (opcode : Nat) : Nat :=
  if opcode = waveOpData then waveResponseDataBytes
  else if opcode = waveOpStatus then waveResponseStatusBytes
  else waveResponseCommonBytes

def parseExtension (opcode : Nat) (payload : List Byte) : Except ProtocolError WaveExtension :=
  if opcode = waveOpData then
    match unpack [4, 4, 8, 8, 4, 4] (payload.drop waveResponseCommonBytes) with
    | some [ackPacketSeq, nextExpectedSequence, receivedBytes, firstErrorOffset, expectedCrc, actualCrc] =>
      .ok (.data ⟨ackPacketSeq, nextExpectedSequence, receivedBytes, firstErrorOffset, expectedCrc, actualCrc⟩)
    | _ => .error .layout
  else if opcode = waveOpStatus then
    match unpack ([4, 4, 4, 4] ++ List.replicate 8 2 ++ [4, 4, 4, 4, 4]) (payload.drop waveResponseCommonBytes) with
    | some (currentBeat :: loopPosition :: loopCount :: statusMeta :: statusTail) =>
      match statusTail.drop 8 with
      | [errorCount, underflowCount, triggerSeenCount, triggerDroppedCount, triggerFireCount] =>
        .ok (.status
          { currentBeat := currentBeat
            loopPosition := loopPosition
            loopCount := loopCount
            channelMask := statusMeta &&& 0xFF
            layout := (statusMeta >>> 8) &&& 0xFF
            fifoLevels := statusTail.take 8
            errorCount := errorCount
            underflowCount := underflowCount
            triggerSeenCount := triggerSeenCount
            triggerDroppedCount := triggerDroppedCount
            triggerFireCount := triggerFireCount })
      | _ => .error .layout
    | _ => .error .layout
  else .ok .common

/-- `parse_wave_response` -/
def parseWaveResponse (raw : List Byte) (validateVersion : Bool) : Except ProtocolError WaveResponse := do
  if raw.length < waveResponseHeaderBytes then throw (.protocol "waveform response header is truncated")
  match unpack [8, 8, 8] raw with
  | some [magic, hdr0, hdr1] =>
    if magic ≠ waveRespMagic then throw (.protocol s!"unexpected waveform response magic {hexWord magic}")
    let version := hdr0 &&& 0xFFFF
    let opcode := hdr0 >>> 32
    if validateVersion ∧ version ≠ waveProtocolVersion then
      throw (.protocolVersion s!"waveform protocol version {version} is not supported")
    if ¬ (waveOpBegin ≤ opcode ∧ opcode ≤ waveOpStatus) then
      throw (.protocol s!"unknown waveform response opcode {opcode}")
    let size := hdr1 >>> 32
    let expected := waveResponseBytes opcode
    if size ≠ expected then
      throw (.protocol s!"waveform opcode {opcode} requires {expected} payload bytes, got {size}")
    if raw.length ≠ waveResponseHeaderBytes + (size + 7) / 8 * 8 then
      throw (.protocol "waveform response datagram length does not match its envelope")
    if (raw.drop (waveResponseHeaderBytes + size)).any (· ≠ 0) then
      throw (.protocol "waveform response has nonzero padding")
    let payload := (raw.drop waveResponseHeaderBytes).take size
    match unpack [4, 4, 4, 4, 4, 8] payload with
    | some [session, state, status, errorCode, descriptor, errorOffset] =>
      match waveformStateName state with
      | none => throw (.protocol s!"unknown waveform state {state}")
      | some stateName =>
        if status ≠ (hdr0 >>> 16) &&& 0xFFFF then
          throw (.protocol "waveform response header and payload status disagree")
        let extension ← parseExtension opcode payload
        return {
          version := version
          opcode := opcode
          flags := (hdr0 >>> 16) &&& 0xFFFF
          seq := hdr1 &&& 0xFFFFFFFF
          payloadBytes := size
          payload := payload
          session := session
          state := state
          stateName := stateName
          status := status
          errorCode := errorCode
          descriptor := descriptor
          errorOffset := errorOffset
          extension := extension }
    | _ => throw .layout
  | _ => throw .layout

end Xczu47dr.Host
