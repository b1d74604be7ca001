import Xczu47dr.Chunking.Walks
import Xczu47dr.Host.InterleavedLayout
import Xczu47dr.Host.WaveProtocol

/-! # The record of a maximum-length test

`host.py` makes a record that fills the DDR in chunks, from a marker pattern
or a slow sine, and can keep it in a file. The sine's samples are a function of
the beat and the channel here; a text raised is its message.
-/

namespace Xczu47dr.Host

open Chunking

inductive MaxLengthPattern where
  | cwMarker
  | lowfreqSine
deriving DecidableEq

/-! ## Markers -/

inductive MarkerRegion where
  | start
  | middle
  | ending
  | body
deriving DecidableEq

/-- `region_bases` -/
def MarkerRegion.base : MarkerRegion → Nat
  | .body => 0x0800
  | .start => 0x1000
  | .middle => 0x2000
  | .ending => 0x3000

def maxLengthMarkerAmplitude (channel : Nat) (region : MarkerRegion) : Except String Nat :=
  if channel < 1 ∨ ddrInterleavedChannels < channel then .error "channel must be in 1..8"
  else .ok (region.base + channel * 0x80)

def maxLengthMarkerRegion (physicalOffset totalPhysicalBytes markerBytesPerChannel : Nat) : MarkerRegion :=
  let markerPhysicalBytes := markerBytesPerChannel * ddrInterleavedChannels
  let middleStart := totalPhysicalBytes / 2 - markerPhysicalBytes / 2
  if physicalOffset < markerPhysicalBytes then .start
  else if middleStart ≤ physicalOffset ∧ physicalOffset < middleStart + markerPhysicalBytes then .middle
  else if totalPhysicalBytes - markerPhysicalBytes ≤ physicalOffset then .ending
  else .body

/-- `struct.pack("<hhhh", amplitude, 0, amplitude, 0)` -/
def markerLane (amplitude : Nat) : List Byte := Wire.pack [(2, amplitude), (2, 0), (2, amplitude), (2, 0)]

def maxLengthInterleavedBeat (beatIndex totalBeats markerBytesPerChannel : Nat) : Except String (List Byte) :=
  if totalBeats ≤ beatIndex then .error "beat_index must select an existing 512-bit beat"
  else do
    let region := maxLengthMarkerRegion (beatIndex * ddrInterleavedBeatBytes) (totalBeats * ddrInterleavedBeatBytes)
      markerBytesPerChannel
    let lanes ← channels.mapM fun channel => do
      let amplitude ← maxLengthMarkerAmplitude channel region
      return markerLane amplitude
    return lanes.flatten

/-! ## The sine -/

/-- The two in-phase samples of each beat and channel. -/
abbrev SineSamples := Nat → Nat → Sample × Sample

/-- A beat of `max_length_lowfreq_sine_payload` -/
def sineBeat (sine : SineSamples) (beatIndex : Nat) : List Byte :=
  (List.range ddrInterleavedChannels).flatMap fun channel =>
    let (first, second) := sine beatIndex channel
    waveformBytes [first, 0, second, 0]

def maxLengthLowfreqSinePayload (sine : SineSamples) (startBeat beatCount : Nat) : List Byte :=
  piece (sineBeat sine) startBeat beatCount

/-! ## Chunks -/

/-- The inner loop of the marker pattern: a chunk shrinks until its last beat is in the region of its first. -/
def shrunk (region : Nat → MarkerRegion) (beatIndex : Nat) : Nat → Nat
  | 0 => 0
  | 1 => 1
  | count + 2 =>
      if region (beatIndex + count + 1) = region beatIndex then count + 2 else shrunk region beatIndex (count + 1)

/-- The arguments of a record. -/
structure MaxLengthRecord where
  bytesPerChannel : Nat
  markerBytesPerChannel : Nat
  pattern : MaxLengthPattern
deriving DecidableEq

namespace MaxLengthRecord

variable (record : MaxLengthRecord) (sine : SineSamples)

def totalPhysicalBytes : Nat := record.bytesPerChannel * ddrInterleavedChannels

def totalBeats : Nat := record.totalPhysicalBytes / ddrInterleavedBeatBytes

def region (beatIndex : Nat) : MarkerRegion :=
  maxLengthMarkerRegion (beatIndex * ddrInterleavedBeatBytes) record.totalPhysicalBytes record.markerBytesPerChannel

/-- `count` at a beat -/
def chunkCount (chunkBeats beatIndex : Nat) : Nat :=
  let count := min chunkBeats (record.totalBeats - beatIndex)
  match record.pattern with
  | .cwMarker => shrunk record.region beatIndex count
  | .lowfreqSine => count

/-- `payload` at a beat -/
def chunkPayload (beatIndex count : Nat) : Except String (List Byte) :=
  match record.pattern with
  | .cwMarker => do
      let beat ← maxLengthInterleavedBeat beatIndex record.totalBeats record.markerBytesPerChannel
      return (List.replicate count beat).flatten
  | .lowfreqSine => return maxLengthLowfreqSinePayload sine beatIndex count

/-- `iter_max_length_payload_chunks` -/
def iterMaxLengthPayloadChunks (chunkBeats : Nat) : Except String (List (Nat × List Byte)) := do
  let _ ← requireBeatAligned record.bytesPerChannel "bytes_per_channel"
  if record.bytesPerChannel = 0 ∨ ddrMaxBytesPerChannel < record.bytesPerChannel then
    throw s!"bytes_per_channel must be in [32, {ddrMaxBytesPerChannel}], got {record.bytesPerChannel}"
  if chunkBeats = 0 then throw "chunk_beats must be positive"
  if record.markerBytesPerChannel = 0 ∨ record.markerBytesPerChannel % beatBytes ≠ 0 then
    throw "marker_bytes_per_channel must be a positive 32B multiple"
  (walk (record.chunkCount chunkBeats) record.totalBeats record.totalBeats 0).mapM fun beatIndex => do
    let payload ← record.chunkPayload sine beatIndex (record.chunkCount chunkBeats beatIndex)
    return (beatIndex, payload)

/-! ## The file -/

/-- `ensure_max_length_waveform_cache`: what is in the file afterwards; `cached` is what was in it before. -/
def ensureMaxLengthWaveformCache (cached : Option (List Byte)) (force : Bool) (generationChunkBeats : Nat) :
    Except String (List Byte) := do
  let _ ← requireBeatAligned record.bytesPerChannel "bytes_per_channel"
  let expectedSize := record.bytesPerChannel * ddrInterleavedChannels
  if (cached.map List.length = some expectedSize) ∧ force = false then return cached.getD []
  else do
    let chunks ← record.iterMaxLengthPayloadChunks sine generationChunkBeats
    let written := (chunks.map Prod.snd).flatten
    if written.length ≠ expectedSize then
      throw s!"cache generation wrote {written.length} bytes, expected {expectedSize}"
    return written

end MaxLengthRecord

/-- The loop of `iter_max_length_payload_chunks_from_cache` over what is left of the file. -/
def readCache (chunkBytes expectedSize beatIndex readBytes : Nat) (left : List Byte) :
    Except String (List (Nat × List Byte)) :=
  let payload := left.take (min chunkBytes (expectedSize - readBytes))
  if _ : payload.length = 0 then
    if readBytes ≠ expectedSize then .error s!"cache read {readBytes} bytes, expected {expectedSize}" else .ok []
  else if payload.length % ddrInterleavedBeatBytes ≠ 0 then .error "cache chunk is not 512-bit beat aligned"
  else do
    let later ← readCache chunkBytes expectedSize (beatIndex + payload.length / ddrInterleavedBeatBytes)
      (readBytes + payload.length) (left.drop payload.length)
    return (beatIndex, payload) :: later
termination_by left.length
decreasing_by
  have taken : payload.length ≤ left.length := List.length_take_le' _ left
  have present : 0 < payload.length := Nat.pos_of_ne_zero (by assumption)
  change (left.drop payload.length).length < left.length
  rw [List.length_drop]
  omega

/-- `iter_max_length_payload_chunks_from_cache` -/
def iterMaxLengthPayloadChunksFromCache (cache : List Byte) (bytesPerChannel chunkBeats : Nat) :
    Except String (List (Nat × List Byte)) := do
  let _ ← requireBeatAligned bytesPerChannel "bytes_per_channel"
  if bytesPerChannel = 0 ∨ ddrMaxBytesPerChannel < bytesPerChannel then
    throw s!"bytes_per_channel must be in [32, {ddrMaxBytesPerChannel}], got {bytesPerChannel}"
  if chunkBeats = 0 then throw "chunk_beats must be positive"
  let expectedSize := bytesPerChannel * ddrInterleavedChannels
  if cache.length ≠ expectedSize then
    throw s!"cache file size {cache.length} does not match expected {expectedSize}"
  readCache (chunkBeats * ddrInterleavedBeatBytes) expectedSize 0 0 cache

end Xczu47dr.Host
