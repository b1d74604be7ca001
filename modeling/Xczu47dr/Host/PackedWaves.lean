import Xczu47dr.Effects.Refusals
import Xczu47dr.Host.WaveProtocol

/-! # What the packers of the waveform requests accept

`pack_wave_*` succeed on arguments that fit, and on no others; the packet is then the
header and the padded payload.
-/

namespace Xczu47dr.Host

open Wire Refusals

theorem waveUint_ok {value : Int} {bits n : Nat} {name : String} {nonzero : Bool} :
    waveUint value bits name nonzero = .ok n ↔
      ((nonzero.toNat : Int) ≤ value ∧ value < 2 ^ bits) ∧ n = value.toNat := by
  unfold waveUint
  by_cases fits : (nonzero.toNat : Int) ≤ value ∧ value < 2 ^ bits
  · rw [if_pos fits]
    exact ⟨fun same => by cases same; exact ⟨fits, rfl⟩, fun ⟨_, same⟩ => by rw [same]⟩
  · rw [if_neg fits]
    exact ⟨nofun, fun ⟨within, _⟩ => absurd within fits⟩

/-! ## Packets -/

def wavePacket (opcode : Nat) (payload : List Wire.Byte) (seq : Nat) : List Wire.Byte :=
  pack [(8, waveCtrlMagic), (8, opcode <<< 32 ||| waveProtocolVersion), (8, payload.length <<< 32 ||| seq)] ++
    padded payload

def Unsigned (bits : Nat) (value : Int) : Prop := 0 ≤ value ∧ value < 2 ^ bits

theorem packWavePacket_ok {opcode seq : Int} {payload packet : List Wire.Byte} :
    packWavePacket opcode payload seq = .ok packet ↔
      Unsigned 32 opcode ∧ Unsigned 32 seq ∧ packet = wavePacket opcode.toNat payload seq.toNat := by
  unfold packWavePacket
  simp only [bind_ok, waveUint_ok, pure_ok]
  constructor
  · rintro ⟨_, ⟨known, rfl⟩, _, ⟨numbered, rfl⟩, packed⟩
    exact ⟨known, numbered, packed⟩
  · rintro ⟨known, numbered, packed⟩
    exact ⟨_, ⟨known, rfl⟩, _, ⟨numbered, rfl⟩, packed⟩

namespace BeginArguments

variable (a : BeginArguments)

/-- The arguments `pack_wave_begin` accepts. -/
structure Fit : Prop where
  session : 1 ≤ a.session ∧ a.session < 2 ^ 32
  totalBytes : 1 ≤ a.totalBytes ∧ a.totalBytes ≤ ddrMaxInterleavedBytes
  totalBeats : 1 ≤ a.totalBeats ∧ a.totalBeats < 2 ^ 32
  channelMask : 1 ≤ a.channelMask ∧ a.channelMask < 2 ^ 8
  loopCount : 1 ≤ a.loopCount ∧ a.loopCount < 2 ^ 32
  layout : a.layout = waveLayoutInterleaved512b
  whole : a.totalBytes = a.totalBeats * waveDacFrameBytes
  seq : Unsigned 32 a.seq

def payload : List Wire.Byte :=
  pack [(4, a.session.toNat), (8, a.totalBytes.toNat), (1, a.channelMask.toNat), (1, a.layout.toNat), (2, 0),
    (4, a.totalBeats.toNat), (4, a.loopCount.toNat), (4, ddrInterleavedBeatBytes)]

end BeginArguments

theorem packWaveBegin_ok {a : BeginArguments} {packet : List Wire.Byte} :
    packWaveBegin a = .ok packet ↔ a.Fit ∧ packet = wavePacket waveOpBegin a.payload a.seq.toNat := by
  have capacity : ddrMaxInterleavedBytes < 2 ^ 64 := by decide
  have interleaved : waveLayoutInterleaved512b = 1 := rfl
  have frame : waveDacFrameBytes = 256 := rfl
  unfold packWaveBegin
  simp only [bind_ok, waveUint_ok, refuse_ok, packWavePacket_ok]
  constructor
  · rintro ⟨_, ⟨session, rfl⟩, _, ⟨bytes, rfl⟩, _, ⟨beats, rfl⟩, _, ⟨mask, rfl⟩, _, ⟨loops, rfl⟩, _, ⟨layout, rfl⟩,
      whole, one, -, seq, packed⟩
    simp only [Bool.toNat_true, Bool.toNat_false, frame, interleaved] at session bytes beats mask loops layout whole one
    refine ⟨⟨session, ⟨bytes.1, ?_⟩, beats, mask, loops, ?_, ?_, seq⟩, packed⟩
    · omega
    · rw [interleaved]
      omega
    · rw [frame]
      omega
  · rintro ⟨fit, packed⟩
    obtain ⟨session, bytes, beats, mask, loops, layout, whole, seq⟩ := fit
    rw [interleaved] at layout
    rw [frame] at whole
    refine ⟨_, ⟨session, rfl⟩, _, ⟨⟨bytes.1, ?_⟩, rfl⟩, _, ⟨beats, rfl⟩, _, ⟨mask, rfl⟩, _, ⟨loops, rfl⟩, _,
      ⟨⟨?_, ?_⟩, rfl⟩, ?_, ?_, ⟨by decide, by decide⟩, seq, packed⟩
    · omega
    · rw [layout]
      decide
    · rw [layout]
      decide
    · rw [frame]
      omega
    · rw [layout, interleaved]
      decide

namespace DataArguments

variable (a : DataArguments)

/-- The arguments `pack_wave_data` accepts. -/
structure Fit : Prop where
  session : 1 ≤ a.session ∧ a.session < 2 ^ 32
  packetSeq : Unsigned 32 a.packetSeq
  byteOffset : 0 ≤ a.byteOffset ∧ a.byteOffset + a.payload.length ≤ 2 ^ 64
  aligned : a.byteOffset % beatBytes = 0
  length : 1 ≤ a.payload.length ∧ a.payload.length ≤ maxData
  beats : a.payload.length % beatBytes = 0
  seq : Unsigned 32 a.seq

def header : List Wire.Byte :=
  pack [(4, a.session.toNat), (4, a.packetSeq.toNat), (8, a.byteOffset.toNat), (4, a.payload.length),
    (4, crc32 a.payload)]

end DataArguments

theorem packWaveData_ok {a : DataArguments} {packet : List Wire.Byte} :
    packWaveData a = .ok packet ↔ a.Fit ∧ packet = wavePacket waveOpData (a.header ++ a.payload) a.seq.toNat := by
  have beat : beatBytes = 32 := rfl
  unfold packWaveData
  simp only [bind_ok, waveUint_ok, refuse_ok, packWavePacket_ok]
  constructor
  · rintro ⟨_, ⟨session, rfl⟩, _, ⟨order, rfl⟩, _, ⟨offset, rfl⟩, length, place, -, seq, packed⟩
    simp only [Bool.toNat_true, Bool.toNat_false, not_or, not_not, Nat.not_lt, beat]
      at session order offset length place
    refine ⟨⟨session, order, ⟨offset.1, ?_⟩, ?_, ⟨?_, length.2.1⟩, length.2.2, seq⟩, packed⟩
    · omega
    · rw [beat]
      omega
    · omega
  · rintro ⟨fit, packed⟩
    obtain ⟨session, order, offset, aligned, length, beats, seq⟩ := fit
    rw [beat] at aligned
    refine ⟨_, ⟨session, rfl⟩, _, ⟨order, rfl⟩, _, ⟨⟨offset.1, ?_⟩, rfl⟩, ?_, ?_, ⟨by decide, by decide⟩, seq, packed⟩
    · omega
    · rw [not_or, not_or, not_not, Nat.not_lt]
      exact ⟨by omega, length.2, beats⟩
    · rw [beat]
      omega

namespace CommandArguments

variable (a : CommandArguments)

/-- The arguments `pack_wave_command` accepts. -/
structure Fit : Prop where
  opcode : waveOpCommit ≤ a.opcode ∧ a.opcode ≤ waveOpStatus
  session : Unsigned 32 a.session
  seq : Unsigned 32 a.seq

end CommandArguments

theorem packWaveCommand_ok {a : CommandArguments} {packet : List Wire.Byte} :
    packWaveCommand a = .ok packet ↔
      a.Fit ∧ packet = wavePacket a.opcode.toNat (pack [(4, a.session.toNat)]) a.seq.toNat := by
  have codes : ∀ opcode : Nat, opcode ∈ [waveOpCommit, waveOpPlay, waveOpPause, waveOpStop, waveOpAbort, waveOpStatus] ↔
      3 ≤ opcode ∧ opcode ≤ 8 := by
    intro opcode
    simp only [waveOpCommit, waveOpPlay, waveOpPause, waveOpStop, waveOpAbort, waveOpStatus, List.mem_cons,
      List.not_mem_nil, or_false]
    omega
  have first : waveOpCommit = 3 := rfl
  have last : waveOpStatus = 8 := rfl
  unfold packWaveCommand
  simp only [bind_ok, waveUint_ok, refuse_ok, packWavePacket_ok, codes, not_not]
  constructor
  · rintro ⟨_, ⟨opcode, rfl⟩, known, _, ⟨session, rfl⟩, -, seq, packed⟩
    simp only [Bool.toNat_false] at opcode
    rw [Int.toNat_natCast] at packed
    exact ⟨⟨by omega, session, seq⟩, packed⟩
  · rintro ⟨fit, packed⟩
    obtain ⟨opcode, session, seq⟩ := fit
    refine ⟨_, ⟨⟨?_, ?_⟩, rfl⟩, ?_, _, ⟨session, rfl⟩, ⟨?_, ?_⟩, seq, ?_⟩
    · rw [Bool.toNat_false]
      omega
    · omega
    · omega
    · omega
    · omega
    · rw [Int.toNat_natCast]
      exact packed

end Xczu47dr.Host
