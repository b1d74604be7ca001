import Mathlib.Tactic.IntervalCases
import Xczu47dr.Host.PackedWaves
import Xczu47dr.Host.Rfctrl2Responses

/-! # The receive loops of the transport

`UdpTransport.receive_rfresp2` and `receive_wave_response`: a datagram from elsewhere is
skipped, one from the board is decoded, and only then its sequence number and opcode are
compared.  Both protocols share the socket.
-/

namespace Xczu47dr.Host

open Wire Refusals

/-- A datagram, with the host and port it came from. -/
structure Datagram where
  raw : List Byte
  addr : Option (String × Int)

/-- What `recvfrom` returns or raises; an empty queue times out. -/
inductive Reception
  | packet (d : Datagram)
  | timeout
  | osError (text : String)

inductive ReceiveError
  | timeout (text : String)
  | transport (text : String)
  | wire (e : ProtocolError)

structure UdpTransport where
  ip : String
  port : Int
  closed : Bool

/-- `_source_matches` -/
def UdpTransport.sourceMatches (t : UdpTransport) : Option (String × Int) → Bool
  | none => false
  | some (host, port) =>
    if port ≠ t.port then false
    else t.ip == "255.255.255.255" || t.ip == "169.254.255.255" || host == t.ip

/-- A value is not the one that is expected, if one is: `expected & 0xFFFFFFFF`. -/
def differs (expected : Option Int) (value : Nat) : Bool :=
  match expected with
  | none => false
  | some expected => decide ((value : Int) ≠ expected % 2 ^ 32)

/-- What the two loops do not have in common. -/
structure ResponseFormat (α : Type) where
  name : String
  decode : List Byte → Except ProtocolError α
  seq : α → Nat
  opcode : α → Nat

section Loop

variable {α : Type}

def receiveLoop (t : UdpTransport) (f : ResponseFormat α) (expectedSeq expectedOpcode : Option Int) :
    List Reception → Except ReceiveError (α × Option (String × Int)) × List Reception
  | [] => (.error (.timeout s!"timed out waiting for {f.name} from {t.ip}:{t.port}"), [])
  | .timeout :: rest => (.error (.timeout s!"timed out waiting for {f.name} from {t.ip}:{t.port}"), rest)
  | .osError text :: rest => (.error (.transport s!"receiving {f.name} failed: {text}"), rest)
  | .packet d :: rest =>
    if t.sourceMatches d.addr = false then receiveLoop t f expectedSeq expectedOpcode rest
    else
      match f.decode d.raw with
      | .error e => (.error (.wire e), rest)
      | .ok response =>
        if differs expectedSeq (f.seq response) then receiveLoop t f expectedSeq expectedOpcode rest
        else if differs expectedOpcode (f.opcode response) then receiveLoop t f expectedSeq expectedOpcode rest
        else (.ok (response, d.addr), rest)

end Loop

def rfresp2 : ResponseFormat Rfresp2 where
  name := "RFRESP2"
  decode raw := parseRfresp2Packet raw true
  seq := Rfresp2.seq
  opcode := Rfresp2.opcode

def waveform : ResponseFormat WaveResponse where
  name := "waveform response"
  decode raw := parseWaveResponse raw true
  seq := WaveResponse.seq
  opcode := WaveResponse.opcode

namespace UdpTransport

variable (t : UdpTransport) (expectedSeq expectedOpcode : Option Int) (queue : List Reception)

def receiveRfresp2 : Except ReceiveError (Rfresp2 × Option (String × Int)) × List Reception :=
  if t.closed then (.error (.transport "UDP transport is closed"), queue)
  else receiveLoop t rfresp2 expectedSeq expectedOpcode queue

def receiveWaveResponse : Except ReceiveError (WaveResponse × Option (String × Int)) × List Reception :=
  if t.closed then (.error (.transport "UDP transport is closed"), queue)
  else receiveLoop t waveform expectedSeq expectedOpcode queue

end UdpTransport

/-! ## What a datagram is -/

/-- The sequence number and the opcode in the header of a response, of either protocol. -/
def headerSeq (raw : List Byte) : Nat := unpackAt raw 16 8 &&& 0xFFFFFFFF

def headerOpcode (raw : List Byte) : Nat := unpackAt raw 8 8 >>> 32

/-- The datagram answers the request: it comes from the board, and its header has the magic
    word, the sequence number and the opcode that are awaited. -/
structure Awaited (t : UdpTransport) (magic : Nat) (expectedSeq expectedOpcode : Option Int) (d : Datagram) :
    Prop where
  source : t.sourceMatches d.addr = true
  header : 24 ≤ d.raw.length
  magic : unpackAt d.raw 0 8 = magic
  seq : differs expectedSeq (headerSeq d.raw) = false
  opcode : differs expectedOpcode (headerOpcode d.raw) = false

/-- The bytes of a response in the format RFRESP2. -/
structure IsRfresp2 (raw : List Byte) : Prop where
  header : 24 ≤ raw.length
  magic : unpackAt raw 0 8 = udpRfresp2Magic
  version : unpackAt raw 8 8 &&& 0xFFFF = rfctrl2Version
  payload : 24 + (unpackAt raw 16 8 >>> 32) ≤ raw.length

/-- The bytes of a waveform response. -/
structure IsWaveResponse (raw : List Byte) : Prop where
  header : 24 ≤ raw.length
  magic : unpackAt raw 0 8 = waveRespMagic
  version : unpackAt raw 8 8 &&& 0xFFFF = waveProtocolVersion
  opcode : waveOpBegin ≤ headerOpcode raw ∧ headerOpcode raw ≤ waveOpStatus
  size : unpackAt raw 16 8 >>> 32 = waveResponseBytes (headerOpcode raw)
  length : raw.length = 24 + (waveResponseBytes (headerOpcode raw) + 7) / 8 * 8
  padding : ∀ byte ∈ raw.drop (24 + waveResponseBytes (headerOpcode raw)), byte = 0
  state : unpackAt raw 28 4 ≤ 8
  status : unpackAt raw 32 4 = (unpackAt raw 8 8 >>> 16) &&& 0xFFFF

/-! ## What decodes -/

/-- The fields of these widths at the front. -/
def unpackedFields : List Nat → List Byte → List Nat
  | [], _ => []
  | n :: widths, bytes => ofLittleEndian (bytes.take n) :: unpackedFields widths (bytes.drop n)

theorem unpack_enough {widths : List Nat} {bytes : List Byte} (enough : widths.sum ≤ bytes.length) :
    unpack widths bytes = some (unpackedFields widths bytes) := by
  induction widths generalizing bytes with
  | nil => rfl
  | cons n widths ih =>
    rw [List.sum_cons] at enough
    rw [unpack, if_neg (by omega), ih (by rw [List.length_drop]; omega)]
    rfl

theorem unpackAt_lt (raw : List Byte) (offset width : Nat) : unpackAt raw offset width < 256 ^ width := by
  have below := @ofLittleEndian_lt ((raw.drop offset).take width)
  have length := List.length_take_le width (raw.drop offset)
  exact Nat.lt_of_lt_of_le below (Nat.pow_le_pow_right (by decide) length)

/-- The high half of a header word needs no mask. -/
theorem high_half (raw : List Byte) (offset : Nat) :
    (unpackAt raw offset 8 >>> 32) &&& 0xFFFFFFFF = unpackAt raw offset 8 >>> 32 := by
  have below := unpackAt_lt raw offset 8
  rw [show (0xFFFFFFFF : Nat) = 2 ^ 32 - 1 from rfl, Nat.and_two_pow_sub_one_eq_mod, Nat.shiftRight_eq_div_pow]
  apply Nat.mod_eq_of_lt
  rw [Nat.div_lt_iff_lt_mul (by decide)]
  exact below

theorem parseRfresp2Packet_ok {raw : List Byte} {response : Rfresp2} :
    parseRfresp2Packet raw true = .ok response ↔ IsRfresp2 raw ∧ response = {
      version := rfctrl2Version
      status := (unpackAt raw 8 8 >>> 16) &&& 0xFFFF
      opcode := headerOpcode raw
      flags := (unpackAt raw 8 8 >>> 16) &&& 0xFFFF
      seq := headerSeq raw
      payloadBytes := unpackAt raw 16 8 >>> 32
      payload := (raw.drop 24).take (unpackAt raw 16 8 >>> 32) } := by
  unfold parseRfresp2Packet
  simp only [refuse_ok, pure_ok, high_half, not_lt, not_not, true_and]
  constructor
  · rintro ⟨header, magic, version, payload, rfl⟩
    exact ⟨⟨header, magic, version, payload⟩, by rw [version, headerOpcode, headerSeq]⟩
  · rintro ⟨⟨header, magic, version, payload⟩, rfl⟩
    exact ⟨header, magic, version, payload, by rw [version, headerOpcode, headerSeq]⟩

theorem unpack_header {raw : List Byte} (header : 24 ≤ raw.length) :
    unpack [8, 8, 8] raw = some [unpackAt raw 0 8, unpackAt raw 8 8, unpackAt raw 16 8] := by
  rw [unpack_enough (by exact header)]
  simp only [unpackedFields, List.drop_drop]
  rfl

/-- A field of the payload is one of the datagram. -/
theorem field_at (raw : List Byte) {size offset width : Nat} (inside : offset + width ≤ size) :
    ofLittleEndian ((((raw.drop 24).take size).drop offset).take width) = unpackAt raw (24 + offset) width := by
  rw [unpackAt, List.drop_take, List.take_take, List.drop_drop, Nat.min_eq_left (by omega)]

theorem unpack_common {raw : List Byte} {size : Nat} (common : waveResponseCommonBytes ≤ size)
    (reaches : 24 + size ≤ raw.length) :
    unpack [4, 4, 4, 4, 4, 8] ((raw.drop 24).take size) = some [unpackAt raw 24 4, unpackAt raw 28 4,
      unpackAt raw 32 4, unpackAt raw 36 4, unpackAt raw 40 4, unpackAt raw 44 8] := by
  rw [waveResponseCommonBytes] at common
  rw [unpack_enough]
  · simp only [unpackedFields, List.drop_drop]
    rw [← field_at raw (show 0 + 4 ≤ size by omega), ← field_at raw (show 4 + 4 ≤ size by omega),
      ← field_at raw (show 8 + 4 ≤ size by omega), ← field_at raw (show 12 + 4 ≤ size by omega),
      ← field_at raw (show 16 + 4 ≤ size by omega), ← field_at raw (show 20 + 8 ≤ size by omega)]
    rfl
  · rw [List.length_take, List.length_drop]
    simp only [List.sum_cons, List.sum_nil]
    omega

theorem parseExtension_returns {opcode : Nat} {payload : List Byte}
    (length : payload.length = waveResponseBytes opcode) :
    ∃ extension, parseExtension opcode payload = .ok extension := by
  rw [waveResponseBytes] at length
  rw [parseExtension]
  split_ifs at length ⊢ with data status
  · rw [unpack_enough (by rw [List.length_drop, length]; decide)]
    exact ⟨_, rfl⟩
  · rw [unpack_enough (by rw [List.length_drop, length]; decide)]
    exact ⟨_, rfl⟩
  · exact ⟨_, rfl⟩

theorem waveformStateName_some {state : Nat} : (∃ name, waveformStateName state = some name) ↔ state ≤ 8 := by
  constructor
  · rintro ⟨name, known⟩
    by_contra above
    rw [waveformStateName] at known
    · cases known
    all_goals omega
  · intro below
    interval_cases state <;> exact ⟨_, rfl⟩

/-- The payload of a response is there, with the fields all of them have. -/
theorem payload_length {raw : List Byte} {opcode : Nat}
    (length : raw.length = 24 + (waveResponseBytes opcode + 7) / 8 * 8) :
    waveResponseCommonBytes ≤ waveResponseBytes opcode ∧ 24 + waveResponseBytes opcode ≤ raw.length ∧
      ((raw.drop 24).take (waveResponseBytes opcode)).length = waveResponseBytes opcode := by
  have common : waveResponseCommonBytes ≤ waveResponseBytes opcode := by
    rw [waveResponseBytes]
    split_ifs <;> decide
  refine ⟨common, by omega, ?_⟩
  rw [List.length_take, List.length_drop]
  omega

theorem parseWaveResponse_returns {raw : List Byte} (is_response : IsWaveResponse raw) :
    ∃ response, parseWaveResponse raw true = .ok response := by
  obtain ⟨header, magic, version, opcode, size, length, padding, state, status⟩ := is_response
  obtain ⟨name, known⟩ := waveformStateName_some.mpr state
  obtain ⟨common, reaches, enough⟩ := payload_length length
  obtain ⟨extension, extends_to⟩ := parseExtension_returns enough
  have zeros : ¬ ((raw.drop (24 + waveResponseBytes (headerOpcode raw))).any (· ≠ 0)) = true := by
    rw [List.any_eq_true]
    rintro ⟨byte, among, nonzero⟩
    exact of_decide_eq_true nonzero (padding byte among)
  rw [headerOpcode] at *
  apply Exists.intro
  unfold parseWaveResponse
  rw [refuse_ok]
  refine ⟨not_lt.mpr header, ?_⟩
  rw [unpack_header header]
  dsimp only
  rw [size]
  simp only [refuse_ok]
  refine ⟨not_not.mpr magic, by rw [version]; exact fun wrong => wrong.2 rfl, not_not.mpr opcode,
    not_not.mpr rfl, not_not.mpr length, zeros, ?_⟩
  rw [show waveResponseHeaderBytes = 24 from rfl, unpack_common common reaches]
  dsimp only
  rw [known]
  dsimp only
  rw [refuse_ok, bind_ok]
  exact ⟨not_not.mpr status, extension, extends_to, rfl⟩

theorem parseWaveResponse_ok {raw : List Byte} {response : WaveResponse}
    (returns : parseWaveResponse raw true = .ok response) :
    IsWaveResponse raw ∧ response.seq = headerSeq raw ∧ response.opcode = headerOpcode raw := by
  unfold parseWaveResponse at returns
  rw [refuse_ok] at returns
  obtain ⟨header, returns⟩ := returns
  rw [waveResponseHeaderBytes, not_lt] at header
  rw [unpack_header header] at returns
  dsimp only at returns
  simp only [refuse_ok, not_not, true_and] at returns
  obtain ⟨magic, version, opcode, size, length, zeros, returns⟩ := returns
  rw [size] at length zeros returns
  obtain ⟨common, reaches, -⟩ := payload_length length
  rw [show waveResponseHeaderBytes = 24 from rfl, unpack_common common reaches] at returns
  dsimp only at returns
  cases known : waveformStateName (unpackAt raw 28 4) with
  | none =>
    rw [known] at returns
    cases returns
  | some name =>
    rw [known] at returns
    dsimp only at returns
    rw [refuse_ok, bind_ok] at returns
    obtain ⟨status, extension, -, returns⟩ := returns
    cases pure_ok.mp returns
    refine ⟨⟨header, magic, version, opcode, size, length, ?_, waveformStateName_some.mp ⟨name, known⟩,
      not_not.mp status⟩, rfl, rfl⟩
    intro byte among
    by_contra nonzero
    exact zeros (List.any_eq_true.mpr ⟨byte, among, decide_eq_true nonzero⟩)

/-! ## Waiting datagrams -/

/-- A format decodes the datagrams that are well formed, and reads their headers. -/
structure Decodes {α : Type} (f : ResponseFormat α) (magic : Nat) (formed : List Byte → Prop) : Prop where
  returns : ∀ raw, formed raw → ∃ response, f.decode raw = .ok response
  sound : ∀ raw response, f.decode raw = .ok response → formed raw
  header : ∀ raw, formed raw → 24 ≤ raw.length ∧ unpackAt raw 0 8 = magic
  seq : ∀ raw response, f.decode raw = .ok response → f.seq response = headerSeq raw
  opcode : ∀ raw response, f.decode raw = .ok response → f.opcode response = headerOpcode raw

theorem rfresp2_decodes : Decodes rfresp2 udpRfresp2Magic IsRfresp2 where
  returns _ formed := ⟨_, parseRfresp2Packet_ok.mpr ⟨formed, rfl⟩⟩
  sound _ _ decoded := (parseRfresp2Packet_ok.mp decoded).1
  header _ formed := ⟨formed.header, formed.magic⟩
  seq _ _ decoded := by
    obtain ⟨-, rfl⟩ := parseRfresp2Packet_ok.mp decoded
    rfl
  opcode _ _ decoded := by
    obtain ⟨-, rfl⟩ := parseRfresp2Packet_ok.mp decoded
    rfl

theorem waveform_decodes : Decodes waveform waveRespMagic IsWaveResponse where
  returns _ formed := parseWaveResponse_returns formed
  sound _ _ decoded := (parseWaveResponse_ok decoded).1
  header _ formed := ⟨formed.header, formed.magic⟩
  seq _ _ decoded := (parseWaveResponse_ok decoded).2.1
  opcode _ _ decoded := (parseWaveResponse_ok decoded).2.2

section Waiting

variable {α : Type} {t : UdpTransport} {f : ResponseFormat α} {magic : Nat} {formed : List Byte → Prop}
  {expectedSeq expectedOpcode : Option Int} {d : Datagram} {stale : List Datagram} {queue : List Reception}

/-- A datagram that does not answer the request is skipped, if it decodes. -/
theorem receiveLoop_skips (decodes : Decodes f magic formed)
    (other : ¬ Awaited t magic expectedSeq expectedOpcode d) (fine : t.sourceMatches d.addr = true → formed d.raw) :
    receiveLoop t f expectedSeq expectedOpcode (.packet d :: queue) =
      receiveLoop t f expectedSeq expectedOpcode queue := by
  rw [receiveLoop]
  by_cases source : t.sourceMatches d.addr = true
  · obtain ⟨response, decoded⟩ := decodes.returns d.raw (fine source)
    obtain ⟨header, same_magic⟩ := decodes.header d.raw (fine source)
    rw [if_neg (by rw [source]; decide), decoded]
    dsimp only
    rw [decodes.seq d.raw response decoded, decodes.opcode d.raw response decoded]
    cases seq : differs expectedSeq (headerSeq d.raw) with
    | true => rw [if_pos rfl]
    | false =>
      rw [if_neg Bool.false_ne_true]
      cases opcode : differs expectedOpcode (headerOpcode d.raw) with
      | true => rw [if_pos rfl]
      | false => exact absurd ⟨source, header, same_magic, seq, opcode⟩ other
  · rw [if_pos (Bool.not_eq_true _ ▸ source)]

theorem receiveLoop_skips_all (decodes : Decodes f magic formed)
    (others : ∀ d ∈ stale, ¬ Awaited t magic expectedSeq expectedOpcode d)
    (fine : ∀ d ∈ stale, t.sourceMatches d.addr = true → formed d.raw) :
    receiveLoop t f expectedSeq expectedOpcode (stale.map .packet ++ queue) =
      receiveLoop t f expectedSeq expectedOpcode queue := by
  induction stale with
  | nil => rfl
  | cons d rest ih =>
    obtain ⟨other, others⟩ := List.forall_mem_cons.mp others
    obtain ⟨first, fine⟩ := List.forall_mem_cons.mp fine
    rw [List.map_cons, List.cons_append, receiveLoop_skips decodes other first]
    exact ih others fine

/-- The first datagram from the board that does not decode ends the call. -/
theorem receiveLoop_raises (decodes : Decodes f magic formed)
    (others : ∀ d ∈ stale, ¬ Awaited t magic expectedSeq expectedOpcode d) {bad : Datagram} (waits : bad ∈ stale)
    (source : t.sourceMatches bad.addr = true) (broken : ¬ formed bad.raw) :
    ∃ e rest,
      receiveLoop t f expectedSeq expectedOpcode (stale.map .packet ++ queue) = (.error (.wire e), rest) := by
  induction stale with
  | nil => exact absurd waits List.not_mem_nil
  | cons d rest ih =>
    obtain ⟨other, others⟩ := List.forall_mem_cons.mp others
    rw [List.map_cons, List.cons_append]
    by_cases first : t.sourceMatches d.addr = true ∧ ¬ formed d.raw
    · rw [receiveLoop, if_neg (by rw [first.1]; decide)]
      cases decoded : f.decode d.raw with
      | error e => exact ⟨e, _, rfl⟩
      | ok response => exact absurd (decodes.sound d.raw response decoded) first.2
    · rw [receiveLoop_skips decodes other fun here => by_contra fun wrong => first ⟨here, wrong⟩]
      apply ih others
      rcases List.mem_cons.mp waits with rfl | waits
      · exact absurd ⟨source, broken⟩ first
      · exact waits

theorem receiveLoop_returns (decodes : Decodes f magic formed) {response : α}
    (answers : Awaited t magic expectedSeq expectedOpcode d) (decoded : f.decode d.raw = .ok response) :
    receiveLoop t f expectedSeq expectedOpcode (.packet d :: queue) = (.ok (response, d.addr), queue) := by
  rw [receiveLoop, if_neg (by rw [answers.source]; decide), decoded]
  dsimp only
  rw [decodes.seq d.raw response decoded, decodes.opcode d.raw response decoded, answers.seq, answers.opcode]
  rfl

/-- The answer behind other datagrams is returned if and only if each of them that comes from
    the board decodes. -/
theorem receiveLoop_iff (decodes : Decodes f magic formed) {response : α}
    (others : ∀ d ∈ stale, ¬ Awaited t magic expectedSeq expectedOpcode d)
    (answers : Awaited t magic expectedSeq expectedOpcode d) (decoded : f.decode d.raw = .ok response) :
    receiveLoop t f expectedSeq expectedOpcode (stale.map .packet ++ .packet d :: queue) =
        (.ok (response, d.addr), queue) ↔
      ∀ d ∈ stale, t.sourceMatches d.addr = true → formed d.raw := by
  constructor
  · intro returned bad waits source
    by_contra broken
    obtain ⟨e, rest, raised⟩ := @receiveLoop_raises _ _ _ _ _ _ _ _ (.packet d :: queue) decodes others bad waits
      source broken
    rw [raised] at returned
    cases returned
  · intro fine
    rw [receiveLoop_skips_all decodes others fine, receiveLoop_returns decodes answers decoded]

end Waiting

/-! ## The two loops -/

/-- The answer behind stale datagrams is returned if and only if each of them that comes from
    the board is a response of the protocol in question; such datagrams change nothing about
    the rest of the queue. -/
theorem stale_skipped_iff {t : UdpTransport} (usable : t.closed = false) (expectedSeq expectedOpcode : Option Int)
    (stale : List Datagram) :
    ((∀ d ∈ stale, ¬ Awaited t udpRfresp2Magic expectedSeq expectedOpcode d) →
      (∀ d response rest, Awaited t udpRfresp2Magic expectedSeq expectedOpcode d →
        parseRfresp2Packet d.raw true = .ok response →
        (t.receiveRfresp2 expectedSeq expectedOpcode (stale.map .packet ++ .packet d :: rest) =
            (.ok (response, d.addr), rest) ↔
          ∀ d ∈ stale, t.sourceMatches d.addr = true → IsRfresp2 d.raw)) ∧
      ((∀ d ∈ stale, t.sourceMatches d.addr = true → IsRfresp2 d.raw) → ∀ queue,
        t.receiveRfresp2 expectedSeq expectedOpcode (stale.map .packet ++ queue) =
          t.receiveRfresp2 expectedSeq expectedOpcode queue)) ∧
    ((∀ d ∈ stale, ¬ Awaited t waveRespMagic expectedSeq expectedOpcode d) →
      (∀ d response rest, Awaited t waveRespMagic expectedSeq expectedOpcode d →
        parseWaveResponse d.raw true = .ok response →
        (t.receiveWaveResponse expectedSeq expectedOpcode (stale.map .packet ++ .packet d :: rest) =
            (.ok (response, d.addr), rest) ↔
          ∀ d ∈ stale, t.sourceMatches d.addr = true → IsWaveResponse d.raw)) ∧
      ((∀ d ∈ stale, t.sourceMatches d.addr = true → IsWaveResponse d.raw) → ∀ queue,
        t.receiveWaveResponse expectedSeq expectedOpcode (stale.map .packet ++ queue) =
          t.receiveWaveResponse expectedSeq expectedOpcode queue)) := by
  have still_open : ¬ t.closed = true := by rw [usable]; decide
  refine ⟨fun others => ⟨fun d response rest answers decoded => ?_, fun fine queue => ?_⟩,
    fun others => ⟨fun d response rest answers decoded => ?_, fun fine queue => ?_⟩⟩
  · rw [UdpTransport.receiveRfresp2, if_neg still_open]
    exact receiveLoop_iff rfresp2_decodes others answers decoded
  · rw [UdpTransport.receiveRfresp2, if_neg still_open, receiveLoop_skips_all rfresp2_decodes others fine,
      UdpTransport.receiveRfresp2, if_neg still_open]
  · rw [UdpTransport.receiveWaveResponse, if_neg still_open]
    exact receiveLoop_iff waveform_decodes others answers decoded
  · rw [UdpTransport.receiveWaveResponse, if_neg still_open, receiveLoop_skips_all waveform_decodes others fine,
      UdpTransport.receiveWaveResponse, if_neg still_open]

def boardTransport : UdpTransport := ⟨"192.168.1.128", 1234, false⟩

/-- An answer to the STATUS request number 6. -/
def lateStatus : Datagram :=
  ⟨pack [(8, udpRfresp2Magic), (8, 2 <<< 32 ||| rfctrl2Version), (8, 6)], some ("192.168.1.128", 1234)⟩

/-- The answer to the PLAY request number 7. -/
def playAnswer : Datagram :=
  ⟨pack [(8, waveRespMagic), (8, waveOpPlay <<< 32 ||| waveProtocolVersion), (8, 28 <<< 32 ||| 7), (4, 3), (4, 4),
    (4, 0), (4, 0), (4, 1), (8, 0), (4, 0)], some ("192.168.1.128", 1234)⟩

theorem skipped_same_protocol :
    boardTransport.receiveRfresp2 (some 7) (some 2) [.packet lateStatus] =
      boardTransport.receiveRfresp2 (some 7) (some 2) [] := by
  have formed : IsRfresp2 lateStatus.raw := ⟨by decide, by decide, by decide, by decide⟩
  have other : ¬ Awaited boardTransport udpRfresp2Magic (some 7) (some 2) lateStatus :=
    fun answers => absurd answers.seq (by decide)
  exact (((@stale_skipped_iff boardTransport rfl (some 7) (some 2) [lateStatus]).1
    (List.forall_mem_singleton.mpr other)).2 (List.forall_mem_singleton.mpr fun _ => formed)) []

/-- An answer of the other protocol in front of the awaited one. -/
theorem late_status_raises :
    IsRfresp2 lateStatus.raw ∧ ¬ Awaited boardTransport waveRespMagic (some 7) (some 4) lateStatus ∧
      Awaited boardTransport waveRespMagic (some 7) (some 4) playAnswer ∧ IsWaveResponse playAnswer.raw ∧
      (boardTransport.receiveWaveResponse (some 7) (some 4) [.packet lateStatus, .packet playAnswer]).1 =
        .error (.wire (.protocol "unexpected waveform response magic 0x0032505345524652")) := by
  refine ⟨⟨by decide, by decide, by decide, by decide⟩, fun answers => absurd answers.magic (by decide),
    ⟨by decide, by decide, by decide, by decide, by decide⟩,
    ⟨by decide, by decide, by decide, by decide, by decide, by decide, by decide, by decide, by decide⟩, ?_⟩
  rfl

end Xczu47dr.Host
