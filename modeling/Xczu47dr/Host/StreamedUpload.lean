import Mathlib.Data.List.Range
import Mathlib.Tactic.Linarith
import Xczu47dr.Host.PackedWaves

/-! # Uploads in chunks

`Dr47Device.upload_interleaved_chunks`: a record that comes in chunks of any size is sent
in DATA packets of another size between a BEGIN and a COMMIT.  The requests are recorded
as they are sent, each with the arguments its packet is made of; what the board answers
may depend on all of them.  (Callbacks and pauses are left out.)
-/

namespace Xczu47dr.Host

/-- The exceptions of an upload. -/
inductive UploadError
  | wire (e : ProtocolError)
  | connectionState (text : String)
  | deviceStatus (operation : String) (status : Nat) (errorCode : Nat)
  | transport (text : String)

/-- What an upload reads of a response. -/
structure WaveReply where
  status : Nat
  errorCode : Nat
  state : Nat
  descriptor : Nat

inductive WaveRequest
  | begin (a : BeginArguments)
  | data (a : DataArguments)
  | commit (a : CommandArguments)

def WaveRequest.pack : WaveRequest → Except ProtocolError (List Wire.Byte)
  | .begin a => packWaveBegin a
  | .data a => packWaveData a
  | .commit a => packWaveCommand a

/-- The board and the way to it: what a request is answered with after those before it. -/
abbrev Board := List WaveRequest → Except UploadError WaveReply

/-- The numbers a `Dr47Device` counts: of its requests and of its sessions. -/
structure Dr47Device where
  connected : Bool
  sequence : Nat
  runId : Nat
  sequence_lt : sequence < 2 ^ 32
  runId_pos : 1 ≤ runId
  runId_lt : runId < 2 ^ 32

/-- `_next_sequence` -/
def Dr47Device.counted (d : Dr47Device) : Dr47Device :=
  { d with
    sequence := if d.sequence = 0xFFFFFFFF then 1 else d.sequence + 1
    sequence_lt := by
      have bound := d.sequence_lt
      split_ifs <;> omega }

/-- `_run_id = (session + 1) & 0xFFFFFFFF or 1` -/
def Dr47Device.renumbered (d : Dr47Device) : Dr47Device :=
  { d with
    runId := if (d.runId + 1) % 2 ^ 32 = 0 then 1 else (d.runId + 1) % 2 ^ 32
    runId_pos := by split_ifs <;> omega
    runId_lt := by split_ifs <;> omega }

/-- The device, and the requests it has sent. -/
structure UploadRun where
  device : Dr47Device
  sent : List WaveRequest

/-- A call that may raise, and leaves the requests it has sent behind either way. -/
abbrev Sending (α : Type) := ExceptT UploadError (StateM UploadRun) α

def raising {α : Type} (x : Except ProtocolError α) : Sending α :=
  match x with
  | .ok a => pure a
  | .error e => throw (.wire e)

def requireConnected : Sending Unit := do
  if (← get).device.connected = false then
    throw (.connectionState "Dr47Device.connect() must be called before this operation")

/-- `begin_waveform`, `data_waveform` and `commit_waveform`; the request takes its number
    before it is packed. -/
def waveRequest (board : Board) (request : Int → WaveRequest) : Sending WaveReply := do
  requireConnected
  let seq := (← get).device.sequence
  modify fun run => { run with device := run.device.counted }
  let _ ← raising (request seq).pack
  modify fun run => { run with sent := run.sent ++ [request seq] }
  match board (← get).sent with
  | .ok reply => pure reply
  | .error e => throw e

/-- `_check_wave_response` -/
def checkWaveResponse (response : WaveReply) (operation : String) : Sending WaveReply := do
  if response.status ≠ 0 then
    throw (.deviceStatus operation response.status response.errorCode)
  return response

/-- The pieces of a chunk: where each starts, and its bytes. -/
def pieces (packetBytes : Nat) (raw : List Wire.Byte) : List (Nat × List Wire.Byte) :=
  (List.range ((raw.length + packetBytes - 1) / packetBytes)).map fun k =>
    (k * packetBytes, (raw.drop (k * packetBytes)).take packetBytes)

/-- The inner loop, over the pieces of a chunk at `offset`; the number of the next packet. -/
def sendPieces (board : Board) (session offset : Nat) : List (Nat × List Wire.Byte) → Nat → Sending Nat
  | [], packetSeq => pure packetSeq
  | (start, piece) :: rest, packetSeq => do
    let response ← waveRequest board fun seq => .data ⟨session, packetSeq, (offset + start : Nat), piece, seq⟩
    let _ ← checkWaveResponse response "DATA"
    sendPieces board session offset rest (packetSeq + 1)

/-- The outer loop, over the chunks; the offset expected next, and the number of the next
    packet. -/
def sendChunks (board : Board) (session totalBytes packetBytes : Nat) :
    List (Int × List Wire.Byte) → Nat → Nat → Sending (Nat × Nat)
  | [], expectedOffset, packetSeq => pure (expectedOffset, packetSeq)
  | (chunkOffset, raw) :: rest, expectedOffset, packetSeq => do
    let offset ← raising (waveUint chunkOffset 64 "chunk byte offset" false)
    if offset ≠ expectedOffset then
      throw (.wire (.parameterRange
        s!"interleaved chunks must be contiguous: expected offset {expectedOffset}, got {offset}"))
    if raw.length = 0 ∨ raw.length % 32 ≠ 0 ∨ totalBytes < offset + raw.length then
      throw (.wire (.parameterRange
        "interleaved chunks must be non-empty, 32-byte aligned, and fit total_bytes"))
    let packetSeq ← sendPieces board session offset (pieces packetBytes raw) packetSeq
    sendChunks board session totalBytes packetBytes rest (expectedOffset + raw.length) packetSeq

structure StreamArguments where
  chunks : List (Int × List Wire.Byte)
  totalBytes : Int
  totalBeats : Int
  channelMask : Int
  loopCount : Int
  session : Option Int
  packetBytes : Int

structure StreamReport where
  session : Nat
  channelMask : Nat
  bytes : Nat
  totalBeats : Nat
  loopCount : Nat
  packetCount : Nat
  state : Nat
  descriptor : Nat

/-- The session of the upload: the device's own numbering, or the caller's. -/
def takeSession : Option Int → Sending Nat
  | none => do
    let session := (← get).device.runId
    modify fun run => { run with device := run.device.renumbered }
    return session
  | some session => raising (waveUint session 32 "session" true)

/-- `upload_interleaved_chunks` from the BEGIN on -/
def uploadRecord (board : Board) (session totalBytes totalBeats channelMask loopCount packetBytes : Nat)
    (chunks : List (Int × List Wire.Byte)) : Sending StreamReport := do
  let begun ← waveRequest board fun seq =>
    .begin ⟨session, totalBytes, channelMask, totalBeats, loopCount, waveLayoutInterleaved512b, seq⟩
  let _ ← checkWaveResponse begun "BEGIN"
  let (expectedOffset, sentPackets) ← sendChunks board session totalBytes packetBytes chunks 0 0
  if expectedOffset ≠ totalBytes then
    throw (.wire (.parameterRange
      s!"interleaved chunks contain {expectedOffset} bytes, expected {totalBytes}"))
  let reply ← waveRequest board fun seq => .commit ⟨waveOpCommit, session, seq⟩
  let committed ← checkWaveResponse reply "COMMIT"
  return {
    session := session
    channelMask := channelMask
    bytes := totalBytes
    totalBeats := totalBeats
    loopCount := loopCount
    packetCount := sentPackets
    state := committed.state
    descriptor := committed.descriptor }

/-- `upload_interleaved_chunks` -/
def uploadInterleavedChunks (board : Board) (a : StreamArguments) : Sending StreamReport := do
  requireConnected
  let totalBytes ← raising (waveUint a.totalBytes 64 "total_bytes" true)
  let totalBeats ← raising (waveUint a.totalBeats 32 "total_beats" true)
  let channelMask ← raising (waveUint a.channelMask 8 "channel_mask" true)
  let loopCount ← raising (waveUint a.loopCount 32 "loop_count" true)
  if totalBytes ≠ totalBeats * waveDacFrameBytes then
    throw (.wire (.parameterRange "total_bytes must equal total_beats * 8 * 32"))
  if a.packetBytes < 32 ∨ a.packetBytes % 32 ≠ 0 then
    throw (.wire (.parameterRange "packet_bytes must be a positive 32-byte multiple"))
  if maxData < a.packetBytes then
    throw (.wire (.parameterRange s!"packet_bytes must not exceed {maxData}"))
  let session ← takeSession a.session
  uploadRecord board session totalBytes totalBeats channelMask loopCount a.packetBytes.toNat a.chunks

/-! ## What is to be sent -/

/-- The DATA packets from the number `packetSeq` and the byte `offset` on: they follow each
    other without a gap, in whole beats of 32 bytes and at most `packetBytes` each. -/
def Carries (packetBytes : Nat) : Nat → Nat → List DataArguments → Prop
  | _, _, [] => True
  | packetSeq, offset, d :: rest =>
    d.packetSeq = packetSeq ∧ d.byteOffset = offset ∧
      (1 ≤ d.payload.length ∧ d.payload.length ≤ packetBytes ∧ d.payload.length % 32 = 0) ∧
      Carries packetBytes (packetSeq + 1) (offset + d.payload.length) rest

/-- A chunk is accepted behind `expectedOffset` bytes. -/
def Accepts (totalBytes expectedOffset : Nat) (chunk : Int × List Wire.Byte) : Prop :=
  chunk.1 = expectedOffset ∧ chunk.2.length ≠ 0 ∧ chunk.2.length % 32 = 0 ∧
    expectedOffset + chunk.2.length ≤ totalBytes

instance (totalBytes expectedOffset : Nat) (chunk : Int × List Wire.Byte) :
    Decidable (Accepts totalBytes expectedOffset chunk) := inferInstanceAs (Decidable (_ ∧ _ ∧ _ ∧ _))

/-- The bytes of the chunks up to the first that is not accepted. -/
def accepted (totalBytes : Nat) : Nat → List (Int × List Wire.Byte) → List Wire.Byte
  | _, [] => []
  | expectedOffset, chunk :: rest =>
    if Accepts totalBytes expectedOffset chunk then
      chunk.2 ++ accepted totalBytes (expectedOffset + chunk.2.length) rest
    else []

/-- The chunks cover the record from `offset` on: none is empty or broken, each starts where
    the one before it ended, and together they have all its bytes. -/
def Covers (totalBytes : Nat) : Nat → List (Int × List Wire.Byte) → Prop
  | offset, [] => offset = totalBytes
  | offset, chunk :: rest =>
    chunk.1 = offset ∧ chunk.2.length ≠ 0 ∧ chunk.2.length % 32 = 0 ∧
      Covers totalBytes (offset + chunk.2.length) rest

/-! ## What a call leaves behind -/

section Calls

variable {α β : Type} {x : Sending α} {f : α → Sending β} {run next : UploadRun} {board : Board}

theorem bind_returns {a : α} (returns : x run = (.ok a, next)) : (x >>= f) run = f a next := by
  change (match x run with | (r, s) => ExceptT.bindCont f r s) = f a next
  rw [returns]
  rfl

theorem bind_raises {e : UploadError} (raises : x run = (.error e, next)) :
    (x >>= f) run = (.error e, next) := by
  change (match x run with | (r, s) => ExceptT.bindCont f r s) = (.error e, next)
  rw [raises]
  rfl

theorem raising_run {x : Except ProtocolError α} {a : α} (returns : x = .ok a) : raising x run = (.ok a, run) := by
  rw [returns]
  rfl

theorem requireConnected_run (connected : run.device.connected = true) : requireConnected run = (.ok (), run) := by
  change (if run.device.connected = false then _ else _ : Sending Unit) run = _
  rw [connected]
  rfl

theorem waveRequest_refused {request : Int → WaveRequest} {e : ProtocolError}
    (connected : run.device.connected = true) (refused : (request run.device.sequence).pack = .error e) :
    waveRequest board request run = (.error (.wire e), ⟨run.device.counted, run.sent⟩) := by
  rw [waveRequest, bind_returns (requireConnected_run connected)]
  change (raising (request run.device.sequence).pack >>= fun _ => _) ⟨run.device.counted, run.sent⟩ = _
  rw [refused]
  rfl

theorem waveRequest_sent {request : Int → WaveRequest} {packet : List Wire.Byte}
    (connected : run.device.connected = true) (packs : (request run.device.sequence).pack = .ok packet) :
    waveRequest board request run = (board (run.sent ++ [request run.device.sequence]),
      ⟨run.device.counted, run.sent ++ [request run.device.sequence]⟩) := by
  rw [waveRequest, bind_returns (requireConnected_run connected)]
  change (raising (request run.device.sequence).pack >>= fun _ => _) ⟨run.device.counted, run.sent⟩ = _
  rw [packs]
  change (match board (run.sent ++ [request run.device.sequence]) with
    | .ok reply => pure reply
    | .error e => throw e : Sending WaveReply) ⟨run.device.counted, run.sent ++ [request run.device.sequence]⟩ = _
  cases board (run.sent ++ [request run.device.sequence]) <;> rfl

theorem checkWaveResponse_error {response : WaveReply} {operation : String} (bad : response.status ≠ 0) :
    checkWaveResponse response operation run =
      (.error (.deviceStatus operation response.status response.errorCode), run) := by
  rw [checkWaveResponse, if_pos bad]
  rfl

theorem checkWaveResponse_ok {response : WaveReply} {operation : String} (ok : response.status = 0) :
    checkWaveResponse response operation run = (.ok response, run) := by
  rw [checkWaveResponse, if_neg (not_not.mpr ok)]
  rfl

end Calls

/-! ## The pieces of a chunk -/

/-- The pieces follow each other from `start` on. -/
def Fragments (packetBytes : Nat) : Nat → List (Nat × List Wire.Byte) → Prop
  | _, [] => True
  | start, piece :: rest =>
    piece.1 = start ∧ (1 ≤ piece.2.length ∧ piece.2.length ≤ packetBytes ∧ piece.2.length % 32 = 0) ∧
      Fragments packetBytes (start + piece.2.length) rest

section Pieces

variable {packetBytes : Nat} {raw : List Wire.Byte}

/-- The pieces from number `first` on are what follows the pieces before it. -/
theorem fragments_from (whole : raw.length % 32 = 0) (beats : packetBytes % 32 = 0) (count first : Nat)
    (reaches : raw.length ≤ (first + count) * packetBytes)
    (inside : ∀ k, first ≤ k → k < first + count → k * packetBytes < raw.length) :
    Fragments packetBytes (first * packetBytes) ((List.range' first count).map fun k =>
        (k * packetBytes, (raw.drop (k * packetBytes)).take packetBytes)) ∧
      ((List.range' first count).map fun k =>
        (k * packetBytes, (raw.drop (k * packetBytes)).take packetBytes)).flatMap Prod.snd =
        raw.drop (first * packetBytes) := by
  induction count generalizing first with
  | zero =>
    refine ⟨trivial, ?_⟩
    rw [List.drop_of_length_le (by simpa using reaches)]
    rfl
  | succ count ih =>
    have here := inside first (Nat.le_refl first) (by omega)
    have next : (first + 1) * packetBytes = first * packetBytes + packetBytes := Nat.succ_mul first packetBytes
    obtain ⟨later, rest⟩ := ih (first + 1) (by rwa [show first + 1 + count = first + (count + 1) by omega])
      (fun k from_next before => inside k (by omega) (by omega))
    have length : ((raw.drop (first * packetBytes)).take packetBytes).length =
        min packetBytes (raw.length - first * packetBytes) := by
      rw [List.length_take, List.length_drop]
    have aligned : first * packetBytes % 32 = 0 := by
      rw [Nat.mul_mod, beats, Nat.mul_zero, Nat.zero_mod]
    rw [List.range'_succ, List.map_cons, List.flatMap_cons]
    refine ⟨⟨rfl, ⟨?_, ?_, ?_⟩, ?_⟩, ?_⟩
    · dsimp only
      rw [length]
      rcases Nat.eq_zero_or_pos packetBytes with none | some_bytes
      · rw [none, Nat.mul_zero] at reaches
        omega
      · omega
    · exact List.length_take_le _ _
    · dsimp only
      rw [length]
      omega
    · -- a piece that is not the last one is full
      cases count with
      | zero => trivial
      | succ count =>
        have more := inside (first + 1) (by omega) (by omega)
        rw [next] at later more
        dsimp only
        rwa [length, Nat.min_eq_left (by omega)]
    · rw [rest, next, ← List.drop_drop, List.take_append_drop]

theorem pieces_spec (whole : raw.length % 32 = 0) (beats : packetBytes % 32 = 0) (some_bytes : 0 < packetBytes) :
    Fragments packetBytes 0 (pieces packetBytes raw) ∧ (pieces packetBytes raw).flatMap Prod.snd = raw := by
  have spec := @fragments_from packetBytes raw whole beats ((raw.length + packetBytes - 1) / packetBytes) 0 ?_ ?_
  · rw [Nat.zero_mul, List.drop_zero] at spec
    rw [pieces, List.range_eq_range']
    exact spec
  · have rounded := Nat.lt_mul_div_succ (raw.length + packetBytes - 1) some_bytes
    rw [Nat.mul_comm, Nat.succ_mul] at rounded
    rw [Nat.zero_add]
    omega
  · intro k _ before
    rw [Nat.zero_add, Nat.lt_div_iff_mul_lt some_bytes] at before
    omega

end Pieces

/-! ## The packets of an upload -/

section Packets

variable {board : Board} {session packetBytes totalBytes packetSeq offset : Nat} {run : UploadRun}
  {datas more : List DataArguments}

def carried (datas : List DataArguments) : List Wire.Byte := datas.flatMap (·.payload)

theorem Carries.append (first : Carries packetBytes packetSeq offset datas)
    (second : Carries packetBytes (packetSeq + datas.length) (offset + (carried datas).length) more) :
    Carries packetBytes packetSeq offset (datas ++ more) := by
  induction datas generalizing packetSeq offset with
  | nil => exact second
  | cons d rest ih =>
    obtain ⟨seq, place, length, later⟩ := first
    refine ⟨seq, place, length, ih later ?_⟩
    rw [carried, List.flatMap_cons, List.length_append, ← carried, List.length_cons] at second
    rwa [Nat.add_assoc, Nat.add_comm 1, Nat.add_assoc offset]

theorem Carries.count (carries : Carries packetBytes packetSeq offset datas) :
    32 * datas.length ≤ (carried datas).length := by
  induction datas generalizing packetSeq offset with
  | nil => exact Nat.le_refl 0
  | cons d rest ih =>
    obtain ⟨-, -, length, later⟩ := carries
    have behind := ih later
    rw [carried, List.flatMap_cons, List.length_append, ← carried, List.length_cons]
    omega

/-- No packet reaches beyond the bytes that are carried. -/
theorem Carries.within (carries : Carries packetBytes packetSeq offset datas) :
    ∀ d ∈ datas, d.byteOffset + d.payload.length ≤ (offset + (carried datas).length : Nat) := by
  induction datas generalizing packetSeq offset with
  | nil => nofun
  | cons d rest ih =>
    obtain ⟨-, place, -, later⟩ := carries
    rw [carried, List.flatMap_cons, List.length_append, ← carried]
    intro e sent
    rcases List.mem_cons.mp sent with rfl | sent
    · rw [place]
      omega
    · have inside := ih later e sent
      omega

/-- The board acknowledges each DATA packet. -/
def Acknowledges (board : Board) : Prop :=
  ∀ sent d, ∃ reply, board (sent ++ [.data d]) = .ok reply ∧ reply.status = 0

/-- What a part of the upload has sent. -/
structure Sent (session packetBytes packetSeq offset : Nat) (run next : UploadRun) (datas : List DataArguments) :
    Prop where
  sent : next.sent = run.sent ++ datas.map .data
  connected : next.device.connected = true
  ours : ∀ d ∈ datas, d.session = session
  carries : Carries packetBytes packetSeq offset datas

theorem sendPieces_run (acknowledges : Acknowledges board) (known : 1 ≤ session ∧ session < 2 ^ 32)
    (small : packetBytes ≤ maxData) (limited : totalBytes ≤ ddrMaxInterleavedBytes)
    {start : Nat} {fragments : List (Nat × List Wire.Byte)} (follows : Fragments packetBytes start fragments)
    (connected : run.device.connected = true) (aligned : (offset + start) % 32 = 0)
    (behind : 32 * packetSeq ≤ offset + start)
    (inside : offset + start + (fragments.flatMap Prod.snd).length ≤ totalBytes) :
    ∃ datas next, sendPieces board session offset fragments packetSeq run = (.ok (packetSeq + datas.length), next) ∧
      Sent session packetBytes packetSeq (offset + start) run next datas ∧
        carried datas = fragments.flatMap Prod.snd := by
  have capacity : ddrMaxInterleavedBytes < 2 ^ 36 := by decide
  induction fragments generalizing start packetSeq run with
  | nil => exact ⟨[], run, rfl, ⟨by simp, connected, nofun, trivial⟩, rfl⟩
  | cons fragment rest ih =>
    obtain ⟨begins, piece⟩ := fragment
    obtain ⟨rfl, ⟨some_bytes, fits, beats⟩, later⟩ := follows
    dsimp only at some_bytes fits beats later
    rw [List.flatMap_cons, List.length_append] at inside
    dsimp only at inside
    let d : DataArguments := ⟨session, packetSeq, (offset + begins : Nat), piece, run.device.sequence⟩
    have counted := run.device.sequence_lt
    have fit : d.Fit := {
      session := by
        change (1 : Int) ≤ session ∧ (session : Int) < 2 ^ 32
        omega
      packetSeq := by
        change (0 : Int) ≤ packetSeq ∧ (packetSeq : Int) < 2 ^ 32
        omega
      byteOffset := by
        change (0 : Int) ≤ (offset + begins : Nat) ∧ ((offset + begins : Nat) : Int) + piece.length ≤ 2 ^ 64
        omega
      aligned := by
        change ((offset + begins : Nat) : Int) % (32 : Nat) = 0
        omega
      length := ⟨some_bytes, Nat.le_trans fits small⟩
      beats := beats
      seq := by
        change (0 : Int) ≤ run.device.sequence ∧ (run.device.sequence : Int) < 2 ^ 32
        omega }
    have packs := packWaveData_ok.mpr ⟨fit, rfl⟩
    obtain ⟨reply, answered, ok⟩ := acknowledges run.sent d
    have asked := @waveRequest_sent run board
      (fun seq => .data ⟨session, packetSeq, (offset + begins : Nat), piece, seq⟩) _ connected packs
    rw [show board (run.sent ++ [WaveRequest.data d]) = _ from answered] at asked
    obtain ⟨datas, next, sends, sent, carries⟩ := @ih (packetSeq + 1) ⟨run.device.counted, run.sent ++ [.data d]⟩
      (begins + piece.length) later connected (by omega) (by omega) (by omega)
    refine ⟨d :: datas, next, ?_, ⟨?_, sent.connected, ?_, ?_⟩, ?_⟩
    · rw [sendPieces, bind_returns asked, bind_returns (checkWaveResponse_ok ok), sends, List.length_cons,
        Nat.add_assoc, Nat.add_comm 1]
    · rw [sent.sent, List.map_cons, List.append_assoc]
      rfl
    · intro e among
      rcases List.mem_cons.mp among with rfl | among
      · rfl
      · exact sent.ours e among
    · refine ⟨rfl, rfl, ⟨some_bytes, fits, beats⟩, ?_⟩
      rw [Nat.add_assoc]
      exact sent.carries
    · rw [carried, List.flatMap_cons, ← carried, carries, List.flatMap_cons]

theorem Covers.reaches {chunks : List (Int × List Wire.Byte)} (covers : Covers totalBytes offset chunks) :
    offset ≤ totalBytes := by
  induction chunks generalizing offset with
  | nil => exact Nat.le_of_eq covers
  | cons chunk rest ih =>
    have behind := ih covers.2.2.2
    omega

theorem accepted_within {chunks : List (Int × List Wire.Byte)} (inside : offset ≤ totalBytes) :
    offset + (accepted totalBytes offset chunks).length ≤ totalBytes := by
  induction chunks generalizing offset with
  | nil => exact inside
  | cons chunk rest ih =>
    rw [accepted]
    split_ifs with taken
    · have behind := ih taken.2.2.2
      rw [List.length_append]
      omega
    · exact inside

/-- A chunk is taken or refused, before any of its bytes is sent. -/
theorem sendChunks_cons {chunk : Int × List Wire.Byte} {rest : List (Int × List Wire.Byte)}
    (limited : totalBytes ≤ ddrMaxInterleavedBytes) :
    if Accepts totalBytes offset chunk then
      sendChunks board session totalBytes packetBytes (chunk :: rest) offset packetSeq run =
        (sendPieces board session offset (pieces packetBytes chunk.2) packetSeq >>= fun packetSeq =>
          sendChunks board session totalBytes packetBytes rest (offset + chunk.2.length) packetSeq) run
    else ∃ e,
      sendChunks board session totalBytes packetBytes (chunk :: rest) offset packetSeq run = (.error e, run) := by
  obtain ⟨at_offset, raw⟩ := chunk
  have capacity : ddrMaxInterleavedBytes < 2 ^ 64 := by decide
  rw [sendChunks]
  split_ifs with taken
  · obtain ⟨begins, some_bytes, beats, inside⟩ := taken
    dsimp only at begins some_bytes beats inside
    rw [bind_returns (raising_run (waveUint_ok.mpr ⟨⟨?_, ?_⟩, rfl⟩)), begins, Int.toNat_natCast]
    · rw [if_neg (not_not.mpr rfl), if_neg (by omega)]
    · rw [Bool.toNat_false]
      omega
    · omega
  · by_cases unsigned : ((false.toNat : Nat) : Int) ≤ at_offset ∧ at_offset < 2 ^ 64
    · rw [bind_returns (raising_run (waveUint_ok.mpr ⟨unsigned, rfl⟩))]
      rw [Bool.toNat_false] at unsigned
      by_cases contiguous : at_offset.toNat = offset
      · rw [if_neg (not_not.mpr contiguous), if_pos]
        · exact ⟨_, rfl⟩
        · by_contra fits
          exact taken ⟨by dsimp only; omega, by dsimp only; omega, by dsimp only; omega, by dsimp only; omega⟩
      · rw [if_pos contiguous]
        exact ⟨_, rfl⟩
    · rw [waveUint, if_neg unsigned]
      exact ⟨_, rfl⟩

/-- The chunks are sent up to the first that is refused, and nothing of that one. -/
theorem sendChunks_run (acknowledges : Acknowledges board) (known : 1 ≤ session ∧ session < 2 ^ 32)
    (positive : 0 < packetBytes) (whole : packetBytes % 32 = 0) (small : packetBytes ≤ maxData)
    (limited : totalBytes ≤ ddrMaxInterleavedBytes) (chunks : List (Int × List Wire.Byte))
    (connected : run.device.connected = true) (aligned : offset % 32 = 0) (behind : 32 * packetSeq ≤ offset) :
    ∃ datas next, Sent session packetBytes packetSeq offset run next datas ∧
      carried datas = accepted totalBytes offset chunks ∧
      ((∃ e, sendChunks board session totalBytes packetBytes chunks offset packetSeq run = (.error e, next) ∧
          ¬ Covers totalBytes offset chunks) ∨
        ∃ reached, sendChunks board session totalBytes packetBytes chunks offset packetSeq run =
          (.ok (reached, packetSeq + datas.length), next) ∧
            (Covers totalBytes offset chunks ↔ reached = totalBytes)) := by
  induction chunks generalizing packetSeq offset run with
  | nil => exact ⟨[], run, ⟨by simp, connected, nofun, trivial⟩, rfl, .inr ⟨offset, rfl, Iff.rfl⟩⟩
  | cons chunk rest ih =>
    have one := @sendChunks_cons board session packetBytes totalBytes packetSeq offset run chunk rest limited
    rw [accepted]
    split_ifs at one ⊢ with taken
    · obtain ⟨begins, some_bytes, beats, inside⟩ := taken
      obtain ⟨fragments, bytes⟩ := @pieces_spec packetBytes chunk.2 beats whole positive
      obtain ⟨datas, middle, sends, sent, carries⟩ := sendPieces_run acknowledges known small limited fragments
        connected aligned behind (by rw [bytes]; omega)
      rw [Nat.add_zero] at sent
      rw [bytes] at carries
      have counted := sent.carries.count
      rw [carries] at counted
      obtain ⟨later, next, sent_later, carries_later, outcome⟩ :=
        @ih (packetSeq + datas.length) (offset + chunk.2.length) middle sent.connected (by omega) (by omega)
      refine ⟨datas ++ later, next, ⟨?_, sent_later.connected, ?_, ?_⟩, ?_, ?_⟩
      · rw [sent_later.sent, sent.sent, List.map_append, List.append_assoc]
      · intro d among
        rcases List.mem_append.mp among with among | among
        · exact sent.ours d among
        · exact sent_later.ours d among
      · apply sent.carries.append
        rw [carries]
        exact sent_later.carries
      · rw [carried, List.flatMap_append, ← carried, ← carried, carries, carries_later]
      · rw [one, bind_returns sends]
        have covered : Covers totalBytes offset (chunk :: rest) ↔ Covers totalBytes (offset + chunk.2.length) rest :=
          ⟨fun covers => covers.2.2.2, fun covers => ⟨begins, some_bytes, beats, covers⟩⟩
        rw [covered, List.length_append, ← Nat.add_assoc]
        exact outcome
    · obtain ⟨e, refused⟩ := one
      refine ⟨[], run, ⟨by simp, connected, nofun, trivial⟩, rfl, .inl ⟨e, refused, ?_⟩⟩
      intro covers
      exact taken ⟨covers.1, covers.2.1, covers.2.2.1, covers.2.2.2.reaches⟩

end Packets

/-! ## Whole uploads -/

namespace StreamArguments

variable (a : StreamArguments) (device : Dr47Device)

/-- What `upload_interleaved_chunks` admits, apart from the chunks. -/
structure Admitted : Prop where
  connected : device.connected = true
  totalBytes : 1 ≤ a.totalBytes ∧ a.totalBytes < 2 ^ 64
  totalBeats : 1 ≤ a.totalBeats ∧ a.totalBeats < 2 ^ 32
  channelMask : 1 ≤ a.channelMask ∧ a.channelMask < 2 ^ 8
  loopCount : 1 ≤ a.loopCount ∧ a.loopCount < 2 ^ 32
  whole : a.totalBytes = a.totalBeats * waveDacFrameBytes
  packetBytes : 32 ≤ a.packetBytes ∧ a.packetBytes % 32 = 0 ∧ a.packetBytes ≤ maxData
  session : ∀ session, a.session = some session → 1 ≤ session ∧ session < 2 ^ 32

def sessionOf : Nat :=
  match a.session with
  | none => device.runId
  | some session => session.toNat

def opening : BeginArguments :=
  ⟨a.sessionOf device, a.totalBytes.toNat, a.channelMask.toNat, a.totalBeats.toNat, a.loopCount.toNat,
    waveLayoutInterleaved512b, device.sequence⟩

/-- The BEGIN is packed and acknowledged. -/
structure Begins (board : Board) (run : UploadRun) : Prop where
  fits : a.totalBytes ≤ ddrMaxInterleavedBytes
  acknowledged : ∃ reply, board (run.sent ++ [.begin (a.opening run.device)]) = .ok reply ∧ reply.status = 0

variable {a device}

theorem Admitted.sessionOf (admitted : a.Admitted device) : 1 ≤ a.sessionOf device ∧ a.sessionOf device < 2 ^ 32 := by
  rw [StreamArguments.sessionOf]
  cases explicit : a.session with
  | none => exact ⟨device.runId_pos, device.runId_lt⟩
  | some session =>
    have known := admitted.session session explicit
    dsimp only
    omega

theorem Admitted.packs (admitted : a.Admitted device) (fits : a.totalBytes ≤ ddrMaxInterleavedBytes) :
    (a.opening device).Fit := by
  have frame : waveDacFrameBytes = 256 := rfl
  have numbered := device.sequence_lt
  have known := admitted.sessionOf
  obtain ⟨-, bytes, beats, mask, loops, whole, -, -⟩ := admitted
  rw [frame] at whole
  refine ⟨?_, ?_, ?_, ?_, ?_, rfl, ?_, ?_⟩
  all_goals dsimp only [opening]
  · omega
  · omega
  · omega
  · omega
  · omega
  · rw [frame]
    omega
  · exact ⟨by omega, by omega⟩

theorem packs_commit {session : Nat} (known : 1 ≤ session ∧ session < 2 ^ 32) (device : Dr47Device) :
    ∃ packet, packWaveCommand ⟨waveOpCommit, session, device.sequence⟩ = .ok packet := by
  have first : waveOpCommit = 3 := rfl
  have last : waveOpStatus = 8 := rfl
  have numbered := device.sequence_lt
  refine ⟨_, packWaveCommand_ok.mpr ⟨⟨⟨?_, ?_⟩, ⟨?_, ?_⟩, ⟨?_, ?_⟩⟩, rfl⟩⟩
  all_goals
    dsimp only
    omega

/-- What is admitted goes on with the BEGIN. -/
theorem Admitted.begins {board : Board} {run : UploadRun} (admitted : a.Admitted run.device) :
    ∃ device : Dr47Device, device.connected = true ∧ device.sequence = run.device.sequence ∧
      uploadInterleavedChunks board a run = uploadRecord board (a.sessionOf run.device) a.totalBytes.toNat
        a.totalBeats.toNat a.channelMask.toNat a.loopCount.toNat a.packetBytes.toNat a.chunks ⟨device, run.sent⟩ := by
  have frame : waveDacFrameBytes = 256 := rfl
  have known := admitted.session
  obtain ⟨connected, bytes, beats, mask, loops, whole, packet, -⟩ := admitted
  rw [frame] at whole
  rw [uploadInterleavedChunks, bind_returns (requireConnected_run connected),
    bind_returns (raising_run (waveUint_ok.mpr ⟨bytes, rfl⟩)),
    bind_returns (raising_run (waveUint_ok.mpr ⟨beats, rfl⟩)),
    bind_returns (raising_run (waveUint_ok.mpr ⟨mask, rfl⟩)),
    bind_returns (raising_run (waveUint_ok.mpr ⟨loops, rfl⟩)),
    if_neg (by rw [frame]; omega), if_neg (by omega), if_neg (by omega), StreamArguments.sessionOf]
  cases explicit : a.session with
  | none => exact ⟨run.device.renumbered, connected, rfl, rfl⟩
  | some session =>
    refine ⟨run.device, connected, rfl, ?_⟩
    exact bind_returns (raising_run (waveUint_ok.mpr ⟨known session explicit, rfl⟩))

/-- What an upload leaves behind: what it has sent, and how it ends. -/
structure Uploaded (a : StreamArguments) (board : Board) (run : UploadRun) (result : Except UploadError StreamReport)
    (next : UploadRun) (opening : List WaveRequest) (datas : List DataArguments) (closing : List WaveRequest) :
    Prop where
  sent : next.sent = run.sent ++ opening ++ datas.map .data ++ closing
  ours : ∀ d ∈ datas, d.session = a.sessionOf run.device
  carries : Carries a.packetBytes.toNat 0 0 datas
  inside : ∀ d ∈ datas, d.byteOffset + d.payload.length ≤ a.totalBytes
  begins : a.Begins board run → opening = [.begin (a.opening run.device)] ∧
    carried datas = accepted a.totalBytes.toNat 0 a.chunks
  refuses : ¬ a.Begins board run → datas = [] ∧ ∀ request ∈ opening, request = .begin (a.opening run.device)
  commits : a.Begins board run ∧ Covers a.totalBytes.toNat 0 a.chunks →
    (∃ seq, closing = [.commit ⟨waveOpCommit, a.sessionOf run.device, seq⟩]) ∧
      ∀ reply, board next.sent = .ok reply → reply.status = 0 → result = .ok {
        session := a.sessionOf run.device
        channelMask := a.channelMask.toNat
        bytes := a.totalBytes.toNat
        totalBeats := a.totalBeats.toNat
        loopCount := a.loopCount.toNat
        packetCount := datas.length
        state := reply.state
        descriptor := reply.descriptor }
  fails : ¬ (a.Begins board run ∧ Covers a.totalBytes.toNat 0 a.chunks) → closing = [] ∧ ∃ e, result = .error e

/-- Without an acknowledged BEGIN nothing follows. -/
theorem Admitted.unbegun {board : Board} {run : UploadRun} (admitted : a.Admitted run.device)
    (refused : ¬ a.Begins board run) :
    ∃ result next opening, uploadInterleavedChunks board a run = (result, next) ∧
      Uploaded a board run result next opening [] [] := by
  obtain ⟨device, connected, numbered, starts⟩ := @Admitted.begins a board run admitted
  have silent : ∀ {result next opening e}, result = .error e → next.sent = run.sent ++ opening →
      (∀ request ∈ opening, request = .begin (a.opening run.device)) →
      Uploaded a board run result next opening [] [] := by
    intro result next opening e raised sent only_begin
    refine ⟨by rw [sent]; simp, nofun, trivial, nofun, ?_, fun _ => ⟨rfl, only_begin⟩, ?_, fun _ => ⟨rfl, e, raised⟩⟩
    · intro begins
      exact absurd begins refused
    · intro commits
      exact absurd commits.1 refused
  let request : Int → WaveRequest := fun seq => .begin { a.opening run.device with seq := seq }
  have numbering : request device.sequence = .begin (a.opening run.device) := by
    rw [numbered]
    rfl
  cases packs : (request device.sequence).pack with
  | error e =>
    have unsent := @waveRequest_refused ⟨device, run.sent⟩ board request e connected packs
    exact ⟨_, _, [], starts.trans (bind_raises unsent), silent rfl (by simp) nofun⟩
  | ok packet =>
    have asked := @waveRequest_sent ⟨device, run.sent⟩ board request packet connected packs
    dsimp only at asked
    rw [numbering] at asked packs
    have fits := (packWaveBegin_ok.mp packs).1.totalBytes.2
    have only_begin : ∀ r ∈ [WaveRequest.begin (a.opening run.device)], r = .begin (a.opening run.device) :=
      fun r among => List.mem_singleton.mp among
    cases answered : board (run.sent ++ [.begin (a.opening run.device)]) with
    | error e =>
      rw [answered] at asked
      exact ⟨_, _, _, starts.trans (bind_raises asked), silent rfl rfl only_begin⟩
    | ok reply =>
      rw [answered] at asked
      have bad : reply.status ≠ 0 := by
        intro ok
        apply refused
        refine ⟨?_, reply, answered, ok⟩
        have bytes := admitted.totalBytes
        dsimp only [opening] at fits
        omega
      exact ⟨_, _, _, starts.trans ((bind_returns asked).trans (bind_raises (checkWaveResponse_error bad))),
        silent rfl rfl only_begin⟩

theorem Admitted.begun {board : Board} {run : UploadRun} (admitted : a.Admitted run.device)
    (acknowledges : Acknowledges board) (begins : a.Begins board run) :
    ∃ result next datas closing, uploadInterleavedChunks board a run = (result, next) ∧
      Uploaded a board run result next [.begin (a.opening run.device)] datas closing := by
  obtain ⟨device, connected, numbered, starts⟩ := @Admitted.begins a board run admitted
  obtain ⟨fits, reply, answered, ok⟩ := begins
  let begin_request : Int → WaveRequest := fun seq => .begin { a.opening run.device with seq := seq }
  have numbering : begin_request device.sequence = .begin (a.opening run.device) := by
    rw [numbered]
    rfl
  have packs := packWaveBegin_ok.mpr ⟨admitted.packs fits, rfl⟩
  have asked := @waveRequest_sent ⟨device, run.sent⟩ board begin_request _ connected (by rw [numbering]; exact packs)
  dsimp only at asked
  rw [numbering, answered] at asked
  -- the DATA packets of the chunks
  have bytes := admitted.totalBytes
  have packet := admitted.packetBytes
  have known := admitted.sessionOf
  obtain ⟨datas, next, sent, carries, outcome⟩ := @sendChunks_run board (a.sessionOf run.device)
    a.packetBytes.toNat a.totalBytes.toNat 0 0 ⟨device.counted, run.sent ++ [.begin (a.opening run.device)]⟩
    acknowledges known (by omega) (by omega) (by omega) (by omega) a.chunks connected (Nat.zero_mod 32)
    (Nat.le_refl 0)
  have inside : ∀ d ∈ datas, d.byteOffset + d.payload.length ≤ a.totalBytes := by
    intro d among
    have bounded := @accepted_within a.totalBytes.toNat 0 a.chunks (Nat.zero_le _)
    have place := sent.carries.within d among
    rw [carries] at place
    omega
  have here : a.Begins board run := ⟨fits, reply, answered, ok⟩
  have short : ∀ {result}, (∃ e, result = .error e) → ¬ Covers a.totalBytes.toNat 0 a.chunks →
      Uploaded a board run result next [.begin (a.opening run.device)] datas [] := by
    intro result raised gap
    refine ⟨by rw [sent.sent, List.append_nil], sent.ours, sent.carries, inside, fun _ => ⟨rfl, carries⟩, ?_, ?_,
      fun _ => ⟨rfl, raised⟩⟩
    · intro refused
      exact absurd here refused
    · intro commits
      exact absurd commits.2 gap
  have sends := starts.trans ((bind_returns asked).trans (bind_returns (checkWaveResponse_ok ok)))
  rcases outcome with ⟨e, refused, gap⟩ | ⟨reached, returned, covers⟩
  · exact ⟨_, next, datas, [], sends.trans (bind_raises refused), short ⟨e, rfl⟩ gap⟩
  · have counted := sends.trans (bind_returns returned)
    dsimp only at counted
    by_cases whole : reached = a.totalBytes.toNat
    · rw [if_neg (not_not.mpr whole)] at counted
      -- the COMMIT
      let commit_request : Int → WaveRequest := fun seq => .commit ⟨waveOpCommit, a.sessionOf run.device, seq⟩
      obtain ⟨packet, commit_packs⟩ := packs_commit known next.device
      have closes := @waveRequest_sent next board commit_request packet sent.connected commit_packs
      rw [Nat.zero_add] at counted
      have closed : ∀ {result}, (∀ reply, board (next.sent ++ [commit_request next.device.sequence]) = .ok reply →
          reply.status = 0 → result = .ok ⟨a.sessionOf run.device, a.channelMask.toNat, a.totalBytes.toNat,
            a.totalBeats.toNat, a.loopCount.toNat, datas.length, reply.state, reply.descriptor⟩) →
          Uploaded a board run result ⟨next.device.counted, next.sent ++ [commit_request next.device.sequence]⟩
            [.begin (a.opening run.device)] datas [commit_request next.device.sequence] := by
        intro result returned
        refine ⟨by rw [sent.sent], sent.ours, sent.carries, inside, fun _ => ⟨rfl, carries⟩, ?_,
          fun _ => ⟨⟨_, rfl⟩, returned⟩, ?_⟩
        · intro refused
          exact absurd here refused
        · intro incomplete
          exact absurd ⟨here, covers.mpr whole⟩ incomplete
      cases replied : board (next.sent ++ [commit_request next.device.sequence]) with
      | error e =>
        rw [replied] at closes
        refine ⟨_, _, datas, _, counted.trans (bind_raises closes), closed ?_⟩
        intro reply other
        rw [replied] at other
        cases other
      | ok committed =>
        rw [replied] at closes
        by_cases accepted : committed.status = 0
        · refine ⟨_, _, datas, _,
            counted.trans ((bind_returns closes).trans (bind_returns (checkWaveResponse_ok accepted))), closed ?_⟩
          intro reply same _
          rw [replied] at same
          cases same
          rfl
        · refine ⟨_, _, datas, _,
            counted.trans ((bind_returns closes).trans (bind_raises (checkWaveResponse_error accepted))), closed ?_⟩
          intro reply same status
          rw [replied] at same
          cases same
          exact absurd status accepted
    · rw [if_pos whole] at counted
      exact ⟨_, next, datas, [], counted, short ⟨_, rfl⟩ fun covered => whole (covers.mp covered)⟩

end StreamArguments

/-- The DATA packets of an upload carry the bytes of the chunks it accepts, in order and within
    the record; the COMMIT is sent when the chunks cover the record, and no upload ends well
    without. -/
theorem stream_exact {a : StreamArguments} {board : Board} {run : UploadRun} (admitted : a.Admitted run.device)
    (acknowledges : Acknowledges board) :
    ∃ result next opening datas closing, uploadInterleavedChunks board a run = (result, next) ∧
      a.Uploaded board run result next opening datas closing := by
  by_cases begins : a.Begins board run
  · obtain ⟨result, next, datas, closing, uploads, uploaded⟩ := admitted.begun acknowledges begins
    exact ⟨result, next, _, datas, closing, uploads, uploaded⟩
  · obtain ⟨result, next, opening, uploads, uploaded⟩ := admitted.unbegun begins
    exact ⟨result, next, opening, [], [], uploads, uploaded⟩

/-- A record of one frame in two chunks, of which the first takes two packets. -/
def twoChunks : StreamArguments :=
  ⟨[(0, List.replicate 192 0x5A), (192, List.replicate 64 0xA5)], 256, 1, 0xFF, 1, none, 128⟩

def agreeing : Board := fun _ => .ok ⟨0, 0, 3, 2⟩

def freshRun : UploadRun := ⟨⟨true, 7, 1, by decide, by decide, by decide⟩, []⟩

theorem two_chunks_exact :
    ∃ result next opening datas closing, uploadInterleavedChunks agreeing twoChunks freshRun = (result, next) ∧
      twoChunks.Uploaded agreeing freshRun result next opening datas closing ∧
      carried datas = List.replicate 192 0x5A ++ List.replicate 64 0xA5 ∧ closing ≠ [] := by
  have begins : twoChunks.Begins agreeing freshRun := ⟨by decide, ⟨0, 0, 3, 2⟩, rfl, rfl⟩
  have covers : Covers twoChunks.totalBytes.toNat 0 twoChunks.chunks := by
    simp only [Covers, twoChunks, List.length_replicate]
    decide
  obtain ⟨result, next, opening, datas, closing, uploads, uploaded⟩ :=
    @stream_exact twoChunks agreeing freshRun
      ⟨rfl, by decide, by decide, by decide, by decide, rfl, by decide, nofun⟩
      (fun _ _ => ⟨⟨0, 0, 3, 2⟩, rfl, rfl⟩)
  refine ⟨result, next, opening, datas, closing, uploads, uploaded, ?_, ?_⟩
  · rw [(uploaded.begins begins).2]
    decide +kernel
  · obtain ⟨⟨seq, commits⟩, -⟩ := uploaded.commits ⟨begins, covers⟩
    rw [commits]
    exact List.cons_ne_nil _ _

end Xczu47dr.Host
