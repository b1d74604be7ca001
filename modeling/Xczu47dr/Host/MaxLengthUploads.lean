import Xczu47dr.Host.MaxLengthChunks
import Xczu47dr.Host.StreamedUpload

/-! # Uploads of maximum-length records

Three callers hand the chunks of such a record to `upload_interleaved_chunks`,
which takes offsets in bytes. The chunks are numbered in beats.
-/

namespace Xczu47dr.Host

open Chunking Refusals

/-! ## The callers -/

/-- Where the web service looks the generator up: `max_length.py` imports `dr47` as its driver,
and only `host.py` has `iter_max_length_payload_chunks`. -/
inductive Driver where
  | dr47
  | host
deriving DecidableEq

/-- The chunks are generated, or read from a file that is made unless it is there. -/
inductive ChunkSource where
  | generated
  | cached (before : Option (List Byte)) (force : Bool)

inductive Caller where
  | maxLengthService (driver : Driver) (beatsPerDatagram : Nat)
  | runExtremePlayback (beatsPerDatagram : Nat) (source : ChunkSource)
  | sendWaveformUdp (source : ChunkSource)

def udpBulkSafeMaxBeats : Nat := 4

/-- `validate_udp_bulk_beats`; so few beats fit a datagram. -/
def validateUdpBulkBeats (beats : Nat) : Except String Nat :=
  if beats = 0 then .error "beats_per_datagram must be positive"
  else if udpBulkSafeMaxBeats < beats then
    .error s!"beats_per_datagram={beats} exceeds the PL UDP bulk parser limit of {udpBulkSafeMaxBeats} 512-bit beats"
  else .ok beats

namespace MaxLengthRecord

/-- The chunks from one of the two sources. -/
def streamed (record : MaxLengthRecord) (sine : SineSamples) (chunkBeats : Nat) :
    ChunkSource → Except String (List (Nat × List Byte))
  | .generated => record.iterMaxLengthPayloadChunks sine chunkBeats
  | .cached before force => do
      let file ← record.ensureMaxLengthWaveformCache sine before force 8192
      iterMaxLengthPayloadChunksFromCache file record.bytesPerChannel chunkBeats

end MaxLengthRecord

namespace Caller

def chunks (record : MaxLengthRecord) (sine : SineSamples) : Caller → Except String (List (Nat × List Byte))
  | .maxLengthService .dr47 _ => .error "module 'dr47' has no attribute 'iter_max_length_payload_chunks'"
  | .maxLengthService .host beatsPerDatagram =>
      ({ record with markerBytesPerChannel := 4096 } : MaxLengthRecord).iterMaxLengthPayloadChunks sine
        (if beatsPerDatagram = 0 then udpBulkSafeMaxBeats else beatsPerDatagram)
  | .runExtremePlayback beatsPerDatagram source => do
      let beats ← validateUdpBulkBeats beatsPerDatagram
      record.streamed sine beats source
  | .sendWaveformUdp source => record.streamed sine 8192 source

/-- The offset a caller hands over with a chunk. -/
def offset (beatIndex : Nat) : Caller → Nat
  | .sendWaveformUdp _ => beatIndex * ddrInterleavedBeatBytes
  | _ => beatIndex

def totalBeats (record : MaxLengthRecord) : Caller → Nat
  | .sendWaveformUdp _ => record.bytesPerChannel / beatBytes
  | _ => record.totalPhysicalBytes / 256

/-- The call of `upload_interleaved_chunks`. -/
def arguments (caller : Caller) (record : MaxLengthRecord) (chunks : List (Nat × List Byte)) : StreamArguments :=
  { chunks := chunks.map fun chunk => ((caller.offset chunk.1 : Int), chunk.2)
    totalBytes := record.totalPhysicalBytes, totalBeats := caller.totalBeats record, channelMask := 0xFF,
    loopCount := 1, session := none, packetBytes := 1024 }

end Caller

/-! ## What is asked of a caller -/

def AcknowledgesAll (board : Board) : Prop := ∀ sent, ∃ reply, board sent = .ok reply ∧ reply.status = 0

/-- The upload sends the COMMIT and reports the record's size. -/
def Commits (a : StreamArguments) (totalBytes : Nat) : Prop :=
  ∀ board run, run.device.connected = true → AcknowledgesAll board →
    ∃ report next seq, ∃ datas : List DataArguments, uploadInterleavedChunks board a run = (.ok report, next) ∧
      next.sent = run.sent ++ [.begin (a.opening run.device)] ++ datas.map .data ++
        [.commit ⟨waveOpCommit, a.sessionOf run.device, seq⟩] ∧
      report.bytes = totalBytes ∧ report.totalBeats = totalBytes / 256

structure Contract (caller : Caller) (record : MaxLengthRecord) (sine : SineSamples) : Prop where
  handed : ∃ chunks, caller.chunks record sine = .ok chunks ∧
    Covers record.totalPhysicalBytes 0 (caller.arguments record chunks).chunks ∧
      Commits (caller.arguments record chunks) record.totalPhysicalBytes

/-- The offsets are converted, or one chunk holds the whole record. -/
def Caller.Converts (record : MaxLengthRecord) : Caller → Prop
  | .maxLengthService driver beatsPerDatagram =>
      driver = .host ∧ record.totalBeats ≤ (if beatsPerDatagram = 0 then udpBulkSafeMaxBeats else beatsPerDatagram) ∧
        (record.pattern = .cwMarker → record.bytesPerChannel ≤ 4096)
  | .runExtremePlayback beatsPerDatagram _ => record.totalBeats ≤ beatsPerDatagram
  | .sendWaveformUdp _ => True

def Caller.Legal : Caller → Prop
  | .runExtremePlayback beatsPerDatagram _ => 0 < beatsPerDatagram ∧ beatsPerDatagram ≤ udpBulkSafeMaxBeats
  | _ => True

/-! ## Offsets -/

/-- Numbered chunks that are not empty and hold the whole record. -/
structure Tiles (chunks : List (Nat × List Byte)) (totalBytes : Nat) : Prop where
  numbered : Numbered 0 chunks
  filled : ∀ chunk ∈ chunks, chunk.2 ≠ []
  size : (joined chunks).length = totalBytes

theorem covers_bytes {beat totalBytes : Nat} {chunks : List (Nat × List Byte)} (numbered : Numbered beat chunks)
    (filled : ∀ chunk ∈ chunks, chunk.2 ≠ [])
    (size : beat * ddrInterleavedBeatBytes + (joined chunks).length = totalBytes) :
    Covers totalBytes (beat * ddrInterleavedBeatBytes)
      (chunks.map fun chunk => (((chunk.1 * ddrInterleavedBeatBytes : Nat) : Int), chunk.2)) := by
  have wide : ddrInterleavedBeatBytes = 64 := rfl
  induction chunks generalizing beat with
  | nil => exact size
  | cons chunk rest ih =>
      obtain ⟨here, whole, later⟩ := numbered
      have some_bytes : chunk.2.length ≠ 0 :=
        fun empty => filled chunk List.mem_cons_self (List.length_eq_zero_iff.mp empty)
      have joined_cons : (joined (chunk :: rest)).length = chunk.2.length + (joined rest).length := by
        rw [joined, List.map_cons, List.flatten_cons, List.length_append]
        rfl
      have onward : (beat + chunk.2.length / ddrInterleavedBeatBytes) * ddrInterleavedBeatBytes =
          beat * ddrInterleavedBeatBytes + chunk.2.length := by
        rw [wide] at whole ⊢
        omega
      refine ⟨by dsimp only; rw [here], some_bytes, by dsimp only; rw [wide] at whole; omega, ?_⟩
      have behind := ih later (fun other mem => filled other (List.mem_cons_of_mem chunk mem))
        (by rw [onward, ← size, joined_cons, Nat.add_assoc])
      rwa [onward] at behind

/-- Offsets in beats cover the record only if they come to one chunk. -/
theorem covers_beats_iff {totalBytes : Nat} {chunks : List (Nat × List Byte)} (tiles : Tiles chunks totalBytes)
    (some_bytes : 0 < totalBytes) :
    Covers totalBytes 0 (chunks.map fun chunk => ((chunk.1 : Int), chunk.2)) ↔ chunks.length = 1 := by
  have wide : ddrInterleavedBeatBytes = 64 := rfl
  obtain ⟨numbered, filled, size⟩ := tiles
  match chunks with
  | [] =>
      rw [← size] at some_bytes
      exact absurd some_bytes (Nat.lt_irrefl 0)
  | [chunk] =>
      obtain ⟨here, whole, _⟩ := numbered
      rw [joined, List.map_singleton, List.flatten_singleton] at size
      rw [wide] at whole
      refine iff_of_true ⟨by dsimp only; rw [here], by dsimp only; omega, by dsimp only; omega, ?_⟩ rfl
      change 0 + chunk.2.length = totalBytes
      omega
  | first :: second :: rest =>
      obtain ⟨_, whole, next, _⟩ := numbered
      have present : first.2.length ≠ 0 :=
        fun empty => filled first List.mem_cons_self (List.length_eq_zero_iff.mp empty)
      rw [wide] at whole next
      refine iff_of_false ?_ (by rw [List.length_cons, List.length_cons]; omega)
      rintro ⟨_, _, _, misplaced, _⟩
      change ((second.1 : Nat) : Int) = ((0 + first.2.length : Nat) : Int) at misplaced
      omega

/-! ## Generated chunks -/

namespace MaxLengthRecord

variable {record : MaxLengthRecord} {sine : SineSamples} {chunkBeats : Nat}

theorem Legal.tiles_chunks (legal : record.Legal) (some_beats : 0 < chunkBeats) :
    Tiles (record.chunks sine chunkBeats) record.totalPhysicalBytes := by
  refine ⟨numbered_chunks, fun chunk mem => ?_, length_joined legal some_beats⟩
  obtain ⟨start, walked, rfl⟩ := List.mem_map.mp mem
  have inside := ((mem_walk (advances some_beats) (Nat.le_add_left _ _)).mp walked).2
  have forward := (@advances record chunkBeats some_beats).forward start inside
  apply List.ne_nil_of_length_pos
  rw [length_chunkBytes]
  exact Nat.mul_pos (by decide) forward

theorem Legal.some_beats (legal : record.Legal) : 0 < record.totalBeats := by
  obtain ⟨groups, _, some_groups, _, _, _, beats, _, _⟩ := legal.groups
  omega

/-- One chunk holds the record when it reaches the end in the region of the first beat. -/
theorem Legal.one_chunk_iff (legal : record.Legal) (positive : 0 < chunkBeats) :
    (record.chunks sine chunkBeats).length = 1 ↔
      record.totalBeats ≤ chunkBeats ∧ (record.pattern = .cwMarker → record.bytesPerChannel ≤ record.markerBytesPerChannel) := by
  obtain ⟨groups, markers, some_groups, _, bytes, markerBytes, beats, size, _⟩ := legal.groups
  have moves := @advances record chunkBeats positive
  have inside := legal.some_beats
  have whole : (record.chunks sine chunkBeats).length = 1 ↔ record.totalBeats ≤ record.chunkCount chunkBeats 0 := by
    obtain ⟨fuel, left⟩ := Nat.exists_eq_succ_of_ne_zero (Nat.ne_of_gt inside)
    have enough : record.totalBeats ≤ 0 + record.chunkCount chunkBeats 0 + fuel := by
      have forward := moves.forward 0 inside
      omega
    rw [chunks, List.length_map]
    conv_lhs => rw [left, walk, ← left, if_pos inside]
    rw [List.length_cons, Nat.add_eq_right, List.length_eq_zero_iff]
    constructor
    · intro none_left
      by_contra more
      have next := (mem_walk moves enough).mpr ⟨.here, by omega⟩
      rw [none_left] at next
      cases next
    · intro all
      cases fuel with
      | zero => rfl
      | succ fuel => exact if_neg (by omega)
  rw [whole]
  cases pattern : record.pattern with
  | lowfreqSine =>
      rw [chunkCount, pattern]
      dsimp only
      refine ⟨fun reached => ⟨by omega, by rintro ⟨⟩⟩, ?_⟩
      rintro ⟨fits, -⟩
      omega
  | cwMarker =>
      obtain ⟨⟨_, within⟩, last, beyond⟩ := chunkCount_spec pattern positive inside
      have start : record.region 0 = .start := (legal.region_iff 0).1.mpr (by omega)
      constructor
      · intro reached
        rw [start] at last
        have marked := (legal.region_iff _).1.mp last
        exact ⟨by omega, fun _ => by omega⟩
      · rintro ⟨fits, marked⟩
        have short := marked rfl
        by_contra less
        refine beyond record.totalBeats (by omega) (by omega) ?_
        rw [start]
        exact (legal.region_iff _).1.mpr (by omega)

/-! ## Chunks of a file -/

theorem Legal.ensure_size (legal : record.Legal) (some_beats : 0 < chunkBeats) (before : Option (List Byte))
    (force : Bool) :
    ∃ file, record.ensureMaxLengthWaveformCache sine before force chunkBeats = .ok file ∧
      file.length = record.totalPhysicalBytes := by
  by_cases kept : before.map List.length = some (record.bytesPerChannel * ddrInterleavedChannels) ∧ force = false
  · obtain ⟨file, rfl, size⟩ := Option.map_eq_some_iff.mp kept.1
    refine ⟨file, ?_, size⟩
    rw [ensureMaxLengthWaveformCache, legal.aligned_ok]
    exact if_pos kept
  · have written : ((record.chunks sine chunkBeats).map Prod.snd).flatten.length =
        record.bytesPerChannel * ddrInterleavedChannels := length_joined legal some_beats
    refine ⟨joined (record.chunks sine chunkBeats), ?_, written⟩
    rw [ensureMaxLengthWaveformCache, legal.aligned_ok]
    change (if _ then _ else _) = _
    rw [if_neg kept, legal.iter_ok some_beats]
    change (if _ then _ else _) = _
    rw [if_neg (not_not_intro written)]
    rfl

end MaxLengthRecord

theorem readCache_filled {chunkBytes expectedSize beatIndex readBytes : Nat} {left : List Byte}
    {chunks : List (Nat × List Byte)}
    (read : readCache chunkBytes expectedSize beatIndex readBytes left = .ok chunks) :
    ∀ chunk ∈ chunks, chunk.2 ≠ [] := by
  fun_induction readCache chunkBytes expectedSize beatIndex readBytes left generalizing chunks with
  | case1 => cases read
  | case2 =>
      cases read
      nofun
  | case3 => cases read
  | case4 =>
      rename_i present _ ih
      obtain ⟨later, computed, returned⟩ := bind_ok.mp read
      obtain rfl := pure_ok.mp returned
      intro chunk mem
      rcases List.mem_cons.mp mem with rfl | mem
      · exact fun empty => present (List.length_eq_zero_iff.mpr empty)
      · exact ih computed chunk mem

/-- The first read takes as many beats as it may. -/
theorem readCache_first {readBeats beats : Nat} {file : List Byte} (size : file.length = ddrInterleavedBeatBytes * beats)
    {chunks : List (Nat × List Byte)}
    (read : readCache (readBeats * ddrInterleavedBeatBytes) file.length 0 0 file = .ok chunks) (some_beats : 0 < beats)
    (positive : 0 < readBeats) :
    ∃ first rest, chunks = first :: rest ∧ first.2.length = ddrInterleavedBeatBytes * min readBeats beats := by
  have wide : ddrInterleavedBeatBytes = 64 := rfl
  have taken : (file.take (min (readBeats * ddrInterleavedBeatBytes) (file.length - 0))).length =
      ddrInterleavedBeatBytes * min readBeats beats := by
    rw [List.length_take, size, wide]
    omega
  unfold readCache at read
  dsimp only at read
  rw [dif_neg (by rw [taken, wide]; omega), if_neg (by rw [taken, Nat.mul_mod_right]; exact not_not_intro rfl)] at read
  obtain ⟨later, _, returned⟩ := bind_ok.mp read
  exact ⟨_, later, pure_ok.mp returned, taken⟩

theorem Tiles.one_iff {chunks : List (Nat × List Byte)} {totalBytes beats : Nat} (tiles : Tiles chunks totalBytes)
    (size : totalBytes = ddrInterleavedBeatBytes * beats) {first : Nat × List Byte} {rest : List (Nat × List Byte)}
    (split : chunks = first :: rest) {readBeats : Nat}
    (taken : first.2.length = ddrInterleavedBeatBytes * min readBeats beats) :
    chunks.length = 1 ↔ beats ≤ readBeats := by
  have wide : ddrInterleavedBeatBytes = 64 := rfl
  obtain ⟨_, filled, bytes⟩ := tiles
  subst split
  have joined_cons : (joined (first :: rest)).length = first.2.length + (joined rest).length := by
    rw [joined, List.map_cons, List.flatten_cons, List.length_append]
    rfl
  rw [joined_cons, taken, size, wide] at bytes
  rw [List.length_cons, Nat.add_eq_right, List.length_eq_zero_iff]
  constructor
  · rintro rfl
    change _ + 0 = _ at bytes
    omega
  · intro all
    cases rest with
    | nil => rfl
    | cons second later =>
        have present := filled second (List.mem_cons_of_mem first List.mem_cons_self)
        have empty : (joined (second :: later)).length = 0 := by omega
        rw [joined, List.map_cons, List.flatten_cons, List.length_append] at empty
        exact absurd (List.length_eq_zero_iff.mp (by omega)) present

namespace MaxLengthRecord

variable {record : MaxLengthRecord} {sine : SineSamples} {chunkBeats : Nat}

/-- Either source gives the whole record; with a file the first chunk is as long as it may be. -/
theorem Legal.streamed_tiles (legal : record.Legal) (positive : 0 < chunkBeats) (source : ChunkSource) :
    ∃ chunks, record.streamed sine chunkBeats source = .ok chunks ∧ Tiles chunks record.totalPhysicalBytes ∧
      (chunks.length = 1 ↔ record.totalBeats ≤ chunkBeats ∧
        (source = .generated → record.pattern = .cwMarker → record.bytesPerChannel ≤ record.markerBytesPerChannel)) := by
  cases source with
  | generated =>
      refine ⟨_, legal.iter_ok positive, legal.tiles_chunks positive, (legal.one_chunk_iff positive).trans ?_⟩
      rw [imp_iff_right rfl]
  | cached before force =>
      obtain ⟨file, made, size⟩ := @Legal.ensure_size record sine 8192 legal (by decide) before force
      obtain ⟨chunks, read, bytes, numbered⟩ := legal.cache_ok positive size
      have beats : file.length = ddrInterleavedBeatBytes * record.totalBeats := by
        rw [size, Nat.mul_comm, legal.totalBytes]
      have loop : readCache (chunkBeats * ddrInterleavedBeatBytes) file.length 0 0 file = .ok chunks := by
        have bounds : ¬ (record.bytesPerChannel = 0 ∨ ddrMaxBytesPerChannel < record.bytesPerChannel) := by
          have some_bytes := legal.positive
          have fits := legal.fits
          omega
        rw [iterMaxLengthPayloadChunksFromCache, legal.aligned_ok] at read
        change (if _ then _ else _) = _ at read
        rw [if_neg bounds] at read
        change (if _ then _ else _) = _ at read
        rw [if_neg (by omega)] at read
        change (if _ then _ else _) = _ at read
        have whole : file.length = record.bytesPerChannel * ddrInterleavedChannels := size
        rw [if_neg (not_not_intro whole)] at read
        rw [whole]
        exact read
      have tiles : Tiles chunks record.totalPhysicalBytes := ⟨numbered, readCache_filled loop, by rw [bytes, size]⟩
      obtain ⟨first, rest, split, taken⟩ := readCache_first beats loop legal.some_beats positive
      refine ⟨chunks, ?_, tiles, (tiles.one_iff (size.symm.trans beats) split taken).trans ?_⟩
      · rw [streamed, made]
        exact read
      · exact ⟨fun fits => ⟨fits, by rintro ⟨⟩⟩, And.left⟩

end MaxLengthRecord

/-! ## The upload of a caller -/

section Upload

variable {caller : Caller} {record : MaxLengthRecord} {sine : SineSamples} {chunks : List (Nat × List Byte)}

theorem totalBeats_bytes (legal : record.Legal) :
    record.totalPhysicalBytes = caller.totalBeats record * 256 ∧ 0 < caller.totalBeats record ∧
      record.totalPhysicalBytes ≤ ddrMaxInterleavedBytes := by
  obtain ⟨groups, markers, some_groups, _, bytes, _, _, _, _⟩ := legal.groups
  have fits := legal.fits
  have lanes : ddrInterleavedChannels = 8 := rfl
  have beat : beatBytes = 32 := rfl
  rw [MaxLengthRecord.totalPhysicalBytes, lanes, ddrMaxInterleavedBytes]
  unfold Caller.totalBeats MaxLengthRecord.totalPhysicalBytes
  rw [lanes, beat]
  split <;> omega

theorem arguments_admitted (legal : record.Legal) {device : Dr47Device} (connected : device.connected = true) :
    (caller.arguments record chunks).Admitted device := by
  obtain ⟨size, some_beats, fits⟩ := @totalBeats_bytes caller record legal
  have capacity : ddrMaxInterleavedBytes < 2 ^ 36 := by decide
  have frame : waveDacFrameBytes = 256 := rfl
  refine ⟨connected, ?_, ?_, ?_, ?_, ?_, ?_, nofun⟩
  all_goals dsimp only [Caller.arguments]
  · omega
  · omega
  · decide
  · decide
  · rw [frame]
    omega
  · decide

/-- Chunks that cover the record are committed. -/
theorem commits_of_covers (legal : record.Legal)
    (covers : Covers record.totalPhysicalBytes 0 (caller.arguments record chunks).chunks) :
    Commits (caller.arguments record chunks) record.totalPhysicalBytes := by
  obtain ⟨size, some_beats, fits⟩ := @totalBeats_bytes caller record legal
  intro board run connected acknowledges
  obtain ⟨reply, answered, ok⟩ :=
    acknowledges (run.sent ++ [.begin ((caller.arguments record chunks).opening run.device)])
  have begins : (caller.arguments record chunks).Begins board run := by
    refine ⟨?_, reply, answered, ok⟩
    change ((record.totalPhysicalBytes : Nat) : Int) ≤ ddrMaxInterleavedBytes
    omega
  obtain ⟨result, next, datas, closing, uploads, uploaded⟩ :=
    (@arguments_admitted caller record chunks legal _ connected).begun
      (fun sent d => acknowledges (sent ++ [.data d])) begins
  have bytes : (caller.arguments record chunks).totalBytes.toNat = record.totalPhysicalBytes := rfl
  have beats : (caller.arguments record chunks).totalBeats.toNat = record.totalPhysicalBytes / 256 := by
    change caller.totalBeats record = _
    omega
  obtain ⟨⟨seq, closed⟩, returns⟩ := uploaded.commits ⟨begins, by rw [bytes]; exact covers⟩
  obtain ⟨committed, replied, accepted⟩ := acknowledges next.sent
  refine ⟨_, next, seq, datas, by rw [uploads, returns committed replied accepted], ?_, bytes, beats⟩
  rw [uploaded.sent, closed]

/-- The chunks that are handed over cover the record in bytes. -/
def Hands (caller : Caller) (record : MaxLengthRecord) (sine : SineSamples) : Prop :=
  ∃ chunks, caller.chunks record sine = .ok chunks ∧
    Covers record.totalPhysicalBytes 0 (caller.arguments record chunks).chunks

/-- The uploader does its part for every caller that hands over such chunks. -/
theorem contract_iff_hands (legal : record.Legal) : Contract caller record sine ↔ Hands caller record sine := by
  constructor
  · rintro ⟨chunks, computed, covers, _⟩
    exact ⟨chunks, computed, covers⟩
  · rintro ⟨chunks, computed, covers⟩
    exact ⟨chunks, computed, covers, commits_of_covers legal covers⟩

theorem hands_iff_covers (computed : caller.chunks record sine = .ok chunks) :
    Hands caller record sine ↔ Covers record.totalPhysicalBytes 0 (caller.arguments record chunks).chunks := by
  constructor
  · rintro ⟨others, again, covers⟩
    rw [computed] at again
    rwa [Except.ok.inj again]
  · exact fun covers => ⟨chunks, computed, covers⟩

theorem hands_iff (legal : record.Legal) (allowed : caller.Legal) :
    Hands caller record sine ↔ caller.Converts record := by
  have some_bytes : 0 < record.totalPhysicalBytes := by
    have size := @totalBeats_bytes caller record legal
    omega
  cases caller with
  | maxLengthService driver beatsPerDatagram =>
      cases driver with
      | dr47 =>
          refine iff_of_false ?_ fun converts => nomatch converts.1
          rintro ⟨_, computed, _⟩
          cases computed
      | host =>
          have markerAligned : 4096 % beatBytes = 0 := by decide
          have marked : ({ record with markerBytesPerChannel := 4096 } : MaxLengthRecord).Legal :=
            ⟨legal.aligned, legal.positive, legal.fits, markerAligned, Nat.zero_lt_succ _⟩
          have positive : 0 < (if beatsPerDatagram = 0 then udpBulkSafeMaxBeats else beatsPerDatagram) := by
            rw [udpBulkSafeMaxBeats]
            split <;> omega
          have handed : (Caller.maxLengthService .host beatsPerDatagram).chunks record sine = .ok _ :=
            marked.iter_ok positive
          rw [hands_iff_covers handed]
          exact (covers_beats_iff (marked.tiles_chunks positive) some_bytes).trans
            ((marked.one_chunk_iff positive).trans (and_iff_right rfl).symm)
  | runExtremePlayback beatsPerDatagram source =>
      obtain ⟨positive, few⟩ := allowed
      obtain ⟨chunks, computed, tiles, one⟩ := @MaxLengthRecord.Legal.streamed_tiles record sine _ legal positive source
      have valid : validateUdpBulkBeats beatsPerDatagram = .ok beatsPerDatagram := by
        rw [validateUdpBulkBeats, if_neg (by omega), if_neg (by omega)]
      have handed : (Caller.runExtremePlayback beatsPerDatagram source).chunks record sine = .ok chunks := by
        rw [Caller.chunks, valid]
        exact computed
      rw [hands_iff_covers handed]
      refine (covers_beats_iff tiles some_bytes).trans (one.trans ?_)
      change _ ↔ record.totalBeats ≤ beatsPerDatagram
      -- four beats are never more than a marker
      obtain ⟨groups, markers, _, _, bytes, markerBytes, beats, _, _⟩ := legal.groups
      rw [udpBulkSafeMaxBeats] at few
      exact ⟨And.left, fun fits => ⟨fits, fun _ _ => by omega⟩⟩
  | sendWaveformUdp source =>
      obtain ⟨chunks, computed, tiles, _⟩ :=
        @MaxLengthRecord.Legal.streamed_tiles record sine 8192 legal (by decide) source
      have handed : (Caller.sendWaveformUdp source).chunks record sine = .ok chunks := computed
      rw [hands_iff_covers handed]
      refine iff_of_true ?_ trivial
      have covers := @covers_bytes 0 record.totalPhysicalBytes chunks tiles.numbered tiles.filled
        (by rw [Nat.zero_mul, Nat.zero_add, tiles.size])
      rwa [Nat.zero_mul] at covers

end Upload

/-- A caller meets the contract of the uploader exactly when it converts the offsets, or one
chunk holds the record. -/
theorem contract_iff (caller : Caller) (record : MaxLengthRecord) (sine : SineSamples) (legal : record.Legal)
    (allowed : caller.Legal) : Contract caller record sine ↔ caller.Converts record :=
  (contract_iff_hands legal).trans (hands_iff legal allowed)

/-- One group of 32 bytes a channel, four beats in all. -/
def oneGroup : MaxLengthRecord := ⟨32, 4096, .cwMarker⟩

theorem extreme_legal (source : ChunkSource) : (Caller.runExtremePlayback 4 source).Legal := ⟨by decide, by decide⟩

/-- A whole record in one datagram hides the missing conversion. -/
theorem oneGroup_contract : Contract (.runExtremePlayback 4 .generated) oneGroup (fun _ _ => (0, 0)) := by
  have legal : oneGroup.Legal := ⟨by decide, by decide, by decide, by decide, by decide⟩
  have fits : oneGroup.totalBeats ≤ 4 := by decide
  exact (contract_iff (.runExtremePlayback 4 .generated) oneGroup _ legal (extreme_legal _)).mpr fits

def twoGroups : MaxLengthRecord := ⟨64, 4096, .cwMarker⟩

theorem twoGroups_legal : twoGroups.Legal := ⟨by decide, by decide, by decide, by decide, by decide⟩

/-- The second chunk is refused; the service does not even come to its chunks. -/
theorem twoGroups_refused : twoGroups.Legal ∧
    ¬ Contract (.runExtremePlayback 4 .generated) twoGroups (fun _ _ => (0, 0)) ∧
      ¬ Contract (.maxLengthService .dr47 4) twoGroups (fun _ _ => (0, 0)) := by
  have handed {caller : Caller} (allowed : caller.Legal) (contract : Contract caller twoGroups (fun _ _ => (0, 0))) :
      caller.Converts twoGroups :=
    (hands_iff twoGroups_legal allowed).mp ((contract_iff_hands twoGroups_legal).mp contract)
  refine ⟨twoGroups_legal, ?_, ?_⟩
  · intro contract
    have fits : twoGroups.totalBeats ≤ 4 := handed (extreme_legal _) contract
    exact absurd fits (by decide)
  · intro contract
    have served : (Caller.maxLengthService .dr47 4).Legal := trivial
    exact nomatch (handed served contract).1

end Xczu47dr.Host
