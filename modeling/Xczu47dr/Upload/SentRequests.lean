import Mathlib.Data.Nat.ModEq
import Xczu47dr.Effects.Returns
import Xczu47dr.Host.WaveformUploads
import Xczu47dr.Upload.UploadRequests

/-! # The requests the host sends

What a call of the host that has returned must have sent: the requests of one upload, each with
a number of its own.
-/

namespace Xczu47dr.Upload

open Host Returns

/-- The requests as `Dr47Device` makes them. -/
def WaveUpload.sent (u : WaveUpload) : List Host.WaveRequest :=
  .begin u.opening :: (u.datas.map .data ++ [.commit u.closing])

theorem WaveUpload.pack_sent (u : WaveUpload) :
    u.sent.map Host.WaveRequest.pack = u.requests.map WaveRequest.pack := by
  rw [sent, requests, List.map_cons, List.map_cons, List.map_append, List.map_append, List.map_map, List.map_map]
  rfl

/-- The packets that a call has added to those sent before it are the ones of the upload. -/
def WaveUpload.SentIn (u : WaveUpload) (run next : UploadRun) : Prop :=
  next.sent.map Host.WaveRequest.pack = run.sent.map Host.WaveRequest.pack ++ u.requests.map WaveRequest.pack

theorem WaveUpload.sentIn {u : WaveUpload} {run next : UploadRun} (sent : next.sent = run.sent ++ u.sent) :
    u.SentIn run next := by
  rw [SentIn, sent, List.map_append, u.pack_sent]

/-! ## Numbers that count on -/

/-- The numbers count on from `first`, up to multiples of `m`. -/
def Counted (m : Nat) : Nat → List Int → Prop
  | _, [] => True
  | first, number :: rest => number % m = (first % m : Nat) ∧ Counted m (first + 1) rest

section Counted

variable {m first : Nat} {numbers more : List Int}

theorem Counted.congr {first' : Nat} (same : first % m = first' % m) (counted : Counted m first numbers) :
    Counted m first' numbers := by
  induction numbers generalizing first first' with
  | nil => trivial
  | cons number rest ih =>
    exact ⟨counted.1.trans (congrArg Int.ofNat same), ih (Nat.ModEq.add_right 1 same) counted.2⟩

theorem Counted.append (before : Counted m first numbers) (after : Counted m (first + numbers.length) more) :
    Counted m first (numbers ++ more) := by
  induction numbers generalizing first with
  | nil => exact after
  | cons number rest ih =>
    refine ⟨before.1, ih before.2 ?_⟩
    rw [List.length_cons] at after
    rwa [Nat.add_assoc, Nat.add_comm 1]

theorem Counted.mem {number : Int} (counted : Counted m first numbers) (among : number ∈ numbers) :
    ∃ j < numbers.length, number % m = ((first + j) % m : Nat) := by
  induction numbers generalizing first with
  | nil => cases among
  | cons head rest ih =>
    rcases List.mem_cons.mp among with rfl | later
    · exact ⟨0, Nat.succ_pos _, counted.1⟩
    · obtain ⟨j, inside, same⟩ := ih counted.2 later
      refine ⟨j + 1, Nat.succ_lt_succ inside, ?_⟩
      rw [same, Nat.add_assoc, Nat.add_comm 1]

theorem Counted.nodup (counted : Counted m first numbers) (few : numbers.length ≤ m) : numbers.Nodup := by
  induction numbers generalizing first with
  | nil => exact List.nodup_nil
  | cons number rest ih =>
    rw [List.length_cons] at few
    refine List.nodup_cons.mpr ⟨fun again => ?_, ih counted.2 (Nat.le_of_succ_le few)⟩
    obtain ⟨j, inside, same⟩ := counted.2.mem again
    have equal : first % m = (first + 1 + j) % m := Int.ofNat.inj (counted.1.symm.trans same)
    have apart : (1 + j) % m = 0 := by
      rw [Nat.add_assoc] at equal
      have shifted : Nat.ModEq m (first + 0) (first + (1 + j)) := equal
      have multiple : 0 % m = (1 + j) % m := Nat.ModEq.add_left_cancel' first shifted
      rw [← multiple, Nat.zero_mod]
    rw [Nat.mod_eq_of_lt (by omega)] at apart
    omega

end Counted

/-- The numbers of a `Dr47Device` come around after so many. -/
def numberCycle : Nat := 2 ^ 32 - 1

theorem counted_sequence (d : Dr47Device) : d.counted.sequence % numberCycle = (d.sequence + 1) % numberCycle := by
  have bound := d.sequence_lt
  change (if d.sequence = 0xFFFFFFFF then 1 else d.sequence + 1) % numberCycle = _
  split_ifs with last
  · rw [last]
    rfl
  · rfl

/-! ## Calls that have returned -/

variable {board : Board} {run next : UploadRun}

theorem raising_returned {α : Type} {x : Except ProtocolError α} {a : α} :
    raising x run = (.ok a, next) ↔ x = .ok a ∧ next = run := by
  cases x with
  | error e =>
    refine ⟨fun returned => absurd returned throw_returned, ?_⟩
    rintro ⟨bad, -⟩
    cases bad
  | ok value =>
    refine pure_returned.trans (and_congr_left' ?_)
    exact ⟨fun same => congrArg Except.ok same.symm, fun same => (Except.ok.inj same).symm⟩

theorem requireConnected_returned (returned : requireConnected run = (.ok (), next)) : next = run := by
  cases connected : run.device.connected with
  | false =>
    change (if run.device.connected = false then _ else _ : Sending Unit) run = _ at returned
    rw [if_pos connected] at returned
    exact absurd returned throw_returned
  | true =>
    rw [requireConnected_run connected] at returned
    exact (congrArg Prod.snd returned).symm

/-- A request that has been answered was packed, and has taken a number. -/
theorem waveRequest_returned {request : Int → Host.WaveRequest} {reply : WaveReply}
    (returned : waveRequest board request run = (.ok reply, next)) :
    (∃ packet, (request run.device.sequence).pack = .ok packet) ∧
      next = ⟨run.device.counted, run.sent ++ [request run.device.sequence]⟩ := by
  have connected : run.device.connected = true := by
    cases connected : run.device.connected with
    | true => rfl
    | false =>
      rw [waveRequest] at returned
      obtain ⟨_, _, first, -⟩ := bind_returned.mp returned
      change (if run.device.connected = false then _ else _ : Sending Unit) run = _ at first
      rw [if_pos connected] at first
      exact absurd first throw_returned
  cases packs : (request run.device.sequence).pack with
  | error e =>
    rw [waveRequest_refused connected packs] at returned
    cases returned
  | ok packet =>
    rw [waveRequest_sent connected packs] at returned
    exact ⟨⟨packet, rfl⟩, (congrArg Prod.snd returned).symm⟩

theorem checkWaveResponse_returned {response reply : WaveReply} {operation : String}
    (returned : checkWaveResponse response operation run = (.ok reply, next)) :
    response.status = 0 ∧ reply = response ∧ next = run := by
  rw [checkWaveResponse] at returned
  obtain ⟨ok, returned⟩ := check_returned.mp returned
  exact ⟨not_not.mp ok, pure_returned.mp returned⟩

/-- What a part of an upload that has returned has sent. -/
structure Streams (session packetSeq offset : Nat) (run next : UploadRun) (datas : List DataArguments) : Prop where
  sent : next.sent = run.sent ++ datas.map .data
  fits : ∀ d ∈ datas, d.Fit ∧ d.session = session
  carries : Carries maxData packetSeq offset datas
  numbered : Counted numberCycle run.device.sequence (datas.map (·.seq))
  count : next.device.sequence % numberCycle = (run.device.sequence + datas.length) % numberCycle

theorem Streams.none (session packetSeq offset : Nat) (run : UploadRun) :
    Streams session packetSeq offset run run [] :=
  ⟨(List.append_nil _).symm, nofun, trivial, trivial, rfl⟩

theorem Streams.append {session packetSeq offset : Nat} {middle : UploadRun} {datas more : List DataArguments}
    (first : Streams session packetSeq offset run middle datas)
    (second : Streams session (packetSeq + datas.length) (offset + (Host.carried datas).length) middle next more) :
    Streams session packetSeq offset run next (datas ++ more) where
  sent := by rw [second.sent, first.sent, List.map_append, List.append_assoc]
  fits d among := (List.mem_append.mp among).elim (first.fits d) (second.fits d)
  carries := first.carries.append second.carries
  numbered := by
    rw [List.map_append]
    apply first.numbered.append
    rw [List.length_map]
    exact second.numbered.congr first.count
  count := by
    rw [second.count, List.length_append, ← Nat.add_assoc]
    exact Nat.ModEq.add_right _ first.count

/-- A DATA packet that has been answered. -/
theorem streams_one {session packetSeq offset : Nat} {payload : List Wire.Byte} {reply : WaveReply}
    (returned : waveRequest board (fun seq => .data ⟨session, packetSeq, (offset : Nat), payload, seq⟩) run =
      (.ok reply, next)) :
    Streams session packetSeq offset run next [⟨session, packetSeq, offset, payload, run.device.sequence⟩] := by
  obtain ⟨⟨packet, packs⟩, rfl⟩ := waveRequest_returned returned
  have fit := (packWaveData_ok.mp packs).1
  have numbers := counted_sequence run.device
  refine ⟨rfl, ?_, ⟨rfl, rfl, ⟨fit.length.1, fit.length.2, fit.beats⟩, trivial⟩, ⟨?_, trivial⟩, numbers⟩
  · intro d among
    rw [List.mem_singleton.mp among]
    exact ⟨fit, rfl⟩
  · dsimp only
    rw [Int.natCast_mod]

theorem sendPieces_returned {session packetBytes packetSeq offset start sentPackets : Nat}
    {fragments : List (Nat × List Wire.Byte)} (follows : Fragments packetBytes start fragments)
    (returned : sendPieces board session offset fragments packetSeq run = (.ok sentPackets, next)) :
    ∃ datas, sentPackets = packetSeq + datas.length ∧ datas.length = fragments.length ∧
      Streams session packetSeq (offset + start) run next datas ∧
      Host.carried datas = fragments.flatMap Prod.snd := by
  induction fragments generalizing start packetSeq run with
  | nil =>
    obtain ⟨rfl, rfl⟩ := pure_returned.mp returned
    exact ⟨[], rfl, rfl, .none .., rfl⟩
  | cons fragment rest ih =>
    obtain ⟨begins, piece⟩ := fragment
    obtain ⟨rfl, -, later⟩ := follows
    rw [sendPieces] at returned
    obtain ⟨reply, middle, asked, answered⟩ := bind_returned.mp returned
    obtain ⟨_, _, checked, goes_on⟩ := bind_returned.mp answered
    obtain ⟨-, -, rfl⟩ := checkWaveResponse_returned checked
    obtain ⟨datas, rfl, count, streams, carries⟩ := ih later goes_on
    have both := (streams_one asked).append (by
      rw [Host.carried, List.flatMap_singleton, Nat.add_assoc]
      exact streams)
    refine ⟨_ :: datas, ?_, congrArg (· + 1) count, both, ?_⟩
    · rw [List.length_cons]
      omega
    · rw [Host.carried, List.flatMap_cons, ← Host.carried, carries, List.flatMap_cons]

theorem sendChunks_returned {session totalBytes packetBytes packetSeq offset reached sentPackets : Nat}
    {chunks : List (Int × List Wire.Byte)} (positive : 0 < packetBytes) (whole : packetBytes % 32 = 0)
    (returned : sendChunks board session totalBytes packetBytes chunks offset packetSeq run =
      (.ok (reached, sentPackets), next)) :
    ∃ datas, sentPackets = packetSeq + datas.length ∧ reached = offset + (Host.carried datas).length ∧
      Streams session packetSeq offset run next datas ∧ Host.carried datas = chunks.flatMap Prod.snd := by
  induction chunks generalizing packetSeq offset run with
  | nil =>
    obtain ⟨same, rfl⟩ := pure_returned.mp returned
    obtain ⟨rfl, rfl⟩ := Prod.mk.inj same
    exact ⟨[], rfl, rfl, .none .., rfl⟩
  | cons chunk rest ih =>
    obtain ⟨chunkOffset, raw⟩ := chunk
    rw [sendChunks] at returned
    obtain ⟨begins, _, ranged, checks⟩ := bind_returned.mp returned
    obtain ⟨-, rfl⟩ := raising_returned.mp ranged
    obtain ⟨contiguous, accepted⟩ := check_returned.mp checks
    obtain ⟨fits, sending⟩ := check_returned.mp accepted
    obtain ⟨packets, middle, sends, goes_on⟩ := bind_returned.mp sending
    obtain rfl := not_not.mp contiguous
    have beats : raw.length % 32 = 0 := by omega
    obtain ⟨fragments, bytes⟩ := @pieces_spec packetBytes raw beats whole positive
    obtain ⟨datas, rfl, -, streams, carries⟩ := sendPieces_returned fragments sends
    rw [bytes] at carries
    rw [← carries] at goes_on
    obtain ⟨later, rfl, rfl, streams_later, carries_later⟩ := ih goes_on
    refine ⟨datas ++ later, ?_, ?_, streams.append streams_later, ?_⟩
    · rw [List.length_append, Nat.add_assoc]
    · rw [Host.carried, Host.carried, Host.carried, List.flatMap_append, List.length_append, Nat.add_assoc]
    · rw [Host.carried, List.flatMap_append, ← Host.carried, ← Host.carried, carries, carries_later,
        List.flatMap_cons]

/-- A BEGIN, the DATA packets that have been sent after it, and the COMMIT after those. -/
theorem upload_of_streams {opening : BeginArguments} {closing : CommandArguments} {session : Nat}
    {middle : UploadRun} {datas : List DataArguments} (opens : opening.Fit) (numbered : opening.seq = run.device.sequence)
    (streams : Streams session 0 0 ⟨run.device.counted, run.sent ++ [.begin opening]⟩ middle datas)
    (ours : opening.session = session) (closes : closing.Fit) (commits : closing.opcode = waveOpCommit)
    (theirs : closing.session = session) (closing_numbered : closing.seq = middle.device.sequence)
    (whole : (Host.carried datas).length = opening.totalBytes) :
    ∃ u : WaveUpload, u.opening = opening ∧ u.datas = datas ∧ u.closing = closing := by
  have capacity : ddrMaxInterleavedBytes < 2 ^ 34 := by decide
  have cycle : numberCycle = 2 ^ 32 - 1 := rfl
  have packets := streams.carries.count
  have record := opens.totalBytes.2
  have counts : Counted numberCycle run.device.sequence (opening.seq :: (datas.map (·.seq) ++ [closing.seq])) := by
    refine ⟨?_, ?_⟩
    · rw [numbered, Int.natCast_mod]
    · have data := streams.numbered.congr (counted_sequence run.device)
      refine data.append ⟨?_, trivial⟩
      rw [closing_numbered, List.length_map, ← Int.natCast_mod, streams.count]
      exact congrArg Int.ofNat (Nat.ModEq.add_right datas.length (counted_sequence run.device))
  refine ⟨{
    opening := opening
    datas := datas
    closing := closing
    opens := opens
    sends := fun d among => ⟨(streams.fits d among).1, (streams.fits d among).2.trans ours.symm⟩
    closes := ⟨closes, commits, theirs.trans ours.symm⟩
    carries := streams.carries
    whole := whole
    numbered := counts.nodup ?_ }, rfl, rfl, rfl⟩
  rw [List.length_cons, List.length_append, List.length_map, List.length_singleton]
  omega

/-- The rest of a call after the DATA packets of the whole record: the COMMIT. -/
theorem commit_returned {session : Nat} {reply : WaveReply}
    (returned : waveRequest board (fun seq => .commit ⟨waveOpCommit, session, seq⟩) run = (.ok reply, next)) :
    CommandArguments.Fit ⟨waveOpCommit, session, run.device.sequence⟩ ∧
      next.sent = run.sent ++ [.commit ⟨waveOpCommit, session, run.device.sequence⟩] := by
  obtain ⟨⟨packet, packs⟩, rfl⟩ := waveRequest_returned returned
  exact ⟨(packWaveCommand_ok.mp packs).1, rfl⟩

/-- An upload of chunks that returns has sent one whole upload of their bytes, whatever the board has answered. -/
theorem uploadRecord_returned {session totalBytes totalBeats channelMask loopCount packetBytes : Nat}
    {chunks : List (Int × List Wire.Byte)} {report : StreamReport} (positive : 0 < packetBytes)
    (whole : packetBytes % 32 = 0)
    (returned : uploadRecord board session totalBytes totalBeats channelMask loopCount packetBytes chunks run =
      (.ok report, next)) :
    ∃ u : WaveUpload, next.sent = run.sent ++ u.sent ∧ Host.carried u.datas = chunks.flatMap Prod.snd ∧
      u.opening = ⟨session, totalBytes, channelMask, totalBeats, loopCount, waveLayoutInterleaved512b,
        run.device.sequence⟩ ∧
      report.session = session ∧ report.bytes = totalBytes ∧ report.packetCount = u.datas.length := by
  rw [uploadRecord] at returned
  obtain ⟨begun, _, asked, answered⟩ := bind_returned.mp returned
  obtain ⟨_, _, checked, sending⟩ := bind_returned.mp answered
  obtain ⟨-, -, rfl⟩ := checkWaveResponse_returned checked
  obtain ⟨⟨packet, packs⟩, rfl⟩ := waveRequest_returned asked
  obtain ⟨⟨reached, packets⟩, middle, sends, ends⟩ := bind_returned.mp sending
  obtain ⟨datas, rfl, rfl, streams, carries⟩ := sendChunks_returned positive whole sends
  obtain ⟨complete, committing⟩ := check_returned.mp ends
  obtain ⟨reply, _, closing, committed⟩ := bind_returned.mp committing
  obtain ⟨_, _, accepted, reports⟩ := bind_returned.mp committed
  obtain ⟨-, -, rfl⟩ := checkWaveResponse_returned accepted
  obtain ⟨rfl, rfl⟩ := pure_returned.mp reports
  obtain ⟨closes, closed⟩ := commit_returned closing
  rw [not_not, Nat.zero_add] at complete
  obtain ⟨u, opens, same, last⟩ := upload_of_streams (packWaveBegin_ok.mp packs).1 rfl streams rfl closes rfl rfl rfl
    (congrArg Int.ofNat complete)
  refine ⟨u, ?_, ?_, opens, rfl, rfl, ?_⟩
  · rw [closed, streams.sent, WaveUpload.sent, opens, same, last, List.append_assoc, List.append_assoc]
    rfl
  · rw [same, carries]
  · rw [same]
    exact Nat.zero_add _

/-- The session is numbered, and nothing is sent for it. -/
theorem takeSession_returned {session : Option Int} {taken : Nat}
    (returned : takeSession session run = (.ok taken, next)) : next.sent = run.sent := by
  cases session with
  | none =>
    rw [takeSession] at returned
    cases returned
    rfl
  | some session =>
    rw [takeSession, raising_returned] at returned
    rw [returned.2]

/-- What a call of `upload_interleaved_chunks` that has returned has done. -/
structure SentChunks (a : StreamArguments) (run next : UploadRun) (report : StreamReport) (u : WaveUpload) : Prop where
  sent : u.SentIn run next
  record : Host.carried u.datas = a.chunks.flatMap Prod.snd
  totalBytes : u.opening.totalBytes = a.totalBytes
  totalBeats : u.opening.totalBeats = a.totalBeats
  channelMask : u.opening.channelMask = a.channelMask
  loopCount : u.opening.loopCount = a.loopCount
  session : u.opening.session = report.session
  bytes : report.bytes = a.totalBytes
  packetCount : report.packetCount = u.datas.length

/-- Every call of `upload_interleaved_chunks` that returns, whatever the board has answered, has sent the requests of
one upload, each with a number of its own: of the bytes of all its chunks. -/
theorem chunked_upload_sends (board : Board) (run next : UploadRun) (a : StreamArguments) (report : StreamReport)
    (returned : uploadInterleavedChunks board a run = (.ok report, next)) :
    ∃ u : WaveUpload, SentChunks a run next report u := by
  rw [uploadInterleavedChunks] at returned
  obtain ⟨_, _, connected, sized⟩ := bind_returned.mp returned
  obtain rfl := requireConnected_returned connected
  obtain ⟨totalBytes, _, bytes_taken, counted⟩ := bind_returned.mp sized
  obtain ⟨totalBeats, _, beats_taken, masked⟩ := bind_returned.mp counted
  obtain ⟨channelMask, _, mask_taken, looped⟩ := bind_returned.mp masked
  obtain ⟨loopCount, _, loops_taken, checked⟩ := bind_returned.mp looped
  obtain ⟨-, checked_packets⟩ := check_returned.mp checked
  obtain ⟨whole, checked_size⟩ := check_returned.mp checked_packets
  obtain ⟨-, numbering⟩ := check_returned.mp checked_size
  obtain ⟨session, started, taken, records⟩ := bind_returned.mp numbering
  obtain ⟨bytes, rfl⟩ := raising_returned.mp bytes_taken
  obtain ⟨beats, rfl⟩ := raising_returned.mp beats_taken
  obtain ⟨mask, rfl⟩ := raising_returned.mp mask_taken
  obtain ⟨loops, rfl⟩ := raising_returned.mp loops_taken
  obtain ⟨bytes, rfl⟩ := waveUint_ok.mp bytes
  obtain ⟨beats, rfl⟩ := waveUint_ok.mp beats
  obtain ⟨mask, rfl⟩ := waveUint_ok.mp mask
  obtain ⟨loops, rfl⟩ := waveUint_ok.mp loops
  obtain ⟨u, sent, carries, opens, same, size, packets⟩ := uploadRecord_returned (by omega) (by omega) records
  rw [takeSession_returned taken] at sent
  refine ⟨u, WaveUpload.sentIn sent, carries, ?_, ?_, ?_, ?_, ?_, ?_, packets⟩
  · rw [opens]
    exact Int.toNat_of_nonneg (by omega)
  · rw [opens]
    exact Int.toNat_of_nonneg (by omega)
  · rw [opens]
    exact Int.toNat_of_nonneg (by omega)
  · rw [opens]
    exact Int.toNat_of_nonneg (by omega)
  · rw [opens, same]
  · rw [size]
    exact Int.toNat_of_nonneg (by omega)

theorem twoChunks_sends :
    ∃ report next, uploadInterleavedChunks agreeing twoChunks freshRun = (.ok report, next) ∧
      ∃ u : WaveUpload, SentChunks twoChunks freshRun next report u := by
  have returns : (uploadInterleavedChunks agreeing twoChunks freshRun).1.isOk = true := by decide +kernel
  rcases ended : uploadInterleavedChunks agreeing twoChunks freshRun with ⟨e | report, next⟩
  · rw [ended] at returns
    cases returns
  · exact ⟨report, next, rfl, chunked_upload_sends agreeing freshRun next twoChunks report ended⟩

/-! ## Waveforms -/

theorem uploading_returned {α : Type} {x : Sending α} {a : α} :
    uploading x run = (.ok a, next) ↔ x run = (.ok a, next) := by
  rw [uploading]
  rcases x run with ⟨e | value, after⟩
  · constructor
    · intro returned
      cases returned
    · intro returned
      cases returned
  · constructor
    · intro returned
      cases returned
      rfl
    · intro returned
      cases returned
      rfl

theorem converting_returned {α : Type} {x : Except WaveformError α} {a : α}
    (returned : converting x run = (.ok a, next)) : x = .ok a ∧ next = run := by
  cases x with
  | error e => exact absurd returned throw_returned
  | ok value =>
    cases returned
    exact ⟨rfl, rfl⟩

/-- An image that has been uploaded was sent as one upload. -/
theorem uploadImage_returned {session mask : Nat} {loopCount : Int} {image : List Wire.Byte} {reply : WaveReply}
    (whole : image.length % 256 = 0)
    (returned : uploadImage board session mask loopCount image run = (.ok reply, next)) :
    ∃ u : WaveUpload, next.sent = run.sent ++ u.sent ∧ Host.carried u.datas = image ∧
      u.opening = ⟨session, image.length, mask, (image.length / 256 : Nat), loopCount, waveLayoutInterleaved512b,
        run.device.sequence⟩ ∧
      u.datas.length = (image.length + imagePacketBytes - 1) / imagePacketBytes := by
  rw [uploadImage] at returned
  obtain ⟨begun, _, asked, answered⟩ := bind_returned.mp returned
  obtain ⟨_, _, checked, sending⟩ := bind_returned.mp answered
  obtain ⟨-, -, rfl⟩ := checkWaveResponse_returned checked
  obtain ⟨⟨packet, packs⟩, rfl⟩ := waveRequest_returned asked
  obtain ⟨sentPackets, middle, sends, committing⟩ := bind_returned.mp sending
  obtain ⟨fragments, bytes⟩ := @pieces_spec imagePacketBytes image (by omega) (by decide) (by decide)
  obtain ⟨datas, rfl, count, streams, carries⟩ := sendPieces_returned fragments sends
  obtain ⟨committed, _, closing, accepts⟩ := bind_returned.mp committing
  obtain ⟨-, -, rfl⟩ := checkWaveResponse_returned accepts
  obtain ⟨closes, closed⟩ := commit_returned closing
  rw [bytes] at carries
  obtain ⟨u, opens, same, last⟩ := upload_of_streams (packWaveBegin_ok.mp packs).1 rfl streams rfl closes rfl rfl rfl
    (congrArg (fun bytes => (bytes.length : Int)) carries)
  refine ⟨u, ?_, by rw [same, carries], opens, ?_⟩
  · rw [closed, streams.sent, WaveUpload.sent, opens, same, last, List.append_assoc, List.append_assoc]
    rfl
  · rw [same, count, pieces, List.length_map, List.length_range]

theorem length_image_samples (channelWaves : ChannelWaves) :
    (packInterleaved512bWaveforms channelWaves).1.length = 8 * ((packInterleaved512bWaveforms channelWaves).2 * 2) := by
  have length := length_image channelWaves
  have whole := (maxSamples_spec channelWaves).2
  by_cases empty : channelWaves.isEmpty = true
  · rw [packInterleaved512bWaveforms, if_pos empty]
    rfl
  · have samples : (packInterleaved512bWaveforms channelWaves).2 = maxSamples channelWaves := by
      rw [packInterleaved512bWaveforms, if_neg empty]
    omega

/-- What a call of `upload_waveforms` that has returned has done. -/
structure SentWaveforms (a : WaveformArguments) (run next : UploadRun) (report : WaveformReport)
    (converted : ChannelWaves) (u : WaveUpload) : Prop where
  formats : normalizeWaves a.waveFormats a.channelWaves = .ok converted
  sent : u.SentIn run next
  image : Host.carried u.datas = (packInterleaved512bWaveforms (muted report.channelMask converted)).1
  mask : (report.channelMask : Int) = a.channelMask.getD (channelBits converted) ∧ report.channelMask < 2 ^ 8
  opening : u.opening.session = report.session ∧ u.opening.channelMask = report.channelMask ∧
    u.opening.totalBytes = report.bytes ∧ u.opening.totalBeats = report.totalBeats ∧ u.opening.loopCount = a.loopCount
  counts : report.loopCount = a.loopCount ∧ report.packetCount = u.datas.length ∧
    report.bytes = 8 * report.bytesPerChannel

/-- The image of the converted waveforms, with zeros for the channels that the mask leaves out, was sent as one
upload. -/
theorem uploadWaveforms_returned {a : WaveformArguments} {report : WaveformReport}
    (returned : uploadWaveforms board a run = (.ok report, next)) :
    ∃ converted u, SentWaveforms a run next report converted u := by
  rw [uploadWaveforms] at returned
  obtain ⟨-, sequences⟩ := check_returned.mp returned
  obtain ⟨-, converts⟩ := check_returned.mp sequences
  obtain ⟨converted, _, formats, masks⟩ := bind_returned.mp converts
  obtain ⟨normalizes, rfl⟩ := converting_returned formats
  obtain ⟨mask, _, masked, packs⟩ := bind_returned.mp masks
  obtain ⟨mask_ok, rfl⟩ := raising_returned.mp (uploading_returned.mp masked)
  obtain ⟨-, numbering⟩ := check_returned.mp packs
  obtain ⟨session, started, taken, uploads⟩ := bind_returned.mp numbering
  obtain ⟨committed, _, uploaded, reports⟩ := bind_returned.mp uploads
  obtain ⟨rfl, rfl⟩ := pure_returned.mp reports
  have length := length_image (muted mask converted)
  obtain ⟨u, sent, image, opens, packets⟩ := uploadImage_returned (by omega) (uploading_returned.mp uploaded)
  obtain ⟨within, rfl⟩ := waveUint_ok.mp mask_ok
  rw [takeSession_returned (uploading_returned.mp taken)] at sent
  have positive : (0 : Int) ≤ a.channelMask.getD (channelBits converted) := by omega
  refine ⟨converted, u, normalizes, WaveUpload.sentIn sent, image, ⟨Int.toNat_of_nonneg positive, ?_⟩, ?_, rfl,
    packets.symm, ?_⟩
  · dsimp only
    omega
  · rw [opens]
    exact ⟨rfl, rfl, rfl, rfl, rfl⟩
  · exact length_image_samples _

end Xczu47dr.Upload
