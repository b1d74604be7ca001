import Xczu47dr.Host.StreamedUpload
import Xczu47dr.Upload.DdrImage

/-! # The requests of an upload

What the session makes of the packets of one upload: of the one it waits for, of the last one
again, and of one that comes late.
-/

namespace Xczu47dr.Upload

open UploadWriter Wire Host

/-- The requests of an upload that the host packs: a BEGIN, the DATA packets of the record, and
    a COMMIT, each with its own number. -/
structure WaveUpload where
  opening : BeginArguments
  datas : List DataArguments
  closing : CommandArguments
  opens : opening.Fit
  sends : ∀ d ∈ datas, d.Fit ∧ d.session = opening.session
  closes : closing.Fit ∧ closing.opcode = waveOpCommit ∧ closing.session = opening.session
  carries : Carries maxData 0 0 datas
  whole : (Host.carried datas).length = opening.totalBytes
  numbered : (opening.seq :: (datas.map (·.seq) ++ [closing.seq])).Nodup

namespace WaveUpload

variable (u : WaveUpload)

/-- The requests in the order they are made. -/
def requests : List WaveRequest := .begin u.opening :: (u.datas.map .data ++ [.command u.closing])

/-- The payloads of the first `count` DATA packets. -/
def payloads (count : Nat) : List (List Wire.Byte) := (u.datas.take count).map (·.payload)

end WaveUpload

/-! ## The session, request by request -/

/-- The session is the one of the BEGIN. -/
structure SessionOf (u : WaveUpload) (c : UploadCore) : Prop where
  session : c.session = u.opening.session.toNat
  request : c.lastBeginRequest = u.opening.seq.toNat
  totalBytes : c.totalBytes = u.opening.totalBytes.toNat
  totalBeats : c.totalBeats = u.opening.totalBeats.toNat
  channelMask : c.channelMask = u.opening.channelMask.toNat
  loopCount : c.loopCount = u.opening.loopCount.toNat

def recordOf (d : DataArguments) : DataRecord :=
  ⟨d.seq.toNat, d.packetSeq.toNat, d.byteOffset.toNat, d.payload.length, Host.crc32 d.payload⟩

/-- The session after the first so many requests of the upload, and the payloads it has taken. -/
inductive Progress (u : WaveUpload) : Nat → UploadCore → List (List Wire.Byte) → Prop
  | waiting {c : UploadCore} {payloads : List (List Wire.Byte)}
      (unseen : ¬ (c.session = u.opening.session.toNat ∧ c.lastBeginRequest = u.opening.seq.toNat)) :
      Progress u 0 c payloads
  | receiving {c : UploadCore} (count : Nat) (within : count ≤ u.datas.length) (begun : SessionOf u c)
      (active : c.uploadActive = true) (uncommitted : c.committed = false) (packets : c.nextPacketSeq = count)
      (received : c.receivedBytes = (Host.carried (u.datas.take count)).length)
      (first : count = 0 → c.lastDataValid = false)
      (last : ∀ j d, count = j + 1 → u.datas[j]? = some d → c.lastDataValid = true ∧ c.lastData = recordOf d) :
      Progress u (count + 1) c (u.payloads count)
  | committed {c : UploadCore} (begun : SessionOf u c) (committed : c.committed = true) (closed : c.uploadActive = false)
      (request : c.lastCommitRequest = u.closing.seq.toNat) :
      Progress u (u.datas.length + 2) c (u.payloads u.datas.length)

namespace WaveUpload

variable {u : WaveUpload} {k : Nat} {r : WaveRequest}

theorem request_cases (found : u.requests[k]? = some r) :
    k = 0 ∧ r = .begin u.opening ∨ (∃ j d, k = j + 1 ∧ u.datas[j]? = some d ∧ r = .data d) ∨
      k = u.datas.length + 1 ∧ r = .command u.closing := by
  cases k with
  | zero =>
    cases found
    exact .inl ⟨rfl, rfl⟩
  | succ j =>
    rw [requests, List.getElem?_cons_succ] at found
    rcases Nat.lt_or_ge j u.datas.length with inside | behind
    · rw [List.getElem?_append_left (by rwa [List.length_map]), List.getElem?_map] at found
      obtain ⟨d, named, same⟩ := Option.map_eq_some_iff.mp found
      exact .inr (.inl ⟨j, d, rfl, named, same.symm⟩)
    · rw [List.getElem?_append_right (by rwa [List.length_map]), List.length_map] at found
      obtain ⟨last, same⟩ := List.getElem?_eq_some_iff.mp found
      rw [List.length_singleton] at last
      rw [List.getElem_singleton] at same
      exact .inr (.inr ⟨by omega, same.symm⟩)

end WaveUpload

theorem carries_place {packetBytes packetSeq offset j : Nat} {datas : List DataArguments} {d : DataArguments}
    (carries : Carries packetBytes packetSeq offset datas) (found : datas[j]? = some d) :
    d.packetSeq = (packetSeq + j : Nat) ∧ d.byteOffset = (offset + (Host.carried (datas.take j)).length : Nat) := by
  induction datas generalizing packetSeq offset j with
  | nil => exact absurd found (by simp)
  | cons e rest ih =>
    obtain ⟨number, place, -, later⟩ := carries
    cases j with
    | zero =>
      cases found
      exact ⟨number, place⟩
    | succ j =>
      rw [List.getElem?_cons_succ] at found
      obtain ⟨number', place'⟩ := ih later found
      refine ⟨by rw [number']; omega, ?_⟩
      rw [place', List.take_succ_cons, Host.carried, Host.carried, List.flatMap_cons, List.length_append]
      omega

theorem carried_take_succ {datas : List DataArguments} {j : Nat} {d : DataArguments} (found : datas[j]? = some d) :
    Host.carried (datas.take (j + 1)) = Host.carried (datas.take j) ++ d.payload := by
  rw [List.take_add_one, found, Host.carried, Host.carried, List.flatMap_append]
  exact congrArg _ (List.append_nil _)

namespace WaveUpload

variable {u : WaveUpload}

theorem payloads_flatten (count : Nat) : (u.payloads count).flatten = Host.carried (u.datas.take count) := by
  rw [payloads, Host.carried, List.flatMap_def]

theorem payloads_succ {j : Nat} {d : DataArguments} (found : u.datas[j]? = some d) :
    u.payloads (j + 1) = u.payloads j ++ [d.payload] := by
  rw [payloads, payloads, List.take_add_one, found, List.map_append]
  rfl

theorem payloads_all : (u.payloads u.datas.length).flatten = Host.carried u.datas := by
  rw [payloads_flatten, List.take_length]

end WaveUpload

/-! ## The answers to the requests of an upload -/

section Answers

variable {u : WaveUpload} {p : WriterParams} {t : Transaction} {payloads : List (List Wire.Byte)}

/-- A packet that changes nothing, and adds nothing. -/
theorem Progress.unchanged {m : Nat} (progress : Progress u m t.before payloads) (unchanged : t.Unchanged)
    (none : ¬ (t.opcode = opData ∧ t.status = statusOk ∧ t.request.dataRepeated t.before = false)) :
    Progress u m t.after (t.uploads payloads) := by
  rw [Transaction.uploads_none unchanged.pulses none, unchanged.after]
  exact progress

/-- A request that is accepted as it has been before. -/
theorem Transaction.Lawful.of_idle (lawful : t.Lawful p) (good : WellFormed t.words)
    (opcode : opcodeOf t.words ≠ opStatus) (verdict : t.verdict p = .accept t.before none) :
    t.status = statusOk ∧ t.Unchanged := by
  obtain ⟨status, after, pulses, writes⟩ := lawful.of_accept good opcode verdict
  cases lawful.outcome with
  | accepted _ _ _ _ _ _ _ axi => exact ⟨status, after, pulses, writes, axi⟩
  | malformed bad => exact absurd good bad
  | status _ bad => exact absurd bad opcode
  | refused _ _ _ own | badCrc _ _ _ own | repeated _ _ own | stored _ _ own | failed _ _ own =>
    exact Verdict.noConfusion (own.symm.trans verdict)

theorem begin_sound (u : WaveUpload) (c : UploadCore) :
    (requestOf c (WaveRequest.begin u.opening).words).beginMalformed = false := by
  obtain ⟨session, bytes, beats, mask, loops, layout, whole, -⟩ := u.opens
  have one : u.opening.layout = 1 := layout
  have capacity : u.opening.totalBytes ≤ ddrCapacityBytes := bytes.2
  have frame : u.opening.totalBytes = u.opening.totalBeats * 256 := whole
  rw [UploadRequest.beginMalformed, (begin_request u.opens c).2.2, decide_eq_false_iff_not, beginFields]
  dsimp only
  omega

/-- The first BEGIN of the upload opens its session. -/
theorem begin_first (lawful : t.Lawful p) (words : t.words = (WaveRequest.begin u.opening).words)
    (unseen : ¬ (t.before.session = u.opening.session.toNat ∧ t.before.lastBeginRequest = u.opening.seq.toNat)) :
    t.status = statusOk ∧ t.pulses = [.begin] ∧ Progress u 1 t.after (t.uploads payloads) := by
  have good : WellFormed t.words :=
    words ▸ packed_wellFormed (r := .begin u.opening) (packWaveBegin_ok.mpr ⟨u.opens, rfl⟩)
  obtain ⟨opcode, seq, fields⟩ := begin_request u.opens t.before
  rw [← words] at opcode seq fields
  have fields : t.request.begin = beginFields u.opening := fields
  have number : t.request.seq = u.opening.seq.toNat := seq
  have sound : t.request.beginMalformed = false := by
    rw [Transaction.request, words]
    exact begin_sound u t.before
  have fresh : t.request.beginRepeated t.before = false := by
    have other : ¬ (t.before.session = (beginFields u.opening).session ∧
        t.before.lastBeginRequest = u.opening.seq.toNat) := unseen
    rw [UploadRequest.beginRepeated, fields, number, decide_eq_false other, Bool.false_and]
  have verdict : t.verdict p = .accept (t.before.begun p t.request) (some .begin) := by
    rw [Transaction.verdict, judge_begin opcode, UploadRequest.judgeBegin, sound, if_neg Bool.false_ne_true, fresh,
      if_neg Bool.false_ne_true]
  obtain ⟨status, after, pulses, -⟩ := lawful.of_accept good (by rw [opcode]; decide) verdict
  have begins : t.pulses = [.begin] := pulses
  refine ⟨status, begins, ?_⟩
  rw [Transaction.uploads, if_pos begins, after]
  refine .receiving 0 (Nat.zero_le _) ?_ rfl rfl rfl rfl (fun _ => rfl) (fun j _ none => absurd none (by omega))
  constructor
  · exact congrArg BeginFields.session fields
  · exact number
  · exact congrArg BeginFields.totalBytes fields
  · exact congrArg BeginFields.totalBeats fields
  · exact congrArg BeginFields.channelMask fields
  · exact congrArg BeginFields.loopCount fields

/-- A BEGIN that comes again finds its session. -/
theorem begin_again (lawful : t.Lawful p) (words : t.words = (WaveRequest.begin u.opening).words)
    (begun : SessionOf u t.before) (live : t.before.uploadActive = true ∨ t.before.committed = true) :
    t.status = statusOk ∧ t.Unchanged ∧ t.opcode ≠ opData := by
  have good : WellFormed t.words :=
    words ▸ packed_wellFormed (r := .begin u.opening) (packWaveBegin_ok.mpr ⟨u.opens, rfl⟩)
  obtain ⟨opcode, seq, fields⟩ := begin_request u.opens t.before
  rw [← words] at opcode seq fields
  have fields : t.request.begin = beginFields u.opening := fields
  have number : t.request.seq = u.opening.seq.toNat := seq
  have sound : t.request.beginMalformed = false := by
    rw [Transaction.request, words]
    exact begin_sound u t.before
  have again : t.request.beginRepeated t.before = true := by
    rw [UploadRequest.beginRepeated, fields, number, decide_eq_true ⟨begun.session, begun.request⟩, Bool.true_and,
      Bool.or_eq_true]
    exact live
  have same : t.request.beginDiffers t.before = false := by
    rw [UploadRequest.beginDiffers, fields, decide_eq_false_iff_not, begun.totalBytes, begun.totalBeats,
      begun.channelMask, begun.loopCount]
    simp [beginFields]
  have verdict : t.verdict p = .accept t.before none := by
    rw [Transaction.verdict, judge_begin opcode, UploadRequest.judgeBegin, sound, if_neg Bool.false_ne_true, again,
      if_pos rfl, same, if_neg Bool.false_ne_true]
  obtain ⟨status, unchanged⟩ := lawful.of_idle good (by rw [opcode]; decide) verdict
  refine ⟨status, unchanged, ?_⟩
  rw [lawful.opcode, opcode]
  decide

/-- What a DATA of the upload asks for. -/
structure Asks (u : WaveUpload) (j : Nat) (d : DataArguments) (t : Transaction) : Prop where
  good : WellFormed t.words
  opcode : opcodeOf t.words = opData
  data : t.request.data = { dataFields d with
    offsetOk := decide ((dataFields d).offset % 32 = 0 ∧ (dataFields d).offset = t.before.receivedBytes ∧
      (dataFields d).offset ≤ t.before.totalBytes ∧ d.payload.length ≤ t.before.totalBytes - (dataFields d).offset) }
  record : (⟨t.request.seq, t.request.data.packetSeq, t.request.data.offset, t.request.data.length,
    t.request.data.crcExpected⟩ : DataRecord) = recordOf d
  session : d.session = u.opening.session
  packet : (dataFields d).packetSeq = j
  offset : (dataFields d).offset = (Host.carried (u.datas.take j)).length
  aligned : (dataFields d).offset % 32 = 0
  checksum : CrcMatches t.words t.request
  payload : t.payload = d.payload

theorem data_asks {j : Nat} {d : DataArguments} (found : u.datas[j]? = some d)
    (words : t.words = (WaveRequest.data d).words) : Asks u j d t := by
  obtain ⟨fit, named⟩ := u.sends d (List.mem_of_getElem? found)
  obtain ⟨number, place⟩ := carries_place u.carries found
  have packs : (WaveRequest.data d).pack = .ok _ := packWaveData_ok.mpr ⟨fit, rfl⟩
  have good : WellFormed t.words := words ▸ packed_wellFormed packs
  have all := (packWaveData_words (packWaveData_ok.mpr ⟨fit, rfl⟩)).2
  have numbered := (unsigned_toNat fit.seq).1
  obtain ⟨opcode, seq, inRange, -⟩ := data_request fit t.before
  have fields := dataWords_data (toWords d.payload) (dataFields_narrow fit) numbered t.before
  have ranged : decide ((dataFields d).length ≠ 0 ∧ (dataFields d).length ≤ maxPayloadBytes ∧
      (dataFields d).length % 32 = 0) = true := by
    rw [← inRange]
    exact (congrArg DataFields.rangeOk fields).symm
  rw [ranged] at fields
  have request : t.request.data = _ := (congrArg (fun words => (requestOf t.before words).data) words).trans fields
  have bytes : wordBytes (toWords d.payload) = d.payload := wordBytes_toWords _ all.symm
  have aligned : d.byteOffset % 32 = 0 := fit.aligned
  refine ⟨good, words ▸ opcode, request, ?_, named, ?_, ?_, ?_, ?_, ?_⟩
  · rw [request]
    have numbers : t.request.seq = d.seq.toNat := (congrArg seqOf words).trans seq
    rw [numbers]
    rfl
  · change d.packetSeq.toNat = j
    omega
  · change d.byteOffset.toNat = _
    omega
  · change d.byteOffset.toNat % 32 = 0
    omega
  · have exact' : 8 * (toWords d.payload).length = t.request.data.length := by
      rw [request]
      exact all
    rw [words]
    refine (crcMatches_iff (dataFields d) d.seq.toNat exact').mpr ?_
    rw [request, bytes]
    rfl
  · rw [Transaction.payload, words]
    exact bytes

/-- Another packet than the last one stored is not taken for it. -/
theorem Asks.fresh {i j : Nat} {d e : DataArguments} (asks : Asks u j d t) (other : i ≠ j)
    (found : u.datas[i]? = some e) (stored : t.before.lastData = recordOf e) :
    t.request.dataRepeated t.before = false := by
  rw [UploadRequest.dataRepeated, asks.record, stored, Bool.and_eq_false_iff]
  refine .inr (decide_eq_false fun same => other ?_)
  have number : e.packetSeq.toNat = (dataFields d).packetSeq := congrArg DataRecord.packet same
  have place := (carries_place u.carries found).1
  have packet := asks.packet
  omega

theorem data_first {j : Nat} {d : DataArguments} (lawful : t.Lawful p) (found : u.datas[j]? = some d)
    (words : t.words = (WaveRequest.data d).words) (memory : t.axiFails = false) (calm : t.playback ≠ 8)
    (progress : Progress u (j + 1) t.before payloads) :
    t.status = statusOk ∧ t.pulses = [] ∧ Progress u (j + 2) t.after (t.uploads payloads) := by
  have asks := data_asks found words
  have inside := (List.getElem?_eq_some_iff.mp found).1
  have longer := congrArg List.length (carried_take_succ found)
  rw [List.length_append] at longer
  have total := u.whole
  have part : (Host.carried (u.datas.take (j + 1))).length ≤ (Host.carried u.datas).length := by
    conv_rhs => rw [← List.take_append_drop (j + 1) u.datas, Host.carried, List.flatMap_append, List.length_append]
    exact Nat.le_add_right _ _
  have bytes := u.opens.totalBytes.2
  have capacity : ddrMaxInterleavedBytes < 2 ^ 36 := by decide
  have few := u.carries.count
  generalize level : j + 1 = m at progress
  cases progress with
  | waiting => omega
  | committed => omega
  | receiving count within begun active uncommitted packets received first last =>
    obtain rfl : count = j := by omega
    have fresh : t.request.dataRepeated t.before = false := by
      cases count with
      | zero => rw [UploadRequest.dataRepeated, first rfl, Bool.false_and]
      | succ i =>
        obtain ⟨e, earlier⟩ : ∃ e, u.datas[i]? = some e := ⟨_, List.getElem?_eq_getElem (by omega)⟩
        exact asks.fresh (Nat.ne_of_lt (Nat.lt_succ_self i)) earlier (last i e rfl earlier).2
    have place := asks.offset
    have verdict : t.verdict p = .check false := by
      rw [Transaction.verdict, judge_data asks.opcode, UploadRequest.judgeData, fresh, asks.data]
      dsimp only
      have placed : decide ((dataFields d).offset % 32 = 0 ∧ (dataFields d).offset = t.before.receivedBytes ∧
          (dataFields d).offset ≤ t.before.totalBytes ∧
            d.payload.length ≤ t.before.totalBytes - (dataFields d).offset) = true := by
        rw [begun.totalBytes, received, place]
        exact decide_eq_true ⟨place ▸ asks.aligned, rfl, by omega, by omega⟩
      have named : (dataFields d).session = t.before.session :=
        (congrArg Int.toNat asks.session).trans begun.session.symm
      rw [placed, packets, asks.packet, named, active, if_neg (by simp [calm]),
        if_neg (by rintro ⟨⟩), if_neg (by rintro ⟨⟩), if_neg (by simp), if_neg (by rintro ⟨⟩)]
    cases lawful.outcome with
    | stored _ _ _ _ status after pulses =>
      refine ⟨status, pulses, ?_⟩
      rw [Transaction.uploads, pulses, if_neg (by decide), if_pos ⟨lawful.opcode.trans asks.opcode, status, fresh⟩,
        after, asks.payload, ← WaveUpload.payloads_succ found]
      refine .receiving (count + 1) inside ⟨begun.session, begun.request, begun.totalBytes, begun.totalBeats,
        begun.channelMask, begun.loopCount⟩ active uncommitted ?_ ?_ (by rintro ⟨⟩) fun i e same stored => ⟨rfl, ?_⟩
      · change (t.before.nextPacketSeq + 1) % 2 ^ 32 = count + 1
        omega
      · change (t.before.receivedBytes + t.request.data.length) % 2 ^ 64 = _
        rw [asks.data, received]
        change (_ + d.payload.length) % 2 ^ 64 = _
        omega
      · obtain rfl : count = i := by omega
        cases found.symm.trans stored
        exact asks.record
    | malformed bad => exact absurd asks.good bad
    | status _ bad => exact absurd (asks.opcode.symm.trans bad) (by decide)
    | badCrc _ _ _ _ bad => exact absurd asks.checksum bad
    | failed _ _ _ _ _ _ _ _ _ _ axi => exact absurd (memory.symm.trans axi) Bool.noConfusion
    | refused _ _ _ own | accepted _ _ _ own => exact Verdict.noConfusion (own.symm.trans verdict)
    | repeated _ _ own => exact absurd (Verdict.check.inj (own.symm.trans verdict)) Bool.noConfusion

/-- The last DATA that comes again is answered as before, and not stored again. -/
theorem data_again {j : Nat} {d : DataArguments} (lawful : t.Lawful p) (found : u.datas[j]? = some d)
    (words : t.words = (WaveRequest.data d).words) (calm : t.playback ≠ 8)
    (progress : Progress u (j + 2) t.before payloads) :
    t.status = statusOk ∧ t.pulses = [] ∧ Progress u (j + 2) t.after (t.uploads payloads) := by
  have asks := data_asks found words
  have inside := (List.getElem?_eq_some_iff.mp found).1
  generalize level : j + 2 = m at progress
  have kept := progress
  cases progress with
  | waiting => omega
  | committed => omega
  | receiving count _ begun active _ _ _ _ last =>
    obtain ⟨valid, stored⟩ := last j d (by omega) found
    have again : t.request.dataRepeated t.before = true := by
      rw [UploadRequest.dataRepeated, asks.record, valid, stored, Bool.true_and, decide_eq_true_eq]
    have verdict : t.verdict p = .check true := by
      have named : (dataFields d).session = t.before.session :=
        (congrArg Int.toNat asks.session).trans begun.session.symm
      rw [Transaction.verdict, judge_data asks.opcode, UploadRequest.judgeData, again, asks.data]
      dsimp only
      rw [named, active, if_neg (by simp [calm]), if_neg (by rintro ⟨⟩), if_pos rfl]
    obtain ⟨status, unchanged⟩ := lawful.of_repeated asks.good verdict asks.checksum
    exact ⟨status, unchanged.pulses,
      kept.unchanged unchanged fun new => Bool.noConfusion (again.symm.trans new.2.2)⟩

theorem data_late {j m : Nat} {d : DataArguments} (lawful : t.Lawful p) (found : u.datas[j]? = some d)
    (words : t.words = (WaveRequest.data d).words) (late : j + 2 < m) (progress : Progress u m t.before payloads) :
    t.pulses = [] ∧ Progress u m t.after (t.uploads payloads) := by
  have asks := data_asks found words
  have inRange : t.request.data.rangeOk = true := congrArg DataFields.rangeOk asks.data
  have refused : ∃ status offset, t.verdict p = .refuse status offset := by
    rw [Transaction.verdict, judge_data asks.opcode, UploadRequest.judgeData, inRange]
    cases progress with
    | waiting => omega
    | committed _ _ closed => exact ⟨_, _, if_pos (.inr (.inl closed))⟩
    | receiving count within _ _ _ packets _ _ last =>
      obtain ⟨i, rfl⟩ : ∃ i, count = i + 1 := ⟨count - 1, by omega⟩
      obtain ⟨e, newer⟩ : ∃ e, u.datas[i]? = some e := ⟨_, List.getElem?_eq_getElem (by omega)⟩
      have fresh := asks.fresh (by omega) newer (last i e rfl newer).2
      have packet : t.request.data.packetSeq = j := (congrArg DataFields.packetSeq asks.data).trans asks.packet
      rw [fresh, packet, packets, if_neg Bool.false_ne_true, if_neg (by decide : ¬ true = false),
        if_pos (by omega : j ≠ i + 1)]
      split_ifs
      · exact ⟨_, _, rfl⟩
      · exact ⟨_, _, rfl⟩
  obtain ⟨status, offset, verdict⟩ := refused
  obtain ⟨answer, unchanged⟩ := lawful.of_refuse asks.good (by rw [asks.opcode]; decide) verdict
  refine ⟨unchanged.pulses, progress.unchanged unchanged fun new => (judge_refuse verdict).1 ?_⟩
  rw [← answer]
  exact new.2.1

/-- What the COMMIT of the upload asks for. -/
theorem commit_asks (words : t.words = (WaveRequest.command u.closing).words) (begun : SessionOf u t.before) :
    WellFormed t.words ∧ opcodeOf t.words = opCommit ∧ t.request.seq = u.closing.seq.toNat ∧
      t.verdict p = t.request.judgeCommit t.before t.playback := by
  obtain ⟨fit, commits, named⟩ := u.closes
  have packs : (WaveRequest.command u.closing).pack = .ok _ := packWaveCommand_ok.mpr ⟨fit, rfl⟩
  have good : WellFormed t.words := words ▸ packed_wellFormed packs
  obtain ⟨opcode, seq, -, word⟩ := command_request fit t.before
  have code : opcodeOf t.words = opCommit := by
    rw [words, opcode, commits]
    rfl
  have session : t.request.sessionWord = wordOf u.opening.session.toNat 0 := by
    rw [Transaction.request, words, word, named]
  have below : u.opening.session.toNat < 2 ^ 32 := by
    have bound := u.opens.session.2
    omega
  refine ⟨good, code, (congrArg seqOf words).trans seq, ?_⟩
  have own : t.request.sessionDiffers t.before = false := by
    rw [UploadRequest.sessionDiffers, session, high_wordOf below (by decide), low_wordOf below (by decide), begun.session]
    simp
  have request : t.request.opcode = opCommit := code
  rw [Transaction.verdict, UploadRequest.judge, request, if_neg (by decide), if_neg (by decide), own,
    if_neg Bool.false_ne_true, if_pos rfl]

theorem commit_first (lawful : t.Lawful p) (words : t.words = (WaveRequest.command u.closing).words)
    (calm : t.playback ≠ 8) (progress : Progress u (u.datas.length + 1) t.before payloads) :
    t.status = statusOk ∧ t.pulses = [.commit] ∧ Progress u (u.datas.length + 2) t.after (t.uploads payloads) := by
  generalize level : u.datas.length + 1 = m at progress
  cases progress with
  | waiting => omega
  | committed => omega
  | receiving count _ begun active uncommitted _ received =>
    obtain rfl : count = u.datas.length := by omega
    obtain ⟨good, opcode, seq, judged⟩ := commit_asks (p := p) words begun
    have session := u.opens.session.1
    have whole := u.whole
    have verdict : t.verdict p = .accept (t.before.commits t.request) (some .commit) := by
      have named : t.before.session ≠ 0 := by
        rw [begun.session]
        omega
      have all : t.before.receivedBytes = t.before.totalBytes := by
        rw [received, List.take_length, begun.totalBytes]
        omega
      rw [judged, UploadRequest.judgeCommit, uncommitted, active, if_neg (by simp), if_neg (by simp [named, calm]), all,
        if_neg (by simp)]
    obtain ⟨status, after, pulses, -⟩ := lawful.of_accept good (by rw [opcode]; decide) verdict
    have commits : t.pulses = [.commit] := pulses
    refine ⟨status, commits, ?_⟩
    have no_data : t.opcode ≠ opData := by
      rw [lawful.opcode, opcode]
      decide
    rw [Transaction.uploads, commits, if_neg (by decide), if_neg fun data => no_data data.1, after]
    exact .committed ⟨begun.session, begun.request, begun.totalBytes, begun.totalBeats, begun.channelMask,
      begun.loopCount⟩ rfl rfl seq

/-- A COMMIT that comes again is answered as before. -/
theorem commit_again (lawful : t.Lawful p) (words : t.words = (WaveRequest.command u.closing).words)
    (progress : Progress u (u.datas.length + 2) t.before payloads) :
    t.status = statusOk ∧ t.pulses = [] ∧ Progress u (u.datas.length + 2) t.after (t.uploads payloads) := by
  generalize level : u.datas.length + 2 = m at progress
  have kept := progress
  cases progress with
  | waiting => omega
  | receiving => omega
  | committed begun committed _ request =>
    obtain ⟨good, opcode, seq, judged⟩ := commit_asks (p := p) words begun
    have verdict : t.verdict p = .accept t.before none := by
      rw [judged, UploadRequest.judgeCommit, seq, if_pos ⟨committed, request⟩]
    obtain ⟨status, unchanged⟩ := lawful.of_idle good (by rw [opcode]; decide) verdict
    refine ⟨status, unchanged.pulses, kept.unchanged unchanged fun new => ?_⟩
    rw [lawful.opcode, opcode] at new
    exact absurd new.1 (by decide)

/-- The commands pulsed by the first so many requests. -/
def WaveUpload.commands (u : WaveUpload) (count : Nat) : List PlaybackCommand :=
  (if 1 ≤ count then [.begin] else []) ++ if count = u.datas.length + 2 then [.commit] else []

/-- A request that has been sent is the next one, or one that has taken effect before. -/
theorem Progress.answers {m k : Nat} {r : WaveRequest} (progress : Progress u m t.before payloads)
    (lawful : t.Lawful p) (request : u.requests[k]? = some r) (words : t.words = r.words) (reached : k ≤ m)
    (memory : t.axiFails = false) (calm : t.playback ≠ 8) :
    ∃ m', (m' = m ∨ m' = m + 1 ∧ m = k) ∧ k + 1 ≤ m' ∧ Progress u m' t.after (t.uploads payloads) ∧
      u.commands m ++ t.pulses = u.commands m' ∧ (m' = k + 1 → t.status = statusOk) := by
  rcases WaveUpload.request_cases request with ⟨rfl, rfl⟩ | ⟨j, d, rfl, found, rfl⟩ | ⟨rfl, rfl⟩
  · -- the BEGIN
    have again (begun : SessionOf u t.before) (live : t.before.uploadActive = true ∨ t.before.committed = true)
        (started : 1 ≤ m) : ∃ m', (m' = m ∨ m' = m + 1 ∧ m = 0) ∧ 0 + 1 ≤ m' ∧
          Progress u m' t.after (t.uploads payloads) ∧ u.commands m ++ t.pulses = u.commands m' ∧
            (m' = 0 + 1 → t.status = statusOk) := by
      obtain ⟨status, unchanged, no_data⟩ := begin_again lawful words begun live
      refine ⟨m, .inl rfl, started, progress.unchanged unchanged fun new => no_data new.1, ?_, fun _ => status⟩
      rw [unchanged.pulses, List.append_nil]
    cases progress with
    | waiting unseen =>
      obtain ⟨status, pulses, next⟩ : t.status = statusOk ∧ t.pulses = [.begin] ∧
          Progress u 1 t.after (t.uploads payloads) := begin_first lawful words unseen
      refine ⟨1, .inr ⟨rfl, rfl⟩, Nat.le_refl _, next, ?_, fun _ => status⟩
      simp [WaveUpload.commands, pulses]
    | receiving _ _ begun active => exact again begun (.inl active) (Nat.le_add_left _ _)
    | committed begun committed => exact again begun (.inr committed) (Nat.le_add_left _ _)
  · -- a DATA
    have inside := (List.getElem?_eq_some_iff.mp found).1
    rcases Nat.lt_trichotomy m (j + 2) with before | same | after
    · obtain rfl : m = j + 1 := by omega
      obtain ⟨status, pulses, next⟩ := data_first lawful found words memory calm progress
      refine ⟨j + 2, .inr ⟨rfl, rfl⟩, Nat.le_refl _, next, ?_, fun _ => status⟩
      simp only [WaveUpload.commands, pulses, List.append_nil, if_neg (by omega : ¬ j + 1 = u.datas.length + 2),
        if_neg (by omega : ¬ j + 2 = u.datas.length + 2), if_pos (by omega : 1 ≤ j + 1), if_pos (by omega : 1 ≤ j + 2)]
    · subst same
      obtain ⟨status, pulses, next⟩ := data_again lawful found words calm progress
      exact ⟨j + 2, .inl rfl, Nat.le_refl _, next, by rw [pulses, List.append_nil], fun _ => status⟩
    · obtain ⟨pulses, next⟩ := data_late lawful found words after progress
      exact ⟨m, .inl rfl, by omega, next, by rw [pulses, List.append_nil], fun last => absurd after (by omega)⟩
  · -- the COMMIT
    have bound : m ≤ u.datas.length + 2 := by
      cases progress with
      | waiting => omega
      | receiving => omega
      | committed => exact Nat.le_refl _
    rcases Nat.lt_or_ge m (u.datas.length + 2) with before | after
    · obtain rfl : m = u.datas.length + 1 := by omega
      obtain ⟨status, pulses, next⟩ := commit_first lawful words calm progress
      refine ⟨u.datas.length + 2, .inr ⟨rfl, rfl⟩, Nat.le_refl _, next, ?_, fun _ => status⟩
      simp [WaveUpload.commands, pulses]
    · obtain rfl : m = u.datas.length + 2 := by omega
      obtain ⟨status, pulses, next⟩ := commit_again lawful words progress
      exact ⟨_, .inl rfl, Nat.le_refl _, next, by rw [pulses, List.append_nil], fun _ => status⟩

end Answers

end Xczu47dr.Upload
