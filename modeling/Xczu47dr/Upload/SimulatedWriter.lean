import Xczu47dr.Host.Simulator
import Xczu47dr.Upload.RequestRoundTrip

/-! # The simulator and the writer

Two implementations of the session protocol, request by request.  The writer tells a request
that is sent again from a new one by its number, which the simulator never sees; the
simulator remembers every fragment of an upload and the writer only the last.
-/

namespace Xczu47dr.Upload

open Wire
open Host (SimulatedDr47Device SimulatedResponse Fragment)

/-! ## Requests -/

/-- A request as the simulator is called with it. -/
inductive WaveMessage
  | begin (session totalBytes channelMask layout totalBeats loopCount : Nat)
  | data (session packetSeq byteOffset : Nat) (payload : List Byte) (payloadCrc : Nat)
  | commit (session : Nat)
  | stop (session : Nat)
  | abort (session : Nat)

/-- A request as it is sent, with its number. -/
structure SentMessage where
  message : WaveMessage
  seq : Nat

namespace SentMessage

variable (r : SentMessage)

def simulate (m : SimulatedDr47Device) : SimulatedResponse × SimulatedDr47Device :=
  match r.message with
  | .begin session totalBytes channelMask layout totalBeats loopCount =>
    m.beginWaveform session totalBytes channelMask totalBeats loopCount layout
  | .data session packetSeq byteOffset payload payloadCrc =>
    m.dataWaveform session packetSeq byteOffset payload (some payloadCrc)
  | .commit session => m.commitWaveform session
  | .stop session => m.stop session
  | .abort session => m.abort session

/-- The words of its packet, behind the magic. -/
def words : List Word :=
  match r.message with
  | .begin session totalBytes channelMask layout totalBeats loopCount =>
    beginWords ⟨session, totalBytes, channelMask, layout, 0, totalBeats, loopCount, 64⟩ r.seq
  | .data session packetSeq byteOffset payload payloadCrc =>
    dataWords ⟨session, packetSeq, byteOffset, payload.length, payloadCrc, true, true⟩ r.seq
      (toWords (Host.padded payload))
  | .commit session => commandWords opCommit session r.seq
  | .stop session => commandWords opStop session r.seq
  | .abort session => commandWords opAbort session r.seq

/-- The arguments have the widths of their fields. -/
def Narrow : Prop :=
  r.seq < 2 ^ 32 ∧
    match r.message with
    | .begin session totalBytes channelMask layout totalBeats loopCount =>
      session < 2 ^ 32 ∧ totalBytes < 2 ^ 64 ∧ channelMask < 2 ^ 8 ∧ layout < 2 ^ 8 ∧ totalBeats < 2 ^ 32 ∧
        loopCount < 2 ^ 32
    | .data session packetSeq byteOffset payload payloadCrc =>
      session < 2 ^ 32 ∧ packetSeq < 2 ^ 32 ∧ byteOffset < 2 ^ 64 ∧ payload.length + 24 < 2 ^ 32 ∧
        payloadCrc < 2 ^ 32
    | .commit session | .stop session | .abort session => session < 2 ^ 32

instance : (r : SentMessage) → Decidable r.Narrow
  | ⟨.begin .., _⟩ => inferInstanceAs (Decidable (_ ∧ _ ∧ _ ∧ _ ∧ _ ∧ _ ∧ _))
  | ⟨.data .., _⟩ => inferInstanceAs (Decidable (_ ∧ _ ∧ _ ∧ _ ∧ _ ∧ _))
  | ⟨.commit _, _⟩ | ⟨.stop _, _⟩ | ⟨.abort _, _⟩ => inferInstanceAs (Decidable (_ ∧ _))

end SentMessage

/-! ## What a packet makes of a session -/

/-- The answer and the session after a packet, when the memory does not fail. -/
def UploadCore.serve (p : WriterParams) (c : UploadCore) (words : List Word) (playback : Nat) : Bool × UploadCore :=
  if WellFormed words then
    match (requestOf c words).judge p c playback with
    | .refuse _ _ => (false, c)
    | .accept after _ => (true, after)
    | .check again =>
      if CrcMatches words (requestOf c words) then
        (true, if again then c else c.stores (requestOf c words) (requestOf c words).data.length)
      else (false, c)
  else (false, c)

theorem Transaction.Lawful.serves {p : WriterParams} {t : Transaction} (lawful : t.Lawful p)
    (not_status : opcodeOf t.words ≠ opStatus) (memory : t.axiFails = false) :
    t.before.serve p t.words t.playback = (decide (t.status = statusOk), t.after) := by
  have not_ok : ∀ {status : Nat}, t.status = status → status ≠ statusOk → decide (t.status = statusOk) = false := by
    rintro status rfl bad
    exact decide_eq_false bad
  have ok : t.status = statusOk → decide (t.status = statusOk) = true := fun same => decide_eq_true same
  rw [UploadCore.serve]
  have judged : ∀ {verdict}, t.verdict p = verdict →
      (requestOf t.before t.words).judge p t.before t.playback = verdict := id
  cases lawful.outcome with
  | malformed bad status unchanged => rw [if_neg bad, not_ok status (by decide), unchanged.after]
  | status _ opcode => exact absurd opcode not_status
  | refused good _ offset verdict unchanged =>
    rw [if_pos good, judged verdict, not_ok rfl (judge_refuse verdict).1, unchanged.after]
  | accepted good _ pulse verdict status => rw [if_pos good, judged verdict, ok status]
  | badCrc good _ duplicate verdict crc status unchanged =>
    rw [if_pos good, judged verdict]
    dsimp only
    rw [if_neg (by exact crc), not_ok status (by decide), unchanged.after]
  | repeated good _ verdict crc status unchanged =>
    rw [if_pos good, judged verdict]
    dsimp only
    rw [if_pos (by exact crc), if_pos rfl, ok status, unchanged.after]
  | stored good _ verdict crc status after =>
    rw [if_pos good, judged verdict]
    dsimp only
    rw [if_pos (by exact crc), if_neg Bool.false_ne_true, ok status, after]
    rfl
  | failed _ _ _ _ _ _ _ _ _ _ axi => exact absurd (memory.symm.trans axi) Bool.false_ne_true

/-! ## A request at the writer -/

section Serve

variable {p : WriterParams} {c : UploadCore} {playback seq : Nat}

/-- The fields of a BEGIN are those of a waveform. -/
def BeginFields.Sound (b : BeginFields) : Prop :=
  b.session ≠ 0 ∧ b.channelMask ≠ 0 ∧ b.layout = 1 ∧ b.loopCount ≠ 0 ∧ b.totalBytes ≠ 0 ∧
    b.totalBytes ≤ ddrCapacityBytes ∧ b.totalBytes = b.totalBeats * 256

instance (b : BeginFields) : Decidable b.Sound := inferInstanceAs (Decidable (_ ∧ _ ∧ _ ∧ _ ∧ _ ∧ _ ∧ _))

/-- The writer takes the BEGIN for the last one, sent again. -/
def BeginFields.Again (b : BeginFields) (seq : Nat) (c : UploadCore) : Prop :=
  c.session = b.session ∧ c.lastBeginRequest = seq ∧ (c.uploadActive = true ∨ c.committed = true)

instance (b : BeginFields) : Decidable (b.Again seq c) := inferInstanceAs (Decidable (_ ∧ _ ∧ _))

/-- The BEGIN describes the waveform of the session. -/
def BeginFields.Same (b : BeginFields) (c : UploadCore) : Prop :=
  c.totalBytes = b.totalBytes ∧ c.totalBeats = b.totalBeats ∧ c.channelMask = b.channelMask ∧ c.loopCount = b.loopCount

instance (b : BeginFields) : Decidable (b.Same c) := inferInstanceAs (Decidable (_ ∧ _ ∧ _ ∧ _))

theorem serve_begin {b : BeginFields} (narrow : b.Narrow) (seq_lt : seq < 2 ^ 32) (reserved : b.reserved = 0)
    (beat : b.bytesPerBeat = 64) :
    c.serve p (beginWords b seq) playback =
      if b.Sound then
        if b.Again seq c then (decide (b.Same c), c)
        else (true, c.begun p (requestOf c (beginWords b seq)))
      else (false, c) := by
  obtain ⟨opcode, number, -⟩ := beginWords_header (b := b) seq_lt
  have fields := @beginWords_begin b seq narrow c
  have code : (requestOf c (beginWords b seq)).opcode = opBegin := opcode
  have numbered : (requestOf c (beginWords b seq)).seq = seq := number
  rw [UploadCore.serve, if_pos (beginWords_wellFormed seq_lt narrow.bytesPerBeat), judge_begin code,
    UploadRequest.judgeBegin]
  have sound : (requestOf c (beginWords b seq)).beginMalformed = !decide b.Sound := by
    rw [UploadRequest.beginMalformed, fields, ← decide_not, decide_eq_decide]
    unfold BeginFields.Sound
    omega
  have again : (requestOf c (beginWords b seq)).beginRepeated c = decide (b.Again seq c) := by
    rw [Bool.eq_iff_iff, decide_eq_true_iff, UploadRequest.beginRepeated, fields, numbered, BeginFields.Again]
    simp only [Bool.and_eq_true, Bool.or_eq_true, decide_eq_true_eq, and_assoc]
  have same : (requestOf c (beginWords b seq)).beginDiffers c = !decide (b.Same c) := by
    rw [UploadRequest.beginDiffers, fields, ← decide_not, decide_eq_decide]
    unfold BeginFields.Same
    omega
  rw [sound, again, same]
  by_cases good : b.Sound
  · rw [if_pos good, decide_eq_true good, Bool.not_true, if_neg Bool.false_ne_true]
    by_cases repeats : b.Again seq c
    · rw [if_pos repeats, decide_eq_true repeats, if_pos rfl]
      cases decide (b.Same c) <;> rfl
    · rw [if_neg repeats, decide_eq_false repeats, if_neg Bool.false_ne_true]
  · rw [if_neg good, decide_eq_false good]
    rfl

def Carriable (length : Nat) : Prop := length ≠ 0 ∧ length ≤ maxPayloadBytes ∧ length % 32 = 0

instance (length : Nat) : Decidable (Carriable length) := inferInstanceAs (Decidable (_ ∧ _ ∧ _))

/-- The data continues the upload where it stands. -/
def ContinuesAt (c : UploadCore) (offset length : Nat) : Prop :=
  offset % 32 = 0 ∧ offset = c.receivedBytes ∧ offset + length ≤ c.totalBytes

instance (offset length : Nat) : Decidable (ContinuesAt c offset length) := inferInstanceAs (Decidable (_ ∧ _ ∧ _))

/-- The writer takes the DATA for the last one, sent again. -/
def LastAgain (c : UploadCore) (record : DataRecord) : Prop := c.lastDataValid = true ∧ c.lastData = record

instance (record : DataRecord) : Decidable (LastAgain c record) := inferInstanceAs (Decidable (_ ∧ _))

theorem serve_data {session packetSeq offset payloadCrc : Nat} {payload : List Byte}
    (narrow : (SentMessage.mk (.data session packetSeq offset payload payloadCrc) seq).Narrow) :
    let d : DataFields := ⟨session, packetSeq, offset, payload.length, payloadCrc, true, true⟩
    c.serve p (dataWords d seq (toWords (Host.padded payload))) playback =
      if (session = c.session ∧ c.uploadActive = true ∧ playback ≠ 8) ∧ Carriable payload.length ∧
          payloadCrc = Host.crc32 payload then
        if LastAgain c ⟨seq, packetSeq, offset, payload.length, payloadCrc⟩ then (true, c)
        else if packetSeq = c.nextPacketSeq ∧ ContinuesAt c offset payload.length then
          (true, c.stores (requestOf c (dataWords d seq (toWords (Host.padded payload)))) payload.length)
        else (false, c)
      else (false, c) := by
  intro d
  obtain ⟨seq_lt, session_lt, order_lt, offset_lt, length_lt, crc_lt⟩ := narrow
  dsimp only at seq_lt
  have narrow : d.Narrow := ⟨session_lt, order_lt, offset_lt, length_lt, crc_lt⟩
  obtain ⟨opcode, number, -⟩ := dataWords_header (toWords (Host.padded payload)) seq_lt narrow.length
  have fields := dataWords_data (toWords (Host.padded payload)) narrow seq_lt c
  have numbered : (requestOf c (dataWords d seq (toWords (Host.padded payload)))).seq = seq := number
  have code : (requestOf c (dataWords d seq (toWords (Host.padded payload)))).opcode = opData := opcode
  have judged : (requestOf c (dataWords d seq (toWords (Host.padded payload)))).judge p c playback =
      if session ≠ c.session ∨ c.uploadActive = false ∨ playback = 8 then .refuse statusBadRequest offset
      else if ¬ Carriable payload.length then .refuse statusRange offset
      else if LastAgain c ⟨seq, packetSeq, offset, payload.length, payloadCrc⟩ then .check true
      else if packetSeq ≠ c.nextPacketSeq then .refuse statusSequence offset
      else if ¬ ContinuesAt c offset payload.length then .refuse statusOffset offset
      else .check false := by
    rw [judge_data code, UploadRequest.judgeData, UploadRequest.dataRepeated, numbered, fields]
    refine if_congr Iff.rfl rfl (if_congr decide_eq_false_iff_not rfl (if_congr ?_ rfl (if_congr Iff.rfl rfl
      (if_congr ?_ rfl rfl))))
    · rw [Bool.and_eq_true, decide_eq_true_eq]
      rfl
    · rw [decide_eq_false_iff_not, ContinuesAt]
      dsimp only [d]
      omega
  rw [UploadCore.serve, judged]
  by_cases carriable : Carriable payload.length
  · have unpadded : Host.padded payload = payload := by
      rw [Host.padded, show (8 - payload.length % 8) % 8 = 0 by have beats := carriable.2.2; omega,
        List.replicate_zero, List.append_nil]
    have whole : payload.length = 8 * (payload.length / 8) := by
      have beats := carriable.2.2
      omega
    have count : 8 * (toWords payload).length = payload.length := by
      rw [length_toWords _ whole]
      omega
    have crc : CrcMatches (dataWords d seq (toWords payload)) (requestOf c (dataWords d seq (toWords payload))) ↔
        payloadCrc = Host.crc32 payload := by
      rw [crcMatches_iff d seq (by rw [unpadded] at fields; rw [fields]; exact count), wordBytes_toWords _ whole,
        ← unpadded, fields, unpadded]
      exact eq_comm
    have least : 32 ≤ payload.length := by
      obtain ⟨some_data, -, beats⟩ := carriable
      omega
    rw [unpadded] at fields ⊢
    have length : (requestOf c (dataWords d seq (toWords payload))).data.length = payload.length := by rw [fields]
    rw [if_pos (dataWords_wellFormed narrow seq_lt least carriable.2.1 count)]
    by_cases held : session = c.session ∧ c.uploadActive = true ∧ playback ≠ 8
    · rw [if_neg (show ¬ (session ≠ c.session ∨ c.uploadActive = false ∨ playback = 8) by
        obtain ⟨same, active, sound⟩ := held
        simp [same, active, sound]), if_neg (not_not.mpr carriable)]
      by_cases intact : payloadCrc = Host.crc32 payload
      · have fine : (session = c.session ∧ c.uploadActive = true ∧ playback ≠ 8) ∧ Carriable payload.length ∧
            payloadCrc = Host.crc32 payload := ⟨held, carriable, intact⟩
        rw [if_pos fine]
        by_cases again : LastAgain c ⟨seq, packetSeq, offset, payload.length, payloadCrc⟩
        · rw [if_pos again, if_pos again]
          dsimp only
          rw [if_pos (crc.mpr intact), if_pos rfl]
        · rw [if_neg again, if_neg again]
          by_cases next : packetSeq = c.nextPacketSeq
          · rw [if_neg (not_not.mpr next)]
            by_cases continues : ContinuesAt c offset payload.length
            · rw [if_neg (not_not.mpr continues), if_pos ⟨next, continues⟩]
              dsimp only
              rw [if_pos (crc.mpr intact), if_neg Bool.false_ne_true, length]
            · rw [if_pos continues, if_neg (fun fine => continues fine.2)]
          · rw [if_pos next, if_neg (fun fine => next fine.1)]
      · rw [if_neg (show ¬ (_ ∧ _ ∧ _) from fun fine => intact fine.2.2)]
        have rejected : ¬ CrcMatches (dataWords d seq (toWords payload))
            (requestOf c (dataWords d seq (toWords payload))) := fun fine => intact (crc.mp fine)
        split_ifs <;> rfl
    · rw [if_neg (show ¬ (_ ∧ _ ∧ _) from fun fine => held fine.1), if_pos (show session ≠ c.session ∨
        c.uploadActive = false ∨ playback = 8 by
        by_contra none
        rw [not_or, not_or, not_not, Bool.not_eq_false] at none
        exact held none)]
  · rw [if_neg (show ¬ ((session = c.session ∧ c.uploadActive = true ∧ playback ≠ 8) ∧ Carriable payload.length ∧
      payloadCrc = Host.crc32 payload) from fun fine => carriable fine.2.1), if_pos carriable]
    split_ifs <;> rfl

/-- The command names the session, or none. -/
def Names (c : UploadCore) (session : Nat) : Prop := session = 0 ∨ session = c.session

instance (session : Nat) : Decidable (Names c session) := inferInstanceAs (Decidable (_ ∨ _))

/-- A command that names the session is judged by its opcode and its number. -/
theorem serve_command {opcode session : Nat} (least : 3 ≤ opcode) (most : opcode ≤ 8) (seq_lt : seq < 2 ^ 32)
    (session_lt : session < 2 ^ 32) :
    (¬ Names c session → c.serve p (commandWords opcode session seq) playback = (false, c)) ∧
      (Names c session → ∃ r : UploadRequest, r.opcode = opcode ∧ r.seq = seq ∧ r.sessionDiffers c = false ∧
        (∀ status offset, r.judge p c playback = .refuse status offset →
          c.serve p (commandWords opcode session seq) playback = (false, c)) ∧
        ∀ after pulse, r.judge p c playback = .accept after pulse →
          c.serve p (commandWords opcode session seq) playback = (true, after)) := by
  obtain ⟨good, code, number⟩ := commandWords_wellFormed session least most seq_lt
  have word : (requestOf c (commandWords opcode session seq)).sessionWord = wordOf session 0 := rfl
  have opcode_eq : (requestOf c (commandWords opcode session seq)).opcode = opcode := code
  have differs : (requestOf c (commandWords opcode session seq)).sessionDiffers c = decide (¬ Names c session) := by
    rw [UploadRequest.sessionDiffers, word, high_wordOf session_lt (by decide), low_wordOf session_lt (by decide),
      decide_eq_decide]
    unfold Names
    omega
  refine ⟨fun other => ?_, fun names => ⟨requestOf c (commandWords opcode session seq), code, number, ?_, ?_, ?_⟩⟩
  · rw [UploadCore.serve, if_pos good, UploadRequest.judge, if_neg (by rw [opcode_eq, opBegin]; omega),
      if_neg (by rw [opcode_eq, opData]; omega), differs, decide_eq_true other, if_pos rfl]
  · rw [differs]
    exact decide_eq_false (not_not.mpr names)
  · intro status offset verdict
    rw [UploadCore.serve, if_pos good, verdict]
  · intro after pulse verdict
    rw [UploadCore.serve, if_pos good, verdict]

theorem serve_commit {session : Nat} (seq_lt : seq < 2 ^ 32) (session_lt : session < 2 ^ 32)
    (names : Names c session) :
    ∃ r : UploadRequest, r.seq = seq ∧ c.serve p (commandWords opCommit session seq) playback =
      if c.committed = true ∧ c.lastCommitRequest = seq then (true, c)
      else if c.uploadActive = false ∨ c.session = 0 ∨ playback = 8 then (false, c)
      else if c.receivedBytes ≠ c.totalBytes then (false, c)
      else (true, c.commits r) := by
  obtain ⟨r, opcode, number, differs, refuses, accepts⟩ :=
    (@serve_command p c playback seq opCommit session (by decide) (by decide) seq_lt session_lt).2 names
  refine ⟨r, number, ?_⟩
  have judged : r.judge p c playback = r.judgeCommit c playback := by
    rw [UploadRequest.judge, if_neg (by rw [opcode]; decide), if_neg (by rw [opcode]; decide), differs,
      if_neg Bool.false_ne_true, if_pos opcode]
  rw [UploadRequest.judgeCommit, number] at judged
  split_ifs at judged ⊢
  · exact accepts _ _ judged
  · exact refuses _ _ judged
  · exact refuses _ _ judged
  · exact accepts _ _ judged

theorem serve_stop {session : Nat} (seq_lt : seq < 2 ^ 32) (session_lt : session < 2 ^ 32) (names : Names c session) :
    c.serve p (commandWords opStop session seq) playback =
      if c.uploadActive = true then (true, c.dropsUpload)
      else if c.committed = false ∨ playback = 8 then (false, c)
      else (true, c) := by
  obtain ⟨r, opcode, -, differs, refuses, accepts⟩ :=
    (@serve_command p c playback seq opStop session (by decide) (by decide) seq_lt session_lt).2 names
  have judged : r.judge p c playback = r.judgeHalt c playback := by
    rw [UploadRequest.judge, if_neg (by rw [opcode]; decide), if_neg (by rw [opcode]; decide), differs,
      if_neg Bool.false_ne_true, if_neg (by rw [opcode]; decide), if_neg (by rw [opcode]; decide), if_pos (.inr opcode)]
  rw [UploadRequest.judgeHalt] at judged
  simp only [opcode, and_true, if_true] at judged
  split_ifs at judged ⊢
  · exact accepts _ _ judged
  · exact refuses _ _ judged
  · exact accepts _ _ judged

theorem serve_abort {session : Nat} (seq_lt : seq < 2 ^ 32) (session_lt : session < 2 ^ 32) (names : Names c session) :
    c.serve p (commandWords opAbort session seq) playback = (true, c.aborts) := by
  obtain ⟨r, opcode, -, differs, -, accepts⟩ :=
    (@serve_command p c playback seq opAbort session (by decide) (by decide) seq_lt session_lt).2 names
  apply accepts c.aborts (some .abort)
  rw [UploadRequest.judge, if_neg (by rw [opcode]; decide), if_neg (by rw [opcode]; decide), differs,
    if_neg Bool.false_ne_true, if_neg (by rw [opcode]; decide), if_neg (by rw [opcode]; decide),
    if_neg (by rw [opcode]; decide), if_pos opcode]

end Serve

/-! ## A request at the simulator -/

section Simulate

variable {m : SimulatedDr47Device}

/-- The simulator refuses, and remembers at most where. -/
def Refuses (m : SimulatedDr47Device) (result : SimulatedResponse × SimulatedDr47Device) : Prop :=
  result.1.status ≠ Host.waveStatusOk ∧ ∃ offset, result.2 = { m with waveErrorOffset := offset }

/-- The simulator after an accepted BEGIN. -/
structure Begun (session totalBytes : Nat) (m : SimulatedDr47Device) : Prop where
  session : m.waveSession = session
  totalBytes : m.waveTotalBytes = totalBytes
  receivedBytes : m.waveReceivedBytes = 0
  nextPacket : m.waveNextPacket = 0
  descriptor : m.waveDescriptor = 0
  state : m.waveState = .upload

theorem simulate_begin {session totalBytes channelMask layout totalBeats loopCount seq : Nat}
    (narrow : (SentMessage.mk (.begin session totalBytes channelMask layout totalBeats loopCount) seq).Narrow) :
    if BeginFields.Sound ⟨session, totalBytes, channelMask, layout, 0, totalBeats, loopCount, 64⟩ then
      (m.beginWaveform session totalBytes channelMask totalBeats loopCount layout).1.status = Host.waveStatusOk ∧
        Begun session totalBytes (m.beginWaveform session totalBytes channelMask totalBeats loopCount layout).2
    else Refuses m (m.beginWaveform session totalBytes channelMask totalBeats loopCount layout) := by
  obtain ⟨-, session_lt, bytes_lt, mask_lt, layout_lt, beats_lt, loops_lt⟩ := narrow
  have capacity : (Host.ddrMaxInterleavedBytes : Int) = ddrCapacityBytes := rfl
  have one : (Host.waveLayoutInterleaved512b : Int) = 1 := rfl
  have frame : (Host.waveDacFrameBytes : Int) = 256 := rfl
  rw [SimulatedDr47Device.beginWaveform]
  split_ifs with sound
  · obtain ⟨named, mask, layout_one, loops, bytes, room, whole⟩ := sound
    dsimp only at named mask layout_one loops bytes room whole
    have frames : (totalBytes : Int) = totalBeats * Host.waveDacFrameBytes := by
      rw [frame]
      omega
    have fit : Host.BeginArguments.Fit ⟨session, totalBytes, channelMask, totalBeats, loopCount, layout, 1⟩ := by
      refine ⟨⟨?_, ?_⟩, ⟨?_, ?_⟩, ⟨?_, ?_⟩, ⟨?_, ?_⟩, ⟨?_, ?_⟩, ?_, frames, ⟨?_, ?_⟩⟩
      all_goals
        dsimp only
        omega
    rw [Host.packWaveBegin_ok.mpr ⟨fit, rfl⟩]
    refine ⟨rfl, ?_, ?_, rfl, rfl, rfl, rfl⟩
    · dsimp only
      omega
    · dsimp only
      omega
  · cases packed : Host.packWaveBegin ⟨session, totalBytes, channelMask, totalBeats, loopCount, layout, 1⟩ with
    | error e => exact ⟨nofun, m.waveErrorOffset, rfl⟩
    | ok packet =>
      obtain ⟨named, bytes, beats, mask, loops, layout_one, whole, -⟩ := (Host.packWaveBegin_ok.mp packed).1
      rw [frame] at whole
      refine absurd ?_ sound
      unfold BeginFields.Sound
      dsimp only at *
      omega

def continued (m : SimulatedDr47Device) (packetSeq offset : Nat) (payload : List Byte) : SimulatedDr47Device :=
  { m with
    waveReceived := m.waveReceived.take offset ++ payload ++ m.waveReceived.drop (offset + payload.length)
    waveReceivedBytes := m.waveReceivedBytes + payload.length
    waveFragments := Function.update m.waveFragments packetSeq (some ⟨offset, payload.length, Host.crc32 payload⟩)
    waveNextPacket := m.waveNextPacket + 1 }

/-- A DATA that is judged by its place in the upload alone. -/
def Placed (m : SimulatedDr47Device) (session offset : Nat) (payload : List Byte) (payloadCrc : Nat) : Prop :=
  session = m.waveSession ∧ m.waveState = .upload ∧ session ≠ 0 ∧ offset % 32 = 0 ∧ offset + payload.length ≤ 2 ^ 64 ∧
    Carriable payload.length ∧ payloadCrc = Host.crc32 payload

instance (session offset : Nat) (payload : List Byte) (payloadCrc : Nat) :
    Decidable (Placed m session offset payload payloadCrc) :=
  inferInstanceAs (Decidable (_ ∧ _ ∧ _ ∧ _ ∧ _ ∧ _ ∧ _))

theorem simulate_data {session packetSeq offset payloadCrc seq : Nat} {payload : List Byte}
    (narrow : (SentMessage.mk (.data session packetSeq offset payload payloadCrc) seq).Narrow) :
    if Placed m session offset payload payloadCrc then
      if packetSeq < m.waveNextPacket then
        if m.waveFragments packetSeq = some ⟨offset, payload.length, Host.crc32 payload⟩ then
          (m.dataWaveform session packetSeq offset payload (some payloadCrc)).1.status = Host.waveStatusOk ∧
            (m.dataWaveform session packetSeq offset payload (some payloadCrc)).2 = m
        else Refuses m (m.dataWaveform session packetSeq offset payload (some payloadCrc))
      else if packetSeq = m.waveNextPacket ∧ offset = m.waveReceivedBytes ∧
          offset + payload.length ≤ m.waveTotalBytes then
        (m.dataWaveform session packetSeq offset payload (some payloadCrc)).1.status = Host.waveStatusOk ∧
          (m.dataWaveform session packetSeq offset payload (some payloadCrc)).2 = continued m packetSeq offset payload
      else Refuses m (m.dataWaveform session packetSeq offset payload (some payloadCrc))
    else Refuses m (m.dataWaveform session packetSeq offset payload (some payloadCrc)) := by
  obtain ⟨-, session_lt, order_lt, offset_lt, -, crc_lt⟩ := narrow
  have room : Host.maxData = maxPayloadBytes := rfl
  have beat : (Host.beatBytes : Int) = 32 := rfl
  have beat_nat : Host.beatBytes = 32 := rfl
  have unchanged : { m with waveErrorOffset := m.waveErrorOffset } = m := rfl
  have fit : session ≠ 0 ∧ offset % 32 = 0 ∧ offset + payload.length ≤ 2 ^ 64 ∧ Carriable payload.length ↔
      Host.DataArguments.Fit ⟨session, packetSeq, offset, payload, 1⟩ := by
    constructor
    · rintro ⟨named, aligned, inside, some_data, small, beats⟩
      have aligned' : (offset : Int) % Host.beatBytes = 0 := by
        rw [beat]
        omega
      have beats' : payload.length % Host.beatBytes = 0 := by
        rw [beat_nat]
        exact beats
      refine ⟨⟨?_, ?_⟩, ⟨?_, ?_⟩, ⟨?_, ?_⟩, aligned', ⟨?_, ?_⟩, beats', ⟨?_, ?_⟩⟩
      all_goals
        dsimp only
        omega
    · rintro ⟨named, -, place, aligned, length, beats, -⟩
      dsimp only at named place aligned length beats
      rw [beat] at aligned
      rw [beat_nat] at beats
      refine ⟨?_, ?_, ?_, ?_, ?_, ?_⟩
      all_goals omega
  have crc : Option.any (fun crc : Int => decide (crc % 2 ^ 32 ≠ (Host.crc32 payload : Int))) (some (payloadCrc : Int)) =
      decide (payloadCrc ≠ Host.crc32 payload) := by
    rw [Option.any_some, decide_eq_decide]
    omega
  rw [SimulatedDr47Device.dataWaveform, crc]
  by_cases aligned : offset % 32 = 0
  · rw [if_neg (show ¬ ((offset : Int) < 0 ∨ (offset : Int) % 32 ≠ 0) by omega)]
    cases packed : Host.packWaveData ⟨session, packetSeq, offset, payload, 1⟩ with
    | error e =>
      rw [if_neg]
      · exact ⟨nofun, m.waveErrorOffset, rfl⟩
      · rintro ⟨-, -, named, -, inside, carriable, -⟩
        rw [Host.packWaveData_ok.mpr ⟨fit.mp ⟨named, aligned, inside, carriable⟩, rfl⟩] at packed
        cases packed
    | ok packet =>
      obtain ⟨named, -, inside, carriable⟩ := fit.mpr (Host.packWaveData_ok.mp packed).1
      dsimp only
      by_cases intact : payloadCrc = Host.crc32 payload
      · rw [decide_eq_false (not_not.mpr intact), if_neg Bool.false_ne_true]
        by_cases held : session = m.waveSession ∧ m.waveState = .upload
        · rw [if_pos (show Placed m session offset payload payloadCrc from
            ⟨held.1, held.2, named, aligned, inside, carriable, intact⟩),
            if_neg (show ¬ ((session : Int) ≠ m.waveSession ∨ m.waveState ≠ .upload) by
              rw [not_or, not_not, not_not]
              exact ⟨by omega, held.2⟩)]
          by_cases earlier : packetSeq < m.waveNextPacket
          · rw [if_pos earlier, if_pos (show (packetSeq : Int) < m.waveNextPacket by omega)]
            by_cases known : m.waveFragments packetSeq = some ⟨offset, payload.length, Host.crc32 payload⟩
            · rw [if_pos known, if_neg (not_not.mpr known)]
              exact ⟨rfl, rfl⟩
            · rw [if_neg known, if_pos known]
              exact ⟨nofun, m.waveErrorOffset, rfl⟩
          · rw [if_neg earlier, if_neg (show ¬ (packetSeq : Int) < m.waveNextPacket by omega)]
            by_cases next : packetSeq = m.waveNextPacket
            · rw [if_neg (show ¬ (packetSeq : Int) ≠ m.waveNextPacket by omega)]
              by_cases place : offset = m.waveReceivedBytes ∧ offset + payload.length ≤ m.waveTotalBytes
              · rw [if_pos (show _ ∧ _ ∧ _ from ⟨next, place⟩), if_neg (show ¬ ((offset : Int) ≠ m.waveReceivedBytes ∨
                  (m.waveTotalBytes : Int) < offset + payload.length) by omega)]
                exact ⟨rfl, rfl⟩
              · rw [if_neg (show ¬ (_ ∧ _ ∧ _) from fun fine => place fine.2), if_pos (show (offset : Int) ≠
                  m.waveReceivedBytes ∨ (m.waveTotalBytes : Int) < offset + payload.length by omega)]
                exact ⟨nofun, offset, rfl⟩
            · rw [if_neg (show ¬ (_ ∧ _ ∧ _) from fun fine => next fine.1),
                if_pos (show (packetSeq : Int) ≠ m.waveNextPacket by omega)]
              exact ⟨nofun, m.waveErrorOffset, rfl⟩
        · rw [if_neg (show ¬ Placed m session offset payload payloadCrc from fun placed => held ⟨placed.1, placed.2.1⟩),
            if_pos (show (session : Int) ≠ m.waveSession ∨ m.waveState ≠ .upload by
              by_contra none
              rw [not_or, not_not, not_not] at none
              exact held ⟨by omega, none.2⟩)]
          exact ⟨nofun, m.waveErrorOffset, rfl⟩
      · rw [decide_eq_true intact, if_pos rfl, if_neg (show ¬ Placed m session offset payload payloadCrc from
          fun placed => intact placed.2.2.2.2.2.2)]
        exact ⟨nofun, offset, rfl⟩
  · rw [if_pos (show (offset : Int) < 0 ∨ (offset : Int) % 32 ≠ 0 by omega),
      if_neg (show ¬ Placed m session offset payload payloadCrc from fun placed => aligned placed.2.2.2.1)]
    exact ⟨nofun, m.waveErrorOffset, rfl⟩

end Simulate

/-! ## The two side by side -/

/-- The last stored DATA of the writer is a fragment of the simulator. -/
structure LastStored (c : UploadCore) (m : SimulatedDr47Device) : Prop where
  before : c.lastData.packet + 1 = c.nextPacketSeq
  stored : m.waveFragments c.lastData.packet = some ⟨c.lastData.offset, c.lastData.length, c.lastData.crc⟩
  aligned : c.lastData.offset % 32 = 0
  inside : c.lastData.offset + c.lastData.length ≤ ddrCapacityBytes

/-- The sessions of the writer and of the simulator are the same. -/
structure Related (c : UploadCore) (m : SimulatedDr47Device) : Prop where
  session : c.session = m.waveSession
  receivedBytes : c.receivedBytes = m.waveReceivedBytes
  nextPacket : c.nextPacketSeq = m.waveNextPacket
  committed : c.committed = true ↔ m.waveDescriptor ≠ 0
  exclusive : Exclusive c
  upload : c.uploadActive = true ↔ m.waveState = .upload
  held : c.committed = true → m.waveState = .prefetch ∨ m.waveState = .ready
  idle : c.uploadActive = false → c.committed = false → m.waveState = .idle
  named : c.uploadActive = true ∨ c.committed = true → c.session ≠ 0
  total : c.uploadActive = true → c.totalBytes = m.waveTotalBytes ∧ c.totalBytes ≤ ddrCapacityBytes
  bounded : c.uploadActive = true →
    32 * c.nextPacketSeq ≤ c.receivedBytes ∧ c.receivedBytes ≤ c.totalBytes ∧ c.receivedBytes % 32 = 0
  last : c.uploadActive = true → c.lastDataValid = true → LastStored c m

/-- A request is answered alike, and leaves the same progress and the same commitment. -/
structure Agree (served : Bool × UploadCore) (result : SimulatedResponse × SimulatedDr47Device) : Prop where
  outcome : served.1 = true ↔ result.1.status = Host.waveStatusOk
  receivedBytes : served.2.receivedBytes = result.2.waveReceivedBytes
  nextPacket : served.2.nextPacketSeq = result.2.waveNextPacket
  committed : served.2.committed = true ↔ result.2.waveDescriptor ≠ 0

/-- What the simulator can tell of a request as the writer does: a BEGIN is not a repetition
    of the one that opened a session that has got on since, a DATA not one of an earlier
    fragment than the last or under a new number, and a COMMIT names its session, and is not
    repeated under a new number; and the playback has not failed. -/
def SentMessage.Faithful (c : UploadCore) (m : SimulatedDr47Device) (playback : Nat) (r : SentMessage) : Prop :=
  match r.message with
  | .begin session totalBytes channelMask layout totalBeats loopCount =>
    let b : BeginFields := ⟨session, totalBytes, channelMask, layout, 0, totalBeats, loopCount, 64⟩
    b.Sound → b.Again r.seq c → b.Same c ∧ c.receivedBytes = 0 ∧ c.nextPacketSeq = 0 ∧ c.committed = false
  | .data session packetSeq offset payload payloadCrc =>
    Placed m session offset payload payloadCrc →
      (packetSeq < m.waveNextPacket → m.waveFragments packetSeq = some ⟨offset, payload.length, Host.crc32 payload⟩ →
        playback ≠ 8 ∧ LastAgain c ⟨r.seq, packetSeq, offset, payload.length, payloadCrc⟩) ∧
      (packetSeq = m.waveNextPacket ∧ offset = m.waveReceivedBytes ∧ offset + payload.length ≤ m.waveTotalBytes →
        playback ≠ 8)
  | .commit session =>
    Names c session →
      (c.committed = true → (session = c.session ↔ c.lastCommitRequest = r.seq)) ∧
      (c.uploadActive = true → c.receivedBytes = c.totalBytes → (session = c.session ↔ playback ≠ 8))
  | .stop session => Names c session → c.committed = true → playback ≠ 8
  | .abort _ => True

section Step

variable {p : WriterParams} {c : UploadCore} {m : SimulatedDr47Device} {playback : Nat}

theorem related_reset (p : WriterParams) : Related (.reset p) .reset where
  session := rfl
  receivedBytes := rfl
  nextPacket := rfl
  committed := ⟨nofun, fun bad => absurd rfl bad⟩
  exclusive := nofun
  upload := ⟨nofun, nofun⟩
  held := nofun
  idle _ _ := rfl
  named := by
    rintro (bad | bad) <;> cases bad
  total := nofun
  bounded := nofun
  last := nofun

theorem Related.refused (related : Related c m) {served : Bool × UploadCore}
    {result : SimulatedResponse × SimulatedDr47Device} (writer : served = (false, c)) (simulator : Refuses m result) :
    Agree served result ∧ Related served.2 result.2 := by
  obtain ⟨status, offset, same⟩ := simulator
  rw [writer, same]
  refine ⟨⟨⟨nofun, fun bad => absurd bad status⟩, ?_, ?_, ?_⟩, ⟨related.session, related.receivedBytes,
    related.nextPacket, related.committed, related.exclusive, related.upload, related.held, related.idle,
    related.named, related.total, related.bounded, fun active valid => ?_⟩⟩
  · rw [same]
    exact related.receivedBytes
  · rw [same]
    exact related.nextPacket
  · rw [same]
    exact related.committed
  · obtain ⟨before, stored, aligned, inside⟩ := related.last active valid
    exact ⟨before, stored, aligned, inside⟩

theorem Related.accepted (related : Related c m) {served : Bool × UploadCore}
    {result : SimulatedResponse × SimulatedDr47Device} (writer : served = (true, c))
    (ok : result.1.status = Host.waveStatusOk) (simulator : result.2 = m) :
    Agree served result ∧ Related served.2 result.2 := by
  rw [writer, simulator]
  refine ⟨⟨⟨fun _ => ok, fun _ => rfl⟩, ?_, ?_, ?_⟩, related⟩
  · rw [simulator]
    exact related.receivedBytes
  · rw [simulator]
    exact related.nextPacket
  · rw [simulator]
    exact related.committed

theorem not_agree_of_refuses {served : Bool × UploadCore} {result : SimulatedResponse × SimulatedDr47Device}
    (writer : served.1 = true) (simulator : Refuses m result) : ¬ Agree served result :=
  fun agree => simulator.1 (agree.outcome.mp writer)

theorem not_agree_of_ok {served : Bool × UploadCore} {result : SimulatedResponse × SimulatedDr47Device}
    (writer : served.1 = false) (simulator : result.1.status = Host.waveStatusOk) : ¬ Agree served result := by
  intro agree
  rw [agree.outcome.mpr simulator] at writer
  cases writer

def Faced (p : WriterParams) (c : UploadCore) (m : SimulatedDr47Device) (playback : Nat) (r : SentMessage) : Prop :=
  (r.Faithful c m playback → Agree (c.serve p r.words playback) (r.simulate m) ∧
    Related (c.serve p r.words playback).2 (r.simulate m).2) ∧
  (¬ r.Faithful c m playback → ¬ Agree (c.serve p r.words playback) (r.simulate m))

theorem begin_faced (related : Related c m)
    {session totalBytes channelMask layout totalBeats loopCount seq : Nat}
    (narrow : (SentMessage.mk (.begin session totalBytes channelMask layout totalBeats loopCount) seq).Narrow) :
    Faced p c m playback ⟨.begin session totalBytes channelMask layout totalBeats loopCount, seq⟩ := by
  have simulated := @simulate_begin m session totalBytes channelMask layout totalBeats loopCount seq narrow
  obtain ⟨seq_lt, session_lt, bytes_lt, mask_lt, layout_lt, beats_lt, loops_lt⟩ := narrow
  dsimp only at seq_lt
  let b : BeginFields := ⟨session, totalBytes, channelMask, layout, 0, totalBeats, loopCount, 64⟩
  have b_narrow : b.Narrow := ⟨session_lt, bytes_lt, mask_lt, layout_lt, Nat.two_pow_pos 16, beats_lt, loops_lt,
    (by decide : 64 < 2 ^ 32)⟩
  have served := @serve_begin p c playback seq b b_narrow seq_lt rfl rfl
  have fields := @beginWords_begin b seq b_narrow c
  have words : (SentMessage.mk (.begin session totalBytes channelMask layout totalBeats loopCount) seq).words =
      beginWords b seq := rfl
  rw [Faced, words]
  dsimp only [SentMessage.Faithful, SentMessage.simulate]
  by_cases sound : b.Sound
  · rw [if_pos sound] at served simulated
    obtain ⟨ok, begun⟩ := simulated
    by_cases again : b.Again seq c
    · rw [if_pos again] at served
      by_cases same : b.Same c
      · rw [decide_eq_true same] at served
        rw [served]
        refine ⟨fun faithful => ?_, fun unfaithful agree => unfaithful fun _ _ => ?_⟩
        · obtain ⟨-, none, first, uncommitted⟩ := faithful sound again
          have active : c.uploadActive = true := again.2.2.resolve_right (by rw [uncommitted]; decide)
          refine ⟨⟨⟨fun _ => ok, fun _ => rfl⟩, ?_, ?_, ?_⟩, ?_⟩
          · exact none.trans begun.receivedBytes.symm
          · exact first.trans begun.nextPacket.symm
          · exact ⟨fun bad => absurd (uncommitted.symm.trans bad) Bool.false_ne_true, fun bad => absurd begun.descriptor bad⟩
          · refine ⟨again.1.trans begun.session.symm, none.trans begun.receivedBytes.symm,
              first.trans begun.nextPacket.symm, ⟨fun bad => absurd (uncommitted.symm.trans bad) Bool.false_ne_true,
              fun bad => absurd begun.descriptor bad⟩, related.exclusive, ⟨fun _ => begun.state, fun _ => active⟩,
              fun bad => absurd (uncommitted.symm.trans bad) Bool.false_ne_true,
              fun idle => absurd (idle.symm.trans active) Bool.false_ne_true, related.named,
              fun _ => ⟨same.1.trans begun.totalBytes.symm, (related.total active).2⟩, related.bounded, ?_⟩
            intro _ valid
            have stored := (related.last active valid).before
            omega
        · refine ⟨same, agree.receivedBytes.trans begun.receivedBytes, agree.nextPacket.trans begun.nextPacket, ?_⟩
          cases committed : c.committed with
          | false => rfl
          | true => exact absurd begun.descriptor (agree.committed.mp committed)
      · rw [decide_eq_false same] at served
        rw [served]
        exact ⟨fun faithful => absurd (faithful sound again).1 same, fun _ => not_agree_of_ok rfl ok⟩
    · rw [if_neg again] at served
      rw [served]
      refine ⟨fun _ => ?_, fun unfaithful => absurd (fun _ bad => absurd bad again) unfaithful⟩
      have none : (c.begun p (requestOf c (beginWords b seq))).committed = true ↔
          (m.beginWaveform session totalBytes channelMask totalBeats loopCount layout).2.waveDescriptor ≠ 0 :=
        ⟨by rintro ⟨⟩, fun bad => absurd begun.descriptor bad⟩
      have opened : (c.begun p (requestOf c (beginWords b seq))).session = session ∧
          (c.begun p (requestOf c (beginWords b seq))).totalBytes = totalBytes := by
        rw [UploadCore.begun, fields]
        exact ⟨rfl, rfl⟩
      refine ⟨⟨⟨fun _ => ok, fun _ => rfl⟩, begun.receivedBytes.symm, begun.nextPacket.symm, none⟩, ?_⟩
      refine ⟨opened.1.trans begun.session.symm, begun.receivedBytes.symm, begun.nextPacket.symm, none, fun _ => rfl,
        ⟨fun _ => begun.state, fun _ => rfl⟩, by rintro ⟨⟩, by rintro ⟨⟩, fun _ => opened.1.symm ▸ sound.1,
        fun _ => ⟨opened.2.trans begun.totalBytes.symm, ?_⟩,
        fun _ => ⟨Nat.le_refl 0, Nat.zero_le _, Nat.zero_mod 32⟩, by rintro _ ⟨⟩⟩
      rw [opened.2]
      exact sound.2.2.2.2.2.1
  · rw [if_neg sound] at served simulated
    refine ⟨fun _ => related.refused served simulated, fun bad => absurd (fun fine => absurd fine sound) bad⟩

/-- A DATA that continues the upload, at both. -/
theorem Related.stores (related : Related c m) {r : UploadRequest} {d : DataFields} {payload : List Byte}
    (fields : r.data = d) (length : d.length = payload.length) (crc : d.crcExpected = Host.crc32 payload)
    (active : c.uploadActive = true) (carriable : Carriable payload.length) (aligned : d.offset % 32 = 0)
    (next : d.packetSeq = m.waveNextPacket) (place : d.offset = m.waveReceivedBytes)
    (inside : d.offset + payload.length ≤ m.waveTotalBytes) :
    Related (c.stores r payload.length) (continued m d.packetSeq d.offset payload) := by
  obtain ⟨total, room⟩ := related.total active
  obtain ⟨progress, received_le, received_aligned⟩ := related.bounded active
  have received := related.receivedBytes
  have order := related.nextPacket
  obtain ⟨some_data, -, beats⟩ := carriable
  have capacity : ddrCapacityBytes < 2 ^ 36 := by decide
  -- 32 bytes a packet at least, so that the number of packets is bounded by the capacity
  have grown : (c.stores r payload.length).receivedBytes = c.receivedBytes + payload.length :=
    Nat.mod_eq_of_lt (by omega)
  have counted : (c.stores r payload.length).nextPacketSeq = c.nextPacketSeq + 1 := Nat.mod_eq_of_lt (by omega)
  refine ⟨related.session, ?_, ?_, related.committed, related.exclusive, related.upload, related.held, related.idle,
    related.named, fun _ => ⟨total, room⟩, fun _ => ?_, fun _ _ => ?_⟩
  · rw [grown, received]
    rfl
  · rw [counted, order]
    rfl
  · rw [grown, counted]
    change _ ∧ c.receivedBytes + payload.length ≤ c.totalBytes ∧ _
    omega
  · subst fields
    refine ⟨?_, ?_, aligned, ?_⟩
    · rw [counted]
      change r.data.packetSeq + 1 = _
      omega
    · change Function.update m.waveFragments r.data.packetSeq _ r.data.packetSeq =
        some ⟨r.data.offset, r.data.length, r.data.crcExpected⟩
      rw [Function.update_self, length, crc]
    · change r.data.offset + r.data.length ≤ _
      omega

theorem data_faced (related : Related c m) {session packetSeq offset payloadCrc seq : Nat} {payload : List Byte}
    (narrow : (SentMessage.mk (.data session packetSeq offset payload payloadCrc) seq).Narrow) :
    Faced p c m playback ⟨.data session packetSeq offset payload payloadCrc, seq⟩ := by
  have served := @serve_data p c playback seq session packetSeq offset payloadCrc payload narrow
  have simulated := @simulate_data m session packetSeq offset payloadCrc seq payload narrow
  let d : DataFields := ⟨session, packetSeq, offset, payload.length, payloadCrc, true, true⟩
  have words : (SentMessage.mk (.data session packetSeq offset payload payloadCrc) seq).words =
      dataWords d seq (toWords (Host.padded payload)) := rfl
  obtain ⟨seq_lt, session_lt, order_lt, offset_lt, length_lt, crc_lt⟩ := narrow
  have fields := @dataWords_data d seq (toWords (Host.padded payload))
    ⟨session_lt, order_lt, offset_lt, length_lt, crc_lt⟩ seq_lt c
  have capacity : ddrCapacityBytes < 2 ^ 36 := by decide
  have same := related.session
  have order := related.nextPacket
  have received := related.receivedBytes
  dsimp only at served
  rw [Faced, words]
  dsimp only [SentMessage.Faithful, SentMessage.simulate]
  by_cases placed : Placed m session offset payload payloadCrc
  · rw [if_pos placed] at simulated
    have ⟨named, uploading, some_session, aligned, _, carriable, intact⟩ := placed
    have active : c.uploadActive = true := related.upload.mpr uploading
    have total := (related.total active).1
    by_cases sound : playback = 8
    · -- the writer refuses every DATA
      rw [if_neg (fun fine => fine.1.2.2 sound)] at served
      split_ifs at simulated with earlier known continues
      · refine ⟨fun faithful => absurd sound ((faithful placed).1 earlier known).1, fun _ => ?_⟩
        rw [served]
        exact not_agree_of_ok rfl simulated.1
      · exact ⟨fun _ => related.refused served simulated, fun bad => absurd (fun _ =>
          ⟨fun _ fine => absurd fine known, fun fine => absurd fine.1 (by omega)⟩) bad⟩
      · refine ⟨fun faithful => absurd sound ((faithful placed).2 continues), fun _ => ?_⟩
        rw [served]
        exact not_agree_of_ok rfl simulated.1
      · exact ⟨fun _ => related.refused served simulated, fun bad => absurd (fun _ =>
          ⟨fun fine => absurd fine earlier, fun fine => absurd fine continues⟩) bad⟩
    · rw [if_pos ⟨⟨named.trans same.symm, active, sound⟩, carriable, intact⟩] at served
      by_cases again : LastAgain c ⟨seq, packetSeq, offset, payload.length, payloadCrc⟩
      · -- the last DATA is a fragment of the simulator
        rw [if_pos again] at served
        obtain ⟨before, stored, -, -⟩ := related.last active again.1
        rw [again.2] at before stored
        dsimp only at before stored
        rw [if_pos (show packetSeq < m.waveNextPacket by omega), if_pos (by rw [stored, intact])] at simulated
        obtain ⟨ok, unchanged⟩ := simulated
        exact ⟨fun _ => related.accepted served ok unchanged,
          fun bad => absurd (fun _ => ⟨fun _ _ => ⟨sound, again⟩, fun fine => absurd fine.1 (by omega)⟩) bad⟩
      · rw [if_neg again] at served
        by_cases continues : packetSeq = m.waveNextPacket ∧ offset = m.waveReceivedBytes ∧
            offset + payload.length ≤ m.waveTotalBytes
        · obtain ⟨next, place, inside⟩ := continues
          rw [if_pos ⟨next.trans order.symm, aligned, place.trans received.symm, inside.trans_eq total.symm⟩] at served
          rw [if_neg (show ¬ packetSeq < m.waveNextPacket by omega), if_pos ⟨next, place, inside⟩] at simulated
          obtain ⟨ok, after⟩ := simulated
          have relates := related.stores fields rfl intact active carriable aligned next place inside
          exact ⟨fun _ => relates.accepted served ok after,
            fun bad => absurd (fun _ => ⟨fun fine => absurd fine (by omega), fun _ => sound⟩) bad⟩
        · rw [if_neg (show ¬ (packetSeq = c.nextPacketSeq ∧ ContinuesAt c offset payload.length) by
            rintro ⟨next, -, place, inside⟩
            exact continues ⟨next.trans order, place.trans received, inside.trans_eq total⟩)] at served
          split_ifs at simulated with earlier known
          · -- an earlier fragment, or the last under a new number
            refine ⟨fun faithful => absurd ((faithful placed).1 earlier known).2 again, fun _ => ?_⟩
            rw [served]
            exact not_agree_of_ok rfl simulated.1
          · exact ⟨fun _ => related.refused served simulated, fun bad => absurd (fun _ =>
              ⟨fun _ fine => absurd fine known, fun fine => absurd fine continues⟩) bad⟩
          · exact ⟨fun _ => related.refused served simulated, fun bad => absurd (fun _ =>
              ⟨fun fine => absurd fine earlier, fun fine => absurd fine continues⟩) bad⟩
  · rw [if_neg placed] at simulated
    have refused : c.serve p (dataWords d seq (toWords (Host.padded payload))) playback = (false, c) := by
      rw [served]
      split_ifs with fine again continues
      · -- what is stored is aligned and inside of the memory
        obtain ⟨⟨named, active, -⟩, carriable, intact⟩ := fine
        obtain ⟨-, -, aligned, inside⟩ := related.last active again.1
        rw [again.2] at aligned inside
        dsimp only at aligned inside
        exact absurd ⟨named.trans same, related.upload.mp active, named ▸ related.named (.inl active), aligned,
          by omega, carriable, intact⟩ placed
      · obtain ⟨⟨named, active, -⟩, carriable, intact⟩ := fine
        obtain ⟨-, aligned, -, inside⟩ := continues
        have room := (related.total active).2
        exact absurd ⟨named.trans same, related.upload.mp active, named ▸ related.named (.inl active), aligned,
          by omega, carriable, intact⟩ placed
      · rfl
      · rfl
    exact ⟨fun _ => related.refused refused simulated, fun bad => absurd (fun fine => absurd fine placed) bad⟩

theorem namesAnother_iff (related : Related c m) (session : Nat) : m.namesAnother session = true ↔ ¬ Names c session := by
  have same := related.session
  rw [SimulatedDr47Device.namesAnother, decide_eq_true_iff, Names]
  omega

theorem nextGeneration_ne_zero (m : SimulatedDr47Device) : m.nextGeneration ≠ 0 := by
  rw [SimulatedDr47Device.nextGeneration]
  split_ifs with wrapped
  · decide
  · exact wrapped

/-- A COMMIT of a complete upload, at both. -/
theorem Related.commits (related : Related c m) (active : c.uploadActive = true) (r : UploadRequest) :
    Related (c.commits r)
      { m with
        waveGeneration := m.nextGeneration
        waveDescriptor := m.nextGeneration
        waveState := .prefetch
        wavePrefetchComplete := false } where
  session := related.session
  receivedBytes := related.receivedBytes
  nextPacket := related.nextPacket
  committed := ⟨fun _ => nextGeneration_ne_zero m, fun _ => rfl⟩
  exclusive := nofun
  upload := ⟨nofun, nofun⟩
  held _ := .inl rfl
  idle := nofun
  named _ := related.named (.inl active)
  total := nofun
  bounded := nofun
  last := nofun

theorem commit_faced (related : Related c m) {session seq : Nat}
    (narrow : (SentMessage.mk (.commit session) seq).Narrow) : Faced p c m playback ⟨.commit session, seq⟩ := by
  obtain ⟨seq_lt, session_lt⟩ := narrow
  dsimp only at seq_lt session_lt
  have words : (SentMessage.mk (.commit session) seq).words = commandWords opCommit session seq := rfl
  have same := related.session
  have known : (session : Int) = m.waveSession ↔ session = c.session := by omega
  rw [Faced, words]
  dsimp only [SentMessage.Faithful, SentMessage.simulate]
  rw [SimulatedDr47Device.commitWaveform]
  by_cases names : Names c session
  · obtain ⟨r, -, served⟩ := @serve_commit p c playback seq session seq_lt session_lt names
    by_cases committed : c.committed = true
    · -- what is committed is answered again, here to its number and there to its session
      have inactive : c.uploadActive = false := Bool.eq_false_iff.mpr fun active =>
        absurd (committed.symm.trans (related.exclusive active)) (by decide)
      have described := related.committed.mp committed
      have elsewhere : m.waveState ≠ .upload := fun uploading =>
        absurd (inactive.symm.trans (related.upload.mpr uploading)) Bool.false_ne_true
      by_cases named : session = c.session
      · rw [if_pos ⟨known.mpr named, described⟩]
        by_cases again : c.lastCommitRequest = seq
        · rw [if_pos ⟨committed, again⟩] at served
          exact ⟨fun _ => related.accepted served rfl rfl, fun bad => absurd (fun _ =>
            ⟨fun _ => ⟨fun _ => again, fun _ => named⟩, fun active => absurd (inactive.symm.trans active)
              Bool.false_ne_true⟩) bad⟩
        · rw [if_neg (fun fine => again fine.2), if_pos (.inl inactive)] at served
          refine ⟨fun faithful => absurd (((faithful names).1 committed).mp named) again, fun _ => ?_⟩
          rw [served]
          exact not_agree_of_ok rfl rfl
      · rw [if_neg (fun fine => named (known.mp fine.1)), if_pos (.inl fun fine => named (known.mp fine))]
        by_cases again : c.lastCommitRequest = seq
        · rw [if_pos ⟨committed, again⟩] at served
          refine ⟨fun faithful => absurd (((faithful names).1 committed).mpr again) named, fun _ => ?_⟩
          rw [served]
          exact not_agree_of_refuses rfl ⟨nofun, m.waveErrorOffset, rfl⟩
        · rw [if_neg (fun fine => again fine.2), if_pos (.inl inactive)] at served
          exact ⟨fun _ => related.refused served ⟨nofun, m.waveErrorOffset, rfl⟩, fun bad => absurd (fun _ =>
            ⟨fun _ => ⟨fun fine => absurd fine named, fun fine => absurd fine again⟩, fun active => absurd
              (inactive.symm.trans active) Bool.false_ne_true⟩) bad⟩
    · have undescribed : m.waveDescriptor = 0 := not_not.mp fun described => committed (related.committed.mpr described)
      rw [if_neg (fun fine => committed fine.1)] at served
      rw [if_neg (fun fine => fine.2 undescribed)]
      by_cases active : c.uploadActive = true
      · have uploading := related.upload.mp active
        have total := (related.total active).1
        have received := related.receivedBytes
        have some_session := related.named (.inl active)
        by_cases complete : c.receivedBytes = c.totalBytes
        · rw [if_neg (show ¬ m.waveReceivedBytes ≠ m.waveTotalBytes by omega)]
          by_cases named : session = c.session
          · rw [if_neg (show ¬ ((session : Int) ≠ m.waveSession ∨ m.waveState ≠ .upload) by
              rw [not_or, not_not, not_not]
              exact ⟨known.mpr named, uploading⟩)]
            by_cases sound : playback = 8
            · rw [if_pos (.inr (.inr sound))] at served
              refine ⟨fun faithful => absurd sound (((faithful names).2 active complete).mp named), fun _ => ?_⟩
              rw [served]
              exact not_agree_of_ok rfl rfl
            · rw [if_neg (show ¬ (c.uploadActive = false ∨ c.session = 0 ∨ playback = 8) by
                rw [active]
                exact fun bad => (bad.resolve_left nofun).elim some_session sound),
                if_neg (not_not.mpr complete)] at served
              exact ⟨fun _ => (related.commits active r).accepted served rfl rfl, fun bad => absurd (fun _ =>
                ⟨fun fine => absurd fine committed, fun _ _ => ⟨fun _ => sound, fun _ => named⟩⟩) bad⟩
          · rw [if_pos (.inl fun fine => named (known.mp fine))]
            have refused : Refuses m (m.waveResponse Host.waveOpCommit Host.waveStatusBadRequest none, m) :=
              ⟨nofun, m.waveErrorOffset, rfl⟩
            by_cases sound : playback = 8
            · rw [if_pos (.inr (.inr sound))] at served
              exact ⟨fun _ => related.refused served refused, fun bad => absurd (fun _ =>
                ⟨fun fine => absurd fine committed, fun _ _ => ⟨fun fine => absurd fine named,
                  fun fine => absurd sound fine⟩⟩) bad⟩
            · rw [if_neg (show ¬ (c.uploadActive = false ∨ c.session = 0 ∨ playback = 8) by
                rw [active]
                exact fun bad => (bad.resolve_left nofun).elim some_session sound),
                if_neg (not_not.mpr complete)] at served
              refine ⟨fun faithful => absurd (((faithful names).2 active complete).mpr sound) named, fun _ => ?_⟩
              rw [served]
              exact not_agree_of_refuses rfl refused
        · have incomplete : m.waveReceivedBytes ≠ m.waveTotalBytes := by omega
          rw [if_pos incomplete]
          have refused : c.serve p (commandWords opCommit session seq) playback = (false, c) := by
            rw [served]
            split_ifs <;> rfl
          refine ⟨fun _ => related.refused refused ?_, fun bad => absurd (fun _ =>
            ⟨fun fine => absurd fine committed, fun _ fine => absurd fine complete⟩) bad⟩
          split_ifs
          · exact ⟨nofun, m.waveErrorOffset, rfl⟩
          · exact ⟨nofun, m.waveErrorOffset, rfl⟩
      · -- without a session
        rw [Bool.not_eq_true] at active
        have resting := related.idle active (Bool.eq_false_iff.mpr committed)
        rw [if_pos (.inl active)] at served
        rw [if_pos (.inr (by rw [resting]; decide))]
        exact ⟨fun _ => related.refused served ⟨nofun, m.waveErrorOffset, rfl⟩, fun bad => absurd (fun _ =>
          ⟨fun fine => absurd fine committed, fun fine => absurd (active.symm.trans fine) Bool.false_ne_true⟩) bad⟩
  · have served := (@serve_command p c playback seq opCommit session (by decide) (by decide) seq_lt session_lt).1 names
    have other : (session : Int) ≠ m.waveSession := fun fine => names (.inr (known.mp fine))
    rw [if_neg (fun fine => other fine.1), if_pos (.inl other)]
    exact ⟨fun _ => related.refused served ⟨nofun, m.waveErrorOffset, rfl⟩,
      fun bad => absurd (fun fine => absurd fine names) bad⟩

/-- A STOP of an upload, and an ABORT, at both. -/
theorem Related.drops (related : Related c m) (active : c.uploadActive = true) {session : Nat}
    (unnamed : m.namesAnother session = false) : Related c.dropsUpload (m.abort session).2 := by
  rw [SimulatedDr47Device.abort, unnamed, if_neg Bool.false_ne_true]
  have uncommitted := related.exclusive active
  exact {
    session := rfl
    receivedBytes := rfl
    nextPacket := rfl
    committed := ⟨fun bad => absurd (uncommitted.symm.trans bad) Bool.false_ne_true, fun bad => absurd rfl bad⟩
    exclusive := nofun
    upload := ⟨nofun, nofun⟩
    held := fun bad => absurd (uncommitted.symm.trans bad) Bool.false_ne_true
    idle := fun _ _ => rfl
    named := by
      rintro (bad | bad)
      · cases bad
      · exact absurd (uncommitted.symm.trans bad) Bool.false_ne_true
    total := nofun
    bounded := nofun
    last := nofun }

/-- A STOP of what is committed pauses it there, and changes nothing here. -/
theorem Related.paused (related : Related c m) (committed : c.committed = true) {session : Nat}
    (unnamed : m.namesAnother session = false) :
    (m.pause session).1.status = Host.waveStatusOk ∧ Related c (m.pause session).2 := by
  have inactive : ¬ c.uploadActive = true := fun active =>
    absurd (committed.symm.trans (related.exclusive active)) (by decide)
  have after : Related c
      { m with waveState := .ready, wavePrefetchComplete := false, wavePlayPending := false } := {
    session := related.session
    receivedBytes := related.receivedBytes
    nextPacket := related.nextPacket
    committed := related.committed
    exclusive := related.exclusive
    upload := ⟨fun active => absurd active inactive, nofun⟩
    held := fun _ => .inr rfl
    idle := fun _ uncommitted => absurd (uncommitted.symm.trans committed) Bool.false_ne_true
    named := related.named
    total := fun active => absurd active inactive
    bounded := fun active => absurd active inactive
    last := fun active => absurd active inactive }
  rw [SimulatedDr47Device.pause, unnamed, if_neg Bool.false_ne_true]
  cases related.held committed with
  | inl prefetch =>
    rw [prefetch]
    exact ⟨rfl, after⟩
  | inr ready =>
    rw [ready]
    exact ⟨rfl, after⟩

theorem stop_faced (related : Related c m) {session seq : Nat}
    (narrow : (SentMessage.mk (.stop session) seq).Narrow) : Faced p c m playback ⟨.stop session, seq⟩ := by
  obtain ⟨seq_lt, session_lt⟩ := narrow
  dsimp only at seq_lt session_lt
  have words : (SentMessage.mk (.stop session) seq).words = commandWords opStop session seq := rfl
  rw [Faced, words]
  dsimp only [SentMessage.Faithful, SentMessage.simulate]
  rw [SimulatedDr47Device.stop]
  by_cases names : Names c session
  · have served := @serve_stop p c playback seq session seq_lt session_lt names
    have unnamed : m.namesAnother session = false :=
      Bool.eq_false_iff.mpr fun other => (namesAnother_iff related session).mp other names
    rw [unnamed, if_neg Bool.false_ne_true]
    by_cases active : c.uploadActive = true
    · rw [if_pos active] at served
      rw [if_pos (related.upload.mp active)]
      exact ⟨fun _ => (related.drops active unnamed).accepted served rfl rfl, fun bad => absurd (fun _ committed =>
        absurd ((related.exclusive active).symm.trans committed) Bool.false_ne_true) bad⟩
    · rw [if_neg active] at served
      rw [if_neg fun uploading => active (related.upload.mpr uploading)]
      by_cases committed : c.committed = true
      · obtain ⟨ok, paused⟩ := related.paused committed unnamed
        by_cases sound : playback = 8
        · rw [if_pos (.inr sound)] at served
          refine ⟨fun faithful => absurd sound (faithful names committed), fun _ => ?_⟩
          rw [served]
          exact not_agree_of_ok rfl ok
        · rw [if_neg (by rw [committed]; exact fun bad => bad.elim nofun sound)] at served
          exact ⟨fun _ => paused.accepted served ok rfl, fun bad => absurd (fun _ _ => sound) bad⟩
      · rw [Bool.not_eq_true] at active committed
        rw [if_pos (.inl committed)] at served
        rw [SimulatedDr47Device.pause, unnamed, if_neg Bool.false_ne_true, related.idle active committed]
        exact ⟨fun _ => related.refused served ⟨nofun, m.waveErrorOffset, rfl⟩, fun bad => absurd (fun _ fine =>
          absurd (committed.symm.trans fine) Bool.false_ne_true) bad⟩
  · have served := (@serve_command p c playback seq opStop session (by decide) (by decide) seq_lt session_lt).1 names
    rw [(namesAnother_iff related session).mpr names, if_pos rfl]
    exact ⟨fun _ => related.refused served ⟨nofun, m.waveErrorOffset, rfl⟩,
      fun bad => absurd (fun fine => absurd fine names) bad⟩

theorem abort_faced (related : Related c m) {session seq : Nat}
    (narrow : (SentMessage.mk (.abort session) seq).Narrow) : Faced p c m playback ⟨.abort session, seq⟩ := by
  obtain ⟨seq_lt, session_lt⟩ := narrow
  dsimp only at seq_lt session_lt
  have words : (SentMessage.mk (.abort session) seq).words = commandWords opAbort session seq := rfl
  rw [Faced, words]
  dsimp only [SentMessage.Faithful, SentMessage.simulate]
  refine ⟨fun _ => ?_, fun bad => absurd trivial bad⟩
  rw [SimulatedDr47Device.abort]
  by_cases names : Names c session
  · have served := @serve_abort p c playback seq session seq_lt session_lt names
    rw [Bool.eq_false_iff.mpr fun other => (namesAnother_iff related session).mp other names, if_neg Bool.false_ne_true]
    have aborted : Related c.aborts
        { m with
          waveState := .idle
          waveSession := 0
          waveDescriptor := 0
          waveReceived := []
          waveReceivedBytes := 0
          waveNextPacket := 0
          waveErrorOffset := 0
          wavePlayPending := false
          wavePrefetchComplete := false
          waveFragments := fun _ => none } := by
      refine ⟨rfl, rfl, rfl, ⟨nofun, fun bad => absurd rfl bad⟩, nofun, ⟨nofun, nofun⟩, nofun, fun _ _ => rfl, ?_,
        nofun, nofun, nofun⟩
      rintro (bad | bad) <;> cases bad
    exact aborted.accepted served rfl rfl
  · have served := (@serve_command p c playback seq opAbort session (by decide) (by decide) seq_lt session_lt).1 names
    rw [(namesAnother_iff related session).mpr names, if_pos rfl]
    exact related.refused served ⟨nofun, m.waveErrorOffset, rfl⟩

theorem faced (related : Related c m) {r : SentMessage} (narrow : r.Narrow) : Faced p c m playback r := by
  obtain ⟨message, seq⟩ := r
  cases message with
  | begin => exact begin_faced related narrow
  | data => exact data_faced related narrow
  | commit => exact commit_faced related narrow
  | stop => exact stop_faced related narrow
  | abort => exact abort_faced related narrow

end Step

/-! ## Runs -/

/-- A property of every request of a run, with what the writer has made of it and the
    simulator before it. -/
def Throughout (property : Transaction → SimulatedDr47Device → SentMessage → Prop) :
    SimulatedDr47Device → List (Transaction × SentMessage) → Prop
  | _, [] => True
  | m, (t, r) :: rest => property t m r ∧ Throughout property (r.simulate m).2 rest

/-- The writer and the simulator make the same of a request. -/
def AnsweredAlike (t : Transaction) (m : SimulatedDr47Device) (r : SentMessage) : Prop :=
  Agree (decide (t.status = statusOk), t.after) (r.simulate m)

def FaithfullyAsked (t : Transaction) (m : SimulatedDr47Device) (r : SentMessage) : Prop :=
  r.Faithful t.before m t.playback

theorem SentMessage.not_status {r : SentMessage} (narrow : r.Narrow) : opcodeOf r.words ≠ opStatus := by
  obtain ⟨message, seq⟩ := r
  obtain ⟨seq_lt, fields⟩ := narrow
  dsimp only at seq_lt
  have command : ∀ {opcode : Nat} (session : Nat), 3 ≤ opcode → opcode ≤ 8 → opcode ≠ opStatus →
      opcodeOf (commandWords opcode session seq) ≠ opStatus := by
    intro opcode session least most other
    rw [(commandWords_wellFormed session least most seq_lt).2.1]
    exact other
  cases message with
  | begin session totalBytes channelMask layout totalBeats loopCount =>
    have opcode := (@beginWords_header ⟨session, totalBytes, channelMask, layout, 0, totalBeats, loopCount, 64⟩ seq
      seq_lt).1
    exact fun bad => absurd (opcode.symm.trans bad) (by decide)
  | data session packetSeq byteOffset payload payloadCrc =>
    have opcode := (@dataWords_header ⟨session, packetSeq, byteOffset, payload.length, payloadCrc, true, true⟩ seq
      (toWords (Host.padded payload)) seq_lt fields.2.2.2.1).1
    exact fun bad => absurd (opcode.symm.trans bad) (by decide)
  | commit session => exact command session (by decide) (by decide) (by decide)
  | stop session => exact command session (by decide) (by decide) (by decide)
  | abort session => exact command session (by decide) (by decide) (by decide)

/-- From related sessions the requests are answered alike as long as they are asked faithfully. -/
theorem Related.throughout {p : WriterParams} {c c' : UploadCore} {m : SimulatedDr47Device} {ts : List Transaction}
    {messages : List SentMessage} (related : Related c m) (chained : Chained c ts c')
    (lawful : ∀ t ∈ ts, t.Lawful p) (words : ts.map Transaction.words = messages.map SentMessage.words)
    (narrow : ∀ r ∈ messages, r.Narrow) (memory : ∀ t ∈ ts, t.axiFails = false) :
    Throughout AnsweredAlike m (ts.zip messages) ↔ Throughout FaithfullyAsked m (ts.zip messages) := by
  induction ts generalizing c m messages with
  | nil => exact Iff.rfl
  | cons t ts ih =>
    cases messages with
    | nil => cases words
    | cons r messages =>
      obtain ⟨same, rest⟩ := List.cons.inj words
      obtain ⟨before, after⟩ := chained
      have first := narrow r List.mem_cons_self
      have served := (lawful t List.mem_cons_self).serves (by rw [same]; exact r.not_status first)
        (memory t List.mem_cons_self)
      rw [before, same] at served
      obtain ⟨alike, unlike⟩ := @faced p c m t.playback related r first
      rw [served] at alike unlike
      by_cases faithful : r.Faithful c m t.playback
      · obtain ⟨agree, still⟩ := alike faithful
        have tail := ih still after (fun u among => lawful u (List.mem_cons_of_mem _ among)) rest
          (fun s among => narrow s (List.mem_cons_of_mem _ among)) fun u among => memory u (List.mem_cons_of_mem _ among)
        refine and_congr ⟨fun _ => ?_, fun _ => agree⟩ tail
        rw [FaithfullyAsked, before]
        exact faithful
      · refine ⟨fun answered => absurd answered.1 (unlike faithful), fun asked => absurd ?_ faithful⟩
        have now : r.Faithful t.before m t.playback := asked.1
        rw [before] at now
        exact now

/-- The simulator answers every request of a run as the writer does, and holds the same
    progress after each, exactly when the run asks nothing that they remember differently. -/
theorem simulator_refines_iff (p : WriterParams) (is : List WriterIn) (messages : List SentMessage)
    (words : (answers p is).map Transaction.words = messages.map SentMessage.words)
    (narrow : ∀ r ∈ messages, r.Narrow) (memory : ∀ t ∈ answers p is, t.axiFails = false) :
    Throughout AnsweredAlike .reset ((answers p is).zip messages) ↔
      Throughout FaithfullyAsked .reset ((answers p is).zip messages) := by
  obtain ⟨-, chained, lawful⟩ := run_lawful p is
  exact (related_reset p).throughout chained lawful words narrow memory

/-- A fragment of one beat at the start of session 5. -/
def firstFragment (seq : Nat) : SentMessage := ⟨.data 5 0 0 (List.replicate 32 0) 0x190A55AD, seq⟩

/-- The cycles of a packet, and those its beat takes to be checked and written. -/
def storingCycles (words : List Word) : List WriterIn :=
  (packetCycles 1 words ++ List.replicate 330 (quietCycle 1)).map fun i => { i with bvalid := true }

/-- The fragment is sent again under a number of its own. -/
def sentUnderFreshNumber : List WriterIn :=
  packetCycles 0 beginPacket ++ storingCycles (ctrlMagic :: (firstFragment 8).words) ++
    packetCycles 1 (ctrlMagic :: (firstFragment 9).words)

def storedFragment : Transaction :=
  ⟨begunCore, (firstFragment 8).words, 1, 8, opData, statusOk,
    begunCore.stores (requestOf begunCore (firstFragment 8).words) 32, [], [(topWriterParams.ddrAddrBase, 0)], false⟩

def refusedFragment : Transaction :=
  ⟨storedFragment.after, (firstFragment 9).words, 1, 9, opData, statusSequence, storedFragment.after, [], [], false⟩


theorem sentUnderFreshNumber_answers :
    answers topWriterParams sentUnderFreshNumber = [begunAnswer, storedFragment, refusedFragment] := by
  decide +kernel

def firstBegin : SentMessage := ⟨.begin 5 256 1 1 1 1, 7⟩

/-- The simulator acknowledges the repeated fragment, and the writer does not. -/
theorem sentUnderFreshNumber_not_refined :
    ¬ ∀ (p : WriterParams) (is : List WriterIn) (messages : List SentMessage),
      (answers p is).map Transaction.words = messages.map SentMessage.words → (∀ r ∈ messages, r.Narrow) →
        (∀ t ∈ answers p is, t.axiFails = false) →
          Throughout AnsweredAlike .reset ((answers p is).zip messages) := by
  intro claim
  have alike := claim topWriterParams sentUnderFreshNumber [firstBegin, firstFragment 8, firstFragment 9]
  rw [sentUnderFreshNumber_answers] at alike
  obtain ⟨-, -, third, -⟩ := alike (by decide +kernel) (by decide) (by decide)
  exact absurd (third.outcome.mpr (by decide +kernel)) (by decide)

/-- A run whose requests are asked faithfully. -/
theorem firstBegin_refined : Throughout AnsweredAlike .reset ([begunAnswer].zip [firstBegin]) := by
  have answered : answers topWriterParams (packetCycles 0 beginPacket) = [begunAnswer] := by decide +kernel
  have refined := simulator_refines_iff topWriterParams (packetCycles 0 beginPacket) [firstBegin]
  rw [answered] at refined
  exact (refined (by decide +kernel) (by decide) (by decide)).mpr
    ⟨fun _ again => absurd again.2.2 (by decide), trivial⟩

end Xczu47dr.Upload
