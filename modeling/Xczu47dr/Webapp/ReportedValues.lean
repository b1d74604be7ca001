import Mathlib.Tactic.NormNum
import Xczu47dr.Clocked.Ledger
import Xczu47dr.Effects.Refusals
import Xczu47dr.Records.Journal
import Xczu47dr.Webapp.RfdcConfigService

/-! # Where the stored values come from

The actual values in the stored records, against what the boards have reported over
the whole history of the service.
-/

namespace Xczu47dr.Webapp

open Records Refusals

/-! ## Reported values -/

/-- A value is unset, or the board has reported it for the channel. -/
def Reported {α : Type} (journal : List Event) (boardId : String) (channel : Nat) (unset value : α)
    (read : Report → α) : Prop :=
  value = unset ∨ ∃ response, Event.responded boardId response ∈ journal ∧
    ∃ report ∈ response.channels, report.channel = channel ∧ value = read report

structure FromBoard (journal : List Event) (boardId : String) (channel : Nat) (actual : Actual) : Prop where
  actualNcoHz : Reported journal boardId channel none actual.actualNcoHz fun r => some r.ncoHz
  actualNyquistZone : Reported journal boardId channel none actual.actualNyquistZone fun r => some r.nyquistZone
  actualNcoPhaseDeg : Reported journal boardId channel none actual.actualNcoPhaseDeg fun r => some r.ncoPhaseDeg
  actualDacOutputCurrentMa :
    Reported journal boardId channel none actual.actualDacOutputCurrentMa fun r => some r.dacOutputCurrentMa
  ncoWord : Reported journal boardId channel none actual.ncoWord fun r => some r.ncoWord
  phaseWord : Reported journal boardId channel none actual.phaseWord fun r => some r.phaseWord
  vopCode : Reported journal boardId channel none actual.vopCode fun r => some r.vopCode
  hardwareStatus : Reported journal boardId channel 0 actual.hardwareStatus Report.status

variable {journal : List Event} {boardId : String} {channel : Nat} {response : RfdcResponse}

theorem fromBoard_unset : FromBoard journal boardId channel {} :=
  ⟨.inl rfl, .inl rfl, .inl rfl, .inl rfl, .inl rfl, .inl rfl, .inl rfl, .inl rfl⟩

theorem fromBoard_report (heard : .responded boardId response ∈ journal) {report : Report}
    (mem : report ∈ response.channels) : FromBoard journal boardId report.channel report.actual := by
  constructor <;> exact .inr ⟨response, heard, report, mem, rfl, rfl⟩

theorem FromBoard.later {actual : Actual} (reported : FromBoard journal boardId channel actual) (event : Event) :
    FromBoard (event :: journal) boardId channel actual := by
  have kept {α : Type} {unset value : α} {read : Report → α}
      (told : Reported journal boardId channel unset value read) :
      Reported (event :: journal) boardId channel unset value read := by
    rcases told with none | ⟨response, heard, report⟩
    · exact .inl none
    · exact .inr ⟨response, List.mem_cons_of_mem _ heard, report⟩
  obtain ⟨hz, zone, deg, ma, nco, phase, vop, status⟩ := reported
  exact ⟨kept hz, kept zone, kept deg, kept ma, kept nco, kept phase, kept vop, kept status⟩

/-- The channels hold what the board has reported for each. -/
def ChannelsReported (journal : List Event) (boardId : String) (channels : List RfdcChannelConfig) : Prop :=
  ∀ item ∈ channels, FromBoard journal boardId item.channel item.toActual

/-- The channels that the last response of a board has declared valid. -/
def lastMask : List Event → String → Nat
  | [], _ => 0
  | .responded other response :: before, boardId =>
      if other = boardId then response.validMask else lastMask before boardId
  | .saved _ :: before, boardId => lastMask before boardId

def Within (mask other : Nat) : Prop := ∀ bit, mask.testBit bit = true → other.testBit bit = true

/-- A record holds what the board has reported, and declares valid what the board did last. -/
def Honest : List Event → Event → Prop
  | _, .responded _ _ => True
  | before, .saved record =>
      ChannelsReported before record.boardId record.channels ∧
        Within record.configValidMask (lastMask before record.boardId)

/-! ## The stored values -/

def actualOf (channels : List RfdcChannelConfig) (channel : Nat) : Actual :=
  ((channels.find? (·.channel = channel)).map (·.toActual)).getD {}

def World.actual (world : World) (boardId : String) (channel : Nat) : Actual :=
  ((world.store boardId).map (actualOf ·.channels channel)).getD {}

def World.validMask (world : World) (boardId : String) : Nat :=
  ((world.store boardId).map (·.configValidMask)).getD 0

/-- A call that fails leaves the stored actual values of all channels. -/
def KeepsActual (world : World) : Call → Prop
  | .get .. => True
  | .apply boardId around request => ∀ reason, (apply around boardId world request).1 = .error reason →
      ∀ channel, 1 ≤ channel → channel ≤ 8 →
        (apply around boardId world request).2.actual boardId channel = world.actual boardId channel

/-- The board answers that some of the request is applied, and the result can be stored. -/
def Lands (around : Surroundings) (pending : BoardRfdcConfig) : Prop :=
  ∃ response, around.answer (applyCommand pending) = .ok response ∧
    (response.complete pending.requestedMask = true ∨ response.someApplied pending.requestedMask = true) ∧
      around.savingResult = .ok ()

/-- The actual values in a request that is stored are unset or have been reported, and the last
response declares valid what the stored record does; and if nothing is applied, then they are the
stored ones, and the response declares that valid as well. -/
def Supported (world : World) : Call → Prop
  | .get .. => True
  | .apply boardId around request => ∀ pending, prepare around boardId world request = .ok pending →
      around.savingPending = .ok () →
        ChannelsReported world.journal boardId request.channels ∧
          Within (world.validMask boardId) (lastMask world.journal boardId) ∧
            (¬ Lands around pending →
              (∀ item ∈ request.channels, item.toActual = world.actual boardId item.channel) ∧
                (around.savingFailed = .ok () → ∀ response, around.answer (applyCommand pending) = .ok response →
                  Within (world.validMask boardId) response.validMask))

/-- What the journal and the store have kept. -/
structure Sound (world : World) : Prop where
  warranted : Warranted Honest world.journal
  stored : ∀ boardId record, world.store boardId = some record →
    ChannelsReported world.journal boardId record.channels

theorem ChannelsReported.later {channels : List RfdcChannelConfig}
    (reported : ChannelsReported journal boardId channels) (event : Event) :
    ChannelsReported (event :: journal) boardId channels :=
  fun item mem => (reported item mem).later event

variable {world : World} {record : BoardRfdcConfig}

theorem Sound.hear (sound : Sound world) (boardId : String) (response : RfdcResponse) :
    Sound (world.hear boardId response) :=
  ⟨⟨trivial, sound.warranted⟩, fun other record kept => (sound.stored other record kept).later _⟩

theorem Sound.save (sound : Sound world) (honest : Honest world.journal (.saved record)) :
    Sound (world.save record) := by
  refine ⟨⟨honest, sound.warranted⟩, fun other kept stored => ?_⟩
  change (if other = record.boardId then some record else world.store other) = some kept at stored
  split_ifs at stored with same
  · obtain rfl := Option.some.inj stored
    rw [same]
    exact honest.1.later _
  · exact (sound.stored other kept stored).later _

theorem actual_save (channel : Nat) :
    (world.save record).actual record.boardId channel = actualOf record.channels channel := by
  change ((if record.boardId = record.boardId then some record else _).map
    (actualOf ·.channels channel)).getD {} = _
  rw [if_pos rfl]
  rfl


/-! ## What a call reads -/

theorem mem_channelsOf {channels : List RfdcChannelConfig} {item : RfdcChannelConfig} :
    item ∈ channelsOf channels ↔ item ∈ channels := (List.perm_insertionSort _ channels).mem_iff

theorem annotated_reported {channels : List RfdcChannelConfig} (calibration : Int → Nat → Option ℚ) :
    ChannelsReported journal boardId (annotateCalibrations calibration channels) ↔
      ChannelsReported journal boardId channels := by
  rw [annotateCalibrations, ChannelsReported, List.forall_mem_map]
  rfl

theorem configFromHardware_reported {base : BoardRfdcConfig} (status : ApplyStatus) (now : String)
    (reported : ChannelsReported journal boardId base.channels) (heard : .responded boardId response ∈ journal) :
    ChannelsReported journal boardId (configFromHardware base response status now).channels := by
  rintro item mem
  obtain ⟨requested, asked, rfl⟩ := List.mem_map.mp mem
  have kept := reported requested (mem_channelsOf.mp asked)
  cases found : response.channels.reverse.find? (·.channel = requested.channel) with
  | none => exact kept
  | some report =>
    have matched := List.find?_some found
    have channel : report.channel = requested.channel := of_decide_eq_true matched
    have told := fromBoard_report heard (List.mem_reverse.mp (List.mem_of_find?_eq_some found))
    dsimp only
    split_ifs
    · rw [channel] at told
      exact told
    · exact kept

variable {around : Surroundings} {request : RfdcConfigApplyRequest} {config pending : BoardRfdcConfig}

theorem current_facts (loaded : current around boardId world = .ok config) :
    config.boardId = boardId ∧ config.configValidMask = world.validMask boardId ∧
      (Sound world → ChannelsReported world.journal boardId config.channels) := by
  rw [current] at loaded
  obtain ⟨profile, -, loaded⟩ := bind_ok.mp loaded
  obtain ⟨stored, read, loaded⟩ := bind_ok.mp loaded
  obtain rfl := Except.ok.inj loaded
  dsimp only
  rw [World.load] at read
  rw [World.validMask]
  cases kept : world.store boardId with
  | none =>
    rw [kept] at read
    obtain rfl := Except.ok.inj read
    refine ⟨rfl, rfl, fun _ => (annotated_reported _).mpr fun item mem => ?_⟩
    obtain ⟨target, -, rfl⟩ := List.mem_map.mp mem
    exact fromBoard_unset
  | some record =>
    rw [kept] at read
    dsimp only at read
    split_ifs at read
    obtain rfl := Except.ok.inj read
    exact ⟨rfl, rfl, fun sound => (annotated_reported _).mpr (sound.stored boardId record kept)⟩

theorem prepare_facts (prepared : prepare around boardId world request = .ok pending) :
    pending.boardId = boardId ∧ pending.configValidMask = world.validMask boardId ∧
      pending.channels = annotateCalibrations around.calibration (channelsOf request.channels) := by
  rw [prepare] at prepared
  obtain ⟨profile, -, prepared⟩ := bind_ok.mp prepared
  obtain ⟨config, loaded, prepared⟩ := bind_ok.mp prepared
  obtain ⟨status, -, prepared⟩ := bind_ok.mp prepared
  obtain ⟨_, -, prepared⟩ := bind_ok.mp prepared
  obtain rfl := Except.ok.inj prepared
  exact ⟨rfl, (current_facts loaded).2.1, rfl⟩

theorem pending_reported (prepared : prepare around boardId world request = .ok pending) :
    ChannelsReported journal boardId pending.channels ↔ ChannelsReported journal boardId request.channels := by
  rw [(prepare_facts prepared).2.2, annotated_reported]
  exact forall_congr' fun item => imp_congr_left mem_channelsOf

theorem actualOf_mem {channels : List RfdcChannelConfig} (nodup : (channels.map RfdcChannelConfig.channel).Nodup)
    {item : RfdcChannelConfig} (mem : item ∈ channels) : actualOf channels item.channel = item.toActual := by
  rw [actualOf]
  cases found : channels.find? (·.channel = item.channel) with
  | none =>
    have other := List.find?_eq_none.mp found item mem
    exact absurd (decide_eq_true rfl) other
  | some first =>
    have matched := List.find?_some found
    have same : first.channel = item.channel := of_decide_eq_true matched
    rw [List.inj_on_of_nodup_map nodup (List.mem_of_find?_eq_some found) mem same]
    rfl

theorem request_nodup (request : RfdcConfigApplyRequest) :
    (request.channels.map RfdcChannelConfig.channel).Nodup := by
  rw [← (List.perm_insertionSort (· ≤ ·) _).nodup_iff, request.numbered]
  exact List.nodup_range'

/-- The actual values of a request are those stored with it. -/
theorem actualOf_pending (prepared : prepare around boardId world request = .ok pending) {item : RfdcChannelConfig}
    (mem : item ∈ request.channels) : actualOf pending.channels item.channel = item.toActual := by
  have sorted : (pending.channels.map RfdcChannelConfig.channel).Nodup := by
    rw [(prepare_facts prepared).2.2, annotateCalibrations, List.map_map]
    have sorts := (List.perm_insertionSort (·.channel ≤ ·.channel) request.channels).map RfdcChannelConfig.channel
    exact sorts.nodup_iff.mpr (request_nodup request)
  have stored : ∃ kept ∈ pending.channels, kept.channel = item.channel ∧ kept.toActual = item.toActual := by
    rw [(prepare_facts prepared).2.2, annotateCalibrations]
    exact ⟨_, List.mem_map_of_mem (mem_channelsOf.mpr mem), rfl, rfl⟩
  obtain ⟨kept, mem, channel, same⟩ := stored
  rw [← channel, ← same]
  exact actualOf_mem sorted mem

theorem exists_item (request : RfdcConfigApplyRequest) {channel : Nat} (low : 1 ≤ channel) (high : channel ≤ 8) :
    ∃ item ∈ request.channels, item.channel = channel := by
  have inside : channel ∈ (request.channels.map RfdcChannelConfig.channel).insertionSort (· ≤ ·) := by
    rw [request.numbered, List.mem_range'_1]
    omega
  exact List.mem_map.mp ((List.perm_insertionSort _ _).mem_iff.mp inside)

/-! ## What a call does -/

def failedConfig (pending : BoardRfdcConfig) (reason : String) : BoardRfdcConfig :=
  { pending with applyStatus := .failed, applyError := reason }

/-- The world after the board has been asked in vain. -/
inductive Asked (around : Surroundings) (boardId : String) (world : World) (pending : BoardRfdcConfig) :
    World → Prop
  | unanswered (reason : String) : around.answer (applyCommand pending) = .error reason →
      Asked around boardId world pending (world.save pending)
  | answered (response : RfdcResponse) : around.answer (applyCommand pending) = .ok response →
      Asked around boardId world pending ((world.save pending).hear boardId response)

/-- The four ways of `apply`. -/
inductive Applied (around : Surroundings) (boardId : String) (world : World) (request : RfdcConfigApplyRequest) :
    Except String BoardRfdcConfig × World → Prop
  | refused (reason : String) : (∀ pending, prepare around boardId world request = .ok pending →
      around.savingPending ≠ .ok ()) → Applied around boardId world request (.error reason, world)
  | landed (pending result : BoardRfdcConfig) (response : RfdcResponse) :
      prepare around boardId world request = .ok pending → around.savingPending = .ok () →
      Lands around pending → around.answer (applyCommand pending) = .ok response →
      resultConfig around pending response = .ok result →
      Applied around boardId world request (.ok result, ((world.save pending).hear boardId response).save result)
  | unsaved (pending : BoardRfdcConfig) (reason : String) (after : World) :
      prepare around boardId world request = .ok pending → around.savingPending = .ok () →
      ¬ Lands around pending → Asked around boardId world pending after → around.savingFailed ≠ .ok () →
      Applied around boardId world request (.error reason, after)
  | failed (pending : BoardRfdcConfig) (reason : String) (after : World) :
      prepare around boardId world request = .ok pending → around.savingPending = .ok () →
      ¬ Lands around pending → Asked around boardId world pending after → around.savingFailed = .ok () →
      Applied around boardId world request (.error reason, after.save (failedConfig pending reason))

theorem resultConfig_ok {result : BoardRfdcConfig} (made : resultConfig around pending response = .ok result) :
    (response.complete pending.requestedMask = true ∨ response.someApplied pending.requestedMask = true) ∧
      result.boardId = pending.boardId ∧ result.configValidMask = response.validMask ∧
        ∃ status, result.channels = (configFromHardware pending response status around.now).channels := by
  rw [resultConfig] at made
  split_ifs at made with complete some
  · obtain rfl := Except.ok.inj made
    exact ⟨.inl complete, rfl, rfl, .applied, rfl⟩
  · obtain rfl := Except.ok.inj made
    exact ⟨.inr some, rfl, rfl, .partly, rfl⟩

theorem resultConfig_error {reason : String} (made : resultConfig around pending response = .error reason) :
    ¬ (response.complete pending.requestedMask = true ∨ response.someApplied pending.requestedMask = true) := by
  rw [resultConfig] at made
  split_ifs at made with complete some
  rw [not_or]
  exact ⟨complete, some⟩

theorem attempt_failed {reason : String} {after : World}
    (made : attempt around boardId (world.save pending) pending = (.error reason, after)) :
    ¬ Lands around pending ∧ Asked around boardId world pending after := by
  rw [attempt] at made
  cases answered : around.answer (applyCommand pending) with
  | error fault =>
    rw [answered] at made
    obtain ⟨-, rfl⟩ := Prod.mk.inj made
    refine ⟨?_, .unanswered fault answered⟩
    rintro ⟨response, other, -⟩
    rw [answered] at other
    cases other
  | ok response =>
    rw [answered] at made
    have unlanded (fails : ¬ ((response.complete pending.requestedMask = true ∨
        response.someApplied pending.requestedMask = true) ∧ around.savingResult = .ok ())) :
        ¬ Lands around pending := by
      rintro ⟨other, same, lands⟩
      obtain rfl := Except.ok.inj (answered.symm.trans same)
      exact fails lands
    dsimp only at made
    cases resulted : resultConfig around pending response with
    | error fault =>
      rw [resulted] at made
      obtain ⟨-, rfl⟩ := Prod.mk.inj made
      exact ⟨unlanded fun lands => resultConfig_error resulted lands.1, .answered response answered⟩
    | ok result =>
      rw [resulted] at made
      dsimp only at made
      cases saving : around.savingResult with
      | error fault =>
        rw [saving] at made
        obtain ⟨-, rfl⟩ := Prod.mk.inj made
        refine ⟨unlanded fun lands => ?_, .answered response answered⟩
        rw [saving] at lands
        cases lands.2
      | ok _ =>
        rw [saving] at made
        cases (Prod.mk.inj made).1

theorem attempt_landed {result : BoardRfdcConfig} {after : World}
    (made : attempt around boardId (world.save pending) pending = (.ok result, after)) :
    Lands around pending ∧ ∃ response, around.answer (applyCommand pending) = .ok response ∧
      resultConfig around pending response = .ok result ∧
        after = ((world.save pending).hear boardId response).save result := by
  rw [attempt] at made
  cases answered : around.answer (applyCommand pending) with
  | error fault =>
    rw [answered] at made
    cases (Prod.mk.inj made).1
  | ok response =>
    rw [answered] at made
    dsimp only at made
    cases resulted : resultConfig around pending response with
    | error fault =>
      rw [resulted] at made
      cases (Prod.mk.inj made).1
    | ok kept =>
      rw [resulted] at made
      dsimp only at made
      cases saving : around.savingResult with
      | error fault =>
        rw [saving] at made
        cases (Prod.mk.inj made).1
      | ok _ =>
        rw [saving] at made
        obtain ⟨same, rfl⟩ := Prod.mk.inj made
        obtain rfl := Except.ok.inj same
        exact ⟨⟨response, answered, (resultConfig_ok resulted).1, saving⟩, response, rfl, resulted, rfl⟩

theorem apply_applied (around : Surroundings) (boardId : String) (world : World)
    (request : RfdcConfigApplyRequest) :
    Applied around boardId world request (apply around boardId world request) := by
  rw [apply]
  cases prepared : prepare around boardId world request with
  | error reason =>
    refine .refused reason fun pending other => ?_
    rw [prepared] at other
    cases other
  | ok pending =>
    dsimp only
    cases saving : around.savingPending with
    | error reason =>
      refine .refused reason fun _ _ other => ?_
      rw [saving] at other
      cases other
    | ok _ =>
      dsimp only
      cases made : attempt around boardId (world.save pending) pending with
      | mk outcome after =>
        cases outcome with
        | ok result =>
          obtain ⟨lands, response, answered, resulted, rfl⟩ := attempt_landed made
          exact .landed pending result response prepared saving lands answered resulted
        | error reason =>
          obtain ⟨fails, asked⟩ := attempt_failed made
          dsimp only
          cases savingFailed : around.savingFailed with
          | error fault =>
            refine .unsaved pending fault after prepared saving fails asked fun other => ?_
            rw [savingFailed] at other
            cases other
          | ok _ => exact .failed pending reason after prepared saving fails asked savingFailed

/-! ## One call -/

theorem lastMask_hear : lastMask (world.hear boardId response).journal boardId = response.validMask := if_pos rfl

/-- What the last response reports and declares valid is stored honestly. -/
theorem honest_result {base result : BoardRfdcConfig}
    (reported : ChannelsReported world.journal boardId base.channels)
    (board : result.boardId = boardId) (mask : result.configValidMask = response.validMask) {status : ApplyStatus}
    {now : String} (channels : result.channels = (configFromHardware base response status now).channels) :
    Honest (world.hear boardId response).journal (.saved result) := by
  rw [Honest, board, channels, mask, lastMask_hear]
  exact ⟨configFromHardware_reported status now (reported.later _) List.mem_cons_self, fun _ set => set⟩

theorem Sound.get (sound : Sound world) (around : Surroundings) (boardId : String) (refreshed : Bool) :
    Sound (Webapp.get around boardId world refreshed).2 := by
  rw [Webapp.get]
  cases loaded : current around boardId world with
  | error reason => exact sound
  | ok config =>
    obtain ⟨board, -, reported⟩ := current_facts loaded
    cases refreshed with
    | false => exact sound
    | true =>
      change Sound (refresh around boardId world config).2
      rw [refresh]
      cases around.reading with
      | error reason => exact sound
      | ok response =>
        have heard := sound.hear boardId response
        dsimp only
        split_ifs
        · exact heard
        · cases around.savingResult with
          | error reason => exact heard
          | ok _ => exact heard.save (honest_result (reported sound) board rfl rfl)

/-- A request is stored honestly exactly if its actual values have been reported and the last
response declares valid what the stored record does. -/
theorem honest_pending (prepared : prepare around boardId world request = .ok pending) :
    Honest world.journal (.saved pending) ↔
      ChannelsReported world.journal boardId request.channels ∧
        Within (world.validMask boardId) (lastMask world.journal boardId) := by
  obtain ⟨board, mask, -⟩ := prepare_facts prepared
  rw [Honest, board, mask, pending_reported prepared]

/-- The record of a failure is stored honestly if the pending one was, exactly if a response that
has come declares as much valid. -/
theorem honest_failed (prepared : prepare around boardId world request = .ok pending)
    (honest : Honest world.journal (.saved pending)) {after : World}
    (asked : Asked around boardId world pending after)
    (reason : String) : Honest after.journal (.saved (failedConfig pending reason)) ↔
      ∀ response, around.answer (applyCommand pending) = .ok response →
        Within (world.validMask boardId) response.validMask := by
  obtain ⟨board, mask, -⟩ := prepare_facts prepared
  have reported := honest.1
  rw [board] at reported
  rw [Honest]
  change ChannelsReported _ pending.boardId pending.channels ∧
    Within pending.configValidMask (lastMask _ pending.boardId) ↔ _
  rw [board, mask]
  cases asked with
  | unanswered fault none =>
    refine iff_of_true ⟨reported.later _, ?_⟩ fun response answered => ?_
    · rw [Honest, board, mask] at honest
      exact honest.2
    · rw [none] at answered
      cases answered
  | answered response some =>
    rw [lastMask_hear]
    constructor
    · rintro ⟨-, within⟩ other answered
      obtain rfl := Except.ok.inj (some.symm.trans answered)
      exact within
    · exact fun within => ⟨(reported.later _).later _, within response some⟩

theorem Sound.asked {after : World} (saved : Sound (world.save pending))
    (asked : Asked around boardId world pending after) : Sound after := by
  cases asked with
  | unanswered => exact saved
  | answered response => exact saved.hear boardId response

theorem actual_asked (prepared : prepare around boardId world request = .ok pending) {after : World}
    (asked : Asked around boardId world pending after) (channel : Nat) :
    after.actual boardId channel = actualOf pending.channels channel := by
  have saved : (world.save pending).actual pending.boardId channel = actualOf pending.channels channel :=
    actual_save channel
  rw [(prepare_facts prepared).1] at saved
  cases asked <;> exact saved

theorem actual_failed (prepared : prepare around boardId world request = .ok pending) (after : World)
    (reason : String) (channel : Nat) :
    (after.save (failedConfig pending reason)).actual boardId channel = actualOf pending.channels channel := by
  have saved : (after.save (failedConfig pending reason)).actual (failedConfig pending reason).boardId channel =
      actualOf (failedConfig pending reason).channels channel := actual_save channel
  rw [← (prepare_facts prepared).1]
  exact saved

/-- All channels keep their actual values exactly if each of the request has that of its channel. -/
theorem kept_iff (prepared : prepare around boardId world request = .ok pending) :
    (∀ channel, 1 ≤ channel → channel ≤ 8 → actualOf pending.channels channel = world.actual boardId channel) ↔
      ∀ item ∈ request.channels, item.toActual = world.actual boardId item.channel := by
  constructor
  · intro kept item mem
    obtain ⟨⟨low, high⟩, -⟩ := request.inRange item mem
    rw [← actualOf_pending prepared mem]
    exact kept item.channel low high
  · intro same channel low high
    obtain ⟨item, mem, rfl⟩ := exists_item request low high
    rw [actualOf_pending prepared mem]
    exact same item mem

/-- One call keeps the records honest and the stored values exactly under the condition. -/
theorem sound_step_iff (sound : Sound world) (call : Call) :
    Sound (call.made world).2 ∧ KeepsActual world call ↔ Supported world call := by
  cases call with
  | get boardId around refreshed => exact iff_of_true ⟨sound.get around boardId refreshed, trivial⟩ trivial
  | apply boardId around request =>
    change Sound (apply around boardId world request).2 ∧
      (∀ reason, (apply around boardId world request).1 = .error reason → ∀ channel, 1 ≤ channel → channel ≤ 8 →
        (apply around boardId world request).2.actual boardId channel = world.actual boardId channel) ↔ _
    have applied := apply_applied around boardId world request
    generalize apply around boardId world request = outcome at applied
    cases applied with
    | refused reason refused =>
      refine iff_of_true ⟨sound, fun _ _ _ _ _ => rfl⟩ fun pending prepared saving => ?_
      exact absurd saving (refused pending prepared)
    | landed pending result response prepared saving lands answered resulted =>
      obtain ⟨-, board, mask, status, channels⟩ := resultConfig_ok resulted
      have honest : Sound (((world.save pending).hear boardId response).save result) ↔
          Honest world.journal (.saved pending) := by
        constructor
        · exact fun sound => sound.warranted.2.2.1
        · intro honest
          have heard := (sound.save honest).hear boardId response
          have reported : ChannelsReported (world.save pending).journal boardId pending.channels :=
            ((pending_reported prepared).mpr ((honest_pending prepared).mp honest).1).later _
          exact heard.save (honest_result reported (board.trans (prepare_facts prepared).1) mask channels)
      rw [honest, honest_pending prepared]
      constructor
      · rintro ⟨supported, -⟩ other same _
        obtain rfl := Except.ok.inj (prepared.symm.trans same)
        exact ⟨supported.1, supported.2, fun fails => absurd lands fails⟩
      · intro supported
        obtain ⟨reported, within, -⟩ := supported pending prepared saving
        exact ⟨⟨reported, within⟩, nofun⟩
    | unsaved pending reason after prepared saving fails asked unsaved =>
      have honest : Sound after ↔ Honest world.journal (.saved pending) := by
        refine ⟨fun sound => ?_, fun honest => (sound.save honest).asked asked⟩
        cases asked with
        | unanswered => exact sound.warranted.1
        | answered => exact sound.warranted.2.1
      rw [honest, honest_pending prepared]
      constructor
      · rintro ⟨supported, keeps⟩ other same _
        obtain rfl := Except.ok.inj (prepared.symm.trans same)
        refine ⟨supported.1, supported.2, fun _ => ⟨(kept_iff prepared).mp fun channel low high => ?_,
          fun saved => absurd saved unsaved⟩⟩
        rw [← actual_asked prepared asked]
        exact keeps reason rfl channel low high
      · intro supported
        obtain ⟨reported, within, failing⟩ := supported pending prepared saving
        refine ⟨⟨reported, within⟩, fun _ _ channel low high => ?_⟩
        rw [actual_asked prepared asked]
        exact (kept_iff prepared).mpr (failing fails).1 channel low high
    | failed pending reason after prepared saving fails asked saved =>
      have honest : Sound (after.save (failedConfig pending reason)) ↔
          Honest world.journal (.saved pending) ∧ Honest after.journal (.saved (failedConfig pending reason)) := by
        constructor
        · rintro ⟨⟨last, warranted⟩, -⟩
          refine ⟨?_, last⟩
          cases asked with
          | unanswered => exact warranted.1
          | answered => exact warranted.2.1
        · exact fun ⟨honest, last⟩ => ((sound.save honest).asked asked).save last
      rw [honest]
      constructor
      · rintro ⟨⟨honest, last⟩, keeps⟩ other same _
        obtain rfl := Except.ok.inj (prepared.symm.trans same)
        obtain ⟨reported, within⟩ := (honest_pending prepared).mp honest
        refine ⟨reported, within, fun _ => ⟨(kept_iff prepared).mp fun channel low high => ?_, fun _ =>
          (honest_failed prepared honest asked reason).mp last⟩⟩
        rw [← actual_failed prepared after reason]
        exact keeps reason rfl channel low high
      · intro supported
        obtain ⟨reported, within, failing⟩ := supported pending prepared saving
        have honest := (honest_pending prepared).mpr ⟨reported, within⟩
        obtain ⟨same, covered⟩ := failing fails
        refine ⟨⟨honest, (honest_failed prepared honest asked reason).mpr (covered saved)⟩,
          fun _ _ channel low high => ?_⟩
        rw [actual_failed prepared]
        exact (kept_iff prepared).mpr same channel low high

/-! ## Histories of calls -/

theorem sound_fresh : Sound .fresh := ⟨trivial, nofun⟩

/-- Every record that is stored holds what its board has reported, and failed calls leave the actual
values, in exactly the histories in which the actual values of each request are the board's. -/
theorem records_reported_iff (calls : List Call) :
    service.Along (fun world call => Sound (service.step world call) ∧ KeepsActual world call) .fresh calls ↔
      service.Along Supported .fresh calls :=
  service.along_kept_and_iff (P := Sound) (fun _ call sound => sound_step_iff sound call) sound_fresh calls

/-- A client's request that tells an actual frequency itself. -/
def toldRequest : RfdcConfigApplyRequest where
  channels := (List.range' 1 8).map fun channel =>
    { channel := channel, actualNcoHz := if channel = 1 then some 1 else none }
  inRange := by
    rintro item mem
    obtain ⟨channel, inside, rfl⟩ := List.mem_map.mp mem
    rw [List.mem_range'_1] at inside
    unfold RfdcChannelConfig.InRange
    norm_num
    exact ⟨by omega, nofun⟩
  masked := by decide
  numbered := by decide
  coupled := by
    rintro item mem -
    obtain ⟨channel, -, rfl⟩ := List.mem_map.mp mem
    norm_num

/-- The board is ready, and then does not answer. -/
def silentBoard : Surroundings where
  profile := .ok ⟨"192.168.1.10", 1234, "eth0", "192.168.1.2"⟩
  status := .ok {
    online := true
    message := ""
    dacMtsRequired := true
    dacMtsReady := true
    dacMtsFailed := false
    dacMtsError := 0
    playbackArmed := false
    playbackPrepared := false
    playbackRunning := false }
  calibration _ _ := none
  reading := .error "timed out"
  answer _ := .error "timed out"

theorem told_value_stored :
    ¬ service.Along (fun world call => Sound (service.step world call) ∧ KeepsActual world call) .fresh
      [.apply "board-a" silentBoard toldRequest] := by
  rintro ⟨kept, -⟩
  have supported := (sound_step_iff sound_fresh _).mp kept
  obtain ⟨pending, prepared⟩ : ∃ pending, prepare silentBoard "board-a" .fresh toldRequest = .ok pending := ⟨_, rfl⟩
  obtain ⟨reported, -⟩ := supported pending prepared rfl
  rcases (reported _ List.mem_cons_self).actualNcoHz with unset | ⟨response, heard, -⟩
  · cases unset
  · cases heard

end Xczu47dr.Webapp
