import Mathlib.Tactic.Ring
import Mathlib.Tactic.SplitIfs
import Xczu47dr.Host.MaxLengthRecord

/-! # The chunks of a maximum-length record

The record is to be the same whatever the size of its chunks, and whether it
comes from a file or not. A chunk of the marker pattern repeats its first beat
as soon as its last one is in the same region; the body of the record has two
parts, though, with the middle marker between them.
-/

namespace Xczu47dr.Host

open Chunking

/-! ## What is asked of the chunks -/

/-- Each chunk is numbered by the beats before it. -/
def Numbered : Nat → List (Nat × List Byte) → Prop
  | _, [] => True
  | beat, chunk :: rest =>
      chunk.1 = beat ∧ chunk.2.length % ddrInterleavedBeatBytes = 0 ∧
        Numbered (beat + chunk.2.length / ddrInterleavedBeatBytes) rest

def joined (chunks : List (Nat × List Byte)) : List Byte := (chunks.map Prod.snd).flatten

namespace MaxLengthRecord

structure Legal (record : MaxLengthRecord) : Prop where
  aligned : record.bytesPerChannel % beatBytes = 0
  positive : 0 < record.bytesPerChannel
  fits : record.bytesPerChannel ≤ ddrMaxBytesPerChannel
  markerAligned : record.markerBytesPerChannel % beatBytes = 0
  markerPositive : 0 < record.markerBytesPerChannel

/-- The bytes are those of the beats one by one; those of the sine are the same for all chunk sizes. -/
def Whole (record : MaxLengthRecord) (sine : SineSamples) (bytes : List Byte) : Prop :=
  match record.pattern with
  | .cwMarker =>
      ∃ beats, (List.range record.totalBeats).mapM (fun beatIndex =>
        maxLengthInterleavedBeat beatIndex record.totalBeats record.markerBytesPerChannel) = .ok beats ∧
          bytes = beats.flatten
  | .lowfreqSine =>
      ∀ chunkBeats, 0 < chunkBeats → ∃ chunks, record.iterMaxLengthPayloadChunks sine chunkBeats = .ok chunks ∧
        bytes = joined chunks

structure Independent (record : MaxLengthRecord) (sine : SineSamples) (chunkBeats generationChunkBeats : Nat) :
    Prop where
  direct : ∃ chunks, record.iterMaxLengthPayloadChunks sine chunkBeats = .ok chunks ∧ Numbered 0 chunks ∧
    record.Whole sine (joined chunks)
  cached : ∀ before force readBeats, before = none ∨ force = true → 0 < readBeats →
    ∃ file chunks, record.ensureMaxLengthWaveformCache sine before force generationChunkBeats = .ok file ∧
      iterMaxLengthPayloadChunksFromCache file record.bytesPerChannel readBeats = .ok chunks ∧ Numbered 0 chunks ∧
        record.Whole sine (joined chunks)

def markerBeats (record : MaxLengthRecord) : Nat := record.markerBytesPerChannel / ddrInterleavedLaneBytes

def middleBeat (record : MaxLengthRecord) : Nat := (record.totalBeats - record.markerBeats) / 2

/-- The chunks that start in the body before the middle marker end before or in it. -/
def MiddleMet (record : MaxLengthRecord) (chunkBeats : Nat) : Prop :=
  ∀ k, record.markerBeats + k * chunkBeats < record.middleBeat →
    record.markerBeats + (k + 1) * chunkBeats ≤ record.middleBeat + record.markerBeats

/-! ## Regions -/

variable {record : MaxLengthRecord} {sine : SineSamples} {chunkBeats : Nat}

/-- A legal record in groups of four beats. -/
theorem Legal.groups (legal : record.Legal) :
    ∃ groups markers, 0 < groups ∧ 0 < markers ∧ record.bytesPerChannel = 32 * groups ∧
      record.markerBytesPerChannel = 32 * markers ∧ record.totalBeats = 4 * groups ∧
      record.markerBeats = 4 * markers ∧ record.middleBeat = 2 * (groups - markers) := by
  obtain ⟨aligned, positive, _, markerAligned, markerPositive⟩ := legal
  have beat : beatBytes = 32 := rfl
  have lane : ddrInterleavedLaneBytes = 8 := rfl
  have lanes : ddrInterleavedChannels = 8 := rfl
  have wide : ddrInterleavedBeatBytes = 64 := rfl
  rw [beat] at aligned markerAligned
  refine ⟨record.bytesPerChannel / 32, record.markerBytesPerChannel / 32, by omega, by omega, by omega, by omega, ?_,
    ?_, ?_⟩
  · rw [totalBeats, totalPhysicalBytes, lanes, wide]
    omega
  · rw [markerBeats, lane]
    omega
  · rw [middleBeat, markerBeats, totalBeats, totalPhysicalBytes, lane, lanes, wide]
    omega

theorem Legal.totalBytes (legal : record.Legal) :
    record.totalBeats * ddrInterleavedBeatBytes = record.totalPhysicalBytes := by
  obtain ⟨groups, _, _, _, bytes, _, beats, _, _⟩ := legal.groups
  have lanes : ddrInterleavedChannels = 8 := rfl
  have wide : ddrInterleavedBeatBytes = 64 := rfl
  rw [totalPhysicalBytes, beats, bytes, lanes, wide]
  omega

theorem Legal.region_eq (legal : record.Legal) (beatIndex : Nat) :
    record.region beatIndex =
      if beatIndex < record.markerBeats then .start
      else if record.middleBeat ≤ beatIndex ∧ beatIndex < record.middleBeat + record.markerBeats then .middle
      else if record.totalBeats - record.markerBeats ≤ beatIndex then .ending
      else .body := by
  obtain ⟨groups, markers, _, _, bytes, markerBytes, beats, marker, middle⟩ := legal.groups
  have lanes : ddrInterleavedChannels = 8 := rfl
  have wide : ddrInterleavedBeatBytes = 64 := rfl
  rw [region, maxLengthMarkerRegion, totalPhysicalBytes, bytes, markerBytes, beats, marker, middle, lanes, wide]
  refine if_congr (by omega) rfl (if_congr ?_ rfl (if_congr (by omega) rfl rfl))
  apply and_congr <;> omega

theorem Legal.region_iff (legal : record.Legal) (beatIndex : Nat) :
    (record.region beatIndex = .start ↔ beatIndex < record.markerBeats) ∧
      (record.region beatIndex = .middle ↔ record.markerBeats ≤ beatIndex ∧ record.middleBeat ≤ beatIndex ∧
        beatIndex < record.middleBeat + record.markerBeats) ∧
      (record.region beatIndex = .body ↔ record.markerBeats ≤ beatIndex ∧
        (beatIndex < record.middleBeat ∨ record.middleBeat + record.markerBeats ≤ beatIndex) ∧
        beatIndex < record.totalBeats - record.markerBeats) := by
  rw [legal.region_eq]
  split_ifs <;> simp only [true_iff, false_iff] <;> omega

/-! ## Where chunks start -/

/-- A chunk ends at the last beat within reach that is in the region of the first. -/
theorem shrunk_spec (region : Nat → MarkerRegion) (beatIndex : Nat) {count : Nat} (some_beats : 0 < count) :
    (0 < shrunk region beatIndex count ∧ shrunk region beatIndex count ≤ count) ∧
      region (beatIndex + shrunk region beatIndex count - 1) = region beatIndex ∧
      ∀ longer, shrunk region beatIndex count < longer → longer ≤ count →
        region (beatIndex + longer - 1) ≠ region beatIndex := by
  fun_induction shrunk region beatIndex count with
  | case1 => omega
  | case2 => exact ⟨⟨Nat.one_pos, Nat.le_refl 1⟩, rfl, fun longer _ _ => by omega⟩
  | case3 count same =>
      refine ⟨⟨by omega, Nat.le_refl _⟩, same, fun longer _ _ => by omega⟩
  | case4 count different ih =>
      obtain ⟨⟨positive, within⟩, last, beyond⟩ := ih (by omega)
      refine ⟨⟨positive, by omega⟩, last, fun longer after bound => ?_⟩
      by_cases full : longer = count + 2
      · rw [full]
        exact different
      · exact beyond longer after (by omega)

theorem advances (some_beats : 0 < chunkBeats) : Advances (record.chunkCount chunkBeats) record.totalBeats := by
  have within (beatIndex : Nat) (inside : beatIndex < record.totalBeats) :
      0 < record.chunkCount chunkBeats beatIndex ∧
        record.chunkCount chunkBeats beatIndex ≤ record.totalBeats - beatIndex := by
    unfold chunkCount
    cases record.pattern with
    | cwMarker =>
        dsimp only
        have spec := (shrunk_spec record.region beatIndex
          (show 0 < min chunkBeats (record.totalBeats - beatIndex) by omega)).1
        exact ⟨spec.1, by omega⟩
    | lowfreqSine =>
        dsimp only
        omega
  refine ⟨fun beatIndex inside => (within beatIndex inside).1, fun beatIndex inside => ?_⟩
  have bound := (within beatIndex inside).2
  omega

def Uniform (record : MaxLengthRecord) (chunkBeats : Nat) : Prop :=
  ∀ start, Reaches (record.chunkCount chunkBeats) record.totalBeats 0 start → start < record.totalBeats →
    ∀ beat, start ≤ beat → beat < start + record.chunkCount chunkBeats start → record.region beat = record.region start

/-- Before, in the body before the middle marker, or behind: where a chunk can start. -/
def Placed (record : MaxLengthRecord) (chunkBeats start : Nat) : Prop :=
  start < record.markerBeats ∨
    (∃ k, start = record.markerBeats + k * chunkBeats ∧ start < record.middleBeat) ∨
    (record.markerBeats ≤ start ∧ record.middleBeat ≤ start)

theorem placed_of_behind {start : Nat} (behind : record.markerBeats = start ∨ record.middleBeat ≤ start)
    (late : record.markerBeats ≤ start) : record.Placed chunkBeats start := by
  by_cases before : start < record.middleBeat
  · have here : record.markerBeats = start := by omega
    exact .inr (.inl ⟨0, by omega, before⟩)
  · exact .inr (.inr ⟨late, by omega⟩)

section Markers

variable (legal : record.Legal) (marker : record.pattern = .cwMarker) (some_beats : 0 < chunkBeats)

include marker some_beats

theorem chunkCount_spec {start : Nat} (inside : start < record.totalBeats) :
    (0 < record.chunkCount chunkBeats start ∧
        record.chunkCount chunkBeats start ≤ min chunkBeats (record.totalBeats - start)) ∧
      record.region (start + record.chunkCount chunkBeats start - 1) = record.region start ∧
      ∀ longer, record.chunkCount chunkBeats start < longer → longer ≤ min chunkBeats (record.totalBeats - start) →
        record.region (start + longer - 1) ≠ record.region start := by
  have count : record.chunkCount chunkBeats start =
      shrunk record.region start (min chunkBeats (record.totalBeats - start)) := by
    rw [chunkCount, marker]
  rw [count]
  exact shrunk_spec record.region start (by omega)

include legal

/-- A chunk of the start marker ends in it. -/
theorem start_next {start : Nat} (inside : start < record.totalBeats) (early : start < record.markerBeats) :
    start + record.chunkCount chunkBeats start ≤ record.markerBeats := by
  obtain ⟨⟨positive, _⟩, last, _⟩ := chunkCount_spec marker some_beats inside
  rw [(legal.region_iff start).1.mpr early] at last
  have bound := (legal.region_iff _).1.mp last
  omega

/-- In the body before the middle marker, a chunk is full if it does not come to the marker. -/
theorem body_full {start : Nat} (inside : start < record.totalBeats) (behind : record.markerBeats ≤ start)
    (before : start + chunkBeats ≤ record.middleBeat) : record.chunkCount chunkBeats start = chunkBeats := by
  obtain ⟨groups, markers, _, _, _, _, beats, size, middle⟩ := legal.groups
  obtain ⟨⟨_, within⟩, _, beyond⟩ := chunkCount_spec marker some_beats inside
  by_contra short
  have here : record.region start = .body := (legal.region_iff start).2.2.mpr (by omega)
  have last : record.region (start + chunkBeats - 1) = .body := (legal.region_iff _).2.2.mpr (by omega)
  exact beyond chunkBeats (by omega) (by omega) (last.trans here.symm)

/-- The loop comes to the end of the start marker. -/
theorem reaches_marker (longer : record.markerBeats < record.middleBeat) :
    Reaches (record.chunkCount chunkBeats) record.totalBeats 0 record.markerBeats := by
  obtain ⟨groups, markers, _, _, _, _, beats, size, middle⟩ := legal.groups
  -- induction on the beats left of the marker
  have onward (left start : Nat) (reached : Reaches (record.chunkCount chunkBeats) record.totalBeats 0 start)
      (rest : start + left = record.markerBeats) :
      Reaches (record.chunkCount chunkBeats) record.totalBeats 0 record.markerBeats := by
    induction left using Nat.strong_induction_on generalizing start with
    | h left ih =>
        by_cases there : left = 0
        · rw [there, Nat.add_zero] at rest
          rwa [← rest]
        · have inside : start < record.totalBeats := by omega
          have ends := start_next legal marker some_beats inside (by omega)
          have forward := (chunkCount_spec marker some_beats inside).1.1
          exact ih (record.markerBeats - (start + record.chunkCount chunkBeats start)) (by omega) _ (.next reached inside)
            (by omega)
  exact onward record.markerBeats 0 .here (Nat.zero_add _)

theorem reaches_body (k : Nat) (before : record.markerBeats + k * chunkBeats < record.middleBeat) :
    Reaches (record.chunkCount chunkBeats) record.totalBeats 0 (record.markerBeats + k * chunkBeats) := by
  obtain ⟨groups, markers, _, _, _, _, beats, size, middle⟩ := legal.groups
  induction k with
  | zero =>
      rw [Nat.zero_mul, Nat.add_zero] at before ⊢
      exact reaches_marker legal marker some_beats before
  | succ k ih =>
      rw [Nat.succ_mul, ← Nat.add_assoc] at before ⊢
      have reached := ih (by omega)
      have inside : record.markerBeats + k * chunkBeats < record.totalBeats := by omega
      have full := body_full legal marker some_beats inside (by omega) (Nat.le_of_lt before)
      have onward := Reaches.next reached inside
      rwa [full] at onward

theorem middleMet_of_uniform (uniform : record.Uniform chunkBeats) : record.MiddleMet chunkBeats := by
  obtain ⟨groups, markers, _, _, _, _, beats, size, middle⟩ := legal.groups
  intro k before
  by_contra beyond
  rw [Nat.succ_mul, ← Nat.add_assoc] at beyond
  have reached := reaches_body legal marker some_beats k before
  have behind : record.markerBeats ≤ record.markerBeats + k * chunkBeats := Nat.le_add_right _ _
  generalize record.markerBeats + k * chunkBeats = start at before beyond reached behind
  have inside : start < record.totalBeats := by omega
  have here : record.region start = .body := (legal.region_iff start).2.2.mpr (by omega)
  -- the beat behind the middle marker is in the body again
  have again : record.region (record.middleBeat + record.markerBeats) = .body :=
    (legal.region_iff _).2.2.mpr (by omega)
  have spec := (chunkCount_spec marker some_beats inside).2.2 (record.middleBeat + record.markerBeats + 1 - start)
  have covered : record.middleBeat + record.markerBeats + 1 - start ≤ record.chunkCount chunkBeats start := by
    by_contra short
    refine spec (by omega) (by omega) ?_
    rw [show start + (record.middleBeat + record.markerBeats + 1 - start) - 1 =
      record.middleBeat + record.markerBeats by omega, again, here]
  have same := uniform start reached inside record.middleBeat (by omega) (by omega)
  rw [here, (legal.region_iff record.middleBeat).2.1.mpr (by omega)] at same
  cases same

/-- One chunk: it is uniform, and the next one starts at such a place again. -/
theorem placed_next (met : record.MiddleMet chunkBeats) {start : Nat} (placed : record.Placed chunkBeats start)
    (inside : start < record.totalBeats) :
    record.Placed chunkBeats (start + record.chunkCount chunkBeats start) ∧
      ∀ beat, start ≤ beat → beat < start + record.chunkCount chunkBeats start →
        record.region beat = record.region start := by
  obtain ⟨groups, markers, _, _, _, _, beats, size, middle⟩ := legal.groups
  obtain ⟨⟨positive, within⟩, last, beyond⟩ := chunkCount_spec marker some_beats inside
  rcases placed with early | ⟨k, here, before⟩ | ⟨late, behind⟩
  · have ends := start_next legal marker some_beats inside early
    constructor
    · by_cases more : start + record.chunkCount chunkBeats start < record.markerBeats
      · exact .inl more
      · exact placed_of_behind (.inl (by omega)) (by omega)
    · intro beat _ bound
      rw [(legal.region_iff start).1.mpr early]
      exact (legal.region_iff beat).1.mpr (by omega)
  · have reach := met k (by omega)
    rw [Nat.succ_mul, ← Nat.add_assoc, ← here] at reach
    have first : record.markerBeats ≤ start := by omega
    have body : record.region start = .body := (legal.region_iff start).2.2.mpr (by omega)
    rw [body] at last
    have ended := (legal.region_iff _).2.2.mp last
    have short : start + record.chunkCount chunkBeats start ≤ record.middleBeat := by omega
    constructor
    · by_cases there : start + record.chunkCount chunkBeats start = record.middleBeat
      · exact .inr (.inr ⟨by omega, by omega⟩)
      · -- the next beat is in the body too, so the chunk was full
        have next : record.region (start + (record.chunkCount chunkBeats start + 1) - 1) = .body :=
          (legal.region_iff _).2.2.mpr (by omega)
        have full : record.chunkCount chunkBeats start = chunkBeats := by
          by_contra less
          exact beyond (record.chunkCount chunkBeats start + 1) (by omega) (by omega) (next.trans body.symm)
        refine .inr (.inl ⟨k + 1, ?_, by omega⟩)
        rw [full, here, Nat.succ_mul, Nat.add_assoc]
    · intro beat _ bound
      rw [body]
      exact (legal.region_iff beat).2.2.mpr (by omega)
  · refine ⟨placed_of_behind (.inr (by omega)) (by omega), fun beat above bound => ?_⟩
    -- from the middle marker on the regions follow each other
    have region_late (beat : Nat) (marked : record.markerBeats ≤ beat) : record.region beat =
        if record.middleBeat ≤ beat ∧ beat < record.middleBeat + record.markerBeats then .middle
        else if record.totalBeats - record.markerBeats ≤ beat then .ending
        else .body := by
      rw [legal.region_eq, if_neg (by omega)]
    rw [region_late _ (by omega), region_late start late] at last
    rw [region_late beat (by omega), region_late start late]
    split_ifs at last ⊢ <;> first | rfl | omega

theorem uniform_iff : record.Uniform chunkBeats ↔ record.MiddleMet chunkBeats := by
  obtain ⟨groups, markers, _, some_markers, _, _, _, size, _⟩ := legal.groups
  constructor
  · exact middleMet_of_uniform legal marker some_beats
  · intro met start reached inside
    have placed : record.Placed chunkBeats start := by
      induction reached with
      | here => exact .inl (by omega)
      | next before earlier ih =>
          exact (placed_next legal marker some_beats met (ih earlier) earlier).1
    exact (placed_next legal marker some_beats met placed inside).2

end Markers

/-! ## The bytes of a beat -/

def regionBeat (region : MarkerRegion) : List Byte :=
  channels.flatMap fun channel => markerLane (region.base + channel * 0x80)

theorem length_regionBeat (region : MarkerRegion) : (regionBeat region).length = ddrInterleavedBeatBytes := by
  cases region <;> decide

theorem regionBeat_injective {first second : MarkerRegion} (same : regionBeat first = regionBeat second) :
    first = second := by
  cases first <;> cases second <;> first | rfl | exact absurd same (by decide)

theorem mapM_ok {ε α β : Type} {places : List α} {f : α → Except ε β} {g : α → β}
    (returns : ∀ place ∈ places, f place = .ok (g place)) : places.mapM f = .ok (places.map g) := by
  induction places with
  | nil => rfl
  | cons place rest ih =>
      rw [List.mapM_cons, returns place List.mem_cons_self, ih fun later mem => returns later (List.mem_cons_of_mem place mem)]
      rfl

theorem Legal.interleavedBeat (legal : record.Legal) {beatIndex : Nat} (inside : beatIndex < record.totalBeats) :
    maxLengthInterleavedBeat beatIndex record.totalBeats record.markerBytesPerChannel =
      .ok (regionBeat (record.region beatIndex)) := by
  rw [maxLengthInterleavedBeat, if_neg (by omega), legal.totalBytes]
  change (channels.mapM (fun channel => do
    let amplitude ← maxLengthMarkerAmplitude channel (record.region beatIndex)
    return markerLane amplitude) >>= fun lanes => pure lanes.flatten) = _
  have lanes := @mapM_ok String Nat (List Byte) channels (fun channel => do
    let amplitude ← maxLengthMarkerAmplitude channel (record.region beatIndex)
    return markerLane amplitude) (fun channel => markerLane ((record.region beatIndex).base + channel * 0x80)) (by
      intro channel mem
      rw [channels, ddrInterleavedChannels, List.mem_range'_1] at mem
      have known : ¬ (channel < 1 ∨ ddrInterleavedChannels < channel) := by
        rw [ddrInterleavedChannels]
        omega
      rw [maxLengthMarkerAmplitude, if_neg known]
      rfl)
  rw [lanes]
  change Except.ok _ = Except.ok _
  rw [regionBeat, List.flatMap_def]

theorem length_sineBeat (sine : SineSamples) (beatIndex : Nat) :
    (sineBeat sine beatIndex).length = ddrInterleavedBeatBytes := by
  rfl

/-! ## The bytes of a chunk -/

def unit (record : MaxLengthRecord) (sine : SineSamples) (beatIndex : Nat) : List Byte :=
  match record.pattern with
  | .cwMarker => regionBeat (record.region beatIndex)
  | .lowfreqSine => sineBeat sine beatIndex

def chunkBytes (record : MaxLengthRecord) (sine : SineSamples) (beatIndex count : Nat) : List Byte :=
  match record.pattern with
  | .cwMarker => (List.replicate count (regionBeat (record.region beatIndex))).flatten
  | .lowfreqSine => piece (sineBeat sine) beatIndex count

theorem length_unit (beatIndex : Nat) : (record.unit sine beatIndex).length = ddrInterleavedBeatBytes := by
  unfold unit
  cases record.pattern with
  | cwMarker => exact length_regionBeat _
  | lowfreqSine => exact length_sineBeat sine beatIndex

theorem length_chunkBytes (beatIndex count : Nat) :
    (record.chunkBytes sine beatIndex count).length = ddrInterleavedBeatBytes * count := by
  unfold chunkBytes
  cases record.pattern with
  | cwMarker =>
      dsimp only
      rw [List.length_flatten, List.map_replicate, List.sum_replicate_nat, length_regionBeat, Nat.mul_comm]
  | lowfreqSine => exact length_piece (length_sineBeat sine) beatIndex count

def chunks (record : MaxLengthRecord) (sine : SineSamples) (chunkBeats : Nat) : List (Nat × List Byte) :=
  (walk (record.chunkCount chunkBeats) record.totalBeats record.totalBeats 0).map fun beatIndex =>
    (beatIndex, record.chunkBytes sine beatIndex (record.chunkCount chunkBeats beatIndex))

theorem Legal.aligned_ok (legal : record.Legal) :
    requireBeatAligned record.bytesPerChannel "bytes_per_channel" = .ok (record.bytesPerChannel : Int) := by
  have whole := legal.aligned
  rw [requireBeatAligned, if_neg]
  omega

theorem Legal.iter_ok (legal : record.Legal) (some_beats : 0 < chunkBeats) :
    record.iterMaxLengthPayloadChunks sine chunkBeats = .ok (record.chunks sine chunkBeats) := by
  have bounds : ¬ (record.bytesPerChannel = 0 ∨ ddrMaxBytesPerChannel < record.bytesPerChannel) := by
    have positive := legal.positive
    have fits := legal.fits
    omega
  have markers : ¬ (record.markerBytesPerChannel = 0 ∨ record.markerBytesPerChannel % beatBytes ≠ 0) := by
    have positive := legal.markerPositive
    have whole := legal.markerAligned
    omega
  rw [iterMaxLengthPayloadChunks, legal.aligned_ok]
  change (if _ then _ else _) = _
  rw [if_neg bounds]
  change (if _ then _ else _) = _
  rw [if_neg (by omega)]
  change (if _ then _ else _) = _
  rw [if_neg markers]
  apply mapM_ok
  intro beatIndex mem
  have inside := ((mem_walk (advances some_beats) (Nat.le_add_left _ _)).mp mem).2
  unfold chunkPayload chunkBytes
  cases record.pattern with
  | cwMarker =>
      dsimp only
      rw [legal.interleavedBeat inside]
      rfl
  | lowfreqSine => rfl

/-! ## All chunks together -/

def beatwise (record : MaxLengthRecord) (sine : SineSamples) : List Byte := piece (record.unit sine) 0 record.totalBeats

theorem length_beatwise (legal : record.Legal) :
    (record.beatwise sine).length = record.bytesPerChannel * ddrInterleavedChannels := by
  rw [beatwise, length_piece (fun beatIndex => length_unit beatIndex), Nat.mul_comm, legal.totalBytes,
    totalPhysicalBytes]

theorem joined_chunks : joined (record.chunks sine chunkBeats) =
    (walk (record.chunkCount chunkBeats) record.totalBeats record.totalBeats 0).flatMap fun beatIndex =>
      record.chunkBytes sine beatIndex (record.chunkCount chunkBeats beatIndex) := by
  rw [joined, chunks, List.map_map, List.flatMap_def]
  rfl

theorem joined_eq_beatwise (some_beats : 0 < chunkBeats) :
    joined (record.chunks sine chunkBeats) = record.beatwise sine ↔
      (record.pattern = .cwMarker → record.Uniform chunkBeats) := by
  have whole := @walk_piece _ (record.chunkCount chunkBeats) record.totalBeats (advances some_beats) (record.unit sine)
    record.totalBeats 0 (Nat.le_add_left _ _) (Nat.zero_le _)
  have same (place : Nat) : (record.chunkBytes sine place (record.chunkCount chunkBeats place)).length =
      (piece (record.unit sine) place (record.chunkCount chunkBeats place)).length := by
    rw [length_chunkBytes, length_piece fun beatIndex => length_unit beatIndex]
  rw [Nat.sub_zero] at whole
  rw [joined_chunks, beatwise, ← whole, flatMap_eq_iff fun place _ => same place]
  cases pattern : record.pattern with
  | lowfreqSine =>
      refine iff_of_true (fun place _ => ?_) nofun
      have unit_eq : record.unit sine = sineBeat sine := funext fun beatIndex => by rw [unit, pattern]
      rw [chunkBytes, pattern, unit_eq]
  | cwMarker =>
      have unit_eq : record.unit sine = fun beatIndex => regionBeat (record.region beatIndex) :=
        funext fun beatIndex => by rw [unit, pattern]
      have pieces (place : Nat) :
          record.chunkBytes sine place (record.chunkCount chunkBeats place) =
              piece (record.unit sine) place (record.chunkCount chunkBeats place) ↔
            ∀ beat, place ≤ beat → beat < place + record.chunkCount chunkBeats place →
              record.region beat = record.region place := by
        rw [chunkBytes, pattern, unit_eq]
        have even (beat : Nat) : (regionBeat (record.region beat)).length = ddrInterleavedBeatBytes :=
          length_regionBeat _
        refine (flatten_replicate_eq_piece even _ _ _).trans (forall₃_congr fun beat _ _ => ?_)
        exact ⟨fun bytes => (regionBeat_injective bytes).symm, fun region => by rw [region]⟩
      rw [imp_iff_right rfl]
      constructor
      · intro uniform start reached inside
        exact (pieces start).mp
          (uniform start ((mem_walk (advances some_beats) (Nat.le_add_left _ _)).mpr ⟨reached, inside⟩))
      · intro uniform start mem
        obtain ⟨reached, inside⟩ := (mem_walk (advances some_beats) (Nat.le_add_left _ _)).mp mem
        exact (pieces start).mpr (uniform start reached inside)

theorem numbered_chunks : Numbered 0 (record.chunks sine chunkBeats) := by
  have wide : 0 < ddrInterleavedBeatBytes := by decide
  -- induction on the fuel of the loop, from any start
  have from_start (fuel start : Nat) :
      Numbered start ((walk (record.chunkCount chunkBeats) record.totalBeats fuel start).map fun beatIndex =>
        (beatIndex, record.chunkBytes sine beatIndex (record.chunkCount chunkBeats beatIndex))) := by
    induction fuel generalizing start with
    | zero => trivial
    | succ fuel ih =>
        rw [walk]
        by_cases inside : start < record.totalBeats
        · rw [if_pos inside, List.map_cons]
          refine ⟨rfl, ?_, ?_⟩
          · rw [length_chunkBytes, Nat.mul_mod_right]
          · rw [length_chunkBytes, Nat.mul_div_cancel_left _ wide]
            exact ih _
        · rw [if_neg inside]
          trivial
  exact from_start record.totalBeats 0

theorem length_joined (legal : record.Legal) (some_beats : 0 < chunkBeats) :
    (joined (record.chunks sine chunkBeats)).length = record.bytesPerChannel * ddrInterleavedChannels := by
  have whole := @walk_piece _ (record.chunkCount chunkBeats) record.totalBeats (advances some_beats) (record.unit sine)
    record.totalBeats 0 (Nat.le_add_left _ _) (Nat.zero_le _)
  rw [Nat.sub_zero, ← beatwise] at whole
  rw [← @length_beatwise record sine legal, ← whole, joined_chunks, List.length_flatMap, List.length_flatMap]
  congr 1
  apply List.map_congr_left
  intro place _
  rw [length_chunkBytes, length_piece fun beatIndex => length_unit beatIndex]

theorem Legal.whole_iff (legal : record.Legal) {bytes : List Byte} :
    record.Whole sine bytes ↔ bytes = record.beatwise sine := by
  unfold Whole
  cases pattern : record.pattern with
  | cwMarker =>
      have beats : (List.range record.totalBeats).mapM (fun beatIndex =>
          maxLengthInterleavedBeat beatIndex record.totalBeats record.markerBytesPerChannel) =
            .ok ((List.range record.totalBeats).map (record.unit sine)) := by
        apply mapM_ok
        intro beatIndex mem
        rw [legal.interleavedBeat (List.mem_range.mp mem), unit, pattern]
      have listed : record.beatwise sine = ((List.range record.totalBeats).map (record.unit sine)).flatten := by
        rw [beatwise, piece, List.flatMap_def, List.range_eq_range']
      rw [listed]
      constructor
      · rintro ⟨found, computed, rfl⟩
        rw [beats] at computed
        rw [Except.ok.inj computed]
      · intro same
        exact ⟨_, beats, same⟩
  | lowfreqSine =>
      have all (chunkBeats : Nat) (some_beats : 0 < chunkBeats) :
          joined (record.chunks sine chunkBeats) = record.beatwise sine := by
        rw [joined_eq_beatwise some_beats, pattern]
        rintro ⟨⟩
      constructor
      · intro same
        obtain ⟨chunks, computed, rfl⟩ := same 1 Nat.one_pos
        rw [legal.iter_ok Nat.one_pos] at computed
        rw [← Except.ok.inj computed, all 1 Nat.one_pos]
      · rintro rfl chunkBeats some_beats
        exact ⟨_, legal.iter_ok some_beats, (all chunkBeats some_beats).symm⟩

end MaxLengthRecord

/-! ## The file -/

/-- Whole beats are read back as they are in the file. -/
theorem readCache_ok {readBeats expectedSize : Nat} (some_beats : 0 < readBeats) (beats : Nat) {left : List Byte}
    (size : left.length = ddrInterleavedBeatBytes * beats) (beatIndex : Nat) {readBytes : Nat}
    (rest : readBytes + left.length = expectedSize) :
    ∃ chunks, readCache (readBeats * ddrInterleavedBeatBytes) expectedSize beatIndex readBytes left = .ok chunks ∧
      joined chunks = left ∧ Numbered beatIndex chunks := by
  have wide : ddrInterleavedBeatBytes = 64 := rfl
  induction beats using Nat.strong_induction_on generalizing left beatIndex readBytes with
  | h beats ih =>
      unfold readCache
      have taken : (left.take (min (readBeats * ddrInterleavedBeatBytes) (expectedSize - readBytes))).length =
          ddrInterleavedBeatBytes * min readBeats beats := by
        rw [List.length_take, ← rest, size, wide]
        omega
      by_cases ended : beats = 0
      · rw [ended, Nat.min_zero, Nat.mul_zero] at taken
        rw [ended, Nat.mul_zero, List.length_eq_zero_iff] at size
        subst size
        refine ⟨[], ?_, rfl, trivial⟩
        dsimp only
        rw [dif_pos taken, if_neg (by rw [← rest]; exact not_not_intro rfl)]
      · have progress : 0 < min readBeats beats := by omega
        have behind : (left.drop (ddrInterleavedBeatBytes * min readBeats beats)).length =
            ddrInterleavedBeatBytes * (beats - min readBeats beats) := by
          rw [List.length_drop, size, wide]
          omega
        have onward : readBytes + ddrInterleavedBeatBytes * min readBeats beats +
            (left.drop (ddrInterleavedBeatBytes * min readBeats beats)).length = expectedSize := by
          rw [behind, ← rest, size, wide]
          omega
        obtain ⟨later, computed, bytes, numbered⟩ := ih (beats - min readBeats beats) (by omega) behind
          (beatIndex + min readBeats beats) onward
        refine ⟨(beatIndex, left.take (min (readBeats * ddrInterleavedBeatBytes) (expectedSize - readBytes))) :: later,
          ?_, ?_, rfl, ?_, ?_⟩
        · dsimp only
          rw [taken, dif_neg (by rw [wide]; omega), Nat.mul_mod_right, if_neg (not_not_intro rfl),
            Nat.mul_div_cancel_left _ (by decide), computed]
          rfl
        · have same : min (readBeats * ddrInterleavedBeatBytes) (expectedSize - readBytes) =
              ddrInterleavedBeatBytes * min readBeats beats := by
            rw [← rest, size, wide]
            omega
          change _ ++ joined later = left
          rw [bytes, same, List.take_append_drop]
        · rw [taken, Nat.mul_mod_right]
        · rw [taken, Nat.mul_div_cancel_left _ (by decide)]
          exact numbered

namespace MaxLengthRecord

variable {record : MaxLengthRecord} {sine : SineSamples} {chunkBeats : Nat}

theorem Legal.cache_ok (legal : record.Legal) {readBeats : Nat} (some_beats : 0 < readBeats) {file : List Byte}
    (size : file.length = record.bytesPerChannel * ddrInterleavedChannels) :
    ∃ chunks, iterMaxLengthPayloadChunksFromCache file record.bytesPerChannel readBeats = .ok chunks ∧
      joined chunks = file ∧ Numbered 0 chunks := by
  have bounds : ¬ (record.bytesPerChannel = 0 ∨ ddrMaxBytesPerChannel < record.bytesPerChannel) := by
    have positive := legal.positive
    have fits := legal.fits
    omega
  have beats : file.length = ddrInterleavedBeatBytes * record.totalBeats := by
    rw [size, Nat.mul_comm ddrInterleavedBeatBytes, legal.totalBytes, totalPhysicalBytes]
  obtain ⟨chunks, read, bytes, numbered⟩ := readCache_ok some_beats record.totalBeats beats 0 (Nat.zero_add _)
  refine ⟨chunks, ?_, bytes, numbered⟩
  rw [iterMaxLengthPayloadChunksFromCache, legal.aligned_ok]
  change (if _ then _ else _) = _
  rw [if_neg bounds]
  change (if _ then _ else _) = _
  rw [if_neg (by omega)]
  change (if _ then _ else _) = _
  rw [if_neg (not_not_intro size), ← size]
  exact read

/-- A call that makes the file writes the joined chunks. -/
theorem Legal.ensure_ok (legal : record.Legal) (some_beats : 0 < chunkBeats) {before : Option (List Byte)} {force : Bool}
    (makes : before = none ∨ force = true) :
    record.ensureMaxLengthWaveformCache sine before force chunkBeats = .ok (joined (record.chunks sine chunkBeats)) := by
  have fresh : ¬ (before.map List.length = some (record.bytesPerChannel * ddrInterleavedChannels) ∧ force = false) := by
    rintro ⟨kept, unforced⟩
    rcases makes with rfl | forced
    · cases kept
    · rw [forced] at unforced
      cases unforced
  rw [ensureMaxLengthWaveformCache, legal.aligned_ok]
  change (if _ then _ else _) = _
  rw [if_neg fresh, legal.iter_ok some_beats]
  have written : ((record.chunks sine chunkBeats).map Prod.snd).flatten.length =
      record.bytesPerChannel * ddrInterleavedChannels := length_joined legal some_beats
  change (if _ then _ else _) = _
  rw [if_neg (not_not_intro written)]
  rfl

theorem Legal.whole_chunks (legal : record.Legal) (some_beats : 0 < chunkBeats) :
    record.Whole sine (joined (record.chunks sine chunkBeats)) ↔
      (record.pattern = .cwMarker → record.MiddleMet chunkBeats) := by
  rw [legal.whole_iff, joined_eq_beatwise some_beats]
  exact forall_congr' fun marker => uniform_iff legal marker some_beats

theorem Independent.middleMet {generationChunkBeats : Nat} (legal : record.Legal) (some_beats : 0 < chunkBeats)
    (independent : record.Independent sine chunkBeats generationChunkBeats) (marker : record.pattern = .cwMarker) :
    record.MiddleMet chunkBeats := by
  obtain ⟨chunks, computed, _, whole⟩ := independent.direct
  rw [legal.iter_ok some_beats] at computed
  obtain rfl := Except.ok.inj computed
  exact (legal.whole_chunks some_beats).mp whole marker

/-- The record is the same for all chunk sizes, from a file or not, exactly when the chunks of
the marker pattern meet the middle marker. -/
theorem independent_iff (record : MaxLengthRecord) (sine : SineSamples) (chunkBeats generationChunkBeats : Nat)
    (legal : record.Legal) (some_beats : 0 < chunkBeats) (generated : 0 < generationChunkBeats) :
    record.Independent sine chunkBeats generationChunkBeats ↔
      (record.pattern = .cwMarker → record.MiddleMet chunkBeats ∧ record.MiddleMet generationChunkBeats) := by
  constructor
  · intro independent marker
    refine ⟨independent.middleMet legal some_beats marker, ?_⟩
    obtain ⟨file, read, made, readBack, _, wholeFile⟩ := independent.cached none true 1 (.inl rfl) Nat.one_pos
    rw [legal.ensure_ok generated (.inl rfl)] at made
    obtain rfl := Except.ok.inj made
    obtain ⟨again, computed, bytes, _⟩ := legal.cache_ok Nat.one_pos (length_joined legal generated)
    rw [readBack] at computed
    obtain rfl := Except.ok.inj computed
    rw [bytes] at wholeFile
    exact (legal.whole_chunks generated).mp wholeFile marker
  · intro middle
    refine ⟨⟨_, legal.iter_ok some_beats, numbered_chunks, ?_⟩, fun before force readBeats makes positive => ?_⟩
    · exact (legal.whole_chunks some_beats).mpr fun marker => (middle marker).1
    · obtain ⟨chunks, read, bytes, numbered⟩ := legal.cache_ok positive (length_joined legal generated)
      refine ⟨_, chunks, legal.ensure_ok generated makes, read, numbered, ?_⟩
      rw [bytes]
      exact (legal.whole_chunks generated).mpr fun marker => (middle marker).2

/-- A record of 65536 bytes a channel with the markers that `host.py` takes by default. -/
def defaultMarkers : MaxLengthRecord := ⟨65536, 4096, .cwMarker⟩

theorem defaultMarkers_legal : defaultMarkers.Legal := ⟨by decide, by decide, by decide, by decide, by decide⟩

/-- In chunks of 8192 beats, the default too, its middle marker is lost. -/
theorem middle_lost : defaultMarkers.Legal ∧ ¬ defaultMarkers.Independent (fun _ _ => (0, 0)) 8192 8192 := by
  refine ⟨defaultMarkers_legal, fun independent => ?_⟩
  have met := independent.middleMet defaultMarkers_legal (by decide) rfl 0 (by decide)
  exact absurd met (by decide)

/-- In chunks of one marker it is there. -/
theorem marker_sized_independent : defaultMarkers.Independent (fun _ _ => (0, 0)) 512 512 := by
  have met : defaultMarkers.MiddleMet 512 := by
    have size : defaultMarkers.markerBeats = 512 := by decide
    intro k before
    rw [size] at before ⊢
    omega
  exact (independent_iff defaultMarkers _ 512 512 defaultMarkers_legal (by decide) (by decide)).mpr fun _ => ⟨met, met⟩

end MaxLengthRecord

end Xczu47dr.Host
