import HueEntertainment.EngineSlots
import HueEntertainment.FrameCodec
import HueEntertainment.HueApi

/-! The numbers that name a light: in the REST resources, in a PUT and in the frames of both protocol
versions. Both kinds of frames are looked up in one table, which `async_setup_entry` numbers from one,
so the channel ids of v2, which count from zero, name the light before theirs. -/

namespace HueEntertainment.Addressing
open HueStream LightCommand PyValue Entertainment EngineSteps EngineFrames EngineMoves EngineSlots FrameCodec
  HueApi Runs

/-- The mappings that `async_setup_entry` builds. -/
def buildMappings (lightEntities : List String) : List LightMapping :=
  lightEntities.mapIdx (fun i entityId => { channelId := i + 1, entityId := entityId })

/-- The engine of an entry, at any time after its setup. -/
def EntryEngine (lightEntities : List String) (s : Engine) : Prop :=
  ∃ states now events, Run machine Always (Engine.new (buildMappings lightEntities) states now) events s

theorem mem_channels {lightEntities : List String} {states : String → Option LightState} {now : ℚ}
    {channelId : ChannelId} :
    channelId ∈ (Engine.new (buildMappings lightEntities) states now).channels ↔
      1 ≤ channelId ∧ channelId ≤ lightEntities.length := by
  unfold Engine.new buildMappings
  simp only [List.mem_eraseDups, List.mem_map, List.mem_mapIdx]
  constructor
  · rintro ⟨mapping, ⟨i, inside, rfl⟩, rfl⟩
    exact ⟨Nat.succ_pos i, inside⟩
  · rintro ⟨positive, inside⟩
    have within : channelId - 1 < lightEntities.length :=
      Nat.lt_of_lt_of_le (Nat.sub_lt positive Nat.one_pos) inside
    exact ⟨_, ⟨channelId - 1, within, rfl⟩, Nat.sub_add_cancel positive⟩

theorem new_entityId {lightEntities : List String} {states : String → Option LightState} {now : ℚ} {i : Nat}
    {entityId : String} (entity : lightEntities[i]? = some entityId) :
    ((Engine.new (buildMappings lightEntities) states now).mapping (i + 1)).entityId = entityId := by
  obtain ⟨inside, rfl⟩ := List.getElem?_eq_some_iff.mp entity
  have member : ({ channelId := i + 1, entityId := lightEntities[i] } : LightMapping) ∈
      (buildMappings lightEntities).reverse := by
    rw [List.mem_reverse]
    exact List.mem_mapIdx.mpr ⟨i, inside, rfl⟩
  unfold Engine.new
  simp only []
  cases found : (buildMappings lightEntities).reverse.find? (fun mapping => mapping.channelId == i + 1) with
  | none =>
    have absent := List.find?_eq_none.mp found _ member
    simp at absent
  | some mapping =>
    have same : mapping.channelId = i + 1 := by simpa using List.find?_some found
    obtain ⟨j, _, rfl⟩ := List.mem_mapIdx.mp (List.mem_reverse.mp (List.mem_of_find?_eq_some found))
    have here : j = i := Nat.succ.inj same
    subst here
    rfl

theorem entityId_step {s t : Engine} {event : Event} (move : Move s event t) (channelId : ChannelId) :
    (t.mapping channelId).entityId = (s.mapping channelId).entityId := by
  rcases slot_step move channelId with ⟨data, rfl, rfl⟩ | slot
  · apply handleFrame_induct (motive := fun x => (x.mapping channelId).entityId = (s.mapping channelId).entityId)
    · rfl
    · rfl
    · intro x channel colorSpace _ _ same
      rcases scheduleUpdate_cases x channel colorSpace with ⟨_, kept⟩ | ⟨_, _, kept⟩ | ⟨_, _, wrote⟩
      · rw [kept]
        exact same
      · rw [kept]
        exact same
      · rw [wrote, scheduled_mapping]
        by_cases here : channelId = channel.channelId
        · subst channelId
          rw [Function.update_self]
          exact same
        · rw [Function.update_of_ne here]
          exact same
  · generalize t.mapping channelId = mapping at slot
    cases slot with
    | kept => rfl
    | flushed => rfl
    | queued _ _ => rfl
    | taken _ taken => exact taken.entityId

theorem EntryEngine.channels {lightEntities : List String} {s : Engine} (entry : EntryEngine lightEntities s)
    (channelId : ChannelId) : channelId ∈ s.channels ↔ 1 ≤ channelId ∧ channelId ≤ lightEntities.length := by
  obtain ⟨states, now, events, run⟩ := entry
  refine run.invariant (fun x => channelId ∈ x.channels ↔ 1 ≤ channelId ∧ channelId ≤ lightEntities.length) ?_
    mem_channels
  intro x event y held _ step
  rw [channels_step (step_move step)]
  exact held

/-- The slot of an entity is the one under its number, which counts from one. -/
theorem EntryEngine.entityId {lightEntities : List String} {s : Engine} (entry : EntryEngine lightEntities s) {i : Nat}
    {entityId : String} (entity : lightEntities[i]? = some entityId) : (s.mapping (i + 1)).entityId = entityId := by
  obtain ⟨states, now, events, run⟩ := entry
  refine run.invariant (fun x => (x.mapping (i + 1)).entityId = entityId) ?_ (new_entityId entity)
  intro x event y held _ step
  rw [entityId_step (step_move step)]
  exact held

/-- The entity that a channel id of a protocol version names: ids of v1 count from one, of v2 from zero. -/
def addressed (version : Version) (count channelId : Nat) : Option Nat :=
  match version with
  | .v1 => if 1 ≤ channelId ∧ channelId ≤ count then some (channelId - 1) else none
  | .v2 => if channelId < count then some channelId else none

/-- The slots after a channel that writes the slot of the entity it names, unless it is within tolerance. -/
def drive (version : Version) (count colorSpace : Nat) (mapping : ChannelId → LightMapping) (channel : ChannelColor) :
    ChannelId → LightMapping :=
  match addressed version count channel.channelId with
  | none => mapping
  | some i =>
      if (mapping (i + 1)).withinTolerance channel colorSpace then mapping
      else Function.update mapping (i + 1) ((mapping (i + 1)).schedule channel colorSpace)

/-- Every channel of a frame of the version writes the slot of the entity it names, and no other. -/
def FramesName (lightEntities : List String) (version : Version) : Prop :=
  ∀ s, EntryEngine lightEntities s → s.suppressed = false → ∀ data frame,
    parseHuestreamFrame data = .ok (some frame) → frame.apiVersion = version.number.toNat →
    (s.handleFrame data).mapping =
      frame.channels.foldl (drive version lightEntities.length frame.colorSpace) s.mapping

/-- The resource, the group's list and the group's locations have each entity under its number. -/
def ResourcesName (uuid5Hex : String → String) (lightEntities : List String) : Prop :=
  ∀ i entityId id, lightEntities[i]? = some entityId → strOf (i + 1) = .ok id →
    (∀ paired username response, paired username = true →
      handleV1LightById uuid5Hex paired lightEntities username id = .ok response →
      response.status = 200 ∧ response.body = v1Light uuid5Hex entityId) ∧
    ∀ active owner groups, buildV1Groups lightEntities active owner = .ok groups →
      ∃ lightIds locations, groups = [("1", v1Group lightIds locations active owner)] ∧
        lightIds[i]? = some id ∧ locations.lookup id = some (locationOf lightEntities.length (i + 1))

/-- A PUT under the number of an entity writes its slot, and no other. -/
def PutsName (lightEntities : List String) : Prop :=
  ∀ s, EntryEngine lightEntities s → s.suppressed = false → ∀ i entityId id, lightEntities[i]? = some entityId →
    strOf (i + 1) = .ok id → ∀ paired username body slot, paired username = true →
      (s.mapping (i + 1)).commandSlot (i + 1) body = .ok (some slot) →
      (s.mapping (i + 1)).entityId = entityId ∧
      (handleV1LightState paired s username id (some body)).1.mapping =
        Function.update s.mapping (i + 1) ((s.mapping (i + 1)).queue slot)

/-- A v1 and a v2 frame of one picture drive the same slots. -/
def SamePicture (lightEntities : List String) : Prop :=
  ∀ s, EntryEngine lightEntities s → s.suppressed = false → ∀ first second v1 v2,
    parseHuestreamFrame first = .ok (some v1) → parseHuestreamFrame second = .ok (some v2) →
    v1.apiVersion = Version.v1.number.toNat → v2.apiVersion = Version.v2.number.toNat →
    v1.colorSpace = v2.colorSpace → List.Forall₂ (fun left right => left = ⟨right.channelId + 1, right.r, right.g, right.b⟩)
      v1.channels v2.channels →
    (∀ channel ∈ v2.channels, channel.channelId < lightEntities.length) →
    (s.handleFrame first).mapping = (s.handleFrame second).mapping

/-- Values under the numbers from one on, as `str` writes them. -/
inductive NumberedFrom : Nat → List Json → List (String × Json) → Prop where
  | nil (number : Nat) : NumberedFrom number [] []
  | cons {number : Nat} {id : String} {value : Json} {values : List Json} {entries : List (String × Json)}
      (written : strOf number = .ok id) (later : NumberedFrom (number + 1) values entries) :
      NumberedFrom number (value :: values) ((id, value) :: entries)

theorem NumberedFrom.lookup {number : Nat} {values : List Json} {entries : List (String × Json)}
    (numbered : NumberedFrom number values entries) {i : Nat} {value : Json} {id : String}
    (found : values[i]? = some value) (written : strOf (number + i) = .ok id) : entries.lookup id = some value := by
  induction numbered generalizing i with
  | nil _ => cases found
  | @cons number other first values entries written' _ ih =>
    cases i with
    | zero =>
      have same : id = other := Except.ok.inj (written.symm.trans written')
      rw [List.getElem?_cons_zero, Option.some.injEq] at found
      rw [same, found, List.lookup_cons_self]
    | succ i =>
      have different : (id == other) = false := by
        rw [beq_eq_false_iff_ne]
        rintro rfl
        have equal := strOf_inj written written'
        omega
      rw [List.lookup_cons, different]
      apply ih found
      rw [← written]
      congr 1
      omega

theorem v1LightsFrom_numbered {uuid5Hex : String → String} {number : Nat} {lightEntities : List String}
    {lights : List (String × Json)} (built : v1LightsFrom uuid5Hex number lightEntities = .ok lights) :
    NumberedFrom number (lightEntities.map (v1Light uuid5Hex)) lights := by
  induction lightEntities generalizing number lights with
  | nil =>
    cases built
    exact .nil number
  | cons entityId rest ih =>
    unfold v1LightsFrom at built
    cases written : strOf number with
    | error error => simp [written, bind, Except.bind] at built
    | ok id =>
      cases later : v1LightsFrom uuid5Hex (number + 1) rest with
      | error error => simp [written, later, bind, Except.bind] at built
      | ok entries =>
        simp only [written, later, bind, Except.bind, pure, Except.pure, Except.ok.injEq] at built
        rw [← built]
        exact .cons written (ih later)

theorem locationsFrom_numbered {total number count : Nat} {locations : List (String × Json)}
    (built : locationsFrom total number count = .ok locations) :
    NumberedFrom number ((List.range' number count).map (locationOf total)) locations := by
  induction count generalizing number locations with
  | zero =>
    cases built
    exact .nil number
  | succ count ih =>
    unfold locationsFrom at built
    cases written : strOf number with
    | error error => simp [written, bind, Except.bind] at built
    | ok id =>
      cases later : locationsFrom total (number + 1) count with
      | error error => simp [written, later, bind, Except.bind] at built
      | ok entries =>
        simp only [written, later, bind, Except.bind, pure, Except.pure, Except.ok.injEq] at built
        rw [← built]
        exact .cons written (ih later)

theorem lightIdsFrom_getElem {number count : Nat} {lightIds : List String}
    (built : lightIdsFrom number count = .ok lightIds) {i : Nat} (inside : i < count) {id : String}
    (written : strOf (number + i) = .ok id) : lightIds[i]? = some id := by
  induction count generalizing number lightIds i with
  | zero => exact absurd inside (Nat.not_lt_zero i)
  | succ count ih =>
    unfold lightIdsFrom at built
    cases first : strOf number with
    | error error => simp [first, bind, Except.bind] at built
    | ok other =>
      cases later : lightIdsFrom (number + 1) count with
      | error error => simp [first, later, bind, Except.bind] at built
      | ok rest =>
        simp only [first, later, bind, Except.bind, pure, Except.pure, Except.ok.injEq] at built
        rw [← built]
        cases i with
        | zero => exact congrArg some (Except.ok.inj (first.symm.trans written))
        | succ i =>
          refine ih later (Nat.lt_of_succ_lt_succ inside) ?_
          rw [← written]
          congr 1
          omega

theorem resources_name (uuid5Hex : String → String) (lightEntities : List String) :
    ResourcesName uuid5Hex lightEntities := by
  intro i entityId id entity written
  obtain ⟨inside, _⟩ := List.getElem?_eq_some_iff.mp entity
  have written : strOf (1 + i) = .ok id := (Nat.add_comm 1 i) ▸ written
  constructor
  · intro paired username response known answered
    unfold handleV1LightById at answered
    rw [if_pos known] at answered
    cases built : buildV1Lights uuid5Hex lightEntities with
    | error error => simp [built, bind, Except.bind] at answered
    | ok lights =>
      have value : (lightEntities.map (v1Light uuid5Hex))[i]? = some (v1Light uuid5Hex entityId) := by
        rw [List.getElem?_map, entity]
        rfl
      have found := (v1LightsFrom_numbered built).lookup value written
      simp only [built, found, bind, Except.bind, pure, Except.pure, Except.ok.injEq] at answered
      rw [← answered]
      exact ⟨rfl, rfl⟩
  · intro active owner groups built
    have nonempty : lightEntities ≠ [] := List.ne_nil_of_length_pos (Nat.zero_lt_of_lt inside)
    unfold buildV1Groups at built
    rw [if_neg nonempty] at built
    cases ids : lightIdsFrom 1 lightEntities.length with
    | error error => simp [ids, bind, Except.bind] at built
    | ok lightIds =>
      cases places : locationsFrom lightEntities.length 1 lightEntities.length with
      | error error => simp [ids, places, bind, Except.bind] at built
      | ok locations =>
        simp only [ids, places, bind, Except.bind, pure, Except.pure, Except.ok.injEq] at built
        refine ⟨lightIds, locations, built.symm, lightIdsFrom_getElem ids inside written, ?_⟩
        have value : ((List.range' 1 lightEntities.length).map (locationOf lightEntities.length))[i]? =
            some (locationOf lightEntities.length (i + 1)) := by
          rw [List.getElem?_map, List.getElem?_range' inside, Option.map_some, Nat.one_mul, Nat.add_comm]
        exact (locationsFrom_numbered places).lookup value written

theorem ensureDrainTask_mapping (s : Engine) : s.ensureDrainTask.mapping = s.mapping := by
  rcases ensureDrainTask_cases s with ⟨_, same⟩ | ⟨_, entries, _, same⟩
  · rw [same]
  · rw [same]
    rfl

theorem puts_name (lightEntities : List String) : PutsName lightEntities := by
  intro s entry free i entityId id entity written paired username body slot known translated
  obtain ⟨inside, _⟩ := List.getElem?_eq_some_iff.mp entity
  have mapped : i + 1 ∈ s.channels := (entry.channels (i + 1)).mpr ⟨Nat.succ_pos i, inside⟩
  refine ⟨entry.entityId entity, ?_⟩
  have quiet : commandError s (i + 1) body = none := by
    unfold commandError Engine.mappingOf
    rw [free, if_pos mapped]
    simp [translated]
  have number : ((i + 1 : Nat) : ℤ).toNat = i + 1 := Int.toNat_natCast (i + 1)
  unfold handleV1LightState
  simp only [if_pos known, isdigit_strOf written, if_true, intOfString_strOf written, number, quiet]
  rcases handleLightCommand_cases s (i + 1) body with ⟨rejected, _⟩ | ⟨other, accepted, same⟩
  · exact absurd ⟨free, mapped, translated⟩ (rejected slot)
  · have slots : slot = other := Option.some.inj (Except.ok.inj (translated.symm.trans accepted.2.2))
    rw [same, ensureDrainTask_mapping, slots]
    rfl

/-- A frame's channel is looked up as a number that counts from one, whatever its version. -/
theorem scheduleUpdate_drive {s : Engine} {lightEntities : List String}
    (channels : ∀ channelId, channelId ∈ s.channels ↔ 1 ≤ channelId ∧ channelId ≤ lightEntities.length)
    (channel : ChannelColor) (colorSpace : Nat) :
    (s.scheduleUpdate channel colorSpace).mapping =
      drive .v1 lightEntities.length colorSpace s.mapping channel := by
  unfold drive addressed
  by_cases mapped : 1 ≤ channel.channelId ∧ channel.channelId ≤ lightEntities.length
  · have number : channel.channelId - 1 + 1 = channel.channelId := Nat.sub_add_cancel mapped.1
    simp only [if_pos mapped, number]
    rcases scheduleUpdate_cases s channel colorSpace with ⟨absent, _⟩ | ⟨_, within, same⟩ | ⟨_, outside, same⟩
    · exact absurd ((channels _).mpr mapped) absent
    · rw [same, if_pos within]
      rfl
    · rw [same, outside]
      rfl
  · simp only [if_neg mapped]
    rcases scheduleUpdate_cases s channel colorSpace with ⟨_, same⟩ | ⟨present, _⟩ | ⟨present, _⟩
    · rw [same]
    · exact absurd ((channels _).mp present) mapped
    · exact absurd ((channels _).mp present) mapped

theorem scheduleAll_drive {lightEntities : List String} (colorSpace : Nat) (channels : List ChannelColor) {s : Engine}
    (numbered : ∀ channelId, channelId ∈ s.channels ↔ 1 ≤ channelId ∧ channelId ≤ lightEntities.length) :
    (channels.foldl (fun s channel => s.scheduleUpdate channel colorSpace) s).mapping =
      channels.foldl (drive .v1 lightEntities.length colorSpace) s.mapping := by
  induction channels generalizing s with
  | nil => rfl
  | cons channel rest ih =>
    obtain ⟨mapping, wake, entries, _, same⟩ := scheduleUpdate_eq s channel colorSpace
    have next : ∀ channelId, channelId ∈ (s.scheduleUpdate channel colorSpace).channels ↔
        1 ≤ channelId ∧ channelId ≤ lightEntities.length := by
      rw [same]
      exact numbered
    rw [List.foldl_cons, List.foldl_cons, ih next, scheduleUpdate_drive numbered]

/-- What an entry's engine makes of a frame, whatever its version. -/
theorem handleFrame_drive {lightEntities : List String} {s : Engine} (entry : EntryEngine lightEntities s)
    (free : s.suppressed = false) {data : Bytes} {frame : Frame} (parsed : parseHuestreamFrame data = .ok (some frame)) :
    (s.handleFrame data).mapping =
      frame.channels.foldl (drive .v1 lightEntities.length frame.colorSpace) s.mapping := by
  have counted : s.countFrame.suppressed = false := free
  unfold Engine.handleFrame
  simp only [parsed, counted, Bool.false_eq_true, if_false]
  exact scheduleAll_drive frame.colorSpace frame.channels (s := s.countFrame) entry.channels

theorem v1_frames_name (lightEntities : List String) : FramesName lightEntities .v1 :=
  fun _ entry free _ _ parsed _ => handleFrame_drive entry free parsed

theorem drive_empty (version : Version) (colorSpace : Nat) (mapping : ChannelId → LightMapping) (channel : ChannelColor) :
    drive version 0 colorSpace mapping channel = mapping := by
  unfold drive addressed
  cases version with
  | v1 =>
    have outside : ¬(1 ≤ channel.channelId ∧ channel.channelId ≤ 0) := by omega
    simp only [if_neg outside]
  | v2 => simp only [Nat.not_lt_zero, if_false]

theorem foldl_drive_empty (version : Version) (colorSpace : Nat) (mapping : ChannelId → LightMapping)
    (channels : List ChannelColor) : channels.foldl (drive version 0 colorSpace) mapping = mapping := by
  induction channels with
  | nil => rfl
  | cons channel rest ih => rw [List.foldl_cons, drive_empty, ih]

theorem frames_name_empty (version : Version) : FramesName [] version := by
  intro s entry free data frame parsed _
  rw [handleFrame_drive entry free parsed]
  exact (foldl_drive_empty _ _ _ _).trans (foldl_drive_empty _ _ _ _).symm

theorem same_picture_empty : SamePicture [] := by
  intro s entry free first second v1 v2 parsed parsed' _ _ _ _ _
  rw [handleFrame_drive entry free parsed, handleFrame_drive entry free parsed']
  exact (foldl_drive_empty _ _ _ _).trans (foldl_drive_empty _ _ _ _).symm

/-- The id of the first light. -/
def firstId : (version : Version) → Fin version.idBound
  | .v1 => ⟨1, by decide⟩
  | .v2 => ⟨0, by decide⟩

/-- A datagram that shows the first light white. -/
def whiteFrame (version : Version) : Bytes :=
  encode 0 ⟨Vector.replicate 4 0, Vector.replicate _ 0⟩ [⟨0, firstId version, 65535, 65535, 65535⟩]

def whiteChannel (version : Version) : ChannelColor := ⟨firstId version, 65535, 65535, 65535⟩

theorem parse_whiteFrame (version : Version) : parseHuestreamFrame (whiteFrame version) =
    .ok (some ⟨version.number.toNat, 0, [whiteChannel version]⟩) := by
  have short : ([] : Bytes).length < version.channelSize := by cases version <;> decide
  have parsed := parse_encode 0 ⟨Vector.replicate 4 0, Vector.replicate _ 0⟩
    [(⟨0, firstId version, 65535, 65535, 65535⟩ : WireChannel version)] [] (fun _ => List.cons_ne_nil _ _) short
  rw [List.append_nil] at parsed
  exact parsed

/-- An entry's engine before anything happens. -/
def freshEngine (lightEntities : List String) : Engine := Engine.new (buildMappings lightEntities) (fun _ => none) 0

theorem freshEngine_entry (lightEntities : List String) : EntryEngine lightEntities (freshEngine lightEntities) :=
  ⟨_, _, [], .nil _⟩

theorem freshEngine_mapping (lightEntities : List String) (channelId : ChannelId) : ∃ other entityId,
    (freshEngine lightEntities).mapping channelId = { channelId := other, entityId := entityId } := by
  unfold freshEngine Engine.new
  simp only []
  cases found : (buildMappings lightEntities).reverse.find? (fun mapping => mapping.channelId == channelId) with
  | none => exact ⟨channelId, "", rfl⟩
  | some mapping =>
    obtain ⟨i, _, rfl⟩ := List.mem_mapIdx.mp (List.mem_reverse.mp (List.mem_of_find?_eq_some found))
    exact ⟨i + 1, lightEntities[i], rfl⟩

theorem freshEngine_clean (lightEntities : List String) (channelId : ChannelId) :
    ((freshEngine lightEntities).mapping channelId).dirty = false := by
  obtain ⟨other, entityId, fresh⟩ := freshEngine_mapping lightEntities channelId
  rw [fresh]

/-- The first light's slot is dirty once a frame that shows it white is driven to it. -/
theorem dirty_of_white {lightEntities : List String} (version : Version)
    (named : addressed version lightEntities.length (firstId version) = some 0) :
    ([whiteChannel version].foldl (drive version lightEntities.length 0) (freshEngine lightEntities).mapping 1).dirty =
      true := by
  have bright : ((freshEngine lightEntities).mapping 1).withinTolerance (whiteChannel version) 0 = false := by
    obtain ⟨other, entityId, fresh⟩ := freshEngine_mapping lightEntities 1
    rw [fresh]
    rfl
  rw [List.foldl_cons, List.foldl_nil]
  unfold drive
  have found : addressed version lightEntities.length (whiteChannel version).channelId = some 0 := named
  simp only [found, Nat.zero_add, bright, Bool.false_eq_true, if_false, Function.update_self]
  rfl

/-- No slot has the number that v2 gives the first light. -/
theorem white_lost (lightEntities : List String) :
    ((freshEngine lightEntities).handleFrame (whiteFrame .v2)).mapping = (freshEngine lightEntities).mapping := by
  rw [handleFrame_drive (freshEngine_entry _) rfl (parse_whiteFrame .v2)]
  rfl

theorem not_v2_frames_name {lightEntities : List String} (nonempty : lightEntities ≠ []) :
    ¬FramesName lightEntities .v2 := by
  intro names
  have inside : 0 < lightEntities.length := List.length_pos_iff.mpr nonempty
  have driven := names _ (freshEngine_entry _) rfl _ _ (parse_whiteFrame .v2) rfl
  have written := dirty_of_white .v2 (if_pos inside)
  rw [← driven, white_lost, freshEngine_clean] at written
  cases written

theorem not_same_picture {lightEntities : List String} (nonempty : lightEntities ≠ []) :
    ¬SamePicture lightEntities := by
  intro same
  have inside : 0 < lightEntities.length := List.length_pos_iff.mpr nonempty
  have picture : List.Forall₂ (fun left right => left = ⟨right.channelId + 1, right.r, right.g, right.b⟩)
      [whiteChannel .v1] [whiteChannel .v2] := .cons rfl .nil
  have named : ∀ channel ∈ [whiteChannel .v2], channel.channelId < lightEntities.length := by
    intro channel member
    rw [List.mem_singleton.mp member]
    exact inside
  have driven := same _ (freshEngine_entry _) rfl _ _ _ _ (parse_whiteFrame .v1) (parse_whiteFrame .v2) rfl rfl rfl
    picture named
  have written := dirty_of_white .v1 (if_pos ⟨Nat.le_refl 1, inside⟩)
  rw [← handleFrame_drive (freshEngine_entry _) rfl (parse_whiteFrame .v1), driven, white_lost, freshEngine_clean]
    at written
  cases written

/-- The resources, PUTs and v1 frames name the same lights. The frames of v2 count from zero into a table
that counts from one, so with any light at all they name none or another one. -/
theorem schemes_agree (uuid5Hex : String → String) (lightEntities : List String) :
    (∀ version, (ResourcesName uuid5Hex lightEntities ∧ PutsName lightEntities ∧ FramesName lightEntities version) ↔
      (version = .v1 ∨ lightEntities = [])) ∧
    (SamePicture lightEntities ↔ lightEntities = []) := by
  refine ⟨fun version => ⟨?_, ?_⟩, ?_, ?_⟩
  · rintro ⟨_, _, frames⟩
    by_cases empty : lightEntities = []
    · exact .inr empty
    · cases version with
      | v1 => exact .inl rfl
      | v2 => exact absurd frames (not_v2_frames_name empty)
  · intro named
    refine ⟨resources_name uuid5Hex lightEntities, puts_name lightEntities, ?_⟩
    rcases named with rfl | rfl
    · exact v1_frames_name lightEntities
    · exact frames_name_empty version
  · intro same
    by_contra nonempty
    exact not_same_picture nonempty same
  · rintro rfl
    exact same_picture_empty

/-- A v2 datagram that shows the second light red. -/
def secondRed : Bytes :=
  encode 0 ⟨Vector.replicate 4 0, Vector.replicate _ 0⟩ [(⟨0, ⟨1, by decide⟩, 65535, 0, 0⟩ : WireChannel .v2)]

/-- It writes the slot of the first light, and not that of the second. -/
theorem secondRed_misnamed : ∃ s mapping, EntryEngine ["light.a", "light.b"] s ∧ s.suppressed = false ∧
    parseHuestreamFrame secondRed = .ok (some ⟨2, 0, [⟨1, 65535, 0, 0⟩]⟩) ∧ (s.handleFrame secondRed).mapping = mapping ∧
    (mapping 1).entityId = "light.a" ∧ (mapping 1).dirty = true ∧
    (mapping 2).entityId = "light.b" ∧ (mapping 2).dirty = false ∧ ¬FramesName ["light.a", "light.b"] .v2 := by
  have parsed : parseHuestreamFrame secondRed = .ok (some ⟨2, 0, [⟨1, 65535, 0, 0⟩]⟩) := by decide +kernel
  have quiet : (((freshEngine ["light.a", "light.b"]).handleFrame secondRed).mapping 2).dirty = false := by decide +kernel
  refine ⟨freshEngine _, _, freshEngine_entry _, rfl, parsed, rfl, by decide +kernel, by decide +kernel,
    by decide +kernel, quiet, ?_⟩
  intro names
  have driven := names _ (freshEngine_entry _) rfl _ _ parsed rfl
  rw [driven] at quiet
  revert quiet
  decide +kernel

end HueEntertainment.Addressing
