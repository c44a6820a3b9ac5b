import HueEntertainment.SlotHistory

/-! The first colour after the engine has forgotten what it sent: the sentinel of `_reset_mappings` against the
two tolerance tests of `_schedule_update`. -/

namespace HueEntertainment.FreshColor
open HueEntertainment.Const HueStream LightCommand PyValue Entertainment EngineSteps EngineFrames EngineMoves EngineHistory
  EngineSlots SlotHistory Runs

/-- The step runs `_reset_mappings`. -/
def Resets (s : Engine) (event : Event) (t : Engine) : Prop :=
  machine.step s event = some t ∧ ∃ new, t.log = new ++ s.log ∧ .flushed ∈ new

/-- The light has the sentinel for each of its last values. -/
def Forgotten (mapping : LightMapping) : Prop := mapping.lastR = -1 ∧ mapping.lastG = -1 ∧ mapping.lastB = -1

def Names (data : Bytes) (channelId : ChannelId) : Prop :=
  ∃ frame channel, parseHuestreamFrame data = .ok (some frame) ∧ channel ∈ frame.channels ∧ channel.channelId = channelId

/-- The step is no frame that takes effect and names the light. -/
def Unnamed (channelId : ChannelId) (s : Engine) : Event → Prop
  | .frame data => s.suppressed = true ∨ ¬Names data channelId
  | _ => True

/-- The frame writes the slot of the light, which is dirty then. -/
def Lands (s : Engine) (data : Bytes) (channelId : ChannelId) : Prop :=
  ((s.handleFrame data).mapping channelId).dirty = true ∧ ∃ frame channel, parseHuestreamFrame data = .ok (some frame) ∧
    channel ∈ frame.channels ∧ channel.channelId = channelId ∧
      (s.handleFrame data).mapping channelId = (s.mapping channelId).schedule channel frame.colorSpace

/-- Any XY colour, or an RGB colour that is not next to black. -/
def Lit (colorSpace : Nat) (channel : ChannelColor) : Prop :=
  colorSpace = colorSpaceXy ∨ 15 ≤ channel.r ∨ 15 ≤ channel.g ∨ 15 ≤ channel.b

theorem within_sentinel (value : Nat) : |(value : ℤ) - (-1)| < brightnessTolerance ↔ value < 15 := by
  have positive : (0 : ℤ) ≤ (value : ℤ) - (-1) := by omega
  rw [abs_of_nonneg positive]
  unfold brightnessTolerance
  omega

/-- A coordinate is at least one away from the sentinel. -/
theorem xy_outside (value : Nat) : ¬|(value : ℚ) / 65535 - (-1)| < cieTolerance := by
  have coordinate : (0 : ℚ) ≤ (value : ℚ) / 65535 := by positivity
  rw [abs_of_nonneg (by linarith)]
  unfold cieTolerance
  linarith

/-- The sentinel is outside the tolerance of a colour exactly when the colour is lit. -/
theorem forgotten_outside {mapping : LightMapping} (forgotten : Forgotten mapping) (channel : ChannelColor)
    (colorSpace : Nat) : mapping.withinTolerance channel colorSpace = false ↔ Lit colorSpace channel := by
  obtain ⟨red, green, blue⟩ := forgotten
  unfold LightMapping.withinTolerance Lit
  by_cases xy : colorSpace = colorSpaceXy
  · have far : mapping.withinXy channel = false := by
      have first := decide_eq_false (xy_outside channel.r)
      unfold LightMapping.withinXy
      rw [red, if_neg (by decide)]
      simp only [first, Bool.false_and]
    rw [if_pos xy, far]
    exact iff_of_true rfl (.inl xy)
  · rw [if_neg xy]
    unfold LightMapping.withinRgb
    rw [red, green, blue, Bool.and_eq_false_iff, Bool.and_eq_false_iff]
    simp only [decide_eq_false_iff_not, within_sentinel, xy, false_or, not_lt, or_assoc]

theorem all_update {table : ChannelId → LightMapping} {key : ChannelId} {value : LightMapping}
    (all : ∀ channelId, Forgotten (table channelId)) (new : Forgotten value) (channelId : ChannelId) :
    Forgotten (Function.update table key value channelId) := by
  by_cases here : channelId = key
  · subst here
    rw [Function.update_self]
    exact new
  · rw [Function.update_of_ne here]
    exact all channelId

/-- A reset leaves every light with the sentinel. -/
theorem Resets.forgotten {s t : Engine} {event : Event} (resets : Resets s event t) (channelId : ChannelId) :
    Forgotten (t.mapping channelId) := by
  obtain ⟨step, new, logged, flushed⟩ := resets
  have told := (step_changes step).invariant (fun x => ∃ new, x.log = new ++ s.log ∧
    (.flushed ∈ new → (∀ data, event ≠ .frame data) ∧ ∀ channelId, Forgotten (x.mapping channelId))) ?_ ⟨[], rfl, by simp⟩
  · obtain ⟨same, logged', forgotten⟩ := told
    have here : new = same := List.append_cancel_right (logged.symm.trans logged')
    exact (forgotten (here ▸ flushed)).2 channelId
  · intro x y held change
    obtain ⟨new, logged, forgotten⟩ := held
    cases change with
    | noted entry quiet =>
      refine ⟨entry :: new, congrArg (entry :: ·) logged, ?_⟩
      intro member
      rcases List.mem_cons.mp member with rfl | member
      · cases quiet
      · exact forgotten member
    | flushed unframed => exact ⟨.flushed :: new, congrArg (.flushed :: ·) logged, fun _ => ⟨unframed, fun _ => ⟨rfl, rfl, rfl⟩⟩⟩
    | wrote same parsed member free mapped outside =>
      refine ⟨_ :: new, congrArg (_ :: ·) logged, ?_⟩
      intro member
      rcases List.mem_cons.mp member with equal | member
      · cases equal
      · exact absurd same ((forgotten member).1 _)
    | queued same accepted => exact ⟨[_], rfl, by simp⟩
    | discarded same dirty empty =>
      exact ⟨new, logged, fun member => ⟨(forgotten member).1, all_update (forgotten member).2 ((forgotten member).2 _)⟩⟩
    | dropped same dirty noted =>
      refine ⟨_ :: new, congrArg (_ :: ·) logged, ?_⟩
      intro member
      rcases List.mem_cons.mp member with equal | member
      · cases equal
      · exact ⟨(forgotten member).1, all_update (forgotten member).2 ((forgotten member).2 _)⟩
    | begun same dirty pending noted =>
      refine ⟨_ :: new, congrArg (_ :: ·) logged, ?_⟩
      intro member
      rcases List.mem_cons.mp member with equal | member
      · cases equal
      · exact ⟨(forgotten member).1, all_update (forgotten member).2 ((forgotten member).2 _)⟩

/-- A frame that takes effect writes the slot of a light exactly when one of its colours for the light is outside
the tolerance. -/
theorem lands_iff {s : Engine} {data : Bytes} {channelId : ChannelId} {frame : Frame} (forgotten : Forgotten (s.mapping channelId))
    (free : s.suppressed = false) (mapped : channelId ∈ s.channels) (parsed : parseHuestreamFrame data = .ok (some frame)) :
    Lands s data channelId ↔ ∃ channel ∈ frame.channels, channel.channelId = channelId ∧ Lit frame.colorSpace channel := by
  have counted : s.countFrame.suppressed = false := free
  have handled : s.handleFrame data =
      frame.channels.foldl (fun s channel => s.scheduleUpdate channel frame.colorSpace) s.countFrame := by
    unfold Engine.handleFrame
    simp [parsed, counted]
  have outside := fun channel => forgotten_outside forgotten channel frame.colorSpace
  unfold Lands
  rw [handled]
  rcases scheduleAll_slot frame.colorSpace channelId frame.channels s.countFrame mapped with
    ⟨within, kept⟩ | ⟨⟨channel, member, named, far⟩, last, among, id, wrote⟩
  · constructor
    · intro lands
      obtain ⟨_, _, channel, _, _, _, wrote⟩ := lands
      -- a slot that was written has the channel's values, none of which is the sentinel
      have last : (s.mapping channelId).lastR = channel.r := congrArg LightMapping.lastR (kept.symm.trans wrote)
      rw [forgotten.1] at last
      omega
    · intro lit
      obtain ⟨channel, member, named, lit⟩ := lit
      have near := within channel member named
      rw [Engine.countFrame_mapping, (outside channel).mpr lit] at near
      cases near
  · constructor
    · intro _
      exact ⟨channel, member, named, (outside channel).mp far⟩
    · intro _
      refine ⟨?_, frame, last, parsed, among, id, wrote⟩
      rw [wrote]
      rfl

/-- Until a frame names the light, it keeps the sentinel. -/
theorem forgotten_step {s t : Engine} {event : Event} {channelId : ChannelId} (forgotten : Forgotten (s.mapping channelId))
    (unnamed : Unnamed channelId s event) (step : machine.step s event = some t) : Forgotten (t.mapping channelId) := by
  rcases slot_step (step_move step) channelId with ⟨data, rfl, rfl⟩ | slot
  · rcases handleFrame_slot s data channelId with ⟨_, kept⟩ | ⟨⟨free, _, frame, channel, parsed, member, named, _⟩, _⟩
    · rw [kept]
      exact forgotten
    · rcases unnamed with suppressed | unnamed
      · rw [free] at suppressed
        cases suppressed
      · exact absurd ⟨frame, channel, parsed, member, named⟩ unnamed
  · generalize t.mapping channelId = mapping at slot
    cases slot with
    | kept => exact forgotten
    | flushed => exact ⟨rfl, rfl, rfl⟩
    | queued same accepted => exact forgotten
    | taken dirty taken =>
      obtain ⟨logged, sent, rfl⟩ := taken
      exact forgotten

/-- After a reset the first frame that takes effect and names a mapped light writes its slot and marks it dirty
exactly when one of its colours for the light is lit. -/
theorem first_color_exact {s m t : Engine} {event : Event} {events : List Event} {data : Bytes} {frame : Frame}
    {channelId : ChannelId} (resets : Resets s event m) (mapped : channelId ∈ s.channels)
    (run : Run machine (Unnamed channelId) m events t) (free : t.suppressed = false)
    (parsed : parseHuestreamFrame data = .ok (some frame)) :
    Lands t data channelId ↔ ∃ channel ∈ frame.channels, channel.channelId = channelId ∧ Lit frame.colorSpace channel := by
  have forgotten : Forgotten (t.mapping channelId) :=
    run.invariant (fun x => Forgotten (x.mapping channelId)) (fun _ _ _ held ok step => forgotten_step held ok step)
      (resets.forgotten channelId)
  have known : channelId ∈ t.channels := by
    rw [channels_run run, channels_step (step_move resets.1)]
    exact mapped
  exact lands_iff forgotten free known parsed

/-- A v1 RGB frame with one channel, for light 1. -/
def rgbFrame (red green blue : UInt8) : Bytes :=
  huestreamHeader ++ [1, 0, 0, 0, 0, 0, 0] ++ [0, 0, 1, red, 0, green, 0, blue, 0]

theorem oneLight_resets : Resets oneLight .snapshot oneLight.asyncSnapshotLights :=
  ⟨rfl, _, (List.append_nil _).symm, .tail _ (.tail _ (.head _))⟩

/-- The first frame of a session is red. -/
theorem first_color_exact_red : ∃ t, Run machine (Unnamed 1) oneLight.asyncSnapshotLights [.tick 1] t ∧
    Lands t (rgbFrame 255 0 0) 1 := by
  have parsed : parseHuestreamFrame (rgbFrame 255 0 0) = .ok (some ⟨1, 0, [⟨1, 65280, 0, 0⟩]⟩) := by decide +kernel
  have run : Run machine (Unnamed 1) oneLight.asyncSnapshotLights [.tick 1] _ := .cons trivial rfl (.nil _)
  have lands := first_color_exact oneLight_resets (by decide) run rfl parsed
  exact ⟨_, run, lands.mpr ⟨_, List.mem_cons_self, rfl, .inr (.inl (by decide))⟩⟩

/-- The first frame of a session is black: the light keeps what it shows. -/
theorem firstBlack_ignored : Names (rgbFrame 0 0 0) 1 ∧ Resets oneLight .snapshot oneLight.asyncSnapshotLights ∧
    oneLight.asyncSnapshotLights.suppressed = false ∧ ¬Lands oneLight.asyncSnapshotLights (rgbFrame 0 0 0) 1 := by
  have parsed : parseHuestreamFrame (rgbFrame 0 0 0) = .ok (some ⟨1, 0, [⟨1, 0, 0, 0⟩]⟩) := by decide +kernel
  have clean : ((oneLight.asyncSnapshotLights.handleFrame (rgbFrame 0 0 0)).mapping 1).dirty = false := by decide +kernel
  refine ⟨⟨_, _, parsed, List.mem_cons_self, rfl⟩, oneLight_resets, rfl, ?_⟩
  intro lands
  rw [lands.1] at clean
  cases clean

end HueEntertainment.FreshColor
