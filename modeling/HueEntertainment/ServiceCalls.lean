import HueEntertainment.ClassicBody
import HueEntertainment.ColorModes
import HueEntertainment.FrameCodec

/-! The values in the light service calls: frames and v1 bodies bring integers of any size and floats of any kind, and
what reaches Home Assistant is in the ranges of its light services. -/

namespace HueEntertainment.ServiceCalls
open HueStream LightCommand PyValue Entertainment EngineSteps EngineFrames DrainSteps EngineMoves EngineHistory
  EngineSlots SlotMerge ColorModes Runs
open ClassicBody (roundHalfEven_mono)

def Within (high : ℚ) : PyFloat → Prop
  | .finite value => 0 ≤ value ∧ value ≤ high
  | .infinite _ | .nan => False

/-- What `light.turn_on` takes as a colour. -/
def InGamut : Color → Prop
  | .xy x y => Within 1 x ∧ Within 1 y
  | .hs hue sat => Within 360 hue ∧ Within 100 sat
  | .rgb r g b => r ≤ 255 ∧ g ≤ 255 ∧ b ≤ 255
  | .kelvin kelvin => 0 ≤ kelvin ∧ kelvin ≤ 1000000

/-- The value, if it can be read as a float, is in the range that the Hue API gives it. -/
def JsonWithin (high : ℚ) (value : Json) : Prop := ∀ number, floatOf value = .ok number → Within high number

/-- The coordinates, the hue and the saturation of a body are in the ranges of the Hue API. -/
structure HueRanges (body : Json) : Prop where
  xy : ∀ x y, field body "xy" = some (.array [x, y]) → JsonWithin 1 x ∧ JsonWithin 1 y
  hue : ∀ hue, field body "hue" = some hue → JsonWithin 65535 hue
  sat : ∀ sat, field body "sat" = some sat → JsonWithin 254 sat

/-- What the bridge bounds by itself, whatever a client sends. -/
structure Bounded (data : ServiceData) : Prop where
  brightness : ∀ value, data.brightness = some value → 0 ≤ value ∧ value ≤ 255
  transition : ∀ value, data.transition = some value → 0 ≤ value
  raw : ∀ color ∈ colors data, color.kind = .rgb ∨ color.kind = .kelvin → InGamut color

/-- The colours of the data are in range if those of the bodies among the writes are. -/
def Ranged (data : ServiceData) (writes : List Write) : Prop :=
  (∀ lightId body, .put lightId body ∈ writes → HueRanges body) → ∀ color ∈ colors data, InGamut color

theorem roundHalfEven_int (value : ℤ) : roundHalfEven value = value := by
  unfold roundHalfEven
  simp

theorem roundHalfEven_within {value : ℚ} {high : ℤ} (atLeast : 0 ≤ value) (atMost : value ≤ high) :
    0 ≤ roundHalfEven value ∧ roundHalfEven value ≤ high := by
  constructor
  · have low := roundHalfEven_mono atLeast
    have zero := roundHalfEven_int 0
    rw [Int.cast_zero] at zero
    rwa [zero] at low
  · have most := roundHalfEven_mono atMost
    rwa [roundHalfEven_int] at most

/-- A value in a range is scaled into the range that the divisor is scaled to. -/
theorem Within.scaled {divisor : ℚ} {factor : ℕ} {value : PyFloat} (positive : 0 < divisor)
    (within : Within divisor value) : Within factor (value.scaled divisor factor) := by
  cases value with
  | infinite negative => exact within.elim
  | nan => exact within.elim
  | finite value =>
    obtain ⟨atLeast, atMost⟩ := within
    have share : value / divisor ≤ 1 := (div_le_one positive).mpr atMost
    have zero : 0 ≤ value / divisor := div_nonneg atLeast positive.le
    have low : 0 ≤ value / divisor * factor * 10 ^ 2 := by positivity
    have high : value / divisor * factor * 10 ^ 2 ≤ ((factor * 100 : ℕ) : ℤ) := by
      push_cast
      nlinarith [share, (Nat.cast_nonneg factor : (0 : ℚ) ≤ factor)]
    obtain ⟨least, most⟩ := roundHalfEven_within low high
    have least' : (0 : ℚ) ≤ (roundHalfEven (value / divisor * factor * 10 ^ 2) : ℤ) := by exact_mod_cast least
    have most' : ((roundHalfEven (value / divisor * factor * 10 ^ 2) : ℤ) : ℚ) ≤ factor * 100 := by
      exact_mod_cast most
    change 0 ≤ roundDigits _ 2 ∧ roundDigits _ 2 ≤ _
    unfold roundDigits
    constructor
    · positivity
    · rw [div_le_iff₀ (by norm_num)]
      linarith

theorem catching_eq_ok {α : Type} {attempt : Except PyError α} {fallback value : α}
    (caught : catching attempt fallback = .ok value) : attempt = .ok value ∨ value = fallback := by
  cases attempt with
  | ok _ => exact .inl caught
  | error error =>
    cases error with
    | typeError | valueError => exact .inr (Except.ok.inj caught).symm
    | _ => cases caught

theorem trueDiv_eq_ok {numerator denominator : ℤ} {quotient : ℚ}
    (divided : trueDiv numerator denominator = .ok quotient) : quotient = numerator / denominator := by
  unfold trueDiv at divided
  simp only [] at divided
  split at divided
  · exact (Except.ok.inj divided).symm
  · cases divided

theorem transitionOf_nonneg {value : Json} {seconds : ℚ} (read : transitionOf value = .ok (some seconds)) :
    0 ≤ seconds := by
  rcases catching_eq_ok read with attempt | none
  · cases number : intOf value with
    | error error => simp [number, bind, Except.bind] at attempt
    | ok tenths =>
      cases divided : trueDiv (max tenths 0) 10 with
      | error error => simp [number, divided, bind, Except.bind] at attempt
      | ok quotient =>
        simp only [number, divided, bind, Except.bind, pure, Except.pure, Except.ok.injEq, Option.some.injEq]
          at attempt
        rw [← attempt, trueDiv_eq_ok divided]
        positivity
  · cases none

theorem brightnessOf_bounds {value : Json} {brightness : ℤ} (read : brightnessOf value = .ok brightness) :
    0 ≤ brightness ∧ brightness ≤ 255 := by
  unfold brightnessOf at read
  cases number : catching (intOf value) 254 with
  | error error => simp [number, bind, Except.bind] at read
  | ok bri =>
    cases divided : trueDiv (bri * 255) 254 with
    | error error => simp [number, divided, bind, Except.bind] at read
    | ok scaled =>
      simp only [number, divided, bind, Except.bind, pure, Except.pure, Except.ok.injEq] at read
      omega

theorem kelvinOf_bounds {value : Json} {kelvin : ℤ} (read : kelvinOf value = .ok (some kelvin)) :
    0 ≤ kelvin ∧ kelvin ≤ 1000000 := by
  rcases catching_eq_ok read with attempt | none
  · cases number : intOf value with
    | error error => simp [number, bind, Except.bind] at attempt
    | ok mired =>
      simp only [number, bind, Except.bind] at attempt
      split at attempt
      next positive =>
        cases divided : trueDiv 1000000 mired with
        | error error => simp [divided] at attempt
        | ok quotient =>
          simp only [divided, pure, Except.pure, Except.ok.injEq, Option.some.injEq] at attempt
          have least : (1 : ℚ) ≤ mired := by exact_mod_cast positive
          rw [← attempt, trueDiv_eq_ok divided]
          apply roundHalfEven_within
          · positivity
          · rw [div_le_iff₀ (by linarith)]
            push_cast
            linarith
      next => cases attempt
  · cases none

/-- A default of the body is in range. -/
theorem floatOf_default {high : ℚ} {value : ℤ} {number : PyFloat} (atLeast : (0 : ℚ) ≤ value)
    (atMost : (value : ℚ) ≤ high) (read : floatOf (.int value) = .ok number) : Within high number := by
  change floatOfInt value = _ at read
  unfold floatOfInt at read
  split at read
  · cases read
    exact ⟨atLeast, atMost⟩
  · cases read

/-- The colour of a body is in range if the body's numbers are, and a colour temperature is in any case. -/
theorem colorOf_gamut {body : Json} {data result : ServiceData} (named : colorOf body data = .ok result)
    (colorless : colors data = []) :
    result.brightness = data.brightness ∧ result.transition = data.transition ∧
      ∀ color ∈ colors result, (color.kind = .rgb ∨ color.kind = .kelvin) ∨ HueRanges body → InGamut color := by
  obtain ⟨xy, hs, rgb, kelvin⟩ := colors_nil_iff.mp colorless
  unfold colorOf at named
  split at named
  next x y point =>
    cases first : floatOf x with
    | error error => simp [first, bind, Except.bind] at named
    | ok x' =>
      cases second : floatOf y with
      | error error => simp [first, second, bind, Except.bind] at named
      | ok y' =>
        simp only [first, second, bind, Except.bind, pure, Except.pure, Except.ok.injEq] at named
        subst named
        refine ⟨rfl, rfl, ?_⟩
        intro color member known
        obtain rfl : color = .xy x' y' := by simpa [colors, hs, rgb, kelvin] using member
        rcases known with (other | other) | ranges
        · cases other
        · cases other
        · obtain ⟨left, right⟩ := ranges.xy x y point
          exact ⟨left x' first, right y' second⟩
  next =>
    split at named
    next =>
      cases first : floatOf ((field body "hue").getD (.int 0)) with
      | error error => simp [first, bind, Except.bind] at named
      | ok hue =>
        cases second : floatOf ((field body "sat").getD (.int 254)) with
        | error error => simp [first, second, bind, Except.bind] at named
        | ok sat =>
          simp only [first, second, bind, Except.bind, pure, Except.pure, Except.ok.injEq] at named
          subst named
          refine ⟨rfl, rfl, ?_⟩
          intro color member known
          obtain rfl : color = .hs (hue.scaled 65535 360) (sat.scaled 254 100) := by
            simpa [colors, xy, rgb, kelvin] using member
          rcases known with (other | other) | ranges
          · cases other
          · cases other
          · have hueWithin : Within 65535 hue := by
              cases given : field body "hue" with
              | none =>
                rw [given] at first
                exact floatOf_default (by norm_num) (by norm_num) first
              | some value =>
                rw [given] at first
                exact ranges.hue value given hue first
            have satWithin : Within 254 sat := by
              cases given : field body "sat" with
              | none =>
                rw [given] at second
                exact floatOf_default (by norm_num) (by norm_num) second
              | some value =>
                rw [given] at second
                exact ranges.sat value given sat second
            have hueScaled : Within (360 : ℕ) (hue.scaled 65535 (360 : ℕ)) := hueWithin.scaled (by norm_num)
            have satScaled : Within (100 : ℕ) (sat.scaled 254 (100 : ℕ)) := satWithin.scaled (by norm_num)
            exact ⟨hueScaled, satScaled⟩
    next =>
      split at named
      next ct _ =>
        cases read : kelvinOf ct with
        | error error => simp [read, bind, Except.bind] at named
        | ok found =>
          simp only [read, bind, Except.bind, pure, Except.pure, Except.ok.injEq] at named
          subst named
          refine ⟨rfl, rfl, ?_⟩
          intro color member _
          cases found with
          | none => simp [colors, xy, hs, rgb] at member
          | some value =>
            obtain rfl : color = .kelvin value := by simpa [colors, xy, hs, rgb] using member
            exact kelvinOf_bounds read
      next =>
        simp only [pure, Except.pure, Except.ok.injEq] at named
        subst named
        refine ⟨rfl, rfl, ?_⟩
        intro color member
        rw [colorless] at member
        cases member

theorem gamut_empty : Bounded {} ∧ Ranged {} [] :=
  ⟨⟨nofun, nofun, nofun⟩, fun _ => nofun⟩

/-- A body is translated to data that the bridge bounds, and to a colour in range if the body's is. -/
theorem v1_bounded {body : Json} {data : ServiceData} (translated : v1StateToServiceData body = .ok data) :
    Bounded data ∧ (HueRanges body → ∀ color ∈ colors data, InGamut color) := by
  rw [ClassicBody.translation_eq] at translated
  cases object : requireObject body with
  | error error => simp [object, bind, Except.bind] at translated
  | ok _ =>
    cases first : ClassicBody.readTransition body with
    | error error => simp [object, first, bind, Except.bind] at translated
    | ok transition =>
      have later : ∀ value, transition = some value → 0 ≤ value := by
        rintro value rfl
        unfold ClassicBody.readTransition at first
        split at first
        · exact transitionOf_nonneg first
        · cases first
      simp only [object, first, bind, Except.bind] at translated
      split at translated
      next =>
        simp only [pure, Except.pure, Except.ok.injEq] at translated
        subst translated
        exact ⟨⟨nofun, later, nofun⟩, fun _ => nofun⟩
      next =>
        cases second : ClassicBody.readBrightness body with
        | error error => simp [second] at translated
        | ok brightness =>
          have bright : ∀ value, brightness = some value → 0 ≤ value ∧ value ≤ 255 := by
            rintro value rfl
            unfold ClassicBody.readBrightness at second
            split at second
            next given _ =>
              cases read : brightnessOf given with
              | error error => simp [read, Except.map] at second
              | ok found =>
                simp only [read, Except.map, Except.ok.injEq, Option.some.injEq] at second
                exact second ▸ brightnessOf_bounds read
            next => cases second
          cases third : colorOf body { transition := transition, brightness := brightness } with
          | error error => simp [second, third] at translated
          | ok colored =>
            obtain ⟨same, same', gamut⟩ := colorOf_gamut third rfl
            simp only [second, third] at translated
            split at translated
            next =>
              simp only [pure, Except.pure, Except.ok.injEq] at translated
              subst translated
              exact ⟨⟨nofun, nofun, nofun⟩, fun _ => nofun⟩
            next =>
              simp only [pure, Except.pure, Except.ok.injEq] at translated
              subst translated
              refine ⟨⟨?_, ?_, ?_⟩, fun ranges color member => gamut color member (.inr ranges)⟩
              · intro value found
                exact bright value (same.symm.trans found)
              · intro value found
                exact later value (same'.symm.trans found)
              · exact fun color member kind => gamut color member (.inl kind)

theorem roundHalfEven_channel {value : ℕ} (short : value ≤ 65535) :
    0 ≤ roundHalfEven ((value : ℚ) / 65535 * 255) ∧ roundHalfEven ((value : ℚ) / 65535 * 255) ≤ 255 := by
  apply roundHalfEven_within
  · positivity
  · have most : (value : ℚ) ≤ 65535 := by exact_mod_cast short
    push_cast
    linarith

theorem coordinate_within {value : ℕ} (short : value ≤ 65535) : Within 1 (.finite ((value : ℚ) / 65535)) := by
  have most : (value : ℚ) ≤ 65535 := by exact_mod_cast short
  exact ⟨by positivity, (div_le_one (by norm_num)).mpr most⟩

/-- The data of a channel with 16-bit values is in range. -/
theorem frameData_gamut {channel : ChannelColor} (entityId : String) (colorSpace : Nat) (red : channel.r ≤ 65535)
    (green : channel.g ≤ 65535) (blue : channel.b ≤ 65535) :
    Bounded (frameData entityId channel colorSpace) ∧
      ∀ color ∈ colors (frameData entityId channel colorSpace), InGamut color := by
  unfold frameData
  split
  · have gamut : ∀ color ∈ colors ({ entityId := some entityId
                                     xyColor := some (.finite (channel.r / 65535), .finite (channel.g / 65535))
                                     brightness := some (roundHalfEven ((channel.b : ℚ) / 65535 * 255)) } :
        ServiceData), InGamut color := by
      intro color member
      obtain rfl : color = .xy _ _ := List.mem_singleton.mp member
      exact ⟨coordinate_within red, coordinate_within green⟩
    refine ⟨⟨?_, nofun, fun color member _ => gamut color member⟩, gamut⟩
    rintro _ ⟨⟩
    exact roundHalfEven_channel blue
  · have high : ∀ value, value ≤ 65535 → value / 256 ≤ 255 := by
      intro value short
      omega
    have peak : max (max channel.r channel.g) channel.b / 256 ≤ 255 := high _ (by omega)
    have gamut : ∀ color ∈ colors ({ entityId := some entityId
                                     rgbColor := some (channel.r / 256, channel.g / 256, channel.b / 256)
                                     brightness := some (if max (max channel.r channel.g) channel.b / 256 = 0 then 1
                                       else max (max channel.r channel.g) channel.b / 256 : Nat) } : ServiceData),
        InGamut color := by
      intro color member
      obtain rfl : color = .rgb _ _ _ := List.mem_singleton.mp member
      exact ⟨high _ red, high _ green, high _ blue⟩
    refine ⟨⟨?_, nofun, fun color member _ => gamut color member⟩, gamut⟩
    rintro _ ⟨⟩
    split <;> omega

/-- The channels of a frame have 16-bit values. -/
theorem parsed_short {data : Bytes} {frame : Frame} (parsed : parseHuestreamFrame data = .ok (some frame))
    {channel : ChannelColor} (member : channel ∈ frame.channels) :
    channel.r ≤ 65535 ∧ channel.g ≤ 65535 ∧ channel.b ≤ 65535 := by
  by_cases accepted : FrameCodec.Accepted data
  · obtain ⟨other, version, parsed', decodes⟩ := accepted.decodes
    rw [parsed] at parsed'
    obtain rfl := Option.some.inj (Except.ok.inj parsed')
    exact (decodes.inRange channel member).2
  · rw [FrameCodec.parse_rejected accepted] at parsed
    cases parsed

/-- What a frame's channels do to every light's mapping keeps a property of it, if scheduling one of them does. -/
theorem frame_kept (inv : ChannelId → LightMapping → Prop) {s : Engine} {data : Bytes}
    (schedule : ∀ frame channel mapping, parseHuestreamFrame data = .ok (some frame) → channel ∈ frame.channels →
      inv channel.channelId mapping → inv channel.channelId (mapping.schedule channel frame.colorSpace))
    (held : ∀ channelId, inv channelId (s.mapping channelId)) (channelId : ChannelId) :
    inv channelId ((s.handleFrame data).mapping channelId) := by
  unfold Engine.handleFrame
  split
  next frame parsed =>
    split
    next => exact held channelId
    next =>
      have all : ∀ (channels : List ChannelColor) (t : Engine), (∀ channel ∈ channels, channel ∈ frame.channels) →
          (∀ channelId, inv channelId (t.mapping channelId)) → ∀ channelId, inv channelId
            ((channels.foldl (fun t channel => t.scheduleUpdate channel frame.colorSpace) t).mapping channelId) := by
        intro channels
        induction channels with
        | nil => exact fun t _ now => now
        | cons first rest ih =>
          intro t among now
          apply ih _ (fun channel member => among channel (List.mem_cons_of_mem _ member))
          intro channelId
          change inv channelId ((t.scheduleUpdate first frame.colorSpace).mapping channelId)
          rcases scheduleUpdate_cases t first frame.colorSpace with ⟨_, same⟩ | ⟨_, _, same⟩ | ⟨_, _, same⟩
          · rw [same]
            exact now channelId
          · rw [same]
            exact now channelId
          · rw [same, scheduled_mapping]
            by_cases here : channelId = first.channelId
            · subst channelId
              rw [Function.update_self]
              exact schedule frame first _ parsed (among first List.mem_cons_self) (now _)
            · rw [Function.update_of_ne here]
              exact now channelId
      exact all frame.channels s.countFrame (fun _ member => member) held channelId
  next => exact held channelId

/-- The same of every step, which tells a frame's channels apart from any others. -/
theorem slots_kept (inv : ChannelId → LightMapping → Prop)
    (flush : ∀ channelId mapping, inv channelId mapping → inv channelId mapping.forget)
    (take : ∀ channelId mapping after, inv channelId mapping → Taken mapping after → inv channelId after)
    {s t : Engine} {event : Event} (move : Move s event t)
    (schedule : ∀ data frame channel mapping, event = .frame data → parseHuestreamFrame data = .ok (some frame) →
      channel ∈ frame.channels → inv channel.channelId mapping →
      inv channel.channelId (mapping.schedule channel frame.colorSpace))
    (queue : ∀ channelId body slot, event = .command channelId body → Accepts s channelId body slot →
      inv channelId (s.mapping channelId) → inv channelId ((s.mapping channelId).queue slot))
    (held : ∀ channelId, inv channelId (s.mapping channelId)) (channelId : ChannelId) :
    inv channelId (t.mapping channelId) := by
  rcases slot_step move channelId with ⟨data, rfl, rfl⟩ | slot
  · exact frame_kept inv (fun frame channel mapping => schedule data frame channel mapping rfl) held channelId
  · generalize after : t.mapping channelId = mapping at slot
    cases slot with
    | kept => exact held channelId
    | flushed => exact flush channelId _ (held channelId)
    | queued same accepted => exact queue channelId _ _ same accepted (held channelId)
    | taken dirty taken => exact take channelId _ _ (held channelId) taken

/-- The data waiting in a slot. -/
def SlotBounded (mapping : LightMapping) : Prop :=
  ∀ data, mapping.pendingData = some data → Bounded data ∧ Ranged data mapping.pendingFrom

theorem Bounded.update {pending data : ServiceData} (before : Bounded pending) (now : Bounded data)
    (entityId : Option String) : Bounded { pending.update data with entityId := entityId } := by
  constructor
  · intro value found
    rcases (Option.orElse_eq_some ..).mp found with new | ⟨_, old⟩
    · exact now.brightness value new
    · exact before.brightness value old
  · intro value found
    rcases (Option.orElse_eq_some ..).mp found with new | ⟨_, old⟩
    · exact now.transition value new
    · exact before.transition value old
  · intro color member kind
    have member' : color ∈ colors (pending.update data) := member
    rcases colors_update member' with old | new
    · exact before.raw color old kind
    · exact now.raw color new kind

theorem SlotBounded.queue {mapping : LightMapping} {lightId : Nat} {body : Json} {slot : ServiceData × List Write}
    (held : SlotBounded mapping) (accepted : mapping.commandSlot lightId body = .ok (some slot)) :
    SlotBounded (mapping.queue slot) := by
  obtain ⟨data, pending, older, translated, _, rfl, merged⟩ := commandSlot_eq accepted
  obtain ⟨own, ranged⟩ := v1_bounded translated
  have before : Bounded pending ∧ Ranged pending older := by
    rcases merged with ⟨rfl, rfl⟩ | ⟨_, found, rfl⟩
    · exact gamut_empty
    · exact held pending found
  rintro _ ⟨⟩
  refine ⟨before.1.update own _, ?_⟩
  intro ranges color member
  have member' : color ∈ colors (pending.update data) := member
  rcases colors_update member' with old | new
  · exact before.2 (fun lightId body written => ranges lightId body (List.mem_cons_of_mem _ written)) color old
  · exact ranged (ranges lightId body List.mem_cons_self) color new

theorem slots_bounded {s : Engine} (reached : Reachable machine Always s) (channelId : ChannelId) :
    SlotBounded (s.mapping channelId) := by
  refine reached.invariant (fun x => ∀ channelId, SlotBounded (x.mapping channelId)) ?_ ?_ channelId
  · rintro s ⟨lights, states, now, rfl⟩ channelId data waiting
    obtain ⟨other, entityId, same⟩ := fresh_mapping lights states now channelId
    rw [same] at waiting
    cases waiting
  · intro x event y held _ step
    refine slots_kept (fun _ mapping => SlotBounded mapping) ?_ ?_ (step_move step) ?_ ?_ held
    · intro _ mapping _ data waiting
      cases waiting
    · rintro _ mapping _ _ ⟨logged, sent, rfl⟩ data waiting
      cases waiting
    · intro data frame channel mapping _ parsed member _ found waiting
      obtain ⟨red, green, blue⟩ := parsed_short parsed member
      obtain ⟨bounded, gamut⟩ := frameData_gamut mapping.entityId frame.colorSpace red green blue
      rw [← Option.some.inj waiting]
      exact ⟨bounded, fun _ => gamut⟩
    · intro channelId body slot _ accepted before
      exact before.queue accepted.2.2

theorem dynamicTransition_bounds (now lastSent : ℚ) :
    0 ≤ dynamicTransition now lastSent ∧ dynamicTransition now lastSent ≤ 2 := by
  unfold dynamicTransition
  split
  · constructor
    · exact le_min ((by norm_num : (0 : ℚ) ≤ 1 / 10).trans (le_max_right _ _)) (by norm_num)
    · exact min_le_right _ _
  · norm_num

theorem callOf_bounded {s : Engine} {channelId : ChannelId} {mapping : LightMapping} {data : ServiceData}
    (bounded : Bounded data) (ranged : Ranged data mapping.pendingFrom) :
    Bounded (s.callOf channelId mapping data).data ∧
      Ranged (s.callOf channelId mapping data).data (s.callOf channelId mapping data).source := by
  have colored : colors (s.callOf channelId mapping data).data = colors data := by
    unfold Engine.callOf
    simp only []
    split <;> rfl
  refine ⟨⟨?_, ?_, ?_⟩, ?_⟩
  · have bright : (s.callOf channelId mapping data).data.brightness = data.brightness := by
      unfold Engine.callOf
      simp only []
      split <;> rfl
    rw [bright]
    exact bounded.brightness
  · unfold Engine.callOf
    simp only []
    split
    · exact bounded.transition
    · rintro _ ⟨⟩
      exact (dynamicTransition_bounds _ _).1
  · rw [colored]
    exact bounded.raw
  · unfold Ranged
    rw [colored]
    exact ranged

/-- Whatever the frames and the bodies hold, every call has a brightness, a transition, an RGB colour and a colour
temperature in range; its coordinates, hue and saturation are so unless a body behind the call named them out of the
ranges of the Hue API. -/
theorem calls_in_range {s : Engine} (reached : Reachable machine Always s) :
    ∀ drain call begun, .callBegun drain call begun ∈ s.log → Bounded call.data ∧ Ranged call.data call.source := by
  obtain ⟨first, events, start, run⟩ := reached
  obtain ⟨new, logged, emitted⟩ := run_adds run
  intro drain call begun member
  have empty : first.log = [] := by
    obtain ⟨lights, states, now, rfl⟩ := start
    rfl
  rw [logged, empty, List.append_nil] at member
  obtain ⟨before, mid, event, run, _, emits⟩ := emitted _ member
  cases emits with
  | callBegun outcome found live dirty pending same =>
    rw [same]
    obtain ⟨bounded, ranged⟩ := slots_bounded ⟨first, before, start, run⟩ _ _ pending
    exact callOf_bounded bounded ranged

/-- A body far out of the ranges of the Hue API. -/
def extremes : List Event :=
  [.command 1 (.object [("bri", .int 100000), ("transitiontime", .int (-5)), ("ct", .int 1)]), .drain 0 .returned]

theorem calls_in_range_extremes : ∃ s drain call begun, Reachable machine Always s ∧
    .callBegun drain call begun ∈ s.log ∧ call.data.brightness = some 255 ∧ call.data.colorTempKelvin = some 1000000 ∧
      Bounded call.data := by
  have played : (play machine Always oneLight extremes).any (fun s => s.log.any (begins (fun call =>
      decide (call.data.brightness = some 255) && decide (call.data.colorTempKelvin = some 1000000)))) = true := by
    decide +kernel
  obtain ⟨s, run, found⟩ := (Option.any_eq_true _ _).mp played
  obtain ⟨entry, member, sent⟩ := List.any_eq_true.mp found
  obtain ⟨drain, call, begun, rfl, both⟩ := begins_iff.mp sent
  simp only [Bool.and_eq_true, decide_eq_true_eq] at both
  have reached : Reachable machine Always s := reachable_of_play ⟨_, _, _, rfl⟩ run
  exact ⟨s, drain, call, begun, reached, member, both.1, both.2, (calls_in_range reached drain call begun member).1⟩

end HueEntertainment.ServiceCalls
