import HueEntertainment.HueStream

/-! Per-light state of the engine and the two translations that fill a light's slot: a v1 request
body (`_v1_state_to_service_data` and the merge rule of `handle_light_command`) and a frame's
channel (`_schedule_update`). -/

namespace HueEntertainment.LightCommand
open HueEntertainment.Const PyValue HueStream

abbrev ChannelId := Nat

inductive Service where
  | turnOn
  | turnOff
  deriving DecidableEq, Repr

/-- A service-data dictionary: each key the code ever writes, absent or with its value. -/
structure ServiceData where
  entityId : Option String := none
  transition : Option ℚ := none
  service : Option Service := none
  brightness : Option ℤ := none
  xyColor : Option (PyFloat × PyFloat) := none
  hsColor : Option (PyFloat × PyFloat) := none
  rgbColor : Option (Nat × Nat × Nat) := none
  colorTempKelvin : Option ℤ := none
  deriving DecidableEq, Repr

/-- `self.update(other)`: the keys of `other` win. -/
def ServiceData.update (self other : ServiceData) : ServiceData where
  entityId := other.entityId <|> self.entityId
  transition := other.transition <|> self.transition
  service := other.service <|> self.service
  brightness := other.brightness <|> self.brightness
  xyColor := other.xyColor <|> self.xyColor
  hsColor := other.hsColor <|> self.hsColor
  rgbColor := other.rgbColor <|> self.rgbColor
  colorTempKelvin := other.colorTempKelvin <|> self.colorTempKelvin

@[simp]
theorem ServiceData.empty_update (data : ServiceData) : ({} : ServiceData).update data = data := by
  simp [ServiceData.update]

/-- `body.get(key)`; only an object has the method. -/
def field (body : Json) (key : String) : Option Json :=
  match body with
  | .object fields => fields.lookup key
  | _ => none

def isBool (value : Option Json) (expected : Bool) : Bool :=
  match value with
  | some (.bool b) => b == expected
  | _ => false

/-- What the body's first `in` test or `.get` raises when the body is not an object. -/
def requireObject : Json → Except PyError Unit
  | .object _ => .ok ()
  | .str _ | .array _ => .error .attributeError
  | .null | .bool _ | .int _ | .float _ => .error .typeError

/-- `try: ... except (TypeError, ValueError): fallback`. -/
def catching {α : Type} (attempt : Except PyError α) (fallback : α) : Except PyError α :=
  match attempt with
  | .error .typeError | .error .valueError => .ok fallback
  | other => other

/-- `max(int(body["transitiontime"]), 0) / 10`. -/
def transitionOf (value : Json) : Except PyError (Option ℚ) :=
  catching (do
    let tenths ← intOf value
    let seconds ← trueDiv (max tenths 0) 10
    return some seconds) none

def brightnessOf (value : Json) : Except PyError ℤ := do
  let bri ← catching (intOf value) 254
  let scaled ← trueDiv (bri * 255) 254
  return max 1 (min 255 (roundHalfEven scaled))

/-- `round(1_000_000 / int(body["ct"]))` for a positive mired value. -/
def kelvinOf (value : Json) : Except PyError (Option ℤ) :=
  catching (do
    let mired ← intOf value
    if 0 < mired then
      let kelvin ← trueDiv 1000000 mired
      return some (roundHalfEven kelvin)
    else return none) none

/-- The colour keys, in order of precedence: xy, then hue and sat, then ct. -/
def colorOf (body : Json) (data : ServiceData) : Except PyError ServiceData :=
  match field body "xy" with
  | some (.array [x, y]) => do
      let x ← floatOf x
      let y ← floatOf y
      return { data with xyColor := some (x, y) }
  | _ =>
      if (field body "hue").isSome ∨ (field body "sat").isSome then do
        let hue ← floatOf ((field body "hue").getD (.int 0))
        let sat ← floatOf ((field body "sat").getD (.int 254))
        return { data with hsColor := some (hue.scaled 65535 360, sat.scaled 254 100) }
      else match field body "ct" with
        | some ct => do
            let kelvin ← kelvinOf ct
            return { data with colorTempKelvin := kelvin }
        | none => return data

def v1StateToServiceData (body : Json) : Except PyError ServiceData := do
  requireObject body
  let transition ← match field body "transitiontime" with
    | some value => transitionOf value
    | none => .ok none
  let data : ServiceData := { transition := transition }
  if isBool (field body "on") false then return { data with service := some .turnOff }
  let brightness ← match field body "bri" with
    | some value => (brightnessOf value).map some
    | none => .ok none
  let data ← colorOf body { data with brightness := brightness }
  if data = {} ∧ isBool (field body "on") true = false then return {}
  return { data with service := some .turnOn }

/-- Ghost: what wrote a part of a slot's pending data. -/
inductive Write where
  | frame (color : ChannelColor) (colorSpace : Nat)
  | put (lightId : Nat) (body : Json)

/-- One light of the entertainment area. The last two fields are ghost: the writes whose data is
in `pendingData`, newest first, and the colour space of the frame that set `lastR`, `lastG`
and `lastB`. -/
structure LightMapping where
  channelId : ChannelId
  entityId : String
  lastR : ℤ := -1
  lastG : ℤ := -1
  lastB : ℤ := -1
  pendingData : Option ServiceData := none
  dirty : Bool := false
  lastSent : ℚ := 0
  explicitTransition : Bool := false
  unavailableLogged : Bool := false
  pendingFrom : List Write := []
  lastSpace : Option Nat := none

/-- What `_reset_mappings` does to one light. -/
def LightMapping.forget (mapping : LightMapping) : LightMapping :=
  { mapping with
    dirty := false, pendingData := none, pendingFrom := [],
    lastR := -1, lastG := -1, lastB := -1, lastSpace := none, lastSent := 0 }

/-- The grab of the drain loop: read and clear the slot. -/
def LightMapping.grab (mapping : LightMapping) : LightMapping :=
  { mapping with dirty := false, pendingData := none, pendingFrom := [], explicitTransition := false }

/-- The flag of `_light_available`. -/
def LightMapping.noted (mapping : LightMapping) (unavailable : Bool) : LightMapping :=
  { mapping with unavailableLogged := unavailable }

def LightMapping.sentAt (mapping : LightMapping) (now : ℚ) : LightMapping :=
  { mapping with lastSent := now }

/-- The queued data a new v1 body merges into: none of it when nothing is queued or when a frame
wrote the slot. -/
def LightMapping.queued (mapping : LightMapping) : ServiceData × List Write :=
  match mapping.pendingData with
  | some pending =>
      if mapping.dirty ∧ pending ≠ {} ∧ mapping.explicitTransition then (pending, mapping.pendingFrom)
      else ({}, [])
  | none => ({}, [])

/-- The slot that a v1 body leaves behind, `none` when the body queues nothing. -/
def LightMapping.commandSlot (mapping : LightMapping) (lightId : Nat) (body : Json) :
    Except PyError (Option (ServiceData × List Write)) := do
  let data ← v1StateToServiceData body
  let slot := fun (pending : ServiceData) (written : List Write) =>
    ({ pending.update data with entityId := some mapping.entityId }, .put lightId body :: written)
  if data = {} then return none
  let (pending, written) := mapping.queued
  if data.service = some .turnOff then return some (slot {} [])
  else if pending.service = some .turnOff then
    if isBool (field body "on") true then return some (slot {} []) else return none
  else return some (slot pending written)

/-- What a body can merge into was queued by classic commands. -/
theorem queued_cases (mapping : LightMapping) : mapping.queued = ({}, []) ∨
    (mapping.dirty = true ∧ mapping.explicitTransition = true ∧ mapping.pendingData = some mapping.queued.1 ∧
      mapping.queued.2 = mapping.pendingFrom) := by
  unfold LightMapping.queued
  cases pending : mapping.pendingData with
  | none => exact .inl rfl
  | some pending =>
    simp only []
    split
    next merges => exact .inr ⟨merges.1, merges.2.2, rfl, rfl⟩
    next => exact .inl rfl

/-- A slot that a body leaves behind has the body's data alone or, when neither is an off, merged into
what was queued. -/
theorem commandSlot_cases {mapping : LightMapping} {lightId : Nat} {body : Json} {slot : ServiceData × List Write}
    (accepted : mapping.commandSlot lightId body = .ok (some slot)) :
    ∃ data, v1StateToServiceData body = .ok data ∧ data ≠ {} ∧
      (slot = ({ data with entityId := some mapping.entityId }, [.put lightId body]) ∨
        (slot = ({ mapping.queued.1.update data with entityId := some mapping.entityId },
            .put lightId body :: mapping.queued.2) ∧
          data.service ≠ some .turnOff ∧ mapping.queued.1.service ≠ some .turnOff)) := by
  unfold LightMapping.commandSlot at accepted
  cases translated : v1StateToServiceData body with
  | error error => simp [translated, bind, Except.bind] at accepted
  | ok data =>
    refine ⟨data, rfl, ?_⟩
    simp only [translated, bind, Except.bind] at accepted
    by_cases empty : data = {}
    · simp [empty, pure, Except.pure] at accepted
    · simp only [if_neg empty, ServiceData.empty_update] at accepted
      refine ⟨empty, ?_⟩
      by_cases off : data.service = some .turnOff
      · simp only [if_pos off, pure, Except.pure, Except.ok.injEq, Option.some.injEq] at accepted
        exact .inl accepted.symm
      · simp only [if_neg off] at accepted
        split at accepted
        next =>
          split at accepted
          next =>
            simp only [pure, Except.pure, Except.ok.injEq, Option.some.injEq] at accepted
            exact .inl accepted.symm
          next => simp [pure, Except.pure] at accepted
        next on =>
          simp only [pure, Except.pure, Except.ok.injEq, Option.some.injEq] at accepted
          exact .inr ⟨accepted.symm, off, on⟩

/-- A slot that a body leaves behind merges the body's data into nothing or into what was queued. -/
theorem commandSlot_eq {mapping : LightMapping} {lightId : Nat} {body : Json}
    {slot : ServiceData × List Write} (accepted : mapping.commandSlot lightId body = .ok (some slot)) :
    ∃ data pending older, v1StateToServiceData body = .ok data ∧ data ≠ {} ∧
      slot = ({ pending.update data with entityId := some mapping.entityId }, .put lightId body :: older) ∧
      ((pending = {} ∧ older = []) ∨ (mapping.dirty = true ∧ mapping.pendingData = some pending ∧
        older = mapping.pendingFrom)) := by
  obtain ⟨data, translated, nonempty, alone | ⟨merged, _⟩⟩ := commandSlot_cases accepted
  · refine ⟨data, {}, [], translated, nonempty, ?_, .inl ⟨rfl, rfl⟩⟩
    rw [alone, ServiceData.empty_update]
  · refine ⟨data, mapping.queued.1, mapping.queued.2, translated, nonempty, merged, ?_⟩
    rcases queued_cases mapping with fresh | ⟨dirty, _, pending, older⟩
    · exact .inl (by rw [fresh]; exact ⟨rfl, rfl⟩)
    · exact .inr ⟨dirty, pending, older⟩

/-- The mapping after `handle_light_command` queued a slot. -/
def LightMapping.queue (mapping : LightMapping) (slot : ServiceData × List Write) : LightMapping :=
  { mapping with
    pendingData := some slot.1, pendingFrom := slot.2, explicitTransition := true, dirty := true }

/-- The tolerance test of `_schedule_update` in its XY branch. -/
def LightMapping.withinXy (mapping : LightMapping) (channel : ChannelColor) : Bool :=
  let lastX : ℚ := if 0 ≤ mapping.lastR then mapping.lastR / 65535 else -1
  let lastY : ℚ := if 0 ≤ mapping.lastG then mapping.lastG / 65535 else -1
  |(channel.r : ℚ) / 65535 - lastX| < cieTolerance && |(channel.g : ℚ) / 65535 - lastY| < cieTolerance &&
    |(channel.b : ℤ) - mapping.lastB| < brightnessTolerance

/-- The tolerance test of `_schedule_update` in its RGB branch. -/
def LightMapping.withinRgb (mapping : LightMapping) (channel : ChannelColor) : Bool :=
  |(channel.r : ℤ) - mapping.lastR| < brightnessTolerance &&
    |(channel.g : ℤ) - mapping.lastG| < brightnessTolerance &&
    |(channel.b : ℤ) - mapping.lastB| < brightnessTolerance

def LightMapping.withinTolerance (mapping : LightMapping) (channel : ChannelColor)
    (colorSpace : Nat) : Bool :=
  if colorSpace = colorSpaceXy then mapping.withinXy channel else mapping.withinRgb channel

/-- The service data of a frame's channel. -/
def frameData (entityId : String) (channel : ChannelColor) (colorSpace : Nat) : ServiceData :=
  if colorSpace = colorSpaceXy then
    { entityId := some entityId
      xyColor := some (.finite (channel.r / 65535), .finite (channel.g / 65535))
      brightness := some (roundHalfEven ((channel.b : ℚ) / 65535 * 255)) }
  else
    let peak := max (max channel.r channel.g) channel.b / 256
    { entityId := some entityId
      rgbColor := some (channel.r / 256, channel.g / 256, channel.b / 256)
      brightness := some (if peak = 0 then 1 else peak : Nat) }

/-- The mapping after `_schedule_update` wrote its slot. -/
def LightMapping.schedule (mapping : LightMapping) (channel : ChannelColor) (colorSpace : Nat) :
    LightMapping :=
  { mapping with
    lastR := channel.r, lastG := channel.g, lastB := channel.b, lastSpace := some colorSpace
    pendingData := some (frameData mapping.entityId channel colorSpace)
    pendingFrom := [.frame channel colorSpace], dirty := true }

/-- The service data that writes leave in a slot, the newest write first. -/
def replay (entityId : String) : List Write → ServiceData
  | [] => {}
  | .frame channel colorSpace :: _ => frameData entityId channel colorSpace
  | .put _ body :: older =>
      match v1StateToServiceData body with
      | .ok data => { (replay entityId older).update data with entityId := some entityId }
      | .error _ => replay entityId older

/-- The ghost writes of a dirty slot tell its data. -/
def LightMapping.Truthful (mapping : LightMapping) : Prop :=
  mapping.dirty = true → mapping.pendingData = some (replay mapping.entityId mapping.pendingFrom)

theorem LightMapping.Truthful.clean {mapping : LightMapping} (clean : mapping.dirty = false) :
    mapping.Truthful := by
  intro dirty
  rw [clean] at dirty
  cases dirty

theorem LightMapping.schedule_truthful (mapping : LightMapping) (channel : ChannelColor) (colorSpace : Nat) :
    (mapping.schedule channel colorSpace).Truthful :=
  fun _ => rfl

theorem LightMapping.Truthful.queue {mapping : LightMapping} (truthful : mapping.Truthful) {lightId : Nat}
    {body : Json} {slot : ServiceData × List Write}
    (accepted : mapping.commandSlot lightId body = .ok (some slot)) : (mapping.queue slot).Truthful := by
  intro _
  obtain ⟨data, pending, older, translated, _, rfl, merged⟩ := commandSlot_eq accepted
  have before : replay mapping.entityId older = pending := by
    rcases merged with ⟨rfl, rfl⟩ | ⟨dirty, found, rfl⟩
    · rfl
    · have told := truthful dirty
      rw [found] at told
      exact (Option.some.inj told).symm
  simp only [LightMapping.queue, replay, translated, before]

/-- The transition the drain loop gives to data that brings none of its own. -/
def dynamicTransition (now lastSent : ℚ) : ℚ :=
  if 0 < lastSent then min (max (roundDigits (now - lastSent) 1) (1 / 10)) 2 else 0

end HueEntertainment.LightCommand
