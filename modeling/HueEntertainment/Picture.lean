import HueEntertainment.ClassicCalls

/-! What a light was last sent in a session against the newest frame that names it. The tolerance
reference of a light is set when its slot is written, so it is the last dispatched colour only
where every written slot is delivered and every comparison is made in one colour space. -/

namespace HueEntertainment.Picture
open HueEntertainment.Const HueStream LightCommand PyValue Entertainment EngineSteps EngineFrames DrainSteps EngineMoves
  EngineHistory EngineSlots DrainTask ClassicCalls Runs

/-- The colours differ by less than the tolerance of the colour space. -/
def Near (colorSpace : Nat) (color other : ChannelColor) : Prop :=
  if colorSpace = colorSpaceXy then
    |(color.r : ℚ) / 65535 - other.r / 65535| < cieTolerance ∧
      |(color.g : ℚ) / 65535 - other.g / 65535| < cieTolerance ∧
      |(color.b : ℤ) - other.b| < brightnessTolerance
  else
    |(color.r : ℤ) - other.r| < brightnessTolerance ∧ |(color.g : ℤ) - other.g| < brightnessTolerance ∧
      |(color.b : ℤ) - other.b| < brightnessTolerance

theorem Near.refl (colorSpace : Nat) (color : ChannelColor) : Near colorSpace color color := by
  unfold Near
  split <;> simp [cieTolerance, brightnessTolerance]

/-- The newest colour of the light, after an event. -/
def shown (channelId : ChannelId) (newest : Option (ChannelColor × Nat)) : Event → Option (ChannelColor × Nat)
  | .frame data =>
      match parseHuestreamFrame data with
      | .ok (some frame) =>
          frame.channels.foldl (fun newest channel =>
            if channel.channelId = channelId then some (channel, frame.colorSpace) else newest) newest
      | _ => newest
  | _ => newest

/-- What the newest frame that names the light says of it, with the frame's colour space. -/
def newestFrame (channelId : ChannelId) (events : List Event) : Option (ChannelColor × Nat) :=
  events.foldl (shown channelId) none

/-- The newest call for the light that returned in the current session. -/
def lastDelivered (channelId : ChannelId) : List Obs → Option Call
  | [] => none
  | .sessionBegun _ :: _ => none
  | .callEnded _ call .returned :: older =>
      if call.channelId = channelId then some call else lastDelivered channelId older
  | _ :: older => lastDelivered channelId older

/-- The events of a session that is neither suppressed nor stopped, without commands for the light. -/
def InSession (channelId : ChannelId) : Event → Prop
  | .pause _ | .release _ | .restore => False
  | .command lightId _ => lightId ≠ channelId
  | _ => True

instance (channelId : ChannelId) : (event : Event) → Decidable (InSession channelId event)
  | .pause _ | .release _ | .restore => .isFalse not_false
  | .command lightId _ => inferInstanceAs (Decidable (lightId ≠ channelId))
  | .frame _ | .snapshot | .resume | .fire _ | .drain .. | .drained _ | .reproduced .. | .tick _ | .setState .. =>
      .isTrue trivial

/-- The step keeps the light's reference honest: the frame does not match the reference where it
was never set or was set in another colour space, no drain step drops the light's slot, and no
call for the light fails unless its colour has been replaced. -/
def Delivers (channelId : ChannelId) (s : Engine) : Event → Prop
  | .frame data => ∀ frame channel, parseHuestreamFrame data = .ok (some frame) →
      frame.channels.find? (fun channel => channel.channelId == channelId) = some channel →
      (s.mapping channelId).withinTolerance channel frame.colorSpace = true →
      (s.mapping channelId).lastSpace = some frame.colorSpace
  | .drain drain outcome =>
      (∀ t new, s.drainStep drain outcome = some t → t.log = new ++ s.log → .dropped channelId ∉ new) ∧
      ∀ call, InFlight s drain call → call.channelId = channelId → outcome = .raised →
        (s.mapping channelId).dirty = true ∨ (s.mapping channelId).lastSpace = none
  | _ => True

/-- The tolerance reference of a light. -/
def References (mapping : LightMapping) (last : ChannelColor) (colorSpace : Nat) : Prop :=
  (mapping.lastR, mapping.lastG, mapping.lastB, mapping.lastSpace) =
    ((last.r : ℤ), (last.g : ℤ), (last.b : ℤ), some colorSpace)

theorem References.near {mapping : LightMapping} {last color : ChannelColor} {colorSpace : Nat}
    (references : References mapping last colorSpace)
    (within : mapping.withinTolerance color colorSpace = true) : Near colorSpace color last := by
  simp only [References, Prod.mk.injEq] at references
  obtain ⟨r, g, b, _⟩ := references
  unfold LightMapping.withinTolerance at within
  unfold Near
  by_cases xy : colorSpace = colorSpaceXy
  · rw [if_pos xy] at within ⊢
    simpa [LightMapping.withinXy, r, g, b, and_assoc] using within
  · rw [if_neg xy] at within ⊢
    simpa [LightMapping.withinRgb, r, g, b, and_assoc] using within

/-- The call sends this colour, of a frame in this colour space, to the light of the mapping. -/
def Sends (call : Call) (mapping : LightMapping) (last : ChannelColor) (colorSpace : Nat) : Prop :=
  call.source = [.frame last colorSpace] ∧ Carries call mapping.entityId

/-- How far the colour of a light's reference has come. -/
inductive OnItsWay (channelId : ChannelId) (s : Engine) (last : ChannelColor) (colorSpace : Nat) : Prop where
  | waiting (dirty : (s.mapping channelId).dirty = true)
      (source : (s.mapping channelId).pendingFrom = [.frame last colorSpace])
  | flying {drain : DrainId} {call : Call} (clean : (s.mapping channelId).dirty = false)
      (flying : InFlight s drain call) (channel : call.channelId = channelId)
      (sends : Sends call (s.mapping channelId) last colorSpace)
  | delivered {call : Call} (clean : (s.mapping channelId).dirty = false)
      (landed : ∀ drain other, InFlight s drain other → other.channelId ≠ channelId)
      (newest : lastDelivered channelId s.log = some call)
      (sends : Sends call (s.mapping channelId) last colorSpace)

/-- The newest frame's colour for a light is within tolerance of its reference, and the colour of the
reference is on its way to the light or has reached it. -/
inductive Tracked (channelId : ChannelId) (s : Engine) : Option (ChannelColor × Nat) → Prop where
  | dark (clean : (s.mapping channelId).dirty = false)
      (unset : (s.mapping channelId).lastSpace = none) : Tracked channelId s none
  | lit {color last : ChannelColor} {colorSpace : Nat}
      (references : References (s.mapping channelId) last colorSpace) (near : Near colorSpace color last)
      (way : OnItsWay channelId s last colorSpace) : Tracked channelId s (some (color, colorSpace))

theorem lastDelivered_silent (channelId : ChannelId) {new : List Obs} (quiet : ∀ entry ∈ new, silent entry = true)
    (log : List Obs) : lastDelivered channelId (new ++ log) = lastDelivered channelId log := by
  induction new with
  | nil => rfl
  | cons entry rest ih =>
    have later := ih (fun entry member => quiet entry (List.mem_cons_of_mem _ member))
    have first := quiet entry List.mem_cons_self
    rw [List.cons_append]
    cases entry with
    | sessionBegun saved => cases first
    | callEnded drain call outcome => cases first
    | _ => exact later

/-- Nothing that the tracking of a light reads has changed. -/
theorem Tracked.of_same {channelId : ChannelId} {s t : Engine} {newest : Option (ChannelColor × Nat)}
    (tracked : Tracked channelId s newest) (mapping : t.mapping channelId = s.mapping channelId)
    (drains : t.drains = s.drains) (log : lastDelivered channelId t.log = lastDelivered channelId s.log) :
    Tracked channelId t newest := by
  have flights : ∀ drain call, InFlight t drain call ↔ InFlight s drain call := by
    intro drain call
    unfold InFlight
    rw [drains]
  cases tracked with
  | dark clean unset => exact .dark (by rw [mapping]; exact clean) (by rw [mapping]; exact unset)
  | lit references near way =>
    rw [← mapping] at references
    refine .lit references near ?_
    cases way with
    | waiting dirty source => exact .waiting (by rw [mapping]; exact dirty) (by rw [mapping]; exact source)
    | flying clean flying channel sends =>
      exact .flying (by rw [mapping]; exact clean) ((flights _ _).mpr flying) channel (by rw [mapping]; exact sends)
    | delivered clean landed newest sends =>
      refine .delivered (by rw [mapping]; exact clean) ?_ (log.trans newest) (by rw [mapping]; exact sends)
      intro drain call flying
      exact landed drain call ((flights drain call).mp flying)

/-- A session in which nothing is suppressed or stopped, of a mapped light. -/
structure OnAir (channelId : ChannelId) (s : Engine) : Prop where
  mapped : channelId ∈ s.channels
  active : s.active = true
  unsuppressed : s.suppressed = false
  owned : LoopOwned s

theorem OnAir.unawaited {channelId : ChannelId} {s : Engine} (air : OnAir channelId s) : ¬AwaitsDrain s :=
  air.owned.unawaited air.active

theorem OnAir.closed {channelId : ChannelId} {s : Engine} (air : OnAir channelId s) : ¬Opens s := by
  rintro (releasing | inactive)
  · rw [unreleased_of_unsuppressed air.unsuppressed] at releasing
    cases releasing
  · rw [air.active] at inactive
    cases inactive

theorem OnAir.running {channelId : ChannelId} {s : Engine} (air : OnAir channelId s) : s.drainRunning = true :=
  (air.owned.free air.unawaited).streaming air.active

/-- A step that keeps the session and suppresses nothing more keeps it on air. -/
theorem OnAir.of_less {channelId : ChannelId} {s t : Engine} (air : OnAir channelId s) (owned : LoopOwned t)
    (same : (t.channels, t.active, t.releasing) = (s.channels, s.active, s.releasing))
    (paused : ∀ deadline, t.pausedUntil = some deadline → s.pausedUntil = some deadline) (now : s.now ≤ t.now) :
    OnAir channelId t := by
  simp only [Prod.mk.injEq] at same
  obtain ⟨channels, active, releasing⟩ := same
  refine ⟨channels ▸ air.mapped, active.trans air.active, ?_, owned⟩
  exact unsuppressed_of_less air.unsuppressed paused now (fun held => releasing ▸ held)

/-- A step that keeps the session's fields keeps it on air. -/
theorem OnAir.of_same {channelId : ChannelId} {s t : Engine} (air : OnAir channelId s) (owned : LoopOwned t)
    (same : (t.channels, t.active, t.releasing, t.pausedUntil, t.now) =
      (s.channels, s.active, s.releasing, s.pausedUntil, s.now)) : OnAir channelId t := by
  simp only [Prod.mk.injEq] at same
  obtain ⟨channels, active, releasing, paused, now⟩ := same
  refine air.of_less owned (by rw [channels, active, releasing]) (fun deadline found => paused ▸ found) ?_
  rw [now]

/-- A step in a session is a frame's, a drain loop's, or leaves the light and the loops alone. -/
theorem OnAir.step {channelId : ChannelId} {s t : Engine} {event : Event} (air : OnAir channelId s)
    (within : InSession channelId event) (move : Move s event t) : OnAir channelId t ∧
    ((∃ data, event = .frame data ∧ t = s.handleFrame data) ∨
      (∃ drain outcome, event = .drain drain outcome ∧ DrainMove s drain outcome t) ∨
      (t.mapping channelId = s.mapping channelId ∧ t.drains = s.drains ∧
        lastDelivered channelId t.log = lastDelivered channelId s.log ∧
        ∀ newest, shown channelId newest event = newest)) := by
  have owned : LoopOwned t := air.owned.step (fun awaits => absurd awaits air.unawaited) move
  have noticed : ∀ {entries : List Obs}, Notices entries →
      lastDelivered channelId (entries ++ s.log) = lastDelivered channelId s.log :=
    fun notices => lastDelivered_silent channelId (Notices.silent notices) s.log
  cases move with
  | @frame data mapping wake stats last entries wrote held same =>
    exact ⟨air.of_same owned rfl, .inl ⟨data, rfl, same.symm⟩⟩
  | commandKept rejected => exact ⟨air, .inr (.inr ⟨rfl, rfl, rfl, fun _ => rfl⟩)⟩
  | @commandJoined lightId body slot accepted running =>
    have other : channelId ≠ lightId := fun same => within same.symm
    exact ⟨air.of_same owned rfl, .inr (.inr ⟨Function.update_of_ne other _ _, rfl, rfl, fun _ => rfl⟩)⟩
  | commandStarted accepted idle notices =>
    rw [air.running] at idle
    cases idle
  | snapshotKept closed => exact ⟨air, .inr (.inr ⟨rfl, rfl, rfl, fun _ => rfl⟩)⟩
  | snapshotJoined unholds notices running => exact absurd (opens_of_unholds unholds) air.closed
  | snapshotStarted unholds notices idle notices' => exact absurd (opens_of_unholds unholds) air.closed
  | restoreKept inactive => exact within.elim
  | restoreSuspended active waits notices => exact within.elim
  | restoreTook active free notices notices' => exact within.elim
  | pauseKept releasing => exact within.elim
  | paused unreleased notices => exact within.elim
  | resumeKept => exact ⟨air, .inr (.inr ⟨rfl, rfl, rfl, fun _ => rfl⟩)⟩
  | resumed unreleased notices =>
    refine ⟨air.of_less owned rfl (fun deadline found => by cases found) (le_refl _), ?_⟩
    exact .inr (.inr ⟨rfl, rfl, noticed notices, fun _ => rfl⟩)
  | released notices => exact within.elim
  | pauseExpired pending notices =>
    refine ⟨air.of_less owned rfl (fun deadline found => by cases found) (le_refl _), ?_⟩
    exact .inr (.inr ⟨rfl, rfl, noticed notices, fun _ => rfl⟩)
  | graceStale pending unreleased =>
    exact ⟨air.of_same owned rfl, .inr (.inr ⟨rfl, rfl, rfl, fun _ => rfl⟩)⟩
  | graceEnded pending releasing inactive notices => exact absurd (.inl releasing) air.closed
  | graceForced pending releasing active notices => exact absurd (.inl releasing) air.closed
  | @drain drain outcome _ move =>
    refine ⟨?_, .inr (.inl ⟨drain, outcome, rfl, move⟩)⟩
    obtain ⟨_, _, _, _, _, _, rfl⟩ := move.frame
    exact air.of_same owned rfl
  | drained found finished notices => exact absurd ⟨_, _, found⟩ air.unawaited
  | reproduced found => exact ⟨air.of_same owned rfl, .inr (.inr ⟨rfl, rfl, rfl, fun _ => rfl⟩)⟩
  | tick forward =>
    refine ⟨air.of_less owned rfl (fun _ found => found) ?_, .inr (.inr ⟨rfl, rfl, rfl, fun _ => rfl⟩)⟩
    exact le_add_of_nonneg_right forward
  | setState => exact ⟨air.of_same owned rfl, .inr (.inr ⟨rfl, rfl, rfl, fun _ => rfl⟩)⟩

/-- One channel of a frame. -/
theorem Tracked.channel {channelId : ChannelId} {s : Engine} {newest : Option (ChannelColor × Nat)}
    (tracked : Tracked channelId s newest) (mapped : channelId ∈ s.channels) (color : ChannelColor)
    (colorSpace : Nat) (known : color.channelId = channelId →
      (s.mapping channelId).withinTolerance color colorSpace = true →
      (s.mapping channelId).lastSpace = some colorSpace) :
    Tracked channelId (s.scheduleUpdate color colorSpace)
      (if color.channelId = channelId then some (color, colorSpace) else newest) ∧
    (color.channelId = channelId →
      ((s.scheduleUpdate color colorSpace).mapping channelId).lastSpace = some colorSpace) ∧
    (color.channelId ≠ channelId →
      (s.scheduleUpdate color colorSpace).mapping channelId = s.mapping channelId) := by
  by_cases named : color.channelId = channelId
  · rw [if_pos named]
    subst channelId
    rcases scheduleUpdate_cases s color colorSpace with ⟨unmapped, _⟩ | ⟨_, within, same⟩ | ⟨_, outside, same⟩
    · exact absurd mapped unmapped
    · rw [same]
      have space := known rfl within
      refine ⟨?_, fun _ => space, fun other => absurd rfl other⟩
      cases tracked with
      | dark clean unset =>
        rw [unset] at space
        cases space
      | @lit old last colorSpace' references near way =>
        have set : (s.mapping color.channelId).lastSpace = some colorSpace' :=
          congrArg (fun fields => fields.2.2.2) references
        obtain rfl := Option.some.inj (set.symm.trans space)
        have moved : Tracked color.channelId s (some (color, colorSpace')) :=
          .lit references (references.near within) way
        exact moved.of_same rfl rfl rfl
    · rw [same]
      have written : (scheduled s color colorSpace).mapping color.channelId =
          (s.mapping color.channelId).schedule color colorSpace := Function.update_self _ _ _
      refine ⟨?_, fun _ => by rw [written]; rfl, fun other => absurd rfl other⟩
      refine .lit ?_ (.refl colorSpace color) (.waiting ?_ ?_)
      · rw [written]
        rfl
      · rw [written]
        rfl
      · rw [written]
        rfl
  · rw [if_neg named]
    have kept : (s.scheduleUpdate color colorSpace).mapping channelId = s.mapping channelId := by
      rcases scheduleUpdate_cases s color colorSpace with ⟨_, same⟩ | ⟨_, _, same⟩ | ⟨_, _, same⟩
      · rw [same]
      · rw [same]
        rfl
      · rw [same]
        exact Function.update_of_ne (Ne.symm named) _ _
    obtain ⟨mapping, wake, entries, wrote, same⟩ := scheduleUpdate_eq s color colorSpace
    refine ⟨tracked.of_same kept ?_ ?_, fun same => absurd same named, fun _ => kept⟩
    · rw [same]
    · rw [same]
      exact lastDelivered_silent channelId (FrameEntries.silent wrote) s.log

theorem scheduleUpdate_channels (s : Engine) (color : ChannelColor) (colorSpace : Nat) :
    (s.scheduleUpdate color colorSpace).channels = s.channels := by
  obtain ⟨mapping, wake, entries, _, same⟩ := scheduleUpdate_eq s color colorSpace
  rw [same]

/-- The channels of a frame in turn: only the first one that names the light can meet a reference
from outside the frame. -/
theorem Tracked.channels {channelId : ChannelId} (colors : List ChannelColor) (colorSpace : Nat) {s : Engine}
    {newest : Option (ChannelColor × Nat)} (tracked : Tracked channelId s newest) (mapped : channelId ∈ s.channels)
    (known : ∀ color, colors.find? (fun color => color.channelId == channelId) = some color →
      (s.mapping channelId).withinTolerance color colorSpace = true →
      (s.mapping channelId).lastSpace = some colorSpace) :
    Tracked channelId (colors.foldl (fun s color => s.scheduleUpdate color colorSpace) s)
      (colors.foldl (fun newest color =>
        if color.channelId = channelId then some (color, colorSpace) else newest) newest) := by
  induction colors generalizing s newest with
  | nil => exact tracked
  | cons color rest ih =>
    have here : color.channelId = channelId →
        (s.mapping channelId).withinTolerance color colorSpace = true →
        (s.mapping channelId).lastSpace = some colorSpace := by
      intro named
      apply known color
      simp [named]
    obtain ⟨next, set, kept⟩ := tracked.channel mapped color colorSpace here
    rw [List.foldl_cons, List.foldl_cons]
    apply ih next
    · rw [scheduleUpdate_channels]
      exact mapped
    · intro later found within
      by_cases named : color.channelId = channelId
      · exact set named
      · rw [kept named] at within ⊢
        apply known later _ within
        rw [List.find?_cons_of_neg (by simpa using named)]
        exact found

theorem Tracked.frame {channelId : ChannelId} {s : Engine} {newest : Option (ChannelColor × Nat)} {data : Bytes}
    (tracked : Tracked channelId s newest) (air : OnAir channelId s) (delivers : Delivers channelId s (.frame data)) :
    Tracked channelId (s.handleFrame data) (shown channelId newest (.frame data)) := by
  simp only [Engine.handleFrame, shown]
  rcases parsed : parseHuestreamFrame data with error | frame | frame
  · exact tracked
  · exact tracked
  · have free : s.countFrame.suppressed = false := air.unsuppressed
    simp only [free, Bool.false_eq_true, ↓reduceIte]
    have counted : Tracked channelId s.countFrame newest := tracked.of_same rfl rfl rfl
    apply counted.channels frame.channels frame.colorSpace air.mapped
    intro color found within
    exact delivers frame color parsed found within

theorem References.taken {before after : LightMapping} {last : ChannelColor} {colorSpace : Nat}
    (references : References before last colorSpace) (taken : Taken before after) :
    References after last colorSpace := by
  obtain ⟨logged, sent, rfl⟩ := taken
  exact references

/-- A step that leaves the slot of the light: the call in flight for it, if there is one, returns. -/
theorem OnItsWay.kept {channelId : ChannelId} {s t : Engine} {last : ChannelColor} {colorSpace : Nat}
    (way : OnItsWay channelId s last colorSpace) (same : t.mapping channelId = s.mapping channelId)
    (landed : (s.mapping channelId).dirty = false → ∀ drain call, InFlight t drain call → call.channelId ≠ channelId)
    (returned : (s.mapping channelId).dirty = false → ∀ drain call, InFlight s drain call →
      call.channelId = channelId → lastDelivered channelId t.log = some call)
    (unended : (∀ drain call, InFlight s drain call → call.channelId ≠ channelId) →
      lastDelivered channelId t.log = lastDelivered channelId s.log) : OnItsWay channelId t last colorSpace := by
  cases way with
  | waiting dirty source =>
    rw [← same] at dirty source
    exact .waiting dirty source
  | flying clean flying channel sends =>
    have newest := returned clean _ _ flying channel
    have none := landed clean
    rw [← same] at clean sends
    exact .delivered clean none newest sends
  | delivered clean landed' newest sends =>
    have newest := (unended landed').trans newest
    have none := landed clean
    rw [← same] at clean sends
    exact .delivered clean none newest sends

/-- A step that takes the slot of the light into a call. -/
theorem OnItsWay.taken {channelId : ChannelId} {s t : Engine} {last : ChannelColor} {colorSpace : Nat}
    {drain : DrainId} {call : Call} {data : ServiceData} (way : OnItsWay channelId s last colorSpace)
    (truthful : (s.mapping channelId).Truthful) (dirty : (s.mapping channelId).dirty = true)
    (pending : (s.mapping channelId).pendingData = some data)
    (called : call = s.callOf channelId (s.mapping channelId) data)
    (taken : Taken (s.mapping channelId) (t.mapping channelId)) (flying : InFlight t drain call) :
    OnItsWay channelId t last colorSpace := by
  have source : (s.mapping channelId).pendingFrom = [.frame last colorSpace] := by
    cases way with
    | waiting _ source => exact source
    | flying clean flying channel sends =>
      rw [clean] at dirty
      cases dirty
    | delivered clean landed newest sends =>
      rw [clean] at dirty
      cases dirty
  have carries := callOf_carries truthful dirty pending
  rw [← called, ← taken.entityId] at carries
  exact .flying taken.clean flying (by rw [called]; rfl) ⟨by rw [called]; exact source, carries⟩

theorem Tracked.drain {channelId : ChannelId} {s t : Engine} {newest : Option (ChannelColor × Nat)}
    {drain : DrainId} {outcome : Outcome} (tracked : Tracked channelId s newest) (air : OnAir channelId s)
    (truthful : (s.mapping channelId).Truthful) (delivers : Delivers channelId s (.drain drain outcome))
    (step : s.drainStep drain outcome = some t) : Tracked channelId t newest := by
  obtain ⟨undropped, unraised⟩ := delivers
  have free := air.owned.free air.unawaited
  cases drainStep_move step with
  | neverEntered found =>
    have kept := (free.owner drain _ found (by simp)).2.2
    cases kept
  | unwound found live entries notices =>
    have kept := (free.owner drain _ found live).2.2
    cases kept
  | @ran pc after mapping stats wake running begun drops entries found live ended sweep leaves =>
    generalize after' : swept { s with log := endedEntries drain pc outcome ++ s.log } drain mapping stats wake begun
      drops after running entries = t at step
    have flights : ∀ other call, InFlight t other call ↔ other = drain ∧ begun = some call :=
      fun other call => after' ▸ swept_inFlight air.owned found live leaves
    have logged : lastDelivered channelId t.log = lastDelivered channelId (endedEntries drain pc outcome ++ s.log) := by
      obtain ⟨quiet, silent, shape⟩ := swept_log sweep leaves (endedEntries drain pc outcome ++ s.log)
      rw [← after', shape, lastDelivered_silent channelId silent]
    have slots : t.mapping = mapping := by rw [← after']; rfl
    rcases sweep.light channelId with same | ⟨dirty, taken, why⟩
    · have same : t.mapping channelId = s.mapping channelId := slots ▸ same
      cases tracked with
      | dark clean unset => exact .dark (by rw [same]; exact clean) (by rw [same]; exact unset)
      | @lit color last colorSpace references near way =>
        refine .lit (by rw [same]; exact references) near (way.kept same ?_ ?_ ?_)
        · intro clean other call flying here
          have dirty := (sweep.call call ((flights other call).mp flying).2).1
          rw [here, clean] at dirty
          cases dirty
        · -- the only loop is the one in this call, so the step is the call's return
          rintro clean other call ⟨rest, cancelling, found'⟩ channel
          obtain rfl : other = drain := air.owned.single ⟨_, found', by simp⟩ ⟨_, found, live⟩
          rw [found] at found'
          simp only [Option.some.injEq, Drain.mk.injEq] at found'
          obtain ⟨rfl, _⟩ := found'
          have returned : outcome = .returned := by
            rcases ended call rest rfl with returned | raised
            · exact returned
            · rcases unraised call ⟨rest, false, found⟩ channel raised with dirty | unset
              · rw [clean] at dirty
                cases dirty
              · have set : (s.mapping channelId).lastSpace = some colorSpace :=
                  congrArg (fun fields => fields.2.2.2) references
                rw [unset] at set
                cases set
          rw [logged, returned]
          simp [endedEntries, lastDelivered, channel]
        · intro elsewhere
          rw [logged]
          cases pc with
          | calling call rest =>
            have elsewhere := elsewhere drain call ⟨rest, false, found⟩
            cases outcome <;> simp [endedEntries, lastDelivered, elsewhere]
          | _ => rfl
    · rw [← slots] at taken
      cases tracked with
      | dark clean unset =>
        rw [clean] at dirty
        cases dirty
      | lit references near way =>
        refine .lit (References.taken references taken) near ?_
        rcases why with dropped | ⟨call, some, here⟩ | empty
        · refine absurd ?_ (undropped t (entries ++ (begunEntries drain begun s.now ++
            (drops ++ endedEntries drain pc outcome))) step ?_)
          · simp [dropped]
          · rw [← after']
            simp only [swept, List.append_assoc]
        · obtain ⟨_, _, data, pending, called⟩ := sweep.call call some
          subst channelId
          exact way.taken truthful dirty pending called taken ((flights drain call).mpr ⟨rfl, some⟩)
        · have told := truthful dirty
          rw [empty] at told
          cases told

theorem Tracked.step {channelId : ChannelId} {s t : Engine} {event : Event} {newest : Option (ChannelColor × Nat)}
    (tracked : Tracked channelId s newest) (air : OnAir channelId s) (truthful : (s.mapping channelId).Truthful)
    (within : InSession channelId event) (delivers : Delivers channelId s event)
    (step : machine.step s event = some t) :
    OnAir channelId t ∧ Tracked channelId t (shown channelId newest event) := by
  obtain ⟨next, ⟨data, rfl, rfl⟩ | ⟨drain, outcome, rfl, _⟩ | ⟨mapping, drains, log, blank⟩⟩ :=
    air.step within (step_move step)
  · exact ⟨next, tracked.frame air delivers⟩
  · exact ⟨next, tracked.drain air truthful delivers step⟩
  · refine ⟨next, ?_⟩
    rw [blank]
    exact tracked.of_same mapping drains log

theorem Tracked.run {channelId : ChannelId} {s t : Engine} {events : List Event}
    {newest : Option (ChannelColor × Nat)}
    (run : Run machine (fun s event => InSession channelId event ∧ Delivers channelId s event) s events t)
    (tracked : Tracked channelId s newest) (air : OnAir channelId s) (reached : Reachable machine Always s) :
    Tracked channelId t (events.foldl (shown channelId) newest) := by
  induction run generalizing newest with
  | nil s => exact tracked
  | cons allowed step _ ih =>
    obtain ⟨next, later⟩ := tracked.step air (truthful reached channelId) allowed.1 allowed.2 step
    exact ih later next (reached.step trivial step)

/-- A session begins on air, with no reference set and nothing delivered. -/
theorem opened_tracked {channelId : ChannelId} {s t : Engine} (owned : LoopOwned s) (quiet : QuietWait s .snapshot)
    (opens : Opens s) (mapped : channelId ∈ s.channels) (step : machine.step s .snapshot = some t)
    (unsuppressed : t.suppressed = false) : OnAir channelId t ∧ Tracked channelId t none := by
  have move := step_move step
  have owned' := owned.step quiet move
  cases move with
  | snapshotKept closed => exact absurd opens closed
  | snapshotJoined unholds notices running =>
    exact ⟨⟨mapped, rfl, unsuppressed, owned'⟩, .dark rfl rfl⟩
  | snapshotStarted unholds notices idle notices' =>
    exact ⟨⟨mapped, rfl, unsuppressed, owned'⟩, .dark rfl rfl⟩

/-- In a session without suppression, as long as every step keeps the light's reference honest: when
the light's slot is clean and no call for it is in flight, the last call that returned for it
carries the reference, which is a colour in the colour space of the newest frame that names the
light and within tolerance of that frame. -/
theorem picture_delivered {channelId : ChannelId} {s t u : Engine} {events : List Event}
    (reached : Reachable machine QuietWait s) (quiet : QuietWait s .snapshot) (opens : Opens s)
    (mapped : channelId ∈ s.channels) (start : machine.step s .snapshot = some t) (unsuppressed : t.suppressed = false)
    (run : Run machine (fun s event => InSession channelId event ∧ Delivers channelId s event) t events u)
    {color : ChannelColor} {colorSpace : Nat} (newest : newestFrame channelId events = some (color, colorSpace))
    (clean : (u.mapping channelId).dirty = false)
    (landed : ∀ drain call, InFlight u drain call → call.channelId ≠ channelId) :
    ∃ call last, lastDelivered channelId u.log = some call ∧ call.source = [.frame last colorSpace] ∧
      Carries call (u.mapping channelId).entityId ∧ Near colorSpace color last ∧
      References (u.mapping channelId) last colorSpace := by
  obtain ⟨air, dark⟩ := opened_tracked (loopOwned reached) quiet opens mapped start unsuppressed
  have before : Reachable machine Always t :=
    (reached.mono (fun _ _ _ => trivial)).step trivial start
  have tracked := dark.run run air before
  unfold newestFrame at newest
  rw [newest] at tracked
  cases tracked with
  | lit references near way =>
    cases way with
    | waiting dirty source =>
      rw [clean] at dirty
      cases dirty
    | flying clean flying channel sends => exact absurd channel (landed _ _ flying)
    | delivered clean landed newest sends => exact ⟨_, _, newest, sends.1, sends.2, near, references⟩

theorem OnAir.run {channelId : ChannelId} {s t : Engine} {events : List Event}
    (run : Run machine (fun _ event => InSession channelId event) s events t) (air : OnAir channelId s) :
    OnAir channelId t := by
  refine run.invariant (OnAir channelId) ?_ air
  intro x event y air within step
  exact (air.step within (step_move step)).1

/-- A colour whose light is unavailable when the loop takes its slot, and the same colour again once
the light is back. -/
def droppedColor : List Event :=
  [.frame redFrame, .setState "light.two" (some ⟨"light.two", stateUnavailable⟩), .drain 0 .returned,
    .setState "light.two" (some ⟨"light.two", "on"⟩), .frame redFrame, .drain 0 .returned]

/-- An unsuppressed session with an available light whose slot is clean, and one loop, not in a call. -/
def atRest (s : Engine) (channelId : ChannelId) : Bool :=
  s.active && !s.suppressed && available s channelId && !(s.mapping channelId).dirty && s.nextDrain == 1 &&
    !(s.drains 0).any (fun task => task.pc matches .calling _ _)

theorem twoLights_quiet : QuietWait twoLights .snapshot := fun awaits => absurd awaits (new_unawaited _ _ _)

theorem twoLights_onAir : OnAir 2 twoLights.asyncSnapshotLights :=
  (opened_tracked (new_loopOwned _ _ _) twoLights_quiet (.inr rfl) (by decide) rfl (by decide)).1

/-- The reference was set with the slot, the slot was dropped, and the repeated frame is within
tolerance of a colour the light never got. -/
theorem droppedColor_undelivered : ∃ s t color colorSpace, machine.step twoLights .snapshot = some s ∧
    Run machine (fun _ event => InSession 2 event) s droppedColor t ∧ t.active = true ∧ t.suppressed = false ∧
    newestFrame 2 droppedColor = some (color, colorSpace) ∧ available t 2 = true ∧
    (t.mapping 2).dirty = false ∧ (∀ drain call, ¬InFlight t drain call) ∧ lastDelivered 2 t.log = none := by
  have final : (play machine (fun _ event => InSession 2 event) twoLights.asyncSnapshotLights droppedColor).any
      (fun t => atRest t 2 && (lastDelivered 2 t.log).isNone) = true := by decide +kernel
  obtain ⟨t, played, final⟩ := (Option.any_eq_true _ _).mp final
  have run := run_of_play _ _ _ played
  simp only [atRest, Bool.and_eq_true, Bool.not_eq_true', beq_iff_eq, Option.isNone_iff_eq_none] at final
  obtain ⟨⟨⟨⟨⟨⟨active, unsuppressed⟩, back⟩, clean⟩, one⟩, idle⟩, undelivered⟩ := final
  have newest : newestFrame 2 droppedColor = some (⟨2, 65535, 0, 0⟩, 0) := by decide +kernel
  exact ⟨_, t, _, _, rfl, run, active, unsuppressed, newest, back, clean,
    (twoLights_onAir.run run).owned.landed one idle, undelivered⟩

/-- A v1 frame that turns light 2 almost dark. -/
def darkFrame : Bytes :=
  huestreamHeader ++ [1, 0, 0, 0, 0, 0, 0] ++ [0, 0, 2, 0, 10, 0, 10, 0, 10]

/-- A light that has not been sent anything in the session is not dark, whatever its reference of -1 says. -/
example : (play machine Always twoLights [.snapshot, .frame darkFrame, .drain 0 .returned]).any
    (fun t => atRest t 2 && (lastDelivered 2 t.log).isNone) = true := by decide +kernel

theorem undropped_of_available {s t : Engine} {drain : DrainId} {outcome : Outcome} {channelId : ChannelId}
    {new : List Obs} (here : available s channelId = true) (step : machine.step s (.drain drain outcome) = some t)
    (logged : t.log = new ++ s.log) : .dropped channelId ∉ new := by
  intro member
  obtain ⟨added, logged', emits⟩ := move_adds (step_move step)
  obtain rfl : new = added := List.append_cancel_right (logged.symm.trans logged')
  cases emits _ member with
  | dropped outcome gone =>
    rw [here] at gone
    cases gone

/-- A frame whose colour the loop sends. -/
def deliveredColor : List Event := [.frame redFrame, .drain 0 .returned, .drain 0 .returned]

theorem picture_delivered_red : ∃ s t call last, machine.step twoLights .snapshot = some s ∧
    Run machine (fun s event => InSession 2 event ∧ Delivers 2 s event) s deliveredColor t ∧
    lastDelivered 2 t.log = some call ∧ call.source = [.frame last 0] ∧ Near 0 ⟨2, 65535, 0, 0⟩ last := by
  let s := twoLights.asyncSnapshotLights
  let framed := s.handleFrame redFrame
  have delivers : ∀ x, available x 2 = true → Delivers 2 x (.drain 0 .returned) := by
    intro x here
    refine ⟨fun t new step logged => undropped_of_available here step logged, ?_⟩
    intro call _ _ raised
    cases raised
  have written : Delivers 2 s (.frame redFrame) := by
    intro frame channel parsed found within
    have only : parseHuestreamFrame redFrame = .ok (some ⟨1, 0, [⟨2, 65535, 0, 0⟩]⟩) := rfl
    cases only.symm.trans parsed
    cases found
    have outside : (s.mapping 2).withinTolerance ⟨2, 65535, 0, 0⟩ 0 = false := by decide +kernel
    rw [outside] at within
    cases within
  have begun : (framed.drainStep 0 .returned).any (fun x => available x 2 && (x.drainStep 0 .returned).any
      (fun t => atRest t 2)) = true := by decide +kernel
  obtain ⟨sent, first, begun⟩ := (Option.any_eq_true _ _).mp begun
  rw [Bool.and_eq_true] at begun
  obtain ⟨t, second, rest⟩ := (Option.any_eq_true _ _).mp begun.2
  have run : Run machine (fun s event => InSession 2 event ∧ Delivers 2 s event) s deliveredColor t :=
    .cons ⟨trivial, written⟩ rfl (.cons ⟨trivial, delivers framed (by decide +kernel)⟩ first
      (.cons ⟨trivial, delivers sent begun.1⟩ second (.nil t)))
  simp only [atRest, Bool.and_eq_true, Bool.not_eq_true', beq_iff_eq] at rest
  obtain ⟨⟨⟨⟨⟨active, unsuppressed⟩, back⟩, clean⟩, one⟩, idle⟩ := rest
  have owned := (twoLights_onAir.run (run.mono (fun _ _ allowed => allowed.1))).owned
  have quiet := twoLights_quiet
  have newest : newestFrame 2 deliveredColor = some (⟨2, 65535, 0, 0⟩, 0) := by decide +kernel
  have start : Reachable machine QuietWait twoLights := ⟨_, [], ⟨_, _, _, rfl⟩, .nil _⟩
  obtain ⟨call, last, returned, source, _, near, _⟩ := picture_delivered start quiet (.inr rfl) (by decide) rfl
    (by decide) run newest clean (fun drain call flying => absurd flying (owned.landed one idle drain call))
  exact ⟨s, t, call, last, rfl, run, returned, source, near⟩

end HueEntertainment.Picture
