import HueEntertainment.EngineHistory
import HueEntertainment.DrainTask
import HueEntertainment.SlotMerge

/-! Classic commands to one light, whenever its drain loop sends them. The engine's slot is the slot
that merges commands, so the light ends up as if each command had been sent on its own, except for
what an off discards and for colours of several kinds in one call. -/

namespace HueEntertainment.Coalescing
open HueStream LightCommand PyValue Entertainment EngineSteps EngineFrames DrainSteps EngineMoves EngineHistory
  DrainTask SlotMerge Runs

/-- The command that a v1 body is, if it queues anything. -/
def commandOf (body : Json) : Option Command :=
  match v1StateToServiceData body with
  | .ok data => if data = {} then none else some ⟨data, isBool (field body "on") true⟩
  | .error _ => none

/-- The commands of the bodies, the newest first. -/
def commandsOf (bodies : List Json) : List Command := (bodies.filterMap commandOf).reverse

def bodyTo (channelId : ChannelId) : Event → Option Json
  | .command lightId body => if lightId = channelId then some body else none
  | _ => none

/-- The bodies addressed to the light, in order. -/
def bodiesTo (channelId : ChannelId) (events : List Event) : List Json := events.filterMap (bodyTo channelId)

/-- The light after the calls for it that a history, newest first, saw return. -/
def lightOf (mixed : List Color → Color) (channelId : ChannelId) (light : Light) : List Obs → Light
  | [] => light
  | .callEnded _ call .returned :: older =>
      if call.channelId = channelId then (lightOf mixed channelId light older).call mixed call.service call.data
      else lightOf mixed channelId light older
  | _ :: older => lightOf mixed channelId light older

/-- The light in `t`, for what it was in `s`. -/
def lightAfter (mixed : List Color → Color) (channelId : ChannelId) (s t : Engine) (light : Light) : Light :=
  lightOf mixed channelId light (t.log.take (t.log.length - s.log.length))

/-- Commands, steps of drain loops whose calls succeed, and time. -/
def Sends (_ : Engine) : Event → Prop
  | .command _ _ => True
  | .drain _ outcome => outcome = .returned
  | .tick _ => True
  | _ => False

instance (s : Engine) : (event : Event) → Decidable (Sends s event)
  | .command .. | .tick _ => .isTrue trivial
  | .drain _ outcome => inferInstanceAs (Decidable (outcome = .returned))
  | .frame _ | .snapshot | .restore | .pause _ | .resume | .release _ | .fire _ | .drained _ | .reproduced ..
  | .setState .. => .isFalse not_false

/-- A mapped and available light without session, suppression or stop. -/
structure Ready (channelId : ChannelId) (s : Engine) : Prop where
  mapped : channelId ∈ s.channels
  available : available s channelId = true
  inactive : s.active = false
  unsuppressed : s.suppressed = false
  unawaited : ¬AwaitsDrain s

/-- Nothing waits to be sent to the light and no call for it is in flight. -/
structure Drained (channelId : ChannelId) (s : Engine) : Prop where
  clean : (s.mapping channelId).dirty = false
  landed : ∀ drain call, InFlight s drain call → call.channelId ≠ channelId

/-- The engine's slot is this one. -/
inductive Holds (mapping : LightMapping) : Option ServiceData → Prop where
  | clean (clean : mapping.dirty = false) : Holds mapping none
  | queued {data : ServiceData} (dirty : mapping.dirty = true) (explicit : mapping.explicitTransition = true)
      (pending : mapping.pendingData = some { data with entityId := some mapping.entityId }) :
      Holds mapping (some data)

theorem Holds.merges {mapping : LightMapping} {slot : Option ServiceData} (holds : Holds mapping slot) :
    (slot = none ∧ mapping.queued = ({}, [])) ∨ ∃ data, slot = some data ∧
      mapping.queued = ({ data with entityId := some mapping.entityId }, mapping.pendingFrom) := by
  unfold LightMapping.queued
  cases holds with
  | clean clean =>
    left
    rw [clean]
    cases mapping.pendingData with
    | none => exact ⟨rfl, rfl⟩
    | some pending => exact ⟨rfl, if_neg (by simp)⟩
  | @queued data dirty explicit pending =>
    right
    rw [pending]
    refine ⟨data, rfl, if_pos ⟨dirty, ?_, explicit⟩⟩
    intro same
    cases congrArg ServiceData.entityId same

/-- What a body does to the engine's slot is what its command does to the slot it is. -/
theorem commandSlot_put {mapping : LightMapping} {slot : Option ServiceData} (holds : Holds mapping slot)
    (channelId : ChannelId) (body : Json) :
    match commandOf body with
    | none => ∀ left, mapping.commandSlot channelId body ≠ .ok (some left)
    | some command => (∃ data writes, put slot command = some data ∧ mapping.commandSlot channelId body =
          .ok (some ({ data with entityId := some mapping.entityId }, writes))) ∨
        (put slot command = slot ∧ mapping.commandSlot channelId body = .ok none) := by
  unfold commandOf LightMapping.commandSlot
  cases translated : v1StateToServiceData body with
  | error error => simp [bind, Except.bind]
  | ok data =>
    simp only [bind, Except.bind]
    by_cases empty : data = {}
    · simp [empty, pure, Except.pure]
    · simp only [if_neg empty, put]
      by_cases off : data.service = some .turnOff
      · have isOff : isOff data = true := by simp [isOff, off]
        simp only [if_pos off, isOff, ↓reduceIte, ServiceData.empty_update]
        exact .inl ⟨data, _, rfl, rfl⟩
      · have isOn : isOff data = false := by simpa [isOff] using off
        simp only [if_neg off, isOn, Bool.false_eq_true, ↓reduceIte]
        rcases holds.merges with ⟨rfl, queued⟩ | ⟨pending, rfl, queued⟩
        · rw [queued]
          simp only [ServiceData.empty_update]
          exact .inl ⟨data, _, rfl, rfl⟩
        · rw [queued]
          simp only []
          by_cases wasOff : pending.service = some .turnOff
          · have isOff : SlotMerge.isOff pending = true := by simp [SlotMerge.isOff, wasOff]
            simp only [if_pos wasOff, isOff, ↓reduceIte]
            by_cases explicit : isBool (field body "on") true = true
            · simp only [if_pos explicit, ServiceData.empty_update]
              exact .inl ⟨data, _, rfl, rfl⟩
            · simp only [if_neg explicit]
              exact .inr ⟨trivial, rfl⟩
          · have isOn : SlotMerge.isOff pending = false := by simpa [SlotMerge.isOff] using wasOff
            simp only [if_neg wasOff, isOn, Bool.false_eq_true, ↓reduceIte]
            exact .inl ⟨pending.update data, _, rfl, rfl⟩

/-- The commands for the light after an event. -/
def heard (channelId : ChannelId) (commands : List Command) (event : Event) : List Command :=
  ((bodyTo channelId event).bind commandOf).toList ++ commands

theorem foldl_heard (channelId : ChannelId) (events : List Event) (commands : List Command) :
    events.foldl (heard channelId) commands = commandsOf (bodiesTo channelId events) ++ commands := by
  induction events generalizing commands with
  | nil => rfl
  | cons event rest ih =>
    rw [List.foldl_cons, ih]
    unfold heard commandsOf bodiesTo
    cases here : bodyTo channelId event with
    | none => simp [here]
    | some body =>
      cases said : commandOf body with
      | none => simp [here, said]
      | some command => simp [here, said]

theorem lightOf_silent (mixed : List Color → Color) (channelId : ChannelId) (light : Light) {new : List Obs}
    (quiet : ∀ entry ∈ new, silent entry = true) (log : List Obs) :
    lightOf mixed channelId light (new ++ log) = lightOf mixed channelId light log := by
  induction new with
  | nil => rfl
  | cons entry rest ih =>
    have later := ih (fun entry member => quiet entry (List.mem_cons_of_mem _ member))
    have first := quiet entry List.mem_cons_self
    rw [List.cons_append]
    cases entry with
    | callEnded drain call outcome => cases first
    | _ => exact later

/-- The light now, and what it will be once the call in flight for it has returned. -/
inductive Sending (mixed : List Color → Color) (channelId : ChannelId) (s : Engine) (now lit : Light) : Prop where
  | landed (landed : ∀ drain call, InFlight s drain call → call.channelId ≠ channelId) (same : now = lit)
  | flying {drain : DrainId} {call : Call} (flying : InFlight s drain call) (channel : call.channelId = channelId)
      (same : now.call mixed call.service call.data = lit)

/-- The engine holds the slot, and the light the state, that the commands have left since `base`. -/
structure Follows (mixed : List Color → Color) (channelId : ChannelId) (light : Light) (base : List Obs)
    (commands : List Command) (s : Engine) : Prop where
  ready : Ready channelId s
  owned : LoopOwned s
  told : ∃ new lit slot, s.log = new ++ base ∧ Tracks mixed light commands lit slot ∧
    Holds (s.mapping channelId) slot ∧ Sending mixed channelId s (lightOf mixed channelId light new) lit

theorem Ready.of_less {channelId : ChannelId} {s t : Engine} (ready : Ready channelId s)
    (same : (t.channels, t.states, t.active, t.releasing, t.pausedUntil, t.teardowns) =
      (s.channels, s.states, s.active, s.releasing, s.pausedUntil, s.teardowns))
    (entity : (t.mapping channelId).entityId = (s.mapping channelId).entityId) (now : s.now ≤ t.now) :
    Ready channelId t := by
  simp only [Prod.mk.injEq] at same
  obtain ⟨channels, states, active, releasing, paused, teardowns⟩ := same
  constructor
  · exact channels ▸ ready.mapped
  · have here := ready.available
    unfold DrainSteps.available Engine.reportedUnavailable at here ⊢
    rw [states, entity]
    exact here
  · exact active.trans ready.inactive
  · exact unsuppressed_of_less ready.unsuppressed (fun _ found => paused ▸ found) now (fun held => releasing ▸ held)
  · rw [awaitsDrain_congr teardowns]
    exact ready.unawaited

theorem Holds.of_same {mapping other : LightMapping} {slot : Option ServiceData} (holds : Holds mapping slot)
    (same : other = mapping) : Holds other slot := same ▸ holds

theorem Sending.of_flights {mixed : List Color → Color} {channelId : ChannelId} {s t : Engine} {now lit : Light}
    (sending : Sending mixed channelId s now lit)
    (flights : ∀ drain call, InFlight t drain call ↔ InFlight s drain call) : Sending mixed channelId t now lit := by
  cases sending with
  | landed landed same =>
    exact .landed (fun drain call flying => landed drain call ((flights drain call).mp flying)) same
  | flying flying channel same => exact .flying ((flights _ _).mpr flying) channel same

/-- A new loop is in no call. -/
theorem started_inFlight {s t : Engine} (owned : LoopOwned s) (drains : t.drains = s.drains)
    (next : t.nextDrain = s.nextDrain) (entries : List Obs) (drain : DrainId) (call : Call) :
    InFlight (started t entries) drain call ↔ InFlight s drain call := by
  unfold InFlight
  rw [started_drains drains next entries]
  by_cases here : drain = s.nextDrain
  · subst drain
    rw [Function.update_self, owned.fresh s.nextDrain (Nat.le_refl _)]
    simp
  · rw [Function.update_of_ne here]

/-- The engine once a command's slot is queued. -/
theorem Follows.queued {mixed : List Color → Color} {channelId : ChannelId} {light : Light} {base : List Obs}
    {commands : List Command} {s t : Engine} (follows : Follows mixed channelId light base commands s)
    {lightId : Nat} {body : Json} {slot : ServiceData × List Write} (accepted : Accepts s lightId body slot)
    (owned : LoopOwned t) (mapping : t.mapping = (queued s lightId slot).mapping)
    (same : (t.channels, t.states, t.active, t.releasing, t.pausedUntil, t.teardowns, t.now) =
      (s.channels, s.states, s.active, s.releasing, s.pausedUntil, s.teardowns, s.now))
    (flights : ∀ drain call, InFlight t drain call ↔ InFlight s drain call)
    (logged : ∃ new, (∀ entry ∈ new, silent entry = true) ∧ t.log = new ++ s.log) :
    Follows mixed channelId light base (heard channelId commands (.command lightId body)) t := by
  obtain ⟨ready, _, new, lit, left, log, tracks, holds, sending⟩ := follows
  obtain ⟨more, quiet, logged⟩ := logged
  simp only [Prod.mk.injEq] at same
  obtain ⟨channels, states, active, releasing, paused, teardowns, now⟩ := same
  have entity : (t.mapping channelId).entityId = (s.mapping channelId).entityId := by
    rw [mapping]
    by_cases here : channelId = lightId
    · subst channelId
      simp [EngineFrames.queued, LightMapping.queue]
    · simp [EngineFrames.queued, Function.update_of_ne here]
  have ready' : Ready channelId t :=
    ready.of_less (by rw [channels, states, active, releasing, paused, teardowns]) entity (le_of_eq now.symm)
  have now' : lightOf mixed channelId light (more ++ new) = lightOf mixed channelId light new :=
    lightOf_silent mixed channelId light quiet new
  have log' : t.log = (more ++ new) ++ base := by rw [logged, log, List.append_assoc]
  have sending' := sending.of_flights flights
  rw [← now'] at sending'
  by_cases here : lightId = channelId
  · subst lightId
    have heard' : heard channelId commands (.command channelId body) = (commandOf body).toList ++ commands := by
      simp [heard, bodyTo]
    have what := commandSlot_put holds channelId body
    rw [heard']
    cases said : commandOf body with
    | none =>
      rw [said] at what
      exact absurd accepted.2.2 (what slot)
    | some command =>
      rw [said] at what
      rcases what with ⟨data, writes, puts, same⟩ | ⟨_, same⟩
      · have slots := accepted.2.2.symm.trans same
        simp only [Except.ok.injEq, Option.some.injEq] at slots
        have tracks' := tracks.put command
        rw [puts] at tracks'
        refine ⟨ready', owned, more ++ new, lit, some data, log', tracks', ?_, sending'⟩
        rw [mapping, slots]
        simp only [EngineFrames.queued, Function.update_self]
        exact .queued rfl rfl rfl
      · have slots := accepted.2.2.symm.trans same
        cases slots
  · have heard' : heard channelId commands (.command lightId body) = commands := by
      simp [heard, bodyTo, here]
    rw [heard']
    refine ⟨ready', owned, more ++ new, lit, left, log', tracks, holds.of_same ?_, sending'⟩
    rw [mapping]
    exact Function.update_of_ne (Ne.symm here) _ _

/-- A command that the engine does not take leaves the slot, as it does the one of the commands. -/
theorem Follows.rejected {mixed : List Color → Color} {channelId : ChannelId} {light : Light} {base : List Obs}
    {commands : List Command} {s : Engine} (follows : Follows mixed channelId light base commands s)
    {lightId : Nat} {body : Json} (rejected : ∀ slot, ¬Accepts s lightId body slot) :
    Follows mixed channelId light base (heard channelId commands (.command lightId body)) s := by
  obtain ⟨ready, owned, new, lit, left, log, tracks, holds, sending⟩ := follows
  by_cases here : lightId = channelId
  · subst lightId
    have heard' : heard channelId commands (.command channelId body) = (commandOf body).toList ++ commands := by
      simp [heard, bodyTo]
    have what := commandSlot_put holds channelId body
    rw [heard']
    cases said : commandOf body with
    | none => exact ⟨ready, owned, new, lit, left, log, tracks, holds, sending⟩
    | some command =>
      rw [said] at what
      rcases what with ⟨data, writes, _, same⟩ | ⟨puts, _⟩
      · exact absurd ⟨ready.unsuppressed, ready.mapped, same⟩ (rejected _)
      · have tracks' := tracks.put command
        rw [puts] at tracks'
        exact ⟨ready, owned, new, lit, left, log, tracks', holds, sending⟩
  · have heard' : heard channelId commands (.command lightId body) = commands := by
      simp [heard, bodyTo, here]
    rw [heard']
    exact ⟨ready, owned, new, lit, left, log, tracks, holds, sending⟩

theorem Follows.command {mixed : List Color → Color} {channelId : ChannelId} {light : Light} {base : List Obs}
    {commands : List Command} {s t : Engine} (follows : Follows mixed channelId light base commands s)
    {lightId : Nat} {body : Json} (move : Move s (.command lightId body) t) :
    Follows mixed channelId light base (heard channelId commands (.command lightId body)) t := by
  have owned := follows.owned.step (fun awaits => absurd awaits follows.ready.unawaited) move
  cases move with
  | commandKept rejected => exact follows.rejected rejected
  | commandJoined accepted running =>
    refine follows.queued accepted owned rfl rfl (fun _ _ => Iff.rfl) ⟨[.putWrote lightId], ?_, rfl⟩
    intro entry member
    rw [List.mem_singleton.mp member]
    rfl
  | @commandStarted _ _ slot entries accepted idle notices =>
    refine follows.queued accepted owned rfl rfl ?_ ⟨entries ++ [.putWrote lightId], ?_, ?_⟩
    · exact started_inFlight follows.owned rfl rfl entries
    · intro entry member
      rcases List.mem_append.mp member with member | member
      · exact Notices.silent notices entry member
      · rw [List.mem_singleton.mp member]
        rfl
    · rw [List.append_assoc]
      rfl

/-- The call that the loop makes of the slot does to the light what sending the slot does. -/
theorem call_sent {mixed : List Color → Color} {s : Engine} {channelId : ChannelId} {mapping : LightMapping}
    {data : ServiceData} {entityId : String} (light : Light) :
    let call := s.callOf channelId mapping { data with entityId := some entityId }
    light.call mixed call.service call.data = light.sent mixed data := by
  intro call
  unfold Light.sent
  have service : call.service = data.service.getD .turnOn := rfl
  have brightness : call.data.brightness = data.brightness := by
    simp only [call, Engine.callOf]
    split <;> rfl
  have named : colorNamed mixed call.data = colorNamed mixed data := by
    have same : colors call.data = colors data := by
      simp only [call, Engine.callOf]
      split <;> rfl
    unfold colorNamed
    rw [same]
  rw [service]
  cases data.service.getD .turnOn with
  | turnOff => rfl
  | turnOn =>
    simp only [Light.call]
    rw [brightness, named]

/-- The call in flight for the light, if there is one, has returned when its task goes on. -/
theorem Sending.settled {mixed : List Color → Color} {channelId : ChannelId} {light lit : Light} {s : Engine}
    {new : List Obs} {drain : DrainId} {pc : DrainPc}
    (sending : Sending mixed channelId s (lightOf mixed channelId light new) lit) (owned : LoopOwned s)
    (found : s.drains drain = some ⟨pc, false⟩) (live : pc ≠ .done) :
    lightOf mixed channelId light (endedEntries drain pc .returned ++ new) = lit := by
  cases sending with
  | landed landed same =>
    cases pc with
    | calling call rest =>
      have elsewhere := landed drain call ⟨rest, false, found⟩
      simpa [endedEntries, lightOf, elsewhere] using same
    | _ => exact same
  | @flying other call flying channel same =>
    obtain ⟨rest, cancelling, found'⟩ := flying
    obtain rfl : other = drain := owned.single ⟨_, found', by simp⟩ ⟨_, found, live⟩
    rw [found] at found'
    simp only [Option.some.injEq, Drain.mk.injEq] at found'
    rw [found'.1]
    simpa [endedEntries, lightOf, channel] using same

theorem Follows.drain {mixed : List Color → Color} {channelId : ChannelId} {light : Light} {base : List Obs}
    {commands : List Command} {s t : Engine} (follows : Follows mixed channelId light base commands s)
    {drain : DrainId} (move : DrainMove s drain .returned t) : Follows mixed channelId light base commands t := by
  have owned := follows.owned.step (fun awaits => absurd awaits follows.ready.unawaited) (.drain move)
  obtain ⟨ready, before, new, lit, slot, log, tracks, holds, sending⟩ := follows
  have free := before.free ready.unawaited
  cases move with
  | neverEntered found =>
    have kept := (free.owner drain _ found (by simp)).2.2
    cases kept
  | unwound found live entries notices =>
    have kept := (free.owner drain _ found live).2.2
    cases kept
  | @ran pc after mapping stats wake running begun drops entries found live ended sweep leaves =>
    have ready' := ready.of_less (t := swept { s with log := endedEntries drain pc .returned ++ s.log } drain mapping
      stats wake begun drops after running entries) rfl (sweep.entityId channelId) (le_refl _)
    have flights : ∀ other call, InFlight (swept { s with log := endedEntries drain pc .returned ++ s.log } drain
        mapping stats wake begun drops after running entries) other call ↔ other = drain ∧ begun = some call :=
      fun other call => swept_inFlight before found live leaves
    obtain ⟨quiet, silent, shape⟩ : ∃ quiet, (∀ entry ∈ quiet, silent entry = true) ∧
        (swept { s with log := endedEntries drain pc .returned ++ s.log } drain mapping stats wake begun drops after
          running entries).log = quiet ++ (endedEntries drain pc .returned ++ s.log) := swept_log sweep leaves _
    have settled := sending.settled before found live
    have now : lightOf mixed channelId light (quiet ++ (endedEntries drain pc .returned ++ new)) = lit := by
      rw [lightOf_silent mixed channelId light silent, settled]
    have log' := shape.trans (by rw [log, ← List.append_assoc, ← List.append_assoc, List.append_assoc quiet] :
      quiet ++ (endedEntries drain pc .returned ++ s.log) = (quiet ++ (endedEntries drain pc .returned ++ new)) ++ base)
    rcases sweep.light channelId with same | ⟨dirty, taken, why⟩
    · refine ⟨ready', owned, _, lit, slot, log', tracks, holds.of_same same, .landed ?_ now⟩
      intro other call flying here
      obtain ⟨dirty, clean, _⟩ := sweep.call call ((flights other call).mp flying).2
      rw [here] at dirty clean
      rw [same, dirty] at clean
      cases clean
    · cases holds with
      | clean clean =>
        rw [clean] at dirty
        cases dirty
      | @queued data _ explicit pending =>
        rcases why with dropped | ⟨call, some, here⟩ | empty
        · obtain ⟨other, same, gone⟩ := sweep.absent _ dropped
          cases same
          rw [ready.available] at gone
          cases gone
        · obtain ⟨_, _, told, pending', called⟩ := sweep.call call some
          subst channelId
          have same := Option.some.inj (pending'.symm.trans pending)
          refine ⟨ready', owned, _, _, none, log', tracks.send, .clean taken.clean, ?_⟩
          refine .flying ((flights drain call).mpr ⟨rfl, some⟩) rfl ?_
          rw [now, called, same]
          exact call_sent lit
        · rw [empty] at pending
          cases pending

theorem Follows.step {mixed : List Color → Color} {channelId : ChannelId} {light : Light} {base : List Obs}
    {commands : List Command} {s t : Engine} (follows : Follows mixed channelId light base commands s)
    {event : Event} (sends : Sends s event) (step : machine.step s event = some t) :
    Follows mixed channelId light base (heard channelId commands event) t := by
  have move := step_move step
  cases event with
  | command lightId body => exact follows.command move
  | drain drain outcome =>
    obtain rfl : outcome = .returned := sends
    cases move with
    | drain move => exact follows.drain move
  | tick elapsed =>
    have owned := follows.owned.step (fun awaits => absurd awaits follows.ready.unawaited) move
    obtain ⟨ready, _, new, lit, slot, log, tracks, holds, sending⟩ := follows
    cases move with
    | tick forward =>
      have ready' := ready.of_less (t := { s with now := s.now + elapsed }) rfl rfl (le_add_of_nonneg_right forward)
      exact ⟨ready', owned, new, lit, slot, log, tracks, holds, sending.of_flights (fun _ _ => Iff.rfl)⟩
  | _ => exact sends.elim

theorem Follows.run {mixed : List Color → Color} {channelId : ChannelId} {light : Light} {base : List Obs}
    {commands : List Command} {s t : Engine} {events : List Event} (run : Run machine Sends s events t)
    (follows : Follows mixed channelId light base commands s) :
    Follows mixed channelId light base (events.foldl (heard channelId) commands) t := by
  induction run generalizing commands with
  | nil s => exact follows
  | cons allowed step _ ih => exact ih (follows.step allowed step)

theorem Follows.start {mixed : List Color → Color} {channelId : ChannelId} {s : Engine}
    (reached : Reachable machine QuietWait s) (ready : Ready channelId s) (drained : Drained channelId s)
    (light : Light) : Follows mixed channelId light s.log [] s :=
  ⟨ready, loopOwned reached, [], light, none, rfl, .start light, .clean drained.clean, .landed drained.landed rfl⟩

/-- The light once everything has been sent, against each command sent on its own. -/
theorem agree_oneByOne (mixed : List Color → Color) {channelId : ChannelId} {s t : Engine} {events : List Event}
    (reached : Reachable machine QuietWait s) (ready : Ready channelId s) (drained : Drained channelId s)
    (run : Run machine Sends s events t) (finished : Drained channelId t) (light : Light) :
    Agree mixed (commandsOf (bodiesTo channelId events)) (lightAfter mixed channelId s t light)
      (light.oneByOne mixed (commandsOf (bodiesTo channelId events))) := by
  obtain ⟨_, _, new, lit, slot, log, tracks, holds, sending⟩ := (Follows.start reached ready drained light).run run
  rw [foldl_heard, List.append_nil] at tracks
  have after : lightAfter mixed channelId s t light = lit := by
    have recent : t.log.take (t.log.length - s.log.length) = new := by simp [log]
    unfold lightAfter
    rw [recent]
    cases sending with
    | landed landed same => exact same
    | flying flying channel same => exact absurd channel (finished.landed _ _ flying)
  rw [after]
  cases holds with
  | clean clean => exact tracks.agree
  | queued dirty explicit pending =>
    rw [finished.clean] at dirty
    cases dirty

/-- Whenever a light is sent its commands, merged or not: once all of them have been sent, two runs
with the same bodies for the light agree with each other, and with each command sent on its own,
on whatever of the light is certain. -/
theorem coalescing_agrees (mixed : List Color → Color) {channelId : ChannelId} {s s' t t' : Engine}
    {events events' : List Event} (reached : Reachable machine QuietWait s) (reached' : Reachable machine QuietWait s')
    (ready : Ready channelId s) (ready' : Ready channelId s') (drained : Drained channelId s)
    (drained' : Drained channelId s') (run : Run machine Sends s events t) (run' : Run machine Sends s' events' t')
    (same : bodiesTo channelId events' = bodiesTo channelId events) (finished : Drained channelId t)
    (finished' : Drained channelId t') (light : Light) :
    Agree mixed (commandsOf (bodiesTo channelId events)) (lightAfter mixed channelId s t light)
        (lightAfter mixed channelId s' t' light) ∧
      Agree mixed (commandsOf (bodiesTo channelId events)) (lightAfter mixed channelId s t light)
        (light.oneByOne mixed (commandsOf (bodiesTo channelId events))) := by
  have first := agree_oneByOne mixed reached ready drained run finished light
  have second := agree_oneByOne mixed reached' ready' drained' run' finished' light
  rw [same] at second
  exact ⟨first.common mixed second, first⟩

def turnOff : Event := .command 1 (.object [("on", .bool false)])
def dim (brightness : ℤ) : Event := .command 1 (.object [("bri", .int brightness)])

/-- The first loop takes what is queued, and the call it begins returns. -/
def sendQueued : List Event := [.drain 0 .returned, .drain 0 .returned]

def merged : List Event := [dim 50, turnOff, dim 100] ++ sendQueued

def apart : List Event := (dim 50 :: sendQueued) ++ (turnOff :: sendQueued) ++ (dim 100 :: sendQueued)

theorem oneLight_ready : Ready 1 oneLight where
  mapped := by decide
  available := by decide
  inactive := rfl
  unsuppressed := rfl
  unawaited := new_unawaited _ _ _

theorem oneLight_drained : Drained 1 oneLight where
  clean := by decide
  landed := by
    rintro drain call ⟨rest, cancelling, found⟩
    cases found

theorem oneLight_reached : Reachable machine QuietWait oneLight := ⟨oneLight, [], ⟨_, _, _, rfl⟩, .nil _⟩

/-- The slot of the light is clean, and there is one loop, not in a call. -/
def allSent (s : Engine) : Bool :=
  !(s.mapping 1).dirty && s.nextDrain == 1 && !(s.drains 0).any (fun task => task.pc matches .calling _ _)

theorem drained_of_allSent {t : Engine} {events : List Event} (run : Run machine Sends oneLight events t)
    (sent : allSent t = true) : Drained 1 t := by
  have start : Follows (fun _ => .kelvin 0) 1 ⟨false, none, none⟩ oneLight.log [] oneLight :=
    .start oneLight_reached oneLight_ready oneLight_drained _
  have owned := (start.run run).owned
  simp only [allSent, Bool.and_eq_true, Bool.not_eq_true', beq_iff_eq] at sent
  obtain ⟨⟨clean, one⟩, idle⟩ := sent
  exact ⟨clean, fun drain call flying => absurd flying (owned.landed one idle drain call)⟩

/-- An off that is still queued discards what was queued before it and mutes what follows it; an off
that has been sent does neither. -/
theorem merged_differs : ∃ t t', Run machine Sends oneLight merged t ∧ Run machine Sends oneLight apart t' ∧
    bodiesTo 1 apart = bodiesTo 1 merged ∧ Drained 1 t ∧ Drained 1 t' ∧
    lightAfter (fun _ => .kelvin 0) 1 oneLight t ⟨true, some 10, none⟩ = ⟨false, some 10, none⟩ ∧
    lightAfter (fun _ => .kelvin 0) 1 oneLight t' ⟨true, some 10, none⟩ = ⟨true, some 100, none⟩ := by
  have together : (play machine Sends oneLight merged).any (fun t => allSent t &&
      decide (lightAfter (fun _ => .kelvin 0) 1 oneLight t ⟨true, some 10, none⟩ = ⟨false, some 10, none⟩)) = true := by
    decide +kernel
  have singly : (play machine Sends oneLight apart).any (fun t => allSent t &&
      decide (lightAfter (fun _ => .kelvin 0) 1 oneLight t ⟨true, some 10, none⟩ = ⟨true, some 100, none⟩)) = true := by
    decide +kernel
  obtain ⟨t, played, together⟩ := (Option.any_eq_true _ _).mp together
  obtain ⟨t', played', singly⟩ := (Option.any_eq_true _ _).mp singly
  rw [Bool.and_eq_true, decide_eq_true_eq] at together singly
  have run := run_of_play _ _ _ played
  have run' := run_of_play _ _ _ played'
  exact ⟨t, t', run, run', rfl, drained_of_allSent run together.1, drained_of_allSent run' singly.1,
    together.2, singly.2⟩

theorem coalescing_agrees_dimming : ∃ t t', Run machine Sends oneLight ([dim 50, dim 100] ++ sendQueued) t ∧
    Run machine Sends oneLight ((dim 50 :: sendQueued) ++ (dim 100 :: sendQueued)) t' ∧
    ∀ mixed light,
      (lightAfter mixed 1 oneLight t light).brightness = (lightAfter mixed 1 oneLight t' light).brightness := by
  have together : (play machine Sends oneLight ([dim 50, dim 100] ++ sendQueued)).any allSent = true := by decide +kernel
  have singly : (play machine Sends oneLight ((dim 50 :: sendQueued) ++ (dim 100 :: sendQueued))).any allSent = true := by
    decide +kernel
  obtain ⟨t, played, together⟩ := (Option.any_eq_true _ _).mp together
  obtain ⟨t', played', singly⟩ := (Option.any_eq_true _ _).mp singly
  have run := run_of_play _ _ _ played
  have run' := run_of_play _ _ _ played'
  have names : (lasting (commandsOf (bodiesTo 1 ([dim 50, dim 100] ++ sendQueued)))).any
      (fun command => command.data.brightness.isSome) = true := by decide +kernel
  obtain ⟨command, lasts, names⟩ := List.any_eq_true.mp names
  have certain : Certain ServiceData.brightness (commandsOf (bodiesTo 1 ([dim 50, dim 100] ++ sendQueued))) :=
    .inl ⟨command, lasts, Option.isSome_iff_ne_none.mp names⟩
  refine ⟨t, t', run, run', fun mixed light => ?_⟩
  exact (coalescing_agrees mixed oneLight_reached oneLight_reached oneLight_ready oneLight_ready oneLight_drained
    oneLight_drained run run' rfl (drained_of_allSent run together) (drained_of_allSent run' singly)
    light).1.brightness certain

end HueEntertainment.Coalescing
