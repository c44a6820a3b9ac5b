import HueEntertainment.DrainTask
import HueEntertainment.EngineSlots

/-! The calls that drain loops make while no session is active. They carry what classic commands
wrote, unless a frame has written a slot without a session, or a loop that no stop knows of is still
running over the slots of a session that has ended. -/

namespace HueEntertainment.ClassicCalls
open HueEntertainment.Const HueStream LightCommand PyValue Entertainment EngineSteps EngineFrames DrainSteps EngineMoves
  EngineHistory EngineSlots DrainTask TaskTable Runs

/-- Some channel of the frame names a mapped light and is out of tolerance, and nothing suppresses it. -/
def FrameWrites (s : Engine) (data : Bytes) : Prop :=
  s.suppressed = false ∧ ∃ frame channel, parseHuestreamFrame data = .ok (some frame) ∧
    channel ∈ frame.channels ∧ channel.channelId ∈ s.channels ∧
    (s.mapping channel.channelId).withinTolerance channel frame.colorSpace = false

/-- No frame writes a slot without a session, and no drain loop is created while an
`async_restore_lights` waits for its own. -/
def FramesInSession (s : Engine) : Event → Prop
  | .frame data => s.active = false → ¬FrameWrites s data
  | .snapshot => AwaitsDrain s → s.drainRunning = false → ¬Opens s
  | .command lightId body => AwaitsDrain s → s.drainRunning = false → ∀ slot, ¬Accepts s lightId body slot
  | _ => True

/-- A loop that nobody cancelled is the engine's own, and no teardown waits beside it; a cancelled
one is waited for. -/
structure LoopsKnown (s : Engine) : Prop where
  fresh : ∀ drain, s.nextDrain ≤ drain → s.drains drain = none
  unused : ∀ teardown, s.nextTeardown ≤ teardown → s.teardowns teardown = none
  known : ∀ drain pc, s.drains drain = some ⟨pc, false⟩ → pc ≠ .done →
    s.drainTask = some drain ∧ s.drainRunning = true ∧ ¬AwaitsDrain s
  awaited : ∀ drain pc, s.drains drain = some ⟨pc, true⟩ → pc ≠ .done →
    ∃ teardown, s.teardowns teardown = some (.awaitingDrain drain)

/-- A loop that nobody cancelled is the engine's own, and no teardown waits beside it. -/
structure OwnLoops (s : Engine) : Prop where
  fresh : ∀ drain, s.nextDrain ≤ drain → s.drains drain = none
  known : ∀ drain pc, s.drains drain = some ⟨pc, false⟩ → pc ≠ .done →
    s.drainTask = some drain ∧ s.drainRunning = true ∧ ¬AwaitsDrain s

/-- Everything the knowledge of loops is about. -/
def knowledge (s : Engine) :=
  (s.drainTask, s.drainRunning, s.drains, s.nextDrain, s.teardowns, s.nextTeardown)

theorem LoopsKnown.of_same {s t : Engine} (loops : LoopsKnown s) (same : knowledge t = knowledge s) :
    OwnLoops t := by
  simp only [knowledge, Prod.mk.injEq] at same
  obtain ⟨task, running, drains, next, teardowns, _⟩ := same
  constructor
  · rw [next, drains]
    exact loops.fresh
  · rw [drains, task, running, awaitsDrain_congr teardowns]
    exact loops.known

theorem LoopsKnown.started {s t : Engine} (loops : LoopsKnown s) (idle : s.drainRunning = false)
    (quiet : ¬AwaitsDrain s) (entries : List Obs)
    (same : (t.drains, t.nextDrain, t.teardowns) = (s.drains, s.nextDrain, s.teardowns)) :
    OwnLoops (started t entries) := by
  simp only [Prod.mk.injEq] at same
  obtain ⟨drains, next, teardowns⟩ := same
  have table := started_drains drains next entries
  have calls : (EngineMoves.started t entries).teardowns = s.teardowns := teardowns
  constructor
  · intro drain later
    rw [table]
    exact Fresh.create loops.fresh _ drain (next ▸ later)
  · intro drain pc found live
    rw [table] at found
    rcases update_eq_some found with ⟨rfl, _⟩ | ⟨_, before⟩
    · exact ⟨congrArg some next, rfl, (awaitsDrain_congr calls).not.mpr quiet⟩
    · have running := (loops.known drain pc before live).2.1
      rw [idle] at running
      cases running

theorem LoopsKnown.suspended {s : Engine} (loops : LoopsKnown s) {drain : DrainId}
    (waits : s.liveDrainTask = some drain) (entries : List Obs) :
    OwnLoops (((sessionClosed s entries).cancelDrain drain).setTeardown s.nextTeardown (.awaitingDrain drain)) := by
  have task : s.drainTask = some drain := (Option.filter_eq_some_iff.mp waits).1
  constructor
  · exact Fresh.update loops.fresh (fun gone => by rw [gone]; rfl)
  · intro other pc found live
    rcases update_eq_some found with ⟨_, mapped⟩ | ⟨different, before⟩
    · obtain ⟨old, _, cancelled⟩ := Option.map_eq_some_iff.mp mapped
      cases cancelled
    · have named := (loops.known other pc before live).1
      rw [task] at named
      exact absurd (Option.some.inj named).symm different

/-- A teardown that takes the saved states leaves no loop that nobody cancelled. -/
theorem OwnLoops.took {s t : Engine} {teardown : TeardownId} {entries : List Obs}
    (fresh : ∀ drain, s.nextDrain ≤ drain → s.drains drain = none)
    (same : (t.drains, t.nextDrain) = (s.drains, s.nextDrain))
    (cancelled : ∀ drain pc, s.drains drain = some ⟨pc, false⟩ → pc = .done) : OwnLoops (took t teardown entries) := by
  simp only [Prod.mk.injEq] at same
  obtain ⟨drains, next⟩ := same
  have table : (EngineMoves.took t teardown entries).drains = s.drains := drains
  constructor
  · intro drain later
    rw [table]
    exact fresh drain (next ▸ later)
  · intro drain pc found live
    rw [table] at found
    exact absurd (cancelled drain pc found) live

theorem LoopsKnown.unwound {s t : Engine} (loops : LoopsKnown s) {drain : DrainId} {pc : DrainPc}
    (found : s.drains drain = some ⟨pc, true⟩) (live : pc ≠ .done)
    (drains : t.drains = (s.setDrain drain .done).drains) (next : t.nextDrain = s.nextDrain) : OwnLoops t := by
  have table := drains.trans (setDrain_of_task found .done)
  obtain ⟨teardown, waiting⟩ := loops.awaited drain pc found live
  constructor
  · rw [next, table]
    exact Fresh.replace loops.fresh found _
  · intro other pc' found' live'
    rw [table] at found'
    rcases update_eq_some found' with ⟨_, ended⟩ | ⟨_, before⟩
    · cases ended
    · exact absurd ⟨teardown, drain, waiting⟩ (loops.known other pc' before live').2.2

theorem LoopsKnown.ran {s : Engine} (loops : LoopsKnown s) {drain : DrainId} {pc after : DrainPc}
    {mapping : ChannelId → LightMapping} {stats : Stats} {wake running : Bool} {begun : Option Call}
    {log drops entries : List Obs} (found : s.drains drain = some ⟨pc, false⟩) (live : pc ≠ .done)
    (leaves : Leaves s begun after running entries) :
    OwnLoops (swept { s with log := log } drain mapping stats wake begun drops after running entries) := by
  obtain ⟨task, flag, quiet⟩ := loops.known drain pc found live
  have ends : after = .done ∨ running = true := by
    cases begun with
    | some call =>
      obtain ⟨_, same, _⟩ := leaves
      exact .inr (same.trans flag)
    | none =>
      rcases leaves with ⟨_, same, _⟩ | ⟨finished, _⟩
      · exact .inr (same.trans flag)
      · exact .inl finished
  constructor
  · exact Fresh.replace loops.fresh found _
  · intro other pc' found' live'
    rcases update_eq_some found' with ⟨rfl, new⟩ | ⟨different, before⟩
    · cases new
      rcases ends with finished | up
      · exact absurd finished live'
      · exact ⟨task, up, quiet⟩
    · have named := (loops.known other pc' before live').1
      rw [task] at named
      exact absurd (Option.some.inj named).symm different

theorem LoopsKnown.ownLoops_step {s t : Engine} {event : Event} (loops : LoopsKnown s)
    (guard : FramesInSession s event) (move : Move s event t) : OwnLoops t := by
  cases move with
  | commandStarted accepted idle notices =>
    have quiet : ¬AwaitsDrain s := fun awaits => guard awaits idle _ accepted
    exact loops.started idle quiet _ rfl
  | snapshotStarted unholds notices idle notices' =>
    have quiet : ¬AwaitsDrain s := fun awaits => guard awaits idle (opens_of_unholds unholds)
    exact loops.started idle quiet _ rfl
  | restoreSuspended active waits notices => exact loops.suspended waits _
  | restoreTook active free notices notices' =>
    refine .took loops.fresh rfl ?_
    intro drain pc found
    by_contra live
    have named := (loops.known drain pc found live).1
    have unfinished : s.drainDone drain = false := by
      by_contra finished
      exact live (live_of_drainDone (by simpa using finished) found)
    unfold Engine.liveDrainTask at free
    rw [named] at free
    simp [unfinished] at free
  | @drained teardown waited entries found finished notices =>
    refine .took loops.fresh rfl ?_
    intro drain pc found'
    by_contra live
    exact (loops.known drain pc found' live).2.2 ⟨teardown, waited, found⟩
  | drain move =>
    cases move with
    | neverEntered found => exact loops.unwound found (by simp) rfl rfl
    | unwound found live entries notices => exact loops.unwound found live rfl rfl
    | ran found live ended sweep leaves => exact loops.ran found live leaves
  | @reproduced teardown saved outcome found =>
    have awaits := reproduced_awaits found (.reproduceEnded teardown outcome)
    constructor
    · exact loops.fresh
    · intro drain pc found' live
      obtain ⟨task, running, quiet⟩ := loops.known drain pc found' live
      refine ⟨task, running, ?_⟩
      rintro ⟨other, waited, waiting⟩
      exact quiet ⟨other, waited, (awaits other waited).mp waiting⟩
  | frame wrote held same => exact loops.of_same rfl
  | commandJoined accepted running => exact loops.of_same rfl
  | snapshotJoined unholds notices running => exact loops.of_same rfl
  | paused unreleased notices => exact loops.of_same rfl
  | resumed unreleased notices => exact loops.of_same rfl
  | released notices => exact loops.of_same rfl
  | pauseExpired pending notices => exact loops.of_same rfl
  | graceStale pending unreleased => exact loops.of_same rfl
  | graceEnded pending releasing inactive notices => exact loops.of_same rfl
  | graceForced pending releasing active notices => exact loops.of_same rfl
  | tick forward => exact loops.of_same rfl
  | setState => exact loops.of_same rfl
  | commandKept rejected => exact ⟨loops.fresh, loops.known⟩
  | snapshotKept closed => exact ⟨loops.fresh, loops.known⟩
  | restoreKept inactive => exact ⟨loops.fresh, loops.known⟩
  | pauseKept releasing => exact ⟨loops.fresh, loops.known⟩
  | resumeKept => exact ⟨loops.fresh, loops.known⟩

theorem LoopsKnown.step {s t : Engine} {event : Event} (loops : LoopsKnown s) (guard : FramesInSession s event)
    (move : Move s event t) : LoopsKnown t := by
  have stops := (Awaited.mk loops.unused loops.awaited).step move
  have own := loops.ownLoops_step guard move
  exact ⟨own.fresh, stops.unused, own.known, stops.awaited⟩

theorem handleFrame_unwritten {s : Engine} {data : Bytes} (unwritten : ¬FrameWrites s data) :
    (s.handleFrame data).mapping = s.mapping := by
  unfold Engine.handleFrame
  rcases parsed : parseHuestreamFrame data with error | frame | frame
  · rfl
  · rfl
  · by_cases suppressed : s.countFrame.suppressed = true
    · simp only [if_pos suppressed]
      rfl
    · simp only [if_neg suppressed]
      have free : s.suppressed = false := eq_false_of_ne_true suppressed
      have all : ∀ (channels : List ChannelColor) (t : Engine), (∀ channel ∈ channels, channel ∈ frame.channels) →
          t.mapping = s.mapping → t.channels = s.channels →
          (channels.foldl (fun t channel => t.scheduleUpdate channel frame.colorSpace) t).mapping = s.mapping := by
        intro channels
        induction channels with
        | nil => exact fun t _ mapping _ => mapping
        | cons first rest ih =>
          intro t members mapping channels
          have later : ∀ channel ∈ rest, channel ∈ frame.channels :=
            fun channel member => members channel (List.mem_cons_of_mem _ member)
          rw [List.foldl_cons]
          rcases scheduleUpdate_cases t first frame.colorSpace with
            ⟨_, same⟩ | ⟨_, _, same⟩ | ⟨mapped, outside, _⟩
          · rw [same]
            exact ih t later mapping channels
          · rw [same]
            exact ih _ later mapping channels
          · rw [mapping] at outside
            rw [channels] at mapped
            exact absurd ⟨free, frame, first, parsed, members first List.mem_cons_self, mapped, outside⟩ unwritten
      exact all frame.channels s.countFrame (fun _ member => member) rfl rfl

/-- The writes are v1 bodies addressed to the light, and there is one. -/
def FromPuts (channelId : ChannelId) (writes : List Write) : Prop :=
  writes ≠ [] ∧ ∀ write ∈ writes, ∃ body, write = .put channelId body

/-- What waits to be sent came from classic commands to its own light. -/
def PutsOnly (s : Engine) : Prop :=
  ∀ channelId, (s.mapping channelId).dirty = true → FromPuts channelId (s.mapping channelId).pendingFrom

theorem FromPuts.queue {s : Engine} {lightId : Nat} {body : Json} {slot : ServiceData × List Write}
    (puts : PutsOnly s) (accepted : Accepts s lightId body slot) : FromPuts lightId slot.2 := by
  obtain ⟨data, pending, older, _, _, rfl, merged⟩ := commandSlot_eq accepted.2.2
  refine ⟨by simp, ?_⟩
  intro write member
  rcases List.mem_cons.mp member with rfl | before
  · exact ⟨body, rfl⟩
  · rcases merged with ⟨_, rfl⟩ | ⟨dirty, _, rfl⟩
    · cases before
    · exact (puts lightId dirty).2 write before

/-- A step to a state without a session and without a waiting stop either starts from one or flushes
every slot. -/
theorem settles {s t : Engine} {event : Event} (move : Move s event t) (inactive : t.active = false)
    (quiet : ¬AwaitsDrain t) :
    (s.active = false ∧ ¬AwaitsDrain s) ∨ ∀ channelId, (t.mapping channelId).dirty = false := by
  cases move with
  | snapshotJoined unholds notices running => cases inactive
  | snapshotStarted unholds notices idle notices' => cases inactive
  | restoreSuspended active waits notices =>
    exact absurd ⟨s.nextTeardown, _, Function.update_self _ _ _⟩ quiet
  | restoreTook active free notices notices' => exact .inr (fun _ => rfl)
  | drained found finished notices => exact .inr (fun _ => rfl)
  | @reproduced teardown saved outcome found =>
    refine .inl ⟨inactive, ?_⟩
    rintro ⟨other, waited, waiting⟩
    exact quiet ⟨other, waited, (reproduced_awaits found _ other waited).mpr waiting⟩
  | drain move =>
    obtain ⟨_, _, _, _, _, _, rfl⟩ := move.frame
    exact .inl ⟨inactive, quiet⟩
  | _ => exact .inl ⟨inactive, quiet⟩

theorem putsOnly_step {s t : Engine} {event : Event}
    (puts : s.active = false → ¬AwaitsDrain s → PutsOnly s) (guard : FramesInSession s event)
    (move : Move s event t) (inactive : t.active = false) (quiet : ¬AwaitsDrain t) : PutsOnly t := by
  intro channelId dirty
  rcases settles move inactive quiet with ⟨before, unawaited⟩ | clean
  · have puts := puts before unawaited
    rcases slot_step move channelId with ⟨data, rfl, rfl⟩ | slot
    · rw [handleFrame_unwritten (guard before)] at dirty ⊢
      exact puts channelId dirty
    · generalize t.mapping channelId = mapping at slot dirty
      cases slot with
      | kept => exact puts channelId dirty
      | flushed => cases dirty
      | queued same accepted => exact FromPuts.queue puts accepted
      | taken was taken =>
        rw [taken.clean] at dirty
        cases dirty
  · rw [clean channelId] at dirty
    cases dirty

theorem new_loopsKnown (lights : List (ChannelId × String)) (states : String → Option LightState) (now : ℚ) :
    LoopsKnown (engineOf lights states now) where
  fresh := fun _ _ => rfl
  unused := fun _ _ => rfl
  known := fun _ _ found => by cases found
  awaited := fun _ _ found => by cases found

theorem classic_invariant {s : Engine} (reached : Reachable machine FramesInSession s) :
    LoopsKnown s ∧ (s.active = false → ¬AwaitsDrain s → PutsOnly s) := by
  refine reached.invariant (fun x => LoopsKnown x ∧ (x.active = false → ¬AwaitsDrain x → PutsOnly x)) ?_ ?_
  · rintro s ⟨lights, states, now, rfl⟩
    refine ⟨new_loopsKnown lights states now, ?_⟩
    intro _ _ channelId dirty
    obtain ⟨other, entityId, same⟩ := fresh_mapping lights states now channelId
    rw [same] at dirty
    cases dirty
  · intro x event y held guard step
    obtain ⟨loops, puts⟩ := held
    exact ⟨loops.step guard (step_move step), putsOnly_step puts guard (step_move step)⟩

/-- The call is the one that its writes make of the slot, for the light of this entity; only the
transition may be the drain loop's own. -/
def Carries (call : Call) (entityId : String) : Prop :=
  call.service = (replay entityId call.source).service.getD .turnOn ∧
    ∃ transition, call.data = { replay entityId call.source with service := none, transition := transition }

theorem callOf_carries {s : Engine} {channelId : ChannelId} {data : ServiceData}
    (truthful : (s.mapping channelId).Truthful) (dirty : (s.mapping channelId).dirty = true)
    (pending : (s.mapping channelId).pendingData = some data) :
    Carries (s.callOf channelId (s.mapping channelId) data) (s.mapping channelId).entityId := by
  have told := truthful dirty
  rw [pending] at told
  have same : data = replay (s.mapping channelId).entityId (s.mapping channelId).pendingFrom :=
    Option.some.inj told
  unfold Carries Engine.callOf
  simp only [← same]
  refine ⟨trivial, ?_⟩
  split
  · exact ⟨data.transition, rfl⟩
  · exact ⟨_, rfl⟩

/-- As long as frames write slots only in a session, and no loop is created while a stop waits for
its own: every call begun without a session carries classic commands to its own light. -/
theorem inactive_calls_from_puts {s t : Engine} {event : Event}
    (reached : Reachable machine FramesInSession s) (inactive : s.active = false)
    (step : machine.step s event = some t) :
    ∃ new, t.log = new ++ s.log ∧ ∀ drain call begun, .callBegun drain call begun ∈ new →
      FromPuts call.channelId call.source ∧ Carries call (s.mapping call.channelId).entityId := by
  obtain ⟨new, logged, emits⟩ := move_adds (step_move step)
  refine ⟨new, logged, ?_⟩
  intro drain call begun member
  cases emits _ member with
  | @callBegun drain pc call data outcome found live dirty pending same =>
    obtain ⟨loops, puts⟩ := classic_invariant reached
    have quiet := (loops.known drain pc found live).2.2
    have source : call.source = (s.mapping call.channelId).pendingFrom := by rw [same]; rfl
    constructor
    · rw [source]
      exact puts inactive quiet call.channelId dirty
    · have carries := callOf_carries (truthful reached call.channelId) dirty pending
      rw [← same] at carries
      exact carries

def twoLights : Engine :=
  engineOf [(1, "light.one"), (2, "light.two")] (fun entityId => some ⟨entityId, "on"⟩) 0

/-- A v1 frame that turns light 2 red. -/
def redFrame : Bytes :=
  huestreamHeader ++ [1, 0, 0, 0, 0, 0, 0] ++ [0, 0, 2, 255, 255, 0, 0, 0, 0]

def brighten (lightId : Nat) : Event := .command lightId (.object [("bri", .int 100)])

/-- A session that a forced release ended, a frame that trails it, and a command to light 1 whose
loop is in the call for that light. -/
def trailingFrame : List Event :=
  [.snapshot, .drain 0 .returned, .release 2, .fire 0, .restore, .drain 0 .returned, .drained 0,
    .frame redFrame, brighten 1, .drain 1 .returned]

/-- The entry is a call that carries a frame. -/
def frameCall : Obs → Bool
  | .callBegun _ call _ => call.source.any (fun write => write matches .frame _ _)
  | _ => false

theorem frameCall_not_puts {entry : Obs} (frame : frameCall entry = true) : ∃ drain call begun,
    entry = .callBegun drain call begun ∧ ¬FromPuts call.channelId call.source := by
  cases entry with
  | callBegun drain call begun =>
    refine ⟨drain, call, begun, rfl, ?_⟩
    intro puts
    obtain ⟨write, member, framed⟩ := List.any_eq_true.mp frame
    obtain ⟨body, rfl⟩ := puts.2 write member
    cases framed
  | _ => cases frame

theorem newest_mem {s t : Engine} {new : List Obs} {entry : Obs} (logged : t.log = new ++ s.log)
    (longer : s.log.length < t.log.length) (newest : t.log.head? = some entry) : entry ∈ new := by
  rw [logged] at longer newest
  cases new with
  | nil => exact absurd longer (Nat.lt_irrefl _)
  | cons first rest =>
    simp only [List.cons_append, List.head?_cons, Option.some.injEq] at newest
    rw [newest]
    exact List.mem_cons_self

/-- The step happens without a session and its last entry passes the test. -/
def endsInactiveStep (s : Engine) (event : Event) (test : Obs → Bool) : Bool :=
  !s.active && (machine.step s event).any (fun t => decide (s.log.length < t.log.length) && t.log.head?.any test)

theorem endsInactiveStep_eq {s : Engine} {event : Event} {test : Obs → Bool}
    (ends : endsInactiveStep s event test = true) : s.active = false ∧ ∃ t entry,
      machine.step s event = some t ∧ test entry = true ∧ ∀ new, t.log = new ++ s.log → entry ∈ new := by
  unfold endsInactiveStep at ends
  rw [Bool.and_eq_true] at ends
  obtain ⟨inactive, found⟩ := ends
  obtain ⟨t, step, found⟩ := (Option.any_eq_true _ _).mp found
  rw [Bool.and_eq_true, decide_eq_true_eq] at found
  obtain ⟨longer, found⟩ := found
  obtain ⟨entry, newest, passes⟩ := (Option.any_eq_true _ _).mp found
  exact ⟨by simpa using inactive, t, entry, step, passes, fun new logged => newest_mem logged longer newest⟩

/-- The loop goes on to light 2 and sends it the frame, with no session active. -/
theorem trailingFrame_sent : ∃ s t new drain call begun, play machine Always twoLights trailingFrame = some s ∧
    s.active = false ∧ machine.step s (.drain 1 .returned) = some t ∧ t.log = new ++ s.log ∧
    .callBegun drain call begun ∈ new ∧ ¬FromPuts call.channelId call.source := by
  have last : (play machine Always twoLights trailingFrame).any
      (fun s => endsInactiveStep s (.drain 1 .returned) frameCall) = true := by decide +kernel
  obtain ⟨s, played, last⟩ := (Option.any_eq_true _ _).mp last
  obtain ⟨inactive, t, entry, step, frame, newest⟩ := endsInactiveStep_eq last
  obtain ⟨drain, call, begun, rfl, source⟩ := frameCall_not_puts frame
  obtain ⟨new, logged, _⟩ := move_adds (step_move step)
  exact ⟨s, t, new, drain, call, begun, played, inactive, step, logged, newest new logged, source⟩

/-- A command whose loop is created while the stop of a session still waits sends a frame of that
session. -/
example : (play machine Always twoLights [.snapshot, .drain 0 .returned, .frame redFrame, .restore,
    .drain 0 .returned, brighten 1, .drain 1 .returned, .drain 1 .returned]).any
    (fun s => !s.active && s.log.head?.any frameCall) = true := by decide +kernel

/-- A command to light 1 after a session and its stop. -/
def commandAfterStop : List Event :=
  [.snapshot, .drain 0 .returned, .restore, .drain 0 .returned, .drained 0, brighten 1]

theorem inactive_calls_from_puts_afterStop : ∃ s t drain call begun,
    Run machine FramesInSession twoLights commandAfterStop s ∧ s.active = false ∧
    machine.step s (.drain 1 .returned) = some t ∧ .callBegun drain call begun ∈ t.log ∧
    FromPuts call.channelId call.source := by
  have first : FramesInSession twoLights .snapshot := fun awaits => absurd awaits (new_unawaited _ _ _)
  obtain ⟨s, run⟩ : ∃ s, Run machine FramesInSession twoLights commandAfterStop s := by
    refine ⟨_, .cons first rfl (.cons trivial rfl (.cons trivial rfl (.cons trivial rfl (.cons trivial rfl
      (.cons ?_ rfl (.nil _))))))⟩
    rintro ⟨teardown, drain, found⟩
    change Function.update (Function.update (fun _ => (none : Option Teardown)) 0 _) 0 _ teardown =
      some (.awaitingDrain drain) at found
    by_cases here : teardown = 0
    · subst teardown
      cases found
    · rw [Function.update_of_ne here, Function.update_of_ne here] at found
      cases found
  have last : (play machine Always twoLights commandAfterStop).any
      (fun s => endsInactiveStep s (.drain 1 .returned) (fun entry => entry matches .callBegun _ _ _)) = true := by
    decide +kernel
  rw [run.played] at last
  obtain ⟨inactive, t, entry, step, called, newest⟩ := endsInactiveStep_eq last
  have reached : Reachable machine FramesInSession s := ⟨_, _, ⟨_, _, _, rfl⟩, run⟩
  obtain ⟨new, logged, calls⟩ := inactive_calls_from_puts reached inactive step
  have member := newest new logged
  cases entry with
  | callBegun drain call begun =>
    have source := (calls drain call begun member).1
    refine ⟨s, t, drain, call, begun, run, inactive, step, ?_, source⟩
    rw [logged]
    exact List.mem_append_left _ member
  | _ => cases called

end HueEntertainment.ClassicCalls
