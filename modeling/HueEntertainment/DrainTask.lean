import HueEntertainment.EngineMoves

/-! One drain loop. Outside the wait of `async_restore_lights` for its drain task, the engine's flag
and its task handle name the one live loop. During that wait they do not, and the code after it
overwrites both, so a session or a loop that starts meanwhile is lost. -/

namespace HueEntertainment.DrainTask
open HueStream LightCommand PyValue Entertainment EngineSteps EngineFrames DrainSteps EngineMoves TaskTable
  Runs

/-- The task has been created and is not done. -/
def Live (s : Engine) (drain : DrainId) : Prop :=
  ∃ task, s.drains drain = some task ∧ task.pc ≠ .done

/-- Some `async_restore_lights` is suspended. -/
def RestoreSuspended (s : Engine) : Prop :=
  ∃ teardown pc, s.teardowns teardown = some pc ∧ pc ≠ .done

/-- Some `async_restore_lights` waits for its drain task. -/
def AwaitsDrain (s : Engine) : Prop := ∃ teardown drain, s.teardowns teardown = some (.awaitingDrain drain)

theorem AwaitsDrain.suspended {s : Engine} (awaits : AwaitsDrain s) : RestoreSuspended s := by
  obtain ⟨teardown, drain, found⟩ := awaits
  exact ⟨teardown, _, found, by simp⟩

/-- At most one loop is live; the flag says whether one is, and the handle which. -/
structure OneDrainLoop (s : Engine) : Prop where
  single : ∀ drain other, Live s drain → Live s other → drain = other
  running : s.drainRunning = true ↔ ∃ drain, Live s drain
  task : ∀ drain, Live s drain → s.drainTask = some drain
  streaming : s.active = true → s.drainRunning = true

/-- A step that begins a session, or that creates a drain loop for a classic command. -/
def StartsWork (s : Engine) : Event → Prop
  | .snapshot => Opens s
  | .command lightId body => s.drainRunning = false ∧ ∃ slot, Accepts s lightId body slot
  | _ => False

/-- Nothing starts while an `async_restore_lights` waits for its drain task. -/
def QuietWait (s : Engine) (event : Event) : Prop := AwaitsDrain s → ¬StartsWork s event

/-- Between teardowns the live loop is the engine's own and nobody has cancelled it. -/
structure Free (s : Engine) : Prop where
  owner : ∀ drain task, s.drains drain = some task → task.pc ≠ .done →
    s.drainRunning = true ∧ s.drainTask = some drain ∧ task.cancelling = false
  running : s.drainRunning = true → ∃ drain, Live s drain
  streaming : s.active = true → s.drainRunning = true

/-- While a teardown waits, no session is active and every live loop is the one it cancelled. -/
structure Held (s : Engine) (teardown : TeardownId) (drain : DrainId) : Prop where
  inactive : s.active = false
  only : ∀ other task, s.drains other = some task → task.pc ≠ .done → other = drain ∧ task.cancelling = true
  single : ∀ other drain', s.teardowns other = some (.awaitingDrain drain') → other = teardown

structure LoopOwned (s : Engine) : Prop where
  fresh : ∀ drain, s.nextDrain ≤ drain → s.drains drain = none
  free : ¬AwaitsDrain s → Free s
  held : ∀ teardown drain, s.teardowns teardown = some (.awaitingDrain drain) → Held s teardown drain

/-- Everything the ownership of the drain loop is about. -/
def loops (s : Engine) :=
  (s.active, s.drainRunning, s.drainTask, s.drains, s.nextDrain, s.teardowns)

theorem awaitsDrain_congr {s t : Engine} (same : t.teardowns = s.teardowns) : AwaitsDrain t ↔ AwaitsDrain s := by
  unfold AwaitsDrain
  rw [same]

theorem LoopOwned.of_same {s t : Engine} (owned : LoopOwned s) (same : loops t = loops s) : LoopOwned t := by
  simp only [loops, Prod.mk.injEq] at same
  obtain ⟨active, running, task, drains, next, teardowns⟩ := same
  constructor
  · rw [next, drains]
    exact owned.fresh
  · intro idle
    rw [awaitsDrain_congr teardowns] at idle
    have free := owned.free idle
    constructor
    · rw [drains, running, task]
      exact free.owner
    · unfold Live
      rw [running, drains]
      exact free.running
    · rw [active, running]
      exact free.streaming
  · rw [teardowns]
    intro teardown drain found
    have held := owned.held teardown drain found
    constructor
    · rw [active]
      exact held.inactive
    · rw [drains]
      exact held.only
    · rw [teardowns]
      exact held.single

/-- No teardown waits during a session. -/
theorem LoopOwned.unawaited {s : Engine} (owned : LoopOwned s) (active : s.active = true) : ¬AwaitsDrain s := by
  rintro ⟨teardown, drain, found⟩
  have inactive := (owned.held teardown drain found).inactive
  rw [active] at inactive
  cases inactive

/-- A new loop, when the flag is down and no teardown waits. -/
theorem LoopOwned.started {s t : Engine} (owned : LoopOwned s) (idle : s.drainRunning = false)
    (quiet : ¬AwaitsDrain s) (same : (t.drains, t.nextDrain, t.teardowns) = (s.drains, s.nextDrain, s.teardowns))
    (entries : List Obs) : LoopOwned (started t entries) := by
  simp only [Prod.mk.injEq] at same
  obtain ⟨drains, next, teardowns⟩ := same
  have free := owned.free quiet
  have table := started_drains drains next entries
  have none : ∀ drain task, s.drains drain = some task → task.pc ≠ .done → False := by
    intro drain task found live
    have running := (free.owner drain task found live).1
    rw [idle] at running
    cases running
  constructor
  · intro drain later
    rw [table]
    exact Fresh.create owned.fresh _ drain (next ▸ later)
  · intro _
    constructor
    · intro drain task found live
      rw [table] at found
      rcases update_eq_some found with ⟨rfl, new⟩ | ⟨_, before⟩
      · obtain rfl := Option.some.inj new
        exact ⟨rfl, congrArg some next, rfl⟩
      · exact (none drain task before live).elim
    · intro _
      refine ⟨s.nextDrain, ⟨.created, false⟩, ?_, by simp⟩
      rw [table]
      exact Function.update_self _ _ _
    · exact fun _ => rfl
  · intro teardown drain found
    have waiting : s.teardowns teardown = some (.awaitingDrain drain) := teardowns ▸ found
    exact absurd ⟨teardown, drain, waiting⟩ quiet

/-- A session opened on a loop that runs. -/
theorem LoopOwned.joined {s t : Engine} (owned : LoopOwned s) (quiet : ¬AwaitsDrain s)
    (running : s.drainRunning = true)
    (same : (t.drainRunning, t.drainTask, t.drains, t.nextDrain, t.teardowns) =
      (s.drainRunning, s.drainTask, s.drains, s.nextDrain, s.teardowns)) : LoopOwned t := by
  simp only [Prod.mk.injEq] at same
  obtain ⟨flag, task, drains, next, teardowns⟩ := same
  have free := owned.free quiet
  constructor
  · rw [next, drains]
    exact owned.fresh
  · intro _
    constructor
    · rw [drains, flag, task]
      exact free.owner
    · unfold Live
      rw [flag, drains]
      exact free.running
    · intro _
      rw [flag]
      exact running
  · intro teardown drain found
    rw [teardowns] at found
    exact absurd ⟨teardown, drain, found⟩ quiet

/-- A stop that finds its loop live. -/
theorem LoopOwned.suspended {s : Engine} (owned : LoopOwned s) (active : s.active = true) {drain : DrainId}
    (waits : s.liveDrainTask = some drain) (entries : List Obs) :
    LoopOwned (((sessionClosed s entries).cancelDrain drain).setTeardown s.nextTeardown (.awaitingDrain drain)) := by
  have quiet := owned.unawaited active
  have free := owned.free quiet
  have task : s.drainTask = some drain := (Option.filter_eq_some_iff.mp waits).1
  have ours : ∀ other task, s.drains other = some task → task.pc ≠ .done → other = drain := by
    intro other task' found live
    have named := (free.owner other task' found live).2.1
    rw [task] at named
    exact (Option.some.inj named).symm
  constructor
  · exact Fresh.update owned.fresh (fun gone => by rw [gone]; rfl)
  · intro idle
    exact absurd ⟨s.nextTeardown, drain, Function.update_self _ _ _⟩ idle
  · intro teardown waited found
    rcases update_eq_some found with ⟨rfl, new⟩ | ⟨_, before⟩
    · cases new
      constructor
      · rfl
      · intro other task' found' live
        rcases update_eq_some found' with ⟨rfl, marked⟩ | ⟨different, before⟩
        · obtain ⟨old, _, rfl⟩ := Option.map_eq_some_iff.mp marked
          exact ⟨rfl, rfl⟩
        · exact absurd (ours other task' before live) different
      · intro other waited' found'
        rcases update_eq_some found' with ⟨same, _⟩ | ⟨_, before⟩
        · exact same
        · exact absurd ⟨other, waited', before⟩ quiet
    · exact absurd ⟨teardown, waited, before⟩ quiet

theorem live_of_drainDone {s : Engine} {drain : DrainId} {task : Drain} (finished : s.drainDone drain = true)
    (found : s.drains drain = some task) : task.pc = .done := by
  unfold Engine.drainDone at finished
  rw [found] at finished
  obtain ⟨pc, cancelling⟩ := task
  cases pc with
  | done => rfl
  | _ => cases finished

/-- The teardown that took the saved states waits for no drain task; the others wait as before. -/
theorem took_awaits {s : Engine} {teardown other : TeardownId} {entries : List Obs} {drain : DrainId}
    (found : (took s teardown entries).teardowns other = some (.awaitingDrain drain)) :
    other ≠ teardown ∧ s.teardowns other = some (.awaitingDrain drain) := by
  rcases update_eq_some found with ⟨rfl, waits⟩ | before
  · rcases saved : s.savedStates with _ | ⟨session, states⟩
    · simp [saved, afterTaking] at waits
    · by_cases empty : states = [] <;> simp [saved, afterTaking, empty] at waits
  · exact before

/-- A teardown goes on once its loop is done. -/
theorem LoopOwned.drained {s : Engine} (owned : LoopOwned s) {teardown : TeardownId} {drain : DrainId}
    (found : s.teardowns teardown = some (.awaitingDrain drain)) (finished : s.drainDone drain = true)
    (entries : List Obs) : LoopOwned (took { s with drainTask := none } teardown entries) := by
  have held := owned.held teardown drain found
  have none : ∀ other task, s.drains other = some task → task.pc ≠ .done → False := by
    intro other task found' live
    have here := (held.only other task found' live).1
    rw [here] at found'
    exact live (live_of_drainDone finished found')
  have quiet : ∀ other waited, (took { s with drainTask := Option.none } teardown entries).teardowns other ≠
      some (.awaitingDrain waited) := by
    intro other waited found'
    obtain ⟨different, before⟩ := took_awaits found'
    exact different (held.single other waited before)
  constructor
  · exact owned.fresh
  · intro _
    constructor
    · intro other task found' live
      exact (none other task found' live).elim
    · intro running
      cases running
    · intro active
      have inactive : s.active = true := active
      rw [held.inactive] at inactive
      cases inactive
  · intro other waited found'
    exact absurd found' (quiet other waited)

/-- The end of a cancelled loop. -/
theorem LoopOwned.unwound {s t : Engine} (owned : LoopOwned s) {drain : DrainId} {pc : DrainPc}
    (found : s.drains drain = some ⟨pc, true⟩) (live : pc ≠ .done)
    (drains : t.drains = (s.setDrain drain .done).drains)
    (same : (t.active, t.nextDrain, t.teardowns) = (s.active, s.nextDrain, s.teardowns)) : LoopOwned t := by
  simp only [Prod.mk.injEq] at same
  obtain ⟨active, next, teardowns⟩ := same
  have table := drains.trans (setDrain_of_task found .done)
  have awaits : AwaitsDrain s := by
    by_contra idle
    have kept := ((owned.free idle).owner drain _ found live).2.2
    cases kept
  constructor
  · rw [next, table]
    exact Fresh.replace owned.fresh found _
  · intro idle
    rw [awaitsDrain_congr teardowns] at idle
    exact absurd awaits idle
  · rw [teardowns]
    intro teardown waited found'
    have held := owned.held teardown waited found'
    constructor
    · rw [active]
      exact held.inactive
    · intro other task found'' live'
      rw [drains] at found''
      exact held.only other task (live_before_done found found'' live').2 live'
    · rw [teardowns]
      exact held.single

/-- A pass of the engine's own loop. -/
theorem LoopOwned.ran {s : Engine} (owned : LoopOwned s) {drain : DrainId} {pc after : DrainPc}
    {mapping : ChannelId → LightMapping} {stats : Stats} {wake running : Bool} {begun : Option Call}
    {log drops entries : List Obs} (found : s.drains drain = some ⟨pc, false⟩) (live : pc ≠ .done)
    (leaves : Leaves s begun after running entries) :
    LoopOwned (swept { s with log := log } drain mapping stats wake begun drops after running entries) := by
  have quiet : ¬AwaitsDrain s := by
    rintro ⟨teardown, waited, found'⟩
    have cancelling := ((owned.held teardown waited found').only drain _ found live).2
    cases cancelling
  have free := owned.free quiet
  obtain ⟨flag, task, _⟩ := free.owner drain _ found live
  have ends : (after ≠ .done ∧ running = true) ∨ (after = .done ∧ running = false ∧ s.active = false) := by
    cases begun with
    | some call =>
      obtain ⟨⟨rest, calls⟩, same, _⟩ := leaves
      exact .inl ⟨by rw [calls]; simp, same.trans flag⟩
    | none =>
      rcases leaves with ⟨⟨idleSince, waits⟩, same, _⟩ | ⟨finished, down, inactive, _⟩
      · exact .inl ⟨by rw [waits]; simp, same.trans flag⟩
      · exact .inr ⟨finished, down, inactive⟩
  have others : ∀ other task, other ≠ drain → s.drains other = some task → task.pc ≠ .done → False := by
    intro other task' different found' live'
    have named := (free.owner other task' found' live').2.1
    rw [task] at named
    exact different (Option.some.inj named).symm
  constructor
  · exact Fresh.replace owned.fresh found _
  · intro _
    constructor
    · intro other task' found' live'
      rcases update_eq_some found' with ⟨rfl, new⟩ | ⟨different, before⟩
      · obtain rfl := Option.some.inj new
        rcases ends with ⟨_, up⟩ | ⟨finished, _⟩
        · exact ⟨up, task, rfl⟩
        · exact absurd finished live'
      · exact (others other task' different before live').elim
    · intro up
      have up : running = true := up
      rcases ends with ⟨still, _⟩ | ⟨_, down, _⟩
      · exact ⟨drain, ⟨after, false⟩, Function.update_self _ _ _, still⟩
      · rw [down] at up
        cases up
    · intro active
      have active : s.active = true := active
      rcases ends with ⟨_, up⟩ | ⟨_, _, inactive⟩
      · exact up
      · rw [inactive] at active
        cases active
  · intro teardown waited found'
    exact absurd ⟨teardown, waited, found'⟩ quiet

theorem reproduced_awaits {s : Engine} {teardown : TeardownId} {saved : Snapshot}
    (found : s.teardowns teardown = some (.reproducing saved)) (obs : Obs) (other : TeardownId) (drain : DrainId) :
    ((s.observe obs).setTeardown teardown .done).teardowns other = some (.awaitingDrain drain) ↔
      s.teardowns other = some (.awaitingDrain drain) := by
  change Function.update s.teardowns teardown _ other = _ ↔ _
  by_cases here : other = teardown
  · subst other
    rw [Function.update_self, found]
    simp
  · rw [Function.update_of_ne here]

theorem LoopOwned.reproduced {s : Engine} (owned : LoopOwned s) {teardown : TeardownId} {saved : Snapshot}
    (found : s.teardowns teardown = some (.reproducing saved)) (obs : Obs) :
    LoopOwned ((s.observe obs).setTeardown teardown .done) := by
  have same := reproduced_awaits found obs
  constructor
  · exact owned.fresh
  · intro idle
    have before : ¬AwaitsDrain s := by
      rintro ⟨other, drain, found'⟩
      exact idle ⟨other, drain, (same other drain).mpr found'⟩
    have free := owned.free before
    exact ⟨free.owner, free.running, free.streaming⟩
  · intro other drain found'
    have held := owned.held other drain ((same other drain).mp found')
    refine ⟨held.inactive, held.only, ?_⟩
    intro third drain' found''
    exact held.single third drain' ((same third drain').mp found'')

/-- A cancelled loop that is not done has the stop that waits for it. -/
structure Awaited (s : Engine) : Prop where
  unused : Fresh s.teardowns s.nextTeardown
  awaited : ∀ drain pc, s.drains drain = some ⟨pc, true⟩ → pc ≠ .done →
    ∃ teardown, s.teardowns teardown = some (.awaitingDrain drain)

theorem Awaited.of_same {s t : Engine} (held : Awaited s)
    (same : (t.drains, t.teardowns, t.nextTeardown) = (s.drains, s.teardowns, s.nextTeardown)) : Awaited t := by
  simp only [Prod.mk.injEq] at same
  obtain ⟨drains, teardowns, stops⟩ := same
  constructor
  · rw [teardowns, stops]
    exact held.unused
  · rw [drains, teardowns]
    exact held.awaited

theorem Awaited.started {s : Engine} (held : Awaited s) (entries : List Obs) : Awaited (started s entries) := by
  constructor
  · exact held.unused
  · intro drain pc found unfinished
    rcases update_eq_some found with ⟨_, new⟩ | ⟨_, before⟩
    · cases new
    · exact held.awaited drain pc before unfinished

theorem Awaited.suspended {s : Engine} (held : Awaited s) (drain : DrainId) (entries : List Obs) :
    Awaited (((sessionClosed s entries).cancelDrain drain).setTeardown s.nextTeardown (.awaitingDrain drain)) := by
  constructor
  · exact Fresh.create held.unused _
  · intro other pc found unfinished
    rcases update_eq_some found with ⟨rfl, _⟩ | ⟨_, before⟩
    · exact ⟨s.nextTeardown, Function.update_self _ _ _⟩
    · obtain ⟨teardown, waiting⟩ := held.awaited other pc before unfinished
      have earlier : teardown < s.nextTeardown := Fresh.lt held.unused waiting
      exact ⟨teardown, (Function.update_of_ne (Nat.ne_of_lt earlier) _ _).trans waiting⟩

/-- A stop that takes the saved states waits for no loop that is still to end. -/
theorem Awaited.took {s t : Engine} (held : Awaited s) {teardown : TeardownId}
    (same : (t.drains, t.teardowns) = (s.drains, s.teardowns))
    (unused : Fresh (Function.update t.teardowns teardown (some (afterTaking teardown t.savedStates).1)) t.nextTeardown)
    (finished : ∀ drain, s.teardowns teardown = some (.awaitingDrain drain) → s.drainDone drain = true)
    (entries : List Obs) : Awaited (took t teardown entries) := by
  simp only [Prod.mk.injEq] at same
  obtain ⟨drains, teardowns⟩ := same
  constructor
  · exact unused
  · intro drain pc found unfinished
    change t.drains drain = _ at found
    rw [drains] at found
    obtain ⟨stop, waiting⟩ := held.awaited drain pc found unfinished
    refine ⟨stop, (Function.update_of_ne ?_ _ _).trans (teardowns ▸ waiting)⟩
    intro here
    rw [here] at waiting
    exact unfinished (live_of_drainDone (finished drain waiting) found)

theorem Awaited.unwound {s t : Engine} (held : Awaited s) {drain : DrainId} {pc : DrainPc}
    (found : s.drains drain = some ⟨pc, true⟩) (drains : t.drains = (s.setDrain drain .done).drains)
    (same : (t.teardowns, t.nextTeardown) = (s.teardowns, s.nextTeardown)) : Awaited t := by
  simp only [Prod.mk.injEq] at same
  obtain ⟨teardowns, stops⟩ := same
  constructor
  · rw [teardowns, stops]
    exact held.unused
  · rw [drains, teardowns]
    intro other pc' found' unfinished'
    exact held.awaited other pc' (live_before_done found found' unfinished').2 unfinished'

theorem Awaited.ran {s : Engine} (held : Awaited s) {drain : DrainId} {after : DrainPc}
    {mapping : ChannelId → LightMapping} {stats : Stats} {wake running : Bool} {begun : Option Call}
    {log drops entries : List Obs} :
    Awaited (swept { s with log := log } drain mapping stats wake begun drops after running entries) := by
  constructor
  · exact held.unused
  · intro other pc' found' unfinished
    rcases update_eq_some found' with ⟨_, new⟩ | ⟨_, before⟩
    · cases new
    · exact held.awaited other pc' before unfinished

theorem Awaited.step {s t : Engine} {event : Event} (held : Awaited s) (move : Move s event t) : Awaited t := by
  cases move with
  | commandStarted accepted idle notices => exact (held.of_same (t := queued s _ _) rfl).started _
  | snapshotStarted unholds notices idle notices' =>
    exact (held.of_same (t := sessionOpened (unheld s _ _ _ _) _) rfl).started _
  | restoreSuspended active waits notices => exact held.suspended _ _
  | restoreTook active free notices notices' =>
    refine held.took (t := sessionClosed s _) rfl (Fresh.create held.unused _) (fun drain waiting => ?_) _
    rw [held.unused s.nextTeardown (Nat.le_refl _)] at waiting
    cases waiting
  | drain move =>
    cases move with
    | neverEntered found => exact held.unwound found rfl rfl
    | unwound found live entries notices => exact held.unwound found rfl rfl
    | ran found live ended sweep leaves => exact held.ran
  | drained found finished notices =>
    refine held.took (t := { s with drainTask := none }) rfl (Fresh.replace held.unused found _) (fun drain waiting => ?_) _
    rw [found] at waiting
    cases waiting
    exact finished
  | reproduced found =>
    constructor
    · exact Fresh.replace held.unused found _
    · intro drain pc found' unfinished
      obtain ⟨other, waiting⟩ := held.awaited drain pc found' unfinished
      exact ⟨other, (reproduced_awaits found _ other drain).mpr waiting⟩
  | frame wrote kept same => exact held.of_same rfl
  | commandKept rejected => exact held
  | snapshotKept closed => exact held
  | restoreKept inactive => exact held
  | pauseKept releasing => exact held
  | resumeKept => exact held
  | _ => exact held.of_same rfl

theorem LoopOwned.step {s t : Engine} {event : Event} (owned : LoopOwned s) (quiet : QuietWait s event)
    (move : Move s event t) : LoopOwned t := by
  cases move with
  | commandStarted accepted idle notices =>
    have unawaited : ¬AwaitsDrain s := fun awaits => quiet awaits ⟨idle, _, accepted⟩
    refine owned.started idle unawaited ?_ _
    rfl
  | snapshotJoined unholds notices running =>
    have unawaited : ¬AwaitsDrain s := fun awaits => quiet awaits (opens_of_unholds unholds)
    exact owned.joined unawaited running rfl
  | snapshotStarted unholds notices idle notices' =>
    have unawaited : ¬AwaitsDrain s := fun awaits => quiet awaits (opens_of_unholds unholds)
    refine owned.started idle unawaited ?_ _
    rfl
  | restoreSuspended active waits notices => exact owned.suspended active waits _
  | restoreTook active free notices notices' =>
    have free' := owned.free (owned.unawaited active)
    obtain ⟨drain, task, found, live⟩ := free'.running (free'.streaming active)
    have named := (free'.owner drain task found live).2.1
    have unfinished : s.drainDone drain = false := by
      by_contra finished
      exact live (live_of_drainDone (by simpa using finished) found)
    unfold Engine.liveDrainTask at free
    rw [named] at free
    simp [unfinished] at free
  | drain move =>
    cases move with
    | neverEntered found => exact owned.unwound found (by simp) rfl rfl
    | unwound found live entries notices => exact owned.unwound found live rfl rfl
    | ran found live ended sweep leaves => exact owned.ran found live leaves
  | drained found finished notices => exact owned.drained found finished _
  | reproduced found => exact owned.reproduced found _
  | frame wrote held same => exact owned.of_same rfl
  | commandJoined accepted running => exact owned.of_same rfl
  | paused unreleased notices => exact owned.of_same rfl
  | resumed unreleased notices => exact owned.of_same rfl
  | released notices => exact owned.of_same rfl
  | pauseExpired pending notices => exact owned.of_same rfl
  | graceStale pending unreleased => exact owned.of_same rfl
  | graceEnded pending releasing inactive notices => exact owned.of_same rfl
  | graceForced pending releasing active notices => exact owned.of_same rfl
  | tick forward => exact owned.of_same rfl
  | setState => exact owned.of_same rfl
  | commandKept rejected => exact owned
  | snapshotKept closed => exact owned
  | restoreKept inactive => exact owned
  | pauseKept releasing => exact owned
  | resumeKept => exact owned

theorem new_unawaited (lightMappings : List LightMapping) (states : String → Option LightState) (now : ℚ) :
    ¬AwaitsDrain (Engine.new lightMappings states now) := by
  rintro ⟨teardown, drain, found⟩
  cases found

theorem new_loopOwned (lightMappings : List LightMapping) (states : String → Option LightState) (now : ℚ) :
    LoopOwned (Engine.new lightMappings states now) := by
  constructor
  · exact fun _ _ => rfl
  · intro _
    constructor
    · intro drain task found
      cases found
    · intro running
      cases running
    · intro active
      cases active
  · intro teardown drain found
    exact absurd ⟨teardown, drain, found⟩ (new_unawaited lightMappings states now)

theorem loopOwned {s : Engine} (reached : Reachable machine QuietWait s) : LoopOwned s := by
  apply reached.invariant LoopOwned
  · rintro s ⟨lights, states, now, rfl⟩
    exact new_loopOwned _ states now
  · intro s event t owned quiet step
    exact owned.step quiet (step_move step)

theorem Free.oneDrainLoop {s : Engine} (free : Free s) : OneDrainLoop s where
  single := by
    rintro drain other ⟨task, found, live⟩ ⟨task', found', live'⟩
    have named := (free.owner drain task found live).2.1
    have named' := (free.owner other task' found' live').2.1
    rw [named] at named'
    exact Option.some.inj named'
  running := by
    constructor
    · exact free.running
    · rintro ⟨drain, task, found, live⟩
      exact (free.owner drain task found live).1
  task := by
    rintro drain ⟨task, found, live⟩
    exact (free.owner drain task found live).2.1
  streaming := free.streaming

theorem LoopOwned.single {s : Engine} (owned : LoopOwned s) {drain other : DrainId}
    (live : Live s drain) (live' : Live s other) : drain = other := by
  by_cases awaits : AwaitsDrain s
  · obtain ⟨teardown, waited, found⟩ := awaits
    have held := owned.held teardown waited found
    obtain ⟨task, found, live⟩ := live
    obtain ⟨task', found', live'⟩ := live'
    rw [(held.only drain task found live).1, (held.only other task' found' live').1]
  · exact (owned.free awaits).oneDrainLoop.single drain other live live'

/-- Only a stop makes an `async_restore_lights` wait for its drain task. -/
theorem unawaited_step {s t : Engine} {event : Event} (quiet : ¬AwaitsDrain s) (unstopped : event ≠ .restore)
    (move : Move s event t) : ¬AwaitsDrain t := by
  cases move with
  | restoreKept inactive => exact quiet
  | restoreSuspended active waits notices => exact absurd rfl unstopped
  | restoreTook active free notices notices' => exact absurd rfl unstopped
  | drained found finished notices => exact absurd ⟨_, _, found⟩ quiet
  | reproduced found =>
    rintro ⟨other, drain, waits⟩
    exact quiet ⟨other, drain, (reproduced_awaits found _ other drain).mp waits⟩
  | drain move =>
    obtain ⟨_, _, _, _, _, _, rfl⟩ := move.frame
    exact quiet
  | _ => exact quiet

/-- Without a stop nothing can start in the wait of one. -/
theorem quietWait_of_unstopped {ok : Engine → Event → Prop} {s t : Engine} {events : List Event}
    (run : Run machine ok s events t) (quiet : ¬AwaitsDrain s) (unstopped : ∀ event ∈ events, event ≠ .restore) :
    Run machine QuietWait s events t := by
  induction run with
  | nil s => exact .nil s
  | cons _ step _ ih =>
    have next := unawaited_step quiet (unstopped _ List.mem_cons_self) (step_move step)
    exact .cons (fun awaits => absurd awaits quiet) step
      (ih next (fun event member => unstopped event (List.mem_cons_of_mem _ member)))

/-- After a pass of the only loop the call it began is the one in flight. -/
theorem swept_inFlight {s : Engine} {drain other : DrainId} {pc after : DrainPc}
    {mapping : ChannelId → LightMapping} {stats : Stats} {wake running : Bool} {begun : Option Call}
    {log drops entries : List Obs} {call : Call} (owned : LoopOwned s) (found : s.drains drain = some ⟨pc, false⟩)
    (live : pc ≠ .done) (leaves : Leaves s begun after running entries) :
    InFlight (swept { s with log := log } drain mapping stats wake begun drops after running entries) other call ↔
      other = drain ∧ begun = some call := by
  constructor
  · rintro ⟨rest, cancelling, found'⟩
    rcases update_eq_some found' with ⟨rfl, new⟩ | ⟨different, before⟩
    · simp only [Option.some.injEq, Drain.mk.injEq] at new
      refine ⟨rfl, ?_⟩
      cases begun with
      | none =>
        rcases leaves with ⟨⟨idleSince, waits⟩, _⟩ | ⟨finished, _⟩
        · rw [waits] at new
          cases new.1
        · rw [finished] at new
          cases new.1
      | some begun =>
        obtain ⟨⟨rest', calls⟩, _⟩ := leaves
        rw [calls] at new
        simp only [DrainPc.calling.injEq] at new
        rw [new.1.1]
    · exact absurd (owned.single ⟨_, before, by simp⟩ ⟨_, found, live⟩) different
  · rintro ⟨rfl, rfl⟩
    obtain ⟨⟨rest, calls⟩, _⟩ := leaves
    refine ⟨rest, false, ?_⟩
    rw [← calls]
    exact Function.update_self _ _ _

/-- With one loop ever created, and that one not in a call, no call is in flight. -/
theorem LoopOwned.landed {s : Engine} (owned : LoopOwned s) (one : s.nextDrain = 1)
    (idle : (s.drains 0).any (fun task => task.pc matches .calling _ _) = false) :
    ∀ drain call, ¬InFlight s drain call := by
  rintro drain call ⟨rest, cancelling, found⟩
  have first : drain < s.nextDrain := Fresh.lt owned.fresh found
  obtain rfl : drain = 0 := Nat.lt_one_iff.mp (one ▸ first)
  rw [found] at idle
  cases idle

/-- As long as nothing starts while a teardown waits for its drain task: outside such a wait there
is exactly the one drain loop the engine knows of, and a session has it; and at no time are two
light service calls in flight. -/
theorem oneDrainLoop_of_quietWait {s : Engine} (reached : Reachable machine QuietWait s) :
    (¬AwaitsDrain s → OneDrainLoop s) ∧
    (∀ drain other call call', InFlight s drain call → InFlight s other call' → drain = other ∧ call = call') := by
  have owned := loopOwned reached
  constructor
  · intro idle
    exact (owned.free idle).oneDrainLoop
  · rintro drain other call call' ⟨rest, cancelling, found⟩ ⟨rest', cancelling', found'⟩
    have same : drain = other := owned.single ⟨_, found, by simp⟩ ⟨_, found', by simp⟩
    subst other
    rw [found] at found'
    simp only [Option.some.injEq, Drain.mk.injEq, DrainPc.calling.injEq] at found'
    exact ⟨rfl, found'.1.1⟩

/-- A session that starts while the stop of the previous one waits for its drain loop. -/
def restartInWait : List Event :=
  [.snapshot, .drain 0 .returned, .restore, .snapshot, .drain 0 .returned, .drained 0]

/-- One stop, which is over. -/
def onlyStop : TeardownId → Option Teardown := Function.update (fun _ => none) 0 (some .done)

theorem onlyStop_over {s : Engine} (calls : s.teardowns = onlyStop) : ¬RestoreSuspended s := by
  rintro ⟨teardown, pc, found, suspended⟩
  rw [calls] at found
  rcases update_eq_some found with ⟨_, ended⟩ | ⟨_, before⟩
  · exact suspended (Option.some.inj ended).symm
  · cases before

/-- The new session finds the flag still up, so it creates no loop; then the old loop and the old
stop take the flag and the handle down. No call is suspended any more, and the session has no loop. -/
theorem restartInWait_loopless : ∃ s, play machine Always lightless restartInWait = some s ∧
    ¬RestoreSuspended s ∧ s.active = true ∧ s.drainRunning = false ∧ ¬OneDrainLoop s := by
  obtain ⟨s, played⟩ : ∃ s, play machine Always lightless restartInWait = some s := ⟨_, rfl⟩
  have fields : (play machine Always lightless restartInWait).map (fun s => (s.active, s.drainRunning)) =
      some (true, false) := by decide
  have calls : (play machine Always lightless restartInWait).map (fun s => s.teardowns) =
      some (Function.update (Function.update (fun _ => none) 0 (some (.awaitingDrain 0))) 0 (some .done)) := rfl
  rw [played] at fields calls
  simp only [Option.map_some, Option.some.injEq, Prod.mk.injEq, Function.update_idem] at fields calls
  obtain ⟨active, idle⟩ := fields
  refine ⟨s, played, onlyStop_over calls, active, idle, ?_⟩
  intro one
  have running := one.streaming active
  rw [idle] at running
  cases running

/-- A classic command that creates a loop in the same wait: the stop forgets that loop, so the next
command creates another one beside it. -/
def commandInWait : List Event :=
  [.snapshot, .drain 0 .returned, .restore, .drain 0 .returned, .command 1 (.object [("bri", .int 100)]),
    .drained 0, .command 1 (.object [("bri", .int 100)])]

example : (play machine Always (engineOf [(1, "light.one")] (fun _ => none) 0) commandInWait).map
    (fun s => [0, 1, 2].map s.drainDone) = some [true, false, false] := by decide +kernel

/-- A session and its stop, with nothing in between. -/
def startAndStop : List Event := [.snapshot, .drain 0 .returned, .restore, .drain 0 .returned, .drained 0]

theorem oneDrainLoop_of_quietWait_stopped : ∃ s, Run machine QuietWait lightless startAndStop s ∧
    ¬RestoreSuspended s ∧ OneDrainLoop s := by
  have first : QuietWait lightless .snapshot := fun awaits => absurd awaits (new_unawaited _ _ _)
  obtain ⟨s, run⟩ : ∃ s, Run machine QuietWait lightless startAndStop s :=
    ⟨_, .cons first rfl (.cons (fun _ => id) rfl (.cons (fun _ => id) rfl (.cons (fun _ => id) rfl
      (.cons (fun _ => id) rfl (.nil _)))))⟩
  have calls : (play machine Always lightless startAndStop).map (fun s => s.teardowns) =
      some (Function.update (Function.update (fun _ => none) 0 (some (.awaitingDrain 0))) 0 (some .done)) := rfl
  rw [run.played] at calls
  simp only [Option.map_some, Option.some.injEq, Function.update_idem] at calls
  have finished := onlyStop_over calls
  have one := (oneDrainLoop_of_quietWait ⟨_, _, ⟨_, _, _, rfl⟩, run⟩).1
  exact ⟨s, run, finished, one (fun awaits => finished awaits.suspended)⟩

end HueEntertainment.DrainTask
