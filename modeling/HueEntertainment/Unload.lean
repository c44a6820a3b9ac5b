import HueEntertainment.BegunRestore
import HueEntertainment.DrainWake
import HueEntertainment.Suppression
import HueEntertainment.Wiring

/-! The unload of an entry, from the call of `async_restore_lights` at its end on: which light service
calls the engine still begins once that call has returned. -/

namespace HueEntertainment.Unload
open HueStream LightCommand PyValue Entertainment EngineSteps EngineFrames DrainSteps EngineMoves EngineHistory
  EngineSlots DrainTask DrainWake Suppression TaskTable Wiring BegunRestore Runs

/-- What still happens around the engine when its servers have been stopped: no frame, no request. -/
def Shut (_ : Bridge) : BridgeEvent → Prop
  | .setActive _ _ | .engine (.frame _) | .engine (.command _ _) => False
  | _ => True

/-- The entry records a light service call, by a drain loop or to restore the saved states. -/
def Sends : Obs → Prop
  | .callBegun _ _ _ | .reproduceBegun _ _ => True
  | _ => False

/-- Nothing was sent on the way from `s` to `t`. -/
def Calm (s t : Engine) : Prop := ∀ new, t.log = new ++ s.log → ∀ entry ∈ new, ¬Sends entry

/-- The `async_restore_lights` that was called in `b` has returned, at once where no session was active. -/
def Returned (b c : Bridge) : Prop :=
  b.engine.active = true → c.engine.teardowns b.engine.nextTeardown = some .done

/-- Of all that can happen from `t` on, nothing begins a light service call after the return. -/
def QuietAfter (b t : Bridge) : Prop :=
  ∀ events c event d, Run bridge Shut t events c → Returned b c → Shut c event → bridge.step c event = some d →
    Calm c.engine d.engine

/-- No drain loop has anything left to send. -/
def Sendless (s : Engine) : Prop :=
  Clean s ∨ ∀ drain task, s.drains drain = some task → task.pc ≠ .done → task.cancelling = true

/-- No earlier stop has anything left to restore. -/
def Restoreless (s : Engine) : Prop := AwaitsDrain s → ∀ saved, s.savedStates = some saved → saved.states = []

structure Spent (s : Engine) : Prop where
  sendless : Sendless s
  restoreless : Restoreless s

/-- The steps of an engine whose servers are stopped, when no session is active. -/
def Unfed : Event → Prop
  | .frame _ | .command _ _ | .snapshot | .restore => False
  | _ => True

/-- Without a session the rest of the bridge does nothing else to the engine. -/
theorem unfed_engine {c d : Bridge} {event : BridgeEvent} (inactive : c.engine.active = false) (shut : Shut c event)
    (stepped : bridge.step c event = some d) :
    d.engine = c.engine ∨ ∃ own, Unfed own ∧ EngineSteps.machine.step c.engine own = some d.engine := by
  change Wiring.step c event = some d at stepped
  cases event with
  | setActive active username => exact shut.elim
  | release seconds =>
    cases stepped
    exact .inr ⟨.release seconds, trivial, rfl⟩
  | watchdog watchdog =>
    cases watchdogStep_move stepped with
    | cancelled found => exact .inl rfl
    | looked found polling halts still => exact .inl rfl
    | timedOut found active silent =>
      rw [inactive] at active
      cases active
  | engine event =>
    obtain ⟨own, moved, _, _⟩ := engineStep_eq stepped
    refine .inr ⟨event, ?_, moved⟩
    cases event with
    | frame data => exact shut.elim
    | command lightId body => exact shut.elim
    | snapshot => exact own.elim
    | restore => exact own.elim
    | _ => trivial
  | beginClosing =>
    cases stepped
    exact .inl (cancelWatchdog_engine c)
  | cancelTasks =>
    cases stepped
    exact .inl rfl
  | restoreClosing =>
    simp only [Wiring.step] at stepped
    split at stepped
    · cases stepped
      exact .inl (if_neg (by simp [inactive]))
    · cases stepped

section
variable {s t : Engine} {event : Event}

/-- Of the tasks such a step touches one at most. -/
inductive Tends (s : Engine) : Engine → Prop where
  | around {t : Engine} (active : t.active = s.active) (drains : t.drains = s.drains)
      (teardowns : t.teardowns = s.teardowns) : Tends s t
  | drain {drain : DrainId} {outcome : Outcome} {t : Engine} (move : DrainMove s drain outcome t) : Tends s t
  | drained (teardown : TeardownId) (entries : List Obs) : Tends s (took { s with drainTask := none } teardown entries)
  | reproduced {teardown : TeardownId} {saved : Snapshot} (outcome : Outcome)
      (found : s.teardowns teardown = some (.reproducing saved)) :
      Tends s ((s.observe (.reproduceEnded teardown outcome)).setTeardown teardown .done)

theorem unfed_tends (unfed : Unfed event) (stepped : EngineSteps.machine.step s event = some t) : Tends s t := by
  cases step_move stepped with
  | snapshotKept closed => exact unfed.elim
  | snapshotJoined unholds notices running => exact unfed.elim
  | snapshotStarted unholds notices idle notices' => exact unfed.elim
  | restoreKept inactive => exact unfed.elim
  | restoreSuspended active waits notices => exact unfed.elim
  | restoreTook active free notices notices' => exact unfed.elim
  | frame wrote held same => exact unfed.elim
  | commandKept rejected => exact unfed.elim
  | commandJoined accepted running => exact unfed.elim
  | commandStarted accepted idle notices => exact unfed.elim
  | drain move => exact .drain move
  | drained found finished notices => exact .drained _ _
  | reproduced found => exact .reproduced _ found
  | _ => exact .around rfl rfl rfl

theorem Tends.inactive (tends : Tends s t) (inactive : s.active = false) : t.active = false := by
  cases tends with
  | around active drains teardowns => exact active.trans inactive
  | drain move =>
    obtain ⟨_, _, _, _, _, _, rfl⟩ := move.frame
    exact inactive
  | drained teardown entries => exact inactive
  | reproduced outcome found => exact inactive

/-- Nothing dirties a slot. -/
theorem unfed_clean (unfed : Unfed event) (clean : Clean s) (stepped : EngineSteps.machine.step s event = some t) :
    Clean t := by
  intro channelId
  rcases slot_step (step_move stepped) channelId with ⟨data, rfl, _⟩ | moved
  · exact unfed.elim
  · generalize t.mapping channelId = after at moved
    cases moved with
    | kept => exact clean channelId
    | flushed => rfl
    | queued same accepted =>
      subst same
      exact unfed.elim
    | taken dirty taken => exact taken.clean

/-- No loop is created, and a task that is being cancelled stays so until it is done. -/
theorem Tends.cancelling (tends : Tends s t)
    (cancelled : ∀ drain task, s.drains drain = some task → task.pc ≠ .done → task.cancelling = true) :
    ∀ drain task, t.drains drain = some task → task.pc ≠ .done → task.cancelling = true := by
  cases tends with
  | around active drains teardowns => rwa [drains]
  | drained teardown entries => exact cancelled
  | reproduced outcome found => exact cancelled
  | @drain ended outcome _ move =>
    intro drain task found live
    cases move with
    | neverEntered found' => exact cancelled drain task (live_before_done found' found live).2 live
    | unwound found' live' entries notices =>
      exact cancelled drain task (live_before_done found' found live).2 live
    | ran found' live' ended sweep leaves => cases cancelled _ _ found' live'

theorem Restoreless.step (restoreless : Restoreless s) (unfed : Unfed event)
    (stepped : EngineSteps.machine.step s event = some t) : Restoreless t := by
  intro awaits saved held
  have unstopped : event ≠ .restore := by
    rintro rfl
    exact unfed
  have before : AwaitsDrain s := by
    by_contra quiet
    exact unawaited_step quiet unstopped (step_move stepped) awaits
  rcases session_step (step_move stepped) with ⟨_, _, same | gone⟩ | ⟨⟨rfl, _⟩, _⟩
  · exact restoreless before saved (same ▸ held)
  · rw [gone] at held
    cases held
  · exact unfed.elim

theorem Spent.step (spent : Spent s) (unfed : Unfed event) (stepped : EngineSteps.machine.step s event = some t) :
    Spent t := by
  refine ⟨?_, spent.restoreless.step unfed stepped⟩
  rcases spent.sendless with clean | cancelled
  · exact .inl (unfed_clean unfed clean stepped)
  · exact .inr ((unfed_tends unfed stepped).cancelling cancelled)

/-- An engine that has nothing left to send begins no call. -/
theorem Spent.calm (spent : Spent s) (inactive : s.active = false)
    (stepped : EngineSteps.machine.step s event = some t) : Calm s t := by
  intro new logged entry member sends
  obtain ⟨added, logged', emits⟩ := move_adds (step_move stepped)
  rw [logged', List.append_cancel_right_eq] at logged
  have emitted := emits entry (logged ▸ member)
  cases emitted with
  | callBegun outcome found live dirty pending same =>
    rcases spent.sendless with clean | cancelled
    · rw [clean] at dirty
      cases dirty
    · cases cancelled _ _ found live
  | reproduceBegun takes found nonempty =>
    cases takes with
    | atOnce active free =>
      rw [inactive] at active
      cases active
    | drained waits finished => exact nonempty (spent.restoreless ⟨_, _, waits⟩ _ found)
  | _ => exact sends

/-- A teardown that has taken the saved states leaves nothing to send. -/
theorem took_spent (u : Engine) (teardown : TeardownId) (entries : List Obs) : Spent (took u teardown entries) :=
  ⟨.inl (fun _ => rfl), fun _ _ held => by cases held⟩

/-- A stop that waits goes on waiting until it takes the saved states. -/
theorem Tends.waiting {teardown : TeardownId} {drain : DrainId} (tends : Tends s t)
    (waits : s.teardowns teardown = some (.awaitingDrain drain)) :
    t.teardowns teardown = some (.awaitingDrain drain) ∨ Spent t := by
  cases tends with
  | around active drains teardowns => exact .inl ((congrFun teardowns teardown).trans waits)
  | drained other entries => exact .inr (took_spent _ _ _)
  | reproduced outcome found => exact .inl ((reproduced_awaits found _ teardown drain).mpr waits)
  | drain move =>
    obtain ⟨_, _, _, _, _, _, rfl⟩ := move.frame
    exact .inl waits

/-- The stop waits for its drain task, or nothing is left to send. -/
def Ending (teardown : TeardownId) (s : Engine) : Prop :=
  (∃ drain, s.teardowns teardown = some (.awaitingDrain drain)) ∨ Spent s

theorem Ending.step {teardown : TeardownId} (ending : Ending teardown s) (unfed : Unfed event)
    (stepped : EngineSteps.machine.step s event = some t) : Ending teardown t := by
  rcases ending with ⟨drain, waits⟩ | spent
  · exact ((unfed_tends unfed stepped).waiting waits).imp_left (fun still => ⟨drain, still⟩)
  · exact .inr (spent.step unfed stepped)

theorem asyncRestoreLights_ending (active : s.active = true) : Ending s.nextTeardown s.asyncRestoreLights := by
  have move := restore_move s
  generalize s.asyncRestoreLights = after at move
  cases move with
  | restoreKept inactive =>
    rw [active] at inactive
    cases inactive
  | @restoreSuspended drain entries active waits notices => exact .inl ⟨drain, Function.update_self _ _ _⟩
  | restoreTook active free notices notices' => exact .inr (took_spent _ _ _)

end

/-- What the steps of an unfed engine keep, a run with the servers stopped keeps. -/
theorem shut_run {inv : Engine → Prop}
    (kept : ∀ s event t, inv s → Unfed event → EngineSteps.machine.step s event = some t → inv t)
    {t c : Bridge} {events : List BridgeEvent} (run : Run bridge Shut t events c) (inactive : t.engine.active = false)
    (initially : inv t.engine) : c.engine.active = false ∧ inv c.engine := by
  refine run.invariant (fun x => x.engine.active = false ∧ inv x.engine) ?_ ⟨inactive, initially⟩
  intro x event y held shut stepped
  rcases unfed_engine held.1 shut stepped with same | ⟨own, unfed, moved⟩
  · rw [same]
    exact held
  · exact ⟨(unfed_tends unfed moved).inactive held.1, kept _ _ _ held.2 unfed moved⟩

theorem restoreClosing_engine {b t : Bridge} (unloads : bridge.step b .restoreClosing = some t) :
    t.engine = b.engine.asyncRestoreLights := by
  change Wiring.step b .restoreClosing = some t at unloads
  simp only [Wiring.step] at unloads
  split at unloads
  · cases unloads
    rfl
  · cases unloads

/-- After a stop of an active session, or with nothing left to send, the unloaded engine is quiet. -/
theorem quiet_of_spent {b t : Bridge} (unloads : bridge.step b .restoreClosing = some t)
    (covered : b.engine.active = true ∨ Spent b.engine) : QuietAfter b t := by
  have stopped := restoreClosing_engine unloads
  have inactive : t.engine.active = false := stopped ▸ restore_inactive b.engine
  intro events c event d run returned shut stepped
  have spent : c.engine.active = false ∧ Spent c.engine := by
    by_cases active : b.engine.active = true
    · have ending : Ending b.engine.nextTeardown t.engine := stopped ▸ asyncRestoreLights_ending active
      obtain ⟨still, ended⟩ := shut_run (fun _ _ _ ending unfed moved => ending.step unfed moved) run inactive ending
      rcases ended with ⟨drain, waits⟩ | spent
      · rw [returned active] at waits
        cases waits
      · exact ⟨still, spent⟩
    · have kept : t.engine = b.engine := stopped.trans (if_neg active)
      exact shut_run (fun _ _ _ spent unfed moved => spent.step unfed moved) run inactive
        (kept ▸ covered.resolve_left active)
  rcases unfed_engine spent.1 shut stepped with same | ⟨own, unfed, moved⟩
  · intro new logged entry member
    rw [same, List.self_eq_append_left] at logged
    rw [logged] at member
    cases member
  · exact spent.2.calm spent.1 moved

/-- The task a stop waits for exists and is done or being cancelled. -/
structure Awaited (s : Engine) : Prop where
  fresh : Fresh s.drains s.nextDrain
  task : ∀ drain, s.drainTask = some drain → s.drains drain ≠ none
  awaited : ∀ teardown drain, s.teardowns teardown = some (.awaitingDrain drain) →
    ∃ pc cancelling, s.drains drain = some ⟨pc, cancelling⟩ ∧ (pc = .done ∨ cancelling = true)

theorem Awaited.of_same {s t : Engine} (awaited : Awaited s)
    (same : (t.drains, t.nextDrain, t.drainTask, t.teardowns) = (s.drains, s.nextDrain, s.drainTask, s.teardowns)) :
    Awaited t := by
  simp only [Prod.mk.injEq] at same
  obtain ⟨drains, next, task, teardowns⟩ := same
  constructor
  · rw [drains, next]
    exact awaited.fresh
  · rw [drains, task]
    exact awaited.task
  · rw [drains, teardowns]
    exact awaited.awaited

theorem Awaited.started {s t : Engine} (awaited : Awaited s)
    (same : (t.drains, t.nextDrain, t.teardowns) = (s.drains, s.nextDrain, s.teardowns)) (entries : List Obs) :
    Awaited (started t entries) := by
  simp only [Prod.mk.injEq] at same
  obtain ⟨drains, next, teardowns⟩ := same
  have table := started_drains drains next entries
  constructor
  · intro drain later
    rw [table]
    exact Fresh.create awaited.fresh _ drain (next ▸ later)
  · intro drain named
    have here : some s.nextDrain = some drain := next ▸ named
    rw [table, ← Option.some.inj here, Function.update_self]
    exact Option.some_ne_none _
  · intro teardown drain waits
    have before : s.teardowns teardown = some (.awaitingDrain drain) := teardowns ▸ waits
    obtain ⟨pc, cancelling, found, settled⟩ := awaited.awaited teardown drain before
    have other : drain ≠ s.nextDrain := Nat.ne_of_lt (Fresh.lt awaited.fresh found)
    exact ⟨pc, cancelling, table ▸ (Function.update_of_ne other _ _).trans found, settled⟩

/-- Replacing a task keeps what is known of those that are waited for. -/
theorem Awaited.replaced {s t : Engine} (awaited : Awaited s) {drain : DrainId} {old task : Drain}
    (found : s.drains drain = some old) (drains : t.drains = Function.update s.drains drain (some task))
    (same : (t.nextDrain, t.drainTask, t.teardowns) = (s.nextDrain, s.drainTask, s.teardowns))
    (settled : old.pc = .done ∨ old.cancelling = true → task.pc = .done ∨ task.cancelling = true) : Awaited t := by
  simp only [Prod.mk.injEq] at same
  obtain ⟨next, named, teardowns⟩ := same
  constructor
  · rw [drains, next]
    exact Fresh.replace awaited.fresh found _
  · intro other held gone
    rw [drains] at gone
    rw [named] at held
    by_cases here : other = drain
    · subst here
      rw [Function.update_self] at gone
      cases gone
    · rw [Function.update_of_ne here] at gone
      exact awaited.task other held gone
  · rw [teardowns]
    intro teardown other waits
    obtain ⟨pc, cancelling, before, ended⟩ := awaited.awaited teardown other waits
    rw [drains]
    by_cases here : other = drain
    · subst here
      rw [Function.update_self]
      rw [found] at before
      obtain rfl := Option.some.inj before
      exact ⟨task.pc, task.cancelling, rfl, settled ended⟩
    · rw [Function.update_of_ne here]
      exact ⟨pc, cancelling, before, ended⟩

theorem Awaited.took {s t : Engine} (awaited : Awaited s) {teardown : TeardownId} {entries : List Obs}
    (same : (t.drains, t.nextDrain, t.teardowns) = (s.drains, s.nextDrain, s.teardowns))
    (named : t.drainTask = s.drainTask ∨ t.drainTask = none) : Awaited (took t teardown entries) := by
  simp only [Prod.mk.injEq] at same
  obtain ⟨drains, next, teardowns⟩ := same
  have table : (EngineMoves.took t teardown entries).drains = s.drains := drains
  constructor
  · rw [table]
    exact fun drain later => awaited.fresh drain (next ▸ later)
  · rw [table]
    intro drain held
    have held : t.drainTask = some drain := held
    rcases named with kept | gone
    · exact awaited.task drain (kept ▸ held)
    · rw [gone] at held
      cases held
  · rw [table]
    intro other drain waits
    have before := (took_awaits waits).2
    exact awaited.awaited other drain (teardowns ▸ before)

theorem Awaited.step {s t : Engine} {event : Event} (awaited : Awaited s) (move : Move s event t) : Awaited t := by
  cases move with
  | frame wrote held same => exact awaited.of_same rfl
  | commandKept rejected => exact awaited
  | commandJoined accepted running => exact awaited.of_same rfl
  | commandStarted accepted idle notices => exact awaited.started (t := queued s _ _) rfl _
  | snapshotKept closed => exact awaited
  | snapshotJoined unholds notices running => exact awaited.of_same rfl
  | snapshotStarted unholds notices idle notices' => exact awaited.started (t := sessionOpened (unheld s _ _ _ _) _) rfl _
  | restoreKept inactive => exact awaited
  | @restoreSuspended drain entries active waits notices =>
    have named : s.drainTask = some drain := (Option.filter_eq_some_iff.mp waits).1
    obtain ⟨old, found⟩ := Option.ne_none_iff_exists'.mp (awaited.task drain named)
    have cancelled : Awaited ((sessionClosed s entries).cancelDrain drain) :=
      awaited.replaced found (congrArg (fun task => Function.update s.drains drain (Option.map _ task)) found) rfl
        (fun _ => .inr rfl)
    refine ⟨cancelled.fresh, cancelled.task, ?_⟩
    intro teardown other waits'
    rcases update_eq_some waits' with ⟨_, new⟩ | ⟨_, before⟩
    · cases new
      refine ⟨old.pc, true, ?_, .inr rfl⟩
      exact (congrArg (fun task => Function.update s.drains drain (Option.map _ task) drain) found).trans
        (Function.update_self _ _ _)
    · exact cancelled.awaited teardown other before
  | restoreTook active free notices notices' => exact awaited.took rfl (.inl rfl)
  | pauseKept releasing => exact awaited
  | paused unreleased notices => exact awaited.of_same rfl
  | resumeKept => exact awaited
  | resumed unreleased notices => exact awaited.of_same rfl
  | released notices => exact awaited.of_same rfl
  | pauseExpired pending notices => exact awaited.of_same rfl
  | graceStale pending unreleased => exact awaited.of_same rfl
  | graceEnded pending releasing inactive notices => exact awaited.of_same rfl
  | graceForced pending releasing active notices => exact awaited.of_same rfl
  | drain move =>
    cases move with
    | neverEntered found => exact awaited.replaced found (setDrain_of_task found .done) rfl (fun _ => .inl rfl)
    | unwound found live entries notices =>
      exact awaited.replaced found (setDrain_of_task found .done) rfl (fun _ => .inl rfl)
    | ran found live ended sweep leaves =>
      exact awaited.replaced found rfl rfl (fun settled => settled.elim (fun done => absurd done live) nofun)
  | drained found finished notices => exact awaited.took rfl (.inr rfl)
  | reproduced found =>
    refine ⟨awaited.fresh, awaited.task, ?_⟩
    intro teardown drain waits
    exact awaited.awaited teardown drain ((reproduced_awaits found _ teardown drain).mp waits)
  | tick forward => exact awaited.of_same rfl
  | setState => exact awaited.of_same rfl

theorem awaited {ok : Engine → Event → Prop} {s : Engine} (reached : Reachable EngineSteps.machine ok s) : Awaited s := by
  refine reached.invariant Awaited ?_ (fun x event y held _ stepped => held.step (step_move stepped))
  intro s start
  obtain ⟨lights, states, now, rfl⟩ := start
  refine ⟨fun _ _ => rfl, ?_, ?_⟩
  · intro drain named
    cases named
  · intro teardown drain waits
    cases waits

/-- A live loop has a step to take. -/
theorem drain_runs {s : Engine} {drain : DrainId} {task : Drain} (found : s.drains drain = some task)
    (live : task.pc ≠ .done) : ∃ t, s.drainStep drain .returned = some t := by
  obtain ⟨pc, cancelling⟩ := task
  unfold Engine.drainStep
  cases pc with
  | done => exact absurd rfl live
  | _ => cases cancelling <;> exact ⟨_, by simp [found]; rfl⟩

/-- A cancelled loop ends, and does nothing to a stop that waits for it. -/
theorem cancelled_ends {s : Engine} {drain : DrainId} {pc : DrainPc} (found : s.drains drain = some ⟨pc, true⟩)
    (live : pc ≠ .done) : ∃ t, s.drainStep drain .returned = some t ∧ t.drainDone drain = true ∧
      t.teardowns = s.teardowns ∧ t.savedStates = s.savedStates := by
  obtain ⟨t, stepped⟩ := drain_runs found live
  have gone : (s.setDrain drain .done).drainDone drain = true := by
    rw [Engine.drainDone, setDrain_of_task found, Function.update_self]
  refine ⟨t, stepped, ?_⟩
  cases drainStep_move stepped with
  | neverEntered found' => exact ⟨gone, rfl, rfl⟩
  | unwound found' live' entries notices => exact ⟨gone, rfl, rfl⟩
  | ran found' live' ended sweep leaves => cases found.symm.trans found'

/-- A live loop that nobody cancelled sends when a dirty slot's light is there. -/
theorem drain_sends {s : Engine} (reached : Reachable EngineSteps.machine Always s) {drain : DrainId} {pc : DrainPc}
    {channelId : ChannelId} (found : s.drains drain = some ⟨pc, false⟩) (live : pc ≠ .done)
    (dirty : (s.mapping channelId).dirty = true) (there : available s channelId = true) :
    ∃ t, s.drainStep drain .returned = some t ∧ ¬Calm s t := by
  obtain ⟨t, stepped⟩ := drain_runs found live
  refine ⟨t, stepped, ?_⟩
  have rests := drainStep_rests (dirtyMapped reached) found stepped
  cases drainStep_move stepped with
  | neverEntered found' => cases found.symm.trans found'
  | unwound found' live' entries notices => cases found.symm.trans found'
  | @ran pc' after mapping stats wake running begun drops entries found' live' ended sweep leaves =>
    cases begun with
    | some call =>
      intro calm
      refine calm (entries ++ (.callBegun drain call s.now :: (drops ++ endedEntries drain pc' .returned))) ?_
        (.callBegun drain call s.now) (List.mem_append_right _ List.mem_cons_self) trivial
      simp [swept, begunEntries]
    | none =>
      -- a pass that begins no call has taken the slot, which it does only for want of the light or of data
      have clean : (mapping channelId).dirty = false := by
        rcases rests.of_found (Function.update_self _ _ _) with ⟨call, rest, calling⟩ | clean
        · change after = .calling call rest at calling
          rcases leaves with ⟨⟨idleSince, waits⟩, _⟩ | ⟨finished, _⟩
          · rw [waits] at calling
            cases calling
          · rw [finished] at calling
            cases calling
        · exact clean channelId
      rcases sweep.light channelId with same | ⟨_, _, dropped | ⟨call, none, _⟩ | empty⟩
      · rw [same] at clean
        rw [dirty] at clean
        cases clean
      · obtain ⟨other, same, gone⟩ := sweep.absent _ dropped
        cases same
        rw [there] at gone
        cases gone
      · cases none
      · rw [truthful reached channelId dirty] at empty
        cases empty

/-- A stop that waited takes what is there to restore and begins to restore it. -/
theorem drained_sends {s : Engine} {teardown : TeardownId} {drain : DrainId} {saved : Snapshot}
    (waits : s.teardowns teardown = some (.awaitingDrain drain)) (finished : s.drainDone drain = true)
    (held : s.savedStates = some saved) (nonempty : saved.states ≠ []) :
    ∃ t, drainedStep s teardown = some t ∧ ¬Calm s t := by
  have stepped : drainedStep s teardown = some (s.afterDrain teardown) := by
    simp [drainedStep, waits, finished]
  refine ⟨_, stepped, ?_⟩
  obtain ⟨entries, _, taken⟩ := takeSaved_eq { s with drainTask := none } teardown
  intro calm
  refine calm (.reproduceBegun teardown saved :: .flushed :: .savedTaken teardown (some saved) :: entries) ?_
    (.reproduceBegun teardown saved) List.mem_cons_self trivial
  rw [Engine.afterDrain, taken]
  simp [held, afterTaking, nonempty]

theorem drain_bridge {b : Bridge} {s : Engine} {drain : DrainId} {outcome : Outcome}
    (stepped : b.engine.drainStep drain outcome = some s) :
    bridge.step b (.engine (.drain drain outcome)) = some { b with engine := s } :=
  own_bridge trivial nofun stepped

theorem drained_bridge {b : Bridge} {s : Engine} {teardown : TeardownId}
    (stepped : drainedStep b.engine teardown = some s) :
    bridge.step b (.engine (.drained teardown)) = some { b with engine := s } :=
  own_bridge trivial nofun stepped

/-- A quiet bridge has nothing left to send: the light of a dirty slot can come back, and a loop that nobody
cancelled then sends. -/
theorem sendless_of_quiet {b t : Bridge} (reached : Reachable EngineSteps.machine Always t.engine)
    (returned : ∀ c, Returned b c) (quiet : QuietAfter b t) : Sendless t.engine := by
  by_contra busy
  obtain ⟨unclean, loops⟩ := not_or.mp busy
  obtain ⟨channelId, dirty⟩ := not_forall.mp unclean
  have dirty := eq_true_of_ne_false dirty
  push Not at loops
  obtain ⟨drain, ⟨pc, cancelling⟩, found, live, uncancelled⟩ := loops
  obtain rfl : cancelling = false := eq_false_of_ne_true uncancelled
  let back : Event := .setState (t.engine.mapping channelId).entityId none
  let lit : Engine :=
    { t.engine with states := Function.update t.engine.states (t.engine.mapping channelId).entityId none }
  have comes : EngineSteps.machine.step t.engine back = some lit := rfl
  have reached' : Reachable EngineSteps.machine Always lit := reached.step trivial comes
  have there : available lit channelId = true := by
    simp [available, lit, Engine.reportedUnavailable]
  obtain ⟨after, stepped, sent⟩ := drain_sends (s := lit) reached' found live dirty there
  exact sent (quiet [.engine back] { t with engine := lit } (.engine (.drain drain .returned)) _
    (.cons trivial rfl (.nil _)) (returned _) trivial (drain_bridge stepped))

/-- A quiet bridge has nothing left to restore: a stop that waits goes on once its drain task, which is being
cancelled, is done. -/
theorem restoreless_of_quiet {b t : Bridge} (reached : Reachable EngineSteps.machine Always t.engine)
    (returned : ∀ c, Returned b c) (quiet : QuietAfter b t) : Restoreless t.engine := by
  intro awaits saved held
  obtain ⟨teardown, drain, waits⟩ := awaits
  by_contra nonempty
  obtain ⟨pc, cancelling, found, settled⟩ := (awaited reached).awaited teardown drain waits
  by_cases finished : t.engine.drainDone drain = true
  · obtain ⟨after, stepped, sent⟩ := drained_sends waits finished held nonempty
    exact sent (quiet [] t (.engine (.drained teardown)) _ (.nil _) (returned _) trivial (drained_bridge stepped))
  · have live : pc ≠ .done := by
      rintro rfl
      simp [Engine.drainDone, found] at finished
    obtain rfl : cancelling = true := settled.resolve_left live
    obtain ⟨ended, stepped, gone, teardowns, savedStates⟩ := cancelled_ends found live
    obtain ⟨after, stepped', sent⟩ :=
      drained_sends ((congrFun teardowns teardown).trans waits) gone (savedStates.trans held) nonempty
    exact sent (quiet [.engine (.drain drain .returned)] { t with engine := ended } (.engine (.drained teardown)) _
      (.cons trivial (drain_bridge stepped) (.nil _)) (returned _) trivial (drained_bridge stepped'))

/-- The unload leaves the engine quiet exactly when it stops an active session, or finds nothing left to send. -/
theorem unload_exact {b t : Bridge} (reached : Reachable bridge Always b)
    (unloads : bridge.step b .restoreClosing = some t) :
    QuietAfter b t ↔ (b.engine.active = true ∨ Spent b.engine) := by
  constructor
  · intro quiet
    by_cases active : b.engine.active = true
    · exact .inl active
    · have kept : t.engine = b.engine := (restoreClosing_engine unloads).trans (if_neg active)
      have reached' : Reachable EngineSteps.machine Always t.engine := kept ▸ bridge_simulates.reachable reached
      have returned : ∀ c, Returned b c := fun _ now => absurd now active
      right
      rw [← kept]
      exact ⟨sendless_of_quiet reached' returned quiet, restoreless_of_quiet reached' returned quiet⟩
  · exact quiet_of_spent unloads

/-- A session whose loop waits for a frame when the unload stops it. -/
theorem unload_exact_session : ∃ b t, bridge.step b .restoreClosing = some t ∧ QuietAfter b t := by
  have played : (play bridge Always oneLightBridge [.setActive true "tv", .engine (.drain 0 .returned), .beginClosing]).any
      (fun b => b.engine.active && b.closing) = true := by decide +kernel
  obtain ⟨b, play, facts⟩ := (Option.any_eq_true _ _).mp played
  simp only [Bool.and_eq_true] at facts
  have unloads : bridge.step b .restoreClosing = some b.restoreClosing := if_pos facts.2
  exact ⟨b, _, unloads, (unload_exact (reachable_of_play oneLightBridge_start play) unloads).mpr (.inl facts.1)⟩

def beginsCall : Obs → Bool
  | .callBegun _ _ _ => true
  | _ => false

/-- A classic command is still queued when the entry is unloaded: the next step of its loop begins the call. -/
theorem classicUnload_sends : ∃ b t, Reachable bridge Always b ∧ bridge.step b .restoreClosing = some t ∧
    ¬QuietAfter b t := by
  have played : (play bridge Always oneLightBridge
      [.engine (.command 1 (.object [("on", .bool true)])), .beginClosing]).any
      (fun b => !b.engine.active && b.closing && !b.engine.log.any beginsCall &&
        (b.engine.drainStep 0 .returned).any (fun s => s.log.any beginsCall)) = true := by decide +kernel
  obtain ⟨b, play, facts⟩ := (Option.any_eq_true _ _).mp played
  simp only [Bool.and_eq_true, Bool.not_eq_true'] at facts
  obtain ⟨⟨⟨inactive, closing⟩, before⟩, after⟩ := facts
  obtain ⟨s, stepped, began⟩ := (Option.any_eq_true _ _).mp after
  obtain ⟨entry, member, call⟩ := List.any_eq_true.mp began
  have unloads : bridge.step b .restoreClosing = some b.restoreClosing := if_pos closing
  have kept : b.restoreClosing.engine = b.engine := if_neg (by simp [inactive])
  have stepped : b.restoreClosing.engine.drainStep 0 .returned = some s := kept ▸ stepped
  refine ⟨b, _, reachable_of_play oneLightBridge_start play, unloads, fun quiet => ?_⟩
  have returned : Returned b b.restoreClosing := fun active => absurd active (by simp [inactive])
  have calm := quiet [] _ (.engine (.drain 0 .returned)) _ (.nil _) returned trivial (drain_bridge stepped)
  obtain ⟨added, logged, _⟩ := move_adds (.drain (drainStep_move stepped))
  rcases List.mem_append.mp (logged ▸ member) with new | old
  · apply calm added logged entry new
    unfold beginsCall at call
    split at call
    · trivial
    · cases call
  · rw [kept] at old
    exact List.any_eq_false.mp before entry old call

end HueEntertainment.Unload
