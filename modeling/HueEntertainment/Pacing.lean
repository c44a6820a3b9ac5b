import HueEntertainment.Clocks
import HueEntertainment.RoundRobin

/-! How long the tasks of the engine take. A task that can go on does so within one turn of the event loop, a light
service call takes no longer than that either, and the timeouts end their waits as late at most. -/

namespace HueEntertainment.Pacing
open HueEntertainment.Const HueStream LightCommand PyValue Entertainment EngineSteps EngineFrames DrainSteps EngineMoves
  EngineHistory EngineSlots SlotHistory SlotLedger DrainTask DrainWake RoundRobin TaskTable Clocks Runs

/-- The tasks that step the engine: its drain loops, and the calls of `async_restore_lights`. -/
inductive Job where
  | loop (drain : DrainId)
  | stop (teardown : TeardownId)
  deriving DecidableEq

/-- What a job waits for: the event loop to come back to it, a light service call, the event of the drain loop for as
long as its timeout, or the bounded `async_reproduce_state`. -/
inductive Wait where
  | turn
  | call
  | sleep
  | restore
  deriving DecidableEq

def waits (s : Engine) : Job → Option Wait
  | .loop drain =>
      match s.drains drain with
      | some ⟨.created, _⟩ => some .turn
      | some ⟨.calling _ _, cancelling⟩ => some (if cancelling then .turn else .call)
      | some ⟨.waiting _, cancelling⟩ => some (if cancelling || s.wake then .turn else .sleep)
      | _ => none
  | .stop teardown =>
      match s.teardowns teardown with
      | some (.awaitingDrain drain) => if s.drainDone drain then some .turn else none
      | some (.reproducing _) => some .restore
      | _ => none

def owner : Event → Option Job
  | .drain drain _ => some (.loop drain)
  | .drained teardown => some (.stop teardown)
  | .reproduced teardown _ => some (.stop teardown)
  | _ => none

theorem driven_of_owner {event : Event} {drain : DrainId} (own : owner event = some (.loop drain)) :
    ∃ outcome, event = .drain drain outcome := by
  cases event with
  | drain other outcome =>
    cases own
    exact ⟨outcome, rfl⟩
  | _ => cases own

def limit (pace : ℚ) : Wait → ℚ
  | .turn | .call => pace
  | .sleep => classicDrainIdle + pace
  | .restore => restoreTimeout + pace

theorem limit_nonneg {pace : ℚ} (patient : 0 ≤ pace) (wait : Wait) : 0 ≤ limit pace wait := by
  cases wait with
  | turn => exact patient
  | call => exact patient
  | sleep => exact add_nonneg (by norm_num [classicDrainIdle]) patient
  | restore => exact add_nonneg (by norm_num [restoreTimeout, restoreTransition]) patient

/-- Only time that passes moves the clock of the engine. -/
theorem now_step {s t : Engine} {event : Event} (move : Move s event t) :
    s.now ≤ t.now ∧ ((∀ elapsed, event ≠ .tick elapsed) → t.now = s.now) := by
  cases move with
  | drain move =>
    obtain ⟨_, _, _, _, _, _, rfl⟩ := move.frame
    exact ⟨le_refl _, fun _ => rfl⟩
  | @tick elapsed forward => exact ⟨le_add_of_nonneg_right forward, fun other => absurd rfl (other elapsed)⟩
  | _ => exact ⟨le_refl _, fun _ => rfl⟩

/-- The stops of an engine are those it has counted. -/
theorem stops_known {ok : Engine → Event → Prop} {s : Engine} (reached : Reachable machine ok s) :
    DrainTask.Awaited s := by
  refine reached.invariant DrainTask.Awaited ?_ (fun x event y held _ step => held.step (step_move step))
  rintro s ⟨lights, states, now, rfl⟩
  exact ⟨fun _ _ => rfl, fun drain pc found => by cases found⟩

def jobs : Tasks machine Job Wait where
  now := Engine.now
  present := fun s => (List.range s.nextDrain).map .loop ++ (List.range s.nextTeardown).map .stop
  waits := waits
  owner := owner
  forward := fun step => (now_step (step_move step)).1
  instant := by
    intro s t event job step own
    refine (now_step (step_move step)).2 (fun elapsed same => ?_)
    subst same
    cases own
  known := by
    intro s job wait reached waiting
    rw [List.mem_append, List.mem_map, List.mem_map]
    cases job with
    | loop drain =>
      left
      refine ⟨drain, List.mem_range.mpr ?_, rfl⟩
      by_contra later
      simp only [waits, (Unload.awaited reached).fresh drain (not_lt.mp later)] at waiting
      cases waiting
    | stop teardown =>
      right
      refine ⟨teardown, List.mem_range.mpr ?_, rfl⟩
      by_contra later
      simp only [waits, (stops_known reached).unused teardown (not_lt.mp later)] at waiting
      cases waiting

/-- The engine with the times since which its jobs wait. -/
abbrev Paced := Clocked Engine Job

abbrev paced : Machine Paced Event := jobs.clocked

/-- No job is over its limit, and nothing starts in the wait of a stop. -/
def Punctual (pace : ℚ) (w : Paced) (event : Event) : Prop :=
  jobs.Timely (limit pace) w event ∧ QuietWait w.state event

section Reached
variable {pace : ℚ} {ok : Paced → Event → Prop} {w : Paced}

theorem onTime (patient : 0 ≤ pace) (timely : ∀ w event, ok w event → jobs.Timely (limit pace) w event)
    (reached : Reachable paced ok w) : jobs.OnTime (limit pace) w :=
  Tasks.onTime (limit_nonneg patient) timely reached

theorem reachable_engine (reached : Reachable paced ok w) : Reachable machine Always w.state :=
  Tasks.reachable_state (fun _ _ _ => trivial) reached

theorem reachable_quiet (reached : Reachable paced (Punctual pace) w) : Reachable machine QuietWait w.state :=
  Tasks.reachable_state (fun _ _ punctual => punctual.2) reached

end Reached

/-- A loop that is not being cancelled, is not done, and does not sleep. -/
structure Busy (s : Engine) (drain : DrainId) (pc : DrainPc) : Prop where
  found : s.drains drain = some ⟨pc, false⟩
  live : pc ≠ .done
  woken : ∀ idleSince, pc = .waiting idleSince → s.wake = true

theorem Busy.waits {s : Engine} {drain : DrainId} {pc : DrainPc} (busy : Busy s drain pc) (pace : ℚ) :
    ∃ wait, jobs.waits s (.loop drain) = some wait ∧ limit pace wait = pace := by
  cases pc with
  | created => exact ⟨.turn, by simp [jobs, Pacing.waits, busy.found], rfl⟩
  | calling call rest => exact ⟨.call, by simp [jobs, Pacing.waits, busy.found], rfl⟩
  | waiting idleSince => exact ⟨.turn, by simp [jobs, Pacing.waits, busy.found, busy.woken idleSince rfl], rfl⟩
  | done => exact absurd rfl busy.live

/-- What a loop waits for depends on its task and on the event it sleeps for. -/
theorem waits_congr {s t : Engine} {drain : DrainId} (drains : t.drains drain = s.drains drain)
    (wake : t.wake = s.wake ∨ ∀ idleSince cancelling, s.drains drain ≠ some ⟨.waiting idleSince, cancelling⟩) :
    waits t (.loop drain) = waits s (.loop drain) := by
  simp only [waits, drains]
  rcases wake with same | awake
  · rw [same]
  · rcases found : s.drains drain with _ | ⟨pc, cancelling⟩
    · rfl
    · cases pc with
      | waiting idleSince => exact absurd found (awake idleSince cancelling)
      | _ => rfl

/-- The stop of an active session is the one step that makes an `async_restore_lights` wait. -/
def Stops (s : Engine) (event : Event) : Prop := event = .restore ∧ s.active = true

theorem unstopped_step {s t : Engine} {event : Event} (quiet : ¬AwaitsDrain s) (unstopped : ¬Stops s event)
    (move : Move s event t) : ¬AwaitsDrain t := by
  by_cases stop : event = .restore
  · subst stop
    cases move with
    | restoreKept inactive => exact quiet
    | restoreSuspended active waits notices => exact absurd ⟨rfl, active⟩ unstopped
    | restoreTook active free notices notices' => exact absurd ⟨rfl, active⟩ unstopped
  · exact unawaited_step quiet stop move

/-- Outside the wait of a stop, a step of another job leaves a live loop where it is. -/
theorem loop_step {s t : Engine} {event : Event} {drain : DrainId} {pc : DrainPc}
    (fresh : Fresh s.drains s.nextDrain) (free : Free t) (move : Move s event t)
    (other : owner event ≠ some (.loop drain)) (found : s.drains drain = some ⟨pc, false⟩) (live : pc ≠ .done) :
    t.drains drain = some ⟨pc, false⟩ := by
  rcases task_step move drain with ⟨outcome, rfl⟩ | same | ⟨pc', marked, cancelling, before⟩ | ⟨here, created⟩
  · exact absurd rfl other
  · exact same.trans found
  · rw [found] at before
    cases before
    cases (free.owner drain _ marked live).2.2
  · rw [fresh drain here.ge] at found
    cases found

/-- A light that the loop does not skip and does not serve now has one turn less to wait. -/
theorem before_passes {waiting served : ChannelId} {passed rest back order : List ChannelId}
    (unpassed : waiting ∉ passed) (other : served ≠ waiting) (again : back = order ∨ back = [] ∧ waiting ∈ rest) :
    (before waiting (rest ++ order)).length + 1 ≤ (before waiting (passed ++ served :: (rest ++ back))).length := by
  have shape : before waiting (passed ++ served :: (rest ++ back)) =
      passed ++ served :: before waiting (rest ++ back) := by
    rw [before_append_of_notMem unpassed]
    simp [before, other]
  have same : before waiting (rest ++ order) = before waiting (rest ++ back) := by
    rcases again with rfl | ⟨rfl, later⟩
    · rfl
    · rw [before_append_of_mem later, before_append_of_mem later]
  rw [shape, same, List.length_append, List.length_cons]
  omega

theorem before_lt {waiting : ChannelId} {order : List ChannelId} (member : waiting ∈ order) :
    (before waiting order).length < order.length := by
  have shorter := (List.takeWhile_prefix (l := order) (· ≠ waiting)).length_le
  refine lt_of_le_of_ne shorter (fun same => ?_)
  have whole := (List.takeWhile_prefix (l := order) (· ≠ waiting)).eq_of_length same
  have differs := List.all_takeWhile (p := (· ≠ waiting)) (l := order)
  rw [whole] at differs
  simpa using List.all_eq_true.mp differs waiting member

/-- A light waits for no more turns than there are other lights. -/
theorem before_ahead {s : Engine} {waiting : ChannelId} {pc : DrainPc} (inPass : InPass s pc)
    (mapped : waiting ∈ s.channels) : (before waiting (ahead s pc)).length + 1 ≤ s.channels.length := by
  cases pc with
  | calling call rest =>
    obtain ⟨passed, split⟩ := inPass
    have size : s.channels.length = passed.length + 1 + rest.length := by
      rw [split, List.length_append, List.length_cons]
      omega
    change (before waiting (rest ++ s.channels)).length + 1 ≤ _
    by_cases later : waiting ∈ rest
    · rw [before_append_of_mem later]
      have shorter := before_lt later
      omega
    · have early : waiting ∈ passed ++ [call.channelId] := by
        simpa [split, later] using mapped
      have whole : s.channels = (passed ++ [call.channelId]) ++ rest := by
        rw [split, List.append_assoc]
        rfl
      have shorter := before_lt early
      rw [before_append_of_notMem later, List.length_append, whole, before_append_of_mem early, ← whole]
      rw [List.length_append, List.length_singleton] at shorter
      omega
  | created => exact before_lt mapped
  | waiting idleSince => exact before_lt mapped
  | done => exact before_lt mapped

/-- A loop that is to serve a light by the deadline. -/
structure Serving (pace deadline : ℚ) (drain : DrainId) (waiting : ChannelId) (w : Paced) : Prop where
  full : Full (w.state.mapping waiting)
  quiet : ¬AwaitsDrain w.state
  turns : ∃ pc, w.state.drains drain = some ⟨pc, false⟩ ∧ pc ≠ .done ∧
    w.since (.loop drain) + (before waiting (ahead w.state pc)).length * pace ≤ deadline

/-- A loop with a slot to send does not sleep. -/
theorem busy_of_dirty {s : Engine} (reached : Reachable machine QuietWait s) {drain : DrainId} {pc : DrainPc}
    {channelId : ChannelId} (found : s.drains drain = some ⟨pc, false⟩) (live : pc ≠ .done)
    (dirty : (s.mapping channelId).dirty = true) : Busy s drain pc := by
  refine ⟨found, live, fun idleSince same => ?_⟩
  obtain ⟨first, events, start, run⟩ := reached
  have alone : Reachable machine OneLoop s := ⟨first, events, start, oneLoop_run ⟨first, [], start, .nil first⟩ run⟩
  by_contra unset
  have clean := awake alone drain idleSince false (same ▸ found) (eq_false_of_ne_true unset) channelId
  rw [clean] at dirty
  cases dirty

theorem Serving.step {pace deadline : ℚ} {drain : DrainId} {waiting : ChannelId} {w x : Paced} {event : Event}
    (serving : Serving pace deadline drain waiting w) (patient : 0 ≤ pace)
    (reached : Reachable paced (Punctual pace) w) (punctual : Punctual pace w event)
    (here : available w.state waiting = true) (unstopped : ¬Stops w.state event) (step : paced.step w event = some x)
    {new : List Obs} (grown : x.state.log = new ++ w.state.log) (undisturbed : Undisturbed waiting new) :
    Serving pace deadline drain waiting x := by
  obtain ⟨stepped, _⟩ := Tasks.step_eq_some step
  have move := step_move stepped
  have reached' := reached.step punctual step
  have mapped := dirtyMapped (reachable_engine reached) waiting serving.full.1
  have full := full_step stepped serving.full grown undisturbed
  have quiet := unstopped_step serving.quiet unstopped move
  obtain ⟨pc, found, live, inTime⟩ := serving.turns
  have busy := busy_of_dirty (reachable_quiet reached) found live serving.full.1
  obtain ⟨wait, waits, paces⟩ := busy.waits pace
  have punctually := onTime patient (fun _ _ okay => okay.1) reached
  have count := fun left => Tasks.countdown left punctually step waits paces.le patient inTime
  refine ⟨full, quiet, ?_⟩
  by_cases own : owner event = some (.loop drain)
  · obtain ⟨outcome, rfl⟩ := driven_of_owner own
    rcases drain_cases stepped with ⟨pc', found', visits⟩ | ⟨pc', found', _⟩
    · obtain rfl : pc' = pc := by
        rw [found] at found'
        cases found'
        rfl
      have inPass := passing (reachable_engine reached) drain pc' false found
      rcases visits inPass with ⟨call, rest, passed, back, serves⟩ | ⟨_, skipped⟩
      · have sent := (served_entries (drainStep_move stepped) serves.task grown).sends
        have other : call.channelId ≠ waiting := by
          intro same
          apply undisturbed.unsent drain
          rw [sent, same]
          exact List.mem_singleton_self waiting
        have ready : Ready w.state waiting := ⟨serving.full.1, serving.full.2, here⟩
        have unpassed : waiting ∉ passed := fun member => ready.unskipped (serves.skipped waiting member)
        refine ⟨_, serves.task, by simp, count _ (fun _ => ?_) (fun apart => absurd own apart)⟩
        rw [ahead_congr (channels_step move), serves.order]
        exact before_passes unpassed other (serves.again_ahead mapped unpassed other)
      · exact absurd (skipped waiting mapped) (Ready.unskipped ⟨serving.full.1, serving.full.2, here⟩)
    · rw [found] at found'
      cases found'
  · have free := (loopOwned (reachable_quiet reached')).free quiet
    have kept := loop_step (Unload.awaited (reachable_engine reached)).fresh free move own found live
    have busy' := busy_of_dirty (reachable_quiet reached') kept live full.1
    refine ⟨pc, kept, live, count _ (fun mine => absurd mine own) (fun _ => ⟨?_, ?_⟩)⟩
    · refine waits_congr (kept.trans found.symm) ?_
      by_cases sleeps : ∃ idleSince, pc = .waiting idleSince
      · obtain ⟨idleSince, same⟩ := sleeps
        exact .inl ((busy'.woken idleSince same).trans (busy.woken idleSince same).symm)
      · refine .inr (fun idleSince cancelling found' => sleeps ⟨idleSince, ?_⟩)
        rw [found] at found'
        cases found'
        rfl
    · rw [ahead_congr (channels_step move)]

/-- Outside the wait of a stop the flag has its loop, and nobody has cancelled it. -/
theorem loop_of_running {s : Engine} (free : Free s) (running : s.drainRunning = true) :
    ∃ drain pc, s.drains drain = some ⟨pc, false⟩ ∧ pc ≠ .done := by
  obtain ⟨drain, ⟨pc, cancelling⟩, found, live⟩ := free.running running
  obtain ⟨_, _, rfl⟩ := free.owner drain _ found live
  exact ⟨drain, pc, found, live⟩

theorem Serving.initial {pace : ℚ} {waiting : ChannelId} {w : Paced} (patient : 0 ≤ pace)
    (reached : Reachable paced (Punctual pace) w) (running : w.state.drainRunning = true) (quiet : ¬AwaitsDrain w.state)
    (dirty : (w.state.mapping waiting).dirty = true) :
    ∃ drain, Serving pace (w.state.now + (w.state.channels.length - 1) * pace) drain waiting w := by
  have there := reachable_engine reached
  obtain ⟨drain, pc, found, live⟩ := loop_of_running ((loopOwned (reachable_quiet reached)).free quiet) running
  refine ⟨drain, full_of_dirty there dirty, quiet, pc, found, live, ?_⟩
  have fewer : ((before waiting (ahead w.state pc)).length : ℚ) ≤ w.state.channels.length - 1 := by
    have shorter := before_ahead (passing there drain pc false found) (dirtyMapped there waiting dirty)
    rw [le_sub_iff_add_le]
    exact_mod_cast shorter
  have began : w.since (.loop drain) ≤ w.state.now := (onTime patient (fun _ _ okay => okay.1) reached).past _
  exact add_le_add began (mul_le_mul_of_nonneg_right fewer patient)

/-- The loop is still on its way when it is to begin its last call before the light. -/
theorem Serving.inTime {pace deadline : ℚ} {drain : DrainId} {waiting : ChannelId} {w : Paced}
    (serving : Serving pace deadline drain waiting w) (patient : 0 ≤ pace)
    (reached : Reachable paced (Punctual pace) w) : w.state.now ≤ deadline + pace := by
  obtain ⟨pc, found, live, turns⟩ := serving.turns
  obtain ⟨wait, waits, paces⟩ := (busy_of_dirty (reachable_quiet reached) found live serving.full.1).waits pace
  have within := (onTime patient (fun _ _ okay => okay.1) reached).within _ wait waits
  have spare : (0 : ℚ) ≤ (before waiting (ahead w.state pc)).length * pace := mul_nonneg (Nat.cast_nonneg _) patient
  change w.state.now ≤ _ at within
  linarith

/-- A call for the light was begun by the deadline. -/
def SentBy (deadline : ℚ) (waiting : ChannelId) (entries : List Obs) : Prop :=
  ∃ drain call begun, Obs.callBegun drain call begun ∈ entries ∧ call.channelId = waiting ∧ begun ≤ deadline

theorem SentBy.append {deadline : ℚ} {waiting : ChannelId} {new old : List Obs} (sent : SentBy deadline waiting old) :
    SentBy deadline waiting (new ++ old) := by
  obtain ⟨drain, call, begun, member, facts⟩ := sent
  exact ⟨drain, call, begun, List.mem_append_right _ member, facts⟩

/-- Where turns of the event loop and service calls take no longer than the pace, a slot that is written while a loop
runs is sent after as many paces as there are lights at most, unless it is flushed, its light goes away or a session is
stopped before. -/
theorem served_in_time {pace : ℚ} (patient : 0 ≤ pace) {waiting : ChannelId} {w x : Paced} {events : List Event}
    (reached : Reachable paced (Punctual pace) w) (running : w.state.drainRunning = true) (quiet : ¬AwaitsDrain w.state)
    (dirty : (w.state.mapping waiting).dirty = true)
    (run : Run paced (fun y event => Punctual pace y event ∧ available y.state waiting = true ∧ ¬Stops y.state event)
      w events x) (unflushed : Unflushed w.state x.state) :
    SentBy (w.state.now + w.state.channels.length * pace) waiting (newEntries w.state x.state) ∨
      x.state.now ≤ w.state.now + w.state.channels.length * pace := by
  obtain ⟨drain, serving⟩ := Serving.initial patient reached running quiet dirty
  have total : w.state.now + (w.state.channels.length - 1) * pace + pace =
      w.state.now + w.state.channels.length * pace := by ring
  -- either the light has been served in time, or the loop is still on its way to it
  have kept := run.invariant (fun y => Reachable paced (Punctual pace) y ∧ ∃ new, y.state.log = new ++ w.state.log ∧
    (Obs.flushed ∉ new → SentBy (w.state.now + w.state.channels.length * pace) waiting new ∨
      Serving pace (w.state.now + (w.state.channels.length - 1) * pace) drain waiting y)) ?_
    ⟨reached, [], rfl, fun _ => .inr serving⟩
  · obtain ⟨reached', new, grown, held⟩ := kept
    unfold Unflushed at unflushed
    rw [newEntries_eq grown] at unflushed ⊢
    exact (held unflushed).imp_right (fun serving => total ▸ serving.inTime patient reached')
  · rintro y event z ⟨reached, old, grown, held⟩ ⟨punctual, here, unstopped⟩ step
    obtain ⟨stepped, _⟩ := Tasks.step_eq_some step
    obtain ⟨new, added, emits⟩ := move_adds (step_move stepped)
    refine ⟨reached.step punctual step, new ++ old, by rw [added, grown, List.append_assoc], fun unflushed => ?_⟩
    rcases held (fun member => unflushed (List.mem_append_right _ member)) with sent | serving
    · exact .inl sent.append
    · by_cases sends : ∃ loop, waiting ∈ sends loop new
      · obtain ⟨loop, sent⟩ := sends
        obtain ⟨call, begun, member, same⟩ := mem_sends.mp sent
        refine .inl ⟨loop, call, begun, List.mem_append_left _ member, same, ?_⟩
        have emitted := emits _ member
        cases emitted with
        | callBegun outcome found live dirty pending called => exact total ▸ serving.inTime patient reached
      · refine .inr (serving.step patient reached punctual here unstopped step added ⟨?_, not_exists.mp sends, ?_⟩)
        · exact fun member => unflushed (List.mem_append_left _ member)
        · intro member
          have emitted := emits _ member
          cases emitted with
          | dropped outcome gone =>
            rw [here] at gone
            cases gone

/-- Without a stop nothing can start in the wait of one. -/
theorem punctual_of_unstopped {pace : ℚ} {ok : Paced → Event → Prop} {w x : Paced} {events : List Event}
    (run : Run paced (fun y event => jobs.Timely (limit pace) y event ∧ ok y event) w events x)
    (quiet : ¬AwaitsDrain w.state) (unstopped : ∀ event ∈ events, event ≠ .restore) :
    Run paced (fun y event => Punctual pace y event ∧ ok y event ∧ ¬Stops y.state event) w events x ∧
      ¬AwaitsDrain x.state := by
  induction run with
  | nil w => exact ⟨.nil w, quiet⟩
  | @cons w _ _ event _ allowed step _ ih =>
    have here : ¬Stops w.state event := fun stops => unstopped _ List.mem_cons_self stops.1
    have next := unstopped_step quiet here (step_move (Tasks.step_eq_some step).1)
    obtain ⟨rest, after⟩ := ih next (fun event member => unstopped event (List.mem_cons_of_mem _ member))
    exact ⟨.cons ⟨⟨allowed.1, fun awaits => absurd awaits quiet⟩, allowed.2, here⟩ step rest, after⟩

/-- An engine whose jobs have only begun to wait. -/
def pacedOf (s : Engine) : Paced := ⟨s, fun _ => s.now⟩

/-- The turn of the loop and the call for the other light, each of which takes as long as it may. -/
def unhurried : List Event := [.tick 1, .drain 0 .returned, .tick 1, .drain 0 .returned, .tick (1 / 2)]

/-- The entry flushes no slots, and begins no call for the light at another time. -/
def sendsAt (waiting : ChannelId) (time : ℚ) : Obs → Bool
  | .flushed => false
  | .callBegun _ call begun => call.channelId != waiting || begun == time
  | _ => true

/-- Of two lights that are switched on at once the second one is sent to at the very end of the time. -/
theorem served_in_time_unhurried : ∃ w x, Reachable paced (Punctual 1) w ∧
    Run paced (fun y event => Punctual 1 y event ∧ available y.state 2 = true ∧ ¬Stops y.state event) w unhurried x ∧
    SentBy (w.state.now + w.state.channels.length * 1) 2 (newEntries w.state x.state) ∧
    ¬SentBy (w.state.now + w.state.channels.length * 1 - 1 / 2) 2 (newEntries w.state x.state) := by
  have played : (play paced (fun y event => jobs.Timely (limit 1) y event ∧ Always y event) (pacedOf twoLights)
      [switchOn 1, switchOn 2]).any (fun (w : Paced) => w.state.drainRunning && (w.state.mapping 2).dirty &&
        w.state.now == 0 && w.state.channels.length == 2 &&
        (play paced (fun y event => jobs.Timely (limit 1) y event ∧ available y.state 2 = true) w unhurried).any
          (fun (x : Paced) => x.state.now == 5 / 2 && (newEntries w.state x.state).all (sendsAt 2 2))) = true := by
    decide +kernel
  obtain ⟨w, toW, rest⟩ := (Option.any_eq_true _ _).mp played
  simp only [Bool.and_eq_true, beq_iff_eq] at rest
  obtain ⟨⟨⟨⟨running, dirty⟩, zero⟩, two⟩, rest⟩ := rest
  obtain ⟨x, toX, rest⟩ := (Option.any_eq_true _ _).mp rest
  simp only [Bool.and_eq_true, beq_iff_eq, List.all_eq_true] at rest
  obtain ⟨now, entries⟩ := rest
  have fresh : ¬AwaitsDrain twoLights := new_unawaited _ _ _
  have start : paced.Start (pacedOf twoLights) := ⟨⟨_, _, _, rfl⟩, fun _ => rfl⟩
  obtain ⟨led, quiet⟩ := punctual_of_unstopped (run_of_play _ _ _ toW) fresh (by simp [switchOn])
  have reached : Reachable paced (Punctual 1) w := ⟨_, _, start, led.mono (fun _ _ allowed => allowed.1)⟩
  obtain ⟨run, _⟩ := punctual_of_unstopped (run_of_play _ _ _ toX) quiet (by simp [unhurried])
  have unflushed : Unflushed w.state x.state := by
    intro member
    have refuted := entries _ member
    cases refuted
  have served := served_in_time zero_le_one reached running quiet dirty run unflushed
  refine ⟨w, x, reached, run, served.resolve_right ?_, ?_⟩
  · rw [zero, two, now]
    norm_num
  · rintro ⟨drain, call, begun, member, same, early⟩
    have late := entries _ member
    simp only [sendsAt, same, bne_self_eq_false, Bool.false_or, beq_iff_eq] at late
    rw [zero, two, late] at early
    norm_num at early

end HueEntertainment.Pacing
