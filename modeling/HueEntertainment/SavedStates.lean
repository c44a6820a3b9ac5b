import HueEntertainment.EngineHistory
import HueEntertainment.DrainTask
import HueEntertainment.SnapshotLedger

/-! The saved states of a session. As long as no session begins while a stop waits for its drain
task, the engine keeps its one slot of saved states as the ledger keeps its books. -/

namespace HueEntertainment.SavedStates
open HueStream LightCommand PyValue Entertainment EngineSteps EngineFrames DrainSteps EngineMoves
  EngineHistory DrainTask SnapshotLedger TaskTable Runs

/-- No session begins while an `async_restore_lights` waits for its drain task. -/
def UnrestartedWait (s : Engine) (event : Event) : Prop := AwaitsDrain s → ¬Begins s event

/-- The engine holds the saved states the way a phase says. -/
def Holds (s : Engine) : Phase → Prop
  | .idle => s.active = false ∧ s.savedStates = none ∧ ¬AwaitsDrain s
  | .running saved => s.active = true ∧ s.savedStates = saved ∧ ¬AwaitsDrain s
  | .closing stop saved => s.active = false ∧ s.savedStates = saved ∧
      ∃ waited, ∀ teardown drain, s.teardowns teardown = some (.awaitingDrain drain) ↔
        teardown = stop ∧ drain = waited
  | .restoring _ _ => False

/-- The engine is where the ledger says. -/
structure Shows (s : Engine) (ledger : Ledger) : Prop where
  sessions : s.sessions = ledger.sessions
  stops : s.nextTeardown = ledger.stops
  fresh : ∀ teardown, s.nextTeardown ≤ teardown → s.teardowns teardown = none
  released : s.releasing = true → s.savedStates = none
  phase : Holds s ledger.phase

/-- Everything the ledger is about. -/
def store (s : Engine) := (s.sessions, s.nextTeardown, s.teardowns, s.active, s.savedStates)

/-- A phase goes by the session, the saved states and which stops wait. -/
theorem Holds.of_awaits {s t : Engine} {phase : Phase} (holds : Holds s phase) (active : t.active = s.active)
    (saved : t.savedStates = s.savedStates)
    (awaits : ∀ teardown drain, t.teardowns teardown = some (.awaitingDrain drain) ↔
      s.teardowns teardown = some (.awaitingDrain drain)) : Holds t phase := by
  have quiet : ¬AwaitsDrain s → ¬AwaitsDrain t := by
    intro idle found
    obtain ⟨teardown, drain, found⟩ := found
    exact idle ⟨teardown, drain, (awaits teardown drain).mp found⟩
  cases phase with
  | idle => exact ⟨active.trans holds.1, saved.trans holds.2.1, quiet holds.2.2⟩
  | running held => exact ⟨active.trans holds.1, saved.trans holds.2.1, quiet holds.2.2⟩
  | closing stop held =>
    obtain ⟨inactive, same, waited, waits⟩ := holds
    have waits' := fun teardown drain => (awaits teardown drain).trans (waits teardown drain)
    exact ⟨active.trans inactive, saved.trans same, waited, waits'⟩
  | restoring stop held => exact holds.elim

theorem Shows.of_same {s t : Engine} {ledger : Ledger} (shows_ : Shows s ledger) (same : store t = store s)
    (releasing : t.releasing = true → s.releasing = true) : Shows t ledger := by
  simp only [store, Prod.mk.injEq] at same
  obtain ⟨sessions, stops, teardowns, active, saved⟩ := same
  constructor
  · exact sessions.trans shows_.sessions
  · exact stops.trans shows_.stops
  · rw [stops, teardowns]
    exact shows_.fresh
  · intro now
    exact saved.trans (shows_.released (releasing now))
  · apply shows_.phase.of_awaits active saved
    intro teardown drain
    rw [teardowns]

theorem Notices.foreign {entries : List Obs} (notices : Notices entries) :
    ∀ entry ∈ entries, concerns entry = false := by
  intro entry member
  obtain ⟨status, driving, rfl⟩ := notices entry member
  rfl

/-- The events whose steps the ledger has an entry for. -/
def Booked : Event → Prop
  | .snapshot | .restore | .release _ | .drained _ => True
  | _ => False

theorem foreign_of_emits {s : Engine} {event : Event} {entry : Obs} (emits : Emits s event entry)
    (unbooked : ¬Booked event) : concerns entry = false := by
  cases emits with
  | sessionBegun opens => exact absurd trivial unbooked
  | sessionEnded active => exact absurd trivial unbooked
  | released seconds => exact absurd trivial unbooked
  | savedTaken takes => cases takes <;> exact absurd trivial unbooked
  | reproduceBegun takes found nonempty => cases takes <;> exact absurd trivial unbooked
  | _ => rfl

/-- A teardown that takes the saved states closes the books of its stop. -/
theorem took_audited {s : Engine} {sessions stops : Nat} {stop : TeardownId} {entries : List Obs}
    (audited : Audited s.log ⟨sessions, stops, .closing stop s.savedStates⟩) (notices : Notices entries) :
    Audited (took s stop entries).log ⟨sessions, stops, .idle⟩ := by
  have taken : Audited (.flushed :: .savedTaken stop s.savedStates :: (entries ++ s.log))
      ⟨sessions, stops, .taken stop s.savedStates⟩ :=
    ((audited.foreign (Notices.foreign notices)).cons .take).cons (.other rfl)
  have logged : (took s stop entries).log = (afterTaking stop s.savedStates).2 ++
      .flushed :: .savedTaken stop s.savedStates :: (entries ++ s.log) := rfl
  rw [logged]
  unfold afterTaking
  unfold Phase.taken at taken
  cases found : s.savedStates with
  | none =>
    rw [found] at taken
    exact taken
  | some saved =>
    rw [found] at taken
    by_cases empty : saved.states = []
    · simp only [if_pos empty] at taken ⊢
      exact taken
    · simp only [if_neg empty] at taken ⊢
      exact taken.cons .reproduce

/-- The engine's books after a step that they have no entry for. -/
theorem unbooked_step {s t : Engine} {event : Event} {ledger : Ledger} (audited : Audited s.log ledger)
    (shows_ : Shows s ledger) (adds : Adds s event t) (unbooked : ¬Booked event) (same : store t = store s)
    (releasing : t.releasing = true → s.releasing = true) :
    ∃ next, Audited t.log next ∧ Shows t next := by
  obtain ⟨new, logged, emits⟩ := adds
  refine ⟨ledger, ?_, shows_.of_same same releasing⟩
  rw [logged]
  exact audited.foreign (fun entry member => foreign_of_emits (emits entry member) unbooked)

theorem opened_audited {s : Engine} {ledger : Ledger} {forcing : Bool} {cancel : Option TimerId}
    {timers : TimerId → Option Timer} {first entries : List Obs} (audited : Audited s.log ledger)
    (shows_ : Shows s ledger) (quiet : ¬AwaitsDrain s) (unholds : Unholds s forcing cancel timers first)
    (notices : Notices entries) :
    ∃ next, Audited (sessionOpened (unheld s forcing cancel timers first) entries).log next ∧
      Shows (sessionOpened (unheld s forcing cancel timers first) entries) next := by
  obtain ⟨sessions, stops, phase⟩ := ledger
  have number : s.sessions = sessions := shows_.sessions
  have free : phase = .idle ∨ phase = .running none := by
    have held := shows_.phase
    cases phase with
    | idle => exact .inl rfl
    | running saved =>
      obtain ⟨active, same, _⟩ := held
      cases unholds with
      | release releasing notices =>
        rw [shows_.released releasing] at same
        exact .inr (by rw [← same])
      | fresh unreleased inactive =>
        rw [active] at inactive
        cases inactive
    | closing stop saved =>
      obtain ⟨_, _, waited, waits⟩ := held
      exact absurd ⟨stop, waited, (waits stop waited).mpr ⟨rfl, rfl⟩⟩ quiet
    | restoring stop saved => exact held.elim
  have firstNotices : Notices first := by
    cases unholds with
    | release releasing notices => exact notices
    | fresh unreleased inactive => exact .nil
  have next : (freshSnapshot s).session = sessions + 1 := congrArg (· + 1) number
  refine ⟨⟨sessions + 1, stops, .running (some (freshSnapshot s))⟩, ?_, ?_⟩
  · have begun := (audited.foreign (Notices.foreign firstNotices)).cons (.start free next)
    exact (begun.cons (.other rfl)).foreign (Notices.foreign notices)
  · constructor
    · exact next
    · exact shows_.stops
    · exact shows_.fresh
    · intro now
      cases now
    · exact ⟨rfl, rfl, quiet⟩

theorem closed_audited {s : Engine} {ledger : Ledger} {entries : List Obs} (audited : Audited s.log ledger)
    (shows_ : Shows s ledger) (active : s.active = true) (notices : Notices entries) :
    ¬AwaitsDrain s ∧ Audited (sessionClosed s entries).log
      ⟨ledger.sessions, ledger.stops + 1, .closing s.nextTeardown s.savedStates⟩ := by
  obtain ⟨sessions, stops, phase⟩ := ledger
  have number : s.sessions = sessions := shows_.sessions
  have stop : s.nextTeardown = stops := shows_.stops
  have held := shows_.phase
  cases phase with
  | idle =>
    rw [held.1] at active
    cases active
  | running saved =>
    obtain ⟨_, same, quiet⟩ := held
    refine ⟨quiet, Audited.foreign ?_ (Notices.foreign notices)⟩
    rw [number, stop, same]
    exact audited.cons .stop
  | closing stop saved =>
    rw [held.1] at active
    cases active
  | restoring stop saved => exact held.elim

/-- A stop that has to wait is the only one that does. -/
theorem suspended_audited {s : Engine} {ledger : Ledger} {entries : List Obs} (audited : Audited s.log ledger)
    (shows_ : Shows s ledger) (active : s.active = true) (notices : Notices entries) (drain : DrainId) :
    let t := ((sessionClosed s entries).cancelDrain drain).setTeardown s.nextTeardown (.awaitingDrain drain)
    ∃ next, Audited t.log next ∧ Shows t next := by
  obtain ⟨quiet, closed⟩ := closed_audited audited shows_ active notices
  refine ⟨_, closed, ?_⟩
  constructor
  · exact shows_.sessions
  · exact congrArg (· + 1) shows_.stops
  · exact Fresh.create shows_.fresh _
  · intro now
    cases now
  · refine ⟨rfl, rfl, drain, ?_⟩
    intro teardown waited
    change Function.update s.teardowns s.nextTeardown (some (.awaitingDrain drain)) teardown = _ ↔ _
    by_cases here : teardown = s.nextTeardown
    · subst teardown
      rw [Function.update_self]
      simp [eq_comm]
    · rw [Function.update_of_ne here]
      constructor
      · intro found
        exact absurd ⟨teardown, waited, found⟩ quiet
      · intro found
        exact absurd found.1 here

/-- A stop without a drain task takes the states at once. -/
theorem stopped_audited {s : Engine} {ledger : Ledger} {entries more : List Obs} (audited : Audited s.log ledger)
    (shows_ : Shows s ledger) (active : s.active = true) (notices : Notices entries) (notices' : Notices more) :
    ∃ next, Audited (took (sessionClosed s entries) s.nextTeardown more).log next ∧
      Shows (took (sessionClosed s entries) s.nextTeardown more) next := by
  obtain ⟨quiet, closed⟩ := closed_audited audited shows_ active notices
  have taken : Audited (took (sessionClosed s entries) s.nextTeardown more).log _ := took_audited closed notices'
  refine ⟨_, taken, ?_⟩
  constructor
  · exact shows_.sessions
  · exact congrArg (· + 1) shows_.stops
  · exact Fresh.create shows_.fresh _
  · intro now
    cases now
  · refine ⟨rfl, rfl, ?_⟩
    rintro ⟨teardown, waited, found⟩
    exact quiet ⟨teardown, waited, (took_awaits found).2⟩

/-- The stop that takes the states after its wait is the one that closed the session. -/
theorem drained_audited {s : Engine} {ledger : Ledger} {teardown : TeardownId} {drain : DrainId} {entries : List Obs}
    (audited : Audited s.log ledger) (shows_ : Shows s ledger)
    (found : s.teardowns teardown = some (.awaitingDrain drain)) (notices : Notices entries) :
    ∃ next, Audited (took { s with drainTask := none } teardown entries).log next ∧
      Shows (took { s with drainTask := none } teardown entries) next := by
  obtain ⟨sessions, stops, phase⟩ := ledger
  have held := shows_.phase
  cases phase with
  | idle => exact absurd ⟨teardown, drain, found⟩ held.2.2
  | running saved => exact absurd ⟨teardown, drain, found⟩ held.2.2
  | closing stop saved =>
    obtain ⟨inactive, same, waited, waits⟩ := held
    obtain ⟨here, _⟩ := (waits teardown drain).mp found
    rw [← same, ← here] at audited
    have taken : Audited (took { s with drainTask := none } teardown entries).log _ := took_audited audited notices
    refine ⟨_, taken, ?_⟩
    constructor
    · exact shows_.sessions
    · exact shows_.stops
    · exact Fresh.replace shows_.fresh found _
    · intro _
      rfl
    · refine ⟨inactive, rfl, ?_⟩
      rintro ⟨other, waited', found'⟩
      obtain ⟨different, before⟩ := took_awaits found'
      exact different (((waits other waited').mp before).1.trans here.symm)
  | restoring stop saved => exact held.elim

theorem released_audited {s : Engine} {ledger : Ledger} {seconds : ℚ} {entries : List Obs}
    (audited : Audited s.log ledger) (shows_ : Shows s ledger) (notices : Notices entries) :
    ∃ next, Audited (releasing s seconds entries).log next ∧ Shows (releasing s seconds entries) next := by
  obtain ⟨sessions, stops, phase⟩ := ledger
  have held := shows_.phase
  have settled : ∀ stop saved, phase ≠ .restoring stop saved := by
    intro stop saved same
    rw [same] at held
    exact held
  refine ⟨⟨sessions, stops, phase.released⟩, ?_, ?_⟩
  · exact ((audited.cons (.other rfl)).cons (.release settled)).foreign (Notices.foreign notices)
  · refine ⟨shows_.sessions, shows_.stops, shows_.fresh, fun _ => rfl, ?_⟩
    cases phase with
    | idle => exact ⟨held.1, rfl, held.2.2⟩
    | running saved => exact ⟨held.1, rfl, held.2.2⟩
    | closing stop saved => exact ⟨held.1, rfl, held.2.2⟩
    | restoring stop saved => exact held.elim

theorem audited_step {s t : Engine} {event : Event} {ledger : Ledger} (audited : Audited s.log ledger)
    (shows_ : Shows s ledger) (guard : UnrestartedWait s event) (move : Move s event t) :
    ∃ next, Audited t.log next ∧ Shows t next := by
  have adds := move_adds move
  cases move with
  | snapshotJoined unholds notices running =>
    have quiet : ¬AwaitsDrain s := fun awaits => guard awaits ⟨rfl, opens_of_unholds unholds⟩
    exact opened_audited audited shows_ quiet unholds notices
  | snapshotStarted unholds notices idle notices' =>
    have quiet : ¬AwaitsDrain s := fun awaits => guard awaits ⟨rfl, opens_of_unholds unholds⟩
    obtain ⟨next, audited, opened⟩ := opened_audited audited shows_ quiet unholds notices
    exact ⟨next, audited.foreign (Notices.foreign notices'), opened.of_same rfl id⟩
  | restoreSuspended active waits notices => exact suspended_audited audited shows_ active notices _
  | restoreTook active free notices notices' => exact stopped_audited audited shows_ active notices notices'
  | drained found finished notices => exact drained_audited audited shows_ found notices
  | released notices => exact released_audited audited shows_ notices
  | @reproduced teardown saved outcome found =>
    have awaits := reproduced_awaits found (.reproduceEnded teardown outcome)
    refine ⟨ledger, audited.cons (.other rfl), shows_.sessions, shows_.stops, ?_, shows_.released, ?_⟩
    · exact Fresh.replace shows_.fresh found _
    · exact shows_.phase.of_awaits rfl rfl awaits
  | drain move =>
    obtain ⟨_, _, _, _, _, _, rfl⟩ := move.frame
    exact unbooked_step audited shows_ adds id rfl id
  | frame wrote held same => exact unbooked_step audited shows_ adds id rfl id
  | commandJoined accepted running => exact unbooked_step audited shows_ adds id rfl id
  | commandStarted accepted idle notices => exact unbooked_step audited shows_ adds id rfl id
  | paused unreleased notices => exact unbooked_step audited shows_ adds id rfl id
  | resumed unreleased notices => exact unbooked_step audited shows_ adds id rfl id
  | pauseExpired pending notices => exact unbooked_step audited shows_ adds id rfl id
  | graceStale pending unreleased => exact unbooked_step audited shows_ adds id rfl id
  | graceEnded pending releasing inactive notices =>
    exact unbooked_step audited shows_ adds id rfl (fun now => by cases now)
  | graceForced pending releasing active notices => exact unbooked_step audited shows_ adds id rfl id
  | tick forward => exact unbooked_step audited shows_ adds id rfl id
  | setState => exact unbooked_step audited shows_ adds id rfl id
  | commandKept rejected => exact ⟨ledger, audited, shows_⟩
  | snapshotKept closed => exact ⟨ledger, audited, shows_⟩
  | restoreKept inactive => exact ⟨ledger, audited, shows_⟩
  | pauseKept releasing => exact ⟨ledger, audited, shows_⟩
  | resumeKept => exact ⟨ledger, audited, shows_⟩

/-- The refinement: what a run does with its saved states can be booked. -/
theorem audited {s : Engine} (reached : Reachable machine UnrestartedWait s) :
    ∃ ledger, Audited s.log ledger ∧ Shows s ledger := by
  refine reached.invariant (fun x => ∃ ledger, Audited x.log ledger ∧ Shows x ledger) ?_ ?_
  · rintro s ⟨lights, states, now, rfl⟩
    exact ⟨⟨0, 0, .idle⟩, .nil, rfl, rfl, fun _ _ => rfl, fun _ => rfl, rfl, rfl, new_unawaited _ _ _⟩
  · intro x event y held guard step
    obtain ⟨ledger, audited, shows_⟩ := held
    exact audited_step audited shows_ guard (step_move step)

/-- As long as no session begins while a stop waits for its drain task: no start overwrites saved
states that are pending, a stop takes only those of the session it ended, and saved states that are
not empty and not released are reproduced once, by that stop, once it has waited. -/
theorem saved_once {s : Engine} (reached : Reachable machine UnrestartedWait s) :
    (∀ newer saved older, s.log = newer ++ .sessionBegun saved :: older → pendingIn older = none) ∧
    (∀ newer stop saved older, s.log = newer ++ .savedTaken stop (some saved) :: older →
      EndedBy older stop saved.session (some saved)) ∧
    (∀ saved stop, .sessionBegun saved ∈ s.log → saved.states ≠ [] → ¬Discarded s.log saved →
      .sessionEnded stop saved.session ∈ s.log →
      (∀ drain, s.teardowns stop ≠ some (.awaitingDrain drain)) → reproductions saved s.log = [stop]) := by
  obtain ⟨ledger, audited, shows_⟩ := audited reached
  refine ⟨?_, ?_, ?_⟩
  · intro newer saved older split
    rw [split] at audited
    exact audited.start_pending
  · intro newer stop saved older split
    rw [split] at audited
    exact audited.taken
  · intro saved stop begun nonempty kept ended finished
    have balanced := audited.balanced
    rcases balanced.settled saved begun nonempty with owes | discarded | ⟨other, ended', once⟩
    · have held := shows_.phase
      have number := (balanced.owed saved owes).2.1
      cases phase : ledger.phase with
      | idle =>
        rw [phase] at owes
        rcases owes with pending | ⟨other, restoring⟩
        · cases pending
        · cases restoring
      | running pending =>
        have before := balanced.running pending stop saved.session phase ended
        omega
      | closing other pending =>
        rw [phase] at held
        obtain ⟨_, _, waited, waits⟩ := held
        have ended' := (balanced.closing other pending phase).member
        rw [← number] at ended'
        have same := balanced.once stop other saved.session ended ended'
        exact absurd ((waits stop waited).mpr ⟨same, rfl⟩) (finished waited)
      | restoring other pending =>
        rw [phase] at held
        exact held.elim
    · exact absurd discarded kept
    · rw [once, balanced.once stop other saved.session ended ended']

/-- The states saved by the session of this number of the engine with one light. -/
def saves (session : Nat) : Snapshot := ⟨session, [⟨"light.one", "on"⟩]⟩

/-- A session that starts while the stop of the previous one waits for its drain loop, to the end
of that stop. -/
def restartedWait : List Event :=
  [.snapshot, .drain 0 .returned, .restore, .snapshot, .drain 0 .returned, .drained 0,
    .reproduced 0 .returned]

theorem booked_member {s : Engine} {entries : List Obs} {entry : Obs} (booked : s.log.filter concerns = entries)
    (concerned : concerns entry = true) : entry ∈ s.log ↔ entry ∈ entries := by
  rw [← booked, List.mem_filter]
  simp [concerned]

/-- The second session overwrites the states saved by the first, and the stop of the first session
takes those of the second: what the first saved is never reproduced. -/
theorem restartedWait_lost : ∃ s, play machine Always oneLight restartedWait = some s ∧
    ¬RestoreSuspended s ∧ .sessionBegun (saves 1) ∈ s.log ∧ ¬Discarded s.log (saves 1) ∧
    .sessionEnded 0 1 ∈ s.log ∧ .savedTaken 0 (some (saves 2)) ∈ s.log ∧
    reproductions (saves 1) s.log = [] := by
  obtain ⟨s, played⟩ : ∃ s, play machine Always oneLight restartedWait = some s := ⟨_, rfl⟩
  have booked : (play machine Always oneLight restartedWait).map (fun s => s.log.filter concerns) =
      some [.reproduceBegun 0 (saves 2), .savedTaken 0 (some (saves 2)), .sessionBegun (saves 2),
        .sessionEnded 0 1, .sessionBegun (saves 1)] := rfl
  have calls : (play machine Always oneLight restartedWait).map (fun s => s.teardowns) =
      some (Function.update (Function.update (Function.update (fun _ => none) 0 (some (.awaitingDrain 0))) 0
        (some (.reproducing (saves 2)))) 0 (some .done)) := rfl
  have lost : (play machine Always oneLight restartedWait).map (fun s => reproductions (saves 1) s.log) =
      some [] := by decide
  rw [played] at booked calls lost
  simp only [Option.map_some, Option.some.injEq, Function.update_idem] at booked calls lost
  refine ⟨s, played, onlyStop_over calls, ?_, ?_, ?_, ?_, lost⟩
  · rw [booked_member booked rfl]
    simp
  · intro discarded
    have released := discarded.released
    rw [booked_member booked rfl] at released
    simp at released
  · rw [booked_member booked rfl]
    simp
  · rw [booked_member booked rfl]
    simp

theorem saved_once_stopped : ∃ s, Run machine UnrestartedWait oneLight startAndStop s ∧
    reproductions (saves 1) s.log = [0] := by
  have first : UnrestartedWait oneLight .snapshot := fun awaits => absurd awaits (new_unawaited _ _ _)
  have others : ∀ s event, event ≠ .snapshot → UnrestartedWait s event :=
    fun s event different _ begins => different begins.1
  obtain ⟨s, run⟩ : ∃ s, Run machine UnrestartedWait oneLight startAndStop s :=
    ⟨_, .cons first rfl (.cons (others _ _ (by simp)) rfl (.cons (others _ _ (by simp)) rfl
      (.cons (others _ _ (by simp)) rfl (.cons (others _ _ (by simp)) rfl (.nil _)))))⟩
  have booked : (play machine Always oneLight startAndStop).map (fun s => s.log.filter concerns) =
      some [.reproduceBegun 0 (saves 1), .savedTaken 0 (some (saves 1)), .sessionEnded 0 1,
        .sessionBegun (saves 1)] := rfl
  have call : (play machine Always oneLight startAndStop).map (fun s => s.teardowns 0) =
      some (some (.reproducing (saves 1))) := rfl
  rw [run.played] at booked call
  simp only [Option.map_some, Option.some.injEq] at booked call
  have once := (saved_once ⟨_, _, ⟨_, _, _, rfl⟩, run⟩).2.2 (saves 1) 0
  refine ⟨s, run, once ?_ (by simp [saves]) ?_ ?_ ?_⟩
  · rw [booked_member booked rfl]
    simp
  · intro discarded
    have released := discarded.released
    rw [booked_member booked rfl] at released
    simp at released
  · rw [booked_member booked rfl]
    simp [saves]
  · intro drain waiting
    rw [call] at waiting
    simp at waiting

end HueEntertainment.SavedStates
