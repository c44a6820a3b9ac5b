import HueEntertainment.EngineMoves

/-! Pause and release: the fields that hold them and the timers that end them. The engine holds a
handle for each pending timer and drops the handle with the timer, so an earlier timer is gone
before a later one is set. -/

namespace HueEntertainment.PauseRelease
open HueStream LightCommand PyValue Entertainment EngineSteps EngineFrames DrainSteps EngineMoves TaskTable Runs

/-- The timer is pending and will run this action. -/
def Pending (timers : TimerId → Option Timer) (action : TimerAction) (timer : TimerId) : Prop :=
  ∃ due, timers timer = some ⟨action, due⟩

/-- The timers of one action are the ones a handle names. -/
def Owns (timers : TimerId → Option Timer) (action : TimerAction) (handle : Option TimerId) : Prop :=
  ∀ timer, Pending timers action timer ↔ handle = some timer

theorem Owns.empty (action : TimerAction) : Owns (fun _ => none) action none := by
  intro timer
  constructor
  · rintro ⟨due, pending⟩
    cases pending
  · intro held
    cases held

theorem cancelTimer_none {s : Engine} (handle : Option TimerId) {timer : TimerId}
    (none : s.timers timer = none) : (s.cancelTimer handle).timers timer = Option.none := by
  rw [Engine.cancelTimer_timers]
  cases handle with
  | none => exact none
  | some cancelled =>
    by_cases same : timer = cancelled
    · subst cancelled
      exact Function.update_self _ _ _
    · rw [Option.elim_some, Function.update_of_ne same]
      exact none

/-- Cancelling through the owning handle leaves no timer of the action. -/
theorem Owns.cancelled {s : Engine} {action : TimerAction} {handle : Option TimerId}
    (owns : Owns s.timers action handle) : Owns (s.cancelTimer handle).timers action none := by
  intro timer
  refine ⟨?_, by simp⟩
  rintro ⟨due, pending⟩
  rw [Engine.cancelTimer_timers] at pending
  cases handle with
  | none => exact (owns timer).mp ⟨due, pending⟩
  | some cancelled =>
    rw [Option.elim_some] at pending
    rcases update_eq_some pending with ⟨_, gone⟩ | ⟨different, before⟩
    · cases gone
    · have held := (owns timer).mp ⟨due, before⟩
      exact absurd (Option.some.inj held).symm different

/-- Cancelling through a handle of another action keeps the timers of this one. -/
theorem cancelTimer_other {s : Engine} {action other : TimerAction} {handle : Option TimerId}
    (owns : Owns s.timers action handle) (different : other ≠ action) {timer : TimerId} {due : ℚ} :
    (s.cancelTimer handle).timers timer = some ⟨other, due⟩ ↔ s.timers timer = some ⟨other, due⟩ := by
  rw [Engine.cancelTimer_timers]
  cases handle with
  | none => rfl
  | some cancelled =>
    by_cases same : timer = cancelled
    · subst cancelled
      rw [Option.elim_some, Function.update_self]
      obtain ⟨due', pending⟩ := (owns timer).mpr rfl
      rw [pending]
      simp [Ne.symm different]
    · rw [Option.elim_some, Function.update_of_ne same]

theorem Owns.other {s : Engine} {action other : TimerAction} {handle handle' : Option TimerId}
    (owns : Owns s.timers action handle) (owns' : Owns s.timers other handle')
    (different : other ≠ action) : Owns (s.cancelTimer handle).timers other handle' := by
  intro timer
  rw [← owns' timer]
  constructor
  · rintro ⟨due, pending⟩
    exact ⟨due, (cancelTimer_other owns different).mp pending⟩
  · rintro ⟨due, pending⟩
    exact ⟨due, (cancelTimer_other owns different).mpr pending⟩

/-- A new timer, at a number where none is pending, when no other timer has its action. -/
theorem Owns.created {timers : TimerId → Option Timer} {action : TimerAction} {next : TimerId} (due : ℚ)
    (owns : Owns timers action none) :
    Owns (Function.update timers next (some ⟨action, due⟩)) action (some next) := by
  intro timer
  constructor
  · intro ⟨due', pending⟩
    rcases update_eq_some pending with ⟨here, _⟩ | ⟨_, before⟩
    · exact congrArg some here.symm
    · have held := (owns timer).mp ⟨due', before⟩
      cases held
  · intro held
    obtain rfl := Option.some.inj held
    exact ⟨due, Function.update_self _ _ _⟩

theorem Owns.beside {timers : TimerId → Option Timer} {action other : TimerAction} {next : TimerId}
    {handle : Option TimerId} (due : ℚ) (owns : Owns timers other handle) (free : timers next = none)
    (different : other ≠ action) :
    Owns (Function.update timers next (some ⟨action, due⟩)) other handle := by
  intro timer
  rw [← owns timer]
  unfold Pending
  by_cases same : timer = next
  · subst timer
    rw [Function.update_self, free]
    simp [Ne.symm different]
  · rw [Function.update_of_ne same]

/-- The fields of pause and release agree with each other and with the pending timers. -/
structure TimersOwned (s : Engine) : Prop where
  paused : Owns s.timers .pauseExpired s.pauseCancel
  grace : Owns s.timers .releaseGraceExpired s.releaseCancel
  deadline : ∀ timer due, s.timers timer = some ⟨.pauseExpired, due⟩ → s.pausedUntil = some due
  handle : s.pausedUntil.isSome = s.pauseCancel.isSome
  fresh : ∀ timer, s.nextTimer ≤ timer → s.timers timer = none
  exclusive : s.releasing = true → s.pausedUntil = none
  unreleased : s.releasing = false → s.releaseCancel = none ∧ s.releaseForcing = false
  forced : s.releasing = true → s.releaseCancel = none → s.releaseForcing = true ∧ s.active = true

/-- Everything that pause and release consist of. -/
def holds (s : Engine) :=
  (s.timers, s.nextTimer, s.pausedUntil, s.pauseCancel, s.releasing, s.releaseForcing, s.releaseCancel)

/-- A step that leaves pause and release alone and ends no session under a release. -/
theorem TimersOwned.of_same {s t : Engine} (owned : TimersOwned s) (same : holds t = holds s)
    (streaming : s.releasing = true → s.active = true → t.active = true) : TimersOwned t := by
  simp only [holds, Prod.mk.injEq] at same
  obtain ⟨timers, nextTimer, pausedUntil, pauseCancel, releasing, releaseForcing, releaseCancel⟩ := same
  constructor
  · rw [timers, pauseCancel]
    exact owned.paused
  · rw [timers, releaseCancel]
    exact owned.grace
  · rw [timers, pausedUntil]
    exact owned.deadline
  · rw [pausedUntil, pauseCancel]
    exact owned.handle
  · rw [timers, nextTimer]
    exact owned.fresh
  · rw [releasing, pausedUntil]
    exact owned.exclusive
  · rw [releasing, releaseCancel, releaseForcing]
    exact owned.unreleased
  · intro now free
    rw [releasing] at now
    rw [releaseCancel] at free
    obtain ⟨forcing, active⟩ := owned.forced now free
    rw [releaseForcing]
    exact ⟨forcing, streaming now active⟩

/-- A release resolved together with its timer. -/
theorem TimersOwned.resolved {s t : Engine} (owned : TimersOwned s)
    (same : holds t = ((s.cancelTimer s.releaseCancel).timers, s.nextTimer, s.pausedUntil, s.pauseCancel,
      false, false, none)) : TimersOwned t := by
  simp only [holds, Prod.mk.injEq] at same
  obtain ⟨timers, nextTimer, pausedUntil, pauseCancel, releasing, releaseForcing, releaseCancel⟩ := same
  constructor
  · rw [timers, pauseCancel]
    exact owned.grace.other owned.paused (by decide)
  · rw [timers, releaseCancel]
    exact owned.grace.cancelled
  · intro timer due pending
    rw [timers] at pending
    rw [pausedUntil]
    exact owned.deadline timer due ((cancelTimer_other owned.grace (by decide)).mp pending)
  · rw [pausedUntil, pauseCancel]
    exact owned.handle
  · intro timer later
    rw [nextTimer] at later
    rw [timers]
    exact cancelTimer_none _ (owned.fresh timer later)
  · rw [releasing]
    intro now
    cases now
  · exact fun _ => ⟨releaseCancel, releaseForcing⟩
  · rw [releasing]
    intro now
    cases now

/-- A pause ended together with its timer. -/
theorem TimersOwned.afterUnpause {s : Engine} (owned : TimersOwned s) (entries : List Obs) :
    TimersOwned (unpaused s s.pauseCancel entries) where
  paused := owned.paused.cancelled
  grace := owned.paused.other owned.grace (by decide)
  deadline := by
    intro timer due pending
    have none := (owned.paused.cancelled timer).mp ⟨due, pending⟩
    cases none
  handle := rfl
  fresh := fun timer later => cancelTimer_none _ (owned.fresh timer later)
  exclusive := fun _ => rfl
  unreleased := owned.unreleased
  forced := owned.forced

theorem TimersOwned.afterPause {s : Engine} (owned : TimersOwned s) (unreleased : s.releasing = false)
    (seconds : ℚ) (entries : List Obs) : TimersOwned (pausing s seconds entries) where
  paused := owned.paused.cancelled.created _
  grace := (owned.paused.other owned.grace (by decide)).beside _
    (cancelTimer_none _ (owned.fresh s.nextTimer (Nat.le_refl _))) (by decide)
  deadline := by
    intro timer due pending
    have created : Owns (EngineMoves.pausing s seconds entries).timers .pauseExpired (some s.nextTimer) :=
      owned.paused.cancelled.created _
    have here : some s.nextTimer = some timer := (created timer).mp ⟨due, pending⟩
    obtain rfl := Option.some.inj here
    unfold EngineMoves.pausing at pending ⊢
    simp only [Function.update_self, Option.some.injEq, Timer.mk.injEq, true_and] at pending
    exact congrArg some pending
  handle := rfl
  fresh := by
    have free : Fresh (s.cancelTimer s.pauseCancel).timers s.nextTimer :=
      fun timer later => cancelTimer_none _ (owned.fresh timer later)
    exact free.create _
  exclusive := by
    intro now
    have false : s.releasing = true := now
    rw [unreleased] at false
    cases false
  unreleased := owned.unreleased
  forced := by
    intro now
    have false : s.releasing = true := now
    rw [unreleased] at false
    cases false

theorem TimersOwned.afterRelease {s : Engine} (owned : TimersOwned s) (seconds : ℚ) (entries : List Obs) :
    TimersOwned (releasing s seconds entries) := by
  have grace : Owns (s.cancelTimer s.pauseCancel).timers .releaseGraceExpired s.releaseCancel :=
    owned.paused.other owned.grace (by decide)
  have paused : Owns ((s.cancelTimer s.pauseCancel).cancelTimer s.releaseCancel).timers .pauseExpired none :=
    grace.other owned.paused.cancelled (by decide)
  have free : Fresh ((s.cancelTimer s.pauseCancel).cancelTimer s.releaseCancel).timers s.nextTimer :=
    fun timer later => cancelTimer_none _ (cancelTimer_none _ (owned.fresh timer later))
  have none : Owns (releasing s seconds entries).timers .pauseExpired none :=
    paused.beside _ (free s.nextTimer (Nat.le_refl _)) (by decide)
  constructor
  · exact none
  · exact grace.cancelled.created _
  · intro timer due pending
    have held := (none timer).mp ⟨due, pending⟩
    cases held
  · rfl
  · exact free.create _
  · exact fun _ => rfl
  · intro now
    cases now
  · intro _ held
    cases held

theorem unheld_owned {s t : Engine} {forcing : Bool} {cancel : Option TimerId}
    {timers : TimerId → Option Timer} {first : List Obs} (owned : TimersOwned s)
    (unholds : Unholds s forcing cancel timers first)
    (same : holds t = (timers, s.nextTimer, s.pausedUntil, s.pauseCancel, false, forcing, cancel)) :
    TimersOwned t := by
  cases unholds with
  | release releasing notices => exact owned.resolved same
  | fresh unreleased inactive =>
    refine owned.of_same (same.trans ?_) ?_
    · simp only [holds, unreleased]
    · intro now
      rw [unreleased] at now
      cases now

/-- The step lemma: every operation, timer and task restores all the relations at once. -/
theorem TimersOwned.step {s t : Engine} {event : Event} (owned : TimersOwned s)
    (move : Move s event t) : TimersOwned t := by
  have kept : ∀ u : Engine, holds u = holds s → u.active = s.active → TimersOwned u :=
    fun u same active => owned.of_same same (fun _ streaming => active.trans streaming)
  cases move with
  | frame wrote held same => exact kept _ rfl rfl
  | commandKept rejected => exact owned
  | commandJoined accepted running => exact kept _ rfl rfl
  | commandStarted accepted idle notices => exact kept _ rfl rfl
  | snapshotKept closed => exact owned
  | snapshotJoined unholds notices running => exact unheld_owned owned unholds rfl
  | snapshotStarted unholds notices idle notices' => exact unheld_owned owned unholds rfl
  | restoreKept inactive => exact owned
  | restoreSuspended active waits notices => exact owned.resolved rfl
  | restoreTook active free notices notices' => exact owned.resolved rfl
  | pauseKept releasing => exact owned
  | paused unreleased notices => exact owned.afterPause unreleased _ _
  | resumeKept => exact owned
  | resumed unreleased notices => exact owned.afterUnpause _
  | released notices => exact owned.afterRelease _ _
  | @pauseExpired timer due entries pending notices =>
    have handle : s.pauseCancel = some timer := (owned.paused timer).mp ⟨due, pending⟩
    rw [← handle]
    exact owned.afterUnpause entries
  | @graceStale timer due pending unreleased =>
    have handle : s.releaseCancel = some timer := (owned.grace timer).mp ⟨due, pending⟩
    rw [(owned.unreleased unreleased).1] at handle
    cases handle
  | @graceEnded timer due entries pending releasing inactive notices =>
    have handle : s.releaseCancel = some timer := (owned.grace timer).mp ⟨due, pending⟩
    exact owned.resolved (by rw [handle]; rfl)
  | @graceForced timer due entries pending releasing active notices =>
    have handle : s.releaseCancel = some timer := (owned.grace timer).mp ⟨due, pending⟩
    have cleared := owned.resolved (t := graceOver s timer false false entries) (by rw [handle]; rfl)
    exact
      { cleared with
        exclusive := owned.exclusive
        unreleased := fun off => absurd (releasing.symm.trans off) (by simp)
        forced := fun _ _ => ⟨rfl, active⟩ }
  | drain move =>
    obtain ⟨_, _, _, _, _, _, rfl⟩ := move.frame
    exact kept _ rfl rfl
  | drained found finished notices => exact kept _ rfl rfl
  | reproduced found => exact kept _ rfl rfl
  | tick forward => exact kept _ rfl rfl
  | setState => exact kept _ rfl rfl

theorem new_owned (lightMappings : List LightMapping) (states : String → Option LightState) (now : ℚ) :
    TimersOwned (Engine.new lightMappings states now) where
  paused := Owns.empty _
  grace := Owns.empty _
  deadline := fun _ _ pending => by cases pending
  handle := rfl
  fresh := fun _ _ => rfl
  exclusive := fun _ => rfl
  unreleased := fun _ => ⟨rfl, rfl⟩
  forced := fun now => by cases now

theorem timersOwned {ok : Engine → Event → Prop} {s : Engine} (reached : Reachable machine ok s) :
    TimersOwned s := by
  apply reached.invariant TimersOwned
  · rintro s ⟨lights, states, now, rfl⟩
    exact new_owned _ states now
  · intro s event t owned _ step
    exact owned.step (step_move step)

/-- Exactly one timer is pending for the action. -/
def OnePending (s : Engine) (action : TimerAction) : Prop := ∃! timer, Pending s.timers action timer

def NonePending (s : Engine) (action : TimerAction) : Prop := ∀ timer, ¬Pending s.timers action timer

theorem Owns.one {s : Engine} {action : TimerAction} {timer : TimerId}
    (owns : Owns s.timers action (some timer)) : OnePending s action :=
  ⟨timer, (owns timer).mpr rfl, fun _ pending => (Option.some.inj ((owns _).mp pending)).symm⟩

theorem Owns.no {s : Engine} {action : TimerAction} (owns : Owns s.timers action none) :
    NonePending s action := by
  intro timer pending
  have held := (owns timer).mp pending
  cases held

/-- What a caller can rely on of pause and release. -/
structure WellFormed (s : Engine) : Prop where
  exclusive : ¬(s.releasing = true ∧ s.pausedUntil ≠ none)
  paused : s.pausedUntil ≠ none → OnePending s .pauseExpired
  unpaused : s.pausedUntil = none → NonePending s .pauseExpired
  unreleased : s.releasing = false → NonePending s .releaseGraceExpired
  releasing : s.releasing = true → OnePending s .releaseGraceExpired ∨ (s.releaseForcing = true ∧ s.active = true)
  forcing : s.releaseForcing = true → s.releasing = true

theorem TimersOwned.wellFormed {s : Engine} (owned : TimersOwned s) : WellFormed s where
  exclusive := fun ⟨releasing, paused⟩ => paused (owned.exclusive releasing)
  paused := by
    intro paused
    have handle := owned.handle
    rw [Option.isSome_iff_ne_none.mpr paused] at handle
    obtain ⟨timer, found⟩ := Option.isSome_iff_exists.mp handle.symm
    have owns := owned.paused
    rw [found] at owns
    exact owns.one
  unpaused := by
    intro unpaused
    have handle := owned.handle
    rw [unpaused] at handle
    have owns := owned.paused
    rw [Option.isNone_iff_eq_none.mp (Option.isSome_eq_false_iff.mp handle.symm)] at owns
    exact owns.no
  unreleased := by
    intro unreleased
    have owns := owned.grace
    rw [(owned.unreleased unreleased).1] at owns
    exact owns.no
  releasing := by
    intro releasing
    cases found : s.releaseCancel with
    | none => exact .inr (owned.forced releasing found)
    | some timer =>
      have owns := owned.grace
      rw [found] at owns
      exact .inl owns.one
  forcing := by
    intro forcing
    by_contra off
    have idle := (owned.unreleased (by simpa using off)).2
    rw [forcing] at idle
    cases idle

/-- An effective `pause` or any `release`: the step that begins a suppression. -/
def Suppresses (s : Engine) : Event → Prop
  | .pause _ => s.releasing = false
  | .release _ => True
  | _ => False

instance (s : Engine) : (event : Event) → Decidable (Suppresses s event)
  | .pause _ => inferInstanceAs (Decidable (s.releasing = false))
  | .release _ => .isTrue trivial
  | .frame _ | .command .. | .snapshot | .restore | .resume | .fire _ | .drain .. | .drained _ | .reproduced ..
  | .tick _ | .setState .. => .isFalse not_false

/-- Timer numbers are never used again: below the next one, what is not pending stays so. -/
theorem gone_step {s t : Engine} {event : Event} (move : Move s event t) {timer : TimerId}
    (used : timer < s.nextTimer) (gone : s.timers timer = none) :
    timer < t.nextTimer ∧ t.timers timer = none := by
  have other : timer ≠ s.nextTimer := Nat.ne_of_lt used
  have later : timer < s.nextTimer + 1 := Nat.lt_succ_of_lt used
  cases move with
  | frame wrote held same => exact ⟨used, gone⟩
  | commandKept rejected => exact ⟨used, gone⟩
  | commandJoined accepted running => exact ⟨used, gone⟩
  | commandStarted accepted idle notices => exact ⟨used, gone⟩
  | snapshotKept closed => exact ⟨used, gone⟩
  | snapshotJoined unholds notices running =>
    cases unholds with
    | release releasing notices => exact ⟨used, cancelTimer_none _ gone⟩
    | fresh unreleased inactive => exact ⟨used, gone⟩
  | snapshotStarted unholds notices idle notices' =>
    cases unholds with
    | release releasing notices => exact ⟨used, cancelTimer_none _ gone⟩
    | fresh unreleased inactive => exact ⟨used, gone⟩
  | restoreKept inactive => exact ⟨used, gone⟩
  | restoreSuspended active waits notices => exact ⟨used, cancelTimer_none _ gone⟩
  | restoreTook active free notices notices' => exact ⟨used, cancelTimer_none _ gone⟩
  | pauseKept releasing => exact ⟨used, gone⟩
  | paused unreleased notices =>
    exact ⟨later, (Function.update_of_ne other _ _).trans (cancelTimer_none _ gone)⟩
  | resumeKept => exact ⟨used, gone⟩
  | resumed unreleased notices => exact ⟨used, cancelTimer_none _ gone⟩
  | released notices =>
    exact ⟨later, (Function.update_of_ne other _ _).trans (cancelTimer_none _ (cancelTimer_none _ gone))⟩
  | @pauseExpired fired due entries pending notices => exact ⟨used, cancelTimer_none (some fired) gone⟩
  | @graceStale fired due pending unreleased => exact ⟨used, cancelTimer_none (some fired) gone⟩
  | @graceEnded fired due entries pending releasing inactive notices =>
    exact ⟨used, cancelTimer_none (some fired) gone⟩
  | @graceForced fired due entries pending releasing active notices =>
    exact ⟨used, cancelTimer_none (some fired) gone⟩
  | drain move =>
    obtain ⟨_, _, _, _, _, _, rfl⟩ := move.frame
    exact ⟨used, gone⟩
  | drained found finished notices => exact ⟨used, gone⟩
  | reproduced found => exact ⟨used, gone⟩
  | tick forward => exact ⟨used, gone⟩
  | setState => exact ⟨used, gone⟩

/-- A suppression that begins drops every timer that was pending. -/
theorem suppresses_drops {s t : Engine} {event : Event} (owned : TimersOwned s)
    (suppresses : Suppresses s event) (move : Move s event t) {timer : TimerId}
    (pending : s.timers timer ≠ none) : timer < t.nextTimer ∧ t.timers timer = none := by
  have used : timer < s.nextTimer := by
    by_contra later
    exact pending (owned.fresh timer (Nat.le_of_not_lt later))
  have other : timer ≠ s.nextTimer := Nat.ne_of_lt used
  have later : timer < s.nextTimer + 1 := Nat.lt_succ_of_lt used
  have unowned : ∀ timers : TimerId → Option Timer, Owns timers .pauseExpired none →
      Owns timers .releaseGraceExpired none → timers timer = none := by
    intro timers paused grace
    rcases found : timers timer with _ | ⟨_ | _, due⟩
    · rfl
    · have held := (paused timer).mp ⟨due, found⟩
      cases held
    · have held := (grace timer).mp ⟨due, found⟩
      cases held
  cases move with
  | paused unreleased notices =>
    refine ⟨later, (Function.update_of_ne other _ _).trans (unowned _ owned.paused.cancelled ?_)⟩
    have grace := owned.paused.other owned.grace (by decide)
    rw [(owned.unreleased unreleased).1] at grace
    exact grace
  | released notices =>
    have grace := owned.paused.other owned.grace (by decide)
    refine ⟨later, (Function.update_of_ne other _ _).trans (unowned _ ?_ (Owns.cancelled grace))⟩
    exact Owns.other grace owned.paused.cancelled (by decide)
  | pauseKept releasing =>
    have unreleased : s.releasing = false := suppresses
    rw [unreleased] at releasing
    cases releasing
  | _ => exact suppresses.elim

/-- In every reachable state pause and release are well formed. A timer from before an effective
pause or a release never fires after it, and pause and resume change nothing about a release. -/
theorem pauseRelease_wellFormed {s : Engine} (reached : Reachable machine Always s) :
    WellFormed s ∧
    (∀ event t, Suppresses s event → machine.step s event = some t → ∀ timer, s.timers timer ≠ none →
      ∀ events u, Run machine Always t events u → machine.step u (.fire timer) = none) ∧
    (s.releasing = true → ∀ seconds, s.asyncPause seconds = s ∧ s.asyncResume = s) := by
  have owned := timersOwned reached
  refine ⟨owned.wellFormed, ?_, ?_⟩
  · intro event t suppresses step timer pending events u run
    have dropped := suppresses_drops owned suppresses (step_move step) pending
    have gone := run.invariant (fun x => timer < x.nextTimer ∧ x.timers timer = none)
      (fun x event y held _ step => gone_step (step_move step) held.1 held.2) dropped
    change fireTimer u timer = none
    unfold fireTimer
    rw [gone.2]
  · intro releasing seconds
    constructor
    · exact if_pos releasing
    · exact if_pos (by rw [releasing]; rfl)

/-- A pause, a session, and a release whose grace timer is still pending. -/
def releasedSession : List Event := [.pause 2, .snapshot, .release 3]

theorem pauseRelease_wellFormed_releasing : ∃ s, play machine Always lightless releasedSession = some s ∧
    WellFormed s ∧ (∀ t, machine.step s (.release 1) = some t → machine.step t (.fire 1) = none) ∧
    s.asyncPause 5 = s ∧ s.asyncResume = s := by
  obtain ⟨s, played⟩ : ∃ s, play machine Always lightless releasedSession = some s := ⟨_, rfl⟩
  have fields : (play machine Always lightless releasedSession).map
      (fun s => (s.releasing, (s.timers 1).isSome)) = some (true, true) := by decide
  rw [played] at fields
  simp only [Option.map_some, Option.some.injEq, Prod.mk.injEq] at fields
  obtain ⟨releasing, pending⟩ := fields
  have reached : Reachable machine Always s := reachable_of_play ⟨[], _, _, rfl⟩ played
  obtain ⟨formed, dropped, untouched⟩ := pauseRelease_wellFormed reached
  refine ⟨s, played, formed, ?_, untouched releasing 5⟩
  intro t step
  exact dropped (.release 1) t trivial step 1 (Option.isSome_iff_ne_none.mp pending) [] t (.nil t)

end HueEntertainment.PauseRelease
