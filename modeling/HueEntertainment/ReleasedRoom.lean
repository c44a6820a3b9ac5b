import HueEntertainment.Listeners

/-! A released room: what the listeners are told of it until somebody drives it again. -/

namespace HueEntertainment.ReleasedRoom
open HueStream LightCommand PyValue Entertainment EngineSteps EngineFrames DrainSteps EngineMoves PauseRelease
  Listeners Runs

/-- The steps before the next session start and before the next command that is accepted. -/
def Undisturbed (s : Engine) : Event → Prop
  | .snapshot => ¬Opens s
  | .command lightId body => ∀ slot, ¬Accepts s lightId body slot
  | _ => True

/-- Since this history no listener has been told that the lights are driven. -/
def Hushed (base log : List Obs) : Prop := ∃ new, log = new ++ base ∧ ∀ status, .notified status true ∉ new

/-- The lights are not reported as driven, nor have they been since this history. -/
def Dark (base : List Obs) (s : Engine) : Prop := s.isDrivingLights = false ∧ Hushed base s.log

theorem Hushed.refl (log : List Obs) : Hushed log log := ⟨[], rfl, fun _ => List.not_mem_nil⟩

theorem Hushed.quiet {base older log : List Obs} (hushed : Hushed base older) (quiet : Quiet older log) :
    Hushed base log := by
  obtain ⟨new, rfl, dark⟩ := hushed
  obtain ⟨entries, silent, rfl⟩ := quiet
  refine ⟨entries ++ new, (List.append_assoc _ _ _).symm, ?_⟩
  intro status member
  rcases List.mem_append.mp member with member | member
  · exact silent _ member status true rfl
  · exact dark status member

theorem Hushed.notify {base : List Obs} {s : Engine} (hushed : Hushed base s.log) (undriven : s.isDrivingLights = false) :
    Hushed base s.notify.log := by
  obtain ⟨new, same, dark⟩ := hushed
  refine ⟨.notified s.status s.isDrivingLights :: new, ?_, ?_⟩
  · rw [Engine.notify_log, same]
    rfl
  · intro status member
    rw [undriven] at member
    rcases List.mem_cons.mp member with told | member
    · cases told
    · exact dark status member

/-- Whoever was told that the lights are driven was told so, whatever comes after it. -/
theorem Hushed.not_lit {base older more : List Obs} {status : Status} (hushed : Hushed base older) :
    ¬Hushed base (more ++ .notified status true :: older) := by
  intro still
  obtain ⟨new, same, dark⟩ := still
  obtain ⟨before, rfl, _⟩ := hushed
  have split : (more ++ .notified status true :: before) ++ base = new ++ base := by
    rw [← same, List.append_assoc, List.cons_append]
  exact dark status (List.append_cancel_right split ▸ List.mem_append_right more List.mem_cons_self)

/-- A release holds, or there is neither a session nor a running drain loop. -/
def Off (s : Engine) : Prop := s.releasing = true ∨ (s.active = false ∧ s.drainRunning = false)

theorem Off.undriven {s : Engine} (off : Off s) : s.isDrivingLights = false := by
  unfold Engine.isDrivingLights Engine.suppressed
  rcases off with releasing | ⟨inactive, idle⟩
  · simp [releasing]
  · simp [inactive, idle]

/-- Nobody has been told that the lights are driven, and nothing drives them. -/
structure Dim (base : List Obs) (s : Engine) : Prop where
  hushed : Hushed base s.log
  off : Off s

section
variable {base : List Obs} {s t : Engine}

theorem Dim.dark (dim : Dim base s) : Dark base s := ⟨dim.off.undriven, dim.hushed⟩

theorem Dim.notify (dim : Dim base s) : Dim base s.notify := ⟨dim.hushed.notify dim.off.undriven, dim.off⟩

theorem Dim.kept (dim : Dim base s) (releasing : t.releasing = s.releasing) (active : t.active = s.active)
    (running : t.drainRunning = s.drainRunning) (quiet : Quiet s.log t.log) : Dim base t := by
  refine ⟨dim.hushed.quiet quiet, ?_⟩
  unfold Off
  rw [releasing, active, running]
  exact dim.off

theorem Dim.unchanged (dim : Dim base s) (unchanged : Unchanged s t) : Dim base t := by
  have same := unchanged.flags
  simp only [flags, Prod.mk.injEq] at same
  exact dim.kept same.1 same.2.2.2.1 same.2.2.2.2 unchanged.quiet

/-- The drain loop ends. -/
theorem Dim.ended (dim : Dim base s) : Dim base { s with drainRunning := false } :=
  ⟨dim.hushed, dim.off.imp_right (fun quiet => ⟨quiet.1, rfl⟩)⟩

theorem Dim.finishes (dim : Dim base s) (finishes : Finishes s t) : Dim base t := by
  rcases finishes with unchanged | ⟨mid, unchanged, rfl⟩
  · exact dim.unchanged unchanged
  · exact (dim.ended.unchanged unchanged).notify

theorem Dim.takeSaved (dim : Dim base s) (teardown : TeardownId) : Dim base (s.takeSaved teardown) :=
  dim.ended.notify.unchanged (takeSaved_unchanged s teardown)

/-- A release puts the lights out of use whatever was going on. -/
theorem Hushed.asyncRelease (hushed : Hushed base s.log) (seconds : ℚ) : Dim base (s.asyncRelease seconds) := by
  have quiet : Quiet s.log (.released :: .flushed :: s.log) :=
    ⟨[.released, .flushed], by simp [Silent], rfl⟩
  have before : Dim base (Engine.observe { s.cancelPause.resetMappings with
      savedStates := none, releasing := true, releaseForcing := false } .released) :=
    ⟨hushed.quiet quiet, .inl rfl⟩
  exact before.notify.kept rfl rfl rfl (.refl _)

theorem Dim.asyncPause (dim : Dim base s) (seconds : ℚ) : Dim base (s.asyncPause seconds) := by
  unfold Engine.asyncPause
  by_cases releasing : s.releasing = true
  · rw [if_pos releasing]
    exact dim
  · rw [if_neg releasing]
    have before : Dim base { s.cancelPause.resetMappings with
        pausedUntil := some (s.now + Engine.resolvedSeconds seconds) } :=
      dim.kept rfl rfl rfl (.one s.log nofun)
    exact before.notify.kept rfl rfl rfl (.refl _)

theorem Dim.asyncResume (dim : Dim base s) : Dim base s.asyncResume := by
  unfold Engine.asyncResume
  by_cases idle : (s.releasing || s.pausedUntil.isNone) = true
  · rw [if_pos idle]
    exact dim
  · rw [if_neg idle]
    have before : Dim base s.cancelPause := dim.kept rfl rfl rfl (.refl s.log)
    exact before.notify

theorem Dim.onPauseExpired (dim : Dim base s) : Dim base s.onPauseExpired := by
  have before : Dim base { s with pausedUntil := none, pauseCancel := none } := dim.kept rfl rfl rfl (.refl s.log)
  exact before.notify

/-- Resolving a release leaves the lights out of use only where no session and no drain loop is left. -/
theorem cancelRelease_dim (hushed : Hushed base s.log) (inactive : s.active = false) (idle : s.drainRunning = false) :
    Dim base s.cancelRelease := by
  have before : Dim base { s.cancelTimer s.releaseCancel with
      releasing := false, releaseForcing := false, releaseCancel := none } := ⟨hushed, .inr ⟨inactive, idle⟩⟩
  unfold Engine.cancelRelease
  cases s.releasing with
  | true => exact before.notify
  | false => exact before

theorem Dim.onReleaseGraceExpired (dim : Dim base s)
    (idle : s.releasing = true → s.active = false → s.drainRunning = false) : Dim base s.onReleaseGraceExpired := by
  have before : Dim base { s with releaseCancel := none } := dim.kept rfl rfl rfl (.refl s.log)
  have whole : s.onReleaseGraceExpired =
      if !s.releasing then { s with releaseCancel := none }
      else if !s.active then Engine.cancelRelease { s with releaseCancel := none }
      else Engine.notify { s with releaseCancel := none, releaseForcing := true } := rfl
  rw [whole]
  by_cases releasing : s.releasing = true
  · rw [if_neg (by simp [releasing])]
    by_cases active : s.active = true
    · rw [if_neg (by simp [active])]
      have forcing : Dim base { s with releaseCancel := none, releaseForcing := true } :=
        before.kept rfl rfl rfl (.refl _)
      exact forcing.notify
    · have inactive : s.active = false := by simpa using active
      rw [if_pos (by simp [inactive])]
      exact cancelRelease_dim before.hushed inactive (idle releasing inactive)
  · rw [if_pos (by simp [releasing])]
    exact before

theorem Dim.asyncRestoreLights (dim : Dim base s)
    (idle : s.active = true → s.releasing = true → s.drainRunning = false) : Dim base s.asyncRestoreLights := by
  unfold Engine.asyncRestoreLights
  by_cases active : s.active = true
  · rw [if_pos active]
    have releasing : s.releasing = true := by
      rcases dim.off with releasing | ⟨inactive, _⟩
      · exact releasing
      · rw [active] at inactive
        cases inactive
    have stopped : Dim base s.stopSession :=
      cancelRelease_dim (dim.hushed.quiet (.one s.log nofun)) rfl (idle active releasing)
    unfold Engine.leaveDrain
    cases s.stopSession.liveDrainTask with
    | none => exact stopped.takeSaved _
    | some drain => exact stopped.kept rfl rfl rfl (.refl _)
  · rw [if_neg active]
    exact dim

end

/-- A step that resolves the release, by stopping its session or at the end of its grace period, does so
after the drain loop has ended. -/
def Rested (s : Engine) : Event → Prop
  | .restore => s.active = true → s.releasing = true → s.drainRunning = false
  | .fire timer => Pending s.timers .releaseGraceExpired timer → s.releasing = true → s.active = false →
      s.drainRunning = false
  | _ => True

theorem Dim.step {base : List Obs} {s t : Engine} {event : Event} (dim : Dim base s)
    (undisturbed : Undisturbed s event) (rested : Rested s event) (stepped : machine.step s event = some t) :
    Dim base t := by
  change EngineSteps.step s event = some t at stepped
  cases event with
  | frame data =>
    cases stepped
    exact dim.unchanged (handleFrame_unchanged s data)
  | command lightId body =>
    cases stepped
    rcases handleLightCommand_cases s lightId body with ⟨_, same⟩ | ⟨slot, accepted, _⟩
    · rw [same]
      exact dim
    · exact absurd accepted (undisturbed slot)
  | snapshot =>
    cases stepped
    rcases asyncSnapshotLights_cases s with ⟨_, same⟩ | ⟨releasing, _⟩ | ⟨_, inactive, _⟩
    · rw [same]
      exact dim
    · exact absurd (.inl releasing) undisturbed
    · exact absurd (.inr inactive) undisturbed
  | restore =>
    cases stepped
    exact dim.asyncRestoreLights rested
  | pause seconds =>
    cases stepped
    exact dim.asyncPause seconds
  | resume =>
    cases stepped
    exact dim.asyncResume
  | release seconds =>
    cases stepped
    exact dim.hushed.asyncRelease seconds
  | fire timer =>
    have cancelled : Dim base (s.cancelTimer (some timer)) := dim.kept rfl rfl rfl (.refl s.log)
    rcases fireTimer_cases stepped with ⟨due, pending, rfl⟩ | ⟨due, pending, rfl⟩
    · exact cancelled.onPauseExpired
    · exact cancelled.onReleaseGraceExpired (rested ⟨due, pending⟩)
  | drain drain outcome => exact dim.finishes (drainStep_finishes stepped)
  | drained teardown =>
    obtain ⟨drain, found, finished, rfl⟩ := drainedStep_cases stepped
    have free : Dim base { s with drainTask := none } := dim.kept rfl rfl rfl (.refl s.log)
    exact free.takeSaved teardown
  | reproduced teardown outcome =>
    obtain ⟨saved, found, rfl⟩ := reproducedStep_cases stepped
    exact dim.kept rfl rfl rfl (.one s.log nofun)
  | tick elapsed =>
    obtain ⟨forward, rfl⟩ := tick_cases stepped
    exact dim.kept rfl rfl rfl (.refl s.log)
  | setState entityId state =>
    cases stepped
    exact dim.kept rfl rfl rfl (.refl s.log)

/-- Resolving a release while the drain loop runs tells the listeners that the lights are driven. -/
theorem cancelRelease_lit {s : Engine} (releasing : s.releasing = true) (unpaused : s.pausedUntil = none)
    (running : s.drainRunning = true) : ∃ status, s.cancelRelease.log = .notified status true :: s.log := by
  obtain ⟨_, _, _, _, active, _, _, _, _, _, _, _⟩ := s
  subst releasing unpaused running
  cases active <;> exact ⟨_, rfl⟩

theorem leaveDrain_grows (s : Engine) (teardown : TeardownId) : ∃ more, (s.leaveDrain teardown).log = more ++ s.log := by
  unfold Engine.leaveDrain
  cases s.liveDrainTask with
  | none =>
    obtain ⟨entries, _, grown⟩ := (takeSaved_unchanged s teardown).quiet
    exact ⟨entries ++ [_], grown.trans (List.append_assoc _ [_] _).symm⟩
  | some drain => exact ⟨[], rfl⟩

/-- A release that is resolved before the drain loop has ended is reported as driven. -/
theorem unrested_step {base : List Obs} {s t : Engine} {event : Event} (dim : Dim base s) (owned : TimersOwned s)
    (unrested : ¬Rested s event) (stepped : machine.step s event = some t) : ¬Dark base t := by
  change EngineSteps.step s event = some t at stepped
  intro darkened
  have hushed := darkened.2
  cases event with
  | restore =>
    cases stepped
    obtain ⟨active, running⟩ := not_forall.mp unrested
    obtain ⟨releasing, running⟩ := not_forall.mp running
    have stopped : s.asyncRestoreLights = s.stopSession.leaveDrain s.nextTeardown := if_pos active
    obtain ⟨status, lit⟩ := cancelRelease_lit (s := Engine.observe { s with active := false, nextTeardown := s.nextTeardown + 1 }
      (.sessionEnded s.nextTeardown s.sessions)) releasing (owned.exclusive releasing) (by simpa using running)
    obtain ⟨more, grown⟩ := leaveDrain_grows s.stopSession s.nextTeardown
    have log : s.asyncRestoreLights.log =
        more ++ .notified status true :: .sessionEnded s.nextTeardown s.sessions :: s.log := by
      rw [stopped, grown]
      exact congrArg (more ++ ·) lit
    have ended : Hushed base (.sessionEnded s.nextTeardown s.sessions :: s.log) :=
      dim.hushed.quiet (.one s.log nofun)
    exact ended.not_lit (log ▸ hushed)
  | fire timer =>
    change fireTimer s timer = some t at stepped
    obtain ⟨⟨due, pending⟩, running⟩ := not_forall.mp unrested
    obtain ⟨releasing, running⟩ := not_forall.mp running
    obtain ⟨inactive, running⟩ := not_forall.mp running
    unfold fireTimer at stepped
    simp only [pending, Option.some.injEq] at stepped
    have resolved : t = Engine.cancelRelease { s.cancelTimer (some timer) with releaseCancel := none } := by
      rw [← stepped]
      unfold Engine.onReleaseGraceExpired
      simp [releasing, inactive]
    obtain ⟨status, lit⟩ := cancelRelease_lit (s := { s.cancelTimer (some timer) with releaseCancel := none })
      releasing (owned.exclusive releasing) (by simpa using running)
    have log : t.log = [] ++ .notified status true :: s.log := resolved ▸ lit
    exact dim.hushed.not_lit (log ▸ hushed)
  | _ => exact unrested trivial

/-- After a release, until a session starts or a command is accepted, the lights are reported as driven in no
state and in no notification exactly when every step that resolves a release finds the drain loop ended. -/
theorem released_exact {s t u : Engine} {seconds : ℚ} {events : List Event} (reached : Reachable machine Always s)
    (released : machine.step s (.release seconds) = some t) (run : Run machine Undisturbed t events u) :
    Throughout machine (Dark s.log) t events ↔ Run machine Rested t events u := by
  have begun : Dim s.log t := by
    cases released
    exact (Hushed.refl s.log).asyncRelease seconds
  exact run.throughout_exact (fun _ dim => dim.dark)
    (fun _ _ _ _ undisturbed dim stepped rested => dim.step undisturbed rested stepped)
    (fun _ _ _ reached _ dim stepped unrested => unrested_step dim (timersOwned reached) unrested stepped)
    (reached.step trivial released) begun

/-- A light is switched on, and the service call is under way. -/
def driving : List Event := [.command 1 (.object [("on", .bool true)]), .drain 0 .returned]

/-- The call returns, the loop waits in vain and ends, and then the grace period is over. -/
def graceAfterLoop : List Event :=
  [.drain 0 .returned, .tick 2, .drain 0 .returned, .tick 2, .drain 0 .returned, .tick 6, .fire 0]

/-- Time passes, loops go on, and timers fire once the loop has ended. -/
def unhurried (s : Engine) : Event → Bool
  | .tick _ | .drain _ _ => true
  | .fire _ => !s.drainRunning
  | _ => false

theorem rested_of_unhurried {s : Engine} {event : Event} (calm : unhurried s event = true) :
    Undisturbed s event ∧ Rested s event := by
  cases event with
  | tick elapsed => exact ⟨trivial, trivial⟩
  | drain drain outcome => exact ⟨trivial, trivial⟩
  | fire timer =>
    rw [unhurried, Bool.not_eq_true'] at calm
    exact ⟨trivial, fun _ _ _ => calm⟩
  | _ => cases calm

/-- A room that a classic command drives is released, up to the end of its grace period. -/
theorem released_exact_drivenRoom : ∃ s t, Reachable machine Always s ∧ s.isDrivingLights = true ∧
    machine.step s (.release 10) = some t ∧ t.drainRunning = true ∧
    Throughout machine (Dark s.log) t graceAfterLoop := by
  have played : (play machine Always oneLight driving).any (fun s => s.isDrivingLights && s.drainRunning &&
      (play machine (fun x event => unhurried x event = true) (s.asyncRelease 10) graceAfterLoop).isSome) = true := by
    decide +kernel
  obtain ⟨s, led, found⟩ := (Option.any_eq_true _ _).mp played
  simp only [Bool.and_eq_true] at found
  obtain ⟨⟨driven, running⟩, rest⟩ := found
  obtain ⟨u, toU⟩ := Option.isSome_iff_exists.mp rest
  have run := run_of_play _ _ _ toU
  have reached : Reachable machine Always s := reachable_of_play ⟨_, _, _, rfl⟩ led
  refine ⟨s, s.asyncRelease 10, reached, driven, rfl, ?_, ?_⟩
  · exact running
  · exact (released_exact reached rfl (run.mono (fun _ _ calm => (rested_of_unhurried calm).1))).mpr
      (run.mono (fun _ _ calm => (rested_of_unhurried calm).2))

/-- A session without lights is released while its drain loop waits for work, then stopped: until that task is
done the room is reported as driven. -/
theorem releasedStop_reported : ∃ s t u, Reachable machine Always s ∧ machine.step s (.release 5) = some t ∧
    Run machine Undisturbed t [.restore] u ∧ u.isDrivingLights = true ∧
    ¬Throughout machine (Dark s.log) t [.restore] := by
  have played : (play machine Always lightless [.snapshot, .drain 0 .returned]).any
      (fun s => (s.asyncRelease 5).asyncRestoreLights.isDrivingLights) = true := by
    decide +kernel
  obtain ⟨s, play, driving⟩ := (Option.any_eq_true _ _).mp played
  refine ⟨s, _, _, reachable_of_play ⟨[], _, _, rfl⟩ play, rfl, .cons trivial rfl (.nil _), driving, ?_⟩
  intro throughout
  have dark := throughout [.restore] [] _ rfl (.cons trivial rfl (.nil _))
  have undriven : (s.asyncRelease 5).asyncRestoreLights.isDrivingLights = false := dark.1
  rw [driving] at undriven
  cases undriven

end HueEntertainment.ReleasedRoom
