import HueEntertainment.PauseRelease

/-! What the listeners of the engine were last shown, against what the properties would return now. -/

namespace HueEntertainment.Listeners
open HueEntertainment.Const HueStream LightCommand PyValue Entertainment EngineSteps EngineFrames DrainSteps EngineMoves PauseRelease Runs

/-- What a listener reads when it is called. -/
def pair (s : Engine) : Status × Bool := (s.status, s.isDrivingLights)

/-- What the most recent `_notify` showed. Before the first one it is the pair of an engine that does nothing. -/
def shown : List Obs → Status × Bool
  | [] => (.idle, false)
  | .notified status driving :: _ => (status, driving)
  | _ :: older => shown older

/-- No entry records a notification. -/
def Silent (entries : List Obs) : Prop := ∀ entry ∈ entries, ∀ status driving, entry ≠ .notified status driving

theorem shown_silent {entries log : List Obs} (silent : Silent entries) : shown (entries ++ log) = shown log := by
  induction entries with
  | nil => rfl
  | cons entry rest ih =>
    have later := ih (fun other member => silent other (List.mem_cons_of_mem entry member))
    cases entry with
    | notified status driving => exact absurd rfl (silent _ List.mem_cons_self status driving)
    | _ => exact later

/-- The history has grown without a notification. -/
def Quiet (older log : List Obs) : Prop := ∃ entries, Silent entries ∧ log = entries ++ older

theorem Quiet.refl (log : List Obs) : Quiet log log := ⟨[], fun _ member => absurd member List.not_mem_nil, rfl⟩

theorem Quiet.trans {older mid log : List Obs} (first : Quiet older mid) (second : Quiet mid log) : Quiet older log := by
  obtain ⟨earlier, silent, rfl⟩ := first
  obtain ⟨later, silent', rfl⟩ := second
  refine ⟨later ++ earlier, ?_, (List.append_assoc _ _ _).symm⟩
  intro entry member
  rcases List.mem_append.mp member with member | member
  · exact silent' entry member
  · exact silent entry member

/-- One entry that is no notification. -/
theorem Quiet.one {entry : Obs} (log : List Obs) (other : ∀ status driving, entry ≠ .notified status driving) :
    Quiet log (entry :: log) :=
  ⟨[entry], fun _ member => List.mem_singleton.mp member ▸ other, rfl⟩

theorem Quiet.shown {older log : List Obs} (quiet : Quiet older log) : Listeners.shown log = Listeners.shown older := by
  obtain ⟨entries, silent, rfl⟩ := quiet
  exact shown_silent silent

theorem silent_frame {entries : List Obs} (wrote : FrameEntries entries) : Silent entries := by
  rintro entry member status driving rfl
  rcases wrote _ member with ⟨_, _, other⟩ | ⟨_, _, _, other⟩
  · cases other
  · cases other

theorem silent_sweep {s : Engine} {mapping : ChannelId → LightMapping} {drops : List Obs} {begun : Option Call}
    (sweep : Sweep s mapping drops begun) (drain : DrainId) (now : ℚ) :
    Silent (begunEntries drain begun now ++ drops) := by
  rintro entry member status driving rfl
  rcases List.mem_append.mp member with member | member
  · cases begun with
    | none => cases member
    | some call => cases List.mem_singleton.mp member
  · obtain ⟨_, other, _⟩ := sweep.absent _ member
    cases other

/-- What the two properties are computed from. -/
def flags (s : Engine) := (s.releasing, s.pausedUntil, s.now, s.active, s.drainRunning)

theorem pair_congr {s t : Engine} (releasing : t.releasing = s.releasing) (paused : t.isPaused = s.isPaused)
    (active : t.active = s.active) (running : t.drainRunning = s.drainRunning) : pair t = pair s := by
  unfold pair Engine.status Engine.isDrivingLights Engine.suppressed
  rw [releasing, paused, active, running]

theorem isPaused_congr {s t : Engine} (pausedUntil : t.pausedUntil = s.pausedUntil) (now : t.now = s.now) :
    t.isPaused = s.isPaused := by
  unfold Engine.isPaused
  rw [pausedUntil, now]

theorem pair_of_flags {s t : Engine} (same : flags t = flags s) : pair t = pair s := by
  simp only [flags, Prod.mk.injEq] at same
  obtain ⟨releasing, pausedUntil, now, active, running⟩ := same
  exact pair_congr releasing (isPaused_congr pausedUntil now) active running

theorem pair_paused {s : Engine} (unreleased : s.releasing = false) (paused : s.isPaused = true) :
    pair s = (.paused, false) := by
  simp [pair, Engine.status, Engine.isDrivingLights, Engine.suppressed, unreleased, paused]

theorem isPaused_iff (s : Engine) : s.isPaused = true ↔ ∃ deadline, s.pausedUntil = some deadline ∧ s.now < deadline := by
  unfold Engine.isPaused
  cases s.pausedUntil <;> simp

/-- Neither the properties nor what the listeners were shown have changed. -/
structure Unchanged (s t : Engine) : Prop where
  flags : flags t = flags s
  quiet : Quiet s.log t.log

theorem Unchanged.refl (s : Engine) : Unchanged s s := ⟨rfl, .refl s.log⟩

theorem Unchanged.trans {s mid t : Engine} (first : Unchanged s mid) (second : Unchanged mid t) : Unchanged s t :=
  ⟨second.flags.trans first.flags, first.quiet.trans second.quiet⟩

theorem Unchanged.shown {s t : Engine} (unchanged : Unchanged s t) : Listeners.shown t.log = Listeners.shown s.log :=
  unchanged.quiet.shown

/-- The listeners were shown what the properties return. -/
def Announced (s : Engine) : Prop := shown s.log = pair s

theorem announced_notify (s : Engine) : Announced s.notify := rfl

theorem Announced.of_unchanged {s t : Engine} (announced : Announced s) (unchanged : Unchanged s t) : Announced t :=
  unchanged.shown.trans (announced.trans (pair_of_flags unchanged.flags).symm)

/-- The operation has notified of what it changed, if it changed anything. -/
def Settles (s t : Engine) : Prop := Announced t ∨ Unchanged s t

theorem Settles.after {s mid t : Engine} (unchanged : Unchanged s mid) (settles : Settles mid t) : Settles s t := by
  rcases settles with announced | same
  · exact .inl announced
  · exact .inr (unchanged.trans same)

theorem ensureDrainTask_settles (s : Engine) : Settles s s.ensureDrainTask := by
  unfold Engine.ensureDrainTask
  cases s.drainRunning with
  | true => exact .inr (.refl s)
  | false => exact .inl (announced_notify _)

theorem announced_ensureDrainTask {s : Engine} (announced : Announced s) : Announced s.ensureDrainTask := by
  rcases ensureDrainTask_settles s with settled | unchanged
  · exact settled
  · exact announced.of_unchanged unchanged

theorem handleFrame_unchanged (s : Engine) (data : Bytes) : Unchanged s (s.handleFrame data) := by
  obtain ⟨mapping, wake, stats, lastFrameTime, entries, wrote, same, _⟩ := handleFrame_eq s data
  rw [same]
  exact ⟨rfl, entries, silent_frame wrote, rfl⟩

theorem handleLightCommand_settles (s : Engine) (lightId : Nat) (body : Json) :
    Settles s (s.handleLightCommand lightId body) := by
  rcases handleLightCommand_cases s lightId body with ⟨_, same⟩ | ⟨slot, _, same⟩
  · rw [same]
    exact .inr (.refl s)
  · rw [same]
    have unchanged : Unchanged s (queued s lightId slot) := ⟨rfl, .one s.log nofun⟩
    exact (ensureDrainTask_settles _).after unchanged

theorem announced_beginSession (s : Engine) : Announced s.beginSession :=
  announced_ensureDrainTask (announced_notify _)

theorem asyncSnapshotLights_settles (s : Engine) : Settles s s.asyncSnapshotLights := by
  rcases asyncSnapshotLights_cases s with ⟨_, same⟩ | ⟨_, same⟩ | ⟨_, _, same⟩
  · rw [same]
    exact .inr (.refl s)
  · rw [same]
    exact .inl (announced_beginSession _)
  · rw [same]
    exact .inl (announced_beginSession _)

/-- What follows the notification in `async_restore_lights` changes neither property. -/
theorem takeSaved_unchanged (s : Engine) (teardown : TeardownId) :
    Unchanged (Engine.notify { s with drainRunning := false }) (s.takeSaved teardown) := by
  obtain ⟨_, _, _, _, _, savedStates⟩ := s
  rcases savedStates with _ | ⟨session, _ | ⟨first, rest⟩⟩
  · exact ⟨rfl, [.flushed, .savedTaken teardown none], by simp [Silent], rfl⟩
  · exact ⟨rfl, [.flushed, .savedTaken teardown (some ⟨session, []⟩)], by simp [Silent], rfl⟩
  · exact ⟨rfl, [.reproduceBegun teardown ⟨session, first :: rest⟩, .flushed,
      .savedTaken teardown (some ⟨session, first :: rest⟩)], by simp [Silent], rfl⟩

theorem announced_takeSaved (s : Engine) (teardown : TeardownId) : Announced (s.takeSaved teardown) :=
  (announced_notify _).of_unchanged (takeSaved_unchanged s teardown)

theorem asyncPause_settles (s : Engine) (seconds : ℚ) : Settles s (s.asyncPause seconds) := by
  unfold Engine.asyncPause
  cases s.releasing with
  | true => exact .inr (.refl s)
  | false => exact .inl rfl

theorem asyncResume_settles (s : Engine) : Settles s s.asyncResume := by
  unfold Engine.asyncResume
  cases s.releasing || s.pausedUntil.isNone with
  | true => exact .inr (.refl s)
  | false => exact .inl (announced_notify _)

theorem announced_asyncRelease (s : Engine) (seconds : ℚ) : Announced (s.asyncRelease seconds) := rfl

theorem onReleaseGraceExpired_settles (s : Engine) : Settles s s.onReleaseGraceExpired := by
  obtain ⟨_, _, _, _, active, _, _, _, _, _, _, releasing⟩ := s
  cases releasing with
  | false => exact .inr ⟨rfl, .refl _⟩
  | true =>
    cases active with
    | false => exact .inl rfl
    | true => exact .inl rfl

theorem setDrain_unchanged (s : Engine) (drain : DrainId) (pc : DrainPc) : Unchanged s (s.setDrain drain pc) :=
  ⟨rfl, .refl s.log⟩

theorem scan_unchanged (s : Engine) (drain : DrainId) (channels : List ChannelId) :
    Unchanged s (s.scan drain channels).1 := by
  obtain ⟨mapping, stats, drops, sweep, same⟩ := scan_eq drain channels s
  rw [same]
  exact ⟨rfl, _, silent_sweep sweep drain s.now, (List.append_assoc _ _ _).symm⟩

/-- A drain step that ends its loop says so, and no other drain step changes anything for the listeners. -/
def Finishes (s t : Engine) : Prop :=
  Unchanged s t ∨ ∃ mid, Unchanged { s with drainRunning := false } mid ∧ t = mid.notify

theorem drainFinally_finishes {s mid : Engine} (unchanged : Unchanged s mid) (drain : DrainId) :
    Finishes s (mid.drainFinally drain) := by
  refine .inr ⟨{ mid.setDrain drain .done with drainRunning := false }, ⟨?_, unchanged.quiet⟩, rfl⟩
  have same := unchanged.flags
  simp only [flags, Prod.mk.injEq] at same ⊢
  exact ⟨same.1, same.2.1, same.2.2.1, same.2.2.2.1, trivial⟩

theorem Finishes.after {s mid t : Engine} (unchanged : Unchanged s mid) (finishes : Finishes mid t) : Finishes s t := by
  rcases finishes with same | ⟨ended, kept, rfl⟩
  · exact .inl (unchanged.trans same)
  · refine .inr ⟨ended, ⟨?_, unchanged.quiet.trans kept.quiet⟩, rfl⟩
    have first := unchanged.flags
    have second := kept.flags
    simp only [flags, Prod.mk.injEq] at first second ⊢
    rw [second.1, second.2.1, second.2.2.1, second.2.2.2.1, second.2.2.2.2]
    exact ⟨first.1, first.2.1, first.2.2.1, first.2.2.2.1, rfl⟩

theorem drainPass_finishes (s : Engine) (drain : DrainId) (idleSince : Option ℚ) :
    Finishes s (s.drainPass drain idleSince) := by
  have cleared : Unchanged s { s with wake := false } := ⟨rfl, .refl s.log⟩
  have swept := cleared.trans (scan_unchanged { s with wake := false } drain s.channels)
  unfold Engine.drainPass
  rcases found : Engine.scan { s with wake := false } drain s.channels with ⟨next, _ | ⟨call, rest⟩⟩
  · rw [found] at swept
    have waits : ∀ since, Finishes s (next.setDrain drain (.waiting since)) :=
      fun since => .inl (swept.trans (setDrain_unchanged next drain _))
    simp only []
    cases next.active with
    | true => exact waits _
    | false =>
      cases idleSince with
      | none => exact waits _
      | some since =>
        by_cases finished : classicDrainIdle < next.now - since
        · simp only [Bool.false_eq_true, ↓reduceIte, if_pos finished]
          exact drainFinally_finishes swept drain
        · simp only [Bool.false_eq_true, ↓reduceIte, if_neg finished]
          exact waits _
  · rw [found] at swept
    exact .inl (swept.trans (setDrain_unchanged next drain _))

theorem drainAfterCall_finishes (s : Engine) (drain : DrainId) (rest : List ChannelId) :
    Finishes s (s.drainAfterCall drain rest) := by
  have swept := scan_unchanged s drain rest
  unfold Engine.drainAfterCall
  rcases found : s.scan drain rest with ⟨next, _ | ⟨call, later⟩⟩
  · rw [found] at swept
    exact (drainPass_finishes next drain none).after swept
  · rw [found] at swept
    exact .inl (swept.trans (setDrain_unchanged next drain _))

theorem drainStep_finishes {s t : Engine} {drain : DrainId} {outcome : Outcome}
    (stepped : s.drainStep drain outcome = some t) : Finishes s t := by
  have noted : ∀ call outcome, Unchanged s (s.observe (.callEnded drain call outcome)) :=
    fun _ _ => ⟨rfl, .one s.log nofun⟩
  unfold Engine.drainStep at stepped
  rcases found : s.drains drain with _ | ⟨pc, cancelling⟩
  · simp [found] at stepped
  · cases cancelling with
    | true =>
      cases pc with
      | created =>
        simp only [found, Option.some.injEq] at stepped
        exact stepped ▸ .inl (setDrain_unchanged s drain _)
      | calling call rest =>
        simp only [found, Option.some.injEq] at stepped
        exact stepped ▸ drainFinally_finishes (noted _ _) drain
      | waiting idleSince =>
        simp only [found, Option.some.injEq] at stepped
        exact stepped ▸ drainFinally_finishes (.refl s) drain
      | done => simp [found] at stepped
    | false =>
      cases pc with
      | created =>
        simp only [found, Option.some.injEq] at stepped
        exact stepped ▸ drainPass_finishes s drain none
      | calling call rest =>
        by_cases finished : outcome = .returned ∨ outcome = .raised
        · simp only [found, if_pos finished, Option.some.injEq] at stepped
          exact stepped ▸ (drainAfterCall_finishes _ drain rest).after (noted _ _)
        · simp [found, if_neg finished] at stepped
      | waiting idleSince =>
        simp only [found, Option.some.injEq] at stepped
        exact stepped ▸ drainPass_finishes s drain idleSince
      | done => simp [found] at stepped

theorem Finishes.settles {s t : Engine} (finishes : Finishes s t) : Settles s t := by
  rcases finishes with unchanged | ⟨mid, _, rfl⟩
  · exact .inr unchanged
  · exact .inl (announced_notify mid)

theorem fireTimer_settles {s t : Engine} {timer : TimerId} (fired : fireTimer s timer = some t) : Settles s t := by
  have cancelled : Unchanged s (s.cancelTimer (some timer)) := ⟨rfl, .refl s.log⟩
  rcases fireTimer_cases fired with ⟨due, pending, rfl⟩ | ⟨due, pending, rfl⟩
  · exact .inl (announced_notify _)
  · exact (onReleaseGraceExpired_settles _).after cancelled

/-- The deadline of a pause has passed, and its timer has not fired. -/
def Overdue (s : Engine) : Prop :=
  ∃ deadline timer, s.pausedUntil = some deadline ∧ deadline ≤ s.now ∧ Pending s.timers .pauseExpired timer

/-- The listeners were last shown what the properties return now, or a pause whose timer is late. -/
def Current (s : Engine) : Prop := shown s.log = pair s ∨ (Overdue s ∧ shown s.log = (.paused, false))

/-- A pause has a timer, so an expired one that is still held waits for that. -/
theorem overdue_of_deadline {s : Engine} (owned : TimersOwned s) {deadline : ℚ}
    (held : s.pausedUntil = some deadline) (passed : deadline ≤ s.now) : Overdue s := by
  have handle := owned.handle
  rw [held] at handle
  obtain ⟨timer, named⟩ := Option.isSome_iff_exists.mp handle.symm
  exact ⟨deadline, timer, held, passed, (owned.paused timer).mpr named⟩

theorem Overdue.unpaused {s : Engine} (overdue : Overdue s) : s.isPaused = false := by
  obtain ⟨deadline, _, held, passed, _⟩ := overdue
  unfold Engine.isPaused
  rw [held]
  exact decide_eq_false (not_lt.mpr passed)

theorem Current.settles {s t : Engine} (current : Current s) (owned : TimersOwned t) (settles : Settles s t) :
    Current t := by
  rcases settles with announced | unchanged
  · exact .inl announced
  · rcases current with same | ⟨⟨deadline, _, held, passed, _⟩, shows⟩
    · exact .inl (Announced.of_unchanged same unchanged)
    · have flags := unchanged.flags
      simp only [Listeners.flags, Prod.mk.injEq] at flags
      obtain ⟨_, pausedUntil, now, _⟩ := flags
      exact .inr ⟨overdue_of_deadline owned (pausedUntil.trans held) (now ▸ passed), unchanged.shown.trans shows⟩

/-- As time passes a pause runs out, which its timer has yet to announce. -/
theorem Current.tick {s : Engine} {elapsed : ℚ} (current : Current s) (owned : TimersOwned s) (forward : 0 ≤ elapsed) :
    Current { s with now := s.now + elapsed } := by
  have later : s.now ≤ s.now + elapsed := le_add_of_nonneg_right forward
  have keeps : TimersOwned { s with now := s.now + elapsed } := owned.of_same rfl (fun _ active => active)
  rcases current with same | ⟨⟨deadline, timer, held, passed, pending⟩, shows⟩
  · by_cases unmoved : ({ s with now := s.now + elapsed } : Engine).isPaused = s.isPaused
    · have kept : pair { s with now := s.now + elapsed } = pair s := pair_congr rfl unmoved rfl rfl
      exact .inl (same.trans kept.symm)
    · -- a pause cannot begin by waiting, so this one has ended
      have before : s.isPaused = true := by
        by_contra unpaused
        refine unmoved ((eq_false_of_ne_true ?_).trans (eq_false_of_ne_true unpaused).symm)
        intro paused
        obtain ⟨deadline, held, ahead⟩ := (isPaused_iff _).mp paused
        exact unpaused ((isPaused_iff s).mpr ⟨deadline, held, later.trans_lt ahead⟩)
      obtain ⟨deadline, held, _⟩ := (isPaused_iff s).mp before
      have unreleased : s.releasing = false := by
        by_contra releasing
        rw [owned.exclusive (by simpa using releasing)] at held
        cases held
      have passed : deadline ≤ s.now + elapsed := by
        by_contra ahead
        have paused : ({ s with now := s.now + elapsed } : Engine).isPaused = true :=
          (isPaused_iff _).mpr ⟨deadline, held, not_le.mp ahead⟩
        exact unmoved (paused.trans before.symm)
      exact .inr ⟨overdue_of_deadline keeps held passed, same.trans (pair_paused unreleased before)⟩
  · exact .inr ⟨⟨deadline, timer, held, passed.trans later, pending⟩, shows⟩

/-- A stop that has to wait for the drain task is announced before that only where a release is resolved
by it. Otherwise nobody is told that the session is over, unless a pause is what they were shown. -/
def Told (s : Engine) : Event → Prop
  | .restore => s.active = true → s.liveDrainTask ≠ none → s.releasing = false → shown s.log = (.paused, false)
  | _ => True

instance (s : Engine) : (event : Event) → Decidable (Told s event)
  | .restore => inferInstanceAs (Decidable (s.active = true → s.liveDrainTask ≠ none → s.releasing = false →
      shown s.log = (.paused, false)))
  | .frame _ | .command .. | .snapshot | .pause _ | .resume | .release _ | .fire _ | .drain .. | .drained _
  | .reproduced .. | .tick _ | .setState .. => .isTrue trivial

theorem pair_active {s : Engine} (active : s.active = true) (unreleased : s.releasing = false) :
    pair s = if s.isPaused then (.paused, false) else (.streaming, true) := by
  cases paused : s.isPaused <;>
    simp [pair, Engine.status, Engine.isDrivingLights, Engine.suppressed, unreleased, paused, active]

theorem pair_inactive {s : Engine} (inactive : s.active = false) : pair s ≠ (.streaming, true) := by
  intro streaming
  have status : s.status = .streaming := congrArg Prod.fst streaming
  unfold Engine.status at status
  rw [inactive] at status
  cases releasing : s.releasing <;> cases paused : s.isPaused <;> cases running : s.drainRunning <;>
    simp [releasing, paused, running] at status

theorem stopSession_shown {s : Engine} (unreleased : s.releasing = false) : shown s.stopSession.log = shown s.log := by
  obtain ⟨_, _, _, _, _, _, _, _, _, _, _, releasing⟩ := s
  subst unreleased
  rfl

theorem announced_stopSession {s : Engine} (releasing : s.releasing = true) : Announced s.stopSession := by
  obtain ⟨_, _, _, _, _, _, _, _, _, _, _, _⟩ := s
  subst releasing
  rfl

/-- A session without a release ends unannounced. What was shown stays right where that is a pause. -/
theorem stopSession_current {s t : Engine} (current : Current s) (owned : TimersOwned t) (active : s.active = true)
    (unreleased : s.releasing = false) (stopped : Unchanged s.stopSession t) :
    Current t ↔ shown s.log = (.paused, false) := by
  obtain ⟨entries, _, closed⟩ := stopSession_eq s
  have shows : shown t.log = shown s.log := stopped.shown.trans (stopSession_shown unreleased)
  have flags := stopped.flags
  rw [closed] at flags
  simp only [Listeners.flags, sessionClosed, Prod.mk.injEq] at flags
  obtain ⟨resolved, pausedUntil, now, inactive, _⟩ := flags
  have streaming := pair_active active unreleased
  constructor
  · intro current
    rcases current with same | ⟨_, paused⟩
    · rcases current with before | ⟨_, paused⟩
      · cases paused : s.isPaused with
        | true => exact before.trans (streaming.trans (by rw [paused]; rfl))
        | false =>
          -- the listeners still see a session that is over
          have stale : shown s.log = (.streaming, true) := before.trans (streaming.trans (by rw [paused]; rfl))
          exact absurd (same.symm.trans (shows.trans stale)) (pair_inactive inactive)
      · exact paused
    · exact shows.symm.trans paused
  · intro paused
    rcases current with before | ⟨⟨deadline, _, held, passed, _⟩, _⟩
    · have still : s.isPaused = true := by
        by_contra running
        rw [paused, streaming, if_neg running] at before
        cases before
      have kept : t.isPaused = true := (isPaused_congr pausedUntil now).trans still
      exact .inl ((shows.trans paused).trans (pair_paused resolved kept).symm)
    · exact .inr ⟨overdue_of_deadline owned (pausedUntil.trans held) (now ▸ passed), shows.trans paused⟩

theorem asyncRestoreLights_current {s : Engine} (current : Current s) (owned : TimersOwned s.asyncRestoreLights) :
    Current s.asyncRestoreLights ↔ Told s .restore := by
  unfold Engine.asyncRestoreLights at owned ⊢
  by_cases active : s.active = true
  · rw [if_pos active] at owned ⊢
    unfold Engine.leaveDrain at owned ⊢
    have task : s.stopSession.liveDrainTask = s.liveDrainTask := by
      obtain ⟨entries, _, closed⟩ := stopSession_eq s
      rw [closed]
      rfl
    rw [task] at owned ⊢
    cases live : s.liveDrainTask with
    | none => exact iff_of_true (.inl (announced_takeSaved _ _)) (fun _ some => absurd live some)
    | some drain =>
      rw [live] at owned
      have suspended : Unchanged s.stopSession
          ((s.stopSession.cancelDrain drain).setTeardown s.nextTeardown (.awaitingDrain drain)) := ⟨rfl, .refl _⟩
      by_cases releasing : s.releasing = true
      · refine iff_of_true (.inl ((announced_stopSession releasing).of_unchanged suspended)) ?_
        intro _ _ unreleased
        rw [releasing] at unreleased
        cases unreleased
      · have unreleased : s.releasing = false := by simpa using releasing
        rw [stopSession_current current owned active unreleased suspended]
        exact ⟨fun paused _ _ _ => paused, fun told => told active (by simp [live]) unreleased⟩
  · rw [if_neg active]
    exact iff_of_true current (fun now => absurd now active)

/-- Every other step announces what it changes. -/
theorem current_step {s t : Engine} {event : Event} (reached : Reachable machine Always s) (current : Current s)
    (stepped : machine.step s event = some t) : Current t ↔ Told s event := by
  have owned := timersOwned (reached.step trivial stepped)
  have settled : Settles s t → Current t := fun settles => current.settles owned settles
  change EngineSteps.step s event = some t at stepped
  cases event with
  | frame data =>
    cases stepped
    exact iff_of_true (settled (.inr (handleFrame_unchanged s data))) trivial
  | command lightId body =>
    cases stepped
    exact iff_of_true (settled (handleLightCommand_settles s lightId body)) trivial
  | snapshot =>
    cases stepped
    exact iff_of_true (settled (asyncSnapshotLights_settles s)) trivial
  | restore =>
    cases stepped
    exact asyncRestoreLights_current current owned
  | pause seconds =>
    cases stepped
    exact iff_of_true (settled (asyncPause_settles s seconds)) trivial
  | resume =>
    cases stepped
    exact iff_of_true (settled (asyncResume_settles s)) trivial
  | release seconds =>
    cases stepped
    exact iff_of_true (.inl (announced_asyncRelease s seconds)) trivial
  | fire timer => exact iff_of_true (settled (fireTimer_settles stepped)) trivial
  | drain drain outcome => exact iff_of_true (settled (drainStep_finishes stepped).settles) trivial
  | drained teardown =>
    obtain ⟨drain, found, finished, rfl⟩ := drainedStep_cases stepped
    exact iff_of_true (.inl (announced_takeSaved _ _)) trivial
  | reproduced teardown outcome =>
    obtain ⟨saved, found, rfl⟩ := reproducedStep_cases stepped
    exact iff_of_true (settled (.inr ⟨rfl, .one s.log nofun⟩)) trivial
  | tick elapsed =>
    obtain ⟨forward, rfl⟩ := tick_cases stepped
    exact iff_of_true (current.tick (timersOwned reached) forward) trivial
  | setState entityId state =>
    cases stepped
    exact iff_of_true (settled (.inr ⟨rfl, .refl s.log⟩)) trivial

/-- The listeners are current in every state of a run exactly when none of its stops waits for the drain
task of a session that neither a release nor a shown pause covers. -/
theorem listeners_exact {s t : Engine} {events : List Event} (start : machine.Start s)
    (run : Run machine Always s events t) : Throughout machine Current s events ↔ Run machine Told s events t := by
  refine run.throughout_iff (fun x event y reached current stepped => current_step reached current stepped)
    ⟨s, [], start, .nil s⟩ ?_
  obtain ⟨lights, states, now, rfl⟩ := start
  exact .inl rfl

/-- A session that is released and then stopped. -/
def releasedStop : List Event :=
  [.snapshot, .drain 0 .returned, .release 5, .restore, .drain 0 .cancelled, .drained 0]

theorem listeners_exact_releasedStop : Throughout machine Current lightless releasedStop := by
  have played : (play machine Told lightless releasedStop).isSome = true := by decide +kernel
  obtain ⟨t, play⟩ := Option.isSome_iff_exists.mp played
  have told := run_of_play _ _ _ play
  have run : Run machine Always lightless releasedStop t := told.mono (fun _ _ _ => trivial)
  exact (listeners_exact ⟨[], _, _, rfl⟩ run).mpr told

/-- A session without lights is stopped while its drain loop waits for work: until that task is done the
properties say `classic`, and the listeners still see `streaming`. -/
theorem stop_unannounced : ∃ t, Reachable machine Always t ∧ shown t.log = (.streaming, true) ∧
    pair t = (.classic, true) ∧ ¬Current t := by
  have played : (play machine Always lightless [.snapshot, .drain 0 .returned, .restore]).any
      (fun t => shown t.log = (.streaming, true) && pair t = (.classic, true)) = true := by
    decide +kernel
  obtain ⟨t, play, facts⟩ := (Option.any_eq_true _ _).mp played
  simp only [Bool.and_eq_true, decide_eq_true_eq] at facts
  obtain ⟨shows, now⟩ := facts
  refine ⟨t, reachable_of_play ⟨[], _, _, rfl⟩ play, shows, now, ?_⟩
  intro current
  rcases current with same | ⟨_, paused⟩
  · rw [shows, now] at same
    cases same
  · rw [shows] at paused
    cases paused

end HueEntertainment.Listeners
