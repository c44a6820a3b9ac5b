import HueEntertainment.EngineHistory
import HueEntertainment.PauseRelease

/-! While a pause or a release holds, the drain loops have nothing to send: both flush every slot
when they begin, and no frame and no command writes one until they end. -/

namespace HueEntertainment.Suppression
open HueStream LightCommand PyValue Entertainment EngineSteps EngineFrames DrainSteps EngineMoves
  EngineHistory PauseRelease Runs

/-- The steps that end a suppression: a resume, the deadline or the timer of a pause; a new session,
a restore or the grace timer of a release. -/
def Ends (s : Engine) : Event → Prop
  | .resume => s.releasing = false ∧ s.pausedUntil ≠ none
  | .tick elapsed =>
      s.releasing = false ∧ ∃ deadline, s.pausedUntil = some deadline ∧ deadline ≤ s.now + elapsed
  | .fire timer =>
      (s.releasing = false ∧ Pending s.timers .pauseExpired timer) ∨
        (s.releasing = true ∧ s.active = false ∧ Pending s.timers .releaseGraceExpired timer)
  | .snapshot => s.releasing = true
  | .restore => s.releasing = true ∧ s.active = true
  | _ => False

theorem resolvedSeconds_pos (seconds : ℚ) : 0 < Engine.resolvedSeconds seconds := by
  unfold Engine.resolvedSeconds
  split
  next positive => exact positive
  next => norm_num [Const.defaultYieldSeconds]

/-- A step leaves an engine suppressed only if it was before, or begins the suppression and
flushes every slot; and then a slot that is dirty was dirty before. -/
structure Quiet (s : Engine) (event : Event) (t : Engine) : Prop where
  begun : t.suppressed = true → s.suppressed = true ∨ Suppresses s event
  dirty : t.suppressed = true → ∀ channelId, (t.mapping channelId).dirty = true →
    (s.mapping channelId).dirty = true ∧ s.suppressed = true

theorem Quiet.flushed {s t : Engine} {event : Event}
    (begun : t.suppressed = true → s.suppressed = true ∨ Suppresses s event)
    (clean : ∀ channelId, (t.mapping channelId).dirty = false) : Quiet s event t where
  begun := begun
  dirty := by
    intro _ channelId dirty
    rw [clean channelId] at dirty
    cases dirty

theorem Quiet.kept {s t : Engine} {event : Event} (less : t.suppressed = true → s.suppressed = true)
    (same : t.mapping = s.mapping) : Quiet s event t where
  begun := fun suppressed => .inl (less suppressed)
  dirty := by
    intro suppressed channelId dirty
    rw [same] at dirty
    exact ⟨dirty, less suppressed⟩

theorem Quiet.free {s t : Engine} {event : Event} (free : s.suppressed = false)
    (same : t.suppressed = s.suppressed) : Quiet s event t where
  begun := by
    intro suppressed
    rw [same, free] at suppressed
    cases suppressed
  dirty := by
    intro suppressed
    rw [same, free] at suppressed
    cases suppressed

theorem quiet_step {s t : Engine} {event : Event} (move : Move s event t) : Quiet s event t := by
  cases move with
  | @frame data mapping wake stats last entries wrote held same =>
    by_cases suppressed : s.suppressed = true
    · exact .kept (fun _ => suppressed) (held suppressed).1
    · exact .free (by simpa using suppressed) rfl
  | commandKept rejected => exact .kept id rfl
  | commandJoined accepted running => exact .free accepted.1 rfl
  | commandStarted accepted idle notices => exact .free accepted.1 rfl
  | snapshotKept closed => exact .kept id rfl
  | snapshotJoined unholds notices running =>
    refine .flushed (fun suppressed => .inl ?_) (fun _ => rfl)
    exact suppressed_of_less suppressed (fun _ same => same) le_rfl (fun now => by cases now)
  | snapshotStarted unholds notices idle notices' =>
    refine .flushed (fun suppressed => .inl ?_) (fun _ => rfl)
    exact suppressed_of_less suppressed (fun _ same => same) le_rfl (fun now => by cases now)
  | restoreKept inactive => exact .kept id rfl
  | restoreSuspended active waits notices =>
    exact .kept (fun suppressed => suppressed_of_less suppressed (fun _ same => same) le_rfl (fun now => by cases now)) rfl
  | restoreTook active free notices notices' =>
    refine .flushed (fun suppressed => .inl ?_) (fun _ => rfl)
    exact suppressed_of_less suppressed (fun _ same => same) le_rfl (fun now => by cases now)
  | pauseKept releasing => exact .kept id rfl
  | paused unreleased notices => exact .flushed (fun _ => .inr unreleased) (fun _ => rfl)
  | resumeKept => exact .kept id rfl
  | resumed unreleased notices =>
    exact .kept (fun suppressed => suppressed_of_less suppressed (fun _ none => by cases none) le_rfl id) rfl
  | released notices => exact .flushed (fun _ => .inr trivial) (fun _ => rfl)
  | pauseExpired pending notices =>
    exact .kept (fun suppressed => suppressed_of_less suppressed (fun _ none => by cases none) le_rfl id) rfl
  | graceStale pending unreleased => exact .kept id rfl
  | graceEnded pending releasing inactive notices =>
    exact .kept (fun suppressed => suppressed_of_less suppressed (fun _ same => same) le_rfl (fun now => by cases now)) rfl
  | graceForced pending releasing active notices => exact .kept id rfl
  | drain move =>
    cases move with
    | neverEntered found => exact .kept id rfl
    | unwound found live entries notices => exact .kept id rfl
    | @ran pc after mapping stats wake running begun drops entries found live ended sweep leaves =>
      refine ⟨fun suppressed => .inl suppressed, ?_⟩
      intro suppressed channelId dirty
      have kept := sweep.kept dirty
      exact ⟨kept ▸ dirty, suppressed⟩
  | drained found finished notices => exact .flushed (fun suppressed => .inl suppressed) (fun _ => rfl)
  | reproduced found => exact .kept id rfl
  | @tick elapsed forward =>
    refine .kept (fun suppressed => ?_) rfl
    exact suppressed_of_less suppressed (fun _ same => same) (le_add_of_nonneg_right forward) id
  | setState => exact .kept id rfl

/-- No slot waits to be sent. -/
def Clean (s : Engine) : Prop := ∀ channelId, (s.mapping channelId).dirty = false

/-- The invariant: what is suppressed has no dirty slot. -/
theorem clean_of_suppressed {ok : Engine → Event → Prop} {s : Engine} (reached : Reachable machine ok s)
    (suppressed : s.suppressed = true) : Clean s := by
  refine reached.invariant (fun x => x.suppressed = true → Clean x) ?_ ?_ suppressed
  · rintro s ⟨lights, states, now, rfl⟩ held
    cases held
  · intro x event y clean _ step held channelId
    by_contra dirty
    obtain ⟨before, already⟩ := (quiet_step (step_move step)).dirty held channelId (by simpa using dirty)
    rw [clean already channelId] at before
    cases before

theorem begins_suppressed {s t : Engine} {event : Event} (suppresses : Suppresses s event)
    (move : Move s event t) : t.suppressed = true := by
  rw [suppressed_iff]
  cases move with
  | @paused seconds entries unreleased notices =>
    exact .inl ⟨_, rfl, lt_add_of_pos_right _ (resolvedSeconds_pos seconds)⟩
  | released notices => exact .inr rfl
  | pauseKept releasing =>
    have unreleased : s.releasing = false := suppresses
    rw [unreleased] at releasing
    cases releasing
  | _ => exact suppresses.elim

/-- A suppression ends by the steps that end one, and by no other. -/
theorem ends_step {s t : Engine} {event : Event} (move : Move s event t)
    (suppressed : s.suppressed = true) (free : t.suppressed = false) : Ends s event := by
  have kept : ∀ u : Engine, u.suppressed = false → u.pausedUntil = s.pausedUntil → u.now = s.now →
      u.releasing = s.releasing → False := by
    intro u gone paused now releasing
    rw [suppressed_of_same paused now releasing, suppressed] at gone
    cases gone
  have unheld : ∀ u : Engine, u.suppressed = false → u.pausedUntil = s.pausedUntil → u.now = s.now →
      s.releasing = true := by
    intro u gone paused now
    rcases (suppressed_iff s).mp suppressed with ⟨deadline, until_, before⟩ | releasing
    · have still : u.suppressed = true :=
        (suppressed_iff u).mpr (.inl ⟨deadline, paused.trans until_, now.symm ▸ before⟩)
      rw [still] at gone
      cases gone
    · exact releasing
  cases move with
  | frame wrote held same => exact (kept _ free rfl rfl rfl).elim
  | commandKept rejected => exact (kept _ free rfl rfl rfl).elim
  | commandJoined accepted running => exact (kept _ free rfl rfl rfl).elim
  | commandStarted accepted idle notices => exact (kept _ free rfl rfl rfl).elim
  | snapshotKept closed => exact (kept _ free rfl rfl rfl).elim
  | snapshotJoined unholds notices running => exact unheld _ free rfl rfl
  | snapshotStarted unholds notices idle notices' => exact unheld _ free rfl rfl
  | restoreKept inactive => exact (kept _ free rfl rfl rfl).elim
  | restoreSuspended active waits notices => exact ⟨unheld _ free rfl rfl, active⟩
  | restoreTook active idle notices notices' => exact ⟨unheld _ free rfl rfl, active⟩
  | pauseKept releasing => exact (kept _ free rfl rfl rfl).elim
  | @paused seconds entries unreleased notices =>
    have suppresses : Suppresses s (.pause seconds) := unreleased
    have held := begins_suppressed suppresses (.paused unreleased notices)
    rw [held] at free
    cases free
  | resumeKept => exact (kept _ free rfl rfl rfl).elim
  | resumed unreleased notices =>
    refine ⟨unreleased, fun unpaused => ?_⟩
    rcases (suppressed_iff s).mp suppressed with ⟨deadline, until_, _⟩ | releasing
    · rw [until_] at unpaused
      cases unpaused
    · rw [unreleased] at releasing
      cases releasing
  | @released seconds entries notices =>
    have suppresses : Suppresses s (.release seconds) := trivial
    have held := begins_suppressed suppresses (.released notices)
    rw [held] at free
    cases free
  | @pauseExpired timer due entries pending notices =>
    refine .inl ⟨?_, due, pending⟩
    by_contra releasing
    have held : s.releasing = true := by simpa using releasing
    have still := (suppressed_iff (unpaused s (some timer) entries)).mpr (.inr held)
    rw [free] at still
    cases still
  | graceStale pending unreleased => exact (kept _ free rfl rfl rfl).elim
  | graceEnded pending releasing inactive notices => exact .inr ⟨releasing, inactive, _, pending⟩
  | graceForced pending releasing active notices => exact (kept _ free rfl rfl rfl).elim
  | drain move =>
    obtain ⟨_, _, _, _, _, _, rfl⟩ := move.frame
    exact (kept _ free rfl rfl rfl).elim
  | drained found finished notices => exact (kept _ free rfl rfl rfl).elim
  | reproduced found => exact (kept _ free rfl rfl rfl).elim
  | @tick elapsed forward =>
    have still : (∃ deadline, s.pausedUntil = some deadline ∧ s.now + elapsed < deadline) ∨
        s.releasing = true → False := by
      intro held
      have suppressed := (suppressed_iff { s with now := s.now + elapsed }).mpr held
      rw [suppressed] at free
      cases free
    rcases (suppressed_iff s).mp suppressed with ⟨deadline, until_, _⟩ | releasing
    · refine ⟨by simpa using fun releasing => still (.inr releasing), deadline, until_, ?_⟩
      by_contra before
      exact still (.inl ⟨deadline, until_, not_le.mp before⟩)
    · exact (still (.inr releasing)).elim
  | setState => exact (kept _ free rfl rfl rfl).elim

/-- What a run since `s` keeps: the saved states, and every snapshot a teardown reproduces, were
taken by a session that began since. -/
structure SavedSince (s : Engine) (new : List Obs) (x : Engine) : Prop where
  log : x.log = new ++ s.log
  sessions : s.sessions ≤ x.sessions
  begun : ∀ saved, .sessionBegun saved ∈ new → s.sessions < saved.session
  saved : ∀ saved, x.savedStates = some saved → .sessionBegun saved ∈ new
  reproduced : ∀ teardown saved, .reproduceBegun teardown saved ∈ new → .sessionBegun saved ∈ new

theorem SavedSince.step {ok : Engine → Event → Prop} {s x y : Engine} {new : List Obs} {event : Event}
    (since : SavedSince s new x) (reached : Reachable machine ok x) (move : Move x event y) :
    ∃ more, SavedSince s (more ++ new) y := by
  obtain ⟨more, logged, emits⟩ := move_adds move
  have sessions := session_step move
  refine ⟨more, ?_⟩
  constructor
  · rw [logged, since.log, List.append_assoc]
  · have before := since.sessions
    rcases sessions with ⟨_, same, _⟩ | ⟨_, next, _⟩ <;> omega
  · intro saved member
    rcases List.mem_append.mp member with member | member
    · cases emits _ member with
      | sessionBegun opens => exact Nat.lt_succ_of_le since.sessions
    · exact since.begun saved member
  · intro saved found
    rcases sessions with ⟨_, _, same | none⟩ | ⟨_, _, fresh, begun⟩
    · rw [same] at found
      exact List.mem_append_right _ (since.saved saved found)
    · rw [none] at found
      cases found
    · rw [fresh] at found
      obtain rfl := Option.some.inj found
      rw [logged] at begun
      rcases List.mem_append.mp begun with member | member
      · exact List.mem_append_left _ member
      · have bound : x.sessions + 1 ≤ x.sessions := begun_le reached _ member
        omega
  · intro teardown saved member
    rcases List.mem_append.mp member with member | member
    · cases emits _ member with
      | reproduceBegun takes found nonempty => exact List.mem_append_right _ (since.saved saved found)
    · exact List.mem_append_right _ (since.reproduced teardown saved member)

/-- From the step in which a pause or a release begins until it ends, no drain loop begins a light
service call, and the only one in flight is one that was in flight before. It ends only by what ends
one. No teardown reproduces after a release what was saved before it. -/
theorem suppression_safe {s t : Engine} {event : Event} (reached : Reachable machine Always s)
    (suppresses : Suppresses s event) (step : machine.step s event = some t) :
    t.suppressed = true ∧
    (∀ events u, Run machine (fun x _ => x.suppressed = true) t events u →
      ∃ new, u.log = new ++ s.log ∧ (∀ drain call begun, .callBegun drain call begun ∉ new) ∧
        ∀ drain call, InFlight u drain call → InFlight s drain call) ∧
    (∀ u next v, u.suppressed = true → machine.step u next = some v → v.suppressed = false → Ends u next) ∧
    (∀ seconds, event = .release seconds → ∀ events u, Run machine Always t events u →
      ∃ new, u.log = new ++ s.log ∧ ∀ teardown saved, .reproduceBegun teardown saved ∈ new →
        .sessionBegun saved ∈ new ∧ .sessionBegun saved ∉ s.log) := by
  have move := step_move step
  have after : Reachable machine Always t := reached.step trivial step
  refine ⟨begins_suppressed suppresses move, ?_, ?_, ?_⟩
  · intro events u run
    refine run.invariant (fun x => Reachable machine Always x ∧ ∃ new, x.log = new ++ s.log ∧
      (∀ drain call begun, .callBegun drain call begun ∉ new) ∧
      ∀ drain call, InFlight x drain call → InFlight s drain call) ?_ ?_ |>.2
    · rintro x event y ⟨reached, new, logged, none, flying⟩ held step
      have clean := clean_of_suppressed reached held
      obtain ⟨more, logged', emits⟩ := move_adds (step_move step)
      refine ⟨reached.step trivial step, more ++ new, ?_, ?_, ?_⟩
      · rw [logged', logged, List.append_assoc]
      · intro drain call begun member
        rcases List.mem_append.mp member with member | member
        · cases emits _ member with
          | callBegun outcome found live dirty pending same =>
            rw [clean call.channelId] at dirty
            cases dirty
        · exact none drain call begun member
      · intro drain call now
        rcases inFlight_step (step_move step) now with before | dirty
        · exact flying drain call before
        · rw [clean call.channelId] at dirty
          cases dirty
    · obtain ⟨more, logged, emits⟩ := move_adds move
      refine ⟨after, more, logged, ?_, ?_⟩
      · intro drain call begun member
        cases emits _ member with
        | callBegun outcome found live dirty pending same => exact suppresses
      · intro drain call flying
        cases move with
        | paused unreleased notices => exact flying
        | released notices => exact flying
        | pauseKept releasing => exact flying
        | _ => exact suppresses.elim
  · intro u next v suppressed step free
    exact ends_step (step_move step) suppressed free
  · rintro seconds rfl events u run
    obtain ⟨more, logged, emits⟩ := move_adds move
    have since : SavedSince s more t := by
      cases move with
      | @released _ entries notices =>
        refine ⟨logged, le_rfl, ?_, ?_, ?_⟩
        · intro saved member
          cases emits _ member
        · intro saved found
          cases found
        · intro teardown saved member
          cases emits _ member with
          | reproduceBegun takes found nonempty => cases takes
    obtain ⟨_, new, since⟩ := run.invariant
      (fun x => Reachable machine Always x ∧ ∃ new, SavedSince s new x)
      (fun x event y held _ step => by
        obtain ⟨reached, new, since⟩ := held
        obtain ⟨more, next⟩ := since.step reached (step_move step)
        exact ⟨reached.step trivial step, _, next⟩) ⟨after, more, since⟩
    refine ⟨new, since.log, ?_⟩
    intro teardown saved member
    have begun := since.reproduced teardown saved member
    refine ⟨begun, fun old => ?_⟩
    have later := since.begun saved begun
    have earlier := begun_le reached saved old
    omega

/-- A session, its drain loop asleep, and a stop that waits for that loop. -/
def stopping : List Event := [.snapshot, .drain 0 .returned, .restore]

/-- A release that lands while a stop waits for its drain loop. -/
theorem suppression_safe_stopping : ∃ s t, play machine Always oneLight stopping = some s ∧
    machine.step s (.release 2) = some t ∧ t.suppressed = true ∧
    ∀ events u, Run machine Always t events u → ∃ new, u.log = new ++ s.log ∧
      ∀ teardown saved, .reproduceBegun teardown saved ∈ new → .sessionBegun saved ∉ s.log := by
  obtain ⟨s, played⟩ : ∃ s, play machine Always oneLight stopping = some s := ⟨_, rfl⟩
  have reached : Reachable machine Always s := reachable_of_play ⟨_, _, _, rfl⟩ played
  have step : machine.step s (.release 2) = some (s.asyncRelease 2) := rfl
  have suppresses : Suppresses s (.release 2) := trivial
  obtain ⟨suppressed, _, _, released⟩ := suppression_safe reached suppresses step
  refine ⟨s, _, played, step, suppressed, ?_⟩
  intro events u run
  obtain ⟨new, logged, since⟩ := released 2 rfl events u run
  exact ⟨new, logged, fun teardown saved begun => (since teardown saved begun).2⟩

end HueEntertainment.Suppression
