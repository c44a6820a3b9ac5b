import HueEntertainment.EngineSteps

/-! What each operation of the engine changes, as one equation for each: the fields it writes, the
entries it adds to the history, and by the form of the equation everything it leaves alone. -/

namespace HueEntertainment.EngineFrames
open HueStream LightCommand PyValue Entertainment EngineSteps

/-- Entries that only record a notification. -/
def Notices (entries : List Obs) : Prop := ∀ entry ∈ entries, ∃ status driving, entry = .notified status driving

theorem Notices.nil : Notices [] := by simp [Notices]

theorem Notices.one (status : Status) (driving : Bool) : Notices [.notified status driving] := by
  intro entry member
  exact ⟨status, driving, List.mem_singleton.mp member⟩

theorem suppressed_iff (s : Engine) : s.suppressed = true ↔
    (∃ deadline, s.pausedUntil = some deadline ∧ s.now < deadline) ∨ s.releasing = true := by
  unfold Engine.suppressed Engine.isPaused
  rw [Bool.or_eq_true]
  cases s.pausedUntil with
  | none => simp
  | some deadline => simp

theorem unreleased_of_unsuppressed {s : Engine} (free : s.suppressed = false) : s.releasing = false :=
  (Bool.or_eq_false_iff.mp free).2

theorem suppressed_of_same {s t : Engine} (paused : t.pausedUntil = s.pausedUntil) (now : t.now = s.now)
    (releasing : t.releasing = s.releasing) : t.suppressed = s.suppressed := by
  unfold Engine.suppressed Engine.isPaused
  rw [paused, now, releasing]

/-- Less of a pause and less of a release is less of a suppression. -/
theorem suppressed_of_less {s t : Engine} (suppressed : t.suppressed = true)
    (paused : ∀ deadline, t.pausedUntil = some deadline → s.pausedUntil = some deadline)
    (now : s.now ≤ t.now) (releasing : t.releasing = true → s.releasing = true) : s.suppressed = true := by
  rw [suppressed_iff] at suppressed ⊢
  rcases suppressed with ⟨deadline, until_, before⟩ | held
  · exact .inl ⟨deadline, paused deadline until_, lt_of_le_of_lt now before⟩
  · exact .inr (releasing held)

theorem unsuppressed_of_less {s t : Engine} (free : s.suppressed = false)
    (paused : ∀ deadline, t.pausedUntil = some deadline → s.pausedUntil = some deadline)
    (now : s.now ≤ t.now) (releasing : t.releasing = true → s.releasing = true) : t.suppressed = false := by
  by_contra suppressed
  have before := suppressed_of_less (by simpa using suppressed) paused now releasing
  rw [free] at before
  cases before

theorem cancelRelease_eq (s : Engine) : ∃ entries, Notices entries ∧ s.cancelRelease =
    { s with
      releasing := false, releaseForcing := false, releaseCancel := none
      timers := (s.cancelTimer s.releaseCancel).timers
      log := entries ++ s.log } := by
  unfold Engine.cancelRelease
  cases wasReleasing : s.releasing with
  | true => exact ⟨_, .one _ _, rfl⟩
  | false => exact ⟨[], .nil, rfl⟩

theorem ensureDrainTask_cases (s : Engine) :
    (s.drainRunning = true ∧ s.ensureDrainTask = s) ∨
    (s.drainRunning = false ∧ ∃ entries, Notices entries ∧ s.ensureDrainTask =
      { s.createDrainTask with drainRunning := true, log := entries ++ s.log }) := by
  unfold Engine.ensureDrainTask
  cases running : s.drainRunning with
  | true => exact .inl ⟨rfl, rfl⟩
  | false => exact .inr ⟨rfl, _, .one _ _, rfl⟩

/-- The fresh snapshot that a start takes in `s`. -/
def freshSnapshot (s : Engine) : Snapshot := ⟨s.sessions + 1, s.lightStates⟩

/-- The engine of a new session, before its drain loop is looked after. -/
def sessionOpened (s : Engine) (entries : List Obs) : Engine :=
  { s with
    savedStates := some (freshSnapshot s), sessions := s.sessions + 1
    mapping := fun channelId => (s.mapping channelId).forget
    active := true, lastFrameTime := s.now
    log := entries ++ .flushed :: .sessionBegun (freshSnapshot s) :: s.log }

theorem beginSession_eq (s : Engine) : ∃ entries, Notices entries ∧
    s.beginSession = (sessionOpened s entries).ensureDrainTask :=
  ⟨_, .one _ _, rfl⟩

/-- The teardown's view of what it took: a call to reproduce it, unless there is nothing to. -/
def afterTaking (teardown : TeardownId) (saved : Option Snapshot) : Teardown × List Obs :=
  match saved with
  | some saved =>
      if saved.states = [] then (.done, []) else (.reproducing saved, [.reproduceBegun teardown saved])
  | none => (.done, [])

theorem takeSaved_eq (s : Engine) (teardown : TeardownId) : ∃ entries, Notices entries ∧
    s.takeSaved teardown =
    { s with
      drainRunning := false, savedStates := none, stats := { fpsTime := s.now }
      mapping := fun channelId => (s.mapping channelId).forget
      teardowns := Function.update s.teardowns teardown (some (afterTaking teardown s.savedStates).1)
      log := (afterTaking teardown s.savedStates).2 ++
        .flushed :: .savedTaken teardown s.savedStates :: (entries ++ s.log) } := by
  obtain ⟨_, _, _, _, _, savedStates⟩ := s
  rcases savedStates with _ | ⟨session, _ | ⟨first, rest⟩⟩
  · exact ⟨_, .one _ _, rfl⟩
  · exact ⟨_, .one _ _, rfl⟩
  · exact ⟨_, .one _ _, rfl⟩

/-- A start that takes a fresh snapshot, instead of keeping the one it has. -/
def Opens (s : Engine) : Prop := s.releasing = true ∨ s.active = false

instance (s : Engine) : Decidable (Opens s) := inferInstanceAs (Decidable (_ ∨ _))

theorem asyncSnapshotLights_cases (s : Engine) :
    (¬Opens s ∧ s.asyncSnapshotLights = s) ∨
    (s.releasing = true ∧ s.asyncSnapshotLights = s.cancelRelease.beginSession) ∨
    (s.releasing = false ∧ s.active = false ∧ s.asyncSnapshotLights = s.beginSession) := by
  unfold Engine.asyncSnapshotLights Opens
  cases s.releasing <;> cases s.active <;> simp

/-- The engine at the first suspension or at the end of a stop: not active, no release pending. -/
def sessionClosed (s : Engine) (entries : List Obs) : Engine :=
  { s with
    active := false, nextTeardown := s.nextTeardown + 1
    releasing := false, releaseForcing := false, releaseCancel := none
    timers := (s.cancelTimer s.releaseCancel).timers
    log := entries ++ .sessionEnded s.nextTeardown s.sessions :: s.log }

theorem stopSession_eq (s : Engine) : ∃ entries, Notices entries ∧
    s.stopSession = sessionClosed s entries :=
  cancelRelease_eq _

theorem asyncRestoreLights_cases (s : Engine) :
    (s.active = false ∧ s.asyncRestoreLights = s) ∨
    (s.active = true ∧ ∃ entries, Notices entries ∧
      ((∃ drain, s.liveDrainTask = some drain ∧ s.asyncRestoreLights =
          ((sessionClosed s entries).cancelDrain drain).setTeardown s.nextTeardown (.awaitingDrain drain)) ∨
        (s.liveDrainTask = none ∧ s.asyncRestoreLights =
          (sessionClosed s entries).takeSaved s.nextTeardown))) := by
  by_cases active : s.active = true
  · obtain ⟨entries, notices, closed⟩ := stopSession_eq s
    refine .inr ⟨active, entries, notices, ?_⟩
    have same : s.asyncRestoreLights = (sessionClosed s entries).leaveDrain s.nextTeardown :=
      (if_pos active).trans (by rw [closed])
    have tasks : (sessionClosed s entries).liveDrainTask = s.liveDrainTask := rfl
    rw [same]
    unfold Engine.leaveDrain
    rw [tasks]
    cases s.liveDrainTask with
    | none => exact .inr ⟨rfl, rfl⟩
    | some drain => exact .inl ⟨drain, rfl, rfl⟩
  · exact .inl ⟨by simpa using active, if_neg active⟩

/-- An effective pause: its deadline and its timer. -/
theorem asyncPause_cases (s : Engine) (seconds : ℚ) :
    (s.releasing = true ∧ s.asyncPause seconds = s) ∨
    (s.releasing = false ∧ ∃ entries, Notices entries ∧ s.asyncPause seconds =
      { s with
        mapping := fun channelId => (s.mapping channelId).forget
        pausedUntil := some (s.now + Engine.resolvedSeconds seconds)
        pauseCancel := some s.nextTimer, nextTimer := s.nextTimer + 1
        timers := Function.update (s.cancelTimer s.pauseCancel).timers s.nextTimer
          (some ⟨.pauseExpired, s.now + Engine.resolvedSeconds seconds⟩)
        log := entries ++ .flushed :: s.log }) := by
  by_cases releasing : s.releasing = true
  · exact .inl ⟨releasing, if_pos releasing⟩
  · exact .inr ⟨by simpa using releasing, _, .one _ _, if_neg releasing⟩

theorem asyncResume_cases (s : Engine) :
    s.asyncResume = s ∨
    (s.releasing = false ∧ ∃ entries, Notices entries ∧ s.asyncResume =
      { s with
        pausedUntil := none, pauseCancel := none
        timers := (s.cancelTimer s.pauseCancel).timers, log := entries ++ s.log }) := by
  by_cases idle : (s.releasing || s.pausedUntil.isNone) = true
  · exact .inl (if_pos idle)
  · refine .inr ⟨?_, _, .one _ _, if_neg idle⟩
    simp only [Bool.or_eq_true, not_or, Bool.not_eq_true] at idle
    exact idle.1

theorem asyncRelease_eq (s : Engine) (seconds : ℚ) : ∃ entries, Notices entries ∧
    s.asyncRelease seconds =
    { s with
      mapping := fun channelId => (s.mapping channelId).forget
      savedStates := none, releasing := true, releaseForcing := false
      pausedUntil := none, pauseCancel := none
      releaseCancel := some s.nextTimer, nextTimer := s.nextTimer + 1
      timers := Function.update ((s.cancelTimer s.pauseCancel).cancelTimer s.releaseCancel).timers
        s.nextTimer (some ⟨.releaseGraceExpired, s.now + Engine.resolvedSeconds seconds⟩)
      log := entries ++ .released :: .flushed :: s.log } :=
  ⟨_, .one _ _, rfl⟩

theorem onReleaseGraceExpired_cases (s : Engine) :
    (s.releasing = false ∧ s.onReleaseGraceExpired = { s with releaseCancel := none }) ∨
    (s.releasing = true ∧ ∃ entries, Notices entries ∧
      ((s.active = false ∧ s.onReleaseGraceExpired =
          { s with
            releasing := false, releaseForcing := false, releaseCancel := none
            log := entries ++ s.log }) ∨
        (s.active = true ∧ s.onReleaseGraceExpired =
          { s with releaseForcing := true, releaseCancel := none, log := entries ++ s.log }))) := by
  obtain ⟨_, _, _, _, active, _, _, _, _, _, _, releasing⟩ := s
  cases releasing with
  | false => exact .inl ⟨rfl, rfl⟩
  | true =>
    refine .inr ⟨rfl, ?_⟩
    cases active with
    | false => exact ⟨_, .one _ _, .inl ⟨rfl, rfl⟩⟩
    | true => exact ⟨_, .one _ _, .inr ⟨rfl, rfl⟩⟩

/-- Entries for the channels of one frame. -/
def FrameEntries (entries : List Obs) : Prop :=
  ∀ entry ∈ entries, (∃ channel colorSpace, entry = .frameWrote channel colorSpace) ∨
    ∃ channel colorSpace against, entry = .frameKept channel colorSpace against

/-- The engine after a channel of a frame overwrote its slot. -/
@[simps mapping]
def scheduled (s : Engine) (channel : ChannelColor) (colorSpace : Nat) : Engine :=
  { s with
    mapping := Function.update s.mapping channel.channelId
      ((s.mapping channel.channelId).schedule channel colorSpace)
    wake := true, log := .frameWrote channel colorSpace :: s.log }

theorem scheduleUpdate_cases (s : Engine) (channel : ChannelColor) (colorSpace : Nat) :
    (channel.channelId ∉ s.channels ∧ s.scheduleUpdate channel colorSpace = s) ∨
    (channel.channelId ∈ s.channels ∧
      (s.mapping channel.channelId).withinTolerance channel colorSpace = true ∧
      s.scheduleUpdate channel colorSpace =
        s.observe (.frameKept channel colorSpace (s.mapping channel.channelId).lastSpace)) ∨
    (channel.channelId ∈ s.channels ∧
      (s.mapping channel.channelId).withinTolerance channel colorSpace = false ∧
      s.scheduleUpdate channel colorSpace = scheduled s channel colorSpace) := by
  unfold Engine.scheduleUpdate Engine.mappingOf
  by_cases mapped : channel.channelId ∈ s.channels
  · simp only [if_pos mapped]
    cases within : (s.mapping channel.channelId).withinTolerance channel colorSpace with
    | true => exact .inr (.inl ⟨mapped, rfl, rfl⟩)
    | false => exact .inr (.inr ⟨mapped, rfl, rfl⟩)
  · exact .inl ⟨mapped, by rw [if_neg mapped]⟩

theorem scheduleUpdate_eq (s : Engine) (channel : ChannelColor) (colorSpace : Nat) :
    ∃ mapping wake entries, FrameEntries entries ∧ s.scheduleUpdate channel colorSpace =
      { s with mapping := mapping, wake := wake, log := entries ++ s.log } := by
  rcases scheduleUpdate_cases s channel colorSpace with ⟨_, same⟩ | ⟨_, _, same⟩ | ⟨_, _, same⟩
  · exact ⟨s.mapping, s.wake, [], by simp [FrameEntries], same⟩
  · exact ⟨s.mapping, s.wake, [.frameKept channel colorSpace _], by simp [FrameEntries], same⟩
  · exact ⟨_, true, [.frameWrote channel colorSpace], by simp [FrameEntries], same⟩

theorem scheduleAll_eq (channels : List ChannelColor) (colorSpace : Nat) (s : Engine) :
    ∃ mapping wake entries, FrameEntries entries ∧
      channels.foldl (fun s channel => s.scheduleUpdate channel colorSpace) s =
        { s with mapping := mapping, wake := wake, log := entries ++ s.log } := by
  induction channels generalizing s with
  | nil => exact ⟨s.mapping, s.wake, [], by simp [FrameEntries], rfl⟩
  | cons channel rest ih =>
    obtain ⟨mapping, wake, first, wrote, same⟩ := scheduleUpdate_eq s channel colorSpace
    rw [List.foldl_cons, same]
    obtain ⟨mapping', wake', later, wrote', same'⟩ :=
      ih { s with mapping := mapping, wake := wake, log := first ++ s.log }
    refine ⟨mapping', wake', later ++ first, ?_, ?_⟩
    · intro entry member
      rcases List.mem_append.mp member with member | member
      · exact wrote' entry member
      · exact wrote entry member
    · rw [same', List.append_assoc]

/-- What holds before a frame and after each of its channels holds after it. -/
theorem handleFrame_induct {motive : Engine → Prop} (s : Engine) (data : Bytes) (before : motive s)
    (counted : motive s.countFrame)
    (channel : ∀ t channel colorSpace, t.suppressed = s.suppressed → s.suppressed = false → motive t →
      motive (t.scheduleUpdate channel colorSpace)) : motive (s.handleFrame data) := by
  unfold Engine.handleFrame
  rcases parseHuestreamFrame data with error | frame | frame
  · exact before
  · exact before
  · by_cases suppressed : s.countFrame.suppressed = true
    · simp only [if_pos suppressed]
      exact counted
    · simp only [if_neg suppressed]
      have free : s.suppressed = false := eq_false_of_ne_true suppressed
      have all : ∀ (channels : List ChannelColor) (t : Engine), t.suppressed = s.suppressed → motive t →
          motive (channels.foldl (fun t channel => t.scheduleUpdate channel frame.colorSpace) t) := by
        intro channels
        induction channels with
        | nil => exact fun t _ now => now
        | cons first rest ih =>
          intro t same now
          obtain ⟨mapping, wake, entries, _, scheduled⟩ := scheduleUpdate_eq t first frame.colorSpace
          have next : (t.scheduleUpdate first frame.colorSpace).suppressed = s.suppressed := by
            rw [scheduled]
            exact same
          exact ih _ next (channel t first frame.colorSpace same free now)
      exact all frame.channels s.countFrame rfl counted

/-- A frame reaches the slots only while nothing suppresses it. -/
theorem handleFrame_eq (s : Engine) (data : Bytes) :
    ∃ mapping wake stats lastFrameTime entries, FrameEntries entries ∧ s.handleFrame data =
      { s with
        mapping := mapping, wake := wake, stats := stats, lastFrameTime := lastFrameTime
        log := entries ++ s.log } ∧
      (s.suppressed = true → mapping = s.mapping ∧ entries = []) := by
  unfold Engine.handleFrame
  rcases parseHuestreamFrame data with error | frame | frame
  · exact ⟨s.mapping, s.wake, s.stats, s.lastFrameTime, [], by simp [FrameEntries], rfl, by simp⟩
  · exact ⟨s.mapping, s.wake, s.stats, s.lastFrameTime, [], by simp [FrameEntries], rfl, by simp⟩
  · have held : s.countFrame.suppressed = s.suppressed := rfl
    by_cases suppressed : s.suppressed = true
    · exact ⟨_, _, _, _, [], by simp [FrameEntries], if_pos (held.trans suppressed), fun _ => ⟨rfl, rfl⟩⟩
    · obtain ⟨mapping, wake, entries, wrote, scheduled⟩ :=
        scheduleAll_eq frame.channels frame.colorSpace s.countFrame
      exact ⟨mapping, wake, _, _, entries, wrote, (if_neg suppressed).trans scheduled,
        fun now => absurd now suppressed⟩

/-- The engine accepts a v1 body for a light and the slot it leaves behind. -/
def Accepts (s : Engine) (lightId : Nat) (body : Json) (slot : ServiceData × List Write) : Prop :=
  s.suppressed = false ∧ lightId ∈ s.channels ∧
    (s.mapping lightId).commandSlot lightId body = .ok (some slot)

/-- The engine with a classic slot queued, before its drain loop is looked after. -/
def queued (s : Engine) (lightId : Nat) (slot : ServiceData × List Write) : Engine :=
  { s with
    mapping := Function.update s.mapping lightId ((s.mapping lightId).queue slot)
    wake := true, log := .putWrote lightId :: s.log }

theorem handleLightCommand_cases (s : Engine) (lightId : Nat) (body : Json) :
    ((∀ slot, ¬Accepts s lightId body slot) ∧ s.handleLightCommand lightId body = s) ∨
    ∃ slot, Accepts s lightId body slot ∧
      s.handleLightCommand lightId body = (queued s lightId slot).ensureDrainTask := by
  unfold Engine.handleLightCommand Accepts Engine.mappingOf
  cases s.suppressed with
  | true => exact .inl ⟨by simp, rfl⟩
  | false =>
    by_cases mapped : lightId ∈ s.channels
    · simp only [mapped, ↓reduceIte, Bool.false_eq_true, true_and]
      rcases (s.mapping lightId).commandSlot lightId body with error | slot | slot
      · exact .inl ⟨by simp, rfl⟩
      · exact .inl ⟨by simp, rfl⟩
      · exact .inr ⟨slot, rfl, rfl⟩
    · exact .inl ⟨by simp [mapped], by simp [mapped]⟩

end HueEntertainment.EngineFrames
