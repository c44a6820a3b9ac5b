import HueEntertainment.ClassicCalls
import HueEntertainment.Wiring

/-! The clock of the frame watchdog against the frames that were really handled. While a release is being forced the
clock stands still, and a release that is repeated then ends the forcing but leaves the clock where it stood. -/

namespace HueEntertainment.WatchdogClock
open HueEntertainment.Const HueStream PyValue Entertainment EngineSteps EngineFrames EngineMoves Wiring Runs
open ClassicCalls (redFrame)

/-- A loaded entry with what was heard of its stream, all ghost: when the session began, the times of the valid
frames, newest first, and whether a repeated release has left the clock behind one of them. -/
structure Listened where
  bridge : Bridge
  begun : Option ℚ := none
  frames : List ℚ := []
  stale : Bool := false

def validFrame (data : Bytes) : Bool :=
  match parseHuestreamFrame data with
  | .ok (some _) => true
  | _ => false

/-- A valid frame sets the clock unless a release is being forced, and a session start sets it. -/
def hear (w : Listened) : BridgeEvent → Listened
  | .engine (.frame data) =>
      if validFrame data then
        { w with
          frames := w.bridge.engine.now :: w.frames
          stale := w.stale && w.bridge.engine.releaseForcing }
      else w
  | .setActive true _ =>
      if Opens w.bridge.engine then { w with begun := some w.bridge.engine.now, stale := false } else w
  | .release _ =>
      { w with stale := w.stale ||
          (w.bridge.engine.releaseForcing && w.frames.any (fun time => w.bridge.engine.lastFrameTime < time)) }
  | _ => w

def step (w : Listened) (event : BridgeEvent) : Option Listened :=
  (Wiring.step w.bridge event).map (fun b => { hear w event with bridge := b })

def listened : Machine Listened BridgeEvent where
  Start := fun w => ∃ b, bridge.Start b ∧ w = { bridge := b }
  step := step

/-- The watchdog does not time out a session by a clock that a repeated release left behind. -/
def ClockSet (w : Listened) : BridgeEvent → Prop
  | .watchdog _ => w.stale = true → w.bridge.engine.releaseForcing = false →
      w.bridge.engine.now - w.bridge.engine.lastFrameTime ≤ frameTimeout
  | _ => True

instance (w : Listened) : (event : BridgeEvent) → Decidable (ClockSet w event)
  | .watchdog _ => inferInstanceAs (Decidable (w.stale = true → w.bridge.engine.releaseForcing = false →
      w.bridge.engine.now - w.bridge.engine.lastFrameTime ≤ frameTimeout))
  | .setActive .. | .release _ | .engine _ | .beginClosing | .cancelTasks | .restoreClosing => .isTrue trivial

/-- What the clock says of the session and of the frames that were heard. -/
structure Clocked (w : Listened) : Prop where
  past : ∀ time ∈ w.frames, time ≤ w.bridge.engine.now
  begun : w.bridge.engine.active = true →
    ∃ time, w.begun = some time ∧ time ≤ w.bridge.engine.now ∧ time ≤ w.bridge.engine.lastFrameTime
  heard : w.bridge.engine.active = true → w.bridge.engine.releaseForcing = false → w.stale = false →
    ∀ time ∈ w.frames, time ≤ w.bridge.engine.lastFrameTime

/-- A step of the engine that is neither a frame nor a call from outside lets at most time pass. -/
theorem own_clock {s t : Engine} {event : Event} (own : Own event) (unheard : ∀ data, event ≠ .frame data)
    (stepped : EngineSteps.machine.step s event = some t) :
    s.now ≤ t.now ∧ t.lastFrameTime = s.lastFrameTime ∧ t.active = s.active ∧
      (s.active = true → t.releaseForcing = false → s.releaseForcing = false) := by
  cases step_move stepped with
  | frame wrote held same => exact absurd rfl (unheard _)
  | snapshotKept closed => exact own.elim
  | snapshotJoined unholds notices running => exact own.elim
  | snapshotStarted unholds notices idle notices' => exact own.elim
  | restoreKept inactive => exact own.elim
  | restoreSuspended active waits notices => exact own.elim
  | restoreTook active free notices notices' => exact own.elim
  | released notices => exact own.elim
  | graceEnded pending releasing inactive notices =>
    refine ⟨le_refl _, rfl, rfl, ?_⟩
    intro active
    rw [inactive] at active
    cases active
  | graceForced pending releasing active notices =>
    refine ⟨le_refl _, rfl, rfl, ?_⟩
    intro _ unforced
    cases unforced
  | drain move =>
    obtain ⟨_, _, _, _, _, _, rfl⟩ := move.frame
    exact ⟨le_refl _, rfl, rfl, fun _ same => same⟩
  | tick forward => exact ⟨le_add_of_nonneg_right forward, rfl, rfl, fun _ same => same⟩
  | _ => exact ⟨le_refl _, rfl, rfl, fun _ same => same⟩

theorem handleFrame_clock (s : Engine) (data : Bytes) :
    (s.handleFrame data).now = s.now ∧ (s.handleFrame data).active = s.active ∧
    (s.handleFrame data).releaseForcing = s.releaseForcing ∧
    (s.handleFrame data).lastFrameTime =
      if validFrame data && !s.releaseForcing then s.now else s.lastFrameTime := by
  obtain ⟨_, _, _, _, _, _, same, _⟩ := handleFrame_eq s data
  refine ⟨by rw [same], by rw [same], by rw [same], ?_⟩
  unfold Engine.handleFrame validFrame
  rcases parseHuestreamFrame data with error | frame | frame
  · rfl
  · rfl
  · have counted : s.countFrame.lastFrameTime = if true && !s.releaseForcing then s.now else s.lastFrameTime := by
      rw [Engine.countFrame_lastFrameTime]
      cases s.releaseForcing <;> rfl
    simp only []
    split
    next => exact counted
    next =>
      obtain ⟨_, _, _, _, scheduled⟩ := scheduleAll_eq frame.channels frame.colorSpace s.countFrame
      rw [scheduled]
      exact counted

theorem snapshot_clock {s t : Engine} (move : Move s .snapshot t) :
    t.now = s.now ∧ ((¬Opens s ∧ t = s) ∨ (Opens s ∧ t.lastFrameTime = s.now)) := by
  cases move with
  | snapshotKept closed => exact ⟨rfl, .inl ⟨closed, rfl⟩⟩
  | snapshotJoined unholds notices running => exact ⟨rfl, .inr ⟨opens_of_unholds unholds, rfl⟩⟩
  | snapshotStarted unholds notices idle notices' => exact ⟨rfl, .inr ⟨opens_of_unholds unholds, rfl⟩⟩

theorem restore_now (s : Engine) : s.asyncRestoreLights.now = s.now := by
  have move := restore_move s
  generalize s.asyncRestoreLights = t at move
  cases move with
  | restoreKept inactive => rfl
  | restoreSuspended active waits notices => rfl
  | restoreTook active free notices notices' => rfl

/-- A step that sets no clock, hears nothing and does not end the forcing of a release. -/
theorem Clocked.of_same {w : Listened} {b : Bridge} (clocked : Clocked w) (now : w.bridge.engine.now ≤ b.engine.now)
    (last : b.engine.lastFrameTime = w.bridge.engine.lastFrameTime)
    (active : b.engine.active = true → w.bridge.engine.active = true ∧
      (b.engine.releaseForcing = false → w.bridge.engine.releaseForcing = false)) :
    Clocked { w with bridge := b } where
  past := fun time member => (clocked.past time member).trans now
  begun := by
    intro streaming
    obtain ⟨time, began, before, counted⟩ := clocked.begun (active streaming).1
    exact ⟨time, began, before.trans now, last.symm ▸ counted⟩
  heard := by
    intro streaming unforced current time member
    rw [last]
    exact clocked.heard (active streaming).1 ((active streaming).2 unforced) current time member

theorem Clocked.frame {w : Listened} {b : Bridge} {data : Bytes} (clocked : Clocked w)
    (engine : b.engine = w.bridge.engine.handleFrame data) :
    Clocked { hear w (.engine (.frame data)) with bridge := b } := by
  obtain ⟨now, active, forcing, last⟩ := handleFrame_clock w.bridge.engine data
  rw [← engine] at now active forcing last
  simp only [hear]
  split
  next valid =>
    have past : ∀ time ∈ w.bridge.engine.now :: w.frames, time ≤ w.bridge.engine.now := by
      intro time member
      rcases List.mem_cons.mp member with rfl | before
      · exact le_refl _
      · exact clocked.past time before
    constructor
    · exact fun time member => (past time member).trans now.ge
    · intro streaming
      rw [active] at streaming
      obtain ⟨time, began, before, counted⟩ := clocked.begun streaming
      refine ⟨time, began, before.trans now.ge, ?_⟩
      rw [last]
      split
      next => exact before
      next => exact counted
    · intro _ unforced _
      have here : b.engine.lastFrameTime = w.bridge.engine.now := by
        rw [last, if_pos (by rw [valid, ← forcing, unforced]; rfl)]
      rw [here]
      exact past
  next invalid =>
    have kept : b.engine.lastFrameTime = w.bridge.engine.lastFrameTime := by
      rw [last, if_neg (by simp [invalid])]
    exact clocked.of_same now.ge kept (fun streaming => ⟨active ▸ streaming, fun unforced => forcing ▸ unforced⟩)

theorem Clocked.started {w : Listened} {b : Bridge} {username : String} (clocked : Clocked w)
    (engine : b.engine = w.bridge.engine.asyncSnapshotLights) :
    Clocked { hear w (.setActive true username) with bridge := b } := by
  obtain ⟨now, outcome⟩ := snapshot_clock (snapshot_move w.bridge.engine)
  rw [← engine] at now outcome
  simp only [hear]
  rcases outcome with ⟨closed, same⟩ | ⟨opens, last⟩
  · rw [if_neg closed]
    exact clocked.of_same now.ge (by rw [same]) (fun streaming => ⟨same ▸ streaming, fun unforced => same ▸ unforced⟩)
  · rw [if_pos opens]
    exact ⟨fun time member => (clocked.past time member).trans now.ge,
      fun _ => ⟨_, rfl, now.ge, last.ge⟩, fun _ _ _ time member => (clocked.past time member).trans last.ge⟩

/-- A release ends the forcing of the one before it; what was heard meanwhile is past the clock. -/
theorem Clocked.released {w : Listened} {b : Bridge} {seconds : ℚ} (clocked : Clocked w)
    (engine : b.engine = w.bridge.engine.asyncRelease seconds) :
    Clocked { hear w (.release seconds) with bridge := b } := by
  have now : b.engine.now = w.bridge.engine.now := by rw [engine]; rfl
  have last : b.engine.lastFrameTime = w.bridge.engine.lastFrameTime := by rw [engine]; rfl
  have active : b.engine.active = w.bridge.engine.active := by rw [engine]; rfl
  constructor
  · intro time member
    exact (clocked.past time member).trans now.ge
  · intro streaming
    obtain ⟨time, began, before, counted⟩ := clocked.begun (active ▸ streaming)
    exact ⟨time, began, before.trans now.ge, counted.trans last.ge⟩
  · intro streaming _ current time member
    obtain ⟨unstale, unheard⟩ := Bool.or_eq_false_iff.mp current
    change time ≤ b.engine.lastFrameTime
    rw [last]
    cases forcing : w.bridge.engine.releaseForcing with
    | false => exact clocked.heard (active ▸ streaming) forcing unstale time member
    | true =>
      rw [forcing, Bool.true_and, List.any_eq_false] at unheard
      have behind := unheard time member
      simpa using behind

/-- Without a session there is nothing to watch. -/
theorem Clocked.stopped {w : Listened} {b : Bridge} (clocked : Clocked w) (now : b.engine.now = w.bridge.engine.now)
    (inactive : b.engine.active = false) : Clocked { w with bridge := b } := by
  constructor
  · exact fun time member => (clocked.past time member).trans now.ge
  · intro streaming
    rw [inactive] at streaming
    cases streaming
  · intro streaming
    rw [inactive] at streaming
    cases streaming

theorem step_eq_some {w x : Listened} {event : BridgeEvent} (stepped : listened.step w event = some x) :
    ∃ b, bridge.step w.bridge event = some b ∧ x = { hear w event with bridge := b } := by
  obtain ⟨b, moved, same⟩ := Option.map_eq_some_iff.mp stepped
  exact ⟨b, moved, same.symm⟩

theorem Clocked.step {w x : Listened} {event : BridgeEvent} (clocked : Clocked w)
    (stepped : listened.step w event = some x) : Clocked x := by
  obtain ⟨b, moved, rfl⟩ := step_eq_some stepped
  cases event with
  | setActive active username =>
    cases moved
    cases active with
    | true =>
      apply clocked.started
      simp only [Bridge.setEntertainmentActive, Bridge.onEntertainmentStart, ↓reduceIte]
      split <;> rfl
    | false =>
      have engine := stopped_engine w.bridge username
      exact clocked.stopped (by rw [engine, restore_now]) (by rw [engine, restore_inactive])
  | release seconds =>
    cases moved
    exact clocked.released rfl
  | watchdog watchdog =>
    cases watchdogStep_move moved with
    | cancelled found => exact clocked.of_same (le_refl _) rfl (fun streaming => ⟨streaming, fun same => same⟩)
    | looked found polling halts still =>
      exact clocked.of_same (le_refl _) rfl (fun streaming => ⟨streaming, fun same => same⟩)
    | timedOut found active silent => exact clocked.stopped (restore_now _) (restore_inactive _)
  | engine event =>
    obtain ⟨own, ran, _, _⟩ := engineStep_eq moved
    cases event with
    | frame data => exact clocked.frame (Option.some.inj ran).symm
    | _ =>
      obtain ⟨now, last, active, forcing⟩ := own_clock own (by simp) ran
      apply clocked.of_same now last
      intro streaming
      rw [active] at streaming
      exact ⟨streaming, forcing streaming⟩
  | beginClosing =>
    cases moved
    have engine : w.bridge.beginClosing.engine = w.bridge.engine := cancelWatchdog_engine w.bridge
    exact clocked.of_same (by rw [engine]) (by rw [engine])
      (fun streaming => ⟨engine ▸ streaming, fun unforced => engine ▸ unforced⟩)
  | cancelTasks =>
    cases moved
    exact clocked.of_same (le_refl _) rfl (fun streaming => ⟨streaming, fun same => same⟩)
  | restoreClosing =>
    simp only [bridge, Wiring.step] at moved
    split at moved
    next =>
      cases moved
      exact clocked.stopped (restore_now _) (restore_inactive _)
    next => cases moved

theorem clocked_start {w : Listened} (start : listened.Start w) : Clocked w := by
  obtain ⟨b, ⟨engine, ⟨lights, states, now, rfl⟩, rfl⟩, rfl⟩ := start
  constructor
  · intro time member
    cases member
  · intro streaming
    cases streaming
  · intro streaming
    cases streaming

/-- A watchdog that stops a session stops one that is being forced, or one that is silent. -/
theorem live_unkilled {w x : Listened} {watchdog : WatchdogId} {teardown : TeardownId} {cancelling : Bool}
    (reached : Reachable listened ClockSet w) (set : ClockSet w (.watchdog watchdog))
    (stepped : listened.step w (.watchdog watchdog) = some x)
    (stops : x.bridge.watchdogs watchdog = some ⟨.tearingDown teardown, cancelling⟩) :
    w.bridge.engine.releaseForcing = true ∨
      (∃ began, w.begun = some began ∧ frameTimeout < w.bridge.engine.now - began) ∧
      ∀ time ∈ w.frames, frameTimeout < w.bridge.engine.now - time := by
  have clocked : Clocked w := reached.invariant Clocked (fun _ start => clocked_start start)
    (fun _ _ _ held _ stepped => held.step stepped)
  obtain ⟨b, moved, rfl⟩ := step_eq_some stepped
  change b.watchdogs watchdog = _ at stops
  cases watchdogStep_move moved with
  | cancelled found =>
    rw [Bridge.setWatchdog_watchdogs, Function.update_self] at stops
    cases stops
  | looked found polling halts still =>
    rw [Bridge.setWatchdog_watchdogs, Function.update_self] at stops
    rcases halts with rfl | rfl
    · cases stops
    · cases stops
  | timedOut found active silent =>
    cases forcing : w.bridge.engine.releaseForcing with
    | true => exact .inl rfl
    | false =>
      have current : w.stale = false := by
        by_contra stale
        exact absurd silent (not_lt_of_ge (set (eq_true_of_ne_false stale) forcing))
      obtain ⟨began, begun, _, counted⟩ := clocked.begun active
      refine .inr ⟨⟨began, begun, silent.trans_le (sub_le_sub_left counted _)⟩, ?_⟩
      intro time member
      exact silent.trans_le (sub_le_sub_left (clocked.heard active forcing current time member) _)

/-- An entry without lights. -/
def lightlessEntry : Listened := { bridge := { engine := lightless } }

theorem lightlessEntry_start : listened.Start lightlessEntry := ⟨_, ⟨lightless, ⟨_, _, _, rfl⟩, rfl⟩, rfl⟩

/-- The watchdog's next step stops the session. -/
def killsNext (w : Listened) : Bool :=
  (listened.step w (.watchdog 0)).any (fun x => x.bridge.watchdogs 0 == some ⟨.tearingDown 0, false⟩)

theorem killsNext_step {w : Listened} (kills : killsNext w = true) : ∃ x, listened.step w (.watchdog 0) = some x ∧
    x.bridge.watchdogs 0 = some ⟨.tearingDown 0, false⟩ := by
  obtain ⟨x, stepped, stops⟩ := (Option.any_eq_true _ _).mp kills
  exact ⟨x, stepped, beq_iff_eq.mp stops⟩

/-- A session whose frames cease after the first one. -/
def ceased : List BridgeEvent :=
  [.setActive true "tv", .watchdog 0, .engine (.frame redFrame), .engine (.tick 2), .watchdog 0,
    .engine (.tick 2), .watchdog 0, .engine (.tick 2)]

theorem live_unkilled_ceased : ∃ w x, Reachable listened ClockSet w ∧ listened.step w (.watchdog 0) = some x ∧
    x.bridge.watchdogs 0 = some ⟨.tearingDown 0, false⟩ ∧ w.frames = [0] ∧
    ∀ time ∈ w.frames, frameTimeout < w.bridge.engine.now - time := by
  have final : (play listened ClockSet lightlessEntry ceased).any (fun w =>
      killsNext w && w.frames == [0] && !w.bridge.engine.releaseForcing && !w.stale) = true := by decide +kernel
  obtain ⟨w, played, final⟩ := (Option.any_eq_true _ _).mp final
  simp only [Bool.and_eq_true, Bool.not_eq_true', beq_iff_eq] at final
  obtain ⟨⟨⟨kills, frames⟩, unforced⟩, current⟩ := final
  obtain ⟨x, stepped, stops⟩ := killsNext_step kills
  have reached := reachable_of_play lightlessEntry_start played
  have set : ClockSet w (.watchdog 0) := by
    intro stale
    rw [current] at stale
    cases stale
  rcases live_unkilled reached set stepped stops with forcing | ⟨_, silent⟩
  · rw [unforced] at forcing
    cases forcing
  · exact ⟨w, x, reached, stepped, stops, frames, silent⟩

/-- A release that is repeated just before the third poll of the watchdog, while frames keep arriving. -/
def repeatedRelease : List BridgeEvent :=
  [.setActive true "tv", .watchdog 0, .engine (.frame redFrame), .release 1, .engine (.tick 1), .engine (.fire 0),
    .engine (.frame redFrame), .engine (.tick 1), .watchdog 0, .engine (.frame redFrame), .engine (.tick 2),
    .watchdog 0, .engine (.frame redFrame), .engine (.tick 2), .engine (.frame redFrame), .release 1]

theorem repeatedRelease_killed : ¬∀ (w x : Listened) (watchdog : WatchdogId) (teardown : TeardownId) (cancelling : Bool),
    Reachable listened Always w → listened.step w (.watchdog watchdog) = some x →
    x.bridge.watchdogs watchdog = some ⟨.tearingDown teardown, cancelling⟩ →
    w.bridge.engine.releaseForcing = true ∨
      (∃ began, w.begun = some began ∧ frameTimeout < w.bridge.engine.now - began) ∧
      ∀ time ∈ w.frames, frameTimeout < w.bridge.engine.now - time := by
  intro claimed
  have final : (play listened Always lightlessEntry repeatedRelease).any (fun w =>
      killsNext w && !w.bridge.engine.releaseForcing && w.bridge.engine.now == 6 && w.frames.head? == some 6) = true := by
    decide +kernel
  obtain ⟨w, played, final⟩ := (Option.any_eq_true _ _).mp final
  simp only [Bool.and_eq_true, Bool.not_eq_true', beq_iff_eq] at final
  obtain ⟨⟨⟨kills, unforced⟩, now⟩, newest⟩ := final
  obtain ⟨x, stepped, stops⟩ := killsNext_step kills
  rcases claimed w x 0 0 false (reachable_of_play lightlessEntry_start played) stepped stops with forcing | ⟨_, silent⟩
  · rw [unforced] at forcing
    cases forcing
  · have recent := silent 6 (List.mem_of_mem_head? newest)
    rw [now] at recent
    exact absurd recent (by norm_num [frameTimeout])

end HueEntertainment.WatchdogClock
