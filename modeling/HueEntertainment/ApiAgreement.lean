import HueEntertainment.Suppression
import HueEntertainment.Wiring

/-! The streaming flags that the TV polls, against the engine. Every start, stop and release sets both
before it suspends, and what runs after a suspension sets neither. -/

namespace HueEntertainment.ApiAgreement
open PyValue Entertainment EngineSteps EngineFrames Suppression Wiring Runs

/-- The API server says streaming exactly when a session is active and not being released, and names
an owner exactly then. -/
structure Agreed (b : Bridge) : Prop where
  active : b.entertainmentActive = true ↔ b.engine.active = true ∧ b.engine.releasing = false
  owner : b.entertainmentOwner ≠ none ↔ b.entertainmentActive = true

/-- Everything the agreement is about. -/
def agreement (b : Bridge) :=
  (b.entertainmentActive, b.entertainmentOwner, b.engine.active, b.engine.releasing)

theorem Agreed.of_same {b t : Bridge} (agreed : Agreed b) (same : agreement t = agreement b) : Agreed t := by
  simp only [agreement, Prod.mk.injEq] at same
  obtain ⟨flag, owner, active, releasing⟩ := same
  constructor
  · rw [flag, active, releasing]
    exact agreed.active
  · rw [owner, flag]
    exact agreed.owner

/-- Both sides are off. -/
theorem Agreed.cleared {b : Bridge} (flag : b.entertainmentActive = false) (owner : b.entertainmentOwner = none)
    (finished : b.engine.active = false ∨ b.engine.releasing = true) : Agreed b := by
  constructor
  · rw [flag]
    rcases finished with inactive | releasing
    · simp [inactive]
    · simp [releasing]
  · rw [owner, flag]
    simp

theorem Agreed.engine {b t : Bridge} (agreed : Agreed b) {event : Event} (step : b.engineStep event = some t) :
    Agreed t := by
  obtain ⟨own, moved, same, _⟩ := engineStep_eq step
  obtain ⟨active, releasing⟩ := own_flags own moved
  simp only [wires, Prod.mk.injEq] at same
  obtain ⟨flag, owner, _⟩ := same
  constructor
  · rw [flag, active]
    rcases releasing with kept | inactive
    · rw [kept]
      exact agreed.active
    · rw [agreed.active, inactive]
      simp
  · rw [owner, flag]
    exact agreed.owner

theorem Agreed.started (b : Bridge) (username : String) :
    Agreed ({ b with entertainmentActive := true, entertainmentOwner := some username } : Bridge).onEntertainmentStart := by
  obtain ⟨active, unreleased⟩ := snapshot_flags b.engine
  unfold Bridge.onEntertainmentStart
  simp only []
  split
  all_goals
    constructor
    · simp [Bridge.createWatchdog, active, unreleased]
    · simp [Bridge.createWatchdog]

theorem Agreed.step {b t : Bridge} {event : BridgeEvent} (agreed : b.closing = false → Agreed b)
    (stepped : bridge.step b event = some t) (loaded : t.closing = false) : Agreed t := by
  change Wiring.step b event = some t at stepped
  cases event with
  | setActive active username =>
    cases stepped
    cases active with
    | true => exact .started b username
    | false => exact .cleared rfl rfl (.inl (restore_inactive _))
  | release seconds =>
    cases stepped
    exact .cleared rfl rfl (.inr rfl)
  | watchdog watchdog =>
    cases watchdogStep_move stepped with
    | cancelled found => exact (agreed loaded).of_same rfl
    | looked found polling halts still => exact (agreed loaded).of_same rfl
    | timedOut found active silent => exact .cleared rfl rfl (.inl (restore_inactive _))
  | engine event =>
    have same := (engineStep_eq stepped).2.2.1
    simp only [wires, Prod.mk.injEq] at same
    exact (agreed (same.2.2.2.2.2 ▸ loaded)).engine stepped
  | beginClosing =>
    cases stepped
    cases loaded
  | cancelTasks =>
    cases stepped
    cases loaded
  | restoreClosing =>
    simp only [Wiring.step] at stepped
    split at stepped
    next closing =>
      cases stepped
      change b.closing = false at loaded
      rw [closing] at loaded
      cases loaded
    next => cases stepped

theorem agreed {b : Bridge} (reached : Reachable bridge Always b) (loaded : b.closing = false) : Agreed b := by
  refine reached.invariant (fun x => x.closing = false → Agreed x) ?_ ?_ loaded
  · rintro x ⟨engine, ⟨lights, states, now, rfl⟩, rfl⟩ _
    exact .cleared rfl rfl (.inl rfl)
  · intro x event y agreed _ stepped loaded
    exact Agreed.step agreed stepped loaded

/-- In every reachable state before an unload or a shutdown: the API server says streaming exactly when
a session is active and not being released, and names an owner exactly then. -/
theorem api_agrees {b : Bridge} (reached : Reachable bridge Always b) (loaded : b.closing = false) :
    (b.entertainmentActive = true ↔ b.engine.active = true ∧ b.engine.releasing = false) ∧
      (b.entertainmentOwner ≠ none ↔ b.entertainmentActive = true) := by
  have agreed := agreed reached loaded
  exact ⟨agreed.active, agreed.owner⟩

/-- A session that is being released, and a new start while its stop is suspended. -/
def restartedStop : List BridgeEvent :=
  [.setActive true "tv", .engine (.drain 0 .returned), .release 2, .setActive false "tv", .setActive true "tv"]

theorem api_agrees_restarted : ∃ b, play bridge Always { engine := lightless } restartedStop = some b ∧
    (b.entertainmentActive = true ↔ b.engine.active = true ∧ b.engine.releasing = false) := by
  obtain ⟨b, played⟩ : ∃ b, play bridge Always { engine := lightless } restartedStop = some b := ⟨_, rfl⟩
  have loaded : (play bridge Always { engine := lightless } restartedStop).map Bridge.closing = some false := by decide
  rw [played] at loaded
  have start : bridge.Start { engine := lightless } := ⟨lightless, ⟨_, _, _, rfl⟩, rfl⟩
  exact ⟨b, played, (api_agrees (reachable_of_play start played) (Option.some.inj loaded)).1⟩

end HueEntertainment.ApiAgreement
