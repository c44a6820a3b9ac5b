import Mathlib.Data.List.Infix
import Mathlib.Data.Option.Basic

/-! Runs of a system given by its atomic steps.
A step is a partial function of the state and of the event that happens, so every
interleaving of the system's parties is one list of events. Nothing here knows the
program the steps come from. -/

namespace HueEntertainment.Runs

/-- `step s event` is `none` when the event cannot happen in `s`. -/
structure Machine (State Event : Type) where
  Start : State → Prop
  step : State → Event → Option State

variable {State Event : Type} {m : Machine State Event}

/-- No restriction on the steps of a run. -/
def Always : State → Event → Prop := fun _ _ => True

instance (s : State) (event : Event) : Decidable (Always s event) := inferInstanceAs (Decidable True)

/-- The events lead from the first state to the last one, and `ok` holds of every event
in the state it happens in. -/
inductive Run (m : Machine State Event) (ok : State → Event → Prop) :
    State → List Event → State → Prop where
  | nil (s : State) : Run m ok s [] s
  | cons {s mid t : State} {event : Event} {events : List Event} :
      ok s event → m.step s event = some mid → Run m ok mid events t → Run m ok s (event :: events) t

/-- Some run from a start state ends here. -/
def Reachable (m : Machine State Event) (ok : State → Event → Prop) (t : State) : Prop :=
  ∃ s events, m.Start s ∧ Run m ok s events t

theorem Run.append {ok : State → Event → Prop} {s mid t : State} {first second : List Event}
    (left : Run m ok s first mid) (right : Run m ok mid second t) :
    Run m ok s (first ++ second) t := by
  induction left with
  | nil _ => exact right
  | cons allowed step _ ih => exact .cons allowed step (ih right)

theorem Run.snoc {ok : State → Event → Prop} {s mid t : State} {events : List Event} {event : Event}
    (before : Run m ok s events mid) (allowed : ok mid event) (step : m.step mid event = some t) :
    Run m ok s (events ++ [event]) t :=
  before.append (.cons allowed step (.nil t))

theorem Run.mono {ok wider : State → Event → Prop} (weaker : ∀ s event, ok s event → wider s event)
    {s t : State} {events : List Event} (run : Run m ok s events t) : Run m wider s events t := by
  induction run with
  | nil s => exact .nil s
  | cons allowed step _ ih => exact .cons (weaker _ _ allowed) step ih

/-- A property that every allowed step preserves holds at the end of every run it holds at the start of. -/
theorem Run.invariant {ok : State → Event → Prop} (inv : State → Prop)
    (preserved : ∀ s event t, inv s → ok s event → m.step s event = some t → inv t)
    {s t : State} {events : List Event} (run : Run m ok s events t) (initially : inv s) : inv t := by
  induction run with
  | nil _ => exact initially
  | cons allowed step _ ih => exact ih (preserved _ _ _ initially allowed step)

/-- A property of the end of a run and of all that led there, step by step. -/
theorem Run.history {ok : State → Event → Prop} {s t : State} {events : List Event}
    (holds : List Event → State → Prop) (initially : holds [] s)
    (preserved : ∀ before mid event next, Run m ok s before mid → holds before mid → ok mid event →
      m.step mid event = some next → holds (before ++ [event]) next) (run : Run m ok s events t) : holds events t := by
  have later : ∀ {mid : State} {after : List Event}, Run m ok mid after t → ∀ before, Run m ok s before mid →
      holds before mid → holds (before ++ after) t := by
    intro mid after rest
    induction rest with
    | nil _ =>
      intro before _ held
      rwa [List.append_nil]
    | @cons mid next _ event after allowed step _ ih =>
      intro before led held
      have now := ih run (before ++ [event]) (led.snoc allowed step) (preserved _ _ _ _ led held allowed step)
      rwa [List.append_assoc] at now
  exact later run [] (.nil s) initially

/-- A run that ends with a property has it from the start, or from the step on that first led to it. -/
theorem Run.first {ok : State → Event → Prop} (arrived : State → Prop) {s t : State} {events : List Event}
    (run : Run m ok s events t) (here : arrived t) : ∃ before mid after, Run m ok s before mid ∧ Run m ok mid after t ∧
      arrived mid ∧ (mid = s ∨ ∃ earlier prior event, Run m ok s earlier prior ∧ ¬arrived prior ∧ ok prior event ∧
        m.step prior event = some mid) := by
  induction run with
  | nil s => exact ⟨[], s, [], .nil s, .nil s, here, .inl rfl⟩
  | @cons s next t event events allowed step rest ih =>
    by_cases already : arrived s
    · exact ⟨[], s, event :: events, .nil s, .cons allowed step rest, already, .inl rfl⟩
    · obtain ⟨before, mid, after, led, left, arrives, first⟩ := ih here
      refine ⟨event :: before, mid, after, .cons allowed step led, left, arrives, .inr ?_⟩
      rcases first with rfl | ⟨earlier, prior, event', run, missing, allowed', step'⟩
      · exact ⟨[], s, event, .nil s, already, allowed, step⟩
      · exact ⟨event :: earlier, prior, event', .cons allowed step run, missing, allowed', step'⟩

theorem Reachable.invariant {ok : State → Event → Prop} (inv : State → Prop)
    (initially : ∀ s, m.Start s → inv s)
    (preserved : ∀ s event t, inv s → ok s event → m.step s event = some t → inv t)
    {t : State} (reached : Reachable m ok t) : inv t := by
  obtain ⟨s, events, start, run⟩ := reached
  exact run.invariant inv preserved (initially s start)

theorem Reachable.mono {ok wider : State → Event → Prop}
    (weaker : ∀ s event, ok s event → wider s event) {t : State}
    (reached : Reachable m ok t) : Reachable m wider t := by
  obtain ⟨s, events, start, run⟩ := reached
  exact ⟨s, events, start, run.mono weaker⟩

theorem Reachable.step {ok : State → Event → Prop} {s t : State} {event : Event}
    (reached : Reachable m ok s) (allowed : ok s event) (step : m.step s event = some t) :
    Reachable m ok t := by
  obtain ⟨first, events, start, run⟩ := reached
  exact ⟨first, events ++ [event], start, run.snoc allowed step⟩

theorem Reachable.run {ok : State → Event → Prop} {s t : State} {events : List Event}
    (reached : Reachable m ok s) (later : Run m ok s events t) : Reachable m ok t := by
  obtain ⟨first, before, start, run⟩ := reached
  exact ⟨first, before ++ events, start, run.append later⟩

/-- When every step only adds entries it can emit to a history, every entry a run adds to it was
emitted by one of its steps. -/
theorem Run.emitted {ok : State → Event → Prop} {Entry : Type} (history : State → List Entry)
    (emits : State → Event → Entry → Prop)
    (grows : ∀ s event t, m.step s event = some t →
      ∃ new, history t = new ++ history s ∧ ∀ entry ∈ new, emits s event entry)
    {s t : State} {events : List Event} (run : Run m ok s events t) :
    ∃ new, history t = new ++ history s ∧ ∀ entry ∈ new, ∃ before mid event,
      Run m ok s before mid ∧ ok mid event ∧ emits mid event entry := by
  induction run with
  | nil s => exact ⟨[], rfl, by simp⟩
  | cons allowed step _ ih =>
    obtain ⟨first, fromStart, emitted⟩ := grows _ _ _ step
    obtain ⟨later, fromMid, afterwards⟩ := ih
    refine ⟨later ++ first, by rw [fromMid, fromStart, List.append_assoc], ?_⟩
    intro entry member
    rcases List.mem_append.mp member with member | member
    · obtain ⟨before, mid, event, run, okay, emits⟩ := afterwards entry member
      exact ⟨_, mid, event, .cons allowed step run, okay, emits⟩
    · exact ⟨[], _, _, .nil _, allowed, emitted entry member⟩

/-- The property holds of every state that the events pass through, both ends included. -/
def Throughout (m : Machine State Event) (inv : State → Prop) (s : State) (events : List Event) : Prop :=
  ∀ before after mid, events = before ++ after → Run m Always s before mid → inv mid

theorem Throughout.head {inv : State → Prop} {s : State} {events : List Event}
    (throughout : Throughout m inv s events) : inv s :=
  throughout [] events s rfl (.nil s)

theorem throughout_cons {inv : State → Prop} {s mid : State} {event : Event} {events : List Event}
    (step : m.step s event = some mid) :
    Throughout m inv s (event :: events) ↔ inv s ∧ Throughout m inv mid events := by
  constructor
  · intro throughout
    refine ⟨throughout.head, ?_⟩
    intro before after t split run
    exact throughout (event :: before) after t (by rw [split, List.cons_append]) (.cons trivial step run)
  · rintro ⟨here, later⟩ before after t split run
    cases run with
    | nil => exact here
    | cons _ stepped run =>
      obtain ⟨rfl, rest⟩ := List.cons.inj split
      rw [step] at stepped
      obtain rfl := Option.some.inj stepped
      exact later _ _ t rest run

/-- What holds of every state that allowed steps reach holds throughout a run of them. -/
theorem Run.throughout {ok : State → Event → Prop} {inv : State → Prop} (holds : ∀ x, Reachable m ok x → inv x)
    {s t : State} {events : List Event} (reached : Reachable m ok s) (run : Run m ok s events t) :
    Throughout m inv s events := by
  induction run with
  | nil s =>
    intro before after mid split run
    obtain ⟨rfl, rfl⟩ := List.append_eq_nil_iff.mp split.symm
    cases run
    exact holds s reached
  | cons allowed step _ ih =>
    rw [throughout_cons step]
    exact ⟨holds _ reached, ih (reached.step allowed step)⟩

/-- Where a condition on the steps is what keeps a strengthened property, and a step without it breaks the
property itself, a run has the property throughout exactly when all of its steps meet the condition. -/
theorem Run.throughout_exact {ok good : State → Event → Prop} {inv strong : State → Prop}
    (implies : ∀ x, strong x → inv x)
    (keeps : ∀ x event y, Reachable m Always x → ok x event → strong x → m.step x event = some y →
      good x event → strong y)
    (breaks : ∀ x event y, Reachable m Always x → ok x event → strong x → m.step x event = some y →
      ¬good x event → ¬inv y)
    {s t : State} {events : List Event} (reached : Reachable m Always s) (initially : strong s)
    (run : Run m ok s events t) : Throughout m inv s events ↔ Run m good s events t := by
  induction run with
  | nil s =>
    constructor
    · exact fun _ => .nil s
    · intro _ before after mid split run
      obtain ⟨rfl, rfl⟩ := List.append_eq_nil_iff.mp split.symm
      cases run
      exact implies s initially
  | @cons s mid t event events allowed step _ ih =>
    have rest := ih (reached.step trivial step)
    rw [throughout_cons step]
    constructor
    · rintro ⟨_, later⟩
      have meets : good s event := by
        by_contra fails
        exact breaks s event mid reached allowed initially step fails later.head
      exact .cons meets step ((rest (keeps s event mid reached allowed initially step meets)).mp later)
    · intro run
      cases run with
      | cons meets stepped onward =>
        rw [step] at stepped
        obtain rfl := Option.some.inj stepped
        exact ⟨implies s initially, (rest (keeps s event mid reached allowed initially step meets)).mpr onward⟩

/-- Where each step keeps the property exactly when a condition on the step holds, a run keeps it in
every state exactly when all of its steps meet the condition. -/
theorem Run.throughout_iff {good : State → Event → Prop} {inv : State → Prop}
    (exact : ∀ x event y, Reachable m Always x → inv x → m.step x event = some y → (inv y ↔ good x event))
    {s t : State} {events : List Event} (reached : Reachable m Always s) (initially : inv s)
    (run : Run m Always s events t) : Throughout m inv s events ↔ Run m good s events t :=
  run.throughout_exact (fun _ holds => holds)
    (fun x event y reached _ holds step => (exact x event y reached holds step).mpr)
    (fun x event y reached _ holds step fails => mt (exact x event y reached holds step).mp fails) reached initially

/-- The events played out, when each of them can happen and a decidable condition allows it. -/
def play (m : Machine State Event) (ok : State → Event → Prop) [∀ s event, Decidable (ok s event)] :
    State → List Event → Option State
  | s, [] => some s
  | s, event :: events =>
      if ok s event then (m.step s event).bind (fun mid => play m ok mid events) else none

theorem run_of_play {ok : State → Event → Prop} [∀ s event, Decidable (ok s event)]
    (s t : State) (events : List Event) (played : play m ok s events = some t) :
    Run m ok s events t := by
  induction events generalizing s with
  | nil =>
    simp only [play, Option.some.injEq] at played
    exact played ▸ .nil s
  | cons event events ih =>
    by_cases allowed : ok s event
    · simp only [play, if_pos allowed, Option.bind_eq_some_iff] at played
      obtain ⟨mid, step, rest⟩ := played
      exact .cons allowed step (ih mid rest)
    · simp [play, allowed] at played

/-- A run is the one its events play. -/
theorem Run.played {ok : State → Event → Prop} {s t : State} {events : List Event}
    (run : Run m ok s events t) : play m Always s events = some t := by
  induction run with
  | nil s => rfl
  | @cons s _ _ event _ _ step _ ih =>
    have allowed : Always s event := trivial
    simp only [play, if_pos allowed, step, Option.bind_some, ih]

theorem reachable_of_play {ok : State → Event → Prop} [∀ s event, Decidable (ok s event)]
    {s t : State} {events : List Event} (start : m.Start s) (played : play m ok s events = some t) :
    Reachable m ok t :=
  ⟨s, events, start, run_of_play s t events played⟩

section
variable {Label Shown : Type} (label : State → Event → Option Label) (shown : State → Shown)

/-- What can be seen of the events played from a state: those with a label, each with what is shown before it and
after it. -/
def trajectory (m : Machine State Event) : State → List Event → List (Label × Shown × Shown)
  | _, [] => []
  | s, event :: events =>
      match m.step s event with
      | none => []
      | some mid =>
          (label s event).toList.map (fun seen => (seen, shown s, shown mid)) ++ trajectory m mid events

variable {label shown}

theorem trajectory_cons {s mid : State} {event : Event} (step : m.step s event = some mid) (events : List Event) :
    trajectory label shown m s (event :: events) =
      (label s event).toList.map (fun seen => (seen, shown s, shown mid)) ++ trajectory label shown m mid events := by
  rw [trajectory, step]

theorem Run.trajectory_append {ok : State → Event → Prop} {s mid : State} {first : List Event}
    (run : Run m ok s first mid) (second : List Event) : trajectory label shown m s (first ++ second) =
      trajectory label shown m s first ++ trajectory label shown m mid second := by
  induction run with
  | nil s => rfl
  | cons _ step _ ih => rw [List.cons_append, trajectory_cons step, trajectory_cons step, ih, List.append_assoc]

/-- Less shown is a picture of what was shown. -/
theorem trajectory_map {Less : Type} (picture : Shown → Less) (s : State) (events : List Event) :
    trajectory label (fun s => picture (shown s)) m s events =
      (trajectory label shown m s events).map (fun seen => (seen.1, picture seen.2.1, picture seen.2.2)) := by
  induction events generalizing s with
  | nil => rfl
  | cons event events ih =>
    cases step : m.step s event with
    | none => simp only [trajectory, step, List.map_nil]
    | some mid => rw [trajectory_cons step, trajectory_cons step, ih, List.map_append, List.map_map]; rfl

/-- The first event that is seen of a run, after the unlabelled ones before it. -/
theorem Run.trajectory_split {ok : State → Event → Prop} {s t : State} {events : List Event} {seen : Label}
    {before after : Shown} {later : List (Label × Shown × Shown)} (run : Run m ok s events t)
    (same : trajectory label shown m s events = (seen, before, after) :: later) :
    ∃ silent x event y rest, Run m (fun s event => ok s event ∧ label s event = none) s silent x ∧ ok x event ∧
      m.step x event = some y ∧ label x event = some seen ∧ shown x = before ∧ shown y = after ∧
      Run m ok y rest t ∧ trajectory label shown m y rest = later := by
  induction run with
  | nil s => cases same
  | @cons s mid t event events allowed step run ih =>
    rw [trajectory_cons step] at same
    cases labelled : label s event with
    | none =>
      rw [labelled] at same
      obtain ⟨silent, x, event', y, rest, quiet, found⟩ := ih same
      exact ⟨event :: silent, x, event', y, rest, .cons ⟨allowed, labelled⟩ step quiet, found⟩
    | some seen' =>
      rw [labelled] at same
      obtain ⟨first, rest⟩ := List.cons.inj same
      cases first
      exact ⟨[], s, event, mid, events, .nil s, allowed, step, labelled, rfl, rfl, run, rest⟩

/-- Where every step is matched by a run that looks the same, so is every run. -/
theorem Run.matched {ok wider : State → Event → Prop} {related : State → State → Prop}
    (each : ∀ x y event z, related x y → ok x event → m.step x event = some z →
      ∃ events w, Run m wider y events w ∧ related z w ∧
        trajectory label shown m y events = trajectory label shown m x [event])
    {s t u : State} {events : List Event} (run : Run m ok s events t) (initially : related s u) :
    ∃ others w, Run m wider u others w ∧ related t w ∧
      trajectory label shown m u others = trajectory label shown m s events := by
  induction run generalizing u with
  | nil s => exact ⟨[], u, .nil u, initially, rfl⟩
  | @cons s mid t event events allowed step _ ih =>
    obtain ⟨first, v, left, here, same⟩ := each s u event mid initially allowed step
    obtain ⟨rest, w, right, there, same'⟩ := ih here
    refine ⟨first ++ rest, w, left.append right, there, ?_⟩
    rw [left.trajectory_append, same, same', trajectory_cons step, trajectory_cons step]
    rw [trajectory, List.append_nil]

end

/-- Every step of the finer machine is matched by a run of the coarser one between the images. -/
structure Simulation {Fine FineEvent : Type} (fine : Machine Fine FineEvent) (m : Machine State Event)
    (view : Fine → State) : Prop where
  start : ∀ s, fine.Start s → m.Start (view s)
  step : ∀ s event t, fine.step s event = some t → ∃ events, Run m Always (view s) events (view t)

theorem Simulation.run {Fine FineEvent : Type} {fine : Machine Fine FineEvent} {view : Fine → State}
    (sim : Simulation fine m view) {ok : Fine → FineEvent → Prop} {s t : Fine} {events : List FineEvent}
    (run : Run fine ok s events t) : ∃ matched, Run m Always (view s) matched (view t) := by
  induction run with
  | nil s => exact ⟨[], .nil _⟩
  | cons _ step _ ih =>
    obtain ⟨first, left⟩ := sim.step _ _ _ step
    obtain ⟨rest, right⟩ := ih
    exact ⟨first ++ rest, left.append right⟩

/-- What holds of every reachable state of the coarser machine holds of every image. -/
theorem Simulation.reachable {Fine FineEvent : Type} {fine : Machine Fine FineEvent}
    {view : Fine → State} (sim : Simulation fine m view) {ok : Fine → FineEvent → Prop} {t : Fine}
    (reached : Reachable fine ok t) : Reachable m Always (view t) := by
  obtain ⟨s, events, start, run⟩ := reached
  obtain ⟨matched, abstract⟩ := sim.run run
  exact ⟨view s, matched, sim.start s start, abstract⟩

end HueEntertainment.Runs
