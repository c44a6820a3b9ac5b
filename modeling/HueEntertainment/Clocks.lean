import HueEntertainment.Runs
import Mathlib.Tactic.Linarith

/-! Machines with a clock, whose tasks wait. Each wait has a limit, and a run is timely when no step finds a task that
goes on with a wait which is over its limit. Nothing here knows the program the tasks belong to. -/

namespace HueEntertainment.Clocks
open Runs

variable {State Event Task Wait : Type} {m : Machine State Event}

/-- The clock and the tasks of a machine: what each task waits for, and whose own step an event is. The clock does not
go back, and a task's own step takes no time. -/
structure Tasks (m : Machine State Event) (Task Wait : Type) where
  now : State → ℚ
  present : State → List Task
  waits : State → Task → Option Wait
  owner : Event → Option Task
  forward : ∀ {s t : State} {event : Event}, m.step s event = some t → now s ≤ now t
  instant : ∀ {s t : State} {event : Event} {task : Task}, m.step s event = some t → owner event = some task →
    now t = now s
  known : ∀ {s : State} {task : Task} {wait : Wait}, Reachable m Always s → waits s task = some wait → task ∈ present s

/-- A state, with the time since which each task waits for what it waits for. -/
structure Clocked (State Task : Type) where
  state : State
  since : Task → ℚ

namespace Tasks
variable [DecidableEq Task] [DecidableEq Wait] (tasks : Tasks m Task Wait)

/-- The task begins a wait with the step: the step is its own, or changes what it waits for. -/
def Renews (s : State) (event : Event) (t : State) (task : Task) : Prop :=
  tasks.owner event = some task ∨ tasks.waits t task ≠ tasks.waits s task

instance (s : State) (event : Event) (t : State) (task : Task) : Decidable (tasks.Renews s event t task) :=
  inferInstanceAs (Decidable (_ ∨ _))

/-- The state after a step, with the waits that begin there. -/
def next (c : Clocked State Task) (event : Event) (t : State) : Clocked State Task :=
  ⟨t, fun task => if tasks.Renews c.state event t task then tasks.now t else c.since task⟩

def clocked : Machine (Clocked State Task) Event where
  Start := fun c => m.Start c.state ∧ ∀ task, c.since task = tasks.now c.state
  step := fun c event => (m.step c.state event).map (tasks.next c event)

/-- No task that goes on with its wait over the step is over the limit of that wait then. -/
def Timely (limit : Wait → ℚ) (c : Clocked State Task) (event : Event) : Prop :=
  ∀ t ∈ m.step c.state event, ∀ task ∈ tasks.present c.state, ¬tasks.Renews c.state event t task →
    ∀ wait ∈ tasks.waits c.state task, tasks.now t ≤ c.since task + limit wait

instance (limit : Wait → ℚ) (c : Clocked State Task) (event : Event) : Decidable (tasks.Timely limit c event) :=
  inferInstanceAs (Decidable (∀ t ∈ m.step c.state event, _))

/-- No task is over the limit of what it waits for. -/
structure OnTime (limit : Wait → ℚ) (c : Clocked State Task) : Prop where
  past : ∀ task, c.since task ≤ tasks.now c.state
  within : ∀ task wait, tasks.waits c.state task = some wait → tasks.now c.state ≤ c.since task + limit wait

variable {tasks}

theorem step_eq_some {c d : Clocked State Task} {event : Event} (step : tasks.clocked.step c event = some d) :
    m.step c.state event = some d.state ∧ d = tasks.next c event d.state := by
  obtain ⟨t, stepped, rfl⟩ := Option.map_eq_some_iff.mp step
  exact ⟨stepped, rfl⟩

/-- A clocked run is a run of the machine. -/
theorem run_state {ok : Clocked State Task → Event → Prop} {wider : State → Event → Prop}
    (weaker : ∀ c event, ok c event → wider c.state event) {c d : Clocked State Task} {events : List Event}
    (run : Run tasks.clocked ok c events d) : Run m wider c.state events d.state := by
  induction run with
  | nil c => exact .nil _
  | cons allowed step _ ih => exact .cons (weaker _ _ allowed) (step_eq_some step).1 ih

theorem reachable_state {ok : Clocked State Task → Event → Prop} {wider : State → Event → Prop}
    (weaker : ∀ c event, ok c event → wider c.state event) {d : Clocked State Task}
    (reached : Reachable tasks.clocked ok d) : Reachable m wider d.state := by
  obtain ⟨c, events, start, run⟩ := reached
  exact ⟨c.state, events, start.1, run_state weaker run⟩

theorem OnTime.step {limit : Wait → ℚ} {c d : Clocked State Task} {event : Event} (onTime : tasks.OnTime limit c)
    (positive : ∀ wait, 0 ≤ limit wait) (reached : Reachable m Always c.state) (timely : tasks.Timely limit c event)
    (step : tasks.clocked.step c event = some d) : tasks.OnTime limit d := by
  obtain ⟨stepped, same⟩ := step_eq_some step
  have since : ∀ task, d.since task =
      if tasks.Renews c.state event d.state task then tasks.now d.state else c.since task := by
    intro task
    rw [same]
    rfl
  constructor
  · intro task
    rw [since]
    split
    · exact le_refl _
    · exact (onTime.past task).trans (tasks.forward stepped)
  · intro task wait waits
    rw [since]
    split
    · exact le_add_of_nonneg_right (positive wait)
    next goesOn =>
      have before : tasks.waits c.state task = some wait := by
        by_contra other
        exact goesOn (.inr (fun kept => other (kept ▸ waits)))
      exact timely d.state stepped task (tasks.known reached before) goesOn wait before

/-- In a timely run no task is ever over the limit of what it waits for. -/
theorem onTime {limit : Wait → ℚ} {ok : Clocked State Task → Event → Prop} (positive : ∀ wait, 0 ≤ limit wait)
    (timely : ∀ c event, ok c event → tasks.Timely limit c event) {d : Clocked State Task}
    (reached : Reachable tasks.clocked ok d) : tasks.OnTime limit d := by
  have both : Reachable m Always d.state ∧ tasks.OnTime limit d := by
    refine reached.invariant (fun c => Reachable m Always c.state ∧ tasks.OnTime limit c) ?_ ?_
    · intro c start
      refine ⟨⟨c.state, [], start.1, .nil _⟩, fun task => (start.2 task).le, fun task wait _ => ?_⟩
      rw [start.2]
      exact le_add_of_nonneg_right (positive wait)
    · intro c event d held allowed step
      exact ⟨held.1.step trivial (step_eq_some step).1, held.2.step positive held.1 (timely c event allowed) step⟩
  exact both.2

/-- A wait that goes on began when it did. -/
theorem since_kept {c d : Clocked State Task} {event : Event} (step : tasks.clocked.step c event = some d) {task : Task}
    (other : tasks.owner event ≠ some task) (kept : tasks.waits d.state task = tasks.waits c.state task) :
    d.since task = c.since task := by
  obtain ⟨_, same⟩ := step_eq_some step
  rw [same]
  exact if_neg (fun renews => renews.elim other (fun changed => changed kept))

/-- A wait that begins with a step begins then. -/
theorem since_renewed {c d : Clocked State Task} {event : Event} (step : tasks.clocked.step c event = some d)
    {task : Task} (renews : tasks.Renews c.state event d.state task) : d.since task = tasks.now d.state := by
  obtain ⟨_, same⟩ := step_eq_some step
  rw [same]
  exact if_pos renews

/-- Where the own steps of a task each use up one of so many turns, and no other step begins a wait of it or grants it
another turn, it has used them all up by the deadline that they had from the start. -/
theorem countdown {limit : Wait → ℚ} {pace deadline : ℚ} {c d : Clocked State Task} {event : Event} {task : Task}
    {wait : Wait} {turns : ℕ} (left : ℕ) (onTime : tasks.OnTime limit c) (step : tasks.clocked.step c event = some d)
    (waits : tasks.waits c.state task = some wait) (paced : limit wait ≤ pace) (patient : 0 ≤ pace)
    (held : c.since task + turns * pace ≤ deadline)
    (own : tasks.owner event = some task → left + 1 ≤ turns)
    (others : tasks.owner event ≠ some task → tasks.waits d.state task = tasks.waits c.state task ∧ left ≤ turns) :
    d.since task + left * pace ≤ deadline := by
  by_cases mine : tasks.owner event = some task
  · have used : ((left + 1 : ℕ) : ℚ) * pace ≤ turns * pace :=
      mul_le_mul_of_nonneg_right (by exact_mod_cast own mine) patient
    rw [since_renewed step (.inl mine), tasks.instant (step_eq_some step).1 mine]
    have inTime := onTime.within task wait waits
    push_cast at used
    linarith
  · obtain ⟨kept, fewer⟩ := others mine
    have granted : (left : ℚ) * pace ≤ turns * pace := mul_le_mul_of_nonneg_right (by exact_mod_cast fewer) patient
    rw [since_kept step mine kept]
    linarith

end Tasks

section Part
variable {Whole WholeEvent : Type} {tasks : Tasks m Task Wait} {whole : Machine Whole WholeEvent}

/-- A machine as a part of another one: a step of the whole is a step of the part, of the same task, or leaves the part
alone and is no task's. -/
structure Part (tasks : Tasks m Task Wait) (whole : Machine Whole WholeEvent) where
  view : Whole → State
  drives : WholeEvent → Event → Prop
  owner : WholeEvent → Option Task
  start : ∀ {s : Whole}, whole.Start s → m.Start (view s)
  step : ∀ {s t : Whole} {event : WholeEvent}, whole.step s event = some t → (view t = view s ∧ owner event = none) ∨
    ∃ own, m.step (view s) own = some (view t) ∧ drives event own ∧ owner event = tasks.owner own

namespace Part

theorem simulates (part : Part tasks whole) : Simulation whole m part.view where
  start := fun _ start => part.start start
  step := by
    intro s event t step
    rcases part.step step with ⟨same, _⟩ | ⟨own, moved, _⟩
    · exact ⟨[], same ▸ .nil _⟩
    · exact ⟨[own], .cons trivial moved (.nil _)⟩

/-- The tasks of the part, as tasks of the whole. -/
def wholeTasks (part : Part tasks whole) : Tasks whole Task Wait where
  now := fun s => tasks.now (part.view s)
  present := fun s => tasks.present (part.view s)
  waits := fun s => tasks.waits (part.view s)
  owner := part.owner
  forward := by
    intro s t event step
    rcases part.step step with ⟨same, _⟩ | ⟨own, moved, _⟩
    · rw [same]
    · exact tasks.forward moved
  instant := by
    intro s t event task step mine
    rcases part.step step with ⟨same, _⟩ | ⟨own, moved, _, owned⟩
    · rw [same]
    · exact tasks.instant moved (owned ▸ mine)
  known := fun reached waits => tasks.known (part.simulates.reachable reached) waits

/-- The part of a clocked whole, with its clock. -/
def clock (part : Part tasks whole) (c : Clocked Whole Task) : Clocked State Task := ⟨part.view c.state, c.since⟩

variable [DecidableEq Task] [DecidableEq Wait] {part : Part tasks whole}

theorem clock_step {c d : Clocked Whole Task} {event : WholeEvent}
    (step : part.wholeTasks.clocked.step c event = some d) : part.clock d = part.clock c ∨
      ∃ own, tasks.clocked.step (part.clock c) own = some (part.clock d) ∧ part.drives event own ∧
        ∀ limit, part.wholeTasks.Timely limit c event → tasks.Timely limit (part.clock c) own := by
  obtain ⟨stepped, _⟩ := Tasks.step_eq_some step
  rcases part.step stepped with ⟨same, idle⟩ | ⟨own, moved, drives, owned⟩
  · left
    have kept : d.since = c.since := by
      funext task
      refine Tasks.since_kept step (fun mine => ?_) (congrArg (fun s => tasks.waits s task) same)
      change part.owner event = some task at mine
      rw [idle] at mine
      cases mine
    unfold clock
    rw [same, kept]
  · right
    have renews : ∀ task, part.wholeTasks.Renews c.state event d.state task ↔
        tasks.Renews (part.view c.state) own (part.view d.state) task := by
      intro task
      change part.owner event = some task ∨ _ ↔ _
      rw [owned]
      exact Iff.rfl
    have since : d.since = (tasks.next (part.clock c) own (part.view d.state)).since := by
      funext task
      by_cases begins : part.wholeTasks.Renews c.state event d.state task
      · exact (Tasks.since_renewed step begins).trans (if_pos ((renews task).mp begins)).symm
      · have kept : d.since task = c.since task :=
          Tasks.since_kept step (fun mine => begins (.inl mine)) (not_not.mp fun changed => begins (.inr changed))
        exact kept.trans (if_neg (fun again => begins ((renews task).mpr again))).symm
    refine ⟨own, ?_, drives, ?_⟩
    · change (m.step (part.view c.state) own).map (tasks.next (part.clock c) own) = _
      rw [moved, Option.map_some]
      exact congrArg some (congrArg (Clocked.mk (part.view d.state)) since.symm)
    · intro limit timely t moved' task present goesOn wait waits
      obtain rfl : t = part.view d.state := Option.some.inj ((Option.mem_def.mp moved').symm.trans moved)
      exact timely d.state stepped task present (fun again => goesOn ((renews task).mp again)) wait waits

/-- A run of the whole that is timely is a timely run of the part. -/
theorem run {ok : Clocked Whole Task → WholeEvent → Prop} {wider : Clocked State Task → Event → Prop}
    (allows : ∀ c event own, ok c event → part.drives event own →
      (∀ limit, part.wholeTasks.Timely limit c event → tasks.Timely limit (part.clock c) own) →
        wider (part.clock c) own)
    {c d : Clocked Whole Task} {events : List WholeEvent} (run : Run part.wholeTasks.clocked ok c events d) :
    ∃ owns, Run tasks.clocked wider (part.clock c) owns (part.clock d) := by
  induction run with
  | nil c => exact ⟨[], .nil _⟩
  | cons allowed step _ ih =>
    obtain ⟨rest, right⟩ := ih
    rcases clock_step step with same | ⟨own, moved, drives, timely⟩
    · exact ⟨rest, same ▸ right⟩
    · exact ⟨own :: rest, .cons (allows _ _ _ allowed drives timely) moved right⟩

theorem reachable {ok : Clocked Whole Task → WholeEvent → Prop}
    {wider : Clocked State Task → Event → Prop}
    (allows : ∀ c event own, ok c event → part.drives event own →
      (∀ limit, part.wholeTasks.Timely limit c event → tasks.Timely limit (part.clock c) own) →
        wider (part.clock c) own)
    {d : Clocked Whole Task} (reached : Reachable part.wholeTasks.clocked ok d) :
    Reachable tasks.clocked wider (part.clock d) := by
  obtain ⟨c, events, start, led⟩ := reached
  obtain ⟨owns, matched⟩ := run allows led
  exact ⟨part.clock c, owns, ⟨part.start start.1, start.2⟩, matched⟩

end Part

end Part

end HueEntertainment.Clocks
