import HueEntertainment.Runs
import Mathlib.Logic.Function.Basic

/-! `FrameMailbox`, the hand-off from the threads that receive frames to the event loop, under any
interleaving of its locked sections and of the calls between them. A frame is only stored and passed on,
so it may be of any type. -/

namespace HueEntertainment.Mailbox
open Runs

structure FrameMailbox (Frame : Type) where
  latest : Option Frame := none
  scheduled : Bool := false
  coalesced : Nat := 0
  deriving Repr

section
variable {Frame : Type}

/-- The locked section of `put`. The flag tells the caller to go on to `call_soon_threadsafe`. -/
def FrameMailbox.put (box : FrameMailbox Frame) (frame : Frame) : FrameMailbox Frame × Bool :=
  let box := if box.latest.isSome then { box with coalesced := box.coalesced + 1 } else box
  let box := { box with latest := some frame }
  if box.scheduled then (box, false) else ({ box with scheduled := true }, true)

/-- The locked section of `put` after `call_soon_threadsafe` has raised `RuntimeError`. -/
def FrameMailbox.unschedule (box : FrameMailbox Frame) : FrameMailbox Frame :=
  { box with scheduled := false }

/-- The locked section of `_deliver`. -/
def FrameMailbox.deliver (box : FrameMailbox Frame) : Option Frame × FrameMailbox Frame :=
  (box.latest, { box with latest := none, scheduled := false })

/-- A frame that is replaced is counted, and whoever finds no delivery scheduled schedules one. -/
theorem put_eq (box : FrameMailbox Frame) (frame : Frame) :
    box.put frame = (⟨some frame, true, box.coalesced + box.latest.toList.length⟩, !box.scheduled) := by
  obtain ⟨latest, scheduled, coalesced⟩ := box
  cases latest <;> cases scheduled <;> rfl

end

/-- Where a thread that called `put` is after the locked section: before `call_soon_threadsafe`, or before
the section that runs when that failed. -/
inductive Stage where
  | scheduling | resetting
  deriving DecidableEq, Repr

/-- `pending` counts the `_deliver` callbacks in the loop's ready queue. `delivering` is what a running
`_deliver` took, until it has called the handler. The histories have the newest frame first. -/
structure State (Thread Frame : Type) where
  box : FrameMailbox Frame := {}
  producers : Thread → Option Stage := fun _ => none
  pending : Nat := 0
  delivering : Option (Option Frame) := none
  puts : List Frame := []
  handled : List Frame := []

inductive Event (Thread Frame : Type) where
  | put (thread : Thread) (frame : Frame)
  | schedule (thread : Thread) (succeeds : Bool)
  | reset (thread : Thread)
  | deliver
  | handle

section
variable {Thread Frame : Type} [DecidableEq Thread]

def State.enter (s : State Thread Frame) (thread : Thread) (stage : Option Stage) : State Thread Frame :=
  { s with producers := Function.update s.producers thread stage }

@[simp] theorem enter_self (s : State Thread Frame) (thread : Thread) (stage : Option Stage) :
    (s.enter thread stage).producers thread = stage := Function.update_self _ _ _

theorem enter_other {s : State Thread Frame} {thread other : Thread} {stage : Option Stage}
    (elsewhere : other ≠ thread) : (s.enter thread stage).producers other = s.producers other :=
  Function.update_of_ne elsewhere _ _

def step (s : State Thread Frame) : Event Thread Frame → Option (State Thread Frame)
  | .put thread frame =>
      if s.producers thread = none then
        let (box, schedules) := s.box.put frame
        some ({ s with box, puts := frame :: s.puts }.enter thread (if schedules then some .scheduling else none))
      else none
  | .schedule thread succeeds =>
      if s.producers thread = some .scheduling then
        if succeeds then some ({ s with pending := s.pending + 1 }.enter thread none)
        else some (s.enter thread (some .resetting))
      else none
  | .reset thread =>
      if s.producers thread = some .resetting then
        some ({ s with box := s.box.unschedule }.enter thread none)
      else none
  | .deliver =>
      -- the loop runs one callback at a time
      if 0 < s.pending ∧ s.delivering.isNone then
        let (frame, box) := s.box.deliver
        some { s with box, pending := s.pending - 1, delivering := some frame }
      else none
  | .handle =>
      match s.delivering with
      | some (some frame) => some { s with delivering := none, handled := frame :: s.handled }
      | some none => some { s with delivering := none }
      | none => none

/-- What each step can do. -/
inductive Move (s : State Thread Frame) : Event Thread Frame → State Thread Frame → Prop where
  | put {thread : Thread} {frame : Frame} : s.producers thread = none →
      Move s (.put thread frame)
        ({ s with box := ⟨some frame, true, s.box.coalesced + s.box.latest.toList.length⟩,
                  puts := frame :: s.puts }.enter thread (if s.box.scheduled then none else some .scheduling))
  | schedule {thread : Thread} : s.producers thread = some .scheduling →
      Move s (.schedule thread true) ({ s with pending := s.pending + 1 }.enter thread none)
  | fail {thread : Thread} : s.producers thread = some .scheduling →
      Move s (.schedule thread false) (s.enter thread (some .resetting))
  | reset {thread : Thread} : s.producers thread = some .resetting →
      Move s (.reset thread) ({ s with box := { s.box with scheduled := false } }.enter thread none)
  | deliver : 0 < s.pending → s.delivering = none →
      Move s .deliver
        { s with box := { s.box with latest := none, scheduled := false },
                 pending := s.pending - 1, delivering := some s.box.latest }
  | handle {taken : Option Frame} : s.delivering = some taken →
      Move s .handle { s with delivering := none, handled := taken.toList ++ s.handled }

theorem step_move {s t : State Thread Frame} {event : Event Thread Frame} (moved : step s event = some t) :
    Move s event t := by
  cases event with
  | put thread frame =>
    by_cases idle : s.producers thread = none
    · simp only [step, if_pos idle, put_eq, Option.some.injEq] at moved
      subst t
      have moves : Move s (.put thread frame) _ := .put idle
      cases found : s.box.scheduled <;> simpa [found] using moves
    · simp [step, idle] at moved
  | schedule thread succeeds =>
    by_cases scheduling : s.producers thread = some .scheduling
    · cases succeeds with
      | true => exact Option.some.inj ((if_pos scheduling).symm.trans moved) ▸ .schedule scheduling
      | false => exact Option.some.inj ((if_pos scheduling).symm.trans moved) ▸ .fail scheduling
    · simp [step, scheduling] at moved
  | reset thread =>
    by_cases resetting : s.producers thread = some .resetting
    · exact Option.some.inj ((if_pos resetting).symm.trans moved) ▸ .reset resetting
    · simp [step, resetting] at moved
  | deliver =>
    by_cases free : 0 < s.pending ∧ s.delivering.isNone
    · exact Option.some.inj ((if_pos free).symm.trans moved) ▸ .deliver free.1 (Option.isNone_iff_eq_none.mp free.2)
    · cases (if_neg free).symm.trans moved
  | handle =>
    cases taken : s.delivering with
    | none => simp [step, taken] at moved
    | some frame =>
      have moves := Move.handle taken
      cases frame <;> (simp only [step, taken, Option.some.injEq] at moved; subst t; exact moves)

/-- A mailbox as it is constructed, that nobody uses yet. -/
def machine (Thread Frame : Type) [DecidableEq Thread] : Machine (State Thread Frame) (Event Thread Frame) :=
  ⟨fun s => s = {}, step⟩

/-- `call_soon_threadsafe` succeeds. -/
def Succeeds (_ : State Thread Frame) : Event Thread Frame → Prop
  | .schedule _ succeeds => succeeds = true
  | _ => True

/-- The step is not the locked section of a `put`. -/
def NoPut (_ : State Thread Frame) : Event Thread Frame → Prop
  | .put _ _ => False
  | _ => True

/-- Who has `_scheduled` to clear: nobody, the one callback that is pending, or the one thread whose `put`
has not scheduled it yet. -/
inductive Handover (s : State Thread Frame) : Prop where
  | nobody : s.box.scheduled = false → s.pending = 0 → (∀ thread, s.producers thread = none) → Handover s
  | callback : s.box.scheduled = true → s.pending = 1 → (∀ thread, s.producers thread = none) → Handover s
  | producer (thread : Thread) : s.box.scheduled = true → s.pending = 0 → s.producers thread ≠ none →
      (∀ other, other ≠ thread → s.producers other = none) → Handover s

omit [DecidableEq Thread] in
theorem Handover.pending_le {s : State Thread Frame} (handover : Handover s) : s.pending ≤ 1 := by
  cases handover with
  | nobody _ pending _ => exact pending ▸ Nat.zero_le 1
  | callback _ pending _ => exact Nat.le_of_eq pending
  | producer _ _ pending _ _ => exact pending ▸ Nat.zero_le 1

omit [DecidableEq Thread] in
/-- A thread inside `put` is the one that has the flag to clear. -/
theorem Handover.of_producer {s : State Thread Frame} {thread : Thread} (handover : Handover s)
    (busy : s.producers thread ≠ none) :
    s.box.scheduled = true ∧ s.pending = 0 ∧ ∀ other, other ≠ thread → s.producers other = none := by
  cases handover with
  | nobody _ _ idle => exact absurd (idle thread) busy
  | callback _ _ idle => exact absurd (idle thread) busy
  | producer holder scheduled pending _ others =>
    have same : thread = holder := by
      by_contra other
      exact busy (others thread other)
    exact ⟨scheduled, pending, same ▸ others⟩

/-- Once the one thread inside `put` has left it, every thread is outside. -/
theorem idle_update {producers : Thread → Option Stage} {thread : Thread}
    (others : ∀ other, other ≠ thread → producers other = none) (other : Thread) :
    Function.update producers thread none other = none := by
  by_cases same : other = thread
  · subst other
    exact Function.update_self _ _ _
  · exact (Function.update_of_ne same _ _).trans (others other same)

theorem Handover.step {s t : State Thread Frame} {event : Event Thread Frame} (handover : Handover s)
    (moved : Move s event t) : Handover t := by
  cases moved with
  | @put thread frame idle =>
    cases handover with
    | nobody scheduled pending others =>
      rw [scheduled]
      refine .producer thread rfl pending ?_ (fun other elsewhere => ?_)
      · simp
      · exact (enter_other elsewhere).trans (others other)
    | callback scheduled pending others =>
      rw [scheduled]
      exact .callback rfl pending (idle_update (fun other _ => others other))
    | producer holder scheduled pending busy others =>
      rw [scheduled]
      -- the thread stays outside, as every thread but the holder does
      have unchanged : Function.update s.producers thread none = s.producers := by
        rw [← idle]
        exact Function.update_eq_self thread s.producers
      refine .producer holder rfl pending ?_ ?_
      · exact fun gone => busy ((congrFun unchanged holder).symm.trans gone)
      · exact fun other elsewhere => (congrFun unchanged other).trans (others other elsewhere)
  | @schedule thread scheduling =>
    obtain ⟨scheduled, pending, others⟩ := handover.of_producer (scheduling ▸ Option.some_ne_none _)
    exact .callback scheduled (congrArg (· + 1) pending) (idle_update others)
  | @fail thread scheduling =>
    obtain ⟨scheduled, pending, others⟩ := handover.of_producer (scheduling ▸ Option.some_ne_none _)
    refine .producer thread scheduled pending ?_ (fun other elsewhere => ?_)
    · simp
    · exact (enter_other elsewhere).trans (others other elsewhere)
  | @reset thread resetting =>
    obtain ⟨_, pending, others⟩ := handover.of_producer (resetting ▸ Option.some_ne_none _)
    exact .nobody rfl pending (idle_update others)
  | deliver free _ =>
    cases handover with
    | nobody _ pending _ => exact absurd (pending ▸ free) (Nat.lt_irrefl 0)
    | callback _ pending others => exact .nobody rfl (congrArg (· - 1) pending) others
    | producer _ _ pending _ _ => exact absurd (pending ▸ free) (Nat.lt_irrefl 0)
  | handle _ =>
    cases handover with
    | nobody scheduled pending others => exact .nobody scheduled pending others
    | callback scheduled pending others => exact .callback scheduled pending others
    | producer holder scheduled pending busy others => exact .producer holder scheduled pending busy others

theorem handover {ok : State Thread Frame → Event Thread Frame → Prop} {s : State Thread Frame}
    (reached : Reachable (machine Thread Frame) ok s) : Handover s := by
  apply reached.invariant Handover
  · intro s start
    cases start
    exact .nobody rfl rfl (fun _ => rfl)
  · intro s event t before _ moved
    exact before.step (step_move moved)

/-- What the mailbox and a running `_deliver` have not passed on yet, newest first. -/
def State.held (s : State Thread Frame) : List Frame := s.box.latest.toList ++ s.delivering.join.toList

/-- Every frame put is handled, replaced or still held; those handled or held come in the order of the
puts, the stored one being the newest. -/
structure Accounted (s : State Thread Frame) : Prop where
  balance : s.puts.length = s.handled.length + s.box.coalesced + s.held.length
  order : (s.held ++ s.handled).Sublist s.puts
  newest : ∀ frame, s.box.latest = some frame → s.puts.head? = some frame

theorem Accounted.step {s t : State Thread Frame} {event : Event Thread Frame} (accounted : Accounted s)
    (moved : Move s event t) : Accounted t := by
  obtain ⟨balance, order, newest⟩ := accounted
  simp only [State.held, List.length_append] at balance order
  cases moved with
  | @put thread frame idle =>
    refine ⟨?_, ?_, ?_⟩
    · simp only [State.enter, State.held, List.length_append, List.length_cons, Option.toList_some,
        List.length_nil]
      omega
    · have kept : (s.delivering.join.toList ++ s.handled).Sublist s.puts :=
        (List.sublist_append_right _ _).trans (by rwa [List.append_assoc] at order)
      exact kept.cons_cons frame
    · exact fun _ stored => stored
  | schedule _ => exact ⟨by simpa [State.enter, State.held] using balance, order, newest⟩
  | fail _ => exact ⟨by simpa [State.enter, State.held] using balance, order, newest⟩
  | reset _ => exact ⟨by simpa [State.enter, State.held] using balance, order, newest⟩
  | deliver _ free =>
    rw [free] at balance order
    refine ⟨?_, ?_, nofun⟩
    · simpa [State.held] using balance
    · simpa [State.held] using order
  | @handle taken delivering =>
    rw [delivering] at balance order
    refine ⟨?_, ?_, newest⟩
    · simp only [State.held, Option.join_none, Option.toList_none, List.append_nil, List.length_append]
      simp only [Option.join_some] at balance
      omega
    · simpa [State.held] using order

theorem accounted {ok : State Thread Frame → Event Thread Frame → Prop} {s : State Thread Frame}
    (reached : Reachable (machine Thread Frame) ok s) : Accounted s := by
  apply reached.invariant Accounted
  · intro s start
    cases start
    exact ⟨rfl, .slnil, nofun⟩
  · intro s event t before _ moved
    exact before.step (step_move moved)

/-- While every `call_soon_threadsafe` succeeds nobody has to clear the flag again, and a stored frame
has it set. -/
structure Wakes (s : State Thread Frame) : Prop where
  stored : s.box.latest.isSome → s.box.scheduled = true
  forward : ∀ thread, s.producers thread ≠ some .resetting

theorem Wakes.step {s t : State Thread Frame} {event : Event Thread Frame} (wakes : Wakes s)
    (succeeds : Succeeds s event) (moved : Move s event t) : Wakes t := by
  obtain ⟨stored, forward⟩ := wakes
  have entering : ∀ (thread : Thread) (stage : Option Stage), stage ≠ some .resetting →
      ∀ other, Function.update s.producers thread stage other ≠ some .resetting := by
    intro thread stage onward other
    by_cases same : other = thread
    · subst other
      rwa [Function.update_self]
    · rw [Function.update_of_ne same]
      exact forward other
  cases moved with
  | put _ =>
    refine ⟨fun _ => rfl, entering _ _ ?_⟩
    split <;> exact nofun
  | schedule _ => exact ⟨stored, entering _ _ nofun⟩
  | fail _ => cases succeeds
  | reset resetting => exact absurd resetting (forward _)
  | deliver _ _ => exact ⟨nofun, forward⟩
  | handle _ => exact ⟨stored, forward⟩

theorem wakes {s : State Thread Frame} (reached : Reachable (machine Thread Frame) Succeeds s) : Wakes s := by
  apply reached.invariant Wakes
  · intro s start
    cases start
    exact ⟨nofun, fun _ => nofun⟩
  · intro s event t before succeeds moved
    exact before.step succeeds (step_move moved)

/-- While every `call_soon_threadsafe` succeeds, a stored frame has a callback that is pending or about
to be scheduled. -/
theorem stored_pending {s : State Thread Frame} (reached : Reachable (machine Thread Frame) Succeeds s)
    (stored : s.box.latest.isSome) : 0 < s.pending ∨ ∃ thread, s.producers thread = some .scheduling := by
  have awake := wakes reached
  cases handover reached with
  | nobody scheduled _ _ => exact absurd (awake.stored stored) (Bool.eq_false_iff.mp scheduled)
  | callback _ pending _ => exact .inl (pending ▸ Nat.one_pos)
  | producer holder _ _ busy _ =>
    cases stage : s.producers holder with
    | none => exact absurd stage busy
    | some stage' =>
      cases stage' with
      | scheduling => exact .inr ⟨holder, stage⟩
      | resetting => exact absurd stage (awake.forward holder)

/-- Only a `put` sets the flag. -/
theorem unscheduled_step {s t : State Thread Frame} {event : Event Thread Frame}
    (clear : s.box.scheduled = false) (quiet : NoPut s event) (moved : Move s event t) : t.box.scheduled = false := by
  cases moved with
  | put _ => exact quiet.elim
  | schedule _ => exact clear
  | fail _ => exact clear
  | reset _ => rfl
  | deliver _ _ => rfl
  | handle _ => exact clear

/-- The first `put` after a reset goes on to `call_soon_threadsafe`. -/
theorem reset_schedules {s t u v : State Thread Frame} {failing thread : Thread} {frame : Frame}
    {events : List (Event Thread Frame)} (reset : step s (.reset failing) = some t)
    (between : Run (machine Thread Frame) NoPut t events u) (put : step u (.put thread frame) = some v) :
    v.producers thread = some .scheduling := by
  have cleared : t.box.scheduled = false := by
    cases step_move reset with
    | reset _ => rfl
  have clear : u.box.scheduled = false :=
    between.invariant (fun s => s.box.scheduled = false)
      (fun _ _ _ clear quiet moved => unscheduled_step clear quiet (step_move moved)) cleared
  cases step_move put with
  | put _ =>
    rw [clear]
    exact enter_self _ _ _

/-- Between deliveries every frame put is handled, counted as coalesced or stored. The handled frames come
in the order of the puts, each once, and at most one delivery is pending. While no schedule fails a stored
frame, the newest one, has a delivery pending or about to be scheduled, and after a failed one the next
`put` schedules again. -/
theorem nothing_lost {s : State Thread Frame} (reached : Reachable (machine Thread Frame) Always s) :
    (s.delivering = none →
      s.puts.length = s.handled.length + s.box.coalesced + (if s.box.latest.isSome then 1 else 0)) ∧
    s.handled.Sublist s.puts ∧ (s.puts.Nodup → s.handled.Nodup) ∧
    s.pending ≤ 1 ∧
    (∀ frame, s.box.latest = some frame → s.puts.head? = some frame) ∧
    (Reachable (machine Thread Frame) Succeeds s → s.box.latest.isSome →
      0 < s.pending ∨ ∃ thread, s.producers thread = some .scheduling) ∧
    (∀ failing t events u thread frame v, step s (.reset failing) = some t →
      Run (machine Thread Frame) NoPut t events u → step u (.put thread frame) = some v →
      v.producers thread = some .scheduling) := by
  obtain ⟨balance, order, newest⟩ := accounted reached
  have handled : s.handled.Sublist s.puts := (List.sublist_append_right _ _).trans order
  refine ⟨?_, handled, fun distinct => distinct.sublist handled, (handover reached).pending_le, newest,
    stored_pending, fun _ _ _ _ _ _ _ => reset_schedules⟩
  intro between
  rw [balance, State.held, between]
  cases s.box.latest <;> rfl

/-- Two threads put, and the first one's `call_soon_threadsafe` fails. -/
theorem nothing_lost_failedSchedule :
    ∃ s, Reachable (machine Bool Nat) Always s ∧ s.puts = [3, 2, 1] ∧ s.handled.length + s.box.coalesced = 3 ∧
      s.handled.Sublist s.puts := by
  have played : (play (machine Bool Nat) Always {}
      [.put false 1, .put true 2, .schedule false false, .reset false, .put true 3, .schedule true true,
        .deliver, .handle]).any (fun s => s.puts = [3, 2, 1] && s.delivering = none && s.box.latest = none) =
      true := by
    decide +kernel
  obtain ⟨s, run, shape⟩ := (Option.any_eq_true _ _).mp played
  simp only [Bool.and_eq_true, decide_eq_true_eq] at shape
  obtain ⟨⟨puts, between⟩, stored⟩ := shape
  have reached := reachable_of_play rfl run
  obtain ⟨balance, order, _⟩ := nothing_lost reached
  have counted := balance between
  rw [puts, stored] at counted
  exact ⟨s, reached, puts, counted.symm, order⟩

end

end HueEntertainment.Mailbox
