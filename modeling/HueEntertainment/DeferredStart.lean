import HueEntertainment.Runs
import HueEntertainment.TaskTable

/-! The entry while Home Assistant starts, runs and stops: its servers start with it, or when Home Assistant has
started, and stop when it is unloaded or Home Assistant stops. -/

namespace HueEntertainment.DeferredStart
open Runs TaskTable

abbrev AttemptId := Nat

/-- `hass.state`: before Home Assistant runs, while it does, and from its stop on. -/
inductive CoreState where
  | starting | running | stopping
  deriving DecidableEq, Repr

/-- What `_async_start` is waiting for. -/
inductive Stage where
  | api | dtls | discovery
  deriving DecidableEq, Repr

/-- What `async_unload_entry` or `_async_stop` stops next, after the DTLS server. -/
inductive Halt where
  | api | discovery | restore
  deriving DecidableEq, Repr

/-- One call of `async_setup_entry`: whether it awaits `_async_start` itself, its listeners for the two events of Home
Assistant, the calls of `_async_start` and of `_async_stop` under way, and what has been started and not stopped. -/
structure Attempt where
  direct : Bool
  onStarted : Bool
  onStop : Bool
  starting : Option Stage
  halting : Option Halt := none
  api : Bool := false
  dtls : Bool := false
  advertised : Bool := false
  deriving DecidableEq, Repr

inductive Entry where
  | idle
  | settingUp (attempt : AttemptId)
  | loaded (attempt : AttemptId)
  | unloading (attempt : AttemptId) (next : Halt) (platformsUnloaded : Bool)
  | failedUnload
  deriving DecidableEq, Repr

structure Hass where
  core : CoreState := .starting
  attempts : AttemptId → Option Attempt := fun _ => none
  nextAttempt : AttemptId := 0
  entry : Entry := .idle

/-- How what `_async_start` awaits comes back: with an `OSError`, or with another error. -/
inductive Outcome where
  | ok | refused | raised
  deriving DecidableEq, Repr

/-- `_async_start` goes on to its next `await`, or is over. -/
def Attempt.advance (a : Attempt) : Stage → Attempt
  | .api => { a with api := true, starting := some .dtls }
  | .dtls => { a with dtls := true, starting := some .discovery }
  | .discovery => { a with advertised := true, starting := none, onStop := a.onStop || a.direct }

/-- The `except OSError` of `_async_start`. -/
def Attempt.rollBack (a : Attempt) : Attempt := { a with dtls := false, api := false, starting := none }

/-- What a stop path does next, after the DTLS server. -/
def Attempt.halt (a : Attempt) : Halt → Attempt
  | .api => { a with api := false }
  | .discovery => { a with advertised := false }
  | .restore => a

def Halt.next : Halt → Option Halt
  | .api => some .discovery
  | .discovery => some .restore
  | .restore => none

/-- Home Assistant has started: `_async_deferred_start` of each that listens is called. -/
def Attempt.started (a : Attempt) : Attempt :=
  if a.onStarted then { a with onStarted := false, starting := some .api } else a

/-- Home Assistant stops: `_async_stop` of each that listens is called. -/
def Attempt.stopped (a : Attempt) : Attempt :=
  if a.onStop then { a with onStop := false, dtls := false, halting := some .api } else a

/-- The functions of `async_on_unload`; `_cancel_deferred_start` leaves a Home Assistant that runs alone. -/
def Attempt.processOnUnload (a : Attempt) (core : CoreState) : Attempt :=
  { a with onStarted := if core = .running then a.onStarted else false, onStop := false }

namespace Hass

def set (s : Hass) (attempt : AttemptId) (a : Attempt) : Hass :=
  { s with attempts := Function.update s.attempts attempt (some a) }

/-- `async_setup_entry` raises when it awaited the start itself. -/
def fail (s : Hass) (attempt : AttemptId) (a : Attempt) : Hass :=
  { s.set attempt a with entry := if a.direct then .idle else s.entry }

/-- A step of `async_unload_entry`; when it returns `False` nothing else is done. -/
def unloadNext (s : Hass) (attempt : AttemptId) (a : Attempt) (next : Halt) (platformsUnloaded : Bool) : Hass :=
  match next.next with
  | some later => { s.set attempt (a.halt next) with entry := .unloading attempt later platformsUnloaded }
  | none =>
      if platformsUnloaded then { s.set attempt (a.processOnUnload s.core) with entry := .idle }
      else { s with entry := .failedUnload }

end Hass

/-- `unload` is the moment at which the platforms have been unloaded, or could not be, and the DTLS server is stopped. -/
inductive Event where
  | setup
  | start (attempt : AttemptId) (outcome : Outcome)
  | finish
  | started
  | unload (platformsUnloaded : Bool)
  | unloadNext
  | stop
  | stopNext (attempt : AttemptId)
  deriving DecidableEq, Repr

/-- Home Assistant sets no entry up when it stops; an `OSError` while registering with mDNS is as any other error. -/
def step (s : Hass) : Event → Option Hass
  | .setup =>
      match s.entry, s.core with
      | .idle, .starting =>
          some { s.set s.nextAttempt ⟨false, true, true, none, none, false, false, false⟩ with
            nextAttempt := s.nextAttempt + 1, entry := .settingUp s.nextAttempt }
      | .idle, .running =>
          some { s.set s.nextAttempt ⟨true, false, false, some .api, none, false, false, false⟩ with
            nextAttempt := s.nextAttempt + 1, entry := .settingUp s.nextAttempt }
      | _, _ => none
  | .start attempt outcome =>
      (s.attempts attempt).bind (fun a => a.starting.bind (fun stage =>
        match outcome, stage with
        | .ok, _ => some (s.set attempt (a.advance stage))
        | .refused, .discovery => none
        | .refused, _ => some (s.fail attempt a.rollBack)
        | .raised, _ => some (s.fail attempt { a with starting := none })))
  | .finish =>
      match s.entry with
      | .settingUp attempt =>
          (s.attempts attempt).bind (fun a =>
            if a.direct ∧ a.starting ≠ none then none else some { s with entry := .loaded attempt })
      | _ => none
  | .started =>
      if s.core = .starting then
        some { s with core := .running, attempts := fun attempt => (s.attempts attempt).map Attempt.started }
      else none
  | .unload platformsUnloaded =>
      match s.entry with
      | .loaded attempt =>
          (s.attempts attempt).map (fun a =>
            { s.set attempt { a with dtls := false } with entry := .unloading attempt .api platformsUnloaded })
      | _ => none
  | .unloadNext =>
      match s.entry with
      | .unloading attempt next platformsUnloaded =>
          (s.attempts attempt).map (fun a => s.unloadNext attempt a next platformsUnloaded)
      | _ => none
  | .stop =>
      if s.core = .stopping then none
      else some { s with core := .stopping, attempts := fun attempt => (s.attempts attempt).map Attempt.stopped }
  | .stopNext attempt =>
      (s.attempts attempt).bind (fun a => a.halting.map (fun next =>
        s.set attempt { a.halt next with halting := next.next }))

def machine : Machine Hass Event := ⟨fun s => s = {}, step⟩

/-- What each step can do. -/
inductive Move (s : Hass) : Event → Hass → Prop where
  | deferred : s.entry = .idle → s.core = .starting →
      Move s .setup { s.set s.nextAttempt ⟨false, true, true, none, none, false, false, false⟩ with
        nextAttempt := s.nextAttempt + 1, entry := .settingUp s.nextAttempt }
  | direct : s.entry = .idle → s.core = .running →
      Move s .setup { s.set s.nextAttempt ⟨true, false, false, some .api, none, false, false, false⟩ with
        nextAttempt := s.nextAttempt + 1, entry := .settingUp s.nextAttempt }
  | advanced {attempt : AttemptId} {a : Attempt} {stage : Stage} : s.attempts attempt = some a →
      a.starting = some stage → Move s (.start attempt .ok) (s.set attempt (a.advance stage))
  | refused {attempt : AttemptId} {a : Attempt} {stage : Stage} : s.attempts attempt = some a →
      a.starting = some stage → Move s (.start attempt .refused) (s.fail attempt a.rollBack)
  | raised {attempt : AttemptId} {a : Attempt} {stage : Stage} : s.attempts attempt = some a →
      a.starting = some stage → Move s (.start attempt .raised) (s.fail attempt { a with starting := none })
  | finish {attempt : AttemptId} {a : Attempt} : s.entry = .settingUp attempt → s.attempts attempt = some a →
      (a.direct = true → a.starting = none) → Move s .finish { s with entry := .loaded attempt }
  | started : s.core = .starting →
      Move s .started
        { s with core := .running, attempts := fun attempt => (s.attempts attempt).map Attempt.started }
  | unload {attempt : AttemptId} {a : Attempt} (platformsUnloaded : Bool) : s.entry = .loaded attempt →
      s.attempts attempt = some a →
      Move s (.unload platformsUnloaded)
        { s.set attempt { a with dtls := false } with entry := .unloading attempt .api platformsUnloaded }
  | unloadNext {attempt : AttemptId} {a : Attempt} {next : Halt} {platformsUnloaded : Bool} :
      s.entry = .unloading attempt next platformsUnloaded → s.attempts attempt = some a →
      Move s .unloadNext (s.unloadNext attempt a next platformsUnloaded)
  | stop : s.core ≠ .stopping →
      Move s .stop { s with core := .stopping, attempts := fun attempt => (s.attempts attempt).map Attempt.stopped }
  | stopNext {attempt : AttemptId} {a : Attempt} {next : Halt} : s.attempts attempt = some a →
      a.halting = some next → Move s (.stopNext attempt) (s.set attempt { a.halt next with halting := next.next })

theorem step_move {s t : Hass} {event : Event} (moved : step s event = some t) : Move s event t := by
  cases event with
  | setup =>
    simp only [step] at moved
    split at moved
    next idle starting =>
      cases moved
      exact .deferred idle starting
    next idle running =>
      cases moved
      exact .direct idle running
    next => cases moved
  | start attempt outcome =>
    obtain ⟨a, found, rest⟩ := Option.bind_eq_some_iff.mp moved
    obtain ⟨stage, waiting, came⟩ := Option.bind_eq_some_iff.mp rest
    cases outcome with
    | ok =>
      cases came
      exact .advanced found waiting
    | refused =>
      cases stage with
      | discovery => cases came
      | api =>
        cases came
        exact .refused found waiting
      | dtls =>
        cases came
        exact .refused found waiting
    | raised =>
      cases came
      exact .raised found waiting
  | finish =>
    simp only [step] at moved
    split at moved
    next attempt entry =>
      obtain ⟨a, found, rest⟩ := Option.bind_eq_some_iff.mp moved
      split at rest
      next => cases rest
      next ended =>
        cases rest
        exact .finish entry found (fun direct => by_contra (fun waiting => ended ⟨direct, waiting⟩))
    next => cases moved
  | started =>
    simp only [step] at moved
    split at moved
    next starting =>
      cases moved
      exact .started starting
    next => cases moved
  | unload platformsUnloaded =>
    simp only [step] at moved
    split at moved
    next attempt entry =>
      obtain ⟨a, found, rfl⟩ := Option.map_eq_some_iff.mp moved
      exact .unload platformsUnloaded entry found
    next => cases moved
  | unloadNext =>
    simp only [step] at moved
    split at moved
    next attempt next platformsUnloaded entry =>
      obtain ⟨a, found, rfl⟩ := Option.map_eq_some_iff.mp moved
      exact .unloadNext entry found
    next => cases moved
  | stop =>
    simp only [step] at moved
    split at moved
    next => cases moved
    next alive =>
      cases moved
      exact .stop alive
  | stopNext attempt =>
    obtain ⟨a, found, rest⟩ := Option.bind_eq_some_iff.mp moved
    obtain ⟨next, halting, rfl⟩ := Option.map_eq_some_iff.mp rest
    exact .stopNext found halting

/-- The entry is set up by this attempt, or it is being so. -/
def Entry.Opens (entry : Entry) (attempt : AttemptId) : Prop := entry = .settingUp attempt ∨ entry = .loaded attempt

/-- Also while the entry is unloaded from it. -/
def Entry.Owns (entry : Entry) (attempt : AttemptId) : Prop :=
  entry.Opens attempt ∨ ∃ next platformsUnloaded, entry = .unloading attempt next platformsUnloaded

instance (entry : Entry) (attempt : AttemptId) : Decidable (entry.Opens attempt) :=
  inferInstanceAs (Decidable (_ ∨ _))

def Attempt.Quiet (a : Attempt) : Prop := a.api = false ∧ a.dtls = false ∧ a.advertised = false

instance (a : Attempt) : Decidable a.Quiet := inferInstanceAs (Decidable (_ ∧ _))

/-- Nothing runs of an attempt that the entry is not set up by, nor when its `_async_stop` is over or was never
called. -/
def Sound (s : Hass) : Prop := ∀ attempt a, s.attempts attempt = some a →
  ¬s.entry.Owns attempt ∨ (s.core = .stopping ∧ a.halting = none) → a.Quiet

namespace Hass

/-- What the `_async_start` of an attempt is waiting for. -/
def underWay (s : Hass) (attempt : AttemptId) : Option Stage := (s.attempts attempt).bind Attempt.starting

def listens (s : Hass) (attempt : AttemptId) : Bool := (s.attempts attempt).any Attempt.onStarted

def isDirect (s : Hass) (attempt : AttemptId) : Bool := (s.attempts attempt).any Attempt.direct

end Hass

/-- No entry is unloaded while its servers start, Home Assistant does not get to run while an entry is unloaded that
waits for it, nor to stop while servers start, and a setup that awaits its servers raises only as long as none of them
runs. -/
def Good (s : Hass) : Event → Prop
  | .start attempt .raised => s.isDirect attempt = true → s.underWay attempt = some .api
  | .started => ∀ attempt < s.nextAttempt, s.listens attempt = true → s.entry.Opens attempt
  | .unload _ => ∀ attempt < s.nextAttempt, s.entry = .loaded attempt → s.underWay attempt = none
  | .stop => ∀ attempt < s.nextAttempt, s.underWay attempt = none
  | _ => True

instance (s : Hass) : (event : Event) → Decidable (Good s event)
  | .start attempt .raised =>
      inferInstanceAs (Decidable (s.isDirect attempt = true → s.underWay attempt = some .api))
  | .started =>
      inferInstanceAs (Decidable (∀ attempt < s.nextAttempt, s.listens attempt = true → s.entry.Opens attempt))
  | .unload _ =>
      inferInstanceAs (Decidable (∀ attempt < s.nextAttempt, s.entry = .loaded attempt → s.underWay attempt = none))
  | .stop => inferInstanceAs (Decidable (∀ attempt < s.nextAttempt, s.underWay attempt = none))
  | .setup | .start _ .ok | .start _ .refused | .finish | .unloadNext | .stopNext _ => .isTrue trivial

/-- What has been stopped when this is next. -/
def Attempt.Down (a : Attempt) : Halt → Prop
  | .api => a.dtls = false
  | .discovery => a.dtls = false ∧ a.api = false
  | .restore => a.Quiet

/-- What has been started when this is awaited. -/
def Attempt.Progress (a : Attempt) : Stage → Prop
  | .api => a.Quiet
  | .dtls | .discovery => a.api = true ∧ a.advertised = false

/-- What holds of every attempt as long as all goes well. -/
structure Kept (core : CoreState) (entry : Entry) (attempt : AttemptId) (a : Attempt) : Prop where
  starting : ∀ stage, a.starting = some stage → entry.Opens attempt ∧ core = .running ∧ a.Progress stage
  listening : a.onStarted = true → core ≠ .running ∧ a.Quiet
  unowned : ¬entry.Owns attempt → a.Quiet
  unloading : ∀ next platformsUnloaded, entry = .unloading attempt next platformsUnloaded → a.Down next
  halted : core = .stopping → a.halting = none → a.Quiet
  halting : ∀ next, a.halting = some next → core = .stopping ∧ a.Down next
  stoppable : core ≠ .stopping → entry.Owns attempt → a.onStop = true ∨ (a.direct = true ∧ a.starting ≠ none)

structure Standing (s : Hass) : Prop where
  fresh : Fresh s.attempts s.nextAttempt
  kept : ∀ attempt a, s.attempts attempt = some a → Kept s.core s.entry attempt a

theorem Standing.sound {s : Hass} (standing : Standing s) : Sound s := by
  intro attempt a found ended
  rcases ended with unowned | ⟨stopping, none⟩
  · exact (standing.kept attempt a found).unowned unowned
  · exact (standing.kept attempt a found).halted stopping none

section
variable {core : CoreState} {entry later : Entry} {attempt : AttemptId} {a : Attempt}

theorem Entry.Opens.owns (opens : entry.Opens attempt) : entry.Owns attempt := .inl opens

theorem idle_unowned (idle : entry = .idle) : ¬entry.Owns attempt := by
  rintro ((same | same) | ⟨_, _, same⟩) <;> cases idle.symm.trans same

/-- The entry belongs to one attempt only. -/
theorem Entry.Owns.unique {other : AttemptId} (owns : entry.Owns attempt) (also : entry.Owns other) :
    attempt = other := by
  rcases owns with (same | same) | ⟨_, _, same⟩
  · rcases also with (here | here) | ⟨_, _, here⟩ <;> cases same.symm.trans here
    rfl
  · rcases also with (here | here) | ⟨_, _, here⟩ <;> cases same.symm.trans here
    rfl
  · rcases also with (here | here) | ⟨_, _, here⟩ <;> cases same.symm.trans here
    rfl

/-- An attempt that has nothing to do with the entry is kept whatever becomes of it. -/
theorem Kept.other (kept : Kept core entry attempt a) (before : ¬entry.Owns attempt) (after : ¬later.Owns attempt) :
    Kept core later attempt a where
  starting := fun stage waiting => absurd (kept.starting stage waiting).1.owns before
  listening := kept.listening
  unowned := fun _ => kept.unowned before
  unloading := fun next platformsUnloaded same => absurd (.inr ⟨next, platformsUnloaded, same⟩) after
  halted := kept.halted
  halting := kept.halting
  stoppable := fun _ owns => absurd owns after

end

/-- One attempt is replaced. -/
theorem Standing.put {s t : Hass} {attempt : AttemptId} {a b : Attempt} (standing : Standing s)
    (found : s.attempts attempt = some a) (attempts : t.attempts = Function.update s.attempts attempt (some b))
    (core : t.core = s.core) (nextAttempt : t.nextAttempt = s.nextAttempt)
    (others : t.entry = s.entry ∨ ∀ other, other ≠ attempt → ¬s.entry.Owns other ∧ ¬t.entry.Owns other)
    (kept : Kept s.core t.entry attempt b) : Standing t where
  fresh := by
    rw [attempts, nextAttempt]
    exact standing.fresh.replace found _
  kept := by
    intro other c there
    rw [attempts] at there
    rw [core]
    rcases update_eq_some there with ⟨rfl, here⟩ | ⟨different, there⟩
    · cases here
      exact kept
    · have before := standing.kept other c there
      rcases others with same | apart
      · rw [same]
        exact before
      · exact before.other (apart other different).1 (apart other different).2

section
variable {core : CoreState} {entry : Entry} {attempt : AttemptId} {a : Attempt}

theorem Attempt.Quiet.down (quiet : a.Quiet) (next : Halt) : a.Down next := by
  cases next with
  | api => exact quiet.2.1
  | discovery => exact ⟨quiet.2.1, quiet.1⟩
  | restore => exact quiet

/-- Stopping more does no harm. -/
theorem Attempt.Quiet.halt (quiet : a.Quiet) (next : Halt) : (a.halt next).Quiet := by
  cases next with
  | api => exact ⟨rfl, quiet.2⟩
  | discovery => exact ⟨quiet.1, quiet.2.1, rfl⟩
  | restore => exact quiet

theorem Attempt.Down.halt {other : Halt} (down : a.Down other) (next : Halt) : (a.halt next).Down other := by
  cases next with
  | api =>
    cases other with
    | api => exact down
    | discovery => exact ⟨down.1, rfl⟩
    | restore => exact Quiet.halt down .api
  | discovery =>
    cases other with
    | api => exact down
    | discovery => exact down
    | restore => exact Quiet.halt down .discovery
  | restore => exact down

/-- After each stop more is stopped. -/
theorem Attempt.Down.next {next later : Halt} (down : a.Down next) (more : next.next = some later) :
    (a.halt next).Down later := by
  cases next with
  | api =>
    cases more
    exact ⟨down, rfl⟩
  | discovery =>
    cases more
    exact ⟨down.2, down.1, rfl⟩
  | restore => cases more

theorem restore_last {next : Halt} (last : next.next = none) : next = .restore := by
  cases next with
  | restore => rfl
  | api => cases last
  | discovery => cases last

@[simp] theorem halt_starting (next : Halt) : (a.halt next).starting = a.starting := by cases next <;> rfl
@[simp] theorem halt_onStarted (next : Halt) : (a.halt next).onStarted = a.onStarted := by cases next <;> rfl
@[simp] theorem halt_onStop (next : Halt) : (a.halt next).onStop = a.onStop := by cases next <;> rfl
@[simp] theorem halt_direct (next : Halt) : (a.halt next).direct = a.direct := by cases next <;> rfl
@[simp] theorem halt_halting (next : Halt) : (a.halt next).halting = a.halting := by cases next <;> rfl

/-- Nothing of it starts that the entry is not open with. -/
theorem Kept.settled (kept : Kept core entry attempt a) (closed : ¬(entry.Opens attempt ∧ core = .running)) :
    a.starting = none := by
  cases waiting : a.starting with
  | none => rfl
  | some stage =>
    have opens := kept.starting stage waiting
    exact absurd ⟨opens.1, opens.2.1⟩ closed

theorem Kept.alive (kept : Kept core entry attempt a) (alive : core ≠ .stopping) : a.halting = none := by
  cases halting : a.halting with
  | none => rfl
  | some next => exact absurd (kept.halting next halting).1 alive

/-- `_async_start` gets on. -/
theorem Kept.advanced {stage : Stage} (kept : Kept core entry attempt a) (waiting : a.starting = some stage) :
    Kept core entry attempt (a.advance stage) := by
  obtain ⟨opens, running, progress⟩ := kept.starting stage waiting
  have alive : core ≠ .stopping := by
    rw [running]
    decide
  have halting : (a.advance stage).halting = none := by
    cases stage <;> exact kept.alive alive
  have deaf : (a.advance stage).onStarted = false := by
    cases listening : a.onStarted with
    | true => exact absurd running (kept.listening listening).1
    | false => cases stage <;> exact listening
  refine ⟨?_, ?_, fun unowned => absurd opens.owns unowned, ?_, fun stopping => absurd stopping alive, ?_, ?_⟩
  · intro later waits
    refine ⟨opens, running, ?_⟩
    cases stage with
    | api =>
      cases waits
      exact ⟨rfl, progress.2.2⟩
    | dtls =>
      cases waits
      exact progress
    | discovery => cases waits
  · intro listens
    rw [deaf] at listens
    cases listens
  · rintro next platformsUnloaded rfl
    rcases opens with same | same <;> cases same
  · intro next halts
    rw [halting] at halts
    cases halts
  · intro _ owns
    rcases kept.stoppable alive owns with stops | ⟨direct, _⟩
    · cases stage with
      | api => exact .inl stops
      | dtls => exact .inl stops
      | discovery => exact .inl (by simp [Attempt.advance, stops])
    · cases stage with
      | api => exact .inr ⟨direct, nofun⟩
      | dtls => exact .inr ⟨direct, nofun⟩
      | discovery => exact .inl (by simp [Attempt.advance, direct])

/-- `_async_start` fails with this left running. -/
theorem Kept.failed {b : Attempt} {stage : Stage} (kept : Kept core entry attempt a)
    (waiting : a.starting = some stage) (ended : b.starting = none) (direct : b.direct = a.direct)
    (onStarted : b.onStarted = a.onStarted) (onStop : b.onStop = a.onStop) (halting : b.halting = a.halting)
    (quiet : a.direct = true → b.Quiet) :
    Kept core (if b.direct then .idle else entry) attempt b := by
  obtain ⟨opens, running, _⟩ := kept.starting stage waiting
  have alive : core ≠ .stopping := by
    rw [running]
    decide
  have deaf : b.onStarted = false := by
    rw [onStarted]
    cases listening : a.onStarted with
    | true => exact absurd running (kept.listening listening).1
    | false => rfl
  have unhalted : b.halting = none := halting.trans (kept.alive alive)
  refine ⟨fun later waits => ?_, fun listens => ?_, ?_, ?_, fun stopping => absurd stopping alive, fun next halts => ?_, ?_⟩
  · rw [ended] at waits
    cases waits
  · rw [deaf] at listens
    cases listens
  · intro unowned
    cases asked : b.direct with
    | true => exact quiet (direct ▸ asked)
    | false =>
      rw [asked] at unowned
      exact absurd opens.owns unowned
  · intro next platformsUnloaded same
    cases asked : b.direct with
    | true =>
      rw [asked] at same
      cases same
    | false =>
      rw [asked] at same
      rcases opens with here | here <;> cases here.symm.trans same
  · rw [unhalted] at halts
    cases halts
  · intro _ owns
    cases asked : b.direct with
    | true =>
      rw [asked] at owns
      exact absurd owns (idle_unowned rfl)
    | false =>
      refine .inl (onStop.trans ?_)
      rcases kept.stoppable alive opens.owns with stops | ⟨here, _⟩
      · exact stops
      · rw [← direct, asked] at here
        cases here

/-- The DTLS server is stopped, and the unload goes on from there. -/
theorem Kept.unload (kept : Kept core (.loaded attempt) attempt a) (settled : a.starting = none)
    (platformsUnloaded : Bool) :
    Kept core (.unloading attempt .api platformsUnloaded) attempt { a with dtls := false } where
  starting := fun stage waiting => (nomatch settled.symm.trans waiting)
  listening := fun listens => ⟨(kept.listening listens).1, (kept.listening listens).2.1, rfl, (kept.listening listens).2.2.2⟩
  unowned := fun unowned => absurd (.inr ⟨.api, platformsUnloaded, rfl⟩) unowned
  unloading := by
    rintro next unloaded ⟨⟩
    rfl
  halted := fun stopping unhalted =>
    ⟨(kept.halted stopping unhalted).1, rfl, (kept.halted stopping unhalted).2.2⟩
  halting := by
    intro next halts
    refine ⟨(kept.halting next halts).1, ?_⟩
    have down := (kept.halting next halts).2
    cases next with
    | api => rfl
    | discovery => exact ⟨rfl, down.2⟩
    | restore => exact ⟨down.1, rfl, down.2.2⟩
  stoppable := fun alive _ => kept.stoppable alive (.inl (.inr rfl))

theorem Kept.unloadNext {next later : Halt} {platformsUnloaded : Bool}
    (kept : Kept core (.unloading attempt next platformsUnloaded) attempt a) (more : next.next = some later) :
    Kept core (.unloading attempt later platformsUnloaded) attempt (a.halt next) where
  starting := by
    intro stage waiting
    rw [halt_starting] at waiting
    rcases (kept.starting stage waiting).1 with same | same <;> cases same
  listening := by
    intro listens
    rw [halt_onStarted] at listens
    exact ⟨(kept.listening listens).1, (kept.listening listens).2.halt next⟩
  unowned := fun unowned => absurd (.inr ⟨later, platformsUnloaded, rfl⟩) unowned
  unloading := by
    rintro _ unloaded ⟨⟩
    exact (kept.unloading next platformsUnloaded rfl).next more
  halted := by
    intro stopping unhalted
    rw [halt_halting] at unhalted
    exact (kept.halted stopping unhalted).halt next
  halting := by
    intro other halts
    rw [halt_halting] at halts
    exact ⟨(kept.halting other halts).1, (kept.halting other halts).2.halt next⟩
  stoppable := by
    intro alive _
    rw [halt_onStop, halt_direct, halt_starting]
    exact kept.stoppable alive (.inr ⟨next, platformsUnloaded, rfl⟩)

/-- The unload is over. -/
theorem Kept.unloaded {platformsUnloaded : Bool}
    (kept : Kept core (.unloading attempt .restore platformsUnloaded) attempt a) :
    Kept core .idle attempt (a.processOnUnload core) ∧ Kept core .failedUnload attempt a := by
  have quiet : a.Quiet := kept.unloading .restore platformsUnloaded rfl
  have settled : a.starting = none := by
    apply kept.settled
    rintro ⟨same | same, _⟩ <;> cases same
  constructor
  · refine ⟨fun stage waiting => (nomatch settled.symm.trans waiting), ?_, fun _ => quiet, nofun, fun _ _ => quiet,
      kept.halting, fun _ owns => absurd owns (idle_unowned rfl)⟩
    intro listens
    unfold Attempt.processOnUnload at listens
    by_cases running : core = .running
    · simp only [running, if_true] at listens
      exact absurd running (kept.listening listens).1
    · exact ⟨running, quiet⟩
  · refine ⟨fun stage waiting => (nomatch settled.symm.trans waiting), kept.listening, fun _ => quiet, nofun,
      kept.halted, kept.halting, ?_⟩
    rintro _ ((same | same) | ⟨_, _, same⟩) <;> cases same

theorem Kept.started (kept : Kept .starting entry attempt a) (opens : a.onStarted = true → entry.Opens attempt) :
    Kept .running entry attempt a.started := by
  have settled : a.starting = none := by
    apply kept.settled
    rintro ⟨_, same⟩
    cases same
  have unhalted : a.halting = none := kept.alive (by decide)
  have stoppable : entry.Owns attempt → a.onStop = true := by
    intro owns
    rcases kept.stoppable (by decide) owns with stops | ⟨_, waiting⟩
    · exact stops
    · exact absurd settled waiting
  cases listening : a.onStarted with
  | true =>
    have same : a.started = { a with onStarted := false, starting := some .api } := by simp [Attempt.started, listening]
    have quiet := (kept.listening listening).2
    rw [same]
    refine ⟨?_, nofun, fun _ => quiet, fun next _ _ => quiet.down next, nofun, ?_, fun _ owns => .inl (stoppable owns)⟩
    · rintro _ ⟨⟩
      exact ⟨opens listening, rfl, quiet⟩
    · intro next halts
      cases unhalted.symm.trans halts
  | false =>
    have same : a.started = a := by simp [Attempt.started, listening]
    rw [same]
    refine ⟨fun stage waiting => (nomatch settled.symm.trans waiting), fun listens => (nomatch listening.symm.trans listens),
      kept.unowned, kept.unloading, nofun, fun next halts => (nomatch unhalted.symm.trans halts),
      fun _ owns => .inl (stoppable owns)⟩

theorem Kept.stopped (kept : Kept core entry attempt a) (alive : core ≠ .stopping) (settled : a.starting = none) :
    Kept .stopping entry attempt a.stopped := by
  have unhalted : a.halting = none := kept.alive alive
  cases stops : a.onStop with
  | true =>
    have same : a.stopped = { a with onStop := false, dtls := false, halting := some .api } := by
      simp [Attempt.stopped, stops]
    rw [same]
    refine ⟨fun stage waiting => (nomatch settled.symm.trans waiting), ?_, ?_, ?_, fun _ => nofun, ?_,
      fun alive => absurd rfl alive⟩
    · intro listens
      have quiet := (kept.listening listens).2
      exact ⟨by decide, quiet.1, rfl, quiet.2.2⟩
    · intro unowned
      have quiet := kept.unowned unowned
      exact ⟨quiet.1, rfl, quiet.2.2⟩
    · intro next platformsUnloaded here
      have down := kept.unloading next platformsUnloaded here
      cases next with
      | api => rfl
      | discovery => exact ⟨rfl, down.2⟩
      | restore => exact ⟨down.1, rfl, down.2.2⟩
    · rintro _ ⟨⟩
      exact ⟨rfl, rfl⟩
  | false =>
    have same : a.stopped = a := by simp [Attempt.stopped, stops]
    have quiet : a.Quiet := by
      apply kept.unowned
      intro owns
      rcases kept.stoppable alive owns with also | ⟨_, waiting⟩
      · cases stops.symm.trans also
      · exact waiting settled
    rw [same]
    exact ⟨fun stage waiting => (nomatch settled.symm.trans waiting), fun _ => ⟨by decide, quiet⟩, fun _ => quiet,
      kept.unloading, fun _ _ => quiet, fun next halts => (nomatch unhalted.symm.trans halts),
      fun alive => absurd rfl alive⟩

theorem Kept.stopNext {next : Halt} (kept : Kept core entry attempt a) (halts : a.halting = some next) :
    Kept core entry attempt { a.halt next with halting := next.next } := by
  obtain ⟨stopping, down⟩ := kept.halting next halts
  have settled : a.starting = none := by
    apply kept.settled
    rintro ⟨_, running⟩
    cases stopping.symm.trans running
  refine ⟨fun stage waiting => ?_, fun listens => ?_, fun unowned => (kept.unowned unowned).halt next, ?_, ?_, ?_,
    fun alive => absurd stopping alive⟩
  · rw [halt_starting] at waiting
    cases settled.symm.trans waiting
  · rw [halt_onStarted] at listens
    exact ⟨(kept.listening listens).1, (kept.listening listens).2.halt next⟩
  · intro other platformsUnloaded here
    exact (kept.unloading other platformsUnloaded here).halt next
  · intro _ last
    rw [restore_last last] at down
    exact down.halt next
  · intro later more
    exact ⟨stopping, down.next more⟩

end

section
variable {s t : Hass} {attempt : AttemptId} {a : Attempt}

/-- A new attempt of an entry that is idle. -/
theorem Standing.create {b : Attempt} (standing : Standing s) (idle : s.entry = .idle)
    (kept : Kept s.core (.settingUp s.nextAttempt) s.nextAttempt b) :
    Standing { s.set s.nextAttempt b with nextAttempt := s.nextAttempt + 1, entry := .settingUp s.nextAttempt } where
  fresh := standing.fresh.create _
  kept := by
    intro other c there
    rcases update_eq_some there with ⟨rfl, here⟩ | ⟨different, there⟩
    · cases here
      exact kept
    · refine (standing.kept other c there).other (idle_unowned idle) ?_
      intro owns
      exact different (owns.unique (.inl (.inl rfl)))

/-- The entry goes on from one attempt to the same. -/
theorem Standing.apart {entry : Entry} (owns : s.entry.Owns attempt)
    (mine : ∀ other, entry.Owns other → other = attempt) (other : AttemptId) (different : other ≠ attempt) :
    ¬s.entry.Owns other ∧ ¬entry.Owns other :=
  ⟨fun also => different (also.unique owns), fun also => different (mine other also)⟩

theorem Standing.failed {b : Attempt} {stage : Stage} (standing : Standing s) (found : s.attempts attempt = some a)
    (waiting : a.starting = some stage) (kept : Kept s.core (if b.direct then .idle else s.entry) attempt b) : Standing (s.fail attempt b) := by
  have owns : s.entry.Owns attempt := .inl ((standing.kept attempt a found).starting stage waiting).1
  refine standing.put found rfl rfl rfl ?_ kept
  cases asked : b.direct with
  | false => exact .inl (by simp [Hass.fail, asked])
  | true =>
    refine .inr (Standing.apart owns ?_)
    intro other also
    simp only [Hass.fail, asked, if_true] at also
    exact absurd also (idle_unowned rfl)

theorem Good.raised {stage : Stage} (good : Good s (.start attempt .raised)) (found : s.attempts attempt = some a)
    (waiting : a.starting = some stage) (direct : a.direct = true) : stage = .api := by
  have asked : s.isDirect attempt = true := by simp [Hass.isDirect, found, direct]
  have here := good asked
  simp only [Hass.underWay, found, Option.bind_some, waiting, Option.some.injEq] at here
  exact here

theorem Standing.step {event : Event} (standing : Standing s) (good : Good s event) (moved : Move s event t) :
    Standing t := by
  cases moved with
  | deferred idle starting =>
    refine standing.create idle ?_
    rw [starting]
    refine ⟨nofun, fun _ => ⟨by decide, rfl, rfl, rfl⟩, fun unowned => absurd (.inl (.inl rfl)) unowned, nofun, nofun,
      nofun, fun _ _ => .inl rfl⟩
  | direct idle running =>
    refine standing.create idle ?_
    rw [running]
    refine ⟨?_, nofun, fun unowned => absurd (.inl (.inl rfl)) unowned, nofun, nofun, nofun,
      fun _ _ => .inr ⟨rfl, nofun⟩⟩
    rintro _ ⟨⟩
    exact ⟨.inl rfl, rfl, rfl, rfl, rfl⟩
  | @advanced attempt a stage found waiting =>
    exact standing.put found rfl rfl rfl (.inl rfl) ((standing.kept attempt a found).advanced waiting)
  | @refused attempt a stage found waiting =>
    have kept := standing.kept attempt a found
    have advertised : a.advertised = false := by
      have progress := (kept.starting stage waiting).2.2
      cases stage with
      | api => exact progress.2.2
      | dtls => exact progress.2
      | discovery => exact progress.2
    exact standing.failed found waiting
      (kept.failed waiting rfl rfl rfl rfl rfl (fun _ => ⟨rfl, rfl, advertised⟩))
  | @raised attempt a stage found waiting =>
    have kept := standing.kept attempt a found
    refine standing.failed found waiting (kept.failed waiting rfl rfl rfl rfl rfl ?_)
    intro direct
    have first : stage = .api := good.raised found waiting direct
    subst first
    exact (kept.starting .api waiting).2.2
  | @finish attempt a entry found ended =>
    have kept := standing.kept attempt a found
    have owns : s.entry.Owns attempt := .inl (.inl entry)
    refine standing.put found (Function.update_eq_self_iff.mpr found.symm).symm rfl rfl (.inr (Standing.apart owns ?_)) ?_
    · intro other also
      exact also.unique (.inl (.inr rfl))
    · refine ⟨?_, kept.listening, fun unowned => absurd (.inl (.inr rfl)) unowned, nofun, kept.halted, kept.halting,
        fun alive _ => kept.stoppable alive owns⟩
      intro stage waiting
      exact ⟨.inr rfl, (kept.starting stage waiting).2⟩
  | started starting =>
    refine ⟨?_, ?_⟩
    · intro other later
      exact Option.map_eq_none_iff.mpr (standing.fresh other later)
    · intro other c there
      obtain ⟨b, found, rfl⟩ := Option.map_eq_some_iff.mp there
      have kept := standing.kept other b found
      rw [starting] at kept
      refine kept.started (fun listening => good other (standing.fresh.lt found) ?_)
      simp [Hass.listens, found, listening]
  | @unload attempt a platformsUnloaded entry found =>
    have kept := standing.kept attempt a found
    have settled : a.starting = none := by
      have here := good attempt (standing.fresh.lt found) entry
      simpa [Hass.underWay, found] using here
    have owns : s.entry.Owns attempt := .inl (.inr entry)
    refine standing.put found rfl rfl rfl (.inr (Standing.apart owns ?_)) ?_
    · intro other also
      exact also.unique (.inr ⟨_, _, rfl⟩)
    · rw [entry] at kept
      exact kept.unload settled platformsUnloaded
  | @unloadNext attempt a next platformsUnloaded entry found =>
    have kept := standing.kept attempt a found
    have owns : s.entry.Owns attempt := .inr ⟨_, _, entry⟩
    rw [entry] at kept
    unfold Hass.unloadNext
    cases more : next.next with
    | some later =>
      refine standing.put found rfl rfl rfl (.inr (Standing.apart owns ?_)) (kept.unloadNext more)
      intro other also
      exact also.unique (.inr ⟨_, _, rfl⟩)
    | none =>
      cases restore_last more
      cases platformsUnloaded with
      | true =>
        refine standing.put found rfl rfl rfl (.inr (Standing.apart owns ?_)) kept.unloaded.1
        exact fun other also => absurd also (idle_unowned rfl)
      | false =>
        refine standing.put found (Function.update_eq_self_iff.mpr found.symm).symm rfl rfl
          (.inr (Standing.apart owns ?_)) kept.unloaded.2
        rintro other ((same | same) | ⟨_, _, same⟩) <;> cases same
  | stop alive =>
    refine ⟨?_, ?_⟩
    · intro other later
      exact Option.map_eq_none_iff.mpr (standing.fresh other later)
    · intro other c there
      obtain ⟨b, found, rfl⟩ := Option.map_eq_some_iff.mp there
      have settled : b.starting = none := by
        have here := good other (standing.fresh.lt found)
        simpa [Hass.underWay, found] using here
      exact (standing.kept other b found).stopped alive settled
  | @stopNext attempt a next found halts =>
    exact standing.put found rfl rfl rfl (.inl rfl) ((standing.kept attempt a found).stopNext halts)

theorem standing {events : List Event} (start : machine.Start s) (run : Run machine Good s events t) : Standing t := by
  refine run.invariant Standing (fun _ _ _ standing good moved => standing.step good (step_move moved)) ?_
  rw [start]
  exact ⟨fun _ _ => rfl, nofun⟩

/-- The rest of an unload that leaves a start under way. -/
theorem unload_rest {next : Halt} {platformsUnloaded : Bool} (entry : s.entry = .unloading attempt next platformsUnloaded)
    (found : s.attempts attempt = some a) : ∃ events t b, Run machine Always s events t ∧
      t.attempts attempt = some b ∧ b.starting = a.starting ∧ ¬t.entry.Owns attempt := by
  have last : ∀ {s : Hass} {a : Attempt}, s.entry = .unloading attempt .restore platformsUnloaded →
      s.attempts attempt = some a → ∃ events t b, Run machine Always s events t ∧ t.attempts attempt = some b ∧
        b.starting = a.starting ∧ ¬t.entry.Owns attempt := by
    intro s a entry found
    have moved : machine.step s .unloadNext = some (s.unloadNext attempt a .restore platformsUnloaded) := by
      simp [machine, DeferredStart.step, entry, found]
    cases platformsUnloaded with
    | true =>
      exact ⟨_, _, a.processOnUnload s.core, .cons trivial moved (.nil _), Function.update_self .., rfl, idle_unowned rfl⟩
    | false =>
      refine ⟨_, _, a, .cons trivial moved (.nil _), found, rfl, ?_⟩
      rintro ((same | same) | ⟨_, _, same⟩) <;> cases same
  have before : ∀ {s : Hass} {a : Attempt} {next later : Halt}, next.next = some later →
      s.entry = .unloading attempt next platformsUnloaded → s.attempts attempt = some a →
      ∃ t, Run machine Always s [.unloadNext] t ∧ t.entry = .unloading attempt later platformsUnloaded ∧
        t.attempts attempt = some (a.halt next) := by
    intro s a next later more entry found
    have moved : machine.step s .unloadNext = some (s.unloadNext attempt a next platformsUnloaded) := by
      simp [machine, DeferredStart.step, entry, found]
    refine ⟨_, .cons trivial moved (.nil _), ?_, ?_⟩
    · simp [Hass.unloadNext, more]
    · simp [Hass.unloadNext, more, Hass.set]
  cases next with
  | restore => exact last entry found
  | discovery =>
    obtain ⟨t, first, after, held⟩ := before rfl entry found
    obtain ⟨events, u, b, rest, there, same, gone⟩ := last after held
    exact ⟨_, u, b, first.append rest, there, same, gone⟩
  | api =>
    obtain ⟨t, first, after, held⟩ := before rfl entry found
    obtain ⟨u, second, restoring, here⟩ := before rfl after held
    obtain ⟨events, v, b, rest, there, same, gone⟩ := last restoring here
    exact ⟨_, v, b, first.append (second.append rest), there, same, gone⟩

/-- The rest of an `_async_stop` that leaves a start under way. -/
theorem stop_rest {next : Halt} (found : s.attempts attempt = some a) (halts : a.halting = some next) :
    ∃ events t b, Run machine Always s events t ∧ t.attempts attempt = some b ∧ b.starting = a.starting ∧
      b.halting = none ∧ t.core = s.core := by
  have once : ∀ {s : Hass} {a : Attempt} {next : Halt}, s.attempts attempt = some a → a.halting = some next →
      ∃ t b, Run machine Always s [.stopNext attempt] t ∧ t.attempts attempt = some b ∧ b.starting = a.starting ∧
        b.halting = next.next ∧ t.core = s.core := by
    intro s a next found halts
    have moved : machine.step s (.stopNext attempt) = some (s.set attempt { a.halt next with halting := next.next }) := by
      simp [machine, DeferredStart.step, found, halts]
    exact ⟨_, _, .cons trivial moved (.nil _), Function.update_self .., halt_starting next, rfl, rfl⟩
  obtain ⟨t, b, first, held, same, after, core⟩ := once found halts
  cases next with
  | restore => exact ⟨_, t, b, first, held, same, after, core⟩
  | discovery =>
    obtain ⟨u, c, second, there, also, ended, still⟩ := once held after
    exact ⟨_, u, c, first.append second, there, also.trans same, ended, still.trans core⟩
  | api =>
    obtain ⟨u, c, second, there, also, restoring, still⟩ := once held after
    obtain ⟨v, d, third, here, too, ended, again⟩ := once there restoring
    exact ⟨_, v, d, first.append (second.append third), here, too.trans (also.trans same), ended,
      again.trans (still.trans core)⟩

/-- A start that is under way after all has been stopped comes back. -/
theorem start_leaks {stage : Stage} (found : s.attempts attempt = some a) (waiting : a.starting = some stage)
    (ended : ¬s.entry.Owns attempt ∨ (s.core = .stopping ∧ a.halting = none)) :
    ∃ t, Run machine Always s [.start attempt .ok] t ∧ ¬Sound t := by
  have moved : machine.step s (.start attempt .ok) = some (s.set attempt (a.advance stage)) := by
    simp [machine, DeferredStart.step, found, waiting]
  refine ⟨_, .cons trivial moved (.nil _), ?_⟩
  intro sound
  have still : ¬s.entry.Owns attempt ∨ (s.core = .stopping ∧ (a.advance stage).halting = none) := by
    cases stage <;> exact ended
  have quiet : (a.advance stage).Quiet := sound attempt _ (Function.update_self ..) still
  cases stage with
  | api => cases quiet.1
  | dtls => cases quiet.2.1
  | discovery => cases quiet.2.2

theorem underWay_of_ne {attempt : AttemptId} (waits : s.underWay attempt ≠ none) :
    ∃ a stage, s.attempts attempt = some a ∧ a.starting = some stage := by
  obtain ⟨stage, waiting⟩ := Option.ne_none_iff_exists'.mp waits
  obtain ⟨a, found, starting⟩ := Option.bind_eq_some_iff.mp waiting
  exact ⟨a, stage, found, starting⟩

theorem raised_leaks {stage : Stage} (standing : Standing s) (found : s.attempts attempt = some a)
    (waiting : a.starting = some stage) (bad : ¬Good s (.start attempt .raised)) :
    ¬Sound (s.fail attempt { a with starting := none }) := by
  obtain ⟨direct, late⟩ := Classical.not_imp.mp bad
  have asked : a.direct = true := by simpa [Hass.isDirect, found] using direct
  have up : a.api = true := by
    have progress := ((standing.kept attempt a found).starting stage waiting).2.2
    cases stage with
    | api => exact absurd (by simp [Hass.underWay, found, waiting]) late
    | dtls => exact progress.1
    | discovery => exact progress.1
  have idle : (s.fail attempt { a with starting := none }).entry = .idle := if_pos asked
  intro sound
  have quiet := sound attempt { a with starting := none } (Function.update_self ..) (.inl (idle_unowned idle))
  cases up.symm.trans quiet.1

theorem started_leaks {running : Hass} (attempts : running.attempts = fun attempt => (s.attempts attempt).map Attempt.started)
    (entry : running.entry = s.entry) (bad : ¬Good s .started) :
    ∃ more v, Run machine Always running more v ∧ ¬Sound v := by
  obtain ⟨attempt, late⟩ := Classical.not_forall.mp bad
  obtain ⟨known, late⟩ := Classical.not_imp.mp late
  obtain ⟨listens, closed⟩ := Classical.not_imp.mp late
  obtain ⟨a, found, listening⟩ := (Option.any_eq_true _ _).mp listens
  have starting : a.started.starting = some .api := by simp [Attempt.started, listening]
  have held : running.attempts attempt = some a.started := by simp [attempts, found]
  by_cases owns : s.entry.Owns attempt
  · obtain ⟨next, platformsUnloaded, unloading⟩ := owns.resolve_left closed
    obtain ⟨events, u, b, rest, there, kept, gone⟩ := unload_rest (entry.trans unloading) held
    obtain ⟨v, last, leak⟩ := start_leaks there (kept.trans starting) (.inl gone)
    exact ⟨_, v, rest.append last, leak⟩
  · obtain ⟨v, last, leak⟩ := start_leaks held starting (.inl (entry ▸ owns))
    exact ⟨_, v, last, leak⟩

theorem unload_leaks {unloading : Hass} {b : Attempt} {platformsUnloaded : Bool} (loaded : s.entry = .loaded attempt)
    (found : s.attempts attempt = some a) (held : unloading.attempts attempt = some b) (same : b.starting = a.starting)
    (entry : unloading.entry = .unloading attempt .api platformsUnloaded) (bad : ¬Good s (.unload platformsUnloaded)) :
    ∃ more v, Run machine Always unloading more v ∧ ¬Sound v := by
  obtain ⟨other, late⟩ := Classical.not_forall.mp bad
  obtain ⟨known, late⟩ := Classical.not_imp.mp late
  obtain ⟨here, waits⟩ := Classical.not_imp.mp late
  cases loaded.symm.trans here
  obtain ⟨c, stage, again, starting⟩ := underWay_of_ne waits
  cases found.symm.trans again
  obtain ⟨events, u, d, rest, there, kept, gone⟩ := unload_rest entry held
  obtain ⟨v, last, leak⟩ := start_leaks there (kept.trans (same.trans starting)) (.inl gone)
  exact ⟨_, v, rest.append last, leak⟩

theorem stop_leaks {stopping : Hass} (attempts : stopping.attempts = fun attempt => (s.attempts attempt).map Attempt.stopped)
    (core : stopping.core = .stopping) (bad : ¬Good s .stop) :
    ∃ more v, Run machine Always stopping more v ∧ ¬Sound v := by
  obtain ⟨attempt, late⟩ := Classical.not_forall.mp bad
  obtain ⟨known, waits⟩ := Classical.not_imp.mp late
  obtain ⟨a, stage, found, starting⟩ := underWay_of_ne waits
  have held : stopping.attempts attempt = some a.stopped := by simp [attempts, found]
  have still : a.stopped.starting = some stage := by
    unfold Attempt.stopped
    split
    · exact starting
    · exact starting
  cases halts : a.stopped.halting with
  | none =>
    obtain ⟨v, last, leak⟩ := start_leaks held still (.inr ⟨core, halts⟩)
    exact ⟨_, v, last, leak⟩
  | some next =>
    obtain ⟨events, u, b, rest, there, kept, ended, same⟩ := stop_rest held halts
    obtain ⟨v, last, leak⟩ := start_leaks there (kept.trans still) (.inr ⟨same.trans core, ended⟩)
    exact ⟨_, v, rest.append last, leak⟩

/-- What the condition rules out can leave servers running. -/
theorem bad_leaks {event : Event} (standing : Standing s) (bad : ¬Good s event) (moved : Move s event t) :
    ∃ more u, Run machine Always t more u ∧ ¬Sound u := by
  cases moved with
  | deferred idle starting => exact absurd trivial bad
  | direct idle running => exact absurd trivial bad
  | advanced found waiting => exact absurd trivial bad
  | refused found waiting => exact absurd trivial bad
  | finish entry found ended => exact absurd trivial bad
  | unloadNext entry found => exact absurd trivial bad
  | stopNext found halts => exact absurd trivial bad
  | raised found waiting => exact ⟨[], _, .nil _, raised_leaks standing found waiting bad⟩
  | started starting => exact started_leaks rfl rfl bad
  | unload platformsUnloaded entry found => exact unload_leaks entry found (Function.update_self ..) rfl rfl bad
  | stop alive => exact stop_leaks rfl rfl bad

/-- Nothing outlives its entry or Home Assistant as long as each step is as required, and each step that is not can be
the beginning of a run in which something does. -/
theorem outlived_exact {events : List Event} (start : machine.Start s) (run : Run machine Good s events t) :
    Sound t ∧ ∀ event u, machine.step t event = some u → ¬Good t event →
      ∃ more v, Run machine Always u more v ∧ ¬Sound v :=
  ⟨(standing start run).sound, fun _ _ moved bad => bad_leaks (standing start run) bad (step_move moved)⟩

/-- The entry is set up while Home Assistant starts, is up when it has started, and is unloaded and set up again. -/
def lateStart : List Event :=
  [.setup, .finish, .started, .start 0 .ok, .start 0 .ok, .start 0 .ok, .unload true, .unloadNext, .unloadNext,
    .unloadNext, .setup, .start 1 .ok, .start 1 .ok]

/-- Home Assistant stops while the servers that start again are being advertised. -/
theorem outlived_exact_late : ∃ t, Run machine Good {} lateStart t ∧ Sound t ∧ t.underWay 1 = some .discovery ∧
    ∃ u more v, machine.step t .stop = some u ∧ Run machine Always u more v ∧ ¬Sound v := by
  have played : (play machine Good {} lateStart).any (fun t => decide (t.underWay 1 = some .discovery) &&
      decide (¬Good t .stop) && (machine.step t .stop).isSome) = true := by
    decide +kernel
  obtain ⟨t, found, checks⟩ := (Option.any_eq_true _ _).mp played
  simp only [Bool.and_eq_true, decide_eq_true_eq] at checks
  obtain ⟨u, moved⟩ := Option.isSome_iff_exists.mp checks.2
  have run : Run machine Good {} lateStart t := run_of_play _ _ _ found
  obtain ⟨sound, leaks⟩ := outlived_exact rfl run
  obtain ⟨more, v, rest, leak⟩ := leaks .stop u moved checks.1.2
  exact ⟨t, run, sound, checks.1.1, u, more, v, moved, rest, leak⟩

end

end HueEntertainment.DeferredStart
