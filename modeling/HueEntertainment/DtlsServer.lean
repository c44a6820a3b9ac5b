import HueEntertainment.HueStream
import HueEntertainment.Mailbox

/-! `DTLSPSKServer` with `FrameMailbox.put` as its frame callback: the thread that reads the datagrams,
the ready queue of the event loop, and the callbacks the loop runs from it one after the other. -/

namespace HueEntertainment.DtlsServer
open HueStream Runs

/-- Home Assistant's event loop, the only one there is. -/
inductive Loop where
  | hass
  deriving DecidableEq, Repr

/-- `serving` holds while the background thread lives. -/
structure DTLSPSKServer where
  loop : Option Loop := none
  running : Bool := false
  serving : Bool := false
  deriving Repr

/-- Without `contextMade`, `_setup_ctx` raises before the thread is started. -/
def DTLSPSKServer.asyncStart (server : DTLSPSKServer) (contextMade : Bool) : DTLSPSKServer :=
  if server.running then server
  else
    let server := { server with loop := server.loop <|> some .hass, running := true }
    if contextMade then { server with serving := true } else server

def DTLSPSKServer.asyncStop (server : DTLSPSKServer) : DTLSPSKServer := { server with running := false }

/-- What received frames put into the ready queue. -/
inductive Callback where
  | put (frame : Bytes)
  | deliver
  deriving DecidableEq, Repr

/-- Who can be inside `put`. -/
inductive Party where
  | dtls | loop
  deriving DecidableEq, Repr

/-- `ready` has the callback that runs next first. `ran` has the frames parsed by each callback that was
begun, the newest callback first. -/
structure System where
  server : DTLSPSKServer := {}
  mail : Mailbox.State Party Bytes := {}
  ready : List Callback := []
  ran : List (List Bytes) := []

namespace System

def mailStep (s : System) (event : Mailbox.Event Party Bytes) : Option System :=
  (Mailbox.step s.mail event).map (fun mail => { s with mail })

/-- `_dispatch_frame`, in the thread that reads the datagrams. -/
def dispatchFrame (s : System) (frame : Bytes) : Option System :=
  match s.server.loop with
  | some .hass => some { s with ready := s.ready ++ [.put frame] }
  | none => s.mailStep (.put .dtls frame)

/-- The loop is between two callbacks. -/
def idle (s : System) : Bool := s.mail.producers .loop = none && s.mail.delivering.isNone

/-- The loop takes the next callback and runs it up to the end of its locked section. -/
def runCallback (s : System) : Option System :=
  if s.idle then
    match s.ready with
    | [] => none
    | .put frame :: rest => { s with ready := rest, ran := [] :: s.ran }.mailStep (.put .loop frame)
    | .deliver :: rest => { s with ready := rest, ran := [] :: s.ran }.mailStep .deliver
  else none

/-- The handler parses the frame that the running callback took, when it took one. -/
def parsed (s : System) : List (List Bytes) :=
  match s.ran with
  | [] => []
  | frames :: earlier => (s.mail.delivering.join.toList ++ frames) :: earlier

end System

/-- `start` and `stop` are `async_start` and `async_stop`; at `exit` the thread ends. -/
inductive Event where
  | start (contextMade : Bool)
  | stop
  | exit
  | receive (frame : Bytes)
  | schedule (party : Party)
  | run
  | handle
  deriving Repr

/-- The loop is not closed while the thread lives, so `call_soon_threadsafe` succeeds. -/
def step (s : System) : Event → Option System
  | .start contextMade => some { s with server := s.server.asyncStart contextMade }
  | .stop => some { s with server := s.server.asyncStop }
  | .exit => some { s with server := { s.server with serving := false } }
  | .receive frame => if s.server.serving && s.mail.producers .dtls = none then s.dispatchFrame frame else none
  | .schedule party => (s.mailStep (.schedule party true)).map (fun s => { s with ready := s.ready ++ [.deliver] })
  | .run => s.runCallback
  | .handle => (s.mailStep .handle).map (fun t => { t with ran := s.parsed })

/-- The server is constructed with `loop=None`. -/
def machine : Machine System Event := ⟨fun s => s = {}, step⟩

/-- What each step can do. -/
inductive Move (s : System) : Event → System → Prop where
  | start {contextMade : Bool} :
      Move s (.start contextMade) { s with server := s.server.asyncStart contextMade }
  | stop : Move s .stop { s with server := s.server.asyncStop }
  | exit : Move s .exit { s with server := { s.server with serving := false } }
  | queue {frame : Bytes} : s.server.serving = true → s.server.loop = some .hass →
      Move s (.receive frame) { s with ready := s.ready ++ [.put frame] }
  | call {frame : Bytes} {mail : Mailbox.State Party Bytes} : s.server.serving = true → s.server.loop = none →
      Mailbox.step s.mail (.put .dtls frame) = some mail → Move s (.receive frame) { s with mail }
  | schedule {party : Party} {mail : Mailbox.State Party Bytes} : Mailbox.step s.mail (.schedule party true) = some mail →
      Move s (.schedule party) { s with mail, ready := s.ready ++ [.deliver] }
  | put {frame : Bytes} {rest : List Callback} {mail : Mailbox.State Party Bytes} :
      s.idle = true → s.ready = .put frame :: rest → Mailbox.step s.mail (.put .loop frame) = some mail →
      Move s .run { s with mail, ready := rest, ran := [] :: s.ran }
  | deliver {rest : List Callback} {mail : Mailbox.State Party Bytes} :
      s.idle = true → s.ready = .deliver :: rest → Mailbox.step s.mail .deliver = some mail →
      Move s .run { s with mail, ready := rest, ran := [] :: s.ran }
  | handle {mail : Mailbox.State Party Bytes} : Mailbox.step s.mail .handle = some mail →
      Move s .handle { s with mail, ran := s.parsed }

theorem mailStep_eq_some {s t : System} {event : Mailbox.Event Party Bytes} (moved : s.mailStep event = some t) :
    ∃ mail, Mailbox.step s.mail event = some mail ∧ { s with mail } = t :=
  Option.map_eq_some_iff.mp moved

theorem step_move {s t : System} {event : Event} (moved : step s event = some t) : Move s event t := by
  cases event with
  | start contextMade => exact Option.some.inj moved ▸ .start
  | stop => exact Option.some.inj moved ▸ .stop
  | exit => exact Option.some.inj moved ▸ .exit
  | receive frame =>
    by_cases free : s.server.serving && s.mail.producers .dtls = none
    · rw [step, if_pos free] at moved
      have serving : s.server.serving = true := (Bool.and_eq_true_iff.mp free).1
      cases held : s.server.loop with
      | some loop =>
        cases loop
        rw [System.dispatchFrame, held] at moved
        exact Option.some.inj moved ▸ .queue serving held
      | none =>
        rw [System.dispatchFrame, held] at moved
        obtain ⟨mail, moves, rfl⟩ := mailStep_eq_some moved
        exact .call serving held moves
    · cases (if_neg free).symm.trans moved
  | schedule party =>
    obtain ⟨mid, scheduled, rfl⟩ := Option.map_eq_some_iff.mp moved
    obtain ⟨mail, moves, rfl⟩ := mailStep_eq_some scheduled
    exact .schedule moves
  | run =>
    by_cases idle : s.idle = true
    · rw [step, System.runCallback, if_pos idle] at moved
      cases queue : s.ready with
      | nil =>
        rw [queue] at moved
        cases moved
      | cons callback rest =>
        rw [queue] at moved
        cases callback with
        | put frame =>
          obtain ⟨mail, moves, rfl⟩ := mailStep_eq_some moved
          exact .put idle queue moves
        | deliver =>
          obtain ⟨mail, moves, rfl⟩ := mailStep_eq_some moved
          exact .deliver idle queue moves
    · cases (if_neg idle).symm.trans moved
  | handle =>
    obtain ⟨mid, handled, rfl⟩ := Option.map_eq_some_iff.mp moved
    obtain ⟨mail, moves, rfl⟩ := mailStep_eq_some handled
    exact .handle moves

/-- Whatever the system does, its mailbox is one that the parties use as they may, and no schedule of
theirs fails. -/
theorem mail_reachable {ok : System → Event → Prop} {s : System} (reached : Reachable machine ok s) :
    Reachable (Mailbox.machine Party Bytes) Mailbox.Succeeds s.mail := by
  refine reached.invariant (fun s => Reachable (Mailbox.machine Party Bytes) Mailbox.Succeeds s.mail) ?_ ?_
  · intro s start
    cases start
    exact ⟨{}, [], rfl, .nil _⟩
  · intro s event t before _ moved
    have next : ∀ {used mail}, Mailbox.step s.mail used = some mail → Mailbox.Succeeds s.mail used →
        Reachable (Mailbox.machine Party Bytes) Mailbox.Succeeds mail :=
      fun stepped succeeds => before.step succeeds stepped
    cases step_move moved with
    | start => exact before
    | stop => exact before
    | exit => exact before
    | queue _ _ => exact before
    | call _ _ put => exact next put trivial
    | schedule scheduled => exact next scheduled rfl
    | put _ _ put => exact next put trivial
    | deliver _ _ delivered => exact next delivered trivial
    | handle handled => exact next handled trivial

/-- The deliveries that the mailbox has pending are the ones in the ready queue. -/
theorem pending_step {s t : System} {event : Event} (counted : s.mail.pending = s.ready.count .deliver)
    (moved : Move s event t) : t.mail.pending = t.ready.count .deliver := by
  cases moved with
  | start => exact counted
  | stop => exact counted
  | exit => exact counted
  | queue _ _ => simpa using counted
  | call _ _ put =>
    cases Mailbox.step_move put with
    | put _ => exact counted
  | schedule scheduled =>
    cases Mailbox.step_move scheduled with
    | schedule _ => simpa [Mailbox.State.enter] using counted
  | put _ queue put =>
    cases Mailbox.step_move put with
    | put _ => simpa [queue, Mailbox.State.enter] using counted
  | deliver _ queue delivered =>
    cases Mailbox.step_move delivered with
    | deliver _ _ => simp [counted, queue]
  | handle handled =>
    cases Mailbox.step_move handled with
    | handle _ => exact counted

theorem deliveries_pending {ok : System → Event → Prop} {s : System} (reached : Reachable machine ok s) :
    s.mail.pending = s.ready.count .deliver := by
  refine reached.invariant (fun s => s.mail.pending = s.ready.count .deliver) ?_ ?_
  · intro s start
    cases start
    rfl
  · intro s event t before _ moved
    exact pending_step before (step_move moved)

/-- `async_start` has set the loop before the thread lives, so every frame goes through the ready queue and
the thread never runs `put` itself. -/
structure Looped (s : System) : Prop where
  loop : s.server.running ∨ s.server.serving → s.server.loop = some .hass
  outside : s.mail.producers .dtls = none

theorem asyncStart_loop {server : DTLSPSKServer} {contextMade : Bool}
    (before : server.running ∨ server.serving → server.loop = some .hass) :
    (server.asyncStart contextMade).running ∨ (server.asyncStart contextMade).serving →
      (server.asyncStart contextMade).loop = some .hass := by
  intro _
  have orElse : (server.loop <|> some Loop.hass) = some .hass := by
    cases server.loop with
    | none => rfl
    | some loop => rfl
  unfold DTLSPSKServer.asyncStart
  by_cases running : server.running
  · rw [if_pos running]
    exact before (.inl running)
  · rw [if_neg running]
    cases contextMade <;> exact orElse

theorem Looped.step {s t : System} {event : Event} (looped : Looped s) (moved : Move s event t) : Looped t := by
  obtain ⟨loop, outside⟩ := looped
  cases moved with
  | start => exact ⟨asyncStart_loop loop, outside⟩
  | stop => exact ⟨fun alive => loop (alive.imp_left nofun), outside⟩
  | exit => exact ⟨fun alive => loop (alive.imp_right nofun), outside⟩
  | queue _ _ => exact ⟨loop, outside⟩
  | call serving unset _ =>
    rw [loop (.inr serving)] at unset
    cases unset
  | @schedule party _ scheduled =>
    cases Mailbox.step_move scheduled with
    | schedule scheduling =>
      have elsewhere : Party.dtls ≠ party := by
        rintro rfl
        rw [outside] at scheduling
        cases scheduling
      exact ⟨loop, (Mailbox.enter_other elsewhere).trans outside⟩
  | put _ _ put =>
    have apart : Party.dtls ≠ Party.loop := nofun
    cases Mailbox.step_move put with
    | put _ => exact ⟨loop, (Mailbox.enter_other apart).trans outside⟩
  | deliver _ _ delivered =>
    cases Mailbox.step_move delivered with
    | deliver _ _ => exact ⟨loop, outside⟩
  | handle handled =>
    cases Mailbox.step_move handled with
    | handle _ => exact ⟨loop, outside⟩

theorem looped {ok : System → Event → Prop} {s : System} (reached : Reachable machine ok s) : Looped s := by
  apply reached.invariant Looped
  · intro s start
    cases start
    exact ⟨nofun, rfl⟩
  · intro s event t before _ moved
    exact before.step (step_move moved)

/-- At most one callback is pending, and no callback has parsed more than one frame. -/
def Bounded (s : System) : Prop := s.ready.length ≤ 1 ∧ ∀ frames ∈ s.ran, frames.length ≤ 1

/-- No frame comes while a callback of an earlier one is pending, or while the loop is inside `put` with one. -/
def Unhurried (s : System) : Event → Prop
  | .receive _ => s.ready = [] ∧ s.mail.producers .loop = none
  | _ => True

instance (s : System) : (event : Event) → Decidable (Unhurried s event)
  | .receive _ => inferInstanceAs (Decidable (s.ready = [] ∧ s.mail.producers .loop = none))
  | .start _ | .stop | .exit | .schedule _ | .run | .handle => .isTrue trivial

/-- A callback parses the one frame it took; what is being delivered belongs to the newest callback,
which has parsed nothing yet. -/
structure OneEach (s : System) : Prop where
  ran : ∀ frames ∈ s.ran, frames.length ≤ 1
  fresh : s.mail.delivering ≠ none → ∃ earlier, s.ran = [] :: earlier

theorem idle_iff {s : System} : s.idle = true ↔ s.mail.producers .loop = none ∧ s.mail.delivering = none := by
  simp [System.idle]

theorem OneEach.step {s t : System} {event : Event} (each : OneEach s) (moved : Move s event t) : OneEach t := by
  obtain ⟨ran, fresh⟩ := each
  have begun : ∀ frames ∈ [] :: s.ran, frames.length ≤ 1 := by
    intro frames member
    rcases List.mem_cons.mp member with rfl | member
    · exact Nat.zero_le 1
    · exact ran frames member
  cases moved with
  | start => exact ⟨ran, fresh⟩
  | stop => exact ⟨ran, fresh⟩
  | exit => exact ⟨ran, fresh⟩
  | queue _ _ => exact ⟨ran, fresh⟩
  | call _ _ put =>
    cases Mailbox.step_move put with
    | put _ => exact ⟨ran, fresh⟩
  | schedule scheduled =>
    cases Mailbox.step_move scheduled with
    | schedule _ => exact ⟨ran, fresh⟩
  | put _ _ put => exact ⟨begun, fun _ => ⟨s.ran, rfl⟩⟩
  | deliver _ _ _ => exact ⟨begun, fun _ => ⟨s.ran, rfl⟩⟩
  | handle handled =>
    cases Mailbox.step_move handled with
    | @handle taken delivering =>
      obtain ⟨earlier, newest⟩ := fresh (delivering ▸ Option.some_ne_none taken)
      refine ⟨?_, fun busy => absurd rfl busy⟩
      intro frames member
      rw [System.parsed, newest] at member
      rcases List.mem_cons.mp member with rfl | member
      · rw [List.append_nil]
        cases s.mail.delivering.join <;> simp
      · exact ran frames (newest ▸ List.mem_cons_of_mem _ member)

theorem oneEach {ok : System → Event → Prop} {s : System} (reached : Reachable machine ok s) : OneEach s := by
  apply reached.invariant OneEach
  · intro s start
    cases start
    exact ⟨nofun, fun busy => absurd rfl busy⟩
  · intro s event t before _ moved
    exact before.step (step_move moved)

/-- Nothing is pending while the loop is inside `put`, and otherwise at most one callback. -/
structure Spaced (s : System) : Prop where
  bounded : s.ready.length ≤ 1
  alone : s.mail.producers .loop ≠ none → s.ready = []

/-- Taking the only callback leaves the queue empty. -/
theorem rest_nil {callback : Callback} {ready rest : List Callback} (bounded : ready.length ≤ 1)
    (queue : ready = callback :: rest) : rest = [] := by
  rw [queue, List.length_cons] at bounded
  exact List.eq_nil_of_length_eq_zero (Nat.le_zero.mp (Nat.le_of_succ_le_succ bounded))

theorem Spaced.step {s t : System} {event : Event} (spaced : Spaced s) (looped : Looped s)
    (unhurried : Unhurried s event) (moved : Move s event t) : Spaced t := by
  obtain ⟨bounded, alone⟩ := spaced
  cases moved with
  | start => exact ⟨bounded, alone⟩
  | stop => exact ⟨bounded, alone⟩
  | exit => exact ⟨bounded, alone⟩
  | queue _ _ =>
    obtain ⟨nothing, outside⟩ := unhurried
    exact ⟨by simp [nothing], fun inside => absurd outside inside⟩
  | call serving unset _ =>
    rw [looped.loop (.inr serving)] at unset
    cases unset
  | @schedule party _ scheduled =>
    cases Mailbox.step_move scheduled with
    | schedule scheduling =>
      cases party with
      | dtls =>
        rw [looped.outside] at scheduling
        cases scheduling
      | loop =>
        have nothing := alone (scheduling ▸ Option.some_ne_none _)
        exact ⟨by simp [nothing], fun inside => absurd (Mailbox.enter_self _ _ _) inside⟩
  | put idle queue put =>
    have nothing := rest_nil bounded queue
    exact ⟨nothing ▸ Nat.zero_le 1, fun _ => nothing⟩
  | deliver idle queue delivered =>
    have nothing := rest_nil bounded queue
    exact ⟨nothing ▸ Nat.zero_le 1, fun _ => nothing⟩
  | handle handled =>
    cases Mailbox.step_move handled with
    | handle _ => exact ⟨bounded, alone⟩

theorem spaced {s : System} (reached : Reachable machine Unhurried s) : Spaced s := by
  have both : Spaced s ∧ Looped s := by
    refine reached.invariant (fun s => Spaced s ∧ Looped s) ?_ ?_
    · intro s start
      cases start
      exact ⟨⟨Nat.zero_le 1, fun _ => rfl⟩, nofun, rfl⟩
    · intro s event t held unhurried moved
      obtain ⟨spaced, looped⟩ := held
      exact ⟨spaced.step looped unhurried (step_move moved), looped.step (step_move moved)⟩
  exact both.1

/-- A callback that is added to others exceeds the bound. -/
theorem append_alone {callback : Callback} {ready : List Callback} (bounded : (ready ++ [callback]).length ≤ 1) :
    ready = [] := by
  rw [List.length_append] at bounded
  exact List.eq_nil_of_length_eq_zero (Nat.le_zero.mp (Nat.le_of_succ_le_succ bounded))

/-- A frame came while the loop was inside `put`, whose own callback is still to be scheduled. -/
def Crowded (s : System) : Prop := s.mail.producers .loop = some .scheduling ∧ s.ready ≠ []

/-- That callback comes on top, however long it takes. -/
theorem Crowded.step {s t : System} {event : Event} (crowded : Crowded s) (moved : Move s event t) :
    Crowded t ∨ ¬Bounded t := by
  obtain ⟨inside, some⟩ := crowded
  cases moved with
  | start => exact .inl ⟨inside, some⟩
  | stop => exact .inl ⟨inside, some⟩
  | exit => exact .inl ⟨inside, some⟩
  | queue _ _ => exact .inl ⟨inside, by simp⟩
  | call _ _ put =>
    have apart : Party.loop ≠ Party.dtls := nofun
    cases Mailbox.step_move put with
    | put _ => exact .inl ⟨(Mailbox.enter_other apart).trans inside, some⟩
  | schedule _ =>
    exact .inr (fun bounded => some (append_alone bounded.1))
  | put idle _ _ =>
    rw [(idle_iff.mp idle).1] at inside
    cases inside
  | deliver idle _ _ =>
    rw [(idle_iff.mp idle).1] at inside
    cases inside
  | handle handled =>
    cases Mailbox.step_move handled with
    | handle _ => exact .inl ⟨inside, some⟩

/-- A run from there leaves `put` only by exceeding the bound. -/
theorem crowded_run {ok : System → Event → Prop} {s t : System} {events : List Event} (run : Run machine ok s events t)
    (crowded : Crowded s) (throughout : Throughout machine Bounded s events) : Crowded t := by
  induction run with
  | nil _ => exact crowded
  | cons _ moved _ ih =>
    have later := ((throughout_cons moved).mp throughout).2
    rcases crowded.step (step_move moved) with still | exceeded
    · exact ih still later
    · exact absurd later.head exceeded

/-- A frame that comes too early exceeds the bound or crowds the loop. -/
theorem hurried_step {s t : System} {event : Event} (reached : Reachable machine Always s)
    (hurried : ¬Unhurried s event) (moved : Move s event t) : Crowded t ∨ ¬Bounded t := by
  cases moved with
  | queue _ _ =>
    by_cases nothing : s.ready = []
    · cases stage : s.mail.producers .loop with
      | none => exact absurd ⟨nothing, stage⟩ hurried
      | some stage' =>
        cases stage' with
        | scheduling => exact .inl ⟨stage, by simp⟩
        | resetting => exact absurd stage ((Mailbox.wakes (mail_reachable reached)).forward .loop)
    · exact .inr (fun bounded => nothing (append_alone bounded.1))
  | call serving unset _ =>
    rw [(looped reached).loop (.inr serving)] at unset
    cases unset
  | _ => exact absurd trivial hurried

/-- When the bound holds up to a state in which the loop is outside `put`, no frame came too early. -/
theorem unhurried_run {s t : System} {events : List Event} (reached : Reachable machine Always s)
    (run : Run machine Always s events t) (outside : t.mail.producers .loop = none)
    (throughout : Throughout machine Bounded s events) : Run machine Unhurried s events t := by
  induction run with
  | nil s => exact .nil s
  | @cons s _ _ event _ allowed moved later ih =>
    have after := ((throughout_cons moved).mp throughout).2
    by_cases unhurried : Unhurried s event
    · exact .cons unhurried moved (ih (reached.step allowed moved) outside after)
    · rcases hurried_step reached unhurried (step_move moved) with crowded | exceeded
      · have inside := (crowded_run later crowded after).1
        rw [outside] at inside
        cases inside
      · exact absurd after.head exceeded

/-- In a run whose frames do not come too early the bound holds throughout. Conversely, where it holds up to a
state in which the loop is outside `put`, no frame came too early. -/
theorem backlog_exact {s t : System} {events : List Event} (start : machine.Start s)
    (run : Run machine Always s events t) :
    (Run machine Unhurried s events t → Throughout machine Bounded s events) ∧
    (t.mail.producers .loop = none → Throughout machine Bounded s events → Run machine Unhurried s events t) := by
  constructor
  · intro unhurried
    exact unhurried.throughout (fun _ reached => ⟨(spaced reached).bounded, (oneEach reached).ran⟩)
      ⟨s, [], start, .nil s⟩
  · exact unhurried_run ⟨s, [], start, .nil s⟩ run

/-- Two frames, the second one after the first has been handled. -/
theorem backlog_exact_spaced :
    ∃ t, Throughout machine Bounded {} [.start true, .receive [1], .run, .schedule .loop, .run, .handle, .receive [2]] ∧
      t.mail.handled = [[1]] ∧
      Run machine Unhurried {} [.start true, .receive [1], .run, .schedule .loop, .run, .handle, .receive [2]] t := by
  have played : (play machine Unhurried {}
      [.start true, .receive [1], .run, .schedule .loop, .run, .handle, .receive [2]]).any
        (fun t => t.mail.handled = [[1]]) = true := by
    decide +kernel
  obtain ⟨t, play, handled⟩ := (Option.any_eq_true _ _).mp played
  have unhurried := run_of_play _ _ _ play
  have run : Run machine Always {} _ t := unhurried.mono (fun _ _ _ => trivial)
  exact ⟨t, (backlog_exact rfl run).1 unhurried, of_decide_eq_true handled, unhurried⟩

/-- The loop is stalled while two frames arrive: both wait in its ready queue. -/
theorem twoFrames_pending :
    ∃ t, Reachable machine Always t ∧ t.ready = [.put [1], .put [2]] ∧ ¬Bounded t := by
  have played : (play machine Always {} [.start true, .receive [1], .receive [2]]).any
      (fun t => t.ready = [.put [1], .put [2]]) = true := by
    decide +kernel
  obtain ⟨t, play, pending⟩ := (Option.any_eq_true _ _).mp played
  have ready := of_decide_eq_true pending
  refine ⟨t, reachable_of_play rfl play, ready, fun bounded => ?_⟩
  have short := bounded.1
  rw [ready] at short
  exact absurd short (by decide)

end HueEntertainment.DtlsServer
