import HueEntertainment.DtlsThread

/-! What becomes of a frame between the thread that reads it and the handler of the mailbox: the ready queue of the
event loop, then the slot in which a fresher frame replaces it. -/

namespace HueEntertainment.FrameOrder
open HueStream DtlsServer DtlsThread Runs

def frameOf : Callback → Option Bytes
  | .put frame => some frame
  | .deliver => none

/-- The frames that wait in the ready queue, the next one first. -/
def waiting (ready : List Callback) : List Bytes := ready.filterMap frameOf

@[simp] theorem waiting_nil : waiting [] = [] := rfl

@[simp] theorem waiting_put (frame : Bytes) (ready : List Callback) :
    waiting (.put frame :: ready) = frame :: waiting ready := rfl

@[simp] theorem waiting_deliver (ready : List Callback) : waiting (.deliver :: ready) = waiting ready := rfl

@[simp] theorem waiting_append (ready later : List Callback) :
    waiting (ready ++ later) = waiting ready ++ waiting later :=
  List.filterMap_append

/-- A step of the server puts into its mailbox what was received, in order. -/
theorem queued_step {s t : System} {event : DtlsServer.Event} (looped : Looped s) (move : DtlsServer.Move s event t) :
    (waiting t.ready).reverse ++ t.mail.puts =
      (received event).toList ++ ((waiting s.ready).reverse ++ s.mail.puts) := by
  cases move with
  | start => rfl
  | stop => rfl
  | exit => rfl
  | queue serving held => simp [received]
  | call serving unset _ =>
    rw [looped.loop (.inr serving)] at unset
    cases unset
  | schedule scheduled =>
    cases Mailbox.step_move scheduled with
    | schedule _ => simp [received, Mailbox.State.enter]
  | put idle queue put =>
    cases Mailbox.step_move put with
    | put _ => simp [received, queue, Mailbox.State.enter]
  | deliver idle queue delivered =>
    cases Mailbox.step_move delivered with
    | deliver _ _ => simp [received, queue]
  | handle handled =>
    cases Mailbox.step_move handled with
    | handle _ => rfl

theorem queued_run {ok : System → DtlsServer.Event → Prop} {s t : System} {events : List DtlsServer.Event}
    (looped : Looped s) (run : Run DtlsServer.machine ok s events t) :
    (waiting t.ready).reverse ++ t.mail.puts =
      (events.filterMap received).reverse ++ ((waiting s.ready).reverse ++ s.mail.puts) := by
  induction run with
  | nil s => rfl
  | @cons s mid t event events allowed moved _ ih =>
    have move := DtlsServer.step_move moved
    rw [ih (looped.step move), queued_step looped move]
    cases read : received event with
    | none => simp [read]
    | some frame => simp [read]

/-- The newest frame put into the mailbox is the newest one that it or its handler has. -/
def Freshest (mail : Mailbox.State Party Bytes) : Prop := (mail.held ++ mail.handled).head? = mail.puts.head?

theorem Freshest.step {s t : Mailbox.State Party Bytes} {event : Mailbox.Event Party Bytes} (freshest : Freshest s)
    (move : Mailbox.Move s event t) : Freshest t := by
  unfold Freshest Mailbox.State.held at *
  cases move with
  | put _ => rfl
  | schedule _ => exact freshest
  | fail _ => exact freshest
  | reset _ => exact freshest
  | deliver _ free =>
    rw [free] at freshest
    simpa using freshest
  | @handle taken delivering =>
    rw [delivering] at freshest
    simpa using freshest

theorem freshest {mail : Mailbox.State Party Bytes}
    (reached : Reachable (Mailbox.machine Party Bytes) Mailbox.Succeeds mail) : Freshest mail := by
  apply reached.invariant Freshest
  · intro s start
    cases start
    rfl
  · intro s event t before _ moved
    exact before.step (Mailbox.step_move moved)

/-- What the loop has left to do with frames: callbacks, or the rest of the one that it is in. -/
def Settled (s : System) : Prop := s.ready = [] ∧ s.idle = true

theorem settled_freshest {s : System} (reached : Reachable DtlsServer.machine Always s) (settled : Settled s) :
    s.mail.handled.head? = s.mail.puts.head? := by
  obtain ⟨nothing, idle⟩ := settled
  obtain ⟨outside, between⟩ := idle_iff.mp idle
  have counted := deliveries_pending reached
  have mail := mail_reachable reached
  have emptied : s.mail.box.latest = none := by
    cases stored : s.mail.box.latest with
    | none => rfl
    | some frame =>
      rcases Mailbox.stored_pending mail (by rw [stored]; rfl) with pending | ⟨party, scheduling⟩
      · rw [counted, nothing, List.count_nil] at pending
        exact absurd pending (Nat.lt_irrefl 0)
      · cases party with
        | loop => cases outside.symm.trans scheduling
        | dtls => cases (looped reached).outside.symm.trans scheduling
  have newest := freshest mail
  unfold Freshest Mailbox.State.held at newest
  rw [emptied, between] at newest
  exact newest

/-- The engine gets the frames of the sessions in the order in which they were read, each once at most, and what it
got last is the one read last as soon as the loop has nothing left to do. -/
theorem frames_in_order {readTimeout : ℚ} {s t : Dtls} {events : List DtlsThread.Event}
    (start : (dtls readTimeout).Start s) (run : Run (dtls readTimeout) Always s events t) :
    t.system.mail.handled.Sublist (t.log.filterMap framed) ∧
      (Settled t.system → t.system.mail.handled.head? = (t.log.filterMap framed).head?) := by
  obtain ⟨matched, refined, same⟩ := system_refines start run
  have read : (matched.filterMap received).reverse = t.log.filterMap framed := by rw [same, List.reverse_reverse]
  have reached : Reachable DtlsServer.machine Always t.system := ⟨{}, matched, rfl, refined⟩
  have initially : Looped {} := ⟨fun alive => by simp at alive, rfl⟩
  have queued := queued_run initially refined
  rw [read] at queued
  simp only [waiting, List.filterMap_nil, List.reverse_nil, List.append_nil] at queued
  rw [← queued]
  constructor
  · have handled := (Mailbox.accounted (mail_reachable reached)).order
    exact (List.sublist_append_right _ _).trans (handled.trans (List.sublist_append_right _ _))
  · intro settled
    rw [settled_freshest reached settled, settled.1]
    rfl

/-- Three frames are read before the loop runs: it puts them all into the mailbox and gets the last. -/
def burst : List DtlsThread.Event :=
  [.start true, .bind true, .accept true true true, .listen 1, .handshake 1 0, .read [1] 0, .read [2] 0, .read [3] 0,
    .run, .schedule, .run, .run, .run, .handle]

theorem frames_in_order_burst : ∃ t, Run (dtls 30) Always {} burst t ∧ t.log.filterMap framed = [[3], [2], [1]] ∧
    t.system.mail.handled.head? = some [3] := by
  have played : (play (dtls 30) Always {} burst).any (fun t =>
      t.log.filterMap framed = [[3], [2], [1]] ∧ t.system.ready = [] ∧ t.system.idle = true) = true := by
    decide +kernel
  obtain ⟨t, play, shows⟩ := (Option.any_eq_true _ _).mp played
  obtain ⟨read, settled⟩ := of_decide_eq_true shows
  have run := run_of_play _ _ _ play
  have last := (frames_in_order ⟨0, rfl⟩ run).2 settled
  rw [read] at last
  exact ⟨t, run, read, last⟩

end HueEntertainment.FrameOrder
