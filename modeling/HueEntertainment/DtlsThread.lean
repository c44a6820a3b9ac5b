import HueEntertainment.DtlsServer
import Mathlib.Tactic.Linarith

/-! The thread of `DTLSPSKServer`: `_serve_loop`, `_accept_and_stream` and `_do_accept_and_stream` from one call into
OpenSSL to the next. What a call returns is up to OpenSSL and to the network; `async_stop` can run at any time. -/

namespace HueEntertainment.DtlsThread
open HueStream DtlsServer Runs

def sslErrorWantRead : Nat := 2
def sslErrorZeroReturn : Nat := 6

def readBufSize : Nat := 4096

/-- How long `async_stop` waits for the thread. -/
def joinTimeout (pollInterval : ℚ) : ℚ := pollInterval * 5

/-- Where the thread is: before its loop, at the top of it, or in the call that it is blocked in. -/
inductive Pc where
  | binding
  | accepting
  | listening
  | handshaking (deadline : ℚ)
  | reading (lastFrame : ℚ)
  deriving DecidableEq, Repr

/-- The SSL objects that the thread holds there, and as many BIOs. -/
def Pc.sessions : Pc → Nat
  | .binding | .accepting => 0
  | .listening | .handshaking _ | .reading _ => 1

def Pc.addresses : Pc → Nat
  | .listening => 1
  | .binding | .accepting | .handshaking _ | .reading _ => 0

/-- How many objects of OpenSSL were made, and how many freed. -/
structure Objects where
  sslMade : Nat := 0
  sslFreed : Nat := 0
  bioMade : Nat := 0
  bioFreed : Nat := 0
  addrMade : Nat := 0
  addrFreed : Nat := 0
  deriving DecidableEq, Repr

/-- Ghost history of the sessions, newest first. -/
inductive Obs where
  | hello (time : ℚ)
  | established (time : ℚ)
  | frame (data : Bytes) (time : ℚ)
  | closed
  deriving DecidableEq, Repr

/-- The server with its thread, while there is one; `called` is when the thread last began a turn of its loop or a
call. -/
structure Dtls where
  system : System := {}
  pc : Option Pc := none
  now : ℚ := 0
  called : ℚ := 0
  objects : Objects := {}
  log : List Obs := []

section
variable (readTimeout : ℚ)

namespace Dtls

def running (s : Dtls) : Bool := s.system.server.running

/-- The thread goes on to its next call. -/
def call (s : Dtls) (pc : Pc) : Dtls := { s with pc := some pc, called := s.now }

/-- `SSL_new`, `BIO_new_dgram` and `BIO_ADDR_new` have succeeded. -/
def allocate (s : Dtls) : Dtls :=
  { s with objects := { s.objects with
      sslMade := s.objects.sslMade + 1, bioMade := s.objects.bioMade + 1, addrMade := s.objects.addrMade + 1 } }

/-- The inner `finally`. -/
def freeAddr (s : Dtls) : Dtls := { s with objects := { s.objects with addrFreed := s.objects.addrFreed + 1 } }

/-- The `finally` of `_accept_and_stream`: `SSL_free` frees the BIO of the SSL object with it. -/
def closeSession (s : Dtls) : Dtls :=
  { s with
    objects := { s.objects with sslFreed := s.objects.sslFreed + 1, bioFreed := s.objects.bioFreed + 1 }
    log := .closed :: s.log }.call .accepting

/-- The end of the thread. -/
def exit (s : Dtls) : Dtls :=
  { s with pc := none, system := { s.system with server := { s.system.server with serving := false } } }

/-- The top of the read loop. -/
def readNext (s : Dtls) (lastFrame : ℚ) : Dtls :=
  if s.running then s.call (.reading lastFrame) else s.closeSession

/-- One turn of `_serve_loop`, up to `DTLSv1_listen`; the arguments tell which of the three allocations succeed. A
failed one raises, which leads back to the top of the loop. -/
def accept (s : Dtls) (ssl bio addr : Bool) : Dtls :=
  if !s.running then s.exit
  else if !ssl then s.call .accepting
  else
    let objects := { s.objects with sslMade := s.objects.sslMade + 1 }
    if !bio then { s with objects := { objects with sslFreed := objects.sslFreed + 1 } }.call .accepting
    else if !addr then
      { s with objects := { objects with
          bioMade := objects.bioMade + 1, sslFreed := objects.sslFreed + 1
          bioFreed := objects.bioFreed + 1 } }.call .accepting
    else s.allocate.call .listening

/-- `DTLSv1_listen` returns. Every failure, with an exception or without, leads back to the top of `_serve_loop`. -/
def listened (s : Dtls) (ret : ℤ) : Dtls :=
  if ret ≤ 0 then s.freeAddr.closeSession
  else { s.freeAddr with log := .hello s.now :: s.log }.call (.handshaking (s.now + readTimeout))

/-- `SSL_do_handshake` returns. -/
def handshook (s : Dtls) (deadline : ℚ) (ret : ℤ) (err : Nat) : Dtls :=
  if ret = 1 then { s with log := .established s.now :: s.log }.readNext s.now
  else if !s.running then s.closeSession
  else if err = sslErrorWantRead ∧ s.now < deadline then s.call (.handshaking deadline)
  else s.closeSession

/-- `SSL_read` returns without data. -/
def readFailed (s : Dtls) (lastFrame : ℚ) (err : Nat) : Dtls :=
  if err = sslErrorZeroReturn then s.closeSession
  else if !s.running then s.closeSession
  else if err = sslErrorWantRead then
    if s.now - lastFrame < readTimeout then s.readNext lastFrame else s.closeSession
  else s.closeSession

/-- `SSL_read` returns a datagram, which is dispatched. -/
def readFrame (s : Dtls) (frame : Bytes) : Option Dtls :=
  (DtlsServer.step s.system (.receive frame)).map (fun system =>
    { s with system := system, log := .frame frame s.now :: s.log }.readNext s.now)

/-- The rest of the server goes on without the thread. -/
def elsewhere (s : Dtls) (event : DtlsServer.Event) : Option Dtls :=
  (DtlsServer.step s.system event).map (fun system => { s with system := system })

end Dtls

/-- What happens elsewhere, the passing of time, and what the calls of the thread return. -/
inductive Event where
  | start (contextMade : Bool)
  | stop
  | schedule
  | run
  | handle
  | tick (elapsed : ℚ)
  | bind (bound : Bool)
  | accept (ssl bio addr : Bool)
  | listen (ret : ℤ)
  | handshake (ret : ℤ) (err : Nat)
  | read (data : Bytes) (err : Nat)
  deriving Repr

/-- The server is not started again while a thread of it lives. A read without data is one that failed. -/
def step (s : Dtls) : Event → Option Dtls
  | .start contextMade =>
      if s.running then s.elsewhere (.start contextMade)
      else if s.pc.isSome then none
      else (s.elsewhere (.start contextMade)).map (fun s => if contextMade then s.call .binding else s)
  | .stop => s.elsewhere .stop
  | .schedule => s.elsewhere (.schedule .loop)
  | .run => s.elsewhere .run
  | .handle => s.elsewhere .handle
  | .tick elapsed => if 0 ≤ elapsed then some { s with now := s.now + elapsed } else none
  | .bind bound =>
      match s.pc with
      | some .binding => some (if bound then s.call .accepting else s.exit)
      | _ => none
  | .accept ssl bio addr =>
      match s.pc with
      | some .accepting => some (s.accept ssl bio addr)
      | _ => none
  | .listen ret =>
      match s.pc with
      | some .listening => some (s.listened readTimeout ret)
      | _ => none
  | .handshake ret err =>
      match s.pc with
      | some (.handshaking deadline) => some (s.handshook deadline ret err)
      | _ => none
  | .read data err =>
      match s.pc with
      | some (.reading lastFrame) =>
          if data = [] then some (s.readFailed readTimeout lastFrame err)
          else if data.length ≤ readBufSize then s.readFrame data
          else none
      | _ => none

/-- The server from its construction on. -/
def dtls : Machine Dtls Event where
  Start := fun s => ∃ now, s = { now := now, called := now }
  step := step readTimeout

/-- What a turn of the thread can do. -/
inductive Turn (s : Dtls) : Event → Dtls → Prop where
  | bound : s.pc = some .binding → Turn s (.bind true) (s.call .accepting)
  | unbound : s.pc = some .binding → Turn s (.bind false) s.exit
  | ended {ssl bio addr : Bool} : s.pc = some .accepting → s.running = false → Turn s (.accept ssl bio addr) s.exit
  | retried {ssl bio addr : Bool} {objects : Objects} (sessions addresses : Nat) :
      s.pc = some .accepting → s.running = true →
      objects = { s.objects with
        sslMade := s.objects.sslMade + sessions, sslFreed := s.objects.sslFreed + sessions
        bioMade := s.objects.bioMade + addresses, bioFreed := s.objects.bioFreed + addresses } →
      Turn s (.accept ssl bio addr) ({ s with objects }.call .accepting)
  | awaiting : s.pc = some .accepting → s.running = true → Turn s (.accept true true true) (s.allocate.call .listening)
  | unheard {ret : ℤ} : s.pc = some .listening → Turn s (.listen ret) s.freeAddr.closeSession
  | heard {ret : ℤ} : s.pc = some .listening →
      Turn s (.listen ret)
        ({ s.freeAddr with log := .hello s.now :: s.log }.call (.handshaking (s.now + readTimeout)))
  | established {deadline : ℚ} {ret : ℤ} {err : Nat} : s.pc = some (.handshaking deadline) →
      Turn s (.handshake ret err) ({ s with log := .established s.now :: s.log }.readNext s.now)
  | handshaking {deadline : ℚ} {ret : ℤ} {err : Nat} : s.pc = some (.handshaking deadline) → s.running = true →
      s.now < deadline → Turn s (.handshake ret err) (s.call (.handshaking deadline))
  | refused {deadline : ℚ} {ret : ℤ} {err : Nat} : s.pc = some (.handshaking deadline) →
      Turn s (.handshake ret err) s.closeSession
  | quiet {lastFrame : ℚ} {err : Nat} : s.pc = some (.reading lastFrame) → s.running = true →
      s.now - lastFrame < readTimeout → Turn s (.read [] err) (s.call (.reading lastFrame))
  | dropped {lastFrame : ℚ} {err : Nat} : s.pc = some (.reading lastFrame) → Turn s (.read [] err) s.closeSession
  | frame {lastFrame : ℚ} {data : Bytes} {err : Nat} {system : System} : s.pc = some (.reading lastFrame) →
      DtlsServer.step s.system (.receive data) = some system →
      Turn s (.read data err) ({ s with system := system, log := .frame data s.now :: s.log }.readNext s.now)

/-- What the event is to the rest of the server, when it is no turn of the thread. -/
def Event.outside : Event → Option DtlsServer.Event
  | .start contextMade => some (.start contextMade)
  | .stop => some .stop
  | .schedule => some (.schedule .loop)
  | .run => some .run
  | .handle => some .handle
  | .tick _ | .bind _ | .accept .. | .listen _ | .handshake .. | .read .. => none

/-- What each step can do. -/
inductive Move (s : Dtls) : Event → Dtls → Prop where
  | elsewhere {event : Event} {outside : DtlsServer.Event} {system : System} : event.outside = some outside →
      (outside = .start true → s.running = true) → DtlsServer.step s.system outside = some system →
      Move s event { s with system := system }
  | started {system : System} : s.running = false → s.pc = none →
      DtlsServer.step s.system (.start true) = some system →
      Move s (.start true) ({ s with system := system }.call .binding)
  | tick {elapsed : ℚ} : 0 ≤ elapsed → Move s (.tick elapsed) { s with now := s.now + elapsed }
  | turn {event : Event} {t : Dtls} : Turn readTimeout s event t → Move s event t

variable {readTimeout}

theorem elsewhere_move {s t : Dtls} {event : Event} {outside : DtlsServer.Event} (is : event.outside = some outside)
    (again : outside = .start true → s.running = true) (moved : s.elsewhere outside = some t) :
    Move readTimeout s event t := by
  obtain ⟨system, stepped, rfl⟩ := Option.map_eq_some_iff.mp moved
  exact .elsewhere is again stepped

theorem accept_turn {s : Dtls} (ssl bio addr : Bool) (accepting : s.pc = some .accepting) :
    Turn readTimeout s (.accept ssl bio addr) (s.accept ssl bio addr) := by
  cases running : s.running with
  | false =>
    simp only [Dtls.accept, running, Bool.not_false, ↓reduceIte]
    exact .ended accepting running
  | true =>
    cases ssl with
    | false =>
      simp only [Dtls.accept, running, Bool.not_true, Bool.false_eq_true, ↓reduceIte, Bool.not_false]
      exact .retried 0 0 accepting running rfl
    | true =>
      cases bio with
      | false =>
        simp only [Dtls.accept, running, Bool.not_true, Bool.false_eq_true, ↓reduceIte, Bool.not_false]
        exact .retried 1 0 accepting running rfl
      | true =>
        cases addr with
        | false =>
          simp only [Dtls.accept, running, Bool.not_true, Bool.false_eq_true, ↓reduceIte, Bool.not_false]
          exact .retried 1 1 accepting running rfl
        | true =>
          simp only [Dtls.accept, running, Bool.not_true, Bool.false_eq_true, ↓reduceIte]
          exact .awaiting accepting running

theorem handshook_turn {s : Dtls} {deadline : ℚ} (ret : ℤ) (err : Nat)
    (handshaking : s.pc = some (.handshaking deadline)) :
    Turn readTimeout s (.handshake ret err) (s.handshook deadline ret err) := by
  unfold Dtls.handshook
  split
  next => exact .established handshaking
  next =>
    split
    next => exact .refused handshaking
    next running =>
      split
      next early => exact .handshaking handshaking (by simpa using running) early.2
      next => exact .refused handshaking

theorem readFailed_turn {s : Dtls} {lastFrame : ℚ} (err : Nat) (reading : s.pc = some (.reading lastFrame)) :
    Turn readTimeout s (.read [] err) (s.readFailed readTimeout lastFrame err) := by
  unfold Dtls.readFailed
  split
  next => exact .dropped reading
  next =>
    split
    next => exact .dropped reading
    next running =>
      have running : s.running = true := by simpa using running
      split
      next =>
        split
        next recent =>
          rw [Dtls.readNext, if_pos running]
          exact .quiet reading running recent
        next => exact .dropped reading
      next => exact .dropped reading

theorem step_move {s t : Dtls} {event : Event} (moved : step readTimeout s event = some t) :
    Move readTimeout s event t := by
  cases event with
  | start contextMade =>
    simp only [step] at moved
    split at moved
    next running => exact elsewhere_move rfl (fun _ => running) moved
    next stopped =>
      split at moved
      next => cases moved
      next gone =>
        obtain ⟨u, began, rfl⟩ := Option.map_eq_some_iff.mp moved
        cases contextMade with
        | false => exact elsewhere_move rfl (by simp) began
        | true =>
          obtain ⟨system, stepped, rfl⟩ := Option.map_eq_some_iff.mp began
          exact .started (by simpa using stopped) (by simpa using gone) stepped
  | stop => exact elsewhere_move rfl (by simp) moved
  | schedule => exact elsewhere_move rfl (by simp) moved
  | run => exact elsewhere_move rfl (by simp) moved
  | handle => exact elsewhere_move rfl (by simp) moved
  | tick elapsed =>
    simp only [step] at moved
    split at moved
    next forward => exact Option.some.inj moved ▸ .tick forward
    next => cases moved
  | bind bound =>
    simp only [step] at moved
    split at moved
    next binding =>
      cases bound with
      | false => exact Option.some.inj moved ▸ .turn (.unbound binding)
      | true => exact Option.some.inj moved ▸ .turn (.bound binding)
    next => cases moved
  | accept ssl bio addr =>
    simp only [step] at moved
    split at moved
    next accepting => exact Option.some.inj moved ▸ .turn (accept_turn ssl bio addr accepting)
    next => cases moved
  | listen ret =>
    simp only [step] at moved
    split at moved
    next listening =>
      cases moved
      unfold Dtls.listened
      split
      next => exact .turn (.unheard listening)
      next => exact .turn (.heard listening)
    next => cases moved
  | handshake ret err =>
    simp only [step] at moved
    split at moved
    next deadline handshaking => exact Option.some.inj moved ▸ .turn (handshook_turn ret err handshaking)
    next => cases moved
  | read data err =>
    simp only [step] at moved
    split at moved
    next lastFrame reading =>
      split at moved
      next nothing =>
        subst nothing
        exact Option.some.inj moved ▸ .turn (readFailed_turn err reading)
      next =>
        split at moved
        next =>
          obtain ⟨system, received, rfl⟩ := Option.map_eq_some_iff.mp moved
          exact .turn (.frame reading received)
        next => cases moved
    next => cases moved

/-- Every object of OpenSSL that was made is freed, or the thread holds it. -/
structure Balanced (s : Dtls) : Prop where
  ssl : s.objects.sslMade = s.objects.sslFreed + s.pc.elim 0 Pc.sessions
  bio : s.objects.bioMade = s.objects.bioFreed + s.pc.elim 0 Pc.sessions
  addr : s.objects.addrMade = s.objects.addrFreed + s.pc.elim 0 Pc.addresses

theorem Balanced.close {s : Dtls} (ssl : s.objects.sslMade = s.objects.sslFreed + 1)
    (bio : s.objects.bioMade = s.objects.bioFreed + 1) (addr : s.objects.addrMade = s.objects.addrFreed) :
    Balanced s.closeSession :=
  ⟨ssl, bio, addr⟩

theorem Balanced.readNext {s : Dtls} (lastFrame : ℚ) (ssl : s.objects.sslMade = s.objects.sslFreed + 1)
    (bio : s.objects.bioMade = s.objects.bioFreed + 1) (addr : s.objects.addrMade = s.objects.addrFreed) :
    Balanced (s.readNext lastFrame) := by
  unfold Dtls.readNext
  split
  · exact ⟨ssl, bio, addr⟩
  · exact .close ssl bio addr

theorem Balanced.turn {s t : Dtls} {event : Event} (balanced : Balanced s) (turn : Turn readTimeout s event t) :
    Balanced t := by
  obtain ⟨ssl, bio, addr⟩ := balanced
  cases turn with
  | bound binding =>
    rw [binding] at ssl bio addr
    exact ⟨ssl, bio, addr⟩
  | unbound binding =>
    rw [binding] at ssl bio addr
    exact ⟨ssl, bio, addr⟩
  | ended accepting stopped =>
    rw [accepting] at ssl bio addr
    exact ⟨ssl, bio, addr⟩
  | retried sessions addresses accepting running same =>
    subst same
    rw [accepting] at ssl bio addr
    exact ⟨congrArg (· + sessions) ssl, congrArg (· + addresses) bio, addr⟩
  | awaiting accepting running =>
    rw [accepting] at ssl bio addr
    exact ⟨congrArg (· + 1) ssl, congrArg (· + 1) bio, congrArg (· + 1) addr⟩
  | unheard listening =>
    rw [listening] at ssl bio addr
    exact .close ssl bio addr
  | heard listening =>
    rw [listening] at ssl bio addr
    exact ⟨ssl, bio, addr⟩
  | established handshaking =>
    rw [handshaking] at ssl bio addr
    exact .readNext _ ssl bio addr
  | handshaking handshaking running early =>
    rw [handshaking] at ssl bio addr
    exact ⟨ssl, bio, addr⟩
  | refused handshaking =>
    rw [handshaking] at ssl bio addr
    exact .close ssl bio addr
  | quiet reading running recent =>
    rw [reading] at ssl bio addr
    exact ⟨ssl, bio, addr⟩
  | dropped reading =>
    rw [reading] at ssl bio addr
    exact .close ssl bio addr
  | frame reading received =>
    rw [reading] at ssl bio addr
    exact .readNext _ ssl bio addr

theorem Balanced.step {s t : Dtls} {event : Event} (balanced : Balanced s) (move : Move readTimeout s event t) :
    Balanced t := by
  cases move with
  | elsewhere is again stepped => exact ⟨balanced.ssl, balanced.bio, balanced.addr⟩
  | started stopped gone stepped =>
    obtain ⟨ssl, bio, addr⟩ := balanced
    rw [gone] at ssl bio addr
    exact ⟨ssl, bio, addr⟩
  | tick forward => exact ⟨balanced.ssl, balanced.bio, balanced.addr⟩
  | turn turn => exact balanced.turn turn

/-- When the last frame of the session came that is open at the end of the history, or its handshake was complete. -/
def openSince : List Obs → Option ℚ
  | .established time :: _ => some time
  | .frame _ time :: _ => some time
  | .hello _ :: _ => none
  | .closed :: _ => none
  | [] => none

/-- When the client was last heard of that the thread attends to. -/
def heardAt : List Obs → Option ℚ
  | .hello time :: _ => some time
  | .established time :: _ => some time
  | .frame _ time :: _ => some time
  | .closed :: _ => none
  | [] => none

/-- One client after the other: a session is opened for the client that said hello, and every frame comes in one. -/
def Sessions : List Obs → Prop
  | [] => True
  | .hello _ :: earlier => heardAt earlier = none ∧ Sessions earlier
  | .established _ :: earlier => (heardAt earlier).isSome ∧ openSince earlier = none ∧ Sessions earlier
  | .frame _ _ :: earlier => (openSince earlier).isSome ∧ Sessions earlier
  | .closed :: earlier => Sessions earlier

def Pc.lastFrame : Pc → Option ℚ
  | .reading lastFrame => some lastFrame
  | .binding | .accepting | .listening | .handshaking _ => none

def Pc.heard (readTimeout : ℚ) : Pc → Option ℚ
  | .handshaking deadline => some (deadline - readTimeout)
  | .reading lastFrame => some lastFrame
  | .binding | .accepting | .listening => none

/-- The thread handshakes or reads exactly while it has a client, and reads while the session is open. -/
structure Streams (readTimeout : ℚ) (s : Dtls) : Prop where
  log : Sessions s.log
  since : openSince s.log = s.pc.bind Pc.lastFrame
  heard : heardAt s.log = s.pc.bind (Pc.heard readTimeout)
  serving : s.system.server.serving = s.pc.isSome

theorem Streams.close {s : Dtls} (log : Sessions s.log) (serving : s.system.server.serving = true) :
    Streams readTimeout s.closeSession :=
  ⟨log, rfl, rfl, serving⟩

theorem Streams.readNext {s : Dtls} {lastFrame : ℚ} (log : Sessions s.log) (since : openSince s.log = some lastFrame)
    (heard : heardAt s.log = some lastFrame) (serving : s.system.server.serving = true) :
    Streams readTimeout (s.readNext lastFrame) := by
  unfold Dtls.readNext
  split
  · exact ⟨log, since, heard, serving⟩
  · exact .close log serving

/-- The thread of the server comes and goes only with a start or an exit. -/
theorem serving_step {s t : System} {event : DtlsServer.Event} (again : event = .start true → s.server.running = true)
    (other : event ≠ .exit) (move : DtlsServer.Move s event t) : t.server.serving = s.server.serving := by
  cases move with
  | @start contextMade =>
    cases running : s.server.running with
    | true => simp [DTLSPSKServer.asyncStart, running]
    | false =>
      cases contextMade with
      | false => simp [DTLSPSKServer.asyncStart, running]
      | true => cases (again rfl).symm.trans running
  | exit => exact absurd rfl other
  | _ => rfl

theorem outside_other {event : Event} {outside : DtlsServer.Event} (is : event.outside = some outside) :
    outside ≠ .exit ∧ ∀ frame, outside ≠ .receive frame := by
  cases event with
  | start | stop | schedule | run | handle =>
    cases is
    simp
  | _ => cases is

theorem Streams.turn {s t : Dtls} {event : Event} (streams : Streams readTimeout s)
    (turn : Turn readTimeout s event t) : Streams readTimeout t := by
  obtain ⟨log, since, heard, serving⟩ := streams
  cases turn with
  | bound binding =>
    rw [binding] at since heard serving
    exact ⟨log, since, heard, serving⟩
  | unbound binding =>
    rw [binding] at since heard
    exact ⟨log, since, heard, rfl⟩
  | ended accepting stopped =>
    rw [accepting] at since heard
    exact ⟨log, since, heard, rfl⟩
  | retried sessions addresses accepting running same =>
    rw [accepting] at since heard serving
    exact ⟨log, since, heard, serving⟩
  | awaiting accepting running =>
    rw [accepting] at since heard serving
    exact ⟨log, since, heard, serving⟩
  | unheard listening =>
    rw [listening] at serving
    exact .close log serving
  | heard listening =>
    rw [listening] at heard serving
    exact ⟨⟨heard, log⟩, rfl, by simp [Dtls.call, heardAt, Pc.heard], serving⟩
  | established handshaking =>
    rw [handshaking] at since heard serving
    have greeted : (heardAt s.log).isSome := by
      rw [heard]
      rfl
    exact .readNext ⟨greeted, since, log⟩ rfl rfl serving
  | handshaking handshaking running early =>
    rw [handshaking] at since heard serving
    exact ⟨log, since, heard, serving⟩
  | refused handshaking =>
    rw [handshaking] at serving
    exact .close log serving
  | quiet reading running recent =>
    rw [reading] at since heard serving
    exact ⟨log, since, heard, serving⟩
  | dropped reading =>
    rw [reading] at serving
    exact .close log serving
  | frame reading received =>
    rw [reading] at since serving
    have opened : (openSince s.log).isSome := by
      rw [since]
      rfl
    have still := serving_step (by simp) (by simp) (DtlsServer.step_move received)
    exact .readNext ⟨opened, log⟩ rfl rfl (still.trans serving)

theorem Streams.step {s t : Dtls} {event : Event} (streams : Streams readTimeout s)
    (move : Move readTimeout s event t) : Streams readTimeout t := by
  cases move with
  | elsewhere is again stepped =>
    have still := serving_step again (outside_other is).1 (DtlsServer.step_move stepped)
    exact ⟨streams.log, streams.since, streams.heard, still.trans streams.serving⟩
  | started stopped gone stepped =>
    obtain ⟨log, since, heard, _⟩ := streams
    rw [gone] at since heard
    cases DtlsServer.step_move stepped with
    | start =>
      refine ⟨log, since, heard, ?_⟩
      change s.system.server.running = false at stopped
      simp [Dtls.call, DTLSPSKServer.asyncStart, stopped]
  | tick forward => exact ⟨streams.log, streams.since, streams.heard, streams.serving⟩
  | turn turn => exact streams.turn turn

theorem invariants {ok : Dtls → Event → Prop} {s : Dtls} (reached : Reachable (dtls readTimeout) ok s) :
    Balanced s ∧ Streams readTimeout s := by
  refine reached.invariant (fun s => Balanced s ∧ Streams readTimeout s) ?_ ?_
  · rintro s ⟨now, rfl⟩
    exact ⟨⟨rfl, rfl, rfl⟩, trivial, rfl, rfl, rfl⟩
  · intro s event t before _ moved
    have move := step_move moved
    exact ⟨before.1.step move, before.2.step move⟩

/-- Whatever OpenSSL returns, and whenever the server is stopped: of the SSL objects, their BIOs and the addresses that
were made, all are freed but the one of each that the thread may hold, and it holds none when it has ended. -/
theorem objects_balanced {s : Dtls} (reached : Reachable (dtls readTimeout) Always s) :
    ∃ sessions ≤ 1, ∃ addresses ≤ sessions,
      s.objects.sslMade = s.objects.sslFreed + sessions ∧ s.objects.bioMade = s.objects.bioFreed + sessions ∧
      s.objects.addrMade = s.objects.addrFreed + addresses ∧ (s.system.server.serving = false → sessions = 0) := by
  obtain ⟨⟨ssl, bio, addr⟩, _, _, _, serving⟩ := invariants reached
  refine ⟨s.pc.elim 0 Pc.sessions, ?_, s.pc.elim 0 Pc.addresses, ?_, ssl, bio, addr, ?_⟩
  · cases s.pc with
    | none => exact Nat.zero_le 1
    | some pc => cases pc <;> simp [Pc.sessions]
  · cases s.pc with
    | none => exact Nat.le_refl 0
    | some pc => cases pc <;> simp [Pc.sessions, Pc.addresses]
  · intro gone
    have none : s.pc = none := Option.isNone_iff_eq_none.mp (by simpa using serving.symm.trans gone)
    rw [none, Option.elim_none]

/-- The session of a client that sends one frame and then nothing more. -/
def oneFrame : List Event :=
  [.start true, .bind true, .accept true true true, .listen 1, .handshake 1 0, .read [7] 0, .tick 1, .read [] 2, .tick 1]

theorem objects_balanced_oneFrame :
    ∃ s, Reachable (dtls 2) Always s ∧ s.objects.sslMade = 1 ∧ ∃ sessions ≤ 1, 1 = s.objects.sslFreed + sessions := by
  have played : (play (dtls 2) Always {} oneFrame).any (fun s => s.objects.sslMade = 1) = true := by
    decide +kernel
  obtain ⟨s, play, made⟩ := (Option.any_eq_true _ _).mp played
  have reached : Reachable (dtls 2) Always s := reachable_of_play ⟨0, rfl⟩ play
  obtain ⟨sessions, most, _, _, ssl, _⟩ := objects_balanced reached
  have one := of_decide_eq_true made
  exact ⟨s, reached, one, sessions, most, one.symm.trans ssl⟩

/-- What the thread hands on. -/
def received : DtlsServer.Event → Option Bytes
  | .receive frame => some frame
  | .start _ | .stop | .exit | .schedule _ | .run | .handle => none

def framed : Obs → Option Bytes
  | .frame data _ => some data
  | .hello _ | .established _ | .closed => none

theorem readNext_system (s : Dtls) (lastFrame : ℚ) : (s.readNext lastFrame).system = s.system := by
  unfold Dtls.readNext
  split <;> rfl

theorem readNext_framed (s : Dtls) (lastFrame : ℚ) :
    (s.readNext lastFrame).log.filterMap framed = s.log.filterMap framed := by
  unfold Dtls.readNext
  split <;> rfl

/-- A step of the thread is one of the server that receives the frames it reads, if it is one at all. -/
theorem step_refines {s t : Dtls} {event : Event} (move : Move readTimeout s event t) :
    ∃ matched, Run DtlsServer.machine Always s.system matched t.system ∧
      t.log.filterMap framed = (matched.filterMap received).reverse ++ s.log.filterMap framed := by
  cases move with
  | @elsewhere _ outside _ is again stepped =>
    have unread : received outside = none := by
      cases outside with
      | receive frame => exact absurd rfl ((outside_other is).2 frame)
      | _ => rfl
    refine ⟨[outside], .cons trivial stepped (.nil _), ?_⟩
    simp [unread]
  | started stopped gone stepped => exact ⟨[.start true], .cons trivial stepped (.nil _), rfl⟩
  | tick forward => exact ⟨[], .nil _, rfl⟩
  | turn turn =>
    cases turn with
    | unbound binding => exact ⟨[.exit], .cons trivial rfl (.nil _), rfl⟩
    | ended accepting stopped => exact ⟨[.exit], .cons trivial rfl (.nil _), rfl⟩
    | established handshaking =>
      refine ⟨[], ?_, readNext_framed _ _⟩
      rw [readNext_system]
      exact .nil _
    | @frame _ data _ system reading stepped =>
      refine ⟨[.receive data], ?_, readNext_framed _ _⟩
      rw [readNext_system]
      exact .cons trivial stepped (.nil _)
    | _ => exact ⟨[], .nil _, rfl⟩

theorem run_refines {ok : Dtls → Event → Prop} {s t : Dtls} {events : List Event}
    (run : Run (dtls readTimeout) ok s events t) :
    ∃ matched, Run DtlsServer.machine Always s.system matched t.system ∧
      t.log.filterMap framed = (matched.filterMap received).reverse ++ s.log.filterMap framed := by
  induction run with
  | nil s => exact ⟨[], .nil _, rfl⟩
  | cons _ moved _ ih =>
    obtain ⟨first, left, fromStart⟩ := step_refines (step_move moved)
    obtain ⟨rest, right, fromMid⟩ := ih
    refine ⟨first ++ rest, left.append right, ?_⟩
    rw [fromMid, fromStart, List.filterMap_append, List.reverse_append, List.append_assoc]

/-- All that the thread does to the rest of the server is a run of it in which it receives, in their order, the frames
that were read. -/
theorem system_refines {s t : Dtls} {events : List Event} (start : (dtls readTimeout).Start s)
    (run : Run (dtls readTimeout) Always s events t) : ∃ matched, Run DtlsServer.machine Always {} matched t.system ∧
      matched.filterMap received = (t.log.filterMap framed).reverse := by
  obtain ⟨matched, refined, same⟩ := run_refines run
  obtain ⟨now, rfl⟩ := start
  refine ⟨matched, refined, ?_⟩
  rw [same, List.filterMap_nil, List.append_nil, List.reverse_reverse]

/-- The thread refines the rest of the server, and each frame was read while a session was open and no other. -/
theorem frames_refine {s t : Dtls} {events : List Event} (start : (dtls readTimeout).Start s)
    (run : Run (dtls readTimeout) Always s events t) :
    Sessions t.log ∧ ∃ matched, Run DtlsServer.machine Always {} matched t.system ∧
      matched.filterMap received = (t.log.filterMap framed).reverse :=
  ⟨(invariants ⟨s, events, start, run⟩).2.log, system_refines start run⟩

theorem frames_refine_oneFrame :
    ∃ t, Run (dtls 2) Always {} oneFrame t ∧ ∃ matched, Run DtlsServer.machine Always {} matched t.system ∧
      matched.filterMap received = [[7]] := by
  have played : (play (dtls 2) Always {} oneFrame).any (fun t => t.log.filterMap framed = [[7]]) = true := by
    decide +kernel
  obtain ⟨t, play, read⟩ := (Option.any_eq_true _ _).mp played
  have run := run_of_play _ _ _ play
  obtain ⟨_, matched, refined, same⟩ := frames_refine ⟨0, rfl⟩ run
  rw [of_decide_eq_true read] at same
  exact ⟨t, run, matched, refined, same⟩

section
variable (pollInterval : ℚ)

/-- `SO_RCVTIMEO` wakes the thread: no call, and no turn of its loop, takes longer than the poll interval. -/
def Prompt (s : Dtls) : Event → Prop
  | .tick elapsed => s.pc.isSome → s.now + elapsed ≤ s.called + pollInterval
  | _ => True

instance (s : Dtls) : (event : Event) → Decidable (Prompt pollInterval s event)
  | .tick elapsed => inferInstanceAs (Decidable (s.pc.isSome → s.now + elapsed ≤ s.called + pollInterval))
  | .start _ | .stop | .schedule | .run | .handle | .bind _ | .accept .. | .listen _ | .handshake .. | .read .. =>
      .isTrue trivial

variable {pollInterval}

/-- The present call has not lasted longer than that, and did not begin when the thread had waited enough. -/
structure Clocked (readTimeout pollInterval : ℚ) (s : Dtls) : Prop where
  past : s.called ≤ s.now
  soon : s.pc.isSome → s.now ≤ s.called + pollInterval
  handshake : ∀ deadline, s.pc = some (.handshaking deadline) → s.called ≤ deadline
  stream : ∀ lastFrame, s.pc = some (.reading lastFrame) → s.called ≤ lastFrame + readTimeout

theorem Clocked.call {s : Dtls} {pc : Pc} (patient : 0 ≤ pollInterval)
    (handshake : ∀ deadline, pc = .handshaking deadline → s.now ≤ deadline)
    (stream : ∀ lastFrame, pc = .reading lastFrame → s.now ≤ lastFrame + readTimeout) :
    Clocked readTimeout pollInterval (s.call pc) :=
  ⟨le_refl _, fun _ => le_add_of_nonneg_right patient, fun deadline same => handshake deadline (Option.some.inj same),
    fun lastFrame same => stream lastFrame (Option.some.inj same)⟩

theorem Clocked.readNext {s : Dtls} (patient : 0 ≤ pollInterval) (tolerant : 0 ≤ readTimeout) :
    Clocked readTimeout pollInterval (s.readNext s.now) := by
  unfold Dtls.readNext
  split
  · refine .call patient (by simp) ?_
    rintro lastFrame ⟨⟩
    exact le_add_of_nonneg_right tolerant
  · exact .call patient (by simp) (by simp)

theorem Clocked.turn {s t : Dtls} {event : Event} (patient : 0 ≤ pollInterval) (tolerant : 0 ≤ readTimeout)
    (clocked : Clocked readTimeout pollInterval s) (turn : Turn readTimeout s event t) :
    Clocked readTimeout pollInterval t := by
  have gone : Clocked readTimeout pollInterval s.exit := ⟨clocked.past, nofun, nofun, nofun⟩
  cases turn with
  | unbound binding => exact gone
  | ended accepting stopped => exact gone
  | heard listening =>
    refine .call patient ?_ (by simp)
    rintro deadline ⟨⟩
    exact le_add_of_nonneg_right tolerant
  | established handshaking => exact .readNext patient tolerant
  | handshaking handshaking running early =>
    refine .call patient ?_ (by simp)
    rintro deadline ⟨⟩
    exact early.le
  | @quiet lastFrame err reading running recent =>
    refine .call patient (by simp) ?_
    rintro lastFrame ⟨⟩
    linarith
  | frame reading received => exact .readNext patient tolerant
  | _ => exact .call patient (by simp) (by simp)

theorem Clocked.step {s t : Dtls} {event : Event} (patient : 0 ≤ pollInterval) (tolerant : 0 ≤ readTimeout)
    (clocked : Clocked readTimeout pollInterval s) (prompt : Prompt pollInterval s event)
    (move : Move readTimeout s event t) : Clocked readTimeout pollInterval t := by
  cases move with
  | elsewhere is again stepped => exact ⟨clocked.past, clocked.soon, clocked.handshake, clocked.stream⟩
  | started stopped gone stepped => exact .call patient (by simp) (by simp)
  | tick forward =>
    exact ⟨clocked.past.trans (le_add_of_nonneg_right forward), prompt, clocked.handshake, clocked.stream⟩
  | turn turn => exact clocked.turn patient tolerant turn

theorem clocked {s : Dtls} (patient : 0 ≤ pollInterval) (tolerant : 0 ≤ readTimeout)
    (reached : Reachable (dtls readTimeout) (Prompt pollInterval) s) : Clocked readTimeout pollInterval s := by
  apply reached.invariant (Clocked readTimeout pollInterval)
  · rintro s ⟨now, rfl⟩
    exact ⟨le_refl _, nofun, nofun, nofun⟩
  · intro s event t before prompt moved
    exact before.step patient tolerant prompt (step_move moved)

/-- How long a thread that is told to stop can still take from there. -/
def Pc.remaining (pollInterval : ℚ) : Pc → ℚ
  | .accepting => pollInterval
  | .binding | .handshaking _ | .reading _ => 2 * pollInterval
  | .listening => 3 * pollInterval

/-- A stopped server whose thread is gone in time. -/
structure Stopping (pollInterval limit : ℚ) (s : Dtls) : Prop where
  stopped : s.running = false
  soon : s.pc.isSome → s.now ≤ s.called + pollInterval
  remaining : ∀ pc, s.pc = some pc → s.called + pc.remaining pollInterval ≤ limit

theorem Stopping.call {limit : ℚ} {s : Dtls} {pc : Pc} (patient : 0 ≤ pollInterval) (stopped : s.running = false)
    (remaining : s.now + pc.remaining pollInterval ≤ limit) : Stopping pollInterval limit (s.call pc) := by
  refine ⟨stopped, fun _ => le_add_of_nonneg_right patient, ?_⟩
  rintro _ ⟨⟩
  exact remaining

theorem Stopping.readNext {limit : ℚ} {s : Dtls} (lastFrame : ℚ) (patient : 0 ≤ pollInterval)
    (stopped : s.running = false) (soon : s.now + pollInterval ≤ limit) :
    Stopping pollInterval limit (s.readNext lastFrame) := by
  rw [Dtls.readNext, stopped, if_neg Bool.false_ne_true]
  exact .call patient stopped soon

/-- Only a start makes the server run. -/
theorem stopped_step {s t : System} {event : DtlsServer.Event} (unstarted : ∀ contextMade, event ≠ .start contextMade)
    (stopped : s.server.running = false) (move : DtlsServer.Move s event t) : t.server.running = false := by
  cases move with
  | @start contextMade => exact absurd rfl (unstarted contextMade)
  | stop => rfl
  | _ => exact stopped

theorem Stopping.turn {limit : ℚ} {s t : Dtls} {event : Event} (patient : 0 ≤ pollInterval)
    (stopping : Stopping pollInterval limit s) (turn : Turn readTimeout s event t) :
    Stopping pollInterval limit t := by
  obtain ⟨stopped, soon, remaining⟩ := stopping
  have alive : ∀ pc, s.pc = some pc → s.now + pc.remaining pollInterval ≤ limit + pollInterval := by
    intro pc at'
    linarith [soon (by rw [at']; rfl), remaining pc at']
  have closes : ∀ pc, s.pc = some pc → 2 * pollInterval ≤ pc.remaining pollInterval →
      s.now + Pc.accepting.remaining pollInterval ≤ limit := by
    intro pc at' left
    change s.now + pollInterval ≤ limit
    linarith [alive pc at']
  have ends : Stopping pollInterval limit s.exit := ⟨stopped, nofun, nofun⟩
  cases turn with
  | bound binding => exact .call patient stopped (closes _ binding (le_refl _))
  | unbound binding => exact ends
  | ended accepting _ => exact ends
  | retried sessions addresses accepting running same => cases stopped.symm.trans running
  | awaiting accepting running => cases stopped.symm.trans running
  | unheard listening =>
    refine .call patient stopped (closes _ listening ?_)
    change 2 * pollInterval ≤ 3 * pollInterval
    linarith
  | heard listening =>
    have left := alive _ listening
    change s.now + 3 * pollInterval ≤ limit + pollInterval at left
    refine .call patient stopped ?_
    change s.now + 2 * pollInterval ≤ limit
    linarith
  | established handshaking =>
    exact .readNext _ patient stopped (closes _ handshaking (le_refl _))
  | handshaking handshaking running early => cases stopped.symm.trans running
  | refused handshaking => exact .call patient stopped (closes _ handshaking (le_refl _))
  | quiet reading running recent => cases stopped.symm.trans running
  | dropped reading => exact .call patient stopped (closes _ reading (le_refl _))
  | frame reading received =>
    have still := stopped_step (by simp) stopped (DtlsServer.step_move received)
    exact .readNext _ patient still (closes _ reading (le_refl _))

/-- No new start. -/
def Event.unstarted : Event → Prop
  | .start _ => False
  | _ => True

instance : (event : Event) → Decidable event.unstarted
  | .start _ => .isFalse id
  | .stop | .schedule | .run | .handle | .tick _ | .bind _ | .accept .. | .listen _ | .handshake .. | .read .. =>
      .isTrue trivial

theorem Stopping.step {limit : ℚ} {s t : Dtls} {event : Event} (patient : 0 ≤ pollInterval)
    (stopping : Stopping pollInterval limit s) (prompt : Prompt pollInterval s event) (unstarted : event.unstarted)
    (move : Move readTimeout s event t) : Stopping pollInterval limit t := by
  cases move with
  | @elsewhere _ outside _ is again stepped =>
    have other : ∀ contextMade, outside ≠ .start contextMade := by
      rintro contextMade rfl
      cases event with
      | start => exact unstarted
      | _ => cases is
    exact ⟨stopped_step other stopping.stopped (DtlsServer.step_move stepped), stopping.soon, stopping.remaining⟩
  | started _ gone stepped => exact unstarted.elim
  | tick forward => exact ⟨stopping.stopped, prompt, stopping.remaining⟩
  | turn turn => exact stopping.turn patient turn

theorem stop_step {s t : Dtls} (stopped : (dtls readTimeout).step s .stop = some t) :
    t = { s with system := { s.system with server := s.system.server.asyncStop } } :=
  (Option.some.inj stopped).symm

/-- From the stop on. -/
theorem stopping {s u t : Dtls} {events : List Event} (patient : 0 < pollInterval) (tolerant : 0 ≤ readTimeout)
    (reached : Reachable (dtls readTimeout) (Prompt pollInterval) s)
    (stopped : (dtls readTimeout).step s .stop = some u)
    (run : Run (dtls readTimeout) (fun s event => Prompt pollInterval s event ∧ event.unstarted) u events t) :
    Stopping pollInterval (s.now + 3 * pollInterval) t := by
  have initially : Stopping pollInterval (s.now + 3 * pollInterval) u := by
    obtain ⟨past, soon, _, _⟩ := clocked patient.le tolerant reached
    rw [stop_step stopped]
    refine ⟨rfl, soon, ?_⟩
    intro pc _
    have most : pc.remaining pollInterval ≤ 3 * pollInterval := by
      cases pc <;> simp only [Pc.remaining] <;> linarith
    change s.called + pc.remaining pollInterval ≤ s.now + 3 * pollInterval
    linarith
  refine run.invariant (Stopping pollInterval (s.now + 3 * pollInterval)) ?_ initially
  intro s event t before allowed moved
  exact before.step patient.le allowed.1 allowed.2 (step_move moved)

end

end

end HueEntertainment.DtlsThread
