import HueEntertainment.DtlsServer
import HueEntertainment.TaskTable

/-! `async_setup_entry` and `async_unload_entry`, called one after the other while Home Assistant runs: the HTTP
server, the DTLS thread and the mDNS registration that each call of `async_setup_entry` starts. -/

namespace HueEntertainment.EntrySetup
open DtlsServer Runs TaskTable

abbrev AttemptId := Nat

/-- The UDP socket of the DTLS thread. -/
inductive Socket where
  | unbound | bound | refused | closed
  deriving DecidableEq, Repr

inductive Outcome where
  | succeeded | notReady | raised
  deriving DecidableEq, Repr

/-- The objects that one call of `async_setup_entry` makes. `hosted` tells that Home Assistant's own HTTP server
serves the API, `listening` that a server of the attempt's own does. -/
structure Attempt where
  hosted : Bool
  listening : Bool := false
  dtls : DTLSPSKServer := {}
  socket : Socket := .unbound
  registered : Bool := false
  outcome : Option Outcome := none
  deriving Repr

/-- What `async_setup_entry` starts next. -/
inductive Stage where
  | api | dtls | discovery | platforms
  deriving DecidableEq, Repr

/-- Home Assistant sets an entry up only when it is neither loaded nor being set up. -/
inductive Entry where
  | idle
  | settingUp (attempt : AttemptId) (stage : Stage)
  | loaded (attempt : AttemptId)
  | failedUnload
  deriving DecidableEq, Repr

/-- `target` is the attempt whose API server is attached to the `HueHttpHost`. -/
structure Hass where
  attempts : AttemptId → Option Attempt := fun _ => none
  nextAttempt : AttemptId := 0
  target : Option AttemptId := none
  entry : Entry := .idle

/-- `dtls_server.async_stop()` and the part of `api_server.async_stop()` that closes its own server. -/
def Attempt.stopServers (a : Attempt) : Attempt :=
  { a with dtls := a.dtls.asyncStop, socket := if a.socket = .bound then .closed else a.socket, listening := false }

namespace Hass

def set (s : Hass) (attempt : AttemptId) (a : Attempt) : Hass :=
  { s with attempts := Function.update s.attempts attempt (some a) }

/-- `HueHttpHost.detach`, by an API server that has a host. -/
def detach (s : Hass) (attempt : AttemptId) (a : Attempt) : Hass :=
  { s with target := if a.hosted ∧ s.target = some attempt then none else s.target }

/-- The call raises. -/
def fail (s : Hass) (attempt : AttemptId) (a : Attempt) (outcome : Outcome) : Hass :=
  { s.set attempt { a with outcome := some outcome } with entry := .idle }

/-- The call goes on when it has got to this stage. -/
def during (s : Hass) (stage : Stage) (go : AttemptId → Attempt → Hass) : Option Hass :=
  match s.entry with
  | .settingUp attempt reached => if reached = stage then (s.attempts attempt).map (go attempt) else none
  | _ => none

end Hass

/-- A reload is an unload with a setup after it. Each `Bool` but the first tells whether something succeeds:
binding the HTTP port, creating the DTLS context, binding the UDP port, registering with mDNS, unloading the
platforms. -/
inductive Event where
  | setup (hosted : Bool)
  | startApi (bound : Bool)
  | startDtls (contextMade : Bool)
  | bind (attempt : AttemptId) (bound : Bool)
  | register (registered : Bool)
  | finish
  | exit (attempt : AttemptId)
  | unload (platformsUnloaded : Bool)
  deriving Repr

/-- `bind` and `exit` are steps of the DTLS thread of an attempt: it binds its socket at some time after
`async_start` has returned, and ends when it cannot or when it sees that the server does not run any more. -/
def step (s : Hass) : Event → Option Hass
  | .setup hosted =>
      match s.entry with
      | .idle =>
          some { s.set s.nextAttempt { hosted } with
            nextAttempt := s.nextAttempt + 1, entry := .settingUp s.nextAttempt .api }
      | _ => none
  | .startApi bound =>
      s.during .api (fun attempt a =>
        if a.hosted then { s with target := some attempt, entry := .settingUp attempt .dtls }
        else if bound then { s.set attempt { a with listening := true } with entry := .settingUp attempt .dtls }
        else (s.detach attempt a).fail attempt a.stopServers .notReady)
  | .startDtls contextMade =>
      s.during .dtls (fun attempt a =>
        let b := { a with dtls := a.dtls.asyncStart contextMade }
        if contextMade || a.dtls.running then { s.set attempt b with entry := .settingUp attempt .discovery }
        -- a `RuntimeError`, which `_async_start` does not catch
        else s.fail attempt b .raised)
  | .bind attempt bound =>
      match s.attempts attempt with
      | some a =>
          if a.dtls.serving ∧ a.socket = .unbound then
            if bound then some (s.set attempt { a with socket := .bound })
            else some (s.set attempt { a with socket := .refused, dtls := { a.dtls with serving := false } })
          else none
      | none => none
  | .register registered =>
      s.during .discovery (fun attempt a =>
        if registered then { s.set attempt { a with registered := true } with entry := .settingUp attempt .platforms }
        else s.fail attempt a .raised)
  | .finish =>
      s.during .platforms (fun attempt a =>
        { s.set attempt { a with outcome := some .succeeded } with entry := .loaded attempt })
  | .exit attempt =>
      match s.attempts attempt with
      | some a =>
          if a.dtls.serving ∧ a.socket ≠ .unbound ∧ ¬a.dtls.running then
            some (s.set attempt { a with dtls := { a.dtls with serving := false } })
          else none
      | none => none
  | .unload platformsUnloaded =>
      match s.entry with
      | .loaded attempt =>
          (s.attempts attempt).map (fun a =>
            { (s.detach attempt a).set attempt { a.stopServers with registered := false } with
              entry := if platformsUnloaded then .idle else .failedUnload })
      | _ => none

def machine : Machine Hass Event := ⟨fun s => s = {}, step⟩

/-- What each step can do. -/
inductive Move (s : Hass) : Event → Hass → Prop where
  | began {hosted : Bool} : s.entry = .idle → Move s (.setup hosted)
      { s.set s.nextAttempt { hosted } with
        nextAttempt := s.nextAttempt + 1, entry := .settingUp s.nextAttempt .api }
  | attached {attempt : AttemptId} {a : Attempt} {bound : Bool} : s.entry = .settingUp attempt .api →
      s.attempts attempt = some a → a.hosted = true →
      Move s (.startApi bound) { s with target := some attempt, entry := .settingUp attempt .dtls }
  | listening {attempt : AttemptId} {a : Attempt} : s.entry = .settingUp attempt .api →
      s.attempts attempt = some a → a.hosted = false →
      Move s (.startApi true) { s.set attempt { a with listening := true } with entry := .settingUp attempt .dtls }
  | rolledBack {attempt : AttemptId} {a : Attempt} : s.entry = .settingUp attempt .api →
      s.attempts attempt = some a → a.hosted = false →
      Move s (.startApi false) ((s.detach attempt a).fail attempt a.stopServers .notReady)
  | threadStarted {attempt : AttemptId} {a : Attempt} {contextMade : Bool} : s.entry = .settingUp attempt .dtls →
      s.attempts attempt = some a → contextMade = true ∨ a.dtls.running = true →
      Move s (.startDtls contextMade)
        { s.set attempt { a with dtls := a.dtls.asyncStart contextMade } with entry := .settingUp attempt .discovery }
  | contextFailed {attempt : AttemptId} {a : Attempt} : s.entry = .settingUp attempt .dtls →
      s.attempts attempt = some a → a.dtls.running = false →
      Move s (.startDtls false) (s.fail attempt { a with dtls := a.dtls.asyncStart false } .raised)
  | bound {attempt : AttemptId} {a : Attempt} : s.attempts attempt = some a → a.dtls.serving = true →
      a.socket = .unbound → Move s (.bind attempt true) (s.set attempt { a with socket := .bound })
  | refused {attempt : AttemptId} {a : Attempt} : s.attempts attempt = some a → a.dtls.serving = true →
      a.socket = .unbound → Move s (.bind attempt false)
        (s.set attempt { a with socket := .refused, dtls := { a.dtls with serving := false } })
  | registered {attempt : AttemptId} {a : Attempt} : s.entry = .settingUp attempt .discovery →
      s.attempts attempt = some a → Move s (.register true)
        { s.set attempt { a with registered := true } with entry := .settingUp attempt .platforms }
  | unregistered {attempt : AttemptId} {a : Attempt} : s.entry = .settingUp attempt .discovery →
      s.attempts attempt = some a → Move s (.register false) (s.fail attempt a .raised)
  | finished {attempt : AttemptId} {a : Attempt} : s.entry = .settingUp attempt .platforms →
      s.attempts attempt = some a → Move s .finish
        { s.set attempt { a with outcome := some .succeeded } with entry := .loaded attempt }
  | exited {attempt : AttemptId} {a : Attempt} : s.attempts attempt = some a → Move s (.exit attempt)
      (s.set attempt { a with dtls := { a.dtls with serving := false } })
  | unloaded {attempt : AttemptId} {a : Attempt} {platformsUnloaded : Bool} : s.entry = .loaded attempt →
      s.attempts attempt = some a → Move s (.unload platformsUnloaded)
        { (s.detach attempt a).set attempt { a.stopServers with registered := false } with
          entry := if platformsUnloaded then .idle else .failedUnload }

theorem during_eq_some {s t : Hass} {stage : Stage} {go : AttemptId → Attempt → Hass}
    (moved : s.during stage go = some t) :
    ∃ attempt a, s.entry = .settingUp attempt stage ∧ s.attempts attempt = some a ∧ go attempt a = t := by
  unfold Hass.during at moved
  split at moved
  · next attempt reached entry =>
    split at moved
    · next here =>
      obtain ⟨a, found, same⟩ := Option.map_eq_some_iff.mp moved
      exact ⟨attempt, a, here ▸ entry, found, same⟩
    · cases moved
  · cases moved

theorem step_move {s t : Hass} {event : Event} (moved : step s event = some t) : Move s event t := by
  cases event with
  | setup hosted =>
    simp only [step] at moved
    split at moved
    · next entry => exact Option.some.inj moved ▸ .began entry
    · cases moved
  | startApi bound =>
    obtain ⟨attempt, a, entry, found, rfl⟩ := during_eq_some moved
    by_cases hosted : a.hosted = true
    · simp only [if_pos hosted]
      exact .attached entry found hosted
    · simp only [if_neg hosted]
      have own := Bool.eq_false_of_not_eq_true hosted
      cases bound with
      | true => exact .listening entry found own
      | false => exact .rolledBack entry found own
  | startDtls contextMade =>
    obtain ⟨attempt, a, entry, found, rfl⟩ := during_eq_some moved
    by_cases goes : contextMade || a.dtls.running
    · simp only [if_pos goes]
      exact .threadStarted entry found (Bool.or_eq_true_iff.mp goes)
    · simp only [if_neg goes]
      obtain ⟨unmade, stopped⟩ := Bool.or_eq_false_iff.mp (Bool.eq_false_of_not_eq_true goes)
      subst unmade
      exact .contextFailed entry found stopped
  | bind attempt bound =>
    simp only [step] at moved
    split at moved
    · next a found =>
      split at moved
      · next alive =>
        cases bound with
        | true => exact Option.some.inj moved ▸ .bound found alive.1 alive.2
        | false => exact Option.some.inj moved ▸ .refused found alive.1 alive.2
      · cases moved
    · cases moved
  | register registered =>
    obtain ⟨attempt, a, entry, found, rfl⟩ := during_eq_some moved
    cases registered with
    | true => exact .registered entry found
    | false => exact .unregistered entry found
  | finish =>
    obtain ⟨attempt, a, entry, found, rfl⟩ := during_eq_some moved
    exact .finished entry found
  | exit attempt =>
    simp only [step] at moved
    split at moved
    · next a found =>
      split at moved
      · exact Option.some.inj moved ▸ .exited found
      · cases moved
    · cases moved
  | unload platformsUnloaded =>
    simp only [step] at moved
    split at moved
    · next attempt entry =>
      obtain ⟨a, found, rfl⟩ := Option.map_eq_some_iff.mp moved
      exact .unloaded entry found
    · cases moved

/-- The API server of the attempt answers on its port. -/
def HttpUp (s : Hass) (attempt : AttemptId) (a : Attempt) : Prop :=
  if a.hosted then s.target = some attempt else a.listening = true

/-- Something that the attempt has started is still there. -/
def Remains (s : Hass) (attempt : AttemptId) (a : Attempt) : Prop :=
  a.listening = true ∨ s.target = some attempt ∨ a.dtls.serving = true ∨ a.registered = true

/-- What is expected of a call of `async_setup_entry`. -/
structure Kept (s : Hass) (attempt : AttemptId) (a : Attempt) : Prop where
  failed : a.outcome = some .notReady ∨ a.outcome = some .raised → ¬Remains s attempt a
  succeeded : s.entry = .loaded attempt → a.outcome = some .succeeded → HttpUp s attempt a ∧ a.socket = .bound
  refused : a.socket = .refused → a.outcome = none ∨ a.outcome = some .notReady

/-- A setup that failed has left nothing running, one that succeeded has both ports bound until its unload, and one
whose UDP port is in use does not end otherwise than by raising `ConfigEntryNotReady`. -/
def Sound (s : Hass) : Prop := ∀ attempt a, s.attempts attempt = some a → Kept s attempt a

/-- The thread of the attempt that is being set up has bound its socket. -/
def portBound (s : Hass) : Bool :=
  match s.entry with
  | .settingUp attempt _ => (s.attempts attempt).any (fun a => a.socket = .bound)
  | _ => false

/-- The DTLS context is created, the bridge is registered with mDNS, and the DTLS thread has bound its socket by the
time that `async_setup_entry` returns. -/
def Good (s : Hass) : Event → Prop
  | .startDtls contextMade => contextMade = true
  | .register registered => registered = true
  | .finish => portBound s = true
  | _ => True

instance (s : Hass) : (event : Event) → Decidable (Good s event)
  | .startDtls contextMade => inferInstanceAs (Decidable (contextMade = true))
  | .register registered => inferInstanceAs (Decidable (registered = true))
  | .finish => inferInstanceAs (Decidable (portBound s = true))
  | .setup _ | .startApi _ | .bind .. | .exit _ | .unload _ => .isTrue trivial

/-- How far the attempt that is being set up has got. -/
structure Progress (s : Hass) (attempt : AttemptId) (stage : Stage) (a : Attempt) : Prop where
  outcome : a.outcome = none
  before : stage = .api → a.listening = false ∧ s.target ≠ some attempt
  http : stage ≠ .api → HttpUp s attempt a
  dtls : stage = .api ∨ stage = .dtls → a.dtls.running = false ∧ a.dtls.serving = false ∧ a.socket = .unbound
  unregistered : stage ≠ .platforms → a.registered = false

/-- What holds however the attempts go. -/
structure Standing (s : Hass) : Prop where
  fresh : Fresh s.attempts s.nextAttempt
  target : ∀ attempt, s.target = some attempt → attempt < s.nextAttempt
  current : ∀ attempt stage, s.entry = .settingUp attempt stage →
    ∃ a, s.attempts attempt = some a ∧ Progress s attempt stage a
  loaded : ∀ attempt, s.entry = .loaded attempt →
    ∃ a, s.attempts attempt = some a ∧ a.outcome = some .succeeded ∧ HttpUp s attempt a
  notReady : ∀ attempt a, s.attempts attempt = some a → a.outcome = some .notReady →
    a.dtls.serving = false ∧ a.socket = .unbound

theorem HttpUp.remains {s : Hass} {attempt : AttemptId} {a : Attempt} (up : HttpUp s attempt a) :
    Remains s attempt a := by
  unfold HttpUp at up
  split at up
  · exact .inr (.inl up)
  · exact .inl up

section
variable {s t : Hass} {attempt : AttemptId} {a b : Attempt} {stage : Stage}

theorem portBound_iff (entry : s.entry = .settingUp attempt stage) (found : s.attempts attempt = some a) :
    portBound s = true ↔ a.socket = .bound := by
  simp only [portBound, entry, found, Option.any_some, decide_eq_true_eq]

/-- The attempt being set up is the one in the table. -/
theorem Standing.progress (standing : Standing s) (entry : s.entry = .settingUp attempt stage)
    (found : s.attempts attempt = some a) : Progress s attempt stage a := by
  obtain ⟨a', found', progress⟩ := standing.current attempt stage entry
  rw [found] at found'
  cases found'
  exact progress

theorem Standing.up (standing : Standing s) (entry : s.entry = .loaded attempt)
    (found : s.attempts attempt = some a) : a.outcome = some .succeeded ∧ HttpUp s attempt a := by
  obtain ⟨a', found', up⟩ := standing.loaded attempt entry
  rw [found] at found'
  cases found'
  exact up

/-- A step that changes one attempt, and the entry along with it. -/
theorem Standing.put (standing : Standing s) (found : s.attempts attempt = some a)
    (attempts : t.attempts = Function.update s.attempts attempt (some b)) (next : t.nextAttempt = s.nextAttempt)
    (target : ∀ other, t.target = some other → s.target = some other)
    (current : ∀ other stage, t.entry = .settingUp other stage → other = attempt ∧ Progress t attempt stage b)
    (loaded : ∀ other, t.entry = .loaded other → other = attempt ∧ b.outcome = some .succeeded ∧ HttpUp t attempt b)
    (notReady : b.outcome = some .notReady → b.dtls.serving = false ∧ b.socket = .unbound) : Standing t := by
  have here : t.attempts attempt = some b := by rw [attempts, Function.update_self]
  constructor
  · rw [attempts, next]
    exact standing.fresh.replace found (some b)
  · intro other held
    rw [next]
    exact standing.target other (target other held)
  · intro other stage entry
    obtain ⟨rfl, progress⟩ := current other stage entry
    exact ⟨b, here, progress⟩
  · intro other entry
    obtain ⟨rfl, up⟩ := loaded other entry
    exact ⟨b, here, up⟩
  · intro other c entry
    rw [attempts] at entry
    rcases update_eq_some entry with ⟨_, new⟩ | ⟨_, old⟩
    · cases new
      exact notReady
    · exact standing.notReady other c old

/-- The attempt that is being set up gets to its next stage. -/
theorem Standing.advance {next : Stage} (standing : Standing s) (found : s.attempts attempt = some a)
    (same : t = { s.set attempt b with entry := .settingUp attempt next }) (progress : Progress t attempt next b) :
    Standing t := by
  subst same
  refine standing.put found rfl rfl (fun _ held => held) ?_ nofun ?_
  · intro other stage entry
    cases entry
    exact ⟨rfl, progress⟩
  · intro outcome
    cases progress.outcome.symm.trans outcome

/-- A step of the thread of one attempt. -/
theorem Standing.thread (standing : Standing s) (found : s.attempts attempt = some a)
    (same : (b.outcome, b.hosted, b.listening, b.registered, b.dtls.running) =
      (a.outcome, a.hosted, a.listening, a.registered, a.dtls.running))
    (idle : a.dtls.serving = false ∧ a.socket = .unbound → b.dtls.serving = false ∧ b.socket = .unbound) :
    Standing (s.set attempt b) := by
  simp only [Prod.mk.injEq] at same
  obtain ⟨outcome, hosted, listening, registered, running⟩ := same
  have here : (s.set attempt b).attempts attempt = some b := Function.update_self _ _ _
  have elsewhere {other : AttemptId} (apart : other ≠ attempt) : (s.set attempt b).attempts other = s.attempts other :=
    Function.update_of_ne apart _ _
  have up (http : HttpUp s attempt a) : HttpUp (s.set attempt b) attempt b := by
    unfold HttpUp at http ⊢
    rw [hosted, listening]
    exact http
  constructor
  · exact standing.fresh.replace found (some b)
  · exact standing.target
  · intro other stage entry
    by_cases same : other = attempt
    · subst same
      obtain ⟨none, before, http, dtls, unregistered⟩ := standing.progress entry found
      refine ⟨b, here, outcome.trans none, ?_, fun later => up (http later), ?_, ?_⟩
      · rw [listening]
        exact before
      · intro early
        obtain ⟨stopped, quiet⟩ := dtls early
        exact ⟨running.trans stopped, idle quiet⟩
      · rw [registered]
        exact unregistered
    · obtain ⟨c, found', progress⟩ := standing.current other stage entry
      exact ⟨c, (elsewhere same).trans found', progress.1, progress.2, progress.3, progress.4, progress.5⟩
  · intro other entry
    by_cases same : other = attempt
    · subst same
      obtain ⟨succeeded, http⟩ := standing.up entry found
      exact ⟨b, here, outcome.trans succeeded, up http⟩
    · obtain ⟨c, found', succeeded⟩ := standing.loaded other entry
      exact ⟨c, (elsewhere same).trans found', succeeded⟩
  · intro other c entry
    rcases update_eq_some entry with ⟨_, new⟩ | ⟨_, old⟩
    · cases new
      intro notReady
      exact idle (standing.notReady attempt a found (outcome ▸ notReady))
    · exact standing.notReady other c old

theorem detach_target (s : Hass) (attempt : AttemptId) (a : Attempt) (other : AttemptId)
    (held : (s.detach attempt a).target = some other) : s.target = some other := by
  simp only [Hass.detach] at held
  split at held
  · cases held
  · exact held

theorem stopServers_idle (quiet : a.dtls.serving = false ∧ a.socket = .unbound) :
    a.stopServers.dtls.serving = false ∧ a.stopServers.socket = .unbound := by
  refine ⟨quiet.1, ?_⟩
  rw [Attempt.stopServers, quiet.2]
  rfl

/-- A new attempt takes the next number. -/
theorem Standing.began (standing : Standing s) (hosted : Bool) :
    Standing { s.set s.nextAttempt { hosted } with
      nextAttempt := s.nextAttempt + 1, entry := .settingUp s.nextAttempt .api } := by
  constructor
  · exact standing.fresh.create _
  · intro other held
    exact Nat.lt_succ_of_lt (standing.target other held)
  · intro other stage entry
    cases entry
    refine ⟨{ hosted }, Function.update_self _ _ _, rfl, ?_, fun later => absurd rfl later, fun _ => ⟨rfl, rfl, rfl⟩,
      fun _ => rfl⟩
    exact fun _ => ⟨rfl, fun held => absurd (standing.target _ held) (Nat.lt_irrefl _)⟩
  · intro other entry
    cases entry
  · intro other c entry outcome
    rcases update_eq_some entry with ⟨_, new⟩ | ⟨_, old⟩
    · cases new
      cases outcome
    · exact standing.notReady other c old outcome

/-- The views of the attempt replace those that the host had. -/
theorem Standing.attached (standing : Standing s) (entry : s.entry = .settingUp attempt .api)
    (found : s.attempts attempt = some a) (hosted : a.hosted = true) :
    Standing { s with target := some attempt, entry := .settingUp attempt .dtls } := by
  have progress := standing.progress entry found
  constructor
  · exact standing.fresh
  · intro other held
    cases held
    exact standing.fresh.lt found
  · intro other stage entry'
    cases entry'
    refine ⟨a, found, progress.outcome, nofun, fun _ => ?_, fun _ => progress.dtls (.inl rfl), ?_⟩
    · exact (if_pos hosted).mpr rfl
    · exact fun _ => progress.unregistered nofun
  · intro other entry'
    cases entry'
  · exact standing.notReady

theorem Standing.step {event : Event} (standing : Standing s) (moved : Move s event t) : Standing t := by
  cases moved with
  | @began hosted idle => exact standing.began hosted
  | @attached attempt a bound entry found hosted => exact standing.attached entry found hosted
  | @listening attempt a entry found hosted =>
    have progress := standing.progress entry found
    refine standing.advance found rfl
      ⟨progress.outcome, nofun, fun _ => ?_, fun _ => progress.dtls (.inl rfl), fun _ => progress.unregistered nofun⟩
    exact (if_neg (by simp [hosted])).mpr rfl
  | @rolledBack attempt a entry found hosted =>
    have progress := standing.progress entry found
    refine standing.put found rfl rfl (detach_target s attempt a) nofun nofun ?_
    intro _
    exact stopServers_idle (progress.dtls (.inl rfl)).2
  | @threadStarted attempt a contextMade entry found goes =>
    have progress := standing.progress entry found
    exact standing.advance found rfl
      ⟨progress.outcome, nofun, fun _ => progress.http nofun, nofun, fun _ => progress.unregistered nofun⟩
  | @contextFailed attempt a entry found stopped =>
    exact standing.put found rfl rfl (fun _ held => held) nofun nofun nofun
  | @bound attempt a found serving unbound =>
    refine standing.thread found rfl ?_
    intro quiet
    rw [serving] at quiet
    cases quiet.1
  | @refused attempt a found serving unbound =>
    refine standing.thread found rfl ?_
    intro quiet
    rw [serving] at quiet
    cases quiet.1
  | @registered attempt a entry found =>
    have progress := standing.progress entry found
    exact standing.advance found rfl
      ⟨progress.outcome, nofun, fun _ => progress.http nofun, nofun, fun later => absurd rfl later⟩
  | @unregistered attempt a entry found =>
    exact standing.put found rfl rfl (fun _ held => held) nofun nofun nofun
  | @finished attempt a entry found =>
    have progress := standing.progress entry found
    refine standing.put found rfl rfl (fun _ held => held) nofun ?_ nofun
    intro other entry'
    cases entry'
    exact ⟨rfl, rfl, progress.http nofun⟩
  | @exited attempt a found =>
    exact standing.thread found rfl (fun quiet => ⟨rfl, quiet.2⟩)
  | @unloaded attempt a platformsUnloaded entry found =>
    have up := standing.up entry found
    refine standing.put found rfl rfl (detach_target s attempt a) ?_ ?_ ?_
    · intro other stage entry'
      cases platformsUnloaded <;> cases entry'
    · intro other entry'
      cases platformsUnloaded <;> cases entry'
    · intro outcome
      cases up.1.symm.trans outcome

theorem standing {ok : Hass → Event → Prop} (reached : Reachable machine ok s) : Standing s := by
  apply reached.invariant Standing
  · intro s start
    cases start
    exact ⟨fun _ _ => rfl, nofun, nofun, nofun, nofun⟩
  · intro s event t before _ moved
    exact before.step (step_move moved)

/-- A refused UDP port never makes the setup raise `ConfigEntryNotReady`. -/
theorem refused_unreported {ok : Hass → Event → Prop} (reached : Reachable machine ok s)
    (found : s.attempts attempt = some a) (refused : a.socket = .refused) : a.outcome ≠ some .notReady := by
  intro notReady
  have untried := ((standing reached).notReady attempt a found notReady).2
  rw [refused] at untried
  cases untried

/-- What is kept of an attempt as long as all steps are good: the thread of a setup that succeeded has tried its
port. -/
structure Firm (s : Hass) (attempt : AttemptId) (a : Attempt) : Prop extends Kept s attempt a where
  tried : a.outcome = some .succeeded → a.socket ≠ .unbound

def AllFirm (s : Hass) : Prop := ∀ attempt a, s.attempts attempt = some a → Firm s attempt a

/-- Nothing is expected yet of an attempt that goes on. -/
theorem firm_of_none (going : a.outcome = none) : Firm s attempt a := by
  refine ⟨⟨?_, ?_, fun _ => .inl going⟩, ?_⟩
  · intro failed
    rw [going] at failed
    rcases failed with failed | failed <;> cases failed
  · intro _ succeeded
    cases going.symm.trans succeeded
  · intro succeeded
    cases going.symm.trans succeeded

/-- What has failed stays without resources when it does not get the views of the host. -/
theorem Firm.frame (firm : Firm s attempt a) (target : t.target = some attempt → s.target = some attempt)
    (loaded : t.entry = .loaded attempt → s.entry = .loaded attempt ∧ t.target = s.target) : Firm t attempt a := by
  refine ⟨⟨?_, ?_, firm.refused⟩, firm.tried⟩
  · intro failed remains
    exact firm.failed failed (remains.imp_right (Or.imp_left target))
  · intro entry succeeded
    obtain ⟨entry', same⟩ := loaded entry
    have up := firm.succeeded entry' succeeded
    unfold HttpUp at up ⊢
    rw [same]
    exact up

/-- A step that changes one attempt keeps what holds of the others. -/
theorem AllFirm.put (firm : AllFirm s) (attempts : t.attempts = Function.update s.attempts attempt (some b))
    (target : ∀ other, other ≠ attempt → t.target = some other → s.target = some other)
    (loaded : ∀ other, other ≠ attempt → t.entry = .loaded other → s.entry = .loaded other ∧ t.target = s.target)
    (here : Firm t attempt b) : AllFirm t := by
  intro other c entry
  rw [attempts] at entry
  rcases update_eq_some entry with ⟨rfl, new⟩ | ⟨apart, old⟩
  · cases new
    exact here
  · exact (firm other c old).frame (target other apart) (loaded other apart)

/-- A setup that raises while its API server is up leaves the server behind. -/
theorem unsound_of_up {outcome : Outcome} (failed : outcome = .notReady ∨ outcome = .raised)
    (up : HttpUp s attempt b) : ¬Sound (s.fail attempt b outcome) := by
  intro sound
  have kept := sound attempt { b with outcome := some outcome } (Function.update_self _ _ _)
  apply kept.failed (failed.imp (congrArg some) (congrArg some))
  exact HttpUp.remains up

theorem AllFirm.sound (firm : AllFirm s) : Sound s := fun attempt a found => (firm attempt a found).toKept

/-- A bind that fails finds its attempt still under way: a thread serves no setup that has failed, and has tried
its port in one that succeeded. -/
theorem Firm.going (firm : Firm s attempt a) (serving : a.dtls.serving = true) (unbound : a.socket = .unbound) :
    a.outcome = none := by
  cases outcome : a.outcome with
  | none => rfl
  | some outcome' =>
    exfalso
    cases outcome' with
    | succeeded => exact firm.tried outcome unbound
    | notReady => exact firm.failed (.inl outcome) (.inr (.inr (.inl serving)))
    | raised => exact firm.failed (.inr outcome) (.inr (.inr (.inl serving)))

/-- The rollback leaves nothing of the attempt. -/
theorem firm_rolledBack (standing : Standing s) (entry : s.entry = .settingUp attempt .api)
    (found : s.attempts attempt = some a) :
    Firm ((s.detach attempt a).fail attempt a.stopServers .notReady) attempt
      { a.stopServers with outcome := some .notReady } := by
  have progress := standing.progress entry found
  have quiet := stopServers_idle (progress.dtls (.inl rfl)).2
  refine ⟨⟨?_, nofun, fun _ => .inr rfl⟩, nofun⟩
  intro _ remains
  rcases remains with listening | held | serving | registered
  · cases listening
  · exact (progress.before rfl).2 (detach_target s attempt a attempt held)
  · cases quiet.1.symm.trans serving
  · cases (progress.unregistered nofun).symm.trans registered

/-- A setup that succeeded had bound its port, and closes it with its unload. -/
theorem firm_succeeded (succeeded : b.outcome = some .succeeded) (settled : b.socket = .bound ∨ b.socket = .closed)
    (up : t.entry = .loaded attempt → HttpUp t attempt b ∧ b.socket = .bound) : Firm t attempt b := by
  refine ⟨⟨?_, fun entry _ => up entry, ?_⟩, ?_⟩
  · intro failed
    rw [succeeded] at failed
    rcases failed with failed | failed <;> cases failed
  · intro refused
    rw [refused] at settled
    rcases settled with settled | settled <;> cases settled
  · intro _ untried
    rw [untried] at settled
    rcases settled with settled | settled <;> cases settled

theorem Firm.exited (firm : Firm s attempt a) :
    Firm (s.set attempt { a with dtls := { a.dtls with serving := false } }) attempt
      { a with dtls := { a.dtls with serving := false } } := by
  refine ⟨⟨?_, firm.succeeded, firm.refused⟩, firm.tried⟩
  intro failed remains
  apply firm.failed failed
  rcases remains with listening | held | serving | registered
  · exact .inl listening
  · exact .inr (.inl held)
  · cases serving
  · exact .inr (.inr (.inr registered))

/-- The setup goes on in another stage. -/
theorem AllFirm.advance {next : Stage} (firm : AllFirm s) (going : b.outcome = none) :
    AllFirm { s.set attempt b with entry := .settingUp attempt next } :=
  firm.put rfl (fun _ _ held => held) nofun (firm_of_none going)

theorem AllFirm.step {event : Event} (standing : Standing s) (firm : AllFirm s) (good : Good s event)
    (moved : Move s event t) : AllFirm t := by
  cases moved with
  | @began hosted idle =>
    exact firm.put rfl (fun _ _ held => held) nofun (firm_of_none rfl)
  | @attached attempt a bound entry found hosted =>
    have same : s.attempts = Function.update s.attempts attempt (some a) := by rw [← found, Function.update_eq_self]
    refine firm.put same ?_ nofun (firm_of_none (standing.progress entry found).outcome)
    intro other apart held
    exact absurd (Option.some.inj held).symm apart
  | @listening attempt a entry found hosted =>
    have going : ({ a with listening := true } : Attempt).outcome = none := (standing.progress entry found).outcome
    exact firm.advance going
  | @rolledBack attempt a entry found hosted =>
    exact firm.put rfl (fun other _ held => detach_target s attempt a other held) nofun
      (firm_rolledBack standing entry found)
  | @threadStarted attempt a contextMade entry found goes =>
    have going : ({ a with dtls := a.dtls.asyncStart contextMade } : Attempt).outcome = none :=
      (standing.progress entry found).outcome
    exact firm.advance going
  | contextFailed entry found stopped => cases good
  | @bound attempt a found serving unbound =>
    have before := firm attempt a found
    refine firm.put rfl (fun _ _ held => held) (fun _ _ entry => ⟨entry, rfl⟩) ⟨⟨before.failed, ?_, nofun⟩, nofun⟩
    intro entry succeeded
    exact ⟨(before.succeeded entry succeeded).1, rfl⟩
  | @refused attempt a found serving unbound =>
    have going := (firm attempt a found).going serving unbound
    exact firm.put rfl (fun _ _ held => held) (fun _ _ entry => ⟨entry, rfl⟩) (firm_of_none going)
  | @registered attempt a entry found =>
    have going : ({ a with registered := true } : Attempt).outcome = none := (standing.progress entry found).outcome
    exact firm.advance going
  | unregistered entry found => cases good
  | @finished attempt a entry found =>
    have bound := (portBound_iff entry found).mp good
    refine firm.put rfl (fun _ _ held => held) ?_ (firm_succeeded rfl (.inl bound) ?_)
    · intro other apart entry'
      cases entry'
      exact absurd rfl apart
    · intro _
      exact ⟨(standing.progress entry found).http nofun, bound⟩
  | @exited attempt a found =>
    exact firm.put rfl (fun _ _ held => held) (fun _ _ entry => ⟨entry, rfl⟩) (firm attempt a found).exited
  | @unloaded attempt a platformsUnloaded entry found =>
    have succeeded := (standing.up entry found).1
    have bound := ((firm attempt a found).succeeded entry succeeded).2
    refine firm.put rfl (fun other _ held => detach_target s attempt a other held) ?_
      (firm_succeeded succeeded (.inr (if_pos bound)) ?_)
    · intro other _ entry'
      cases platformsUnloaded <;> cases entry'
    · intro entry'
      cases platformsUnloaded <;> cases entry'

/-- A step that is not good leaves something of a failed setup, or reports a setup without its UDP port. -/
theorem unsound_step {event : Event} (standing : Standing s) (bad : ¬Good s event) (moved : Move s event t) :
    ¬Sound t := by
  cases moved with
  | @threadStarted attempt a contextMade entry found goes =>
    have stopped := ((standing.progress entry found).dtls (.inr rfl)).1
    rcases goes with made | running
    · exact absurd made bad
    · cases stopped.symm.trans running
  | @contextFailed attempt a entry found stopped =>
    have up := (standing.progress entry found).http nofun
    exact unsound_of_up (.inr rfl) up
  | @unregistered attempt a entry found =>
    have up := (standing.progress entry found).http nofun
    exact unsound_of_up (.inr rfl) up
  | registered entry found => exact absurd rfl bad
  | @finished attempt a entry found =>
    intro sound
    have kept := sound attempt { a with outcome := some .succeeded } (Function.update_self _ _ _)
    exact bad ((portBound_iff entry found).mpr (kept.succeeded rfl rfl).2)
  | _ => exact absurd trivial bad

end

/-- Every failed setup has left nothing running and every successful one has both its ports, in all states of a run,
if and only if all steps of the run are good. -/
theorem setup_exact {s t : Hass} {events : List Event} (start : machine.Start s) (run : Run machine Always s events t) :
    Throughout machine Sound s events ↔ Run machine Good s events t := by
  refine run.throughout_exact (fun _ => AllFirm.sound) ?_ ?_ ⟨s, [], start, .nil s⟩ ?_
  · intro x event y reached _ firm moved good
    exact firm.step (standing reached) good (step_move moved)
  · intro x event y reached _ firm moved bad
    exact unsound_step (standing reached) bad (step_move moved)
  · cases start
    exact nofun

/-- The HTTP port is in use once, the setup is retried, and the entry is unloaded again. -/
def retried : List Event :=
  [.setup false, .startApi false, .setup false, .startApi true, .startDtls true, .bind 1 true, .register true,
    .finish, .unload true, .exit 1]

theorem setup_exact_retried :
    ∃ t, Run machine Good {} retried t ∧ t.nextAttempt = 2 ∧ Throughout machine Sound {} retried := by
  have played : (play machine Good {} retried).any (fun t => t.nextAttempt = 2) = true := by decide +kernel
  obtain ⟨t, play, attempts⟩ := (Option.any_eq_true _ _).mp played
  have good := run_of_play _ _ _ play
  have run : Run machine Always {} retried t := good.mono (fun _ _ _ => trivial)
  exact ⟨t, good, of_decide_eq_true attempts, (setup_exact rfl run).mpr good⟩

/-- The UDP port is in use, and `async_setup_entry` reports success. -/
def portInUse : List Event :=
  [.setup false, .startApi true, .startDtls true, .bind 0 false, .register true, .finish]

theorem portInUse_succeeds :
    (∃ t a, Run machine Always {} portInUse t ∧ t.attempts 0 = some a ∧ a.outcome = some .succeeded ∧
      a.socket = .refused) ∧
    ¬∀ s t events, machine.Start s → Run machine Always s events t → Throughout machine Sound s events := by
  have played : (play machine Always {} portInUse).any (fun t => (t.attempts 0).any (fun a =>
      a.outcome = some .succeeded ∧ a.socket = .refused)) = true := by
    decide +kernel
  obtain ⟨t, play, ended⟩ := (Option.any_eq_true _ _).mp played
  obtain ⟨a, found, outcome⟩ := (Option.any_eq_true _ _).mp ended
  obtain ⟨succeeded, refused⟩ := of_decide_eq_true outcome
  have run := run_of_play _ _ _ play
  refine ⟨⟨t, a, run, found, succeeded, refused⟩, ?_⟩
  intro claimed
  have sound : Sound t := claimed {} t portInUse rfl run portInUse [] t (List.append_nil _).symm run
  rcases (sound 0 a found).refused refused with going | notReady
  · cases succeeded.symm.trans going
  · cases succeeded.symm.trans notReady

end HueEntertainment.EntrySetup
