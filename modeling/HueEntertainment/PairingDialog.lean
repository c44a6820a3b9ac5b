import HueEntertainment.Pairing

/-! The pairing step of the options flow: it opens the link button, polls the users of the store until one appears
that was not there, and reports whether a TV paired. -/

namespace HueEntertainment.PairingDialog
open HueEntertainment.Const PyValue UserStore TaskTable Pairing Runs

/-- `PAIRING_TIMEOUT`. -/
def pairingTimeout : ℚ := linkButtonTimeout

/-- What the step notes when it opens; the last field is ghost, the requests that had found the link button pressed
before. -/
structure Opening where
  initialUsers : List String
  time : ℚ
  earlier : List RequestId

/-- The pairing task: created, suspended in `asyncio.sleep` with its deadline, or over with its result. -/
inductive Dialog where
  | closed
  | created (opening : Opening)
  | polling (opening : Opening) (deadline : ℚ)
  | ended (opening : Opening) (paired : Bool)

structure Flow where
  server : Server
  dialog : Dialog := .closed

def usernames (s : Server) : List String := s.users.map Prod.fst

/-- `set(user_store.users.keys()) - initial_users` is not empty. -/
def newUser (s : Server) (initialUsers : List String) : Bool := (usernames s).any (fun username => username ∉ initialUsers)

/-- The body of the loop of `_wait_for_new_user`, up to the next sleep or the result. -/
def pollOnce (f : Flow) (opening : Opening) (deadline : ℚ) : Flow :=
  if f.server.now < deadline then
    if newUser f.server opening.initialUsers then { f with dialog := .ended opening true }
    else { f with dialog := .polling opening deadline }
  else { f with dialog := .ended opening false }

/-- `async_step_pairing` when it has no task yet. -/
def asyncStepPairing (f : Flow) : Flow where
  server := f.server.setLinkButton true
  dialog := .created ⟨usernames f.server, f.server.now, f.server.passed.map Prod.fst⟩

/-- `next_step_id` of the step when its task is done. -/
def nextStepId (paired : Bool) : String := if paired then "paired" else "not_paired"

inductive Event where
  | server (event : Pairing.Event)
  | asyncStepPairing
  | poll

/-- Nothing but the pairing step presses the link button of the running entry. -/
def step (f : Flow) : Event → Option Flow
  | .server (.setLinkButton _) => none
  | .server event => (Pairing.step f.server event).map (fun server => { f with server := server })
  | .asyncStepPairing =>
      match f.dialog with
      | .closed | .ended _ _ => some (asyncStepPairing f)
      | _ => none
  | .poll =>
      match f.dialog with
      | .created opening => some (pollOnce f opening (f.server.now + pairingTimeout))
      | .polling opening deadline => some (pollOnce f opening deadline)
      | _ => none

def machine : Machine Flow Event where
  Start := fun f => Pairing.machine.Start f.server ∧ f.dialog = .closed
  step := step

/-- The opening of the step that is under way or over. -/
def Dialog.opening : Dialog → Option Opening
  | .closed => none
  | .created opening | .polling opening _ | .ended opening _ => some opening

/-- The request found the link button pressed that the step opened. -/
def Counted (s : Server) (opening : Opening) (request : RequestId) : Prop :=
  request ∈ s.passed.map Prod.fst ∧ request ∉ opening.earlier

/-- The step that is over reports what happened, once no request of its window is being saved: it ends in `paired` if
and only if one of them was answered with success. -/
def Reports (f : Flow) : Prop :=
  ∀ opening paired, f.dialog = .ended opening paired →
    (∀ request credentials save, Counted f.server opening request →
      f.server.requests request ≠ some (.saving credentials save)) →
    (nextStepId paired = "paired" ↔ ∃ request credentials, Counted f.server opening request ∧
      (request, credentials) ∈ f.server.confirmed)

/-- The step of the run neither answers for a device type that was paired when the pairing step opened, nor lets the
save of a request of its window fail, nor lets the last poll find a user that came after the one before. -/
def Detected (f : Flow) : Event → Prop
  | .server (.read _ body _ _) => ∀ opening, f.dialog.opening = some opening →
      ∀ credentials, existing f.server body = some credentials → credentials.username ∉ opening.initialUsers
  | .server (.saved request .raised) => ∀ opening, f.dialog.opening = some opening →
      ¬Counted f.server opening request
  | .poll => ∀ opening deadline, f.dialog = .polling opening deadline → deadline ≤ f.server.now →
      newUser f.server opening.initialUsers = false
  | _ => True

/-- `uuid4` gives no username that was given before. -/
def FreshNames (f : Flow) : Event → Prop
  | .server event => Pairing.FreshNames f.server event
  | _ => True

def Covered (f : Flow) (event : Event) : Prop := FreshNames f event ∧ Detected f event

instance (f : Flow) : (event : Event) → Decidable (FreshNames f event)
  | .server event => inferInstanceAs (Decidable (Pairing.FreshNames f.server event))
  | .asyncStepPairing | .poll => .isTrue trivial

instance (f : Flow) : (event : Event) → Decidable (Detected f event)
  | .server (.read _ body _ _) =>
      decidable_of_iff (f.dialog.opening.all (fun opening => (existing f.server body).all (fun credentials =>
        credentials.username ∉ opening.initialUsers)) = true) (by simp [Detected, Option.all_eq_true])
  | .server (.saved request .raised) =>
      decidable_of_iff (f.dialog.opening.all (fun opening => request ∉ f.server.passed.map Prod.fst ∨
        request ∈ opening.earlier) = true) (by simp [Detected, Counted, or_iff_not_imp_left, Option.all_eq_true])
  | .poll =>
      match found : f.dialog with
      | .polling opening deadline =>
          decidable_of_iff (deadline ≤ f.server.now → newUser f.server opening.initialUsers = false)
            (by simp [Detected, found])
      | .closed | .created _ | .ended _ _ => .isTrue (by simp [Detected, found])
  | .server .arrive | .server (.saved _ .persisted) | .server (.setLinkButton _) | .server (.tick _)
  | .asyncStepPairing => .isTrue trivial

instance (f : Flow) (event : Event) : Decidable (Covered f event) :=
  inferInstanceAs (Decidable (FreshNames f event ∧ Detected f event))

/-- A request that passed the link button is past its reading. -/
structure Ordered (s : Server) : Prop where
  fresh : Fresh s.requests s.nextRequest
  past : ∀ request ∈ s.passed.map Prod.fst, ∃ found, s.requests request = some found ∧ found ≠ .reading
  brings : ∀ request credentials, Brings s request credentials → request ∈ s.passed.map Prod.fst

theorem Ordered.unpassed {s : Server} (ordered : Ordered s) {request : RequestId}
    (reading : s.requests request = some .reading) : request ∉ s.passed.map Prod.fst := by
  intro member
  obtain ⟨found, same, past⟩ := ordered.past request member
  rw [reading] at same
  exact past (Option.some.inj same).symm

theorem usernames_withUser {s : Server} {credentials : Credentials} (fresh : credentials.username ∉ usernames s) :
    usernames (withUser s credentials) = usernames s ++ [credentials.username] := by
  unfold usernames
  rw [withUser_users fresh, List.map_append, List.map_singleton]

/-- What a request brought it still brings, unless its save failed. -/
theorem brings_kept {s t : Server} {event : Pairing.Event} (ordered : Ordered s) (move : Move s event t)
    {request : RequestId} {credentials : Credentials} (brings : Brings s request credentials) :
    Brings t request credentials ∨ event = .saved request .raised := by
  rcases brings with ⟨save, saving⟩ | member
  · rcases saving_kept ordered.fresh move saving with still | ⟨outcome, rfl⟩
    · exact .inl (.inl ⟨save, still⟩)
    · cases move with
      | saved outcome saving' =>
        rw [saving] at saving'
        cases saving'
        cases outcome with
        | persisted => exact .inl (.inr List.mem_cons_self)
        | raised => exact .inr rfl
  · exact .inl (.inr (confirmed_kept move member))

/-- The requests that pass the link button in a step. -/
theorem passed_step {s t : Server} {event : Pairing.Event} (move : Move s event t) :
    t.passed = s.passed ∨ ∃ request body uuid4Hex tokenHex, event = .read request body uuid4Hex tokenHex ∧
      s.requests request = some .reading ∧ s.linkButtonActive = true ∧ t.passed = (request, s.now) :: s.passed := by
  cases move with
  | @known request body uuid4Hex tokenHex given reading active known found =>
    exact .inr ⟨request, body, uuid4Hex, tokenHex, rfl, reading, active, rfl⟩
  | @added read body given reading active unmatched unknown asks =>
    refine .inr ⟨read, body, _, _, rfl, reading, active, ?_⟩
    rcases addUser_cases (passing s read) read given with ⟨_, same⟩ | ⟨_, same⟩
    · rw [same]
      rfl
    · rw [same]
      rfl
  | saved outcome saving => cases outcome <;> exact .inl rfl
  | _ => exact .inl rfl

theorem past_step {s t : Server} {event : Pairing.Event} (fresh : Fresh s.requests s.nextRequest) (move : Move s event t)
    {request : RequestId} (past : ∃ found, s.requests request = some found ∧ found ≠ .reading) :
    ∃ found, t.requests request = some found ∧ found ≠ .reading := by
  obtain ⟨found, known, read⟩ := past
  rcases requests_step move with ⟨same, _⟩ | ⟨same, _⟩ | ⟨other, before, after, _, ends, same, _⟩
  · exact ⟨found, by rw [same]; exact known, read⟩
  · have other : request ≠ s.nextRequest := Nat.ne_of_lt (Fresh.lt fresh known)
    exact ⟨found, by rw [same, Function.update_of_ne other]; exact known, read⟩
  · by_cases here : request = other
    · exact ⟨after, by rw [same, here, Function.update_self], ends⟩
    · exact ⟨found, by rw [same, Function.update_of_ne here]; exact known, read⟩

/-- A request that passes the link button is past its reading. -/
theorem passes_past {s t : Server} {request : RequestId} {body : HueApi.Body} {uuid4Hex tokenHex : String}
    (move : Move s (.read request body uuid4Hex tokenHex) t) :
    ∃ found, t.requests request = some found ∧ found ≠ .reading := by
  cases move with
  | refused refusal reading unmatched => exact ⟨.done, Function.update_self _ _ _, by simp⟩
  | known given reading active known found => exact ⟨.done, Function.update_self _ _ _, by simp⟩
  | @added read body given reading active unmatched unknown asks =>
    rcases addUser_cases (passing s request) request ⟨_, _, given.devicetype, given.shown⟩ with ⟨_, same⟩ | ⟨_, same⟩
    · rw [same]
      exact ⟨_, Function.update_self _ _ _, by simp⟩
    · rw [same]
      exact ⟨.done, Function.update_self _ _ _, by simp⟩

theorem Ordered.step {s t : Server} {event : Pairing.Event} (ordered : Ordered s) (fresh : Pairing.FreshNames s event)
    (move : Move s event t) : Ordered t := by
  have passed : ∀ request, request ∈ s.passed.map Prod.fst → request ∈ t.passed.map Prod.fst := by
    intro request member
    rcases passed_step move with same | ⟨other, _, _, _, _, _, _, same⟩
    · rw [same]
      exact member
    · rw [same]
      exact List.mem_cons_of_mem _ member
  constructor
  · rcases requests_step move with ⟨same, next⟩ | ⟨same, next⟩ | ⟨other, before, after, found, _, same, next⟩
    · rw [same, next]
      exact ordered.fresh
    · rw [same, next]
      exact ordered.fresh.create _
    · rw [same, next]
      exact ordered.fresh.replace found _
  · intro request member
    rcases passed_step move with same | ⟨other, _, _, _, rfl, _, _, same⟩
    · rw [same] at member
      exact past_step ordered.fresh move (ordered.past request member)
    · rw [same] at member
      rcases List.mem_cons.mp member with rfl | before
      · exact passes_past move
      · exact past_step ordered.fresh move (ordered.past request before)
  · intro request credentials brings
    cases brings_step move brings with
    | before brings => exact passed request (ordered.brings request credentials brings)
    | known read reading known found passes =>
      rw [passes]
      exact List.mem_cons_self
    | added read reading asks users passes =>
      rw [passes]
      exact List.mem_cons_self

/-- A new user is brought by a request that passes the link button in this step. -/
theorem users_brought {s t : Server} {event : Pairing.Event} (fresh : Pairing.FreshNames s event) (move : Move s event t)
    {username : String} (member : username ∈ usernames t) :
    username ∈ usernames s ∨ ∃ request credentials, Brings t request credentials ∧ credentials.username = username ∧
      s.requests request = some .reading ∧ s.linkButtonActive = true ∧ t.passed = (request, s.now) :: s.passed := by
  cases move with
  | @added read body given reading active unmatched unknown asks =>
    have users : usernames (withUser (passing s read) given) = usernames s ++ [given.username] :=
      usernames_withUser (s := passing s read) fresh
    rcases addUser_cases (passing s read) read given with ⟨_, same⟩ | ⟨_, same⟩
    · rw [same] at member ⊢
      have known : username ∈ usernames s ++ [given.username] := users ▸ member
      rcases List.mem_append.mp known with old | new
      · exact .inl old
      · have brings : (Function.update s.requests read (some (.saving given
            ⟨s.nextSave, (withUser (passing s read) given).users⟩))) read = _ := Function.update_self _ _ _
        exact .inr ⟨read, given, .inl ⟨_, brings⟩, (List.mem_singleton.mp new).symm, reading, active, rfl⟩
    · rw [same] at member ⊢
      have known : username ∈ usernames s ++ [given.username] := users ▸ member
      rcases List.mem_append.mp known with old | new
      · exact .inl old
      · exact .inr ⟨read, given, .inr List.mem_cons_self, (List.mem_singleton.mp new).symm, reading, active, rfl⟩
  | saved outcome saving =>
    cases outcome with
    | persisted => exact .inl member
    | raised => exact .inl member
  | arrived => exact .inl member
  | refused refusal reading unmatched => exact .inl member
  | known given reading active known found => exact .inl member
  | setLinkButton active => exact .inl member
  | tick forward => exact .inl member

/-- Only the link button itself changes when it expires, and time passes. -/
theorem clock_step {s t : Server} {event : Pairing.Event} (move : Move s event t)
    (unpressed : ∀ active, event ≠ .setLinkButton active) :
    t.linkButtonExpires = s.linkButtonExpires ∧ s.now ≤ t.now := by
  cases move with
  | @added read body given reading active unmatched unknown asks =>
    rcases addUser_cases (passing s read) read given with ⟨_, same⟩ | ⟨_, same⟩
    · rw [same]
      exact ⟨rfl, le_refl _⟩
    · rw [same]
      exact ⟨rfl, le_refl _⟩
  | saved outcome saving => cases outcome <;> exact ⟨rfl, le_refl _⟩
  | setLinkButton active => exact absurd rfl (unpressed active)
  | tick forward => exact ⟨rfl, le_add_of_nonneg_right forward⟩
  | arrived => exact ⟨rfl, le_refl _⟩
  | refused refusal reading unmatched => exact ⟨rfl, le_refl _⟩
  | known given reading active known found => exact ⟨rfl, le_refl _⟩

/-- What the requests of a window have brought are the users that were not there when it opened. -/
structure Watched (s : Server) (opening : Opening) : Prop where
  expires : s.linkButtonExpires = opening.time + linkButtonTimeout
  earlier : ∀ request ∈ opening.earlier, request ∈ s.passed.map Prod.fst
  initial : ∀ username ∈ opening.initialUsers, username ∈ usernames s
  brought : ∀ request credentials, Counted s opening request → Brings s request credentials →
    credentials.username ∈ usernames s ∧ credentials.username ∉ opening.initialUsers
  appeared : ∀ username ∈ usernames s, username ∉ opening.initialUsers →
    ∃ request credentials, Counted s opening request ∧ Brings s request credentials ∧ credentials.username = username

theorem Watched.step {s t : Server} {event : Pairing.Event} {opening : Opening} (watched : Watched s opening)
    (ordered : Ordered s) (fresh : Pairing.FreshNames s event) (move : Move s event t)
    (unpressed : ∀ active, event ≠ .setLinkButton active)
    (unknown : ∀ request body uuid4Hex tokenHex, event = .read request body uuid4Hex tokenHex →
      ∀ credentials, existing s body = some credentials → credentials.username ∉ opening.initialUsers)
    (unfailed : ∀ request, event = .saved request .raised → ¬Counted s opening request) : Watched t opening := by
  have users : ∀ username ∈ usernames s, username ∈ usernames t := by
    intro username member
    exact ((users_extend fresh move).map Prod.fst).subset member
  have passed : ∀ request, request ∈ s.passed.map Prod.fst → request ∈ t.passed.map Prod.fst := by
    intro request member
    rcases passed_step move with same | ⟨other, _, _, _, _, _, _, same⟩
    · rw [same]
      exact member
    · rw [same]
      exact List.mem_cons_of_mem _ member
  constructor
  · rw [(clock_step move unpressed).1]
    exact watched.expires
  · exact fun request member => passed request (watched.earlier request member)
  · exact fun username member => users username (watched.initial username member)
  · intro request credentials counted brings
    cases brings_step move brings with
    | before brings =>
      have before := watched.brought request credentials ⟨ordered.brings request credentials brings, counted.2⟩ brings
      exact ⟨users _ before.1, before.2⟩
    | @known body uuid4Hex tokenHex read reading known found passes =>
      obtain ⟨devicetype, held, _⟩ := getByDevicetype_mem found
      exact ⟨users _ (List.mem_map_of_mem held), unknown request body uuid4Hex tokenHex read credentials known⟩
    | added read reading asks grown passes =>
      subst read
      refine ⟨?_, fun initial => fresh (watched.initial _ initial)⟩
      unfold usernames
      rw [grown, withUser_users fresh, List.map_append]
      exact List.mem_append_right _ (List.mem_singleton_self _)
  · intro username member absent
    rcases users_brought fresh move member with old | ⟨request, credentials, brings, named, reading, _, passes⟩
    · obtain ⟨request, credentials, counted, brings, named⟩ := watched.appeared username old absent
      rcases brings_kept ordered move brings with still | failed
      · exact ⟨request, credentials, ⟨passed request counted.1, counted.2⟩, still, named⟩
      · exact absurd counted (unfailed request failed)
    · refine ⟨request, credentials, ⟨?_, ?_⟩, brings, named⟩
      · rw [passes]
        exact List.mem_cons_self
      · exact fun early => ordered.unpassed reading (watched.earlier request early)

theorem newUser_iff {s : Server} {initialUsers : List String} :
    newUser s initialUsers = true ↔ ∃ username ∈ usernames s, username ∉ initialUsers := by
  unfold newUser
  simp

/-- What the pairing step has to go by at each of its stages. -/
structure Follows (f : Flow) : Prop where
  ordered : Ordered f.server
  watched : ∀ opening, f.dialog.opening = some opening → Watched f.server opening
  created : ∀ opening, f.dialog = .created opening → opening.time ≤ f.server.now
  polling : ∀ opening deadline, f.dialog = .polling opening deadline → f.server.linkButtonExpires ≤ deadline
  paired : ∀ opening, f.dialog = .ended opening true → newUser f.server opening.initialUsers = true
  unpaired : ∀ opening, f.dialog = .ended opening false → newUser f.server opening.initialUsers = false ∧
    f.server.linkButtonExpires ≤ f.server.now

theorem Follows.reports {f : Flow} (follows : Follows f) : Reports f := by
  intro opening paired ended saved
  have watched := follows.watched opening (by rw [ended]; rfl)
  have step : nextStepId paired = "paired" ↔ paired = true := by cases paired <;> decide
  rw [step]
  constructor
  · rintro rfl
    obtain ⟨username, member, absent⟩ := newUser_iff.mp (follows.paired opening ended)
    obtain ⟨request, credentials, counted, brings, _⟩ := watched.appeared username member absent
    rcases brings with ⟨save, saving⟩ | confirmed
    · exact absurd saving (saved request credentials save counted)
    · exact ⟨request, credentials, counted, confirmed⟩
  · intro ⟨request, credentials, counted, confirmed⟩
    by_contra unpaired
    rw [eq_false_of_ne_true unpaired] at ended
    obtain ⟨member, absent⟩ := watched.brought request credentials counted (.inr confirmed)
    have new := newUser_iff.mpr ⟨credentials.username, member, absent⟩
    rw [(follows.unpaired opening ended).1] at new
    cases new

/-- A step of the server, while the pairing step waits or is over. -/
theorem Follows.server {f : Flow} {t : Server} {event : Pairing.Event} (follows : Follows f)
    (covered : Covered f (.server event)) (move : Move f.server event t)
    (unpressed : ∀ active, event ≠ .setLinkButton active) : Follows { f with server := t } := by
  obtain ⟨fresh, detected⟩ := covered
  have clock := clock_step move unpressed
  constructor
  · exact follows.ordered.step fresh move
  · intro opening opened
    refine (follows.watched opening opened).step follows.ordered fresh move unpressed ?_ ?_
    · intro request body uuid4Hex tokenHex read
      rw [read] at detected
      exact detected opening opened
    · intro request failed
      rw [failed] at detected
      exact detected opening opened
  · exact fun opening created => (follows.created opening created).trans clock.2
  · intro opening deadline polling
    rw [clock.1]
    exact follows.polling opening deadline polling
  · intro opening ended
    obtain ⟨username, member, absent⟩ := newUser_iff.mp (follows.paired opening ended)
    exact newUser_iff.mpr ⟨username, ((users_extend fresh move).map Prod.fst).subset member, absent⟩
  · intro opening ended
    obtain ⟨none, expired⟩ := follows.unpaired opening ended
    refine ⟨?_, by rw [clock.1]; exact expired.trans clock.2⟩
    by_contra new
    obtain ⟨username, member, absent⟩ := newUser_iff.mp (eq_true_of_ne_false new)
    rcases users_brought fresh move member with old | ⟨_, _, _, _, _, active, _⟩
    · rw [newUser_iff.mpr ⟨username, old, absent⟩] at none
      cases none
    · exact absurd (of_decide_eq_true active) (not_lt_of_ge expired)

/-- Opening the link button: nothing has happened in its window yet. -/
theorem Follows.opened {f : Flow} (follows : Follows f) : Follows (asyncStepPairing f) := by
  constructor
  · exact ⟨follows.ordered.fresh, follows.ordered.past, follows.ordered.brings⟩
  · intro opening opened
    cases opened
    refine ⟨rfl, fun _ member => member, fun _ member => member, ?_, ?_⟩
    · intro request credentials counted
      exact absurd counted.1 counted.2
    · intro username member absent
      exact absurd member absent
  · intro opening created
    cases created
    exact le_refl _
  · intro opening deadline polling
    cases polling
  · intro opening ended
    cases ended
  · intro opening ended
    cases ended

theorem Follows.pollOnce {f : Flow} {opening : Opening} {deadline : ℚ} (follows : Follows f)
    (opened : f.dialog.opening = some opening) (later : f.server.linkButtonExpires ≤ deadline)
    (last : deadline ≤ f.server.now → newUser f.server opening.initialUsers = false) :
    Follows (pollOnce f opening deadline) := by
  have watched : ∀ opening', some opening = some opening' → Watched f.server opening' := by
    intro opening' same
    cases same
    exact follows.watched opening opened
  unfold PairingDialog.pollOnce
  split
  next =>
    split
    next new =>
      refine ⟨follows.ordered, watched, ?_, ?_, ?_, ?_⟩
      · intro opening' same
        cases same
      · intro opening' deadline' same
        cases same
      · intro opening' same
        cases same
        exact new
      · intro opening' same
        cases same
    next =>
      refine ⟨follows.ordered, watched, ?_, ?_, ?_, ?_⟩
      · intro opening' same
        cases same
      · intro opening' deadline' same
        cases same
        exact later
      · intro opening' same
        cases same
      · intro opening' same
        cases same
  next late =>
    have reached := le_of_not_gt late
    refine ⟨follows.ordered, watched, ?_, ?_, ?_, ?_⟩
    · intro opening' same
      cases same
    · intro opening' deadline' same
      cases same
    · intro opening' same
      cases same
    · intro opening' same
      cases same
      exact ⟨last reached, later.trans reached⟩

theorem Follows.step {f g : Flow} {event : Event} (follows : Follows f) (covered : Covered f event)
    (stepped : machine.step f event = some g) : Follows g := by
  change PairingDialog.step f event = some g at stepped
  unfold PairingDialog.step at stepped
  split at stepped
  next => cases stepped
  next event unpressed =>
    obtain ⟨t, moved, rfl⟩ := Option.map_eq_some_iff.mp stepped
    exact follows.server covered (Pairing.step_move moved) unpressed
  next =>
    split at stepped
    next =>
      cases stepped
      exact follows.opened
    next =>
      cases stepped
      exact follows.opened
    next => cases stepped
  next =>
    split at stepped
    next opening created =>
      cases stepped
      have opened : f.dialog.opening = some opening := by rw [created]; rfl
      have expires := (follows.watched opening opened).expires
      apply follows.pollOnce opened
      · rw [expires]
        exact add_le_add_left (follows.created opening created) _
      · intro late
        exact absurd late (not_le_of_gt (lt_add_of_pos_right _ (by norm_num [pairingTimeout, linkButtonTimeout])))
    next opening deadline polling =>
      cases stepped
      exact follows.pollOnce (by rw [polling]; rfl) (follows.polling opening deadline polling)
        (covered.2 opening deadline polling)
    next => cases stepped

theorem follows_start {f : Flow} (start : machine.Start f) : Follows f := by
  obtain ⟨⟨users, persistent, now, _, known⟩, closed⟩ := start
  constructor
  · rw [known]
    refine ⟨fun _ _ => rfl, ?_, ?_⟩
    · intro request member
      cases member
    · intro request credentials brings
      rcases brings with ⟨save, saving⟩ | member
      · cases saving
      · cases member
  all_goals
    rw [closed]
    intros
    contradiction

theorem dialog_reports {f g : Flow} {events : List Event} (start : machine.Start f)
    (run : Run machine Covered f events g) : Reports g :=
  (run.invariant Follows (fun _ _ _ held covered stepped => held.step covered stepped) (follows_start start)).reports

/-- The options flow of an entry whose users are these. -/
def flowOf (users : Users) : Flow where
  server := serverOf users false 0

theorem flowOf_start {users : Users} (distinct : (users.map Prod.fst).Nodup) : machine.Start (flowOf users) :=
  ⟨⟨users, false, 0, distinct, rfl⟩, rfl⟩

/-- A TV pairs between two polls. -/
def pairedOnce : List Event :=
  [.asyncStepPairing, .poll, .server .arrive, .server (.read 0 (.ok tvBody) "tv" "aa"), .server (.tick (1 / 2)), .poll]

/-- The dialog has ended so, and the server is done with the only request of its time. -/
def endedOnce (paired : Bool) (g : Flow) : Bool :=
  match g.dialog with
  | .ended opening reported => reported == paired && opening.earlier.isEmpty && g.server.passed.map Prod.fst == [0] &&
      (g.server.requests 0).any (fun request => match request with | .done => true | _ => false)
  | _ => false

theorem endedOnce_settled {paired : Bool} {g : Flow} (once : endedOnce paired g = true) :
    ∃ opening, g.dialog = .ended opening paired ∧ Counted g.server opening 0 ∧
      ∀ request credentials save, Counted g.server opening request →
        g.server.requests request ≠ some (.saving credentials save) := by
  unfold endedOnce at once
  split at once
  next opening reported ended =>
    simp only [Bool.and_eq_true, beq_iff_eq, List.isEmpty_iff] at once
    obtain ⟨⟨⟨rfl, earlier⟩, passed⟩, answered⟩ := once
    refine ⟨opening, ended, ⟨?_, ?_⟩, ?_⟩
    · rw [passed]
      exact List.mem_singleton_self _
    · rw [earlier]
      exact List.not_mem_nil
    · intro request credentials save counted saving
      have member := counted.1
      rw [passed, List.mem_singleton] at member
      rw [member] at saving
      rw [saving] at answered
      cases answered
  next => cases once

theorem dialog_reports_paired : ∃ g opening, Run machine Covered (flowOf []) pairedOnce g ∧
    g.dialog = .ended opening true ∧
    ∃ request credentials, Counted g.server opening request ∧ (request, credentials) ∈ g.server.confirmed := by
  have played : (play machine Covered (flowOf []) pairedOnce).any (endedOnce true) = true := by decide +kernel
  obtain ⟨g, toG, once⟩ := (Option.any_eq_true _ _).mp played
  obtain ⟨opening, ended, _, unsaved⟩ := endedOnce_settled once
  have start : machine.Start (flowOf []) := flowOf_start List.nodup_nil
  have run := run_of_play _ _ _ toG
  exact ⟨g, opening, run, ended, (dialog_reports start run opening true ended unsaved).mp rfl⟩

/-- The TV of a user pairs again, and the step polls every half second until its deadline. -/
def knownAgain : List Event :=
  [.asyncStepPairing, .poll, .server .arrive, .server (.read 0 (.ok tvBody) "tv" "bb")] ++
    (List.replicate 120 [.server (.tick (1 / 2)), .poll]).flatten

theorem knownAgain_unreported : ¬∀ f g events, machine.Start f → Run machine FreshNames f events g → Reports g := by
  intro claimed
  have played : (play machine FreshNames (flowOf [("living", ⟨"aa", .str "tv#living"⟩)]) knownAgain).any (fun g =>
      endedOnce false g && g.server.confirmed.map Prod.fst == [0]) = true := by decide +kernel
  obtain ⟨g, toG, shape⟩ := (Option.any_eq_true _ _).mp played
  obtain ⟨once, confirmed⟩ := Bool.and_eq_true_iff.mp shape
  obtain ⟨opening, ended, counted, unsaved⟩ := endedOnce_settled once
  have start : machine.Start (flowOf [("living", ⟨"aa", .str "tv#living"⟩)]) := flowOf_start (List.nodup_singleton _)
  have reports := claimed _ g knownAgain start (run_of_play _ _ _ toG)
  obtain ⟨⟨request, credentials⟩, member, same⟩ : ∃ answer ∈ g.server.confirmed, answer.1 = 0 :=
    List.mem_map.mp (by rw [beq_iff_eq.mp confirmed]; exact List.mem_singleton_self _)
  cases same
  have success := (reports opening false ended unsaved).mpr ⟨0, credentials, counted, member⟩
  exact absurd success (by decide)

end HueEntertainment.PairingDialog
