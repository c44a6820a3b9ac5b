import HueEntertainment.Pairing

/-! Whether a pairing that was confirmed survives a restart. A user is in memory before the store has saved
it, so what a response promises depends on the saves under way and on those that failed. -/

namespace HueEntertainment.PairingDurability
open PyValue LightCommand HueApi UserStore TaskTable Pairing Runs

/-- `async_load` of a new server: the users that the store holds. -/
def asyncLoad (s : Server) : Users := s.persisted.users

/-- The success response that carries a username and a client key. -/
def carrying (username clientkey : String) : Response :=
  { body := .array [.object [("success", .object [("username", .str username), ("clientkey", .str clientkey)])]] }

/-- The client keys of all success responses survive a restart, and no user whose save failed is found for a device
type. -/
structure Durable (s : Server) : Prop where
  confirmed : s.persistent = true → ∀ request username clientkey,
    (request, some (carrying username clientkey)) ∈ s.responses → getPsk (asyncLoad s) username = some clientkey
  failed : ∀ credentials ∈ s.failed, ∀ devicetype clientkey,
    getByDevicetype s.users devicetype ≠ some (credentials.username, clientkey)

/-- The request saves a user for the device type, and the store holds no snapshot that late yet. -/
def savesFor (s : Server) (devicetype : Json) (request : RequestId) : Bool :=
  match s.requests request with
  | some (.saving credentials save) =>
      decide (s.persisted.number < save.number) && pyEq credentials.devicetype devicetype
  | _ => false

/-- The save of a user for the device type is under way. -/
def Unsaved (s : Server) (devicetype : Json) : Prop := ∃ request < s.nextRequest, savesFor s devicetype request = true

instance (s : Server) (devicetype : Json) : Decidable (Unsaved s devicetype) :=
  inferInstanceAs (Decidable (∃ request < s.nextRequest, savesFor s devicetype request = true))

/-- The step neither lets the save of a device type fail that is equal to itself, nor reads a request that is to be
shown a client key for a device type whose user is still being saved. -/
def Safe (s : Server) : Event → Prop
  | .read _ (.ok (.object fields)) _ _ => s.persistent = true → s.linkButtonActive = true →
      generateClientkey fields = true → ¬Unsaved s (deviceType fields)
  | .saved request .raised => ∀ credentials save, s.requests request = some (.saving credentials save) →
      pyEq credentials.devicetype credentials.devicetype = false
  | _ => True

instance (s : Server) (event : Event) : Decidable (Safe s event) :=
  match event with
  | .read _ (.ok (.object fields)) _ _ =>
      inferInstanceAs (Decidable (s.persistent = true → s.linkButtonActive = true →
        generateClientkey fields = true → ¬Unsaved s (deviceType fields)))
  | .saved request .raised =>
      decidable_of_iff ((s.requests request).all (fun found => match found with
        | .saving credentials _ => !pyEq credentials.devicetype credentials.devicetype
        | _ => true) = true) (by
        cases known : s.requests request with
        | none => simp [Safe, known]
        | some found => cases found <;> simp [Safe, known])
  | .read _ (.error _) _ _ | .read _ (.ok .null) _ _ | .read _ (.ok (.bool _)) _ _ | .read _ (.ok (.int _)) _ _
  | .read _ (.ok (.float _)) _ _ | .read _ (.ok (.str _)) _ _ | .read _ (.ok (.array _)) _ _ => .isTrue trivial
  | .saved _ .persisted | .arrive | .setLinkButton _ | .tick _ => .isTrue trivial

theorem unsaved_iff {s : Server} (unused : Fresh s.requests s.nextRequest) {devicetype : Json} :
    Unsaved s devicetype ↔ ∃ request credentials save, s.requests request = some (.saving credentials save) ∧
      s.persisted.number < save.number ∧ pyEq credentials.devicetype devicetype = true := by
  constructor
  · rintro ⟨request, _, saves⟩
    unfold savesFor at saves
    split at saves
    next credentials save saving =>
      rw [Bool.and_eq_true, decide_eq_true_eq] at saves
      exact ⟨request, credentials, save, saving, saves.1, saves.2⟩
    next => cases saves
  · rintro ⟨request, credentials, save, saving, later, equal⟩
    refine ⟨request, Fresh.lt unused saving, ?_⟩
    unfold savesFor
    rw [saving]
    simp [later, equal]

/-- The snapshot is the one that the store holds or one that it is given. -/
def Taken (s : Server) (save : Save) : Prop :=
  save = s.persisted ∨ ∃ request credentials, s.requests request = some (.saving credentials save)

/-- Snapshots grow in the order of their numbers, each holds the user it was taken for, which none before it does, and
that user is found for its device type. -/
structure Saves (s : Server) : Prop where
  bounded : ∀ save, Taken s save → save.number < s.nextSave ∧ save.users <+: s.users
  ordered : ∀ save later, Taken s save → Taken s later → save.number ≤ later.number → save.users <+: later.users
  holds : ∀ request credentials save, s.requests request = some (.saving credentials save) →
    (credentials.username, ⟨credentials.clientkey, credentials.devicetype⟩) ∈ save.users
  novel : ∀ request credentials save, s.requests request = some (.saving credentials save) →
    ∀ other, Taken s other → other.number < save.number → credentials.username ∉ other.users.map Prod.fst
  found : ∀ request credentials save, s.requests request = some (.saving credentials save) →
    pyEq credentials.devicetype credentials.devicetype = true →
    getByDevicetype s.users credentials.devicetype = some (credentials.username, credentials.clientkey)

/-- Steps that take no snapshot keep the order of those that there are. -/
theorem Saves.of_taken {s t : Server} (saves : Saves s) (users : t.users = s.users) (next : t.nextSave = s.nextSave)
    (persisted : Taken s t.persisted)
    (saving : ∀ request credentials save, t.requests request = some (.saving credentials save) →
      s.requests request = some (.saving credentials save)) : Saves t := by
  have before : ∀ save, Taken t save → Taken s save := by
    intro save taken
    rcases taken with rfl | ⟨request, credentials, found⟩
    · exact persisted
    · exact .inr ⟨request, credentials, saving request credentials save found⟩
  constructor
  · intro save taken
    rw [users, next]
    exact saves.bounded save (before save taken)
  · intro save later taken takenLater
    exact saves.ordered save later (before save taken) (before later takenLater)
  · intro request credentials save found
    exact saves.holds request credentials save (saving request credentials save found)
  · intro request credentials save found other taken
    exact saves.novel request credentials save (saving request credentials save found) other (before other taken)
  · intro request credentials save found
    rw [users]
    exact saves.found request credentials save (saving request credentials save found)

/-- A new user for a device type that none has leaves the users of the saves under way the ones that are found. -/
theorem Saves.withUser {s : Server} (saves : Saves s) {credentials : Credentials}
    (fresh : credentials.username ∉ s.users.map Prod.fst)
    (unknown : getByDevicetype s.users credentials.devicetype = none) : Saves (withUser s credentials) where
  bounded := by
    intro save taken
    obtain ⟨numbered, before⟩ := saves.bounded save taken
    rw [withUser_users fresh]
    exact ⟨numbered, before.trans (List.prefix_append _ _)⟩
  ordered := saves.ordered
  holds := saves.holds
  novel := saves.novel
  found := by
    intro request saving save found self
    have member := (saves.bounded save (.inr ⟨request, saving, found⟩)).2.subset (saves.holds request saving save found)
    have other : pyEq credentials.devicetype saving.devicetype = false := by
      by_contra equal
      have flipped := pyEq_symm (eq_true_of_ne_false equal)
      rw [getByDevicetype_none unknown _ member] at flipped
      cases flipped
    change getByDevicetype (add s.users _ _ _) _ = _
    rw [getByDevicetype_add (lookup_eq_none_of_notMem fresh), other]
    exact saves.found request saving save found self

/-- The next snapshot is taken, of the users as they are. -/
theorem Saves.take {s t : Server} (saves : Saves s) {request : RequestId} {credentials : Credentials}
    (member : (credentials.username, ⟨credentials.clientkey, credentials.devicetype⟩) ∈ s.users)
    (newest : pyEq credentials.devicetype credentials.devicetype = true →
      getByDevicetype s.users credentials.devicetype = some (credentials.username, credentials.clientkey))
    (unseen : ∀ save, Taken s save → credentials.username ∉ save.users.map Prod.fst)
    (requests : t.requests = Function.update s.requests request (some (.saving credentials ⟨s.nextSave, s.users⟩)))
    (same : (t.users, t.persisted, t.nextSave) = (s.users, s.persisted, s.nextSave + 1)) : Saves t := by
  simp only [Prod.mk.injEq] at same
  obtain ⟨users, persisted, next⟩ := same
  have before : ∀ save, Taken t save → Taken s save ∨ save = ⟨s.nextSave, s.users⟩ := by
    intro save taken
    rcases taken with rfl | ⟨other, saving, found⟩
    · exact .inl (.inl persisted)
    · rw [requests] at found
      rcases update_eq_some found with ⟨_, new⟩ | ⟨_, old⟩
      · cases new
        exact .inr rfl
      · exact .inl (.inr ⟨other, saving, old⟩)
  constructor
  · intro save taken
    rw [users, next]
    rcases before save taken with old | rfl
    · exact ⟨Nat.lt_succ_of_lt (saves.bounded save old).1, (saves.bounded save old).2⟩
    · exact ⟨Nat.lt_succ_self _, List.prefix_rfl⟩
  · intro save later taken takenLater ordered
    rcases before later takenLater with oldLater | rfl
    · rcases before save taken with old | rfl
      · exact saves.ordered save later old oldLater ordered
      · exact absurd (saves.bounded later oldLater).1 (Nat.not_lt_of_le ordered)
    · rcases before save taken with old | rfl
      · exact (saves.bounded save old).2
      · exact List.prefix_rfl
  · intro other saving save found
    rw [requests] at found
    rcases update_eq_some found with ⟨_, new⟩ | ⟨_, old⟩
    · cases new
      exact member
    · exact saves.holds other saving save old
  · intro other saving save found earlier taken
    rw [requests] at found
    rcases update_eq_some found with ⟨_, new⟩ | ⟨_, old⟩
    · cases new
      rcases before earlier taken with known | rfl
      · exact fun _ => unseen earlier known
      · exact fun less => absurd less (Nat.lt_irrefl _)
    · rcases before earlier taken with known | rfl
      · exact saves.novel other saving save old earlier known
      · exact fun less => absurd less (Nat.lt_asymm (saves.bounded save (.inr ⟨other, saving, old⟩)).1)
  · intro other saving save found self
    rw [users]
    rw [requests] at found
    rcases update_eq_some found with ⟨_, new⟩ | ⟨_, old⟩
    · cases new
      exact newest self
    · exact saves.found other saving save old self

theorem Saves.step {s t : Server} {event : Event} (saves : Saves s) (fresh : FreshNames s event) (move : Move s event t) :
    Saves t := by
  cases move with
  | arrived =>
    refine saves.of_taken rfl rfl (.inl rfl) ?_
    intro request credentials save found
    rcases update_eq_some found with ⟨_, new⟩ | ⟨_, before⟩
    · cases new
    · exact before
  | refused refusal reading unmatched => exact saves.of_taken rfl rfl (.inl rfl) (fun _ _ _ found => finish_saving found)
  | known credentials reading active known found =>
    exact saves.of_taken rfl rfl (.inl rfl) (fun _ _ _ found => finish_saving found)
  | @added request body credentials reading active unmatched unknown asks =>
    have next : Saves (passing s request) := saves.of_taken rfl rfl (.inl rfl) (fun _ _ _ found => found)
    have grown : Saves (Pairing.withUser (passing s request) credentials) := next.withUser fresh unknown
    rcases addUser_cases (passing s request) request credentials with ⟨_, same⟩ | ⟨_, same⟩
    · rw [same]
      refine grown.take ?_ ?_ ?_ rfl rfl
      · rw [withUser_users (s := passing s request) fresh]
        exact List.mem_append_right _ (List.mem_singleton_self _)
      · intro self
        change getByDevicetype (add s.users _ _ _) _ = _
        rw [getByDevicetype_add (lookup_eq_none_of_notMem fresh), if_pos self]
      · intro save taken seen
        exact fresh (((next.bounded save taken).2.map Prod.fst).subset seen)
    · rw [same]
      exact grown.of_taken rfl rfl (.inl rfl) (fun _ _ _ found => finish_saving found)
  | @saved request credentials save outcome saving =>
    cases outcome with
    | persisted =>
      refine saves.of_taken rfl rfl ?_ (fun _ _ _ found => finish_saving found)
      change Taken s (if s.persisted.number ≤ save.number then save else s.persisted)
      split
      · exact .inr ⟨request, credentials, saving⟩
      · exact .inl rfl
    | raised => exact saves.of_taken rfl rfl (.inl rfl) (fun _ _ _ found => finish_saving found)
  | setLinkButton active => exact saves.of_taken rfl rfl (.inl rfl) (fun _ _ _ found => found)
  | tick forward => exact saves.of_taken rfl rfl (.inl rfl) (fun _ _ _ found => found)

/-- What the store holds of the users grows. -/
theorem persisted_grows {s t : Server} {event : Event} (saves : Saves s) (move : Move s event t) :
    s.persisted.users <+: t.persisted.users := by
  cases move with
  | @added request body credentials reading active unmatched unknown asks =>
    rcases addUser_cases (passing s request) request credentials with ⟨_, same⟩ | ⟨_, same⟩
    · rw [same]
      exact List.prefix_rfl
    · rw [same]
      exact List.prefix_rfl
  | @saved request credentials save outcome saving =>
    cases outcome with
    | persisted =>
      change s.persisted.users <+: (if s.persisted.number ≤ save.number then save else s.persisted).users
      split
      next later => exact saves.ordered _ _ (.inl rfl) (.inr ⟨request, credentials, saving⟩) later
      next => exact List.prefix_rfl
    | raised => exact List.prefix_rfl
  | arrived => exact List.prefix_rfl
  | refused refusal reading unmatched => exact List.prefix_rfl
  | known credentials reading active known found => exact List.prefix_rfl
  | setLinkButton active => exact List.prefix_rfl
  | tick forward => exact List.prefix_rfl

/-- Once a save is over the store holds its snapshot or a later one. -/
theorem saved_persisted {s : Server} (saves : Saves s) {request : RequestId} {credentials : Credentials} {save : Save}
    (saving : s.requests request = some (.saving credentials save)) :
    save.users <+: (s.saved request credentials save .persisted).persisted.users := by
  change save.users <+: (if s.persisted.number ≤ save.number then save else s.persisted).users
  split
  next => exact List.prefix_rfl
  next later =>
    exact saves.ordered _ _ (.inr ⟨request, credentials, saving⟩) (.inl rfl) (Nat.le_of_lt (Nat.lt_of_not_le later))

theorem failed_kept {s t : Server} {event : Event} (move : Move s event t) {credentials : Credentials}
    (member : credentials ∈ s.failed) : credentials ∈ t.failed := by
  cases move with
  | @added request body given reading active unmatched unknown asks =>
    rcases addUser_cases (passing s request) request given with ⟨_, same⟩ | ⟨_, same⟩
    · rw [same]
      exact member
    · rw [same]
      exact member
  | saved outcome saving =>
    cases outcome with
    | persisted => exact member
    | raised => exact List.mem_cons_of_mem _ member
  | _ => exact member

/-- A new user of a server with a store is being saved. -/
theorem user_saved {s t : Server} {event : Event} (persistent : s.persistent = true) (fresh : FreshNames s event)
    (move : Move s event t) {entry : String × User} (member : entry ∈ t.users) :
    entry ∈ s.users ∨ ∃ request credentials, t.requests request = some (.saving credentials ⟨s.nextSave, t.users⟩) ∧
      t.persisted = s.persisted ∧ entry = (credentials.username, ⟨credentials.clientkey, credentials.devicetype⟩) := by
  cases move with
  | @added request body given reading active unmatched unknown asks =>
    rcases addUser_cases (passing s request) request given with ⟨_, same⟩ | ⟨transient, _⟩
    · rw [same] at member ⊢
      change entry ∈ (withUser s given).users at member
      rw [withUser_users fresh] at member
      rcases List.mem_append.mp member with old | new
      · exact .inl old
      · exact .inr ⟨request, given, Function.update_self _ _ _, rfl, List.mem_singleton.mp new⟩
    · rw [show (passing s request).persistent = s.persistent from rfl, persistent] at transient
      cases transient
  | saved outcome saving => cases outcome <;> exact .inl member
  | _ => exact .inl member

/-- Each user is in the store, or its save is under way and no later one is over, or its save has failed. -/
def Covered (s : Server) : Prop :=
  ∀ entry ∈ s.users, entry ∈ s.persisted.users ∨
    (∃ request credentials save, s.requests request = some (.saving credentials save) ∧
      s.persisted.number < save.number ∧
      entry = (credentials.username, ⟨credentials.clientkey, credentials.devicetype⟩)) ∨
    ∃ credentials ∈ s.failed, entry = (credentials.username, ⟨credentials.clientkey, credentials.devicetype⟩)

theorem Covered.step {s t : Server} {event : Event} (covered : Covered s) (saves : Saves s)
    (unused : Fresh s.requests s.nextRequest) (persistent : s.persistent = true) (fresh : FreshNames s event)
    (move : Move s event t) : Covered t := by
  have later := saves.step fresh move
  intro entry member
  rcases user_saved persistent fresh move member with old | ⟨request, credentials, saving, kept, rfl⟩
  · rcases covered entry old with stored | ⟨request, credentials, save, saving, behind, rfl⟩ | ⟨credentials, failed, rfl⟩
    · exact .inl ((persisted_grows saves move).subset stored)
    · have held := saves.holds request credentials save saving
      rcases saving_kept unused move saving with still | ⟨outcome, rfl⟩
      · by_cases overtaken : save.number ≤ t.persisted.number
        · have grown := later.ordered save t.persisted (.inr ⟨request, credentials, still⟩) (.inl rfl) overtaken
          exact .inl (grown.subset held)
        · exact .inr (.inl ⟨request, credentials, save, still, not_le.mp overtaken, rfl⟩)
      · cases move with
        | saved outcome saving' =>
          rw [saving] at saving'
          cases saving'
          cases outcome with
          | persisted => exact .inl ((saved_persisted saves saving).subset held)
          | raised => exact .inr (.inr ⟨credentials, List.mem_cons_self, rfl⟩)
    · exact .inr (.inr ⟨credentials, failed_kept move failed, rfl⟩)
  · refine .inr (.inl ⟨request, credentials, _, saving, ?_, rfl⟩)
    rw [kept]
    exact (saves.bounded s.persisted (.inl rfl)).1

/-- The strengthened property: a save that failed was for a device type that is unequal to itself. -/
structure Strong (s : Server) : Prop where
  sound : Sound s
  answered : Answered s
  saves : Saves s
  covered : s.persistent = true → Covered s
  confirmed : s.persistent = true → ∀ request credentials, (request, credentials) ∈ s.confirmed →
    credentials.shown = true → getPsk (asyncLoad s) credentials.username = some credentials.clientkey
  failed : ∀ credentials ∈ s.failed, (credentials.username, ⟨credentials.clientkey, credentials.devicetype⟩) ∈ s.users ∧
    pyEq credentials.devicetype credentials.devicetype = false

/-- A dictionary holds one entry for a key. -/
theorem entry_unique {users : Users} (distinct : (users.map Prod.fst).Nodup) {username : String} {first second : User}
    (left : (username, first) ∈ users) (right : (username, second) ∈ users) : first = second := by
  have known := List.inj_on_of_nodup_map distinct left right rfl
  exact (Prod.mk.inj known).2

/-- A response that carries a client key shows credentials. -/
theorem carrying_eq {username clientkey : String} {credentials : Credentials}
    (same : carrying username clientkey = successResponse credentials) :
    credentials.shown = true ∧ credentials.username = username ∧ credentials.clientkey = clientkey := by
  unfold carrying successResponse at same
  cases shown : credentials.shown with
  | true => simpa [shown, eq_comm] using same
  | false => simp [shown] at same

theorem carrying_of_shown {credentials : Credentials} (shown : credentials.shown = true) :
    successResponse credentials = carrying credentials.username credentials.clientkey := by
  unfold carrying successResponse
  rw [shown]
  rfl

/-- A user whose save failed is not found. -/
theorem Strong.unfound {s : Server} (strong : Strong s) {credentials : Credentials} (member : credentials ∈ s.failed)
    (devicetype : Json) (clientkey : String) :
    getByDevicetype s.users devicetype ≠ some (credentials.username, clientkey) := by
  intro found
  obtain ⟨here, unequal⟩ := strong.failed credentials member
  obtain ⟨known, there, equal⟩ := getByDevicetype_mem found
  have same := entry_unique strong.sound.distinct here there
  obtain ⟨_, rfl⟩ := User.mk.inj same
  rw [pyEq_self equal] at unequal
  cases unequal

theorem Strong.durable {s : Server} (strong : Strong s) : Durable s where
  confirmed := by
    intro persistent request username clientkey member
    obtain ⟨credentials, known, same⟩ := strong.answered.shows request _ member ⟨_, rfl⟩
    obtain ⟨shown, rfl, rfl⟩ := carrying_eq same
    exact strong.confirmed persistent request credentials known shown
  failed := fun _ member => strong.unfound member

theorem Strong.persisted_distinct {s : Server} (strong : Strong s) : (s.persisted.users.map Prod.fst).Nodup :=
  ((strong.saves.bounded _ (.inl rfl)).2.sublist.map Prod.fst).nodup strong.sound.distinct

/-- Credentials of a known user are in the store, unless the save of that user is under way. -/
theorem Strong.stored {s : Server} (strong : Strong s) (unused : Fresh s.requests s.nextRequest)
    (persistent : s.persistent = true) {devicetype : Json} {username clientkey : String}
    (found : getByDevicetype s.users devicetype = some (username, clientkey)) (saved : ¬Unsaved s devicetype) :
    getPsk (asyncLoad s) username = some clientkey := by
  obtain ⟨known, member, equal⟩ := getByDevicetype_mem found
  rcases strong.covered persistent _ member with stored | ⟨request, credentials, save, saving, behind, same⟩ |
    ⟨credentials, failed, same⟩
  · exact getPsk_of_mem strong.persisted_distinct stored
  · cases same
    exact absurd ((unsaved_iff unused).mpr ⟨request, credentials, save, saving, behind, equal⟩) saved
  · cases same
    exact absurd found (strong.unfound failed _ _)

/-- The user for a device type whose save is under way is found, and is not in the store. -/
theorem Strong.unstored {s : Server} (strong : Strong s) (unused : Fresh s.requests s.nextRequest) {devicetype : Json}
    (unsaved : Unsaved s devicetype) : ∃ username clientkey,
      getByDevicetype s.users devicetype = some (username, clientkey) ∧ getPsk (asyncLoad s) username = none := by
  obtain ⟨request, credentials, save, saving, behind, equal⟩ := (unsaved_iff unused).mp unsaved
  have found := strong.saves.found request credentials save saving (pyEq_self equal)
  rw [getByDevicetype_congr equal] at found
  refine ⟨_, _, found, ?_⟩
  have novel := strong.saves.novel request credentials save saving _ (.inl rfl) behind
  unfold getPsk asyncLoad
  rw [lookup_eq_none_of_notMem novel]
  rfl

theorem persistent_step {s t : Server} {event : Event} (move : Move s event t) : t.persistent = s.persistent := by
  cases move with
  | @added request body credentials reading active unmatched unknown asks =>
    rcases addUser_cases (passing s request) request credentials with ⟨_, same⟩ | ⟨_, same⟩
    · rw [same]
      rfl
    · rw [same]
      rfl
  | saved outcome saving => cases outcome <;> rfl
  | _ => rfl

/-- The credentials that a step confirms were known already, or their save is over, or there is no store. -/
theorem confirmed_step {s t : Server} {event : Event} (move : Move s event t) {request : RequestId}
    {credentials : Credentials} (member : (request, credentials) ∈ t.confirmed) :
    (request, credentials) ∈ s.confirmed ∨
    (∃ body uuid4Hex tokenHex, event = .read request body uuid4Hex tokenHex ∧ existing s body = some credentials) ∨
    (∃ save, event = .saved request .persisted ∧ s.requests request = some (.saving credentials save)) ∨
    s.persistent = false := by
  cases move with
  | @known request body uuid4Hex tokenHex credentials reading active known found =>
    rcases List.mem_cons.mp member with same | before
    · cases same
      exact .inr (.inl ⟨body, uuid4Hex, tokenHex, rfl, known⟩)
    · exact .inl before
  | @added request body credentials reading active unmatched unknown asks =>
    rcases addUser_cases (passing s request) request credentials with ⟨_, same⟩ | ⟨absent, _⟩
    · rw [same] at member
      exact .inl member
    · exact .inr (.inr (.inr absent))
  | @saved request credentials save outcome saving =>
    cases outcome with
    | persisted =>
      rcases List.mem_cons.mp member with same | before
      · cases same
        exact .inr (.inr (.inl ⟨save, rfl, saving⟩))
      · exact .inl before
    | raised => exact .inl member
  | _ => exact .inl member

theorem failed_step {s t : Server} {event : Event} (move : Move s event t) {credentials : Credentials}
    (member : credentials ∈ t.failed) :
    credentials ∈ s.failed ∨ ∃ request save, event = .saved request .raised ∧
      s.requests request = some (.saving credentials save) := by
  cases move with
  | @added request body credentials reading active unmatched unknown asks =>
    rcases addUser_cases (passing s request) request credentials with ⟨_, same⟩ | ⟨_, same⟩
    · rw [same] at member
      exact .inl member
    · rw [same] at member
      exact .inl member
  | @saved request credentials save outcome saving =>
    cases outcome with
    | persisted => exact .inl member
    | raised =>
      rcases List.mem_cons.mp member with rfl | before
      · exact .inr ⟨request, save, rfl, saving⟩
      · exact .inl before
  | _ => exact .inl member

theorem Strong.step {s t : Server} {event : Event} (strong : Strong s) (unused : Fresh s.requests s.nextRequest)
    (fresh : FreshNames s event) (safe : Safe s event) (move : Move s event t) : Strong t := by
  have persisted := persisted_grows strong.saves move
  have sound := strong.sound.step fresh move
  have saves := strong.saves.step fresh move
  refine ⟨sound, strong.answered.step move, saves, ?_, ?_, ?_⟩
  · intro persistent
    have before : s.persistent = true := persistent_step move ▸ persistent
    exact (strong.covered before).step strong.saves unused before fresh move
  · intro persistent request credentials member shown
    have before : s.persistent = true := persistent_step move ▸ persistent
    rcases confirmed_step move member with old | ⟨body, uuid4Hex, tokenHex, rfl, known⟩ | ⟨save, rfl, saving⟩ | absent
    · exact getPsk_of_prefix persisted (strong.confirmed before request credentials old shown)
    · obtain ⟨fields, rfl, active, found, asked, _⟩ := existing_cases known
      exact getPsk_of_prefix persisted (strong.stored unused before found (safe before active (asked ▸ shown)))
    · have held := strong.saves.holds request credentials save saving
      have kept : save.users <+: t.persisted.users := by
        cases move with
        | saved outcome saving' =>
          rw [saving] at saving'
          cases saving'
          exact saved_persisted strong.saves saving
      have distinct : (t.persisted.users.map Prod.fst).Nodup :=
        ((saves.bounded _ (.inl rfl)).2.sublist.map Prod.fst).nodup sound.distinct
      exact getPsk_of_mem distinct (kept.subset held)
    · rw [before] at absent
      cases absent
  · intro credentials member
    have grown := users_extend fresh move
    rcases failed_step move member with old | ⟨request, save, rfl, saving⟩
    · exact ⟨grown.subset (strong.failed credentials old).1, (strong.failed credentials old).2⟩
    · have taken := (strong.saves.bounded save (.inr ⟨request, credentials, saving⟩)).2
      exact ⟨grown.subset (taken.subset (strong.saves.holds request credentials save saving)), safe credentials save saving⟩

/-- A request for a device type whose user is being saved is shown a client key that the store does not hold. -/
theorem Strong.early_breaks {s t : Server} (strong : Strong s) (unused : Fresh s.requests s.nextRequest)
    {request : RequestId} {fields : List (String × Json)} {uuid4Hex tokenHex : String}
    (persistent : s.persistent = true) (active : s.linkButtonActive = true) (asked : generateClientkey fields = true)
    (unsaved : Unsaved s (deviceType fields)) (move : Move s (.read request (.ok (.object fields)) uuid4Hex tokenHex) t) :
    ¬Durable t := by
  obtain ⟨username, clientkey, found, absent⟩ := strong.unstored unused unsaved
  have expected : existing s (.ok (.object fields)) = some ⟨username, clientkey, deviceType fields, true⟩ := by
    unfold existing
    simp only []
    rw [if_pos active, found, asked]
    rfl
  intro durable
  cases move with
  | refused refusal reading unmatched =>
    rw [unmatched] at expected
    cases expected
  | added given reading active unmatched unknown asks =>
    rw [unmatched] at expected
    cases expected
  | known credentials reading active known found =>
    rw [expected] at known
    cases known
    have kept : getPsk (asyncLoad s) username = some clientkey :=
      durable.confirmed persistent request username clientkey List.mem_cons_self
    rw [absent] at kept
    cases kept

theorem Strong.unsafe_breaks {s t : Server} {event : Event} (strong : Strong s)
    (unused : Fresh s.requests s.nextRequest) (breaks : ¬Safe s event) (move : Move s event t) : ¬Durable t := by
  cases event with
  | read request body uuid4Hex tokenHex =>
    cases body with
    | error error => exact absurd trivial breaks
    | ok given =>
      cases given with
      | object fields =>
        simp only [Safe, Classical.not_imp, not_not] at breaks
        obtain ⟨persistent, active, asked, unsaved⟩ := breaks
        exact strong.early_breaks unused persistent active asked unsaved move
      | _ => exact absurd trivial breaks
  | saved request outcome =>
    cases outcome with
    | persisted => exact absurd trivial breaks
    | raised =>
      intro durable
      cases move with
      | @saved _ credentials save _ saving =>
        refine breaks (fun other save' same => ?_)
        rw [saving] at same
        cases same
        by_contra equal
        have found := strong.saves.found request credentials save saving (eq_true_of_ne_false equal)
        exact durable.failed credentials List.mem_cons_self _ _ found
  | arrive => exact absurd trivial breaks
  | setLinkButton active => exact absurd trivial breaks
  | tick elapsed => exact absurd trivial breaks

theorem strong_start {s : Server} (start : machine.Start s) : Strong s := by
  have sound := sound_start start
  obtain ⟨users, persistent, now, distinct, rfl⟩ := start
  have only : ∀ save, Taken (serverOf users persistent now) save → save = ⟨0, users⟩ := by
    intro save taken
    rcases taken with rfl | ⟨request, credentials, found⟩
    · rfl
    · cases found
  refine ⟨sound, answered_start ⟨users, persistent, now, distinct, rfl⟩, ⟨?_, ?_, ?_, ?_, ?_⟩, ?_, ?_, ?_⟩
  · intro save taken
    rw [only save taken]
    exact ⟨Nat.zero_lt_one, List.prefix_rfl⟩
  · intro save later taken takenLater _
    rw [only save taken, only later takenLater]
  · intro request credentials save found
    cases found
  · intro request credentials save found
    cases found
  · intro request credentials save found
    cases found
  · exact fun _ entry member => .inl member
  · intro _ request credentials member
    cases member
  · intro credentials member
    cases member

/-- Confirmed pairings survive a restart throughout a run, and no failed save leaves a user behind that is found, if
and only if every step is safe. -/
theorem durable_exact {s t : Server} {events : List Event} (start : machine.Start s)
    (run : Run machine FreshNames s events t) :
    Throughout machine Durable s events ↔ Run machine Safe s events t := by
  have reached : Reachable machine Always s := ⟨s, [], start, .nil s⟩
  exact run.throughout_exact (fun _ strong => strong.durable)
    (fun _ _ _ reached fresh strong stepped safe =>
      strong.step (requests_fresh reached) fresh safe (step_move stepped))
    (fun _ _ _ reached _ strong stepped breaks =>
      strong.unsafe_breaks (requests_fresh reached) breaks (step_move stepped)) reached (strong_start start)

/-- A TV pairs, and pairs again once its user is saved. -/
def pairedTwice : List Event :=
  [.setLinkButton true, .arrive, .read 0 (.ok tvBody) "first" "aa", .saved 0 .persisted, .arrive,
   .read 1 (.ok tvBody) "second" "bb"]

theorem durable_exact_pairedTwice : Throughout machine Durable (serverOf [] true 0) pairedTwice := by
  have start : machine.Start (serverOf [] true 0) := ⟨[], true, 0, List.nodup_nil, rfl⟩
  have played : (play machine FreshNames (serverOf [] true 0) pairedTwice).isSome = true := by decide +kernel
  have safely : (play machine Safe (serverOf [] true 0) pairedTwice).isSome = true := by decide +kernel
  obtain ⟨t, toT⟩ := Option.isSome_iff_exists.mp played
  obtain ⟨u, toU⟩ := Option.isSome_iff_exists.mp safely
  have run := run_of_play _ _ _ toT
  have safe := run_of_play _ _ _ toU
  have same : u = t := Option.some.inj (safe.played.symm.trans run.played)
  exact (durable_exact start run).mpr (same ▸ safe)

/-- The save of a TV's user fails and the TV tries again. -/
def retried : List Event :=
  [.setLinkButton true, .arrive, .read 0 (.ok tvBody) "first" "aa", .saved 0 .raised, .arrive,
   .read 1 (.ok tvBody) "second" "bb"]

/-- Only the second attempt was answered, with a user that the store does not hold. -/
def secondLost (t : Server) : Bool :=
  match t.confirmed with
  | [(1, credentials)] => credentials.shown && decide (getPsk (asyncLoad t) credentials.username = none)
  | _ => false

/-- The second attempt is confirmed although the store holds no user. -/
theorem retried_lost : ∃ t credentials, Run machine FreshNames (serverOf [] true 0) retried t ∧ t.persistent = true ∧
    (1, credentials) ∈ t.confirmed ∧ credentials.shown = true ∧ getPsk (asyncLoad t) credentials.username = none ∧
    ¬Durable t := by
  have played : (play machine FreshNames (serverOf [] true 0) retried).any (fun t =>
      t.persistent && secondLost t) = true := by decide +kernel
  obtain ⟨t, toT, shape⟩ := (Option.any_eq_true _ _).mp played
  obtain ⟨persistent, shape⟩ := Bool.and_eq_true_iff.mp shape
  unfold secondLost at shape
  split at shape
  next credentials confirmed =>
    obtain ⟨shown, absent⟩ := Bool.and_eq_true_iff.mp shape
    have lost := of_decide_eq_true absent
    have member : (1, credentials) ∈ t.confirmed := by rw [confirmed]; exact List.mem_singleton_self _
    have run := run_of_play _ _ _ toT
    refine ⟨t, credentials, run, persistent, member, shown, lost, fun durable => ?_⟩
    have shows := (answered_run ⟨[], true, 0, List.nodup_nil, rfl⟩ run).confirmed 1 credentials member
    rw [carrying_of_shown shown] at shows
    rw [durable.confirmed persistent 1 _ _ shows] at lost
    cases lost
  next => cases shape

end HueEntertainment.PairingDurability
