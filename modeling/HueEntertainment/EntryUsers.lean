import HueEntertainment.PairingDurability

/-! The users of an entry over its whole life: those that paired with the config flow's server are imported at every
setup, the store is loaded and saved, and the DTLS server asks for the key of each identity. -/

namespace HueEntertainment.EntryUsers
open PyValue UserStore Pairing PairingDurability TaskTable Runs

/-- The lower-case digit of a number below sixteen. -/
def hexChar (value : Nat) : Char :=
  if value < 10 then Char.ofNat ('0'.toNat + value) else Char.ofNat ('a'.toNat + (value - 10))

def hexPair (byte : UInt8) : List Char := [hexChar (byte.toNat / 16), hexChar (byte.toNat % 16)]

/-- What `token_hex` makes of random bytes. -/
def hexOf (bytes : List UInt8) : String := String.ofList (bytes.flatMap hexPair)

theorem hexDigit_hexChar : ∀ value < 16, hexDigit (hexChar value) = some value := by decide

theorem hexChar_solid : ∀ value < 16, hexChar value ∉ [' ', '\t', '\n', '\r', '\x0b', '\x0c'] := by decide

/-- `bytes.fromhex` takes back what `token_hex` has written. -/
theorem bytesFromHex_hexOf (bytes : List UInt8) : bytesFromHex (hexOf bytes).toList = .ok bytes := by
  unfold hexOf
  rw [String.toList_ofList]
  induction bytes with
  | nil => rfl
  | cons byte rest ih =>
    have small : byte.toNat < 256 := byte.toNat_lt
    have high : byte.toNat / 16 < 16 := by omega
    have low : byte.toNat % 16 < 16 := by omega
    have whole : 16 * (byte.toNat / 16) + byte.toNat % 16 = byte.toNat := by omega
    rw [List.flatMap_cons, hexPair, List.cons_append, List.cons_append, List.nil_append, bytesFromHex,
      if_neg (hexChar_solid _ high)]
    simp only [hexDigit_hexChar _ high, hexDigit_hexChar _ low, ih, whole, UInt8.ofNat_toNat]
    rfl

/-- `_psk_server_callback`: the length that it returns and the bytes that it writes. The identity is `none` where its
bytes do not decode; that and a key that is no hexadecimal raise, which the callback catches. -/
def pskServerCallback (users : Users) (identity : Option String) (maxPskLen : Nat) : Nat × List UInt8 :=
  match identity with
  | none => (0, [])
  | some identity =>
      match pskLookup users identity with
      | none | some (.error _) => (0, [])
      | some (.ok key) => if maxPskLen < key.length then (0, []) else (key.length, key)

theorem callback_paired {users : Users} {username : String} {key : List UInt8}
    (paired : getPsk users username = some (hexOf key)) {maxPskLen : Nat} (fits : key.length ≤ maxPskLen) :
    pskServerCallback users (some username) maxPskLen = (key.length, key) := by
  unfold pskServerCallback pskLookup
  simp only [paired, Option.map_some, bytesFromHex_hexOf]
  exact if_neg (Nat.not_lt_of_le fits)

theorem callback_unpaired {users : Users} {username : String} (unpaired : getPsk users username = none)
    (maxPskLen : Nat) : pskServerCallback users (some username) maxPskLen = (0, []) := by
  unfold pskServerCallback pskLookup
  simp only [unpaired, Option.map_none]

/-- A key of `token_hex(16)`. -/
def IssuedKey (clientkey : String) : Prop := ∃ key, key.length = 16 ∧ clientkey = hexOf key

instance (clientkey : String) : Decidable (IssuedKey clientkey) :=
  decidable_of_iff ((bytesFromHex clientkey.toList).toOption.any
    (fun key => decide (key.length = 16 ∧ clientkey = hexOf key)) = true) (by
    constructor
    · intro issued
      obtain ⟨key, _, same⟩ := (Option.any_eq_true _ _).mp issued
      exact ⟨key, of_decide_eq_true same⟩
    · rintro ⟨key, long, rfl⟩
      rw [bytesFromHex_hexOf]
      simp [Except.toOption, long])

/-- `token_hex(16)` has given the key. -/
def IssuesKeys (s : Server) : Event → Prop
  | .read request body uuid4Hex tokenHex => FreshNames s (.read request body uuid4Hex tokenHex) ∧ IssuedKey tokenHex
  | _ => True

instance (s : Server) : (event : Event) → Decidable (IssuesKeys s event)
  | .read _ _ uuid4Hex tokenHex => inferInstanceAs (Decidable (uuid4Hex ∉ s.users.map Prod.fst ∧ IssuedKey tokenHex))
  | .arrive | .saved .. | .setLinkButton _ | .tick _ => .isTrue trivial

theorem issuedKeys_step {s t : Server} {event : Event} (issued : ∀ entry ∈ s.users, IssuedKey entry.2.clientkey)
    (issues : IssuesKeys s event) (move : Move s event t) : ∀ entry ∈ t.users, IssuedKey entry.2.clientkey := by
  cases move with
  | @added request body credentials reading active unmatched unknown asks =>
    have users : ((passing s request).addUser request credentials).users = (withUser s credentials).users := by
      rcases addUser_cases (passing s request) request credentials with ⟨_, same⟩ | ⟨_, same⟩
      · rw [same]
        rfl
      · rw [same]
        rfl
    intro entry member
    rw [users, withUser_users issues.1] at member
    rcases List.mem_append.mp member with before | new
    · exact issued entry before
    · rw [List.mem_singleton.mp new]
      exact issues.2
  | saved outcome saving => cases outcome <;> exact issued
  | _ => exact issued

/-- The DTLS server gives out a key for the paired identities and for no others, and for each of them exactly the
bytes whose digits the client was given, whatever has paired before. -/
theorem psk_exact {s t : Server} {events : List Event} (issued : ∀ entry ∈ s.users, IssuedKey entry.2.clientkey)
    (run : Run machine IssuesKeys s events t) (maxPskLen : Nat) (roomy : 16 ≤ maxPskLen) (identity : String) :
    (∀ clientkey, getPsk t.users identity = some clientkey → ∃ key, clientkey = hexOf key ∧
      pskServerCallback t.users (some identity) maxPskLen = (16, key)) ∧
    (getPsk t.users identity = none → pskServerCallback t.users (some identity) maxPskLen = (0, [])) := by
  have keys : ∀ entry ∈ t.users, IssuedKey entry.2.clientkey :=
    run.invariant (fun s => ∀ entry ∈ s.users, IssuedKey entry.2.clientkey)
      (fun _ _ _ issued issues step => issuedKeys_step issued issues (step_move step)) issued
  constructor
  · intro clientkey paired
    obtain ⟨user, found, rfl⟩ := Option.map_eq_some_iff.mp paired
    obtain ⟨before, after, split, _⟩ := List.lookup_eq_some_iff.mp found
    obtain ⟨key, long, same⟩ := keys (identity, user) (by rw [split]; simp)
    refine ⟨key, same, ?_⟩
    rw [← long]
    exact callback_paired (paired.trans (congrArg some same)) (long ▸ roomy)
  · exact fun unpaired => callback_unpaired unpaired maxPskLen

def tvKey : List UInt8 := [0, 17, 34, 51, 68, 85, 102, 119, 136, 153, 170, 187, 204, 221, 238, 255]

/-- A TV pairs, and another client does not. -/
def tvPairs : List Event :=
  [.setLinkButton true, .arrive, .arrive, .read 0 (.ok tvBody) "tv" (hexOf tvKey), .saved 0 .persisted,
    .setLinkButton false, .read 1 (.ok tvBody) "other" (hexOf tvKey)]

theorem psk_exact_tv : ∃ t, Run machine IssuesKeys (serverOf [] true 0) tvPairs t ∧
    getPsk t.users "tv" = some "00112233445566778899aabbccddeeff" ∧
    pskServerCallback t.users (some "tv") 256 = (16, tvKey) ∧
    pskServerCallback t.users (some "other") 256 = (0, []) := by
  have final : (play machine IssuesKeys (serverOf [] true 0) tvPairs).any (fun t =>
      getPsk t.users "tv" == some (hexOf tvKey) && (getPsk t.users "other").isNone) = true := by decide +kernel
  obtain ⟨t, played, final⟩ := (Option.any_eq_true _ _).mp final
  rw [Bool.and_eq_true, beq_iff_eq, Option.isNone_iff_eq_none] at final
  have run := run_of_play _ _ _ played
  have exact := fun identity => psk_exact (fun _ member => by cases member) run 256 (by decide) identity
  obtain ⟨key, same, given⟩ := (exact "tv").1 _ final.1
  have here : key = tvKey := by
    have read := bytesFromHex_hexOf key
    rw [← same, bytesFromHex_hexOf] at read
    exact (Except.ok.inj read).symm
  have digits : hexOf tvKey = "00112233445566778899aabbccddeeff" := by decide +kernel
  exact ⟨t, run, digits ▸ final.1, here ▸ given, (exact "other").2 final.2⟩

/-- The import of `async_setup_entry`: what the config flow has paired is added unless the username is known. -/
def importUsers (users initialUsers : Users) : Users :=
  initialUsers.foldl (fun users entry =>
    if (getPsk users entry.1).isNone then add users entry.1 entry.2.clientkey entry.2.devicetype else users) users

/-- An entry with what the config flow has put into it, what the store holds for the next setup, the server while the
entry is loaded, and the snapshots whose saves outlive the servers that have begun them. -/
structure Entry where
  initialUsers : Users
  stored : Users
  server : Option Server := none
  late : List Users := []

/-- The snapshots of the saves under way. -/
def saving (s : Server) : List Users :=
  (List.range s.nextRequest).filterMap (fun request =>
    match s.requests request with
    | some (.saving _ save) => some save.users
    | _ => none)

/-- A setup, whose import may fail to be saved; a step of the loaded server; an unload, a restart or a crash; and the
end of a save whose server is gone. -/
inductive EntryEvent where
  | setup (now : ℚ) (save : SaveOutcome)
  | pairing (event : Event)
  | down
  | lateSave (index : Nat)

namespace Entry

/-- `async_setup_entry` as far as the users go: the load, the import and its save, without which the setup fails. -/
def setup (e : Entry) (now : ℚ) (save : SaveOutcome) : Entry :=
  let users := importUsers e.stored e.initialUsers
  if e.initialUsers = [] then { e with server := some (serverOf users true now) }
  else match save with
    | .persisted => { e with stored := users, server := some (serverOf users true now) }
    | .raised => e

/-- The store holds what was persisted last, whichever server gave it. -/
def restore (e : Entry) (users : Users) : Entry :=
  { e with
    stored := users
    server := e.server.map (fun s => { s with persisted := ⟨s.persisted.number, users⟩ }) }

end Entry

def entryStep (e : Entry) : EntryEvent → Option Entry
  | .setup now save => if e.server.isNone then some (e.setup now save) else none
  | .pairing event =>
      e.server.bind (fun s => (Pairing.step s event).map (fun t =>
        { e with server := some t, stored := t.persisted.users }))
  | .down => e.server.map (fun s => { e with server := none, late := saving s ++ e.late })
  | .lateSave index => e.late[index]?.map e.restore

/-- A running Home Assistant with the entry that the config flow has created and a store from before. -/
def entryMachine (initialUsers stored : Users) : Machine Entry EntryEvent where
  Start := fun e => e = { initialUsers := initialUsers, stored := stored }
  step := entryStep

/-- The usernames that are given out while the entry is loaded are fresh. -/
def FreshInEntry (e : Entry) : EntryEvent → Prop
  | .pairing event => ∀ s ∈ e.server, FreshNames s event
  | _ => True

instance (e : Entry) : (event : EntryEvent) → Decidable (FreshInEntry e event)
  | .pairing event =>
      decidable_of_iff (e.server.all (fun s => decide (FreshNames s event)) = true)
        (by simp [FreshInEntry, Option.all_eq_true])
  | .setup .. | .down | .lateSave _ => .isTrue trivial

/-- The users have their keys. -/
def Keeps (users initialUsers : Users) : Prop :=
  ∀ entry ∈ initialUsers, getPsk users entry.1 = some entry.2.clientkey

/-- No other user has one of their names. -/
def Compatible (users initialUsers : Users) : Prop :=
  ∀ entry ∈ initialUsers, getPsk users entry.1 = none ∨ getPsk users entry.1 = some entry.2.clientkey

theorem Keeps.compatible {users initialUsers : Users} (keeps : Keeps users initialUsers) :
    Compatible users initialUsers :=
  fun entry member => .inr (keeps entry member)

theorem getPsk_add {users : Users} {username : String} (unknown : getPsk users username = none) (clientkey : String)
    (devicetype : Json) (other : String) : getPsk (add users username clientkey devicetype) other =
      if other = username then some clientkey else getPsk users other := by
  have absent : users.lookup username = none := Option.map_eq_none_iff.mp unknown
  unfold getPsk at unknown ⊢
  rw [add_new absent, List.lookup_append]
  by_cases same : other = username
  · subst other
    rw [absent, if_pos rfl]
    simp
  · rw [if_neg same, List.lookup_cons, beq_false_of_ne same]
    simp

/-- The import gives every user its key, and takes none from a user that there was. -/
theorem import_keeps {users initialUsers : Users} (distinct : (initialUsers.map Prod.fst).Nodup)
    (compatible : Compatible users initialUsers) : Keeps (importUsers users initialUsers) initialUsers ∧
      ∀ username clientkey, getPsk users username = some clientkey →
        getPsk (importUsers users initialUsers) username = some clientkey := by
  unfold importUsers
  induction initialUsers generalizing users with
  | nil => exact ⟨fun _ member => (List.not_mem_nil member).elim, fun _ _ known => known⟩
  | cons first rest ih =>
    rw [List.map_cons, List.nodup_cons] at distinct
    rw [List.foldl_cons]
    obtain ⟨imported, named, kept⟩ : ∃ imported : Users, getPsk imported first.1 = some first.2.clientkey ∧
        (∀ other, other ≠ first.1 → getPsk imported other = getPsk users other) ∧
        imported = if (getPsk users first.1).isNone then add users first.1 first.2.clientkey first.2.devicetype
          else users := by
      refine ⟨_, ?_, ?_, rfl⟩
      · rcases compatible first (List.mem_cons_self ..) with unknown | known
        · rw [unknown, Option.isNone_none, if_pos rfl, getPsk_add unknown, if_pos rfl]
        · rw [known, Option.isNone_some, if_neg Bool.false_ne_true, known]
      · intro other different
        rcases compatible first (List.mem_cons_self ..) with unknown | known
        · rw [unknown, Option.isNone_none, if_pos rfl, getPsk_add unknown, if_neg different]
        · rw [known, Option.isNone_some, if_neg Bool.false_ne_true]
    obtain ⟨same, here⟩ := kept
    rw [← here]
    have rested : Compatible imported rest := by
      intro entry member
      have different : entry.1 ≠ first.1 := fun equal => distinct.1 (equal ▸ List.mem_map_of_mem member)
      rw [same entry.1 different]
      exact compatible entry (List.mem_cons_of_mem _ member)
    obtain ⟨keeps, preserved⟩ := ih distinct.2 rested
    constructor
    · intro entry member
      rcases List.mem_cons.mp member with rfl | later
      · exact preserved _ _ named
      · exact keeps entry later
    · intro username clientkey known
      apply preserved
      by_cases equal : username = first.1
      · subst username
        rcases compatible first (List.mem_cons_self ..) with unknown | key
        · rw [unknown] at known
          cases known
        · rw [named, ← key, known]
      · rw [same username equal, known]

/-- A snapshot that is being saved, or is persisted, was so before the step or holds the users after it. -/
theorem snapshots_step {s t : Server} {event : Event} (move : Move s event t) :
    (∀ request credentials save, t.requests request = some (.saving credentials save) →
      s.requests request = some (.saving credentials save) ∨ save.users = t.users) ∧
    (t.persisted = s.persisted ∨ ∃ request credentials, s.requests request = some (.saving credentials t.persisted)) := by
  cases move with
  | arrived =>
    refine ⟨?_, .inl rfl⟩
    intro request credentials save found
    rcases update_eq_some found with ⟨_, new⟩ | ⟨_, before⟩
    · cases new
    · exact .inl before
  | refused refusal reading unmatched => exact ⟨fun _ _ _ found => .inl (finish_saving found), .inl rfl⟩
  | known credentials reading active known found => exact ⟨fun _ _ _ found => .inl (finish_saving found), .inl rfl⟩
  | @added request body credentials reading active unmatched unknown asks =>
    rcases addUser_cases (passing s request) request credentials with ⟨_, same⟩ | ⟨_, same⟩
    · rw [same]
      refine ⟨?_, .inl rfl⟩
      intro other credentials' save found
      rcases update_eq_some found with ⟨_, new⟩ | ⟨_, before⟩
      · cases new
        exact .inr rfl
      · exact .inl before
    · rw [same]
      exact ⟨fun _ _ _ found => .inl (finish_saving found), .inl rfl⟩
  | @saved request credentials save outcome saving =>
    cases outcome with
    | raised => exact ⟨fun _ _ _ found => .inl (finish_saving found), .inl rfl⟩
    | persisted =>
      refine ⟨fun _ _ _ found => .inl (finish_saving found), ?_⟩
      change (if s.persisted.number ≤ save.number then save else s.persisted) = s.persisted ∨ ∃ request credentials,
        s.requests request = some (.saving credentials (if s.persisted.number ≤ save.number then save else s.persisted))
      split
      next => exact .inr ⟨request, credentials, saving⟩
      next => exact .inl rfl
  | setLinkButton active => exact ⟨fun _ _ _ found => .inl found, .inl rfl⟩
  | tick forward => exact ⟨fun _ _ _ found => .inl found, .inl rfl⟩

/-- What the loaded server and every snapshot know of the users that the config flow has paired. -/
structure Kept (initialUsers : Users) (e : Entry) : Prop where
  initial : e.initialUsers = initialUsers
  stored : Compatible e.stored initialUsers
  late : ∀ users ∈ e.late, Keeps users initialUsers
  loaded : ∀ s, e.server = some s → Keeps s.users initialUsers ∧ Compatible s.persisted.users initialUsers ∧
    ∀ request credentials save, s.requests request = some (.saving credentials save) → Keeps save.users initialUsers

theorem mem_saving {s : Server} {users : Users} (member : users ∈ saving s) :
    ∃ request credentials save, s.requests request = some (.saving credentials save) ∧ save.users = users := by
  obtain ⟨request, _, found⟩ := List.mem_filterMap.mp member
  split at found
  next credentials save known =>
    cases found
    exact ⟨request, credentials, save, known, rfl⟩
  next => cases found

theorem Kept.pairing {initialUsers : Users} {e : Entry} {s t : Server} {event : Event} (kept : Kept initialUsers e)
    (server : e.server = some s) (fresh : FreshNames s event) (move : Move s event t) :
    Kept initialUsers { e with server := some t, stored := t.persisted.users } := by
  obtain ⟨keeps, persisted, saves⟩ := kept.loaded s server
  have grown : Keeps t.users initialUsers :=
    fun entry member => getPsk_of_prefix (users_extend fresh move) (keeps entry member)
  obtain ⟨snapshots, last⟩ := snapshots_step move
  have compatible : Compatible t.persisted.users initialUsers := by
    rcases last with same | ⟨request, credentials, saving⟩
    · rw [same]
      exact persisted
    · exact (saves request credentials _ saving).compatible
  refine ⟨kept.initial, compatible, kept.late, ?_⟩
  rintro u loaded
  obtain rfl := Option.some.inj loaded
  refine ⟨grown, compatible, ?_⟩
  intro request credentials save saving
  rcases snapshots request credentials save saving with before | same
  · exact saves request credentials save before
  · rw [same]
    exact grown

theorem Kept.setup {initialUsers : Users} {e : Entry} (kept : Kept initialUsers e)
    (distinct : (initialUsers.map Prod.fst).Nodup) (now : ℚ) (save : SaveOutcome) :
    Kept initialUsers (e.setup now save) := by
  obtain ⟨keeps, _⟩ := import_keeps distinct kept.stored
  have served : ∀ s, some (serverOf (importUsers e.stored e.initialUsers) true now) = some s →
      Keeps s.users initialUsers ∧ Compatible s.persisted.users initialUsers ∧
      ∀ request credentials save, s.requests request = some (.saving credentials save) → Keeps save.users initialUsers := by
    intro s same
    obtain rfl := Option.some.inj same
    rw [kept.initial]
    exact ⟨keeps, keeps.compatible, fun _ _ _ none => by cases none⟩
  unfold Entry.setup
  simp only []
  split
  next => exact ⟨kept.initial, kept.stored, kept.late, served⟩
  next =>
    cases save with
    | persisted =>
      refine ⟨kept.initial, ?_, kept.late, served⟩
      change Compatible (importUsers e.stored e.initialUsers) initialUsers
      rw [kept.initial]
      exact keeps.compatible
    | raised => exact kept

theorem Kept.step {initialUsers : Users} {e t : Entry} {event : EntryEvent} (kept : Kept initialUsers e)
    (distinct : (initialUsers.map Prod.fst).Nodup) (fresh : FreshInEntry e event) (stepped : entryStep e event = some t) :
    Kept initialUsers t := by
  cases event with
  | setup now save =>
    simp only [entryStep] at stepped
    split at stepped
    next =>
      cases stepped
      exact kept.setup distinct now save
    next => cases stepped
  | pairing event =>
    obtain ⟨s, server, stepped⟩ := Option.bind_eq_some_iff.mp stepped
    obtain ⟨u, moved, rfl⟩ := Option.map_eq_some_iff.mp stepped
    exact kept.pairing server (fresh s server) (step_move moved)
  | down =>
    obtain ⟨s, server, rfl⟩ := Option.map_eq_some_iff.mp stepped
    refine ⟨kept.initial, kept.stored, ?_, fun _ none => by cases none⟩
    intro users member
    rcases List.mem_append.mp member with now | before
    · obtain ⟨request, credentials, save, found, rfl⟩ := mem_saving now
      exact (kept.loaded s server).2.2 request credentials save found
    · exact kept.late users before
  | lateSave index =>
    obtain ⟨users, found, rfl⟩ := Option.map_eq_some_iff.mp stepped
    have keeps := kept.late users (List.mem_of_getElem? found)
    refine ⟨kept.initial, keeps.compatible, kept.late, ?_⟩
    intro s loaded
    obtain ⟨before, server, rfl⟩ := Option.map_eq_some_iff.mp loaded
    obtain ⟨here, _, saves⟩ := kept.loaded before server
    exact ⟨here, keeps.compatible, saves⟩

/-- A TV that has paired with the config flow's server stays paired with the key that it was given, whenever the entry
is loaded: over any number of restarts and crashes, whichever saves fail or come late, and whoever else pairs. -/
theorem wizard_user_lasts {w : Server} {start : ℚ} {pairs : List Event}
    (paired : Run machine FreshNames (serverOf [] false start) pairs w) {request : RequestId} {credentials : Credentials}
    (confirmed : (request, credentials) ∈ w.confirmed) {stored : Users} (apart : Compatible stored w.users)
    {e : Entry} (lived : Reachable (entryMachine w.users stored) FreshInEntry e) {s : Server}
    (loaded : e.server = some s) : getPsk s.users credentials.username = some credentials.clientkey ∧
      ∀ key, credentials.clientkey = hexOf key → ∀ maxPskLen, key.length ≤ maxPskLen →
        pskServerCallback s.users (some credentials.username) maxPskLen = (key.length, key) := by
  have sound : Sound w := sound_run (sound_start ⟨[], false, start, List.nodup_nil, rfl⟩) paired
  obtain ⟨devicetype, member, _⟩ := sound.confirmed request credentials confirmed
  have kept : Kept w.users e := by
    refine lived.invariant (Kept w.users) ?_ (fun _ _ _ held fresh stepped => held.step sound.distinct fresh stepped)
    rintro e rfl
    exact ⟨rfl, apart, fun _ none => (List.not_mem_nil none).elim, fun _ none => by cases none⟩
  have known := (kept.loaded s loaded).1 _ member
  refine ⟨known, ?_⟩
  intro key same maxPskLen fits
  exact callback_paired (known.trans (congrArg some same)) fits

/-- A setup whose import is saved, a restart, a setup that fails, and one that does not. -/
def restarts : List EntryEvent := [.setup 0 .persisted, .down, .setup 1 .raised, .setup 2 .persisted]

theorem wizard_user_lasts_tv : ∃ w e s, Run machine FreshNames (serverOf [] false 0)
      [.setLinkButton true, .arrive, .read 0 (.ok tvBody) "tv" (hexOf tvKey)] w ∧
    Run (entryMachine w.users []) FreshInEntry { initialUsers := w.users, stored := [] } restarts e ∧
    e.server = some s ∧ getPsk s.users "tv" = some (hexOf tvKey) := by
  have final : (play machine FreshNames (serverOf [] false 0)
      [.setLinkButton true, .arrive, .read 0 (.ok tvBody) "tv" (hexOf tvKey)]).any (fun w =>
        w.confirmed.any (fun entry => entry.2.username == "tv" && entry.2.clientkey == hexOf tvKey) &&
        (play (entryMachine w.users []) FreshInEntry { initialUsers := w.users, stored := [] } restarts).any (fun e =>
          e.server.isSome)) = true := by decide +kernel
  obtain ⟨w, played, final⟩ := (Option.any_eq_true _ _).mp final
  rw [Bool.and_eq_true, List.any_eq_true] at final
  obtain ⟨⟨⟨request, credentials⟩, confirmed, named⟩, final⟩ := final
  simp only [Bool.and_eq_true, beq_iff_eq] at named
  obtain ⟨e, played', up⟩ := (Option.any_eq_true _ _).mp final
  obtain ⟨s, loaded⟩ := Option.isSome_iff_exists.mp up
  have paired := run_of_play _ _ _ played
  have lived := run_of_play _ _ _ played'
  have start : (entryMachine w.users []).Start { initialUsers := w.users, stored := [] } := rfl
  have known := (wizard_user_lasts paired confirmed (fun _ _ => .inl rfl) (reachable_of_play start played') loaded).1
  rw [named.1, named.2] at known
  exact ⟨w, e, s, paired, lived, loaded, known⟩

end HueEntertainment.EntryUsers
