import HueEntertainment.Entertainment

/-! What may become of saved states, told by the history alone. A start books a snapshot, a stop
carries it over to its teardown, the teardown takes it and reproduces it, and a release writes it
off. Whatever keeps books in this order restores each snapshot once. -/

namespace HueEntertainment.SnapshotLedger
open Entertainment

/-- Who holds the saved states: nobody, the running session, or the stop that ended it, which
reproduces them after it took them. -/
inductive Phase where
  | idle
  | running (saved : Option Snapshot)
  | closing (stop : TeardownId) (saved : Option Snapshot)
  | restoring (stop : TeardownId) (saved : Snapshot)

/-- The numbers of sessions begun and stops made so far, and the phase. -/
structure Ledger where
  sessions : Nat
  stops : TeardownId
  phase : Phase

/-- The entries of a history that the ledger is about. -/
def concerns : Obs → Bool
  | .sessionBegun _ | .sessionEnded _ _ | .savedTaken _ _ | .reproduceBegun _ _ | .released => true
  | _ => false

/-- The phase after a release wrote the saved states off. -/
def Phase.released : Phase → Phase
  | .running _ => .running none
  | .closing stop _ => .closing stop none
  | phase => phase

/-- The phase after a stop took the saved states: there may be nothing to reproduce. -/
def Phase.taken (stop : TeardownId) (saved : Option Snapshot) : Phase :=
  match saved with
  | some snapshot => if snapshot.states = [] then .idle else .restoring stop snapshot
  | none => .idle

/-- One entry booked. -/
inductive Books : Ledger → Obs → Ledger → Prop where
  | start {sessions stops : Nat} {phase : Phase} {saved : Snapshot}
      (free : phase = .idle ∨ phase = .running none) (next : saved.session = sessions + 1) :
      Books ⟨sessions, stops, phase⟩ (.sessionBegun saved) ⟨sessions + 1, stops, .running (some saved)⟩
  | stop {sessions stops : Nat} {saved : Option Snapshot} :
      Books ⟨sessions, stops, .running saved⟩ (.sessionEnded stops sessions)
        ⟨sessions, stops + 1, .closing stops saved⟩
  | release {sessions stops : Nat} {phase : Phase} (settled : ∀ stop saved, phase ≠ .restoring stop saved) :
      Books ⟨sessions, stops, phase⟩ .released ⟨sessions, stops, phase.released⟩
  | take {sessions stops : Nat} {stop : TeardownId} {saved : Option Snapshot} :
      Books ⟨sessions, stops, .closing stop saved⟩ (.savedTaken stop saved)
        ⟨sessions, stops, .taken stop saved⟩
  | reproduce {sessions stops : Nat} {stop : TeardownId} {saved : Snapshot} :
      Books ⟨sessions, stops, .restoring stop saved⟩ (.reproduceBegun stop saved) ⟨sessions, stops, .idle⟩
  | other {ledger : Ledger} {entry : Obs} (foreign : concerns entry = false) : Books ledger entry ledger

/-- A history, newest entry first, that can be booked in its order. -/
inductive Audited : List Obs → Ledger → Prop where
  | nil : Audited [] ⟨0, 0, .idle⟩
  | cons {log : List Obs} {before after : Ledger} {entry : Obs} :
      Audited log before → Books before entry after → Audited (entry :: log) after

theorem Audited.foreign {log entries : List Obs} {ledger : Ledger} (audited : Audited log ledger)
    (foreign : ∀ entry ∈ entries, concerns entry = false) : Audited (entries ++ log) ledger := by
  induction entries with
  | nil => exact audited
  | cons entry rest ih =>
    have before := ih (fun other member => foreign other (List.mem_cons_of_mem _ member))
    exact before.cons (.other (foreign entry List.mem_cons_self))

/-- The saved states that no teardown has taken and no release has written off. -/
def pendingIn : List Obs → Option Snapshot
  | [] => none
  | .sessionBegun saved :: _ => some saved
  | .savedTaken _ _ :: _ => none
  | .released :: _ => none
  | _ :: log => pendingIn log

/-- A release found the saved states pending. -/
def Discarded (log : List Obs) (saved : Snapshot) : Prop :=
  ∃ newer older, log = newer ++ .released :: older ∧ pendingIn older = some saved

/-- The teardowns that reproduced the snapshot, once for each time. -/
def reproductions (saved : Snapshot) : List Obs → List TeardownId
  | [] => []
  | .reproduceBegun stop other :: log =>
      if other = saved then stop :: reproductions saved log else reproductions saved log
  | _ :: log => reproductions saved log

/-- The stop ended the session, and the snapshot was taken when that session began. -/
def EndedBy (log : List Obs) (stop : TeardownId) (session : Nat) (saved : Option Snapshot) : Prop :=
  ∃ newer older, log = newer ++ .sessionEnded stop session :: older ∧
    ∀ snapshot, saved = some snapshot → .sessionBegun snapshot ∈ older

theorem Discarded.released {log : List Obs} {saved : Snapshot} (discarded : Discarded log saved) :
    .released ∈ log := by
  obtain ⟨newer, older, split, _⟩ := discarded
  rw [split]
  exact List.mem_append_right _ List.mem_cons_self

theorem Discarded.cons {log : List Obs} {saved : Snapshot} (discarded : Discarded log saved) (entry : Obs) :
    Discarded (entry :: log) saved := by
  obtain ⟨newer, older, split, pending⟩ := discarded
  exact ⟨entry :: newer, older, by rw [split]; rfl, pending⟩

theorem EndedBy.cons {log : List Obs} {stop : TeardownId} {session : Nat} {saved : Option Snapshot}
    (ended : EndedBy log stop session saved) (entry : Obs) : EndedBy (entry :: log) stop session saved := by
  obtain ⟨newer, older, split, begun⟩ := ended
  exact ⟨entry :: newer, older, by rw [split]; rfl, begun⟩

theorem EndedBy.member {log : List Obs} {stop : TeardownId} {session : Nat} {saved : Option Snapshot}
    (ended : EndedBy log stop session saved) : .sessionEnded stop session ∈ log := by
  obtain ⟨newer, older, split, _⟩ := ended
  rw [split]
  exact List.mem_append_right _ List.mem_cons_self

/-- The saved states still to be taken in a phase. -/
def Phase.pending : Phase → Option Snapshot
  | .running saved => saved
  | .closing _ saved => saved
  | _ => none

/-- The phase still owes the snapshot its reproduction. -/
def Phase.Owes (phase : Phase) (saved : Snapshot) : Prop :=
  phase.pending = some saved ∨ ∃ stop, phase = .restoring stop saved

/-- What audited books say of their history. -/
structure Balanced (log : List Obs) (ledger : Ledger) : Prop where
  pending : pendingIn log = ledger.phase.pending
  begun : ∀ saved, .sessionBegun saved ∈ log → saved.session ≤ ledger.sessions
  owed : ∀ saved, ledger.phase.Owes saved →
    .sessionBegun saved ∈ log ∧ saved.session = ledger.sessions ∧ reproductions saved log = []
  unspent : ∀ saved, ledger.sessions < saved.session → reproductions saved log = []
  stopped : ∀ stop session, .sessionEnded stop session ∈ log → session ≤ ledger.sessions
  running : ∀ saved stop session, ledger.phase = .running saved → .sessionEnded stop session ∈ log →
    session < ledger.sessions
  once : ∀ stop other session, .sessionEnded stop session ∈ log → .sessionEnded other session ∈ log →
    stop = other
  closing : ∀ stop saved, ledger.phase = .closing stop saved → EndedBy log stop ledger.sessions saved
  restoring : ∀ stop saved, ledger.phase = .restoring stop saved →
    EndedBy log stop ledger.sessions (some saved)
  settled : ∀ saved, .sessionBegun saved ∈ log → saved.states ≠ [] →
    ledger.phase.Owes saved ∨ Discarded log saved ∨
      ∃ stop, .sessionEnded stop saved.session ∈ log ∧ reproductions saved log = [stop]

theorem balanced_nil : Balanced [] ⟨0, 0, .idle⟩ := by
  constructor
  · rfl
  · intro saved member
    cases member
  · intro saved owes
    rcases owes with pending | ⟨stop, restoring⟩
    · cases pending
    · cases restoring
  · exact fun _ _ => rfl
  · intro stop session member
    cases member
  · intro saved stop session running
    cases running
  · intro stop other session member
    cases member
  · intro stop saved closing
    cases closing
  · intro stop saved restoring
    cases restoring
  · intro saved member
    cases member

theorem Balanced.other {log : List Obs} {ledger : Ledger} {entry : Obs} (balanced : Balanced log ledger)
    (foreign : concerns entry = false) : Balanced (entry :: log) ledger := by
  have member : ∀ obs, concerns obs = true → (obs ∈ entry :: log ↔ obs ∈ log) := by
    intro obs concerned
    have different : obs ≠ entry := by
      intro same
      rw [same, foreign] at concerned
      cases concerned
    simp [different]
  have pending : pendingIn (entry :: log) = pendingIn log := by
    cases entry <;> first | rfl | cases foreign
  have spent : ∀ saved, reproductions saved (entry :: log) = reproductions saved log := by
    intro saved
    cases entry <;> first | rfl | cases foreign
  constructor
  · rw [pending]
    exact balanced.pending
  · intro saved begun
    exact balanced.begun saved ((member _ rfl).mp begun)
  · intro saved owes
    obtain ⟨begun, session, none⟩ := balanced.owed saved owes
    exact ⟨(member _ rfl).mpr begun, session, (spent saved).trans none⟩
  · intro saved later
    exact (spent saved).trans (balanced.unspent saved later)
  · intro stop session ended
    exact balanced.stopped stop session ((member _ rfl).mp ended)
  · intro saved stop session running ended
    exact balanced.running saved stop session running ((member _ rfl).mp ended)
  · intro stop other session ended ended'
    exact balanced.once stop other session ((member _ rfl).mp ended) ((member _ rfl).mp ended')
  · intro stop saved closing
    exact (balanced.closing stop saved closing).cons entry
  · intro stop saved restoring
    exact (balanced.restoring stop saved restoring).cons entry
  · intro saved begun nonempty
    rcases balanced.settled saved ((member _ rfl).mp begun) nonempty with owes | discarded | ⟨stop, ended, once⟩
    · exact .inl owes
    · exact .inr (.inl (discarded.cons entry))
    · exact .inr (.inr ⟨stop, (member _ rfl).mpr ended, (spent saved).trans once⟩)

theorem Balanced.start {log : List Obs} {sessions stops : Nat} {phase : Phase} {saved : Snapshot}
    (balanced : Balanced log ⟨sessions, stops, phase⟩) (free : phase = .idle ∨ phase = .running none)
    (next : saved.session = sessions + 1) :
    Balanced (.sessionBegun saved :: log) ⟨sessions + 1, stops, .running (some saved)⟩ := by
  have settledUp : ∀ snapshot, ¬phase.Owes snapshot := by
    intro snapshot owes
    rcases free with rfl | rfl
    · rcases owes with pending | ⟨stop, restoring⟩
      · cases pending
      · cases restoring
    · rcases owes with pending | ⟨stop, restoring⟩
      · cases pending
      · cases restoring
  constructor
  · rfl
  · intro snapshot member
    rcases List.mem_cons.mp member with same | before
    · cases same
      exact Nat.le_of_eq next
    · exact Nat.le_succ_of_le (balanced.begun snapshot before)
  · intro snapshot owes
    rcases owes with pending | ⟨stop, restoring⟩
    · cases pending
      have later : sessions < saved.session := by omega
      exact ⟨List.mem_cons_self, next, balanced.unspent saved later⟩
    · cases restoring
  · intro snapshot later
    have before : sessions < snapshot.session := Nat.lt_of_succ_lt later
    exact balanced.unspent snapshot before
  · intro stop session member
    rcases List.mem_cons.mp member with same | before
    · cases same
    · exact Nat.le_succ_of_le (balanced.stopped stop session before)
  · intro snapshot stop session _ member
    rcases List.mem_cons.mp member with same | before
    · cases same
    · exact Nat.lt_succ_of_le (balanced.stopped stop session before)
  · intro stop other session member member'
    rcases List.mem_cons.mp member with same | before
    · cases same
    · rcases List.mem_cons.mp member' with same | before'
      · cases same
      · exact balanced.once stop other session before before'
  · intro stop snapshot closing
    cases closing
  · intro stop snapshot restoring
    cases restoring
  · intro snapshot member nonempty
    rcases List.mem_cons.mp member with same | before
    · cases same
      exact .inl (.inl rfl)
    · rcases balanced.settled snapshot before nonempty with owes | discarded | ⟨stop, ended, once⟩
      · exact absurd owes (settledUp snapshot)
      · exact .inr (.inl (discarded.cons _))
      · exact .inr (.inr ⟨stop, List.mem_cons_of_mem _ ended, once⟩)

theorem Balanced.stop {log : List Obs} {sessions stops : Nat} {saved : Option Snapshot}
    (balanced : Balanced log ⟨sessions, stops, .running saved⟩) :
    Balanced (.sessionEnded stops sessions :: log) ⟨sessions, stops + 1, .closing stops saved⟩ := by
  have carried : ∀ snapshot, (Phase.closing stops saved).Owes snapshot → (Phase.running saved).Owes snapshot := by
    intro snapshot owes
    rcases owes with pending | ⟨stop, restoring⟩
    · exact .inl pending
    · cases restoring
  constructor
  · exact balanced.pending
  · intro snapshot member
    rcases List.mem_cons.mp member with same | before
    · cases same
    · exact balanced.begun snapshot before
  · intro snapshot owes
    obtain ⟨begun, session, none⟩ := balanced.owed snapshot (carried snapshot owes)
    exact ⟨List.mem_cons_of_mem _ begun, session, none⟩
  · exact balanced.unspent
  · intro stop session member
    rcases List.mem_cons.mp member with same | before
    · cases same
      exact Nat.le_refl _
    · exact balanced.stopped stop session before
  · intro snapshot stop session running
    cases running
  · intro stop other session member member'
    rcases List.mem_cons.mp member with same | before
    · cases same
      rcases List.mem_cons.mp member' with same' | before'
      · cases same'
        rfl
      · exact absurd (balanced.running saved other sessions rfl before') (Nat.lt_irrefl _)
    · rcases List.mem_cons.mp member' with same' | before'
      · cases same'
        exact absurd (balanced.running saved stop sessions rfl before) (Nat.lt_irrefl _)
      · exact balanced.once stop other session before before'
  · intro stop snapshot closing
    cases closing
    refine ⟨[], log, rfl, ?_⟩
    intro snapshot found
    exact (balanced.owed snapshot (.inl found)).1
  · intro stop snapshot restoring
    cases restoring
  · intro snapshot member nonempty
    rcases List.mem_cons.mp member with same | before
    · cases same
    · rcases balanced.settled snapshot before nonempty with owes | discarded | ⟨stop, ended, once⟩
      · rcases owes with pending | ⟨stop, restoring⟩
        · exact .inl (.inl pending)
        · cases restoring
      · exact .inr (.inl (discarded.cons _))
      · exact .inr (.inr ⟨stop, List.mem_cons_of_mem _ ended, once⟩)

theorem Phase.released_pending {phase : Phase} : phase.released.pending = none := by
  cases phase <;> rfl

theorem Balanced.release {log : List Obs} {sessions stops : Nat} {phase : Phase}
    (balanced : Balanced log ⟨sessions, stops, phase⟩) (unsettled : ∀ stop saved, phase ≠ .restoring stop saved) :
    Balanced (.released :: log) ⟨sessions, stops, phase.released⟩ := by
  have none : ∀ snapshot, ¬phase.released.Owes snapshot := by
    intro snapshot owes
    rcases owes with pending | ⟨stop, restoring⟩
    · rw [Phase.released_pending] at pending
      cases pending
    · cases phase with
      | restoring stop' saved => exact unsettled stop' saved rfl
      | _ => cases restoring
  constructor
  · rw [Phase.released_pending]
    rfl
  · intro snapshot member
    exact balanced.begun snapshot (List.mem_of_ne_of_mem (by simp) member)
  · intro snapshot owes
    exact absurd owes (none snapshot)
  · exact balanced.unspent
  · intro stop session member
    exact balanced.stopped stop session (List.mem_of_ne_of_mem (by simp) member)
  · intro snapshot stop session running member
    cases phase with
    | running saved => exact balanced.running saved stop session rfl (List.mem_of_ne_of_mem (by simp) member)
    | _ => cases running
  · intro stop other session member member'
    exact balanced.once stop other session (List.mem_of_ne_of_mem (by simp) member)
      (List.mem_of_ne_of_mem (by simp) member')
  · intro stop snapshot closing
    cases phase with
    | closing stop' saved =>
      simp only [Phase.released, Phase.closing.injEq] at closing
      obtain ⟨rfl, rfl⟩ := closing
      obtain ⟨newer, older, split, _⟩ := balanced.closing stop' saved rfl
      refine ⟨.released :: newer, older, by rw [split]; rfl, ?_⟩
      intro snapshot found
      cases found
    | _ => cases closing
  · intro stop snapshot restoring
    exact absurd (.inr ⟨stop, restoring⟩) (none snapshot)
  · intro snapshot member nonempty
    rcases balanced.settled snapshot (List.mem_of_ne_of_mem (by simp) member) nonempty with
      owes | discarded | ⟨stop, ended, once⟩
    · rcases owes with pending | ⟨stop, restoring⟩
      · exact .inr (.inl ⟨[], log, rfl, balanced.pending.trans pending⟩)
      · exact absurd restoring (unsettled stop snapshot)
    · exact .inr (.inl (discarded.cons _))
    · exact .inr (.inr ⟨stop, List.mem_cons_of_mem _ ended, once⟩)

theorem Phase.taken_cases (stop : TeardownId) (saved : Option Snapshot) :
    (Phase.taken stop saved = .idle ∧ ∀ snapshot, saved = some snapshot → snapshot.states = []) ∨
    ∃ snapshot, saved = some snapshot ∧ snapshot.states ≠ [] ∧
      Phase.taken stop saved = .restoring stop snapshot := by
  unfold Phase.taken
  cases saved with
  | none => exact .inl ⟨rfl, by simp⟩
  | some snapshot =>
    by_cases empty : snapshot.states = []
    · exact .inl ⟨if_pos empty, by simp [empty]⟩
    · exact .inr ⟨snapshot, rfl, empty, if_neg empty⟩

/-- What a stop takes is owed to the lights unless it is empty. -/
theorem Phase.taken_owes (stop : TeardownId) (saved : Option Snapshot) (snapshot : Snapshot) :
    (Phase.taken stop saved).Owes snapshot ↔ saved = some snapshot ∧ snapshot.states ≠ [] := by
  rcases Phase.taken_cases stop saved with ⟨idle, nothing⟩ | ⟨taken, found, nonempty, restoring⟩
  · rw [idle]
    constructor
    · rintro (pending | ⟨stop', restoring⟩)
      · cases pending
      · cases restoring
    · rintro ⟨found, nonempty⟩
      exact absurd (nothing snapshot found) nonempty
  · rw [restoring, found]
    constructor
    · rintro (pending | ⟨stop', restoring⟩)
      · cases pending
      · cases restoring
        exact ⟨rfl, nonempty⟩
    · rintro ⟨same, _⟩
      cases same
      exact .inr ⟨stop, rfl⟩

theorem Balanced.take {log : List Obs} {sessions stops : Nat} {stop : TeardownId} {saved : Option Snapshot}
    (balanced : Balanced log ⟨sessions, stops, .closing stop saved⟩) :
    Balanced (.savedTaken stop saved :: log) ⟨sessions, stops, .taken stop saved⟩ := by
  constructor
  · rcases Phase.taken_cases stop saved with ⟨idle, _⟩ | ⟨taken, _, _, restoring⟩
    · rw [idle]
      rfl
    · rw [restoring]
      rfl
  · intro snapshot member
    exact balanced.begun snapshot (List.mem_of_ne_of_mem (by simp) member)
  · intro snapshot now
    obtain ⟨begun, session, none⟩ := balanced.owed snapshot (.inl ((Phase.taken_owes stop saved snapshot).mp now).1)
    exact ⟨List.mem_cons_of_mem _ begun, session, none⟩
  · exact balanced.unspent
  · intro stop' session member
    exact balanced.stopped stop' session (List.mem_of_ne_of_mem (by simp) member)
  · intro snapshot stop' session running
    rcases Phase.taken_cases stop saved with ⟨idle, _⟩ | ⟨taken, _, _, restoring⟩
    · rw [idle] at running
      cases running
    · rw [restoring] at running
      cases running
  · intro stop' other session member member'
    exact balanced.once stop' other session (List.mem_of_ne_of_mem (by simp) member)
      (List.mem_of_ne_of_mem (by simp) member')
  · intro stop' snapshot closing
    rcases Phase.taken_cases stop saved with ⟨idle, _⟩ | ⟨taken, _, _, restoring⟩
    · rw [idle] at closing
      cases closing
    · rw [restoring] at closing
      cases closing
  · intro stop' snapshot restores
    rcases Phase.taken_cases stop saved with ⟨idle, _⟩ | ⟨taken, found, _, restoring⟩
    · rw [idle] at restores
      cases restores
    · rw [restoring] at restores
      cases restores
      have ended := balanced.closing stop saved rfl
      rw [found] at ended
      exact ended.cons _
  · intro snapshot member nonempty
    rcases balanced.settled snapshot (List.mem_of_ne_of_mem (by simp) member) nonempty with
      owed | discarded | ⟨stop', ended, once⟩
    · rcases owed with pending | ⟨stop', restoring⟩
      · exact .inl ((Phase.taken_owes stop saved snapshot).mpr ⟨pending, nonempty⟩)
      · cases restoring
    · exact .inr (.inl (discarded.cons _))
    · exact .inr (.inr ⟨stop', List.mem_cons_of_mem _ ended, once⟩)

theorem Balanced.reproduce {log : List Obs} {sessions stops : Nat} {stop : TeardownId} {saved : Snapshot}
    (balanced : Balanced log ⟨sessions, stops, .restoring stop saved⟩) :
    Balanced (.reproduceBegun stop saved :: log) ⟨sessions, stops, .idle⟩ := by
  obtain ⟨begun, number, none⟩ := balanced.owed saved (.inr ⟨stop, rfl⟩)
  have others : ∀ snapshot, snapshot ≠ saved →
      reproductions snapshot (.reproduceBegun stop saved :: log) = reproductions snapshot log := by
    intro snapshot different
    exact if_neg (Ne.symm different)
  have ours : reproductions saved (.reproduceBegun stop saved :: log) = [stop] := by
    have first : reproductions saved (.reproduceBegun stop saved :: log) = stop :: reproductions saved log :=
      if_pos rfl
    rw [first, none]
  constructor
  · exact balanced.pending
  · intro snapshot member
    exact balanced.begun snapshot (List.mem_of_ne_of_mem (by simp) member)
  · intro snapshot owes
    rcases owes with pending | ⟨stop', restoring⟩
    · cases pending
    · cases restoring
  · intro snapshot later
    have later : sessions < snapshot.session := later
    have number : saved.session = sessions := number
    have different : snapshot ≠ saved := by
      intro same
      rw [same] at later
      omega
    exact (others snapshot different).trans (balanced.unspent snapshot later)
  · intro stop' session member
    exact balanced.stopped stop' session (List.mem_of_ne_of_mem (by simp) member)
  · intro snapshot stop' session running
    cases running
  · intro stop' other session member member'
    exact balanced.once stop' other session (List.mem_of_ne_of_mem (by simp) member)
      (List.mem_of_ne_of_mem (by simp) member')
  · intro stop' snapshot closing
    cases closing
  · intro stop' snapshot restoring
    cases restoring
  · intro snapshot member nonempty
    by_cases same : snapshot = saved
    · subst snapshot
      have ended := (balanced.restoring stop saved rfl).member
      rw [← number] at ended
      exact .inr (.inr ⟨stop, List.mem_cons_of_mem _ ended, ours⟩)
    · rcases balanced.settled snapshot (List.mem_of_ne_of_mem (by simp) member) nonempty with
        owed | discarded | ⟨stop', ended, once⟩
      · rcases owed with pending | ⟨stop', restoring⟩
        · cases pending
        · cases restoring
          exact absurd rfl same
      · exact .inr (.inl (discarded.cons _))
      · exact .inr (.inr ⟨stop', List.mem_cons_of_mem _ ended, (others snapshot same).trans once⟩)

theorem Audited.balanced {log : List Obs} {ledger : Ledger} (audited : Audited log ledger) :
    Balanced log ledger := by
  induction audited with
  | nil => exact balanced_nil
  | cons _ books ih =>
    cases books with
    | start free next => exact ih.start free next
    | stop => exact ih.stop
    | release settled => exact ih.release settled
    | take => exact ih.take
    | reproduce => exact ih.reproduce
    | other foreign => exact ih.other foreign

/-- What was booked before an entry is audited too, and the entry was booked on it. -/
theorem Audited.entry {newer older : List Obs} {entry : Obs} {ledger : Ledger}
    (audited : Audited (newer ++ entry :: older) ledger) :
    ∃ before after, Audited older before ∧ Books before entry after := by
  induction newer generalizing ledger with
  | nil =>
    cases audited with
    | cons audited books => exact ⟨_, _, audited, books⟩
  | cons first rest ih =>
    cases audited with
    | cons audited _ => exact ih audited

/-- No start overwrites saved states that are still pending. -/
theorem Audited.start_pending {newer older : List Obs} {saved : Snapshot} {ledger : Ledger}
    (audited : Audited (newer ++ .sessionBegun saved :: older) ledger) : pendingIn older = none := by
  obtain ⟨before, after, audited, books⟩ := audited.entry
  rw [audited.balanced.pending]
  cases books with
  | start free next => rcases free with rfl | rfl <;> rfl
  | other foreign => cases foreign

/-- A stop takes the saved states of the session it ended. -/
theorem Audited.taken {newer older : List Obs} {stop : TeardownId} {saved : Snapshot} {ledger : Ledger}
    (audited : Audited (newer ++ .savedTaken stop (some saved) :: older) ledger) :
    EndedBy older stop saved.session (some saved) := by
  obtain ⟨before, after, audited, books⟩ := audited.entry
  have balanced := audited.balanced
  cases books with
  | take =>
    have number := (balanced.owed saved (.inl rfl)).2.1
    rw [number]
    exact balanced.closing stop (some saved) rfl
  | other foreign => cases foreign

end HueEntertainment.SnapshotLedger
