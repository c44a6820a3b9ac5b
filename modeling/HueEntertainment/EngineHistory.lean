import HueEntertainment.EngineMoves

/-! What each step of the engine can add to its history, and of which state. -/

namespace HueEntertainment.EngineHistory
open HueStream LightCommand PyValue Entertainment EngineSteps EngineFrames DrainSteps EngineMoves Runs

/-- The step is the one in which a teardown takes the saved states. -/
inductive Takes (s : Engine) : Event → TeardownId → Prop where
  | atOnce (active : s.active = true) (free : s.liveDrainTask = none) : Takes s .restore s.nextTeardown
  | drained {teardown : TeardownId} {drain : DrainId}
      (found : s.teardowns teardown = some (.awaitingDrain drain)) (finished : s.drainDone drain = true) :
      Takes s (.drained teardown) teardown

/-- The step may add the entry to the history. -/
inductive Emits (s : Engine) : Event → Obs → Prop where
  | notified (event : Event) (status : Status) (driving : Bool) : Emits s event (.notified status driving)
  | flushed (event : Event) : Emits s event .flushed
  | frameWrote (data : Bytes) (channel : ChannelColor) (colorSpace : Nat) (free : s.suppressed = false) :
      Emits s (.frame data) (.frameWrote channel colorSpace)
  | frameKept (data : Bytes) (channel : ChannelColor) (colorSpace : Nat) (against : Option Nat)
      (free : s.suppressed = false) : Emits s (.frame data) (.frameKept channel colorSpace against)
  | putWrote {lightId : Nat} {body : Json} {slot : ServiceData × List Write}
      (accepted : Accepts s lightId body slot) : Emits s (.command lightId body) (.putWrote lightId)
  | dropped {drain : DrainId} {channelId : ChannelId} (outcome : Outcome)
      (gone : available s channelId = false) : Emits s (.drain drain outcome) (.dropped channelId)
  | callBegun {drain : DrainId} {pc : DrainPc} {call : Call} {data : ServiceData} (outcome : Outcome)
      (found : s.drains drain = some ⟨pc, false⟩) (live : pc ≠ .done)
      (dirty : (s.mapping call.channelId).dirty = true)
      (pending : (s.mapping call.channelId).pendingData = some data)
      (same : call = s.callOf call.channelId (s.mapping call.channelId) data) :
      Emits s (.drain drain outcome) (.callBegun drain call s.now)
  | callEnded {drain : DrainId} {call : Call} {rest : List ChannelId} {cancelling : Bool}
      (outcome ended : Outcome) (found : s.drains drain = some ⟨.calling call rest, cancelling⟩) :
      Emits s (.drain drain outcome) (.callEnded drain call ended)
  | sessionBegun (opens : Opens s) : Emits s .snapshot (.sessionBegun (freshSnapshot s))
  | sessionEnded (active : s.active = true) : Emits s .restore (.sessionEnded s.nextTeardown s.sessions)
  | savedTaken {event : Event} {teardown : TeardownId} (takes : Takes s event teardown) :
      Emits s event (.savedTaken teardown s.savedStates)
  | reproduceBegun {event : Event} {teardown : TeardownId} {saved : Snapshot}
      (takes : Takes s event teardown) (found : s.savedStates = some saved) (nonempty : saved.states ≠ []) :
      Emits s event (.reproduceBegun teardown saved)
  | reproduceEnded {teardown : TeardownId} {saved : Snapshot} (outcome : Outcome)
      (found : s.teardowns teardown = some (.reproducing saved)) :
      Emits s (.reproduced teardown outcome) (.reproduceEnded teardown outcome)
  | released (seconds : ℚ) : Emits s (.release seconds) .released

/-- The history of `t` is that of `s` with entries the event may add in `s`. -/
def Adds (s : Engine) (event : Event) (t : Engine) : Prop :=
  ∃ new, t.log = new ++ s.log ∧ ∀ entry ∈ new, Emits s event entry

theorem Emits.notices {s : Engine} {event : Event} {entries : List Obs} (notices : Notices entries)
    {entry : Obs} (member : entry ∈ entries) : Emits s event entry := by
  obtain ⟨status, driving, rfl⟩ := notices entry member
  exact .notified event status driving

theorem started_adds {s t : Engine} {event : Event} {entries : List Obs} (notices : Notices entries)
    (adds : Adds s event t) : Adds s event (started t entries) := by
  obtain ⟨new, logged, emits⟩ := adds
  refine ⟨entries ++ new, ?_, ?_⟩
  · have grown : (started t entries).log = entries ++ t.log := rfl
    rw [grown, logged, List.append_assoc]
  · intro entry member
    rcases List.mem_append.mp member with member | member
    · exact .notices notices member
    · exact emits entry member

theorem queued_adds {s : Engine} {lightId : Nat} {body : Json} {slot : ServiceData × List Write}
    (accepted : Accepts s lightId body slot) : Adds s (.command lightId body) (queued s lightId slot) := by
  refine ⟨[.putWrote lightId], rfl, ?_⟩
  intro entry member
  exact List.mem_singleton.mp member ▸ .putWrote accepted

theorem sessionOpened_adds {s : Engine} {forcing : Bool} {cancel : Option TimerId}
    {timers : TimerId → Option Timer} {first entries : List Obs}
    (unholds : Unholds s forcing cancel timers first) (notices : Notices entries) :
    Adds s .snapshot (sessionOpened (unheld s forcing cancel timers first) entries) := by
  have notices' : Notices first := by
    cases unholds with
    | release releasing notices => exact notices
    | fresh unreleased inactive => exact .nil
  refine ⟨entries ++ .flushed :: .sessionBegun (freshSnapshot s) :: first, ?_, ?_⟩
  · simp only [sessionOpened, unheld, List.append_assoc, List.cons_append]
    rfl
  · intro entry member
    simp only [List.mem_append, List.mem_cons] at member
    rcases member with member | rfl | rfl | member
    · exact .notices notices member
    · exact .flushed _
    · exact .sessionBegun (opens_of_unholds unholds)
    · exact .notices notices' member

theorem sessionClosed_adds {s : Engine} {entries : List Obs} (active : s.active = true)
    (notices : Notices entries) : Adds s .restore (sessionClosed s entries) := by
  refine ⟨entries ++ [.sessionEnded s.nextTeardown s.sessions], ?_, ?_⟩
  · simp only [sessionClosed, List.append_assoc, List.singleton_append]
  · intro entry member
    rcases List.mem_append.mp member with member | member
    · exact .notices notices member
    · exact List.mem_singleton.mp member ▸ .sessionEnded active

/-- What a teardown adds when it takes the saved states of `s`. -/
theorem took_adds {s t : Engine} {event : Event} {teardown : TeardownId} {entries : List Obs}
    (takes : Takes s event teardown) (same : t.savedStates = s.savedStates) (notices : Notices entries)
    (adds : Adds s event t) : Adds s event (took t teardown entries) := by
  obtain ⟨new, logged, emits⟩ := adds
  refine ⟨(afterTaking teardown s.savedStates).2 ++
    .flushed :: .savedTaken teardown s.savedStates :: (entries ++ new), ?_, ?_⟩
  · simp only [took, same, logged, List.append_assoc, List.cons_append]
  · intro entry member
    simp only [List.mem_append, List.mem_cons] at member
    rcases member with member | rfl | rfl | member | member
    · unfold afterTaking at member
      cases found : s.savedStates with
      | none => simp [found] at member
      | some saved =>
        by_cases empty : saved.states = []
        · simp [found, empty] at member
        · simp only [found, if_neg empty, List.mem_singleton] at member
          exact member ▸ .reproduceBegun takes found empty
    · exact .flushed _
    · exact .savedTaken takes
    · exact .notices notices member
    · exact emits entry member

theorem Leaves.notices {s : Engine} {begun : Option Call} {pc : DrainPc} {running : Bool}
    {entries : List Obs} (leaves : Leaves s begun pc running entries) : Notices entries := by
  cases begun with
  | some call =>
    obtain ⟨_, _, none⟩ := leaves
    exact none ▸ .nil
  | none =>
    rcases leaves with ⟨_, _, none⟩ | ⟨_, _, _, notices⟩
    · exact none ▸ .nil
    · exact notices

/-- The entry neither begins a session nor ends a call. -/
def silent : Obs → Bool
  | .sessionBegun _ | .callEnded _ _ _ => false
  | _ => true

theorem Notices.silent {entries : List Obs} (notices : Notices entries) : ∀ entry ∈ entries, silent entry = true := by
  intro entry member
  obtain ⟨status, driving, rfl⟩ := notices entry member
  rfl

theorem FrameEntries.silent {entries : List Obs} (wrote : FrameEntries entries) :
    ∀ entry ∈ entries, silent entry = true := by
  intro entry member
  rcases wrote entry member with ⟨channel, colorSpace, rfl⟩ | ⟨channel, colorSpace, against, rfl⟩
  · rfl
  · rfl

/-- What a pass adds after the end of the call its task was in is silent. -/
theorem swept_log {s : Engine} {drain : DrainId} {after : DrainPc} {mapping : ChannelId → LightMapping}
    {stats : Stats} {wake running : Bool} {begun : Option Call} {drops entries : List Obs}
    (sweep : Sweep s mapping drops begun) (leaves : Leaves s begun after running entries) (log : List Obs) :
    ∃ quiet, (∀ entry ∈ quiet, silent entry = true) ∧
      (swept { s with log := log } drain mapping stats wake begun drops after running entries).log = quiet ++ log := by
  refine ⟨entries ++ (begunEntries drain begun s.now ++ drops), ?_, ?_⟩
  · intro entry member
    simp only [List.mem_append] at member
    rcases member with member | member | member
    · exact Notices.silent (Leaves.notices leaves) entry member
    · cases begun with
      | none => cases member
      | some call =>
        rw [List.mem_singleton.mp member]
        rfl
    · obtain ⟨dropped, rfl, _⟩ := sweep.absent entry member
      rfl
  · simp only [swept, List.append_assoc]

theorem endedEntries_emits {s : Engine} {drain : DrainId} {pc : DrainPc} {cancelling : Bool}
    (found : s.drains drain = some ⟨pc, cancelling⟩) (outcome ended : Outcome) :
    ∀ entry ∈ endedEntries drain pc ended, Emits s (.drain drain outcome) entry := by
  intro entry member
  cases pc with
  | calling call rest => exact List.mem_singleton.mp member ▸ .callEnded outcome ended found
  | created => exact absurd member List.not_mem_nil
  | waiting idleSince => exact absurd member List.not_mem_nil
  | done => exact absurd member List.not_mem_nil

theorem drain_adds {s t : Engine} {drain : DrainId} {outcome : Outcome}
    (move : DrainMove s drain outcome t) : Adds s (.drain drain outcome) t := by
  cases move with
  | neverEntered found => exact ⟨[], rfl, by simp⟩
  | @unwound pc found live entries notices =>
    refine ⟨entries ++ endedEntries drain pc .cancelled, by rw [List.append_assoc], ?_⟩
    intro entry member
    rcases List.mem_append.mp member with member | member
    · exact .notices notices member
    · exact endedEntries_emits found _ _ entry member
  | @ran pc after mapping stats wake running begun drops entries found live ended sweep leaves =>
    refine ⟨entries ++ (begunEntries drain begun s.now ++ (drops ++ endedEntries drain pc outcome)), ?_, ?_⟩
    · simp only [swept, List.append_assoc]
    · intro entry member
      simp only [List.mem_append] at member
      rcases member with member | member | member | member
      · exact .notices (Leaves.notices leaves) member
      · cases begun with
        | none => exact absurd member List.not_mem_nil
        | some call =>
          obtain ⟨dirty, _, data, pending, same⟩ := sweep.call call rfl
          exact List.mem_singleton.mp member ▸ .callBegun outcome found live dirty pending same
      · obtain ⟨channelId, rfl, gone⟩ := sweep.absent entry member
        exact .dropped outcome gone
      · exact endedEntries_emits found _ _ entry member

/-- A step whose new entries are all notifications. -/
theorem adds_notices {s t : Engine} {event : Event} {entries : List Obs} (notices : Notices entries)
    (logged : t.log = entries ++ s.log) : Adds s event t :=
  ⟨entries, logged, fun _ member => .notices notices member⟩

theorem move_adds {s t : Engine} {event : Event} (move : Move s event t) : Adds s event t := by
  cases move with
  | @frame data mapping wake stats last entries wrote held same =>
    refine ⟨entries, rfl, ?_⟩
    intro entry member
    have free : s.suppressed = false := by
      by_contra suppressed
      have none := (held (by simpa using suppressed)).2
      rw [none] at member
      exact absurd member List.not_mem_nil
    rcases wrote entry member with ⟨channel, colorSpace, rfl⟩ | ⟨channel, colorSpace, against, rfl⟩
    · exact .frameWrote data channel colorSpace free
    · exact .frameKept data channel colorSpace against free
  | commandKept rejected => exact adds_notices .nil rfl
  | commandJoined accepted running => exact queued_adds accepted
  | commandStarted accepted idle notices => exact started_adds notices (queued_adds accepted)
  | snapshotKept closed => exact adds_notices .nil rfl
  | snapshotJoined unholds notices running => exact sessionOpened_adds unholds notices
  | snapshotStarted unholds notices idle notices' => exact started_adds notices' (sessionOpened_adds unholds notices)
  | restoreKept inactive => exact adds_notices .nil rfl
  | restoreSuspended active waits notices => exact sessionClosed_adds active notices
  | restoreTook active free notices notices' =>
    exact took_adds (.atOnce active free) rfl notices' (sessionClosed_adds active notices)
  | pauseKept releasing => exact adds_notices .nil rfl
  | @paused seconds entries unreleased notices =>
    refine ⟨entries ++ [.flushed], by simp [pausing], ?_⟩
    intro entry member
    rcases List.mem_append.mp member with member | member
    · exact .notices notices member
    · exact List.mem_singleton.mp member ▸ .flushed _
  | resumeKept => exact adds_notices .nil rfl
  | resumed unreleased notices => exact adds_notices notices rfl
  | @released seconds entries notices =>
    refine ⟨entries ++ [.released, .flushed], by simp [releasing], ?_⟩
    intro entry member
    simp only [List.mem_append, List.mem_cons, List.not_mem_nil, or_false] at member
    rcases member with member | rfl | rfl
    · exact .notices notices member
    · exact .released seconds
    · exact .flushed _
  | pauseExpired pending notices => exact adds_notices notices rfl
  | graceStale pending unreleased => exact adds_notices .nil rfl
  | graceEnded pending releasing inactive notices => exact adds_notices notices rfl
  | graceForced pending releasing active notices => exact adds_notices notices rfl
  | drain move => exact drain_adds move
  | drained found finished notices => exact took_adds (.drained found finished) rfl notices (adds_notices .nil rfl)
  | @reproduced teardown saved outcome found =>
    refine ⟨[.reproduceEnded teardown outcome], rfl, ?_⟩
    intro entry member
    exact List.mem_singleton.mp member ▸ .reproduceEnded outcome found
  | tick forward => exact adds_notices .nil rfl
  | setState => exact adds_notices .nil rfl

/-- Every entry that a run adds was added by one of its steps. -/
theorem run_adds {ok : Engine → Event → Prop} {s t : Engine} {events : List Event}
    (run : Run machine ok s events t) :
    ∃ new, t.log = new ++ s.log ∧ ∀ entry ∈ new, ∃ before mid event,
      Run machine ok s before mid ∧ ok mid event ∧ Emits mid event entry :=
  run.emitted Engine.log Emits (fun _ _ _ step => move_adds (step_move step))

/-- The step begins a session. -/
def Begins (s : Engine) (event : Event) : Prop := event = .snapshot ∧ Opens s

/-- Sessions are numbered in order, and only the start of one saves states. -/
theorem session_step {s t : Engine} {event : Event} (move : Move s event t) :
    (¬Begins s event ∧ t.sessions = s.sessions ∧ (t.savedStates = s.savedStates ∨ t.savedStates = none)) ∨
    (Begins s event ∧ t.sessions = s.sessions + 1 ∧ t.savedStates = some (freshSnapshot s) ∧
      .sessionBegun (freshSnapshot s) ∈ t.log) := by
  have opened : ∀ forcing cancel timers first entries, .sessionBegun (freshSnapshot s) ∈
      (sessionOpened (unheld s forcing cancel timers first) entries).log := by
    intro forcing cancel timers first entries
    exact List.mem_append_right _ (List.mem_cons_of_mem _ List.mem_cons_self)
  cases move with
  | snapshotKept closed => exact .inl ⟨fun begins => closed begins.2, rfl, .inl rfl⟩
  | snapshotJoined unholds notices running =>
    exact .inr ⟨⟨rfl, opens_of_unholds unholds⟩, rfl, rfl, opened _ _ _ _ _⟩
  | snapshotStarted unholds notices idle notices' =>
    exact .inr ⟨⟨rfl, opens_of_unholds unholds⟩, rfl, rfl, List.mem_append_right _ (opened _ _ _ _ _)⟩
  | restoreTook active free notices notices' => exact .inl ⟨by simp [Begins], rfl, .inr rfl⟩
  | released notices => exact .inl ⟨by simp [Begins], rfl, .inr rfl⟩
  | drained found finished notices => exact .inl ⟨by simp [Begins], rfl, .inr rfl⟩
  | drain move =>
    obtain ⟨_, _, _, _, _, _, rfl⟩ := move.frame
    exact .inl ⟨by simp [Begins], rfl, .inl rfl⟩
  | _ => exact .inl ⟨by simp [Begins], rfl, .inl rfl⟩

theorem begun_le {ok : Engine → Event → Prop} {s : Engine} (reached : Reachable machine ok s) :
    ∀ saved, .sessionBegun saved ∈ s.log → saved.session ≤ s.sessions := by
  refine reached.invariant (fun x => ∀ saved, .sessionBegun saved ∈ x.log → saved.session ≤ x.sessions) ?_ ?_
  · rintro s ⟨lights, states, now, rfl⟩ saved member
    exact absurd member List.not_mem_nil
  · intro x event y numbered _ step saved member
    obtain ⟨new, logged, emits⟩ := move_adds (step_move step)
    have next := session_step (step_move step)
    rw [logged] at member
    rcases List.mem_append.mp member with member | member
    · cases emits _ member with
      | sessionBegun opens =>
        rcases next with ⟨none, _⟩ | ⟨_, next, _⟩
        · exact absurd ⟨rfl, opens⟩ none
        · exact Nat.le_of_eq next.symm
    · have before := numbered saved member
      rcases next with ⟨_, same, _⟩ | ⟨_, next, _⟩ <;> omega

/-- The entry begins a call that passes the test. -/
def begins (test : Call → Bool) : Obs → Bool
  | .callBegun _ call _ => test call
  | _ => false

theorem begins_iff {test : Call → Bool} {entry : Obs} :
    begins test entry = true ↔ ∃ drain call begun, entry = .callBegun drain call begun ∧ test call = true := by
  constructor
  · intro begun
    cases entry with
    | callBegun drain call time => exact ⟨drain, call, time, rfl, begun⟩
    | _ => cases begun
  · rintro ⟨drain, call, begun, rfl, passed⟩
    exact passed

end HueEntertainment.EngineHistory
