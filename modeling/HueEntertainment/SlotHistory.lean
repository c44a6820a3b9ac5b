import HueEntertainment.EngineSlots
import Mathlib.Logic.Relation

/-! The slots of the engine together with its history. Each step of the engine is a sequence of small
changes of the two: a write, a flush, a slot taken into a call, dropped or discarded, or an entry that
says nothing of the slots. -/

namespace HueEntertainment.SlotHistory
open HueEntertainment.Const HueStream LightCommand PyValue Entertainment EngineSteps EngineFrames DrainSteps EngineMoves
  EngineHistory EngineSlots Runs

/-- The part of the engine that is about its slots. -/
structure Slots where
  mapping : ChannelId → LightMapping
  log : List Obs

def slotsOf (s : Engine) : Slots := ⟨s.mapping, s.log⟩

/-- The entry says nothing of the slots. -/
def aside : Obs → Bool
  | .flushed | .frameWrote _ _ | .putWrote _ | .dropped _ | .callBegun _ _ _ => false
  | _ => true

/-- One change of the slots in a step from `s`. -/
inductive Change (s : Engine) (event : Event) : Slots → Slots → Prop where
  | noted {x : Slots} (entry : Obs) (quiet : aside entry = true) : Change s event x ⟨x.mapping, entry :: x.log⟩
  | flushed {x : Slots} (unframed : ∀ data, event ≠ .frame data) :
      Change s event x ⟨fun channelId => (x.mapping channelId).forget, .flushed :: x.log⟩
  | wrote {x : Slots} {data : Bytes} {frame : Frame} {channel : ChannelColor} (same : event = .frame data)
      (parsed : parseHuestreamFrame data = .ok (some frame)) (member : channel ∈ frame.channels)
      (free : s.suppressed = false) (mapped : channel.channelId ∈ s.channels)
      (outside : (x.mapping channel.channelId).withinTolerance channel frame.colorSpace = false) :
      Change s event x ⟨Function.update x.mapping channel.channelId
        ((x.mapping channel.channelId).schedule channel frame.colorSpace), .frameWrote channel frame.colorSpace :: x.log⟩
  | queued {channelId : ChannelId} {body : Json} {slot : ServiceData × List Write}
      (same : event = .command channelId body) (accepted : Accepts s channelId body slot) :
      Change s event (slotsOf s) ⟨Function.update s.mapping channelId ((s.mapping channelId).queue slot),
        .putWrote channelId :: s.log⟩
  | discarded {x : Slots} {drain : DrainId} {outcome : Outcome} {channelId : ChannelId}
      (same : event = .drain drain outcome) (dirty : (x.mapping channelId).dirty = true)
      (empty : (x.mapping channelId).pendingData = none) :
      Change s event x ⟨Function.update x.mapping channelId (x.mapping channelId).grab, x.log⟩
  | dropped {x : Slots} {drain : DrainId} {outcome : Outcome} {channelId : ChannelId}
      (same : event = .drain drain outcome) (dirty : (x.mapping channelId).dirty = true) (logged : Bool) :
      Change s event x ⟨Function.update x.mapping channelId ((x.mapping channelId).grab.noted logged),
        .dropped channelId :: x.log⟩
  | begun {x : Slots} {drain : DrainId} {outcome : Outcome} {channelId : ChannelId} {data : ServiceData}
      (same : event = .drain drain outcome) (dirty : (x.mapping channelId).dirty = true)
      (pending : (x.mapping channelId).pendingData = some data) (logged : Bool) :
      Change s event x ⟨Function.update x.mapping channelId (((x.mapping channelId).grab.noted logged).sentAt s.now),
        .callBegun drain (s.callOf channelId (x.mapping channelId) data) s.now :: x.log⟩

def Changes (s : Engine) (event : Event) : Slots → Slots → Prop := Relation.ReflTransGen (Change s event)

/-- What every change keeps, a step keeps. -/
theorem Changes.invariant {s : Engine} {event : Event} {x y : Slots} (changes : Changes s event x y)
    (inv : Slots → Prop) (kept : ∀ x y, inv x → Change s event x y → inv y) (held : inv x) : inv y := by
  induction changes with
  | refl => exact held
  | tail _ change ih => exact kept _ _ ih change

theorem Changes.refl {s : Engine} {event : Event} (x : Slots) : Changes s event x x := Relation.ReflTransGen.refl

theorem Changes.trans {s : Engine} {event : Event} {x y z : Slots} (first : Changes s event x y)
    (second : Changes s event y z) : Changes s event x z := Relation.ReflTransGen.trans first second

theorem Change.changes {s : Engine} {event : Event} {x y : Slots} (change : Change s event x y) :
    Changes s event x y := Relation.ReflTransGen.single change

/-- Entries that say nothing of the slots. -/
theorem Changes.notes {s : Engine} {event : Event} {entries : List Obs} (quiet : ∀ entry ∈ entries, aside entry = true)
    (mapping : ChannelId → LightMapping) (log : List Obs) :
    Changes s event ⟨mapping, log⟩ ⟨mapping, entries ++ log⟩ := by
  induction entries with
  | nil => exact .refl _
  | cons entry rest ih =>
    have first := ih (fun entry member => quiet entry (List.mem_cons_of_mem _ member))
    exact first.trans (Change.noted entry (quiet entry List.mem_cons_self)).changes

theorem Notices.aside {entries : List Obs} (notices : Notices entries) : ∀ entry ∈ entries, aside entry = true := by
  intro entry member
  obtain ⟨status, driving, rfl⟩ := notices entry member
  rfl

theorem Changes.notices {s : Engine} {event : Event} {entries : List Obs} (notices : Notices entries)
    (mapping : ChannelId → LightMapping) (log : List Obs) :
    Changes s event ⟨mapping, log⟩ ⟨mapping, entries ++ log⟩ :=
  .notes (Notices.aside notices) mapping log

theorem afterTaking_aside (teardown : TeardownId) (saved : Option Snapshot) :
    ∀ entry ∈ (afterTaking teardown saved).2, aside entry = true := by
  intro entry member
  rcases saved with _ | ⟨session, states⟩
  · cases member
  · by_cases empty : states = []
    · simp [afterTaking, empty] at member
    · simp only [afterTaking, if_neg empty, List.mem_singleton] at member
      rw [member]
      rfl

/-- A teardown that takes the saved states. -/
theorem took_changes {s t : Engine} {event : Event} (teardown : TeardownId) {entries : List Obs} (notices : Notices entries)
    (unframed : ∀ data, event ≠ .frame data) (before : Changes s event (slotsOf s) (slotsOf t)) :
    Changes s event (slotsOf s) (slotsOf (took t teardown entries)) := by
  have first := before.trans (Changes.notices notices t.mapping t.log)
  have second := first.trans (Change.noted (.savedTaken teardown t.savedStates) rfl).changes
  have third := second.trans (Change.flushed unframed).changes
  exact third.trans (Changes.notes (afterTaking_aside teardown t.savedStates) _ _)

theorem started_changes {s t : Engine} {event : Event} {entries : List Obs} (notices : Notices entries)
    (before : Changes s event (slotsOf s) (slotsOf t)) :
    Changes s event (slotsOf s) (slotsOf (started t entries)) :=
  before.trans (Changes.notices notices t.mapping t.log)

theorem queued_changes {s : Engine} {lightId : Nat} {body : Json} {slot : ServiceData × List Write}
    (accepted : Accepts s lightId body slot) :
    Changes s (.command lightId body) (slotsOf s) (slotsOf (queued s lightId slot)) :=
  (Change.queued rfl accepted).changes

theorem sessionOpened_changes {s : Engine} {forcing : Bool} {cancel : Option TimerId} {timers : TimerId → Option Timer}
    {first entries : List Obs} (unholds : Unholds s forcing cancel timers first) (notices : Notices entries) :
    Changes s .snapshot (slotsOf s) (slotsOf (sessionOpened (unheld s forcing cancel timers first) entries)) := by
  have before : Notices first := by
    cases unholds with
    | release releasing notices => exact notices
    | fresh unreleased inactive => exact .nil
  have resolved : Changes s .snapshot (slotsOf s) (slotsOf (unheld s forcing cancel timers first)) :=
    .notices before s.mapping s.log
  have begun := resolved.trans
    (Change.noted (.sessionBegun (freshSnapshot (unheld s forcing cancel timers first))) rfl).changes
  exact (begun.trans (Change.flushed (by simp)).changes).trans (Changes.notices notices _ _)

theorem sessionClosed_changes {s : Engine} {event : Event} {entries : List Obs} (notices : Notices entries) :
    Changes s event (slotsOf s) (slotsOf (sessionClosed s entries)) :=
  (Change.noted (.sessionEnded s.nextTeardown s.sessions) rfl).changes.trans
    (Changes.notices notices _ _)

/-- One channel of a frame. -/
theorem scheduleUpdate_changes {s : Engine} {data : Bytes} {frame : Frame} {channel : ChannelColor}
    (parsed : parseHuestreamFrame data = .ok (some frame)) (member : channel ∈ frame.channels)
    (free : s.suppressed = false) {x : Engine} (channels : x.channels = s.channels) :
    Changes s (.frame data) (slotsOf x) (slotsOf (x.scheduleUpdate channel frame.colorSpace)) := by
  rcases scheduleUpdate_cases x channel frame.colorSpace with ⟨_, same⟩ | ⟨_, _, same⟩ | ⟨mapped, outside, same⟩
  · rw [same]
    exact .refl _
  · rw [same]
    exact (Change.noted (.frameKept channel frame.colorSpace (x.mapping channel.channelId).lastSpace) rfl).changes
  · rw [same]
    have known : channel.channelId ∈ s.channels := by
      rw [← channels]
      exact mapped
    have change : Change s (.frame data) (slotsOf x) (slotsOf (scheduled x channel frame.colorSpace)) :=
      .wrote rfl parsed member free known outside
    exact change.changes

theorem handleFrame_changes (s : Engine) (data : Bytes) :
    Changes s (.frame data) (slotsOf s) (slotsOf (s.handleFrame data)) := by
  unfold Engine.handleFrame
  rcases parsed : parseHuestreamFrame data with error | frame | frame
  · exact .refl _
  · exact .refl _
  · have counted : s.countFrame.suppressed = s.suppressed := rfl
    by_cases suppressed : s.suppressed = true
    · simp only [counted, if_pos suppressed]
      exact .refl _
    · simp only [counted, if_neg suppressed]
      have free : s.suppressed = false := eq_false_of_ne_true suppressed
      have all : ∀ (rest : List ChannelColor) (x : Engine), (∀ channel ∈ rest, channel ∈ frame.channels) →
          x.channels = s.channels → Changes s (.frame data) (slotsOf x)
            (slotsOf (rest.foldl (fun s channel => s.scheduleUpdate channel frame.colorSpace) x)) := by
        intro rest
        induction rest with
        | nil => exact fun _ _ _ => .refl _
        | cons channel rest ih =>
          intro x members channels
          have first := scheduleUpdate_changes parsed (members channel List.mem_cons_self) free channels
          obtain ⟨mapping, wake, entries, _, after⟩ := scheduleUpdate_eq x channel frame.colorSpace
          have still : (x.scheduleUpdate channel frame.colorSpace).channels = s.channels := by
            rw [after]
            exact channels
          exact first.trans (ih _ (fun other member => members other (List.mem_cons_of_mem _ member)) still)
      exact all frame.channels s.countFrame (fun _ member => member) rfl

/-- A pass goes through the slots one after the other, up to the first call it begins. -/
theorem scan_changes {s : Engine} {drain : DrainId} {outcome : Outcome} (channels : List ChannelId) {x : Engine}
    (now : x.now = s.now) :
    Changes s (.drain drain outcome) (slotsOf x) (slotsOf (x.scan drain channels).1) := by
  induction channels generalizing x with
  | nil => exact .refl _
  | cons channelId rest ih =>
    unfold Engine.scan
    by_cases dirty : (x.mapping channelId).dirty = true
    · simp only [if_pos dirty]
      cases pending : (x.mapping channelId).pendingData with
      | none =>
        simp only []
        have first : Changes s (.drain drain outcome) (slotsOf x)
            (slotsOf (x.setMapping channelId (x.mapping channelId).grab)) := (Change.discarded rfl dirty pending).changes
        exact first.trans (ih now)
      | some data =>
        simp only []
        obtain ⟨_, logged, seen⟩ := lightAvailable_grab x (x.mapping channelId)
        by_cases gone : (x.lightAvailable (x.mapping channelId).grab).1 = true
        · simp only [if_pos gone, seen]
          have called : x.callOf channelId (x.mapping channelId) data = s.callOf channelId (x.mapping channelId) data := by
            unfold Engine.callOf
            rw [now]
          have change : Change s (.drain drain outcome) (slotsOf x)
              ⟨Function.update x.mapping channelId (((x.mapping channelId).grab.noted logged).sentAt x.now),
                .callBegun drain (x.callOf channelId (x.mapping channelId) data) x.now :: x.log⟩ := by
            rw [called, now]
            exact .begun rfl dirty pending logged
          exact change.changes
        · simp only [if_neg gone, seen]
          have first : Changes s (.drain drain outcome) (slotsOf x) (slotsOf ((x.setMapping channelId
              ((x.mapping channelId).grab.noted logged)).observe (.dropped channelId))) :=
            (Change.dropped rfl dirty logged).changes
          exact first.trans (ih now)
    · simp only [if_neg dirty]
      exact ih now

theorem drainFinally_changes {s : Engine} {event : Event} (x : Engine) (drain : DrainId) :
    Changes s event (slotsOf x) (slotsOf (x.drainFinally drain)) :=
  (Change.noted (.notified _ _) rfl).changes

theorem drainPass_changes {s : Engine} {drain : DrainId} {outcome : Outcome} {x : Engine} (now : x.now = s.now)
    (idleSince : Option ℚ) :
    Changes s (.drain drain outcome) (slotsOf x) (slotsOf (x.drainPass drain idleSince)) := by
  have quiet : ({ x with wake := false } : Engine).now = s.now := now
  have scanned : Changes s (.drain drain outcome) (slotsOf x)
      (slotsOf (Engine.scan { x with wake := false } drain x.channels).1) := scan_changes x.channels quiet
  unfold Engine.drainPass
  rcases found : Engine.scan { x with wake := false } drain x.channels with ⟨next, _ | ⟨call, rest⟩⟩
  · rw [found] at scanned
    simp only []
    cases next.active with
    | true => exact scanned
    | false =>
      cases idleSince with
      | none => exact scanned
      | some since =>
        by_cases finished : classicDrainIdle < next.now - since
        · simp only [Bool.false_eq_true, if_false, if_pos finished]
          exact scanned.trans (drainFinally_changes next drain)
        · simp only [Bool.false_eq_true, if_false, if_neg finished]
          exact scanned
  · rw [found] at scanned
    exact scanned

theorem scan_now (drain : DrainId) (channels : List ChannelId) (x : Engine) : (x.scan drain channels).1.now = x.now := by
  obtain ⟨mapping, stats, drops, _, same⟩ := scan_eq drain channels x
  rw [same]

theorem drainAfterCall_changes {s : Engine} {drain : DrainId} {outcome : Outcome} {x : Engine} (now : x.now = s.now)
    (rest : List ChannelId) :
    Changes s (.drain drain outcome) (slotsOf x) (slotsOf (x.drainAfterCall drain rest)) := by
  have scanned : Changes s (.drain drain outcome) (slotsOf x) (slotsOf (x.scan drain rest).1) := scan_changes rest now
  have kept := (scan_now drain rest x).trans now
  unfold Engine.drainAfterCall
  rcases found : x.scan drain rest with ⟨next, _ | ⟨call, later⟩⟩
  · rw [found] at scanned kept
    exact scanned.trans (drainPass_changes kept none)
  · rw [found] at scanned
    exact scanned

theorem drainStep_changes {s t : Engine} {drain : DrainId} {outcome : Outcome}
    (step : s.drainStep drain outcome = some t) : Changes s (.drain drain outcome) (slotsOf s) (slotsOf t) := by
  have ended : ∀ call outcome', Changes s (.drain drain outcome) (slotsOf s)
      (slotsOf (s.observe (.callEnded drain call outcome'))) :=
    fun call outcome' => (Change.noted (.callEnded drain call outcome') rfl).changes
  unfold Engine.drainStep at step
  rcases found : s.drains drain with _ | ⟨pc, cancelling⟩
  · simp [found] at step
  · cases cancelling with
    | true =>
      cases pc with
      | created =>
        simp only [found, Option.some.injEq] at step
        rw [← step]
        exact .refl _
      | calling call rest =>
        simp only [found, Option.some.injEq] at step
        rw [← step]
        exact (ended call .cancelled).trans (drainFinally_changes _ drain)
      | waiting idleSince =>
        simp only [found, Option.some.injEq] at step
        rw [← step]
        exact drainFinally_changes s drain
      | done => simp [found] at step
    | false =>
      cases pc with
      | created =>
        simp only [found, Option.some.injEq] at step
        rw [← step]
        exact drainPass_changes rfl none
      | calling call rest =>
        by_cases finished : outcome = .returned ∨ outcome = .raised
        · simp only [found, if_pos finished, Option.some.injEq] at step
          have same : (s.observe (.callEnded drain call outcome)).now = s.now := rfl
          rw [← step]
          exact (ended call outcome).trans (drainAfterCall_changes same rest)
        · simp [found, if_neg finished] at step
      | waiting idleSince =>
        simp only [found, Option.some.injEq] at step
        rw [← step]
        exact drainPass_changes rfl idleSince
      | done => simp [found] at step

/-- Every step of the engine is a sequence of changes of its slots and its history. -/
theorem step_changes {s t : Engine} {event : Event} (step : machine.step s event = some t) :
    Changes s event (slotsOf s) (slotsOf t) := by
  cases step_move step with
  | frame wrote held same =>
    rw [← same]
    exact handleFrame_changes s _
  | commandKept rejected => exact .refl _
  | commandJoined accepted running => exact queued_changes accepted
  | commandStarted accepted idle notices => exact started_changes notices (queued_changes accepted)
  | snapshotKept closed => exact .refl _
  | snapshotJoined unholds notices running => exact sessionOpened_changes unholds notices
  | snapshotStarted unholds notices idle notices' =>
    exact started_changes notices' (sessionOpened_changes unholds notices)
  | restoreKept inactive => exact .refl _
  | restoreSuspended active waits notices => exact sessionClosed_changes notices
  | restoreTook active free notices notices' => exact took_changes _ notices' (by simp) (sessionClosed_changes notices)
  | pauseKept releasing => exact .refl _
  | paused unreleased notices => exact (Change.flushed (by simp)).changes.trans (.notices notices _ _)
  | resumeKept => exact .refl _
  | resumed unreleased notices => exact .notices notices _ _
  | released notices =>
    exact ((Change.flushed (by simp)).changes.trans (Change.noted .released rfl).changes).trans (.notices notices _ _)
  | pauseExpired pending notices => exact .notices notices _ _
  | graceStale pending unreleased => exact .refl _
  | graceEnded pending releasing inactive notices => exact .notices notices _ _
  | graceForced pending releasing active notices => exact .notices notices _ _
  | drain move => exact drainStep_changes step
  | drained found finished notices => exact took_changes _ notices (by simp) (.refl _)
  | reproduced found => exact (Change.noted (.reproduceEnded _ _) rfl).changes
  | tick forward => exact .refl _
  | setState => exact .refl _

end HueEntertainment.SlotHistory
