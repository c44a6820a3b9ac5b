import HueEntertainment.EngineFrames
import HueEntertainment.TaskTable

/-! One step of a drain loop, between two suspensions: the slots it takes, the lights it finds
unavailable and the call it begins. A step runs through the rest of one pass and, when that pass
sent something, through a second one; both are the same kind of sweep over the slots. -/

namespace HueEntertainment.DrainSteps
open HueEntertainment.Const HueStream LightCommand PyValue Entertainment EngineSteps EngineFrames
  TaskTable

/-- Home Assistant does not report the mapped light unavailable. -/
def available (s : Engine) (channelId : ChannelId) : Bool :=
  !s.reportedUnavailable (s.mapping channelId).entityId

/-- The mapping of a light whose slot the loop has taken. -/
def Taken (before after : LightMapping) : Prop :=
  ∃ logged sent, after = (before.grab.noted logged).sentAt sent

theorem Taken.clean {before after : LightMapping} (taken : Taken before after) : after.dirty = false := by
  obtain ⟨logged, sent, rfl⟩ := taken
  rfl

theorem Taken.entityId {before after : LightMapping} (taken : Taken before after) :
    after.entityId = before.entityId := by
  obtain ⟨logged, sent, rfl⟩ := taken
  rfl

theorem lightAvailable_grab (s : Engine) (mapping : LightMapping) :
    (s.lightAvailable mapping.grab).1 = !s.reportedUnavailable mapping.entityId ∧
      ∃ logged, (s.lightAvailable mapping.grab).2 = mapping.grab.noted logged := by
  unfold Engine.lightAvailable
  have same : mapping.grab.entityId = mapping.entityId := rfl
  rw [same]
  cases s.reportedUnavailable mapping.entityId with
  | true => exact ⟨rfl, true, rfl⟩
  | false => exact ⟨rfl, false, rfl⟩

/-- A sweep over slots of `s`: the mappings it leaves, the lights it dropped and the call it begins. -/
structure Sweep (s : Engine) (mapping : ChannelId → LightMapping) (drops : List Obs)
    (begun : Option Call) : Prop where
  absent : ∀ entry ∈ drops, ∃ channelId, entry = .dropped channelId ∧ available s channelId = false
  light : ∀ channelId, mapping channelId = s.mapping channelId ∨
    ((s.mapping channelId).dirty = true ∧ Taken (s.mapping channelId) (mapping channelId) ∧
      (Obs.dropped channelId ∈ drops ∨ (∃ call, begun = some call ∧ call.channelId = channelId) ∨
        (s.mapping channelId).pendingData = none))
  call : ∀ call, begun = some call → (s.mapping call.channelId).dirty = true ∧
    (mapping call.channelId).dirty = false ∧
    ∃ data, (s.mapping call.channelId).pendingData = some data ∧
      call = s.callOf call.channelId (s.mapping call.channelId) data

theorem Sweep.refl (s : Engine) : Sweep s s.mapping [] none :=
  ⟨by simp, fun _ => .inl rfl, by simp⟩

/-- A slot that is dirty after a sweep is the slot from before it. -/
theorem Sweep.kept {s : Engine} {mapping : ChannelId → LightMapping} {drops : List Obs}
    {begun : Option Call} (sweep : Sweep s mapping drops begun) {channelId : ChannelId}
    (dirty : (mapping channelId).dirty = true) : mapping channelId = s.mapping channelId := by
  rcases sweep.light channelId with same | ⟨_, taken, _⟩
  · exact same
  · exact absurd taken.clean (by simp [dirty])

theorem Sweep.entityId {s : Engine} {mapping : ChannelId → LightMapping} {drops : List Obs}
    {begun : Option Call} (sweep : Sweep s mapping drops begun) (channelId : ChannelId) :
    (mapping channelId).entityId = (s.mapping channelId).entityId := by
  rcases sweep.light channelId with same | ⟨_, taken, _⟩
  · rw [same]
  · exact taken.entityId

/-- A sweep that began no call, followed by another one. -/
theorem Sweep.trans {s t : Engine} {mapping : ChannelId → LightMapping} {first second : List Obs}
    {begun : Option Call} (left : Sweep s t.mapping first none) (sameStates : t.states = s.states)
    (sameNow : t.now = s.now) (right : Sweep t mapping second begun) :
    Sweep s mapping (second ++ first) begun where
  absent := by
    intro entry member
    rcases List.mem_append.mp member with member | member
    · obtain ⟨channelId, rfl, gone⟩ := right.absent entry member
      refine ⟨channelId, rfl, ?_⟩
      simpa only [available, Engine.reportedUnavailable, sameStates, left.entityId channelId] using gone
    · exact left.absent entry member
  light := by
    intro channelId
    rcases right.light channelId with later | ⟨dirty, taken, why⟩
    · rcases left.light channelId with earlier | ⟨dirty, taken, why⟩
      · exact .inl (later.trans earlier)
      · refine .inr ⟨dirty, later ▸ taken, ?_⟩
        rcases why with dropped | ⟨call, none, _⟩ | empty
        · exact .inl (List.mem_append_right _ dropped)
        · cases none
        · exact .inr (.inr empty)
    · have kept := left.kept dirty
      rw [kept] at dirty taken why
      refine .inr ⟨dirty, taken, ?_⟩
      rcases why with dropped | called | empty
      · exact .inl (List.mem_append_left _ dropped)
      · exact .inr (.inl called)
      · exact .inr (.inr empty)
  call := by
    intro call some
    obtain ⟨dirty, clean, data, pending, same⟩ := right.call call some
    have kept := left.kept dirty
    rw [kept] at dirty pending same
    refine ⟨dirty, clean, data, pending, same.trans ?_⟩
    simp only [Engine.callOf, sameNow]

/-- The history entry of the call that a sweep begins. -/
def begunEntries (drain : DrainId) (begun : Option Call) (now : ℚ) : List Obs :=
  match begun with
  | some call => [.callBegun drain call now]
  | none => []

theorem scan_eq (drain : DrainId) (channels : List ChannelId) (s : Engine) :
    ∃ mapping stats drops, Sweep s mapping drops ((s.scan drain channels).2.map Prod.fst) ∧
      (s.scan drain channels).1 =
        { s with
          mapping := mapping, stats := stats
          log := begunEntries drain ((s.scan drain channels).2.map Prod.fst) s.now ++ (drops ++ s.log) } := by
  induction channels generalizing s with
  | nil => exact ⟨s.mapping, s.stats, [], .refl s, rfl⟩
  | cons channelId rest ih =>
    unfold Engine.scan
    by_cases dirty : (s.mapping channelId).dirty = true
    · simp only [if_pos dirty]
      cases pending : (s.mapping channelId).pendingData with
      | none =>
        simp only []
        have first : Sweep s (s.setMapping channelId (s.mapping channelId).grab).mapping [] none := by
          refine ⟨by simp, fun other => ?_, by simp⟩
          by_cases same : other = channelId
          · subst other
            have taken : Taken (s.mapping channelId) (s.mapping channelId).grab :=
              ⟨(s.mapping channelId).unavailableLogged, (s.mapping channelId).lastSent, rfl⟩
            refine .inr ⟨dirty, ?_, .inr (.inr pending)⟩
            rwa [Engine.setMapping_mapping, Function.update_self]
          · exact .inl (by rw [Engine.setMapping_mapping, Function.update_of_ne same])
        obtain ⟨mapping, stats, drops, sweep, same⟩ :=
          ih (s.setMapping channelId (s.mapping channelId).grab)
        exact ⟨mapping, stats, drops, by simpa using first.trans rfl rfl sweep, same⟩
      | some data =>
        simp only []
        obtain ⟨answer, logged, seen⟩ := lightAvailable_grab s (s.mapping channelId)
        by_cases gone : (s.lightAvailable (s.mapping channelId).grab).1 = true
        · simp only [if_pos gone]
          refine ⟨_, _, [], ⟨by simp, fun other => ?_, ?_⟩, rfl⟩
          · by_cases same : other = channelId
            · subst other
              refine .inr ⟨dirty, ⟨logged, s.now, ?_⟩, .inr (.inl ⟨_, rfl, rfl⟩)⟩
              rw [seen]
              exact Function.update_self _ _ _
            · exact .inl (Function.update_of_ne same _ _)
          · intro call begun
            simp only [Option.map_some, Option.some.injEq] at begun
            subst call
            refine ⟨dirty, ?_, data, pending, rfl⟩
            have taken : Taken (s.mapping channelId) ((s.mapping channelId).grab.noted logged |>.sentAt s.now) :=
              ⟨logged, s.now, rfl⟩
            rw [seen]
            change (Function.update s.mapping channelId _ channelId).dirty = false
            rw [Function.update_self]
            exact taken.clean
        · simp only [if_neg gone]
          let next : Engine := (s.setMapping channelId
            (s.lightAvailable (s.mapping channelId).grab).2).observe (.dropped channelId)
          have first : Sweep s next.mapping [.dropped channelId] none := by
            refine ⟨?_, fun other => ?_, by simp⟩
            · intro entry member
              refine ⟨channelId, List.mem_singleton.mp member, ?_⟩
              simpa [available, answer] using gone
            · by_cases same : other = channelId
              · subst other
                refine .inr ⟨dirty, ⟨logged, (s.mapping channelId).lastSent, ?_⟩, .inl (by simp)⟩
                exact (Function.update_self _ _ _).trans seen
              · exact .inl (Function.update_of_ne same _ _)
          obtain ⟨mapping, stats, drops, sweep, same⟩ := ih next
          have whole := first.trans rfl rfl sweep
          refine ⟨mapping, stats, drops ++ [.dropped channelId], whole, same.trans ?_⟩
          rw [List.append_assoc]
          rfl
    · simp only [if_neg dirty]
      exact ih s

/-- How a sweep leaves its task: in the call it began, or else waiting, or at its idle exit. -/
def Leaves (s : Engine) (begun : Option Call) (pc : DrainPc) (running : Bool) (notices : List Obs) : Prop :=
  match begun with
  | some call => (∃ rest, pc = .calling call rest) ∧ running = s.drainRunning ∧ notices = []
  | none =>
      ((∃ idleSince, pc = .waiting idleSince) ∧ running = s.drainRunning ∧ notices = []) ∨
      (pc = .done ∧ running = false ∧ s.active = false ∧ Notices notices)

/-- The engine after a sweep by a task that is not being cancelled. -/
def swept (s : Engine) (drain : DrainId) (mapping : ChannelId → LightMapping) (stats : Stats) (wake : Bool)
    (begun : Option Call) (drops : List Obs) (pc : DrainPc) (running : Bool) (notices : List Obs) :
    Engine :=
  { s with
    mapping := mapping, stats := stats, wake := wake, drainRunning := running
    drains := Function.update s.drains drain (some ⟨pc, false⟩)
    log := notices ++ (begunEntries drain begun s.now ++ (drops ++ s.log)) }

theorem setDrain_of_task {s : Engine} {drain : DrainId} {task : Drain} (found : s.drains drain = some task)
    (pc : DrainPc) :
    (s.setDrain drain pc).drains = Function.update s.drains drain (some ⟨pc, task.cancelling⟩) := by
  unfold Engine.setDrain
  rw [found]
  rfl

/-- A task that is live when another one ends is not that one, and was there before. -/
theorem live_before_done {s : Engine} {drain other : DrainId} {ended task : Drain}
    (found : s.drains drain = some ended) (after : (s.setDrain drain .done).drains other = some task)
    (live : task.pc ≠ .done) : other ≠ drain ∧ s.drains other = some task := by
  rw [setDrain_of_task found] at after
  rcases update_eq_some after with ⟨_, new⟩ | before
  · obtain rfl := Option.some.inj new
    exact absurd rfl live
  · exact before

theorem drainPass_eq {s : Engine} {drain : DrainId} {pc : DrainPc}
    (found : s.drains drain = some ⟨pc, false⟩) (idleSince : Option ℚ) :
    ∃ mapping stats begun drops pc running notices, Sweep s mapping drops begun ∧
      Leaves s begun pc running notices ∧
      s.drainPass drain idleSince = swept s drain mapping stats false begun drops pc running notices := by
  obtain ⟨mapping, stats, drops, sweep, same⟩ := scan_eq drain s.channels { s with wake := false }
  have whole := (Sweep.refl s).trans (t := { s with wake := false }) rfl rfl sweep
  rw [List.append_nil] at whole
  unfold Engine.drainPass
  rcases scanned : Engine.scan { s with wake := false } drain s.channels with ⟨next, _ | ⟨call, rest⟩⟩
  · simp only [scanned, Option.map_none] at same whole
    have kept : next.drains drain = some ⟨pc, false⟩ := by rw [same]; exact found
    have waits : ∀ idle, next.setDrain drain (.waiting idle) =
        swept s drain mapping stats false none drops (.waiting idle) s.drainRunning [] := by
      intro idle
      unfold Engine.setDrain swept
      rw [kept, same]
      rfl
    have ends : next.drainFinally drain = swept s drain mapping stats false none drops .done false
        [.notified { next with drainRunning := false }.status { next with drainRunning := false }.isDrivingLights] := by
      unfold Engine.drainFinally Engine.setDrain swept
      rw [kept, same]
      rfl
    have active : next.active = s.active := by rw [same]
    simp only []
    cases streaming : s.active with
    | true =>
      rw [active, streaming]
      exact ⟨mapping, stats, none, drops, _, _, [], whole, .inl ⟨⟨_, rfl⟩, rfl, rfl⟩, waits _⟩
    | false =>
      rw [active, streaming]
      cases idleSince with
      | none => exact ⟨mapping, stats, none, drops, _, _, [], whole, .inl ⟨⟨_, rfl⟩, rfl, rfl⟩, waits _⟩
      | some since =>
        by_cases finished : classicDrainIdle < next.now - since
        · simp only [Bool.false_eq_true, ↓reduceIte, if_pos finished]
          exact ⟨mapping, stats, none, drops, _, _, _, whole, .inr ⟨rfl, rfl, streaming, .one _ _⟩, ends⟩
        · simp only [Bool.false_eq_true, ↓reduceIte, if_neg finished]
          exact ⟨mapping, stats, none, drops, _, _, [], whole, .inl ⟨⟨_, rfl⟩, rfl, rfl⟩, waits _⟩
  · simp only [scanned, Option.map_some] at same whole
    have kept : next.drains drain = some ⟨pc, false⟩ := by rw [same]; exact found
    refine ⟨mapping, stats, some call, drops, .calling call rest, _, [], whole, ⟨⟨rest, rfl⟩, rfl, rfl⟩, ?_⟩
    unfold Engine.setDrain swept
    simp only []
    rw [kept, same]
    rfl

theorem drainAfterCall_eq {s : Engine} {drain : DrainId} {pc : DrainPc}
    (found : s.drains drain = some ⟨pc, false⟩) (rest : List ChannelId) :
    ∃ mapping stats wake begun drops pc running notices, Sweep s mapping drops begun ∧
      Leaves s begun pc running notices ∧
      s.drainAfterCall drain rest = swept s drain mapping stats wake begun drops pc running notices := by
  obtain ⟨mapping, stats, drops, sweep, same⟩ := scan_eq drain rest s
  unfold Engine.drainAfterCall
  rcases scanned : s.scan drain rest with ⟨next, _ | ⟨call, later⟩⟩
  · simp only [scanned, Option.map_none] at same sweep
    have kept : next.drains drain = some ⟨pc, false⟩ := by rw [same]; exact found
    obtain ⟨mapping', stats', begun, drops', pc', running, notices, sweep', leaves, pass⟩ :=
      drainPass_eq kept none
    have left : Sweep s next.mapping drops none := by rw [same]; exact sweep
    have whole := left.trans (by rw [same]) (by rw [same]) sweep'
    refine ⟨mapping', stats', false, begun, drops' ++ drops, pc', running, notices, whole, ?_, ?_⟩
    · rw [same] at leaves
      exact leaves
    · simp only []
      rw [pass, same]
      simp only [swept, begunEntries, List.nil_append, List.append_assoc]
  · simp only [scanned, Option.map_some] at same sweep
    have kept : next.drains drain = some ⟨pc, false⟩ := by rw [same]; exact found
    refine ⟨mapping, stats, s.wake, some call, drops, .calling call later, _, [], sweep,
      ⟨⟨later, rfl⟩, rfl, rfl⟩, ?_⟩
    unfold Engine.setDrain swept
    simp only []
    rw [kept, same]
    rfl

/-- The history entry of the call that a task was in, once it is over. -/
def endedEntries (drain : DrainId) (pc : DrainPc) (outcome : Outcome) : List Obs :=
  match pc with
  | .calling call _ => [.callEnded drain call outcome]
  | _ => []

/-- The three kinds of step a drain task takes. -/
inductive DrainMove (s : Engine) (drain : DrainId) (outcome : Outcome) : Engine → Prop where
  | neverEntered (found : s.drains drain = some ⟨.created, true⟩) :
      DrainMove s drain outcome (s.setDrain drain .done)
  | unwound {pc : DrainPc} (found : s.drains drain = some ⟨pc, true⟩) (live : pc ≠ .done)
      (entries : List Obs) (notices : Notices entries) :
      DrainMove s drain outcome
        { s.setDrain drain .done with
          drainRunning := false
          log := entries ++ (endedEntries drain pc .cancelled ++ s.log) }
  | ran {pc after : DrainPc} {mapping : ChannelId → LightMapping} {stats : Stats} {wake running : Bool}
      {begun : Option Call} {drops entries : List Obs}
      (found : s.drains drain = some ⟨pc, false⟩) (live : pc ≠ .done)
      (ended : ∀ call rest, pc = .calling call rest → outcome = .returned ∨ outcome = .raised)
      (sweep : Sweep s mapping drops begun) (leaves : Leaves s begun after running entries) :
      DrainMove s drain outcome
        (swept { s with log := endedEntries drain pc outcome ++ s.log } drain mapping stats wake begun drops
          after running entries)

/-- Apart from its tasks, a step of a loop changes slots, counters, the event and the flag only. -/
theorem DrainMove.frame {s t : Engine} {drain : DrainId} {outcome : Outcome} (move : DrainMove s drain outcome t) :
    ∃ mapping stats wake running drains log, t = { s with
      mapping := mapping, stats := stats, wake := wake, drainRunning := running, drains := drains, log := log } := by
  cases move with
  | neverEntered found => exact ⟨_, _, _, _, _, _, rfl⟩
  | unwound found live entries notices => exact ⟨_, _, _, _, _, _, rfl⟩
  | ran found live ended sweep leaves => exact ⟨_, _, _, _, _, _, rfl⟩

theorem drainStep_move {s t : Engine} {drain : DrainId} {outcome : Outcome}
    (step : s.drainStep drain outcome = some t) : DrainMove s drain outcome t := by
  unfold Engine.drainStep at step
  rcases found : s.drains drain with _ | ⟨pc, cancelling⟩
  · simp [found] at step
  · cases cancelling with
    | true =>
      cases pc with
      | created =>
        simp only [found, Option.some.injEq] at step
        exact step ▸ .neverEntered found
      | calling call rest =>
        simp only [found, Option.some.injEq] at step
        exact step ▸ .unwound found (by simp) _ (.one _ _)
      | waiting idleSince =>
        simp only [found, Option.some.injEq] at step
        exact step ▸ .unwound found (by simp) _ (.one _ _)
      | done => simp [found] at step
    | false =>
      cases pc with
      | created =>
        simp only [found, Option.some.injEq] at step
        obtain ⟨mapping, stats, begun, drops, pc, running, entries, sweep, leaves, pass⟩ :=
          drainPass_eq found none
        exact step ▸ pass ▸ .ran found (by simp) (by simp) sweep leaves
      | calling call rest =>
        by_cases finished : outcome = .returned ∨ outcome = .raised
        · simp only [found, if_pos finished, Option.some.injEq] at step
          let next : Engine := s.observe (.callEnded drain call outcome)
          have kept : next.drains drain = some ⟨.calling call rest, false⟩ := found
          obtain ⟨mapping, stats, wake, begun, drops, pc, running, entries, sweep, leaves, pass⟩ :=
            drainAfterCall_eq kept rest
          have whole := (Sweep.refl s).trans (t := next) rfl rfl sweep
          rw [List.append_nil] at whole
          exact step ▸ pass ▸ .ran found (by simp) (fun _ _ _ => finished) whole leaves
        · simp [found, if_neg finished] at step
      | waiting idleSince =>
        simp only [found, Option.some.injEq] at step
        obtain ⟨mapping, stats, begun, drops, pc, running, entries, sweep, leaves, pass⟩ :=
          drainPass_eq found idleSince
        exact step ▸ pass ▸ .ran found (by simp) (by simp) sweep leaves
      | done => simp [found] at step

end HueEntertainment.DrainSteps
