import ReplicaSeed.Proofs.Agent.Answer
import ReplicaSeed.Proofs.Agent.Finality

/-!
# Scenes without their numbers

Two runs that differ in the numbers of their dispatches are compared by what is left when all
numbers are taken away. The coordinator looks at a number only when a dispatch reports: it asks
whether the record in place has the number of the dispatch. All else that happens is the same in
two scenes that differ in their numbers only.

## Main definitions

* `Operation.unnumbered`, `Coordinator.unnumbered`, `Scene.unnumbered`: where every number is zero.
* `Scene.Heeds`: the record in place is that of the dispatch.

## Main statements

* `Coordinator.startAs_unnumbered`, `beginMetadataAs_unnumbered`, `abort_unnumbered`: requests do
  not look at numbers.
* `Coordinator.progress_unnumbered`, `processStarted_unnumbered`, `finish_unnumbered`: nor do
  reports once their record is found.
* `Scene.after_congr`, `Scene.answer_congr`: an event does the same in two scenes that differ in
  their numbers only, if both heed the dispatch that it comes from or neither does.
-/

namespace ReplicaSeed

/-! ## Tables -/

namespace Stage.Map

variable {α β : Type} (f : α → β) (m : Map α)

/-- The table with every entry changed. -/
def map : Map β :=
  ⟨m.prepare.map f, m.backup.map f, m.restore.map f, m.cleanup.map f, m.metadataFetch.map f⟩

@[simp] theorem get?_map (stage : Stage) : (m.map f).get? stage = (m.get? stage).map f := by
  cases stage <;> rfl

@[simp] theorem map_insert (stage : Stage) (a : α) :
    (m.insert stage a).map f = (m.map f).insert stage (f a) := by
  cases stage <;> rfl

@[simp] theorem map_empty : (empty : Map α).map f = empty := rfl

@[simp] theorem toList_map :
    (m.map f).toList = m.toList.map fun (stage, a) => (stage, f a) := by
  simp only [toList, get?_map, List.map_filterMap, Option.map_map]
  rfl

@[simp] theorem isEmpty_map : (m.map f).isEmpty = m.isEmpty := by
  simp [isEmpty]

end Stage.Map

/-! ## Operations -/

namespace StageRecord

variable (r : StageRecord)

/-- The record without its number. -/
def unnumbered : StageRecord := { r with generation := 0 }

@[simp] theorem stage_unnumbered : r.unnumbered.stage = r.stage := rfl

@[simp] theorem status_unnumbered : r.unnumbered.status = r.status := rfl

@[simp] theorem process_unnumbered : r.unnumbered.process = r.process := rfl

@[simp] theorem unnumbered_running (op : Operation) (stage : Stage) (hostname : String)
    (now : Instant) (n : Generation) :
    (running op stage hostname now n).unnumbered = running op stage hostname now 0 := rfl

@[simp] theorem unnumbered_settle (status : Status) (details : String) (now : Instant) :
    (r.settle status details now).unnumbered = r.unnumbered.settle status details now := rfl

end StageRecord

namespace Operation

variable (op : Operation) (stage : Stage) (r : StageRecord)

/-- The operation without the numbers of its records. -/
def unnumbered : Operation := { op with records := op.records.map StageRecord.unnumbered }

@[simp] theorem seedId_unnumbered : op.unnumbered.seedId = op.seedId := rfl

@[simp] theorem stage_unnumbered : op.unnumbered.stage = op.stage := rfl

@[simp] theorem side_unnumbered : op.unnumbered.side = op.side := rfl

@[simp] theorem method_unnumbered : op.unnumbered.method = op.method := rfl

@[simp] theorem record?_unnumbered :
    op.unnumbered.record? stage = (op.record? stage).map StageRecord.unnumbered :=
  Stage.Map.get?_map ..

@[simp] theorem phase_unnumbered : op.unnumbered.phase = op.phase := by
  simp [phase, unnumbered]

@[simp] theorem runningStage?_unnumbered : op.unnumbered.runningStage? = op.runningStage? := by
  simp only [runningStage?, unnumbered, Stage.Map.toList_map, List.find?_map, Option.map_map]
  rfl

@[simp] theorem unnumbered_fresh (id : SeedId) (side : Side) (method : Method) :
    (fresh id side method).unnumbered = fresh id side method := rfl

@[simp] theorem unnumbered_withRecord :
    (op.withRecord stage r).unnumbered = op.unnumbered.withRecord stage r.unnumbered := by
  simp [unnumbered, withRecord]

@[simp] theorem unnumbered_enter :
    (op.enter r).unnumbered = op.unnumbered.enter r.unnumbered := by
  simp [unnumbered, enter, withRecord]

@[simp] theorem unnumbered_endStage :
    (op.endStage stage r).unnumbered = op.unnumbered.endStage stage r.unnumbered := by
  simp only [unnumbered, endStage, withRecord, Stage.Map.map_insert]
  rfl

end Operation

/-! ## The coordinator -/

/-- The key without its number. -/
def DispatchKey.unnumbered (key : DispatchKey) : DispatchKey := { key with generation := 0 }

@[simp] theorem StageRecord.key_unnumbered (r : StageRecord) :
    r.unnumbered.key = r.key.unnumbered := rfl

/-- The start without the number of its record. -/
def Start.unnumbered : Start → Start
  | dispatched r side => .dispatched r.unnumbered side
  | already stage => .already stage

@[simp] theorem Start.outcome_unnumbered (start : Start) :
    start.unnumbered.outcome = start.outcome := by
  cases start <;> rfl

namespace Coordinator

variable (c : Coordinator) (id : SeedId) (kind : Method) (n : Generation) (now : Instant)
  {key : DispatchKey} {op : Operation} {r : StageRecord}

/-- The coordinator without numbers. -/
def unnumbered : Coordinator where
  hostname := c.hostname
  operation := c.operation.map Operation.unnumbered

@[simp] theorem hostname_unnumbered : c.unnumbered.hostname = c.hostname := rfl

@[simp] theorem operation_unnumbered :
    c.unnumbered.operation = c.operation.map Operation.unnumbered := rfl

@[simp] theorem unnumbered_draw : c.draw.unnumbered = c.unnumbered := rfl

/-- The number that a coordinator without numbers holds is none of its own. -/
theorem unnumbered_hold (op : Operation) :
    { c with operation := some op }.unnumbered =
      { c.unnumbered with operation := some op.unnumbered } := rfl

theorem unnumbered_store (stage : Stage) :
    (c.store op stage r).unnumbered = c.unnumbered.store op.unnumbered stage r.unnumbered := by
  rw [store, unnumbered_hold, Operation.unnumbered_withRecord]
  rfl

theorem unnumbered_storeEnd (stage : Stage) :
    (c.storeEnd op stage r).unnumbered =
      c.unnumbered.storeEnd op.unnumbered stage r.unnumbered := by
  rw [storeEnd, unnumbered_hold, Operation.unnumbered_endStage]
  rfl

theorem operation?_unnumbered :
    c.unnumbered.operation? id = (c.operation? id).map Operation.unnumbered := by
  simp only [operation?, operation_unnumbered]
  cases c.operation with
  | none => rfl
  | some op => by_cases hid : op.seedId = id <;> simp [hid, Option.filter_some]

theorem heldOperation_unnumbered :
    c.unnumbered.heldOperation id kind = (c.heldOperation id kind).map Operation.unnumbered := by
  simp only [heldOperation, operation?_unnumbered]
  cases c.operation? id with
  | none => rfl
  | some op => by_cases hm : op.method = kind <;> simp [hm, Except.map]

theorem operationFor_unnumbered (request : StageRequest) :
    c.unnumbered.operationFor id kind request =
      (c.operationFor id kind request).map fun (c, op) => (c.unnumbered, op.unnumbered) := by
  have later : (c.unnumbered.heldOperation id kind).map (fun op => (c.unnumbered, op)) =
      ((c.heldOperation id kind).map fun op => (c, op)).map
        fun (c, op) => (c.unnumbered, op.unnumbered) := by
    rw [heldOperation_unnumbered]
    cases c.heldOperation id kind <;> rfl
  cases request with
  | prepare side =>
    simp only [operationFor, operationForPrepare, operation_unnumbered]
    cases c.operation with
    | none => rfl
    | some op =>
      by_cases hid : op.seedId = id
      · by_cases hm : op.method = kind <;> simp [hid, hm, Except.map]
      · simp only [Option.map_some, Operation.seedId_unnumbered, hid, if_false,
          Operation.runningStage?_unnumbered]
        cases op.runningStage? <;> rfl
  | _ => exact later

/-- A request for a stage does not look at numbers. -/
theorem startAs_unnumbered (request : StageRequest) :
    c.unnumbered.startAs 0 kind id request now =
      ((c.startAs n kind id request now).1.unnumbered,
        (c.startAs n kind id request now).2.map Start.unnumbered) := by
  simp only [startAs, operationFor_unnumbered]
  cases c.operationFor id kind request with
  | error e => rfl
  | ok found =>
    obtain ⟨c, op⟩ := found
    simp only [Except.map, Operation.record?_unnumbered, Option.any_map, Operation.phase_unnumbered]
    by_cases blocked : (op.record? request.stage).any (·.status.blocksRestart)
    · rw [if_pos blocked, if_pos (by exact blocked)]
      rfl
    rw [if_neg blocked, if_neg (by exact blocked)]
    cases Phase.permit id op.phase request.stage with
    | error e => rfl
    | ok =>
      have side : requestedSide op.unnumbered request = requestedSide op request := by
        cases request <;> rfl
      simp only [side, unnumbered_hold, Operation.unnumbered_enter]
      rfl

/-- A request for coordinates does not look at numbers. -/
theorem beginMetadataAs_unnumbered :
    c.unnumbered.beginMetadataAs 0 kind id now =
      ((c.beginMetadataAs n kind id now).1.unnumbered,
        (c.beginMetadataAs n kind id now).2.map StageRecord.unnumbered) := by
  simp only [beginMetadataAs, heldOperation_unnumbered]
  cases c.heldOperation id kind with
  | error e => rfl
  | ok op =>
    simp only [Except.map, Operation.record?_unnumbered, Option.any_map, Operation.phase_unnumbered]
    by_cases done : (op.record? .backup).any (·.status == .completed)
    · rw [if_pos done, if_pos (by exact done)]
      cases Phase.permit id op.phase .metadataFetch with
      | error e => rfl
      | ok =>
        simp only [unnumbered_hold, Operation.unnumbered_withRecord]
        rfl
    · rw [if_neg done, if_neg (by exact done)]

/-- An abort does not look at numbers. -/
theorem abort_unnumbered (finished : ProcessId → Bool) (stage : Stage) :
    c.unnumbered.abort finished id stage now =
      (c.abort finished id stage now).map fun (c, r, p) => (c.unnumbered, r.unnumbered, p) := by
  simp only [abort, operation?_unnumbered]
  cases c.operation? id with
  | none => rfl
  | some op =>
    simp only [Option.map_some, Operation.record?_unnumbered]
    cases op.record? stage with
    | none => rfl
    | some r =>
      simp only [Option.map_some, StageRecord.status_unnumbered, StageRecord.process_unnumbered]
      by_cases running : r.status = .running
      · simp only [running, if_true]
        cases r.process.filter fun p => !finished p with
        | none => rfl
        | some p =>
          simp only [Except.map, unnumbered_storeEnd]
          rfl
      · simp only [running, if_false]
        rfl

/-- The record that is in place for a key is in place without its number. -/
theorem recordOf?_unnumbered (heeded : (c.recordOf? key).isSome) :
    c.unnumbered.recordOf? key.unnumbered =
      (c.recordOf? key).map fun (op, r) => (op.unnumbered, r.unnumbered) := by
  obtain ⟨⟨op, r⟩, found⟩ := Option.isSome_iff_exists.1 heeded
  obtain ⟨held, seedId, stored, -⟩ := recordOf?_eq_some_iff.1 found
  rw [found]
  refine recordOf?_eq_some_iff.2 ⟨?_, seedId, ?_, rfl⟩
  · rw [operation_unnumbered, held]
    rfl
  · rw [Operation.record?_unnumbered]
    exact congrArg (Option.map _) stored

theorem progress_unnumbered (heeded : (c.recordOf? key).isSome) (details : String) :
    c.unnumbered.progress key.unnumbered details now =
      (c.progress key details now).map fun (c, r) => (c.unnumbered, r.unnumbered) := by
  simp only [progress, runningRecord?, c.recordOf?_unnumbered heeded, Option.filter_map,
    Option.map_map]
  refine Option.map_congr fun found _ => ?_
  simp only [Function.comp_apply, unnumbered_store]
  rfl

theorem processStarted_unnumbered (heeded : (c.recordOf? key).isSome) (p : ProcessId) :
    c.unnumbered.processStarted key.unnumbered p now =
      (c.processStarted key p now).map unnumbered := by
  simp only [processStarted, runningRecord?, c.recordOf?_unnumbered heeded, Option.filter_map,
    Option.map_map]
  refine Option.map_congr fun found _ => ?_
  simp only [Function.comp_apply, unnumbered_store]
  rfl

theorem finish_unnumbered (heeded : (c.recordOf? key).isSome) (status : Status)
    (details : String) :
    c.unnumbered.finish key.unnumbered status details now =
      (c.finish key status details now).map fun (c, r) => (c.unnumbered, r.unnumbered) := by
  simp only [finish, c.recordOf?_unnumbered heeded, Option.filter_map, Option.map_map]
  refine Option.map_congr fun found _ => ?_
  simp only [Function.comp_apply, unnumbered_storeEnd]
  rfl

end Coordinator

/-! ## Scenes -/

/-- The request without its number. -/
def Waiting.unnumbered (w : Waiting) : Waiting := { w with index := 0, number := 0 }

/-- The dispatch without its number. -/
def Dispatch.unnumbered (d : Dispatch) : Dispatch :=
  { d with index := 0, key := d.key.unnumbered, ended := d.ended.map fun _ => 0 }

theorem Dispatch.key_unnumbered (d : Dispatch) : d.unnumbered.key = d.key.unnumbered := rfl

/-- What a dispatch keeps without its number. -/
theorem Dispatch.of_unnumbered_eq {d d' : Dispatch} (alike : d.unnumbered = d'.unnumbered) :
    d.task = d'.task ∧ d.key.stage = d'.key.stage ∧ d.ended.isSome = d'.ended.isSome := by
  simp only [unnumbered, DispatchKey.unnumbered, mk.injEq, DispatchKey.mk.injEq] at alike
  obtain ⟨-, ⟨-, stage, -⟩, -, task, -, -, ended⟩ := alike
  exact ⟨task, stage, by simpa using congrArg Option.isSome ended⟩

namespace Scene

variable {I : Interface} (s : Scene) {t : Scene} {e : Event I} {i : Nat} {d d' : Dispatch}
  {w : Waiting} {now : Instant}

/-- The scene without numbers. -/
def unnumbered : Scene where
  coordinator := s.coordinator.unnumbered
  waiting := s.waiting.map Waiting.unnumbered
  dispatches := s.dispatches.map Dispatch.unnumbered
  processes := s.processes
  published := s.published.map StageRecord.unnumbered

/-- The record of the dispatch is in place. -/
def Heeds (d : Dispatch) : Prop := (s.coordinator.recordOf? d.key).isSome

theorem coordinator_unnumbered : s.unnumbered.coordinator = s.coordinator.unnumbered := rfl

theorem processes_unnumbered : s.unnumbered.processes = s.processes := rfl

theorem unnumbered_withCoordinator (c : Coordinator) :
    { s with coordinator := c }.unnumbered =
      { s.unnumbered with coordinator := c.unnumbered } := rfl

theorem unnumbered_draw (id : SeedId) (kind : Method) (task : Task) :
    (s.draw id kind task).unnumbered =
      { s.unnumbered with waiting := s.unnumbered.waiting ++ [⟨0, 0, id, kind, task⟩] } := by
  simp [draw, unnumbered, Waiting.unnumbered]

theorem unnumbered_leave (turn : Nat) : (s.leave turn).unnumbered = s.unnumbered.leave turn := by
  simp [leave, unnumbered, List.eraseIdx_map]

theorem unnumbered_publish (r : StageRecord) :
    (s.publish r).unnumbered = s.unnumbered.publish r.unnumbered := by
  simp [publish, unnumbered]

theorem unnumbered_dispatch (side : Side) (r : StageRecord) :
    (s.dispatch w side r).unnumbered = s.unnumbered.dispatch w.unnumbered side r.unnumbered := by
  simp [dispatch, unnumbered, Dispatch.unnumbered, Waiting.unnumbered]

theorem unnumbered_change {f g : Dispatch → Dispatch}
    (same : ∀ d, (f d).unnumbered = g d.unnumbered) :
    (s.change i f).unnumbered = s.unnumbered.change i g := by
  have modified : (s.dispatches.modify i f).map Dispatch.unnumbered =
      (s.dispatches.map Dispatch.unnumbered).modify i g := by
    refine List.ext_getElem? fun j => ?_
    simp only [List.getElem?_map, List.getElem?_modify]
    cases s.dispatches[j]? with
    | none => rfl
    | some d =>
      refine congrArg some ?_
      by_cases h : i = j
      · simp only [h, if_true, same]
      · simp only [h, if_false]
  simp only [change, unnumbered, modified]

theorem unnumbered_conclude : (s.conclude i).unnumbered = s.unnumbered.conclude i :=
  s.unnumbered_change fun _ => rfl

theorem unnumbered_enroll (command : String) :
    (s.enroll i command).unnumbered = s.unnumbered.enroll i command := by
  have changed := s.unnumbered_change (i := i)
    (f := fun d => { d with processes := d.processes ++ [s.processes.next] })
    (g := fun d => { d with processes := d.processes ++ [s.processes.next] }) fun _ => rfl
  exact congrArg (fun u => { u with processes := s.processes.start command }) changed

/-! ## Events -/

/-- A waiting request is served without a look at its number. -/
theorem unnumbered_serve (turn : Nat) (w : Waiting) (now : Instant) :
    (s.serve turn w now).unnumbered = s.unnumbered.serve turn w.unnumbered now := by
  cases task : w.task with
  | stage request =>
    have bare := s.coordinator.startAs_unnumbered w.id w.method w.number now request
    simp only [serve, Waiting.unnumbered, task]
    rw [coordinator_unnumbered, bare]
    obtain ⟨c, _ | ⟨r, side⟩ | _⟩ := s.coordinator.startAs w.number w.method w.id request now
    · simp only [Except.map, unnumbered_withCoordinator, unnumbered_leave]
    · simp only [Except.map, Start.unnumbered, unnumbered_dispatch, unnumbered_withCoordinator,
        unnumbered_leave, Waiting.unnumbered, task]
    · simp only [Except.map, Start.unnumbered, unnumbered_withCoordinator, unnumbered_leave]
  | coordinates =>
    have bare := s.coordinator.beginMetadataAs_unnumbered w.id w.method w.number now
    simp only [serve, Waiting.unnumbered, task]
    rw [coordinator_unnumbered, bare]
    obtain ⟨c, _ | r⟩ := s.coordinator.beginMetadataAs w.number w.method w.id now
    · simp only [Except.map, unnumbered_withCoordinator, unnumbered_leave]
    · simp only [Except.map, unnumbered_dispatch, unnumbered_withCoordinator,
        unnumbered_leave, Waiting.unnumbered, task]
      rfl

/-- Nor does the answer to it depend on its number. -/
theorem reply_unnumbered (w : Waiting) (now : Instant) :
    s.unnumbered.reply w.unnumbered now = s.reply w now := by
  cases task : w.task with
  | stage request =>
    have bare := s.coordinator.startAs_unnumbered w.id w.method w.number now request
    simp only [reply, Waiting.unnumbered, task]
    rw [coordinator_unnumbered, bare]
    cases (s.coordinator.startAs w.number w.method w.id request now).2 with
    | error e => rfl
    | ok start => simp only [Except.map, Start.outcome_unnumbered]
  | coordinates =>
    have bare := s.coordinator.beginMetadataAs_unnumbered w.id w.method w.number now
    simp only [reply, Waiting.unnumbered, task]
    rw [coordinator_unnumbered, bare]
    cases (s.coordinator.beginMetadataAs w.number w.method w.id now).2 <;> rfl

theorem unnumbered_abort (id : SeedId) (stage : Stage) (now : Instant) :
    (s.abort id stage now).unnumbered = s.unnumbered.abort id stage now := by
  have bare := s.coordinator.abort_unnumbered id now s.processes.isFinished stage
  simp only [abort]
  rw [coordinator_unnumbered, processes_unnumbered, bare]
  obtain _ | ⟨c, r, p⟩ := s.coordinator.abort s.processes.isFinished id stage now
  · rfl
  · exact unnumbered_publish ..

theorem unnumbered_progress (heeded : s.Heeds d) (details : String) (now : Instant) :
    (s.progress d details now).unnumbered = s.unnumbered.progress d.unnumbered details now := by
  have bare := s.coordinator.progress_unnumbered now heeded details
  simp only [progress]
  rw [coordinator_unnumbered, Dispatch.key_unnumbered, bare]
  obtain _ | ⟨c, r⟩ := s.coordinator.progress d.key details now
  · rfl
  · exact unnumbered_publish ..

theorem unnumbered_processStarted (heeded : s.Heeds d) (i : Nat) (command : String)
    (now : Instant) :
    (s.processStarted i d command now).unnumbered =
      s.unnumbered.processStarted i d.unnumbered command now := by
  have bare := s.coordinator.processStarted_unnumbered now heeded s.processes.next
  have enrolled := s.unnumbered_enroll (i := i) command
  simp only [processStarted]
  rw [coordinator_unnumbered, processes_unnumbered, Dispatch.key_unnumbered, bare]
  obtain _ | c := s.coordinator.processStarted d.key s.processes.next now
  · exact congrArg (fun u => { u with processes := u.processes.cancel s.processes.next }) enrolled
  · exact congrArg (fun u => { u with coordinator := c.unnumbered }) enrolled

theorem unnumbered_finish (heeded : s.Heeds d) (i : Nat) (status : Status) (details : String)
    (now : Instant) :
    (s.finish i d status details now).unnumbered =
      s.unnumbered.finish i d.unnumbered status details now := by
  have bare := s.coordinator.finish_unnumbered now heeded status details
  have concluded := s.unnumbered_conclude (i := i)
  simp only [finish]
  rw [coordinator_unnumbered, Dispatch.key_unnumbered, bare]
  obtain _ | ⟨c, r⟩ := s.coordinator.finish d.key status details now
  · exact concluded
  · exact (unnumbered_publish ..).trans
      (congrArg (fun u => { u with coordinator := c.unnumbered }.publish r.unnumbered) concluded)

variable {s}

theorem recordOf?_of_not_heeds (lost : ¬ s.Heeds d) : s.coordinator.recordOf? d.key = none := by
  simpa [Heeds] using lost

theorem progress_of_not_heeds (lost : ¬ s.Heeds d) (details : String) (now : Instant) :
    s.progress d details now = s := by
  simp [progress, Coordinator.progress, Coordinator.runningRecord?, recordOf?_of_not_heeds lost]

theorem processStarted_of_not_heeds (lost : ¬ s.Heeds d) (i : Nat) (command : String)
    (now : Instant) :
    s.processStarted i d command now =
      { s.enroll i command with
        processes := (s.processes.start command).cancel s.processes.next } := by
  simp only [processStarted, Coordinator.processStarted, Coordinator.runningRecord?,
    recordOf?_of_not_heeds lost]
  rfl

theorem finish_of_not_heeds (lost : ¬ s.Heeds d) (i : Nat) (status : Status) (details : String)
    (now : Instant) : s.finish i d status details now = s.conclude i := by
  simp [finish, Coordinator.finish, recordOf?_of_not_heeds lost]

/-! ## Two scenes -/

/-- What two lists hold at a place, if they agree under `f`. -/
theorem getElem?_of_map_eq {α β : Type} {f : α → β} {l l' : List α} (same : l.map f = l'.map f)
    (i : Nat) :
    (l[i]? = none ∧ l'[i]? = none) ∨ ∃ a a', l[i]? = some a ∧ l'[i]? = some a' ∧ f a = f a' := by
  have at_place := congrArg (·[i]?) same
  simp only [List.getElem?_map] at at_place
  cases hl : l[i]? with
  | none =>
    rw [hl] at at_place
    exact .inl ⟨rfl, Option.map_eq_none_iff.1 at_place.symm⟩
  | some a =>
    rw [hl] at at_place
    obtain ⟨a', hl', eq⟩ := Option.map_eq_some_iff.1 at_place.symm
    exact .inr ⟨a, a', rfl, hl', eq.symm⟩

section

variable (same : s.unnumbered = t.unnumbered)
include same

theorem waiting_congr (turn : Nat) :
    (s.waiting[turn]? = none ∧ t.waiting[turn]? = none) ∨
    ∃ w w', s.waiting[turn]? = some w ∧ t.waiting[turn]? = some w' ∧
      w.unnumbered = w'.unnumbered :=
  getElem?_of_map_eq (congrArg waiting same) turn

theorem dispatches_congr (i : Nat) :
    (s.dispatches[i]? = none ∧ t.dispatches[i]? = none) ∨
    ∃ d d', s.dispatches[i]? = some d ∧ t.dispatches[i]? = some d' ∧
      d.unnumbered = d'.unnumbered :=
  getElem?_of_map_eq (congrArg dispatches same) i

theorem progress_congr (alike : d.unnumbered = d'.unnumbered) (heeds : s.Heeds d ↔ t.Heeds d')
    (details : String) (now : Instant) :
    (s.progress d details now).unnumbered = (t.progress d' details now).unnumbered := by
  by_cases h : s.Heeds d
  · rw [unnumbered_progress _ h, unnumbered_progress _ (heeds.1 h), same, alike]
  · rw [progress_of_not_heeds h, progress_of_not_heeds (mt heeds.2 h), same]

theorem processStarted_congr (alike : d.unnumbered = d'.unnumbered)
    (heeds : s.Heeds d ↔ t.Heeds d') (i : Nat) (command : String) (now : Instant) :
    (s.processStarted i d command now).unnumbered =
      (t.processStarted i d' command now).unnumbered := by
  by_cases h : s.Heeds d
  · rw [unnumbered_processStarted _ h, unnumbered_processStarted _ (heeds.1 h), same, alike]
  · have processes := congrArg Scene.processes same
    simp only [processes_unnumbered] at processes
    have enrolled : (s.enroll i command).unnumbered = (t.enroll i command).unnumbered := by
      rw [unnumbered_enroll, unnumbered_enroll, same]
    rw [processStarted_of_not_heeds h, processStarted_of_not_heeds (mt heeds.2 h), processes]
    exact congrArg (fun u => { u with
      processes := (t.processes.start command).cancel t.processes.next }) enrolled

theorem finish_congr (alike : d.unnumbered = d'.unnumbered) (heeds : s.Heeds d ↔ t.Heeds d')
    (i : Nat) (status : Status) (details : String) (now : Instant) :
    (s.finish i d status details now).unnumbered =
      (t.finish i d' status details now).unnumbered := by
  by_cases h : s.Heeds d
  · rw [unnumbered_finish _ h, unnumbered_finish _ (heeds.1 h), same, alike]
  · rw [finish_of_not_heeds h, finish_of_not_heeds (mt heeds.2 h), unnumbered_conclude,
      unnumbered_conclude, same]

/-- An event does the same to both scenes, if both heed the dispatch that it comes from or neither
does. -/
theorem after_congr (e : Event I)
    (heeds : ∀ i d d', e.reportOf = some i → s.dispatches[i]? = some d →
      t.dispatches[i]? = some d' → (s.Heeds d ↔ t.Heeds d')) :
    (s.after e).unnumbered = (t.after e).unnumbered := by
  cases e with
  | ask registry id name task =>
    simp only [after]
    split
    · exact same
    · rw [unnumbered_draw, unnumbered_draw, same]
  | serve turn now =>
    simp only [after]
    obtain ⟨hs, ht⟩ | ⟨w, w', hs, ht, alike⟩ := waiting_congr same turn
    · rw [hs, ht]
      exact same
    · rw [hs, ht]
      simp only [unnumbered_serve, same, alike]
  | abort id stage now => simp only [after, unnumbered_abort, same]
  | progress i details now =>
    simp only [after]
    obtain ⟨hs, ht⟩ | ⟨d, d', hs, ht, alike⟩ := dispatches_congr same i
    · rw [hs, ht]
      exact same
    · obtain ⟨task, -, -⟩ := Dispatch.of_unnumbered_eq alike
      simp only [hs, ht, task]
      split
      · exact same
      · exact progress_congr same alike (heeds i d d' rfl hs ht) details now
  | processStarted i command now =>
    simp only [after]
    obtain ⟨hs, ht⟩ | ⟨d, d', hs, ht, alike⟩ := dispatches_congr same i
    · rw [hs, ht]
      exact same
    · obtain ⟨task, -, -⟩ := Dispatch.of_unnumbered_eq alike
      simp only [hs, ht, task]
      split
      · exact same
      · exact processStarted_congr same alike (heeds i d d' rfl hs ht) i command now
  | processExited p => exact congrArg (fun u => { u with processes := u.processes.exit p }) same
  | stageEnded i how now =>
    simp only [after]
    obtain ⟨hs, ht⟩ | ⟨d, d', hs, ht, alike⟩ := dispatches_congr same i
    · rw [hs, ht]
      exact same
    · obtain ⟨task, stage, ended⟩ := Dispatch.of_unnumbered_eq alike
      simp only [hs, ht, task, stage, ended]
      split
      · exact same
      · exact finish_congr same alike (heeds i d d' rfl hs ht) i _ _ now
  | fetchEnded i result now =>
    simp only [after]
    obtain ⟨hs, ht⟩ | ⟨d, d', hs, ht, alike⟩ := dispatches_congr same i
    · rw [hs, ht]
      exact same
    · obtain ⟨task, -, ended⟩ := Dispatch.of_unnumbered_eq alike
      simp only [hs, ht, task, ended]
      split
      · exact same
      · exact finish_congr same alike (heeds i d d' rfl hs ht) i _ _ now

/-- An event gives the same answer in both scenes. -/
theorem answer_congr (e : Event I) : s.answer e = t.answer e := by
  cases e with
  | serve turn now =>
    simp only [answer]
    obtain ⟨hs, ht⟩ | ⟨w, w', hs, ht, alike⟩ := waiting_congr same turn
    · rw [hs, ht]
      rfl
    · rw [hs, ht, Option.bind_some, Option.bind_some, ← s.reply_unnumbered, ← t.reply_unnumbered,
        same, alike]
  | abort id stage now =>
    have bare (u : Scene) : u.answer (.abort id stage now : Event I) =
        u.unnumbered.answer (.abort id stage now : Event I) := by
      simp only [answer, coordinator_unnumbered, processes_unnumbered,
        Coordinator.abort_unnumbered]
      cases u.coordinator.abort u.processes.isFinished id stage now <;> rfl
    rw [bare s, bare t, same]
  | fetchEnded i result now =>
    simp only [answer]
    obtain ⟨hs, ht⟩ | ⟨d, d', hs, ht, alike⟩ := dispatches_congr same i
    · rw [hs, ht]
    · obtain ⟨task, -, ended⟩ := Dispatch.of_unnumbered_eq alike
      simp only [hs, ht, Option.bind_some, task, ended]
  | _ => rfl

end

end Scene

end ReplicaSeed
