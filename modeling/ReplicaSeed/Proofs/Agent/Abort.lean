import ReplicaSeed.Proofs.Agent.Answer
import ReplicaSeed.Proofs.Agent.Decision
import ReplicaSeed.Proofs.Agent.Finality

/-!
# Stopping a stage

A stage can be stopped while one of its commands runs: its record is then running and holds a
process that has not ended. Before the first command, between two of them and after the last one
there is nothing to stop, and a metadata fetch never has a process.

A stage that is stopped is the current one, so the operation is left without a stage in flight, and
every stage that is not complete may be started again at once.

## Main definitions

* `Scene.Stoppable`: a stage can be stopped.
* `Scene.Stopped`: a stage was stopped, and nothing else has changed.

## Main statements

* `Scene.answer_abort_eq_ok_iff`, `Scene.answer_abort_of_not_stoppable`: the answer to an abort.
* `Scene.Stoppable.stopped`: what an abort does.
* `Scene.Stopped.decision`: the requests that come next.
* `Scene.abort_decided`: all of it, in every scene that can come about.
-/

namespace ReplicaSeed

theorem ProcessTable.get?_cancel_of_ne (t : ProcessTable) {p q : ProcessId} (h : q ≠ p) :
    (t.cancel p).get? q = t.get? q := by
  simp only [get?, cancel, List.getElem?_modify]
  grind

namespace Scene

variable {I : Interface} {s t : Scene} {id : SeedId} {stage : Stage} {now : Instant}
  {op op' : Operation} {r : StageRecord} {p : ProcessId}

/-- The stage of the held operation can be stopped: its record is running, and the process that it
has reported last has not ended. -/
structure Stoppable (s : Scene) (id : SeedId) (stage : Stage) (op : Operation) (r : StageRecord)
    (p : ProcessId) : Prop where
  held : s.coordinator.operation = some op
  seedId : op.seedId = id
  record : op.record? stage = some r
  running : r.status = .running
  process : r.process = some p
  live : s.processes.isFinished p = false

/-- The record of a stage that was stopped: it is cancelled, and has no process. -/
def stoppedRecord (stage : Stage) (r : StageRecord) (now : Instant) : StageRecord :=
  r.settle .cancelled (stage.name ++ " aborted") now

/-- In `t` the stage was stopped that in `s` had the record `r` with the process `p`. The operation
is then `op'`. -/
structure Stopped (s t : Scene) (stage : Stage) (now : Instant) (op : Operation) (r : StageRecord)
    (p : ProcessId) (op' : Operation) : Prop where
  held : t.coordinator.operation = some op'
  record : op'.record? stage = some (stoppedRecord stage r now)
  others : ∀ other, other ≠ stage → op'.record? other = op.record? other
  status : op'.status = .cancelled
  seedId_eq : op'.seedId = op.seedId
  stage_eq : op'.stage = op.stage
  side_eq : op'.side = op.side
  method_eq : op'.method = op.method
  cancelled : t.processes.isCancelled p = true
  processes : ∀ q, q ≠ p → t.processes.get? q = s.processes.get? q
  published : t.published = s.published ++ [stoppedRecord stage r now]
  surroundings : t.dispatches = s.dispatches ∧ t.waiting = s.waiting ∧ t.draws = s.draws ∧
    t.coordinator.generation = s.coordinator.generation

/-! ## The answer -/

theorem Stoppable.abort (h : s.Stoppable id stage op r p) (now : Instant) :
    s.coordinator.abort s.processes.isFinished id stage now =
      .ok (s.coordinator.storeEnd op stage (stoppedRecord stage r now),
        stoppedRecord stage r now, p) := by
  have held : s.coordinator.operation? id = some op :=
    Coordinator.operation?_eq_some_iff.2 ⟨h.held, h.seedId⟩
  have live : r.process.filter (fun q => !s.processes.isFinished q) = some p := by
    simp [h.process, h.live]
  simp only [Coordinator.abort, held, h.record, h.running, if_true, live]
  rfl

/-- An abort succeeds exactly if the stage can be stopped. -/
theorem answer_abort_eq_ok_iff :
    s.answer (.abort id stage now : Event I) = some (.ok (.aborted id stage)) ↔
      ∃ op r p, s.Stoppable id stage op r p := by
  constructor
  · intro answered
    cases result : s.coordinator.abort s.processes.isFinished id stage now with
    | error e => simp [answer, result, Except.map] at answered
    | ok stopped =>
      obtain ⟨op, q, held, seedId, found, running, process, live, -⟩ :=
        Coordinator.abort_ok (r := stopped.2.1) (p := stopped.2.2) result
      exact ⟨op, q, _, held, seedId, found, running, process, live⟩
  · rintro ⟨op, r, p, h⟩
    rw [answer, h.abort now]
    rfl

/-- An abort that does not succeed is refused, for the first of three reasons that there is. -/
theorem answer_abort_of_not_stoppable (I : Interface) (now : Instant)
    (h : ¬ ∃ op r p, s.Stoppable id stage op r p) :
    s.answer (.abort id stage now : Event I) = some (.error
      (match s.coordinator.operation? id with
        | none => .seedNotFound id
        | some op => if op.record? stage = none then .stageNotFound id stage
            else .notRunning id stage)) := by
  rw [answer, Coordinator.abort]
  cases held : s.coordinator.operation? id with
  | none => rfl
  | some op =>
    obtain ⟨held, seedId⟩ := Coordinator.operation?_eq_some_iff.1 held
    cases found : op.record? stage with
    | none => simp [found, Except.map]
    | some r =>
      simp only [found]
      by_cases running : r.status = .running
      · have idle : r.process.filter (fun q => !s.processes.isFinished q) = none := by
          rw [Option.filter_eq_none_iff]
          intro p process live
          exact h ⟨op, r, p, held, seedId, found, running, process, by simpa using live⟩
        simp [running, idle, Except.map]
      · simp [running, Except.map]

/-- Only a forward stage can be stopped, and it is the current one. -/
theorem Stoppable.current (h : s.Stoppable id stage op r p) (wellFormed : op.WellFormed) :
    stage ≠ .metadataFetch ∧ op.stage = stage := by
  have forward := (wellFormed.process h.record h.process).2
  exact ⟨forward, (wellFormed.inFlight forward h.record h.running).symm⟩

/-! ## What is done -/

theorem Stoppable.after (h : s.Stoppable id stage op r p) (now : Instant) :
    s.after (.abort id stage now : Event I) =
      { (s.hold (op.endStage stage (stoppedRecord stage r now))).publish
          (stoppedRecord stage r now) with processes := s.processes.cancel p } := by
  rw [Scene.after, Scene.abort, h.abort now]
  rfl

/-- An abort stops the stage, and with it the operation, and changes nothing else. -/
theorem Stoppable.stopped (h : s.Stoppable id stage op r p) (wellFormed : op.WellFormed)
    (now : Instant) :
    s.Stopped (s.after (.abort id stage now : Event I)) stage now op r p
      (op.endStage stage (stoppedRecord stage r now)) := by
  rw [h.after now]
  exact {
    held := rfl
    record := by simp
    others := by
      intro other ne
      simp [ne]
    status := by
      rw [Operation.status_endStage, if_pos (h.current wellFormed).2]
      rfl
    seedId_eq := rfl
    stage_eq := rfl
    side_eq := rfl
    method_eq := rfl
    cancelled := by simp [h.live]
    processes := by
      intro q ne
      exact s.processes.get?_cancel_of_ne ne
    published := rfl
    surroundings := ⟨rfl, rfl, rfl, rfl⟩ }

/-! ## What may be done next -/

/-- Behind a stage that was stopped, every forward stage starts that is not complete. -/
theorem Stopped.verdict (h : s.Stopped t stage now op r p op') (wellFormed : op'.WellFormed)
    {next : Stage} (open_ : ∀ q, op'.record? next = some q → q.status ≠ .completed)
    (forward : next ≠ .metadataFetch) : op'.verdict next = .ok .started := by
  have settled : op'.status ≠ .running := by
    rw [h.status]
    simp
  have idle : ∀ other q, other ≠ .metadataFetch → op'.record? other = some q →
      q.status ≠ .running := by
    intro other q forward found running
    exact settled (wellFormed.status_eq_running.2 ⟨other, q, forward, found, running⟩)
  have free : ¬ (op'.record? next).any fun q => q.status == .running || q.status == .completed := by
    intro blocked
    obtain ⟨q, found, blocks⟩ := (Option.any_eq_true ..).1 blocked
    simp only [Bool.or_eq_true, beq_iff_eq] at blocks
    obtain running | completed := blocks
    · exact idle next q forward found running
    · exact open_ q found completed
  rw [Operation.verdict, if_neg free, Operation.inFlight?_eq_none.2 idle]

/-- So does a request for it with the identifier and the method of the operation, if the method is
available and the request is complete. -/
theorem Stopped.decision (h : s.Stopped t stage now op r p op') (wellFormed : op'.WellFormed)
    {registry : Registry I} {name : String} {m : SeedMethod I} {request : StageRequest}
    (resolved : registry.resolve? name = some m) (available : registry.isAvailable m.kind = true)
    (same : m.kind = op.method) (complete : request.lacksHost = false)
    (open_ : ∀ q, op'.record? request.stage = some q → q.status ≠ .completed) :
    request.decision registry t.coordinator.operation op.seedId name = .ok .started := by
  have verdict := h.verdict wellFormed open_ request.stage_ne_metadataFetch
  have method : op'.method = m.kind := h.method_eq.trans same.symm
  simp [StageRequest.decision, StageRequest.verdict, complete, resolved, available, h.held,
    h.seedId_eq, method, verdict]

/-- A request to stop a stage succeeds exactly if the record of the stage is running and its process
has not ended; otherwise it is refused, for the first of three reasons, and does nothing. A success
cancels the stage and the operation and asks the process to stop, and leaves the rest as it is. A
request that comes next is answered by a start, whatever stage it is for, unless the stage is
complete; it must name the identifier and the method of the operation, which must be available, and
a Backup must name the other server. A metadata fetch is never stopped. -/
theorem abort_decided (hostname : String) (events : List (Event I)) (id : SeedId) (stage : Stage)
    (now : Instant) :
    let s := (initial hostname).run events
    let t := s.after (.abort id stage now : Event I)
    (s.answer (.abort id stage now : Event I) = some (.ok (.aborted id stage)) ↔
      ∃ op r p, s.Stoppable id stage op r p) ∧
    ((¬ ∃ op r p, s.Stoppable id stage op r p) →
      t = s ∧ s.answer (.abort id stage now : Event I) = some (.error
        (match s.coordinator.operation? id with
          | none => .seedNotFound id
          | some op => if op.record? stage = none then .stageNotFound id stage
              else .notRunning id stage))) ∧
    (∀ op r p, s.Stoppable id stage op r p → ∃ op', s.Stopped t stage now op r p op' ∧
      ∀ (registry : Registry I) (name : String) (m : SeedMethod I) (request : StageRequest)
        (later : Instant), registry.resolve? name = some m → registry.isAvailable m.kind = true →
        m.kind = op.method → request.lacksHost = false →
        (∀ q, op'.record? request.stage = some q → q.status ≠ .completed) →
          some (.ok (.start .started)) ∈
            t.answers (t.call registry later (.start id name request))) ∧
    s.answer (.abort id .metadataFetch now : Event I) ≠
      some (.ok (.aborted id .metadataFetch)) := by
  intro s t
  have consistent : s.Consistent := consistent_run hostname events
  refine ⟨answer_abort_eq_ok_iff, ?_, ?_, ?_⟩
  · intro nothing
    have refused := answer_abort_of_not_stoppable I now nothing
    refine ⟨abort_of_declined refused (.refused ?_), refused⟩
    split
    · rfl
    · split <;> rfl
  · intro op r p stoppable
    have stopped := stoppable.stopped (I := I) (consistent.held stoppable.held) now
    have next : t.Consistent := consistent.step (s.step_after _)
    refine ⟨_, stopped, ?_⟩
    intro registry name m request later resolved available same complete open_
    have decision :=
      stopped.decision (next.held stopped.held) resolved available same complete open_
    rw [stoppable.seedId] at decision
    have outcome := (Coordinator.request_outcome next.held registry id name request later).trans
      decision
    have answer := mem_answers_call_start t registry id name request later
    cases result : (t.coordinator.request registry id name request later).2 with
    | error e => simp [result, Except.map] at outcome
    | ok start =>
      simp only [result, Except.map, Except.ok.injEq] at outcome answer
      rwa [outcome] at answer
  · intro answered
    obtain ⟨op, r, p, stoppable⟩ := answer_abort_eq_ok_iff.1 answered
    exact (stoppable.current (consistent.held stoppable.held)).1 rfl

/-- A backup that is stopped while its dump runs may be requested again at once, from another
server. -/
theorem abort_decided_backingUp :
    let s := (initial "db1").run backingUp
    let t := s.after (.abort ⟨1⟩ .backup .epoch : Event Interface.host)
    t.processes.isCancelled 0 = true ∧
      some (.ok (.start .started)) ∈
        t.answers (t.call .probed .epoch (.start ⟨1⟩ "mysqldump" (.backup "db3" 3306))) := by
  intro s t
  obtain ⟨-, -, stops, -⟩ := abort_decided (I := Interface.host) "db1" backingUp ⟨1⟩ .backup .epoch
  obtain ⟨op', stopped, next⟩ := stops _ _ 0 ⟨rfl, rfl, rfl, rfl, rfl, rfl⟩
  refine ⟨stopped.cancelled, next .probed "mysqldump" _ _ .epoch rfl rfl rfl rfl ?_⟩
  intro q found
  obtain rfl := Option.some.inj (found.symm.trans stopped.record)
  simp [stoppedRecord, StageRecord.settle]

/-- A backup that names no server is refused behind an abort as it is at any other time. -/
theorem backup_of_nowhere_refused :
    let s := (initial "db1").run backingUp
    let t := s.after (.abort ⟨1⟩ .backup .epoch : Event Interface.host)
    s.answer (.abort ⟨1⟩ .backup .epoch : Event Interface.host) =
        some (.ok (.aborted ⟨1⟩ .backup)) ∧
      (∃ op r, t.coordinator.operation = some op ∧ op.seedId = ⟨1⟩ ∧ op.method = .mysqldump ∧
        op.record? .backup = some r ∧ r.status ≠ .completed) ∧
      Registry.probed.isAvailable .mysqldump = true ∧
      some (.ok (.start .started)) ∉
        t.answers (t.call .probed .epoch (.start ⟨1⟩ "mysqldump" (.backup "" 3306))) := by
  intro s t
  have answers : t.answers (t.call .probed .epoch (.start ⟨1⟩ "mysqldump" (.backup "" 3306))) =
      [some (.error (.invalidRequest "backup host is empty")), none] := rfl
  refine ⟨rfl, ⟨_, _, rfl, rfl, rfl, rfl, by decide⟩, rfl, ?_⟩
  rw [answers]
  simp

end Scene

end ReplicaSeed
