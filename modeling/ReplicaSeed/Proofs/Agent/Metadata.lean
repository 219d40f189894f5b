import ReplicaSeed.Proofs.Agent.Change

/-!
# The coordinator without its metadata record

A metadata fetch shares the records of an operation with the stages. Its record is taken away here:
what the coordinator does about a stage is the same with it and without it.

## Main definitions

* `Operation.withoutMetadata`, `Coordinator.withoutMetadata`: without the record of the fetch.

## Main statements

* `Operation.WellFormed.phase_withoutMetadata`, `WellFormed.runningStage?_withoutMetadata`: neither
  looks at the record.
* `Coordinator.startAs_withoutMetadata`, `abort_withoutMetadata`: nor do requests for a stage.
* `Coordinator.progress_withoutMetadata`, `processStarted_withoutMetadata`,
  `finish_withoutMetadata`: nor do reports on one.
-/

namespace ReplicaSeed

/-! ## Operations -/

namespace Operation

variable (op : Operation) {stage : Stage} {r : StageRecord}

/-- The operation without its metadata record. -/
def withoutMetadata : Operation := { op with records := op.records.put .metadataFetch none }

@[simp] theorem seedId_withoutMetadata : op.withoutMetadata.seedId = op.seedId := rfl

@[simp] theorem method_withoutMetadata : op.withoutMetadata.method = op.method := rfl

@[simp] theorem side_withoutMetadata : op.withoutMetadata.side = op.side := rfl

@[simp] theorem stage_withoutMetadata : op.withoutMetadata.stage = op.stage := rfl

theorem record?_withoutMetadata (other : Stage) :
    op.withoutMetadata.record? other =
      if other = .metadataFetch then none else op.record? other :=
  Stage.Map.get?_put ..

theorem record?_withoutMetadata_of_ne (forward : stage ≠ .metadataFetch) :
    op.withoutMetadata.record? stage = op.record? stage := by
  rw [record?_withoutMetadata, if_neg forward]

theorem withoutMetadata_withRecord (forward : stage ≠ .metadataFetch) :
    (op.withRecord stage r).withoutMetadata = op.withoutMetadata.withRecord stage r := by
  have comm : (op.records.insert stage r).put .metadataFetch none =
      (op.records.put .metadataFetch none).insert stage r := by
    refine Stage.Map.ext_get? fun other => ?_
    simp only [Stage.Map.get?_put, Stage.Map.get?_insert]
    by_cases h : other = stage
    · simp [h, forward]
    · simp [h]
  simp only [withoutMetadata, withRecord, comm]

theorem withoutMetadata_withMetadata :
    (op.withRecord .metadataFetch r).withoutMetadata = op.withoutMetadata := by
  have gone : (op.records.insert .metadataFetch r).put .metadataFetch none =
      op.records.put .metadataFetch none := rfl
  simp only [withoutMetadata, withRecord, gone]

theorem withoutMetadata_enter (forward : r.stage ≠ .metadataFetch) :
    (op.enter r).withoutMetadata = op.withoutMetadata.enter r :=
  congrArg (fun op' : Operation => { op' with stage := r.stage, status := .running })
    (op.withoutMetadata_withRecord forward)

theorem withoutMetadata_endStage (forward : stage ≠ .metadataFetch) :
    (op.endStage stage r).withoutMetadata = op.withoutMetadata.endStage stage r :=
  congrArg (fun op' : Operation =>
    { op' with status := if op.stage = stage then r.status else op.status })
    (op.withoutMetadata_withRecord forward)

variable {op}

theorem WellFormed.withoutMetadata_endFetch (h : op.WellFormed) :
    (op.endStage .metadataFetch r).withoutMetadata = op.withoutMetadata := by
  have ended : op.endStage .metadataFetch r = op.withRecord .metadataFetch r := by
    rw [Operation.endStage, if_neg h.forward]
    rfl
  rw [ended, withoutMetadata_withMetadata]

theorem WellFormed.withoutMetadata (h : op.WellFormed) : op.withoutMetadata.WellFormed := by
  have kept {stage : Stage} {r : StageRecord} (hr : op.withoutMetadata.record? stage = some r) :
      stage ≠ .metadataFetch ∧ op.record? stage = some r := by
    rw [record?_withoutMetadata] at hr
    split at hr
    · cases hr
    · exact ⟨‹_›, hr⟩
  refine ⟨⟨fun hr => h.about (kept hr).2, fun hr => h.process (kept hr).2⟩, ?_, h.forward, ?_,
    fun forward hr => h.inFlight forward (kept hr).2⟩
  · obtain ⟨p, hp⟩ := h.prepared
    exact ⟨p, by rwa [op.record?_withoutMetadata_of_ne (by decide)]⟩
  · obtain ⟨c, hc, hs⟩ := h.current
    refine ⟨c, ?_, hs⟩
    rwa [stage_withoutMetadata, op.record?_withoutMetadata_of_ne h.forward]

/-- The phase does not depend on the fetch. -/
theorem WellFormed.phase_withoutMetadata (h : op.WellFormed) :
    op.withoutMetadata.phase = op.phase := by
  rw [h.withoutMetadata.phase_eq, h.phase_eq]
  rfl

/-- Nor does the stage in flight. -/
theorem WellFormed.runningStage?_withoutMetadata (h : op.WellFormed) :
    op.withoutMetadata.runningStage? = op.runningStage? := by
  rw [h.withoutMetadata.runningStage?_eq, h.runningStage?_eq, h.phase_withoutMetadata]
  rfl

end Operation

/-! ## The coordinator -/

namespace Coordinator

variable {c : Coordinator} {key : DispatchKey} {op op' : Operation} {stage : Stage}

/-- The coordinator without the metadata record of its operation. -/
def withoutMetadata (c : Coordinator) : Coordinator :=
  { c with operation := c.operation.map Operation.withoutMetadata }

theorem withoutMetadata_hold (c : Coordinator) (op : Operation) :
    { c with operation := some op }.withoutMetadata =
      { c.withoutMetadata with operation := some op.withoutMetadata } := rfl

theorem withoutMetadata_store (c : Coordinator) (op : Operation) (r : StageRecord)
    (forward : stage ≠ .metadataFetch) :
    (c.store op stage r).withoutMetadata = c.withoutMetadata.store op.withoutMetadata stage r := by
  rw [store, withoutMetadata_hold, op.withoutMetadata_withRecord forward]
  rfl

theorem withoutMetadata_storeEnd (c : Coordinator) (op : Operation) (r : StageRecord)
    (forward : stage ≠ .metadataFetch) :
    (c.storeEnd op stage r).withoutMetadata =
      c.withoutMetadata.storeEnd op.withoutMetadata stage r := by
  rw [storeEnd, withoutMetadata_hold, op.withoutMetadata_endStage forward]
  rfl

/-- A change of the metadata record alone does not show. -/
theorem withoutMetadata_of_held (held : c.operation = some op)
    (same : op'.withoutMetadata = op.withoutMetadata) :
    { c with operation := some op' }.withoutMetadata = c.withoutMetadata := by
  rw [withoutMetadata_hold, same]
  simp [withoutMetadata, held]

theorem operation?_withoutMetadata (c : Coordinator) (id : SeedId) :
    c.withoutMetadata.operation? id = (c.operation? id).map Operation.withoutMetadata := by
  simp only [operation?, withoutMetadata, Option.filter_map]
  rfl

theorem heldOperation_withoutMetadata (c : Coordinator) (id : SeedId) (kind : Method) :
    c.withoutMetadata.heldOperation id kind =
      (c.heldOperation id kind).map Operation.withoutMetadata := by
  simp only [heldOperation, operation?_withoutMetadata]
  cases c.operation? id with
  | none => rfl
  | some op =>
    simp only [Option.map_some, Operation.withoutMetadata]
    split <;> rfl

theorem operationFor_withoutMetadata (held : ∀ {op}, c.operation = some op → op.WellFormed)
    (id : SeedId) (kind : Method) (request : StageRequest) :
    c.withoutMetadata.operationFor id kind request =
      (c.operationFor id kind request).map fun (c, op) =>
        (c.withoutMetadata, op.withoutMetadata) := by
  have later : (c.withoutMetadata.heldOperation id kind).map (fun op => (c.withoutMetadata, op)) =
      ((c.heldOperation id kind).map fun op => (c, op)).map
        fun (c, op) => (c.withoutMetadata, op.withoutMetadata) := by
    rw [heldOperation_withoutMetadata]
    cases c.heldOperation id kind <;> rfl
  cases request with
  | prepare side =>
    cases hc : c.operation with
    | none =>
      simp only [operationFor, operationForPrepare, withoutMetadata, hc]
      rfl
    | some op =>
      have same := (held hc).runningStage?_withoutMetadata
      by_cases hid : op.seedId = id
      · by_cases hm : op.method = kind <;>
          simp [operationFor, operationForPrepare, withoutMetadata, hc, hid, hm, Except.map]
      · simp only [operationFor, operationForPrepare, withoutMetadata, hc, Option.map_some,
          Operation.seedId_withoutMetadata, hid, if_false, same]
        cases op.runningStage? <;> rfl
  | _ => exact later

/-- A request for a stage has the same answer, and what it leaves is the same. -/
theorem startAs_withoutMetadata (held : ∀ {op}, c.operation = some op → op.WellFormed)
    (n : Generation) (kind : Method) (id : SeedId) (request : StageRequest) (now : Instant) :
    c.withoutMetadata.startAs n kind id request now =
      ((c.startAs n kind id request now).1.withoutMetadata,
        (c.startAs n kind id request now).2) := by
  have forward := request.stage_ne_metadataFetch
  simp only [startAs, operationFor_withoutMetadata held]
  cases found : c.operationFor id kind request with
  | error e => rfl
  | ok pair =>
    obtain ⟨c', op⟩ := pair
    obtain ⟨concerns, rfl⟩ := operationFor_ok found
    have phase : op.withoutMetadata.phase = op.phase := by
      cases concerns with
      | held hc => exact (held hc).phase_withoutMetadata
      | fresh => rfl
    have side : requestedSide op.withoutMetadata request = requestedSide op request := by
      cases request <;> rfl
    simp only [Except.map, op.record?_withoutMetadata_of_ne forward, phase]
    by_cases blocked : (op.record? request.stage).any (·.status.blocksRestart)
    · rw [if_pos blocked, if_pos (by exact blocked)]
    rw [if_neg blocked, if_neg (by exact blocked)]
    cases Phase.permit id op.phase request.stage with
    | error e => rfl
    | ok =>
      simp only [side, withoutMetadata_hold]
      rw [Operation.withoutMetadata_enter _ (by exact forward)]
      rfl

/-- So has an abort of a stage. -/
theorem abort_withoutMetadata (c : Coordinator) (finished : ProcessId → Bool) (id : SeedId)
    (forward : stage ≠ .metadataFetch) (now : Instant) :
    c.withoutMetadata.abort finished id stage now =
      (c.abort finished id stage now).map fun (c, r, p) => (c.withoutMetadata, r, p) := by
  simp only [abort, operation?_withoutMetadata]
  cases c.operation? id with
  | none => rfl
  | some op =>
    simp only [Option.map_some, op.record?_withoutMetadata_of_ne forward]
    cases op.record? stage with
    | none => rfl
    | some r =>
      by_cases running : r.status = .running
      · simp only [running, if_true]
        cases r.process.filter fun p => !finished p with
        | none => rfl
        | some p => simp only [Except.map, withoutMetadata_storeEnd _ _ _ forward]
      · simp only [running, if_false]
        rfl

/-- A fetch cannot be aborted: it has no process. -/
theorem abort_metadataFetch (held : ∀ {op}, c.operation = some op → op.WellFormed)
    (finished : ProcessId → Bool) (id : SeedId) (now : Instant) :
    ∃ e, c.abort finished id .metadataFetch now = .error e := by
  cases aborted : c.abort finished id .metadataFetch now with
  | error e => exact ⟨e, rfl⟩
  | ok done =>
    obtain ⟨c', r, p⟩ := done
    obtain ⟨op, q, hc, -, found, -, process, -⟩ := abort_ok aborted
    exact absurd rfl ((held hc).process found process).2

theorem recordOf?_withoutMetadata (c : Coordinator) (forward : key.stage ≠ .metadataFetch) :
    c.withoutMetadata.recordOf? key =
      (c.recordOf? key).map fun (op, r) => (op.withoutMetadata, r) := by
  simp only [recordOf?, operation?_withoutMetadata]
  cases c.operation? key.seedId with
  | none => rfl
  | some op =>
    simp only [Option.map_some, Option.bind_eq_bind, Option.bind_some,
      op.record?_withoutMetadata_of_ne forward]
    cases op.record? key.stage with
    | none => rfl
    | some r => by_cases same : r.generation = key.generation <;> simp [same]

theorem progress_withoutMetadata (c : Coordinator) (forward : key.stage ≠ .metadataFetch)
    (details : String) (now : Instant) :
    c.withoutMetadata.progress key details now =
      (c.progress key details now).map fun (c, r) => (c.withoutMetadata, r) := by
  simp only [progress, runningRecord?, c.recordOf?_withoutMetadata forward, Option.filter_map,
    Option.map_map]
  refine Option.map_congr fun found _ => ?_
  simp only [Function.comp_apply, withoutMetadata_store _ _ _ forward]

theorem processStarted_withoutMetadata (c : Coordinator) (forward : key.stage ≠ .metadataFetch)
    (p : ProcessId) (now : Instant) :
    c.withoutMetadata.processStarted key p now =
      (c.processStarted key p now).map withoutMetadata := by
  simp only [processStarted, runningRecord?, c.recordOf?_withoutMetadata forward,
    Option.filter_map, Option.map_map]
  refine Option.map_congr fun found _ => ?_
  simp only [Function.comp_apply, withoutMetadata_store _ _ _ forward]

theorem finish_withoutMetadata (c : Coordinator) (forward : key.stage ≠ .metadataFetch)
    (status : Status) (details : String) (now : Instant) :
    c.withoutMetadata.finish key status details now =
      (c.finish key status details now).map fun (c, r) => (c.withoutMetadata, r) := by
  simp only [finish, c.recordOf?_withoutMetadata forward, Option.filter_map, Option.map_map]
  refine Option.map_congr fun found _ => ?_
  simp only [Function.comp_apply, withoutMetadata_storeEnd _ _ _ forward]

end Coordinator

end ReplicaSeed
