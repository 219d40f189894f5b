import ReplicaSeed.Agent.Request
import ReplicaSeed.Proofs.Operation.WellFormed

/-!
# What requests and reports change

For each request and each report, everything it can do to the coordinator. Later arguments go
through these statements and never look at the definitions again.

## Main definitions

* `Coordinator.Concerns`: the operation that a request for a stage is about.

## Main statements

* `Coordinator.startAs_cases`: a request for a stage is refused, was served already, or begins it.
* `Coordinator.beginMetadataAs_cases`: a metadata fetch is refused or begins.
* `Coordinator.abort_ok`, `progress_eq_some_iff`, `finish_eq_some_iff`: the other changes.
-/

namespace ReplicaSeed

namespace Coordinator

variable {c c' : Coordinator} {id : SeedId} {kind : Method} {request : StageRequest}
  {n : Generation} {now : Instant} {op : Operation} {r : StageRecord} {key : DispatchKey}

/-! ## The operation of a request -/

theorem operation?_eq_some_iff :
    c.operation? id = some op ↔ c.operation = some op ∧ op.seedId = id := by
  simp [operation?, Option.filter_eq_some_iff]

theorem heldOperation_ok :
    c.heldOperation id kind = .ok op ↔
      c.operation = some op ∧ op.seedId = id ∧ op.method = kind := by
  rw [heldOperation, ← and_assoc, ← operation?_eq_some_iff]
  cases c.operation? id with
  | none => simp
  | some held =>
    by_cases hm : held.method = kind
    · simp only [hm, if_true, Except.ok.injEq, Option.some.injEq]
      exact ⟨fun h => ⟨h, h ▸ hm⟩, And.left⟩
    · simp only [hm, if_false, reduceCtorEq, Option.some.injEq, false_iff, not_and]
      exact fun h => h ▸ hm

/-- The operation that a request for a stage is about: the held one, or a fresh one for a Prepare
that finds no stage in flight. -/
inductive Concerns (c : Coordinator) (id : SeedId) (kind : Method) :
    StageRequest → Operation → Prop where
  | held {request : StageRequest} {op : Operation} (held : c.operation = some op)
      (seedId : op.seedId = id) (method : op.method = kind) : Concerns c id kind request op
  | fresh {side : Side}
      (idle : ∀ op, c.operation = some op → op.seedId ≠ id ∧ op.runningStage? = none) :
      Concerns c id kind (.prepare side) (.fresh id side kind)

theorem Concerns.seedId (h : c.Concerns id kind request op) : op.seedId = id := by
  cases h with
  | held _ hid _ => exact hid
  | fresh => rfl

theorem Concerns.method (h : c.Concerns id kind request op) : op.method = kind := by
  cases h with
  | held _ _ hm => exact hm
  | fresh => rfl

theorem operationForPrepare_ok {side : Side}
    (h : c.operationForPrepare id side kind = .ok (c', op)) :
    c.Concerns id kind (.prepare side) op ∧ c' = { c with operation := some op } := by
  unfold operationForPrepare at h
  split at h
  · cases h
    exact ⟨.fresh (by simp_all), rfl⟩
  · rename_i held hheld
    split at h
    · split at h
      · cases h
        refine ⟨.held hheld ‹_› ‹_›, ?_⟩
        rw [← hheld]
      · cases h
    · split at h
      · cases h
      · cases h
        exact ⟨.fresh (by simp_all), rfl⟩

theorem operationFor_ok (h : c.operationFor id kind request = .ok (c', op)) :
    c.Concerns id kind request op ∧ c' = { c with operation := some op } := by
  have later (h : (c.heldOperation id kind).map (fun op => (c, op)) = .ok (c', op)) :
      c.Concerns id kind request op ∧ c' = { c with operation := some op } := by
    cases hh : c.heldOperation id kind with
    | error e => simp [hh, Except.map] at h
    | ok held =>
      simp only [hh, Except.map, Except.ok.injEq, Prod.mk.injEq] at h
      obtain ⟨rfl, rfl⟩ := h
      obtain ⟨hc, hid, hm⟩ := heldOperation_ok.1 hh
      refine ⟨.held hc hid hm, ?_⟩
      rw [← hc]
  cases request with
  | prepare side => exact operationForPrepare_ok h
  | backup host port => exact later h
  | restore => exact later h
  | cleanup side => exact later h

/-! ## Requests for a stage -/

/-- The record with which a requested stage of `op` begins. -/
def firstRecord (c : Coordinator) (op : Operation) (request : StageRequest) (n : Generation)
    (now : Instant) : StageRecord :=
  .running { op with side := requestedSide op request } request.stage c.hostname now n

/-- The operation in which a requested stage begins. -/
def entered (c : Coordinator) (op : Operation) (request : StageRequest) (n : Generation)
    (now : Instant) : Operation :=
  { op with side := requestedSide op request }.enter (c.firstRecord op request n now)

theorem record?_entered (other : Stage) :
    (c.entered op request n now).record? other =
      if other = request.stage then some (c.firstRecord op request n now)
      else op.record? other :=
  Operation.record?_enter ..

/-- A request for a stage is refused, was served already, or begins the stage. Unless it begins the
stage it leaves the coordinator as it is. -/
theorem startAs_cases (c : Coordinator) (n : Generation) (kind : Method) (id : SeedId)
    (request : StageRequest) (now : Instant) :
    (∃ e, c.startAs n kind id request now = (c, .error e)) ∨
    (∃ op r, c.operation = some op ∧ op.seedId = id ∧ op.method = kind ∧
      op.record? request.stage = some r ∧ r.status.blocksRestart ∧
      c.startAs n kind id request now = (c, .ok (.already request.stage))) ∨
    ∃ op, c.Concerns id kind request op ∧
      (∀ r, op.record? request.stage = some r → r.status.blocksRestart = false) ∧
      op.phase.allows request.stage ∧
      c.startAs n kind id request now =
        ({ c with operation := some (c.entered op request n now) },
          .ok (.dispatched (c.firstRecord op request n now) (requestedSide op request))) := by
  unfold startAs
  split
  · exact .inl ⟨_, rfl⟩
  rename_i c' op hop
  obtain ⟨concerns, rfl⟩ := operationFor_ok hop
  by_cases blocked : (op.record? request.stage).any (·.status.blocksRestart)
  · obtain ⟨r, hr, hb⟩ := (Option.any_eq_true ..).1 blocked
    cases concerns with
    | held hc hid hm =>
      refine .inr (.inl ⟨op, r, hc, hid, hm, hr, hb, ?_⟩)
      rw [if_pos blocked, ← hc]
    | fresh => simp at hr
  have free (r : StageRecord) (hr : op.record? request.stage = some r) :
      r.status.blocksRestart = false := by
    simpa [hr] using blocked
  rw [if_neg blocked]
  by_cases allowed : op.phase.allows request.stage
  · rw [Phase.permit_of_allows allowed]
    exact .inr (.inr ⟨op, concerns, free, allowed, rfl⟩)
  · cases concerns with
    | held hc =>
      rw [Phase.permit_of_not_allows allowed]
      exact .inl ⟨_, by rw [← hc]⟩
    | fresh => exact absurd rfl allowed

/-! ## Metadata fetches -/

/-- The record with which a metadata fetch begins. -/
def fetchRecord (c : Coordinator) (op : Operation) (n : Generation) (now : Instant) : StageRecord :=
  .running op .metadataFetch c.hostname now n

/-- A metadata fetch begins, or leaves the coordinator as it is. -/
theorem beginMetadataAs_cases (c : Coordinator) (n : Generation) (kind : Method) (id : SeedId)
    (now : Instant) :
    (∃ e, c.beginMetadataAs n kind id now = (c, .error e)) ∨
    ∃ op b, c.operation = some op ∧ op.seedId = id ∧ op.method = kind ∧
      op.record? .backup = some b ∧ b.status = .completed ∧
      c.beginMetadataAs n kind id now =
        ({ c with operation := some (op.withRecord .metadataFetch (c.fetchRecord op n now)) },
          .ok (c.fetchRecord op n now)) := by
  unfold beginMetadataAs
  split
  · exact .inl ⟨_, rfl⟩
  rename_i op hop
  obtain ⟨hc, hid, hm⟩ := heldOperation_ok.1 hop
  by_cases done : (op.record? .backup).any (·.status == .completed)
  · obtain ⟨b, hb, hs⟩ := (Option.any_eq_true ..).1 done
    rw [if_pos done]
    by_cases allowed : op.phase.allows .metadataFetch
    · rw [Phase.permit_of_allows allowed]
      exact .inr ⟨op, b, hc, hid, hm, hb, by simpa using hs, rfl⟩
    · rw [Phase.permit_of_not_allows allowed]
      exact .inl ⟨_, rfl⟩
  · rw [if_neg done]
    exact .inl ⟨_, rfl⟩

/-! ## Reports -/

theorem recordOf?_eq_some_iff :
    c.recordOf? key = some (op, r) ↔
      c.operation = some op ∧ op.seedId = key.seedId ∧ op.record? key.stage = some r ∧
        r.generation = key.generation := by
  simp only [recordOf?, Option.bind_eq_bind, Option.bind_eq_some_iff, operation?_eq_some_iff]
  constructor
  · rintro ⟨op', ⟨hc, hid⟩, r', hr, h⟩
    split at h
    · cases h
      exact ⟨hc, hid, hr, ‹_›⟩
    · cases h
  · rintro ⟨hc, hid, hr, hn⟩
    exact ⟨op, ⟨hc, hid⟩, r, hr, if_pos hn⟩

theorem runningRecord?_eq_some_iff :
    c.runningRecord? key = some (op, r) ↔
      c.recordOf? key = some (op, r) ∧ r.status = .running := by
  simp [runningRecord?, Option.filter_eq_some_iff]

theorem progress_eq_some_iff {details : String} :
    c.progress key details now = some (c', r) ↔
      ∃ op q, c.recordOf? key = some (op, q) ∧ q.status = .running ∧
        r = { q with details, updatedAt := now } ∧ c' = c.store op key.stage r := by
  simp only [progress, Option.map_eq_some_iff, Prod.exists, Prod.mk.injEq,
    runningRecord?_eq_some_iff]
  constructor
  · rintro ⟨op, q, ⟨hq, hs⟩, rfl, rfl⟩
    exact ⟨op, q, hq, hs, rfl, rfl⟩
  · rintro ⟨op, q, hq, hs, rfl, rfl⟩
    exact ⟨op, q, ⟨hq, hs⟩, rfl, rfl⟩

theorem processStarted_eq_some_iff {p : ProcessId} :
    c.processStarted key p now = some c' ↔
      ∃ op q, c.recordOf? key = some (op, q) ∧ q.status = .running ∧
        c' = c.store op key.stage { q with process := some p, updatedAt := now } := by
  simp only [processStarted, Option.map_eq_some_iff, Prod.exists, runningRecord?_eq_some_iff]
  constructor
  · rintro ⟨op, q, ⟨hq, hs⟩, rfl⟩
    exact ⟨op, q, hq, hs, rfl⟩
  · rintro ⟨op, q, hq, hs, rfl⟩
    exact ⟨op, q, ⟨hq, hs⟩, rfl⟩

theorem processStarted_eq_none {p : ProcessId} (h : c.processStarted key p now = none)
    (found : c.recordOf? key = some (op, r)) : r.status ≠ .running := by
  rw [processStarted, Option.map_eq_none_iff] at h
  intro running
  have := runningRecord?_eq_some_iff.2 ⟨found, running⟩
  exact Option.some_ne_none _ (this.symm.trans h)

theorem finish_eq_some_iff {status : Status} {details : String} :
    c.finish key status details now = some (c', r) ↔
      ∃ op q, c.recordOf? key = some (op, q) ∧ q.status ≠ .cancelled ∧
        r = q.settle status details now ∧ c' = c.storeEnd op key.stage r := by
  simp only [finish, Option.map_eq_some_iff, Option.filter_eq_some_iff, Prod.exists,
    Prod.mk.injEq, bne_iff_ne]
  constructor
  · rintro ⟨op, q, ⟨hq, hs⟩, rfl, rfl⟩
    exact ⟨op, q, hq, hs, rfl, rfl⟩
  · rintro ⟨op, q, hq, hs, rfl, rfl⟩
    exact ⟨op, q, ⟨hq, hs⟩, rfl, rfl⟩

theorem finish_eq_none {status : Status} {details : String}
    (h : c.finish key status details now = none) (found : c.recordOf? key = some (op, r)) :
    r.status = .cancelled := by
  rw [finish, Option.map_eq_none_iff, Option.filter_eq_none_iff] at h
  simpa using h (op, r) found

/-! ## Aborts -/

theorem abort_ok {finished : ProcessId → Bool} {stage : Stage} {p : ProcessId}
    (h : c.abort finished id stage now = .ok (c', r, p)) :
    ∃ op q, c.operation = some op ∧ op.seedId = id ∧ op.record? stage = some q ∧
      q.status = .running ∧ q.process = some p ∧ finished p = false ∧
      r = q.settle .cancelled (stage.name ++ " aborted") now ∧ c' = c.storeEnd op stage r := by
  unfold abort at h
  split at h
  · cases h
  rename_i op hop
  obtain ⟨hc, hid⟩ := operation?_eq_some_iff.1 hop
  split at h
  · cases h
  rename_i q hq
  split at h
  · rename_i running
    split at h
    · cases h
    · rename_i live
      simp only [Option.filter_eq_some_iff, Bool.not_eq_true'] at live
      cases h
      exact ⟨op, q, hc, hid, hq, running, live.1, live.2, rfl, rfl⟩
  · cases h

end Coordinator

end ReplicaSeed
