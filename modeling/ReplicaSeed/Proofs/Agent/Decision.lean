import ReplicaSeed.Proofs.Agent.HeldOperation

/-!
# The decision on a request

A request for a stage is decided by the registry and by the records of the held operation alone.
The coordinator asks the phase of the operation instead, which it keeps as stage and status beside
the records. In every scene that can come about, the two agree.

## Main definitions

* `Operation.inFlight?`: the forward stage whose record is running.
* `StageRequest.verdict`: the decision, from the records.
* `StageRequest.decision`: the same, with the request and its method checked first.

## Main statements

* `Coordinator.startAs_outcome`: a request whose turn it is.
* `Scene.request_decided`: a request, and the operation that it leads to.
-/

namespace ReplicaSeed

/-! ## The decision -/

/-- The forward stage whose record is running, if there is one. -/
def Operation.inFlight? (op : Operation) : Option Stage :=
  [.prepare, .backup, .restore, .cleanup].find? fun stage =>
    (op.record? stage).any (·.status == .running)

/-- What becomes of a request for a stage of this operation. -/
def Operation.verdict (op : Operation) (stage : Stage) : Except RequestError StartOutcome :=
  if (op.record? stage).any fun r => r.status == .running || r.status == .completed then
    .ok (.alreadyStarted stage)
  else
    match op.inFlight? with
    | some other => .error (.invalidTransition op.seedId (.of other .running) stage)
    | none => .ok .started

namespace StageRequest

/-- What becomes of a request with a method that can be used. -/
def verdict (request : StageRequest) (held : Option Operation) (id : SeedId) (kind : Method) :
    Except RequestError StartOutcome :=
  match held with
  | none =>
    match request with
    | .prepare _ => .ok .started
    | _ => .error (.seedNotFound id)
  | some op =>
    if op.seedId = id then
      if op.method = kind then op.verdict request.stage
      else .error (.methodMismatch id op.method kind)
    else
      match request, op.inFlight? with
      | .prepare _, some stage => .error (.operationRunning op.seedId stage)
      | .prepare _, none => .ok .started
      | _, _ => .error (.seedNotFound id)

/-- The request is for a Backup and does not name the other server. -/
def lacksHost : StageRequest → Bool
  | .backup host _ => host == ""
  | _ => false

/-- What becomes of a request. -/
def decision {I : Interface} (request : StageRequest) (registry : Registry I)
    (held : Option Operation) (id : SeedId) (name : String) : Except RequestError StartOutcome :=
  if request.lacksHost then .error (.invalidRequest "backup host is empty")
  else
    match registry.resolve? name with
    | none => .error (.unknownMethod name)
    | some m =>
      if registry.isAvailable m.kind then request.verdict held id m.kind
      else .error (.methodUnavailable m.kind)

end StageRequest

/-! ## Phases and records -/

theorem Status.blocksRestart_eq (status : Status) :
    status.blocksRestart = (status == .running || status == .completed) := by
  cases status <;> rfl

namespace Operation

variable {op : Operation} {stage : Stage} {r : StageRecord}

theorem record_of_inFlight? (h : op.inFlight? = some stage) :
    stage ≠ .metadataFetch ∧ ∃ r, op.record? stage = some r ∧ r.status = .running := by
  rw [inFlight?] at h
  have test := List.find?_some h
  obtain ⟨r, hr, hs⟩ := (Option.any_eq_true ..).1 test
  refine ⟨?_, r, hr, by simpa using hs⟩
  rintro rfl
  simpa using List.mem_of_find?_eq_some h

theorem inFlight?_eq_none :
    op.inFlight? = none ↔
      ∀ stage r, stage ≠ .metadataFetch → op.record? stage = some r → r.status ≠ .running := by
  rw [inFlight?, List.find?_eq_none]
  constructor
  · intro absent stage r forward hr running
    have member : stage ∈ [Stage.prepare, .backup, .restore, .cleanup] := by
      cases stage <;> simp_all
    exact absent stage member (by simp [hr, running])
  · intro absent stage member found
    obtain ⟨r, hr, hs⟩ := (Option.any_eq_true ..).1 found
    refine absent stage r ?_ hr (by simpa using hs)
    rintro rfl
    simp at member

/-- The forward stage in flight is the current one, and it is the one that the search through all
records finds. -/
theorem WellFormed.inFlight?_eq (h : op.WellFormed) : op.inFlight? = op.runningStage? := by
  rw [h.runningStage?_eq]
  cases found : op.inFlight? with
  | none =>
    have idle := inFlight?_eq_none.1 found
    rw [if_neg]
    rw [h.isActive_phase, h.status_eq_running]
    rintro ⟨stage, r, forward, hr, running⟩
    exact idle stage r forward hr running
  | some stage =>
    obtain ⟨forward, r, hr, running⟩ := record_of_inFlight? found
    rw [if_pos (h.isActive_phase.2 (h.status_eq_running.2 ⟨stage, r, forward, hr, running⟩)),
      h.inFlight forward hr running]

/-- The phase lets a forward stage start exactly if none is in flight. -/
theorem WellFormed.allows_iff_inFlight? (h : op.WellFormed) (forward : stage ≠ .metadataFetch) :
    op.phase.allows stage ↔ op.inFlight? = none := by
  rw [h.allows_iff forward, inFlight?_eq_none]

/-- A phase that stands in the way is that of the stage in flight. -/
theorem WellFormed.phase_eq_of_inFlight? (h : op.WellFormed) (found : op.inFlight? = some stage) :
    op.phase = .of stage .running := by
  obtain ⟨forward, r, hr, running⟩ := record_of_inFlight? found
  rw [h.phase_eq, h.status_eq_running.2 ⟨stage, r, forward, hr, running⟩,
    h.inFlight forward hr running]

end Operation

namespace Coordinator

variable {c : Coordinator} {id : SeedId} {kind : Method} {request : StageRequest} {op : Operation}

/-! ## Requests whose turn it is -/

theorem operationFor_held (held : c.operation = some op) (seedId : op.seedId = id)
    (method : op.method = kind) : c.operationFor id kind request = .ok (c, op) := by
  cases request <;>
    simp [operationFor, operationForPrepare, heldOperation, operation?, held, seedId, method,
      Except.map, Option.filter_some]

theorem operationFor_mismatch (held : c.operation = some op) (seedId : op.seedId = id)
    (method : op.method ≠ kind) :
    c.operationFor id kind request = .error (.methodMismatch id op.method kind) := by
  cases request <;>
    simp [operationFor, operationForPrepare, heldOperation, operation?, held, seedId, method,
      Except.map, Option.filter_some]

theorem startAs_of_error {e : RequestError} (h : c.operationFor id kind request = .error e)
    (n : Generation) (now : Instant) : c.startAs n kind id request now = (c, .error e) := by
  simp [startAs, h]

/-- A Prepare for a fresh operation always starts. -/
theorem startAs_found {side : Side}
    (h : c.operationFor id kind (.prepare side) = .ok (c.found id side kind)) (n : Generation)
    (now : Instant) :
    (c.startAs n kind id (.prepare side) now).2.map Start.outcome = .ok .started := by
  rw [startAs, h]
  rfl

/-- A request for the held operation. -/
theorem startAs_held (wellFormed : op.WellFormed) (seedId : op.seedId = id)
    (h : c.operationFor id kind request = .ok (c, op)) (n : Generation) (now : Instant) :
    (c.startAs n kind id request now).2.map Start.outcome = op.verdict request.stage := by
  have forward := request.stage_ne_metadataFetch
  rw [startAs, h]
  simp only [Operation.verdict, ← Status.blocksRestart_eq]
  by_cases blocked : (op.record? request.stage).any (·.status.blocksRestart)
  · rw [if_pos blocked, if_pos blocked]
    rfl
  rw [if_neg blocked, if_neg blocked]
  cases found : op.inFlight? with
  | none =>
    have allowed := (wellFormed.allows_iff_inFlight? forward).2 found
    rw [Phase.permit_of_allows allowed]
    rfl
  | some other =>
    have refused : ¬ op.phase.allows request.stage := by
      rw [wellFormed.allows_iff_inFlight? forward, found]
      simp
    rw [Phase.permit_of_not_allows refused, wellFormed.phase_eq_of_inFlight? found, seedId]
    rfl

/-- A request is decided by the records of the held operation. -/
theorem startAs_outcome (held : ∀ {op}, c.operation = some op → op.WellFormed) (n : Generation)
    (now : Instant) :
    (c.startAs n kind id request now).2.map Start.outcome =
      request.verdict c.operation id kind := by
  cases hc : c.operation with
  | none =>
    cases request with
    | prepare side => exact startAs_found (by simp [operationFor, operationForPrepare, hc]) n now
    | _ =>
      rw [startAs_of_error (e := .seedNotFound id)
        (by simp [operationFor, heldOperation, operation?, hc, Except.map])]
      rfl
  | some op =>
    have wellFormed := held hc
    by_cases hid : op.seedId = id
    · by_cases hm : op.method = kind
      · rw [startAs_held wellFormed hid (operationFor_held hc hid hm)]
        simp [StageRequest.verdict, hid, hm]
      · rw [startAs_of_error (operationFor_mismatch hc hid hm)]
        simp [StageRequest.verdict, hid, hm, Except.map]
    · cases request with
      | prepare side =>
        cases found : op.inFlight? with
        | none =>
          have idle : op.runningStage? = none := wellFormed.inFlight?_eq ▸ found
          rw [startAs_found (by simp [operationFor, operationForPrepare, hc, hid, idle])]
          simp [StageRequest.verdict, hid, found]
        | some stage =>
          have running : op.runningStage? = some stage := wellFormed.inFlight?_eq ▸ found
          rw [startAs_of_error (e := .operationRunning op.seedId stage)
            (by simp [operationFor, operationForPrepare, hc, hid, running])]
          simp [StageRequest.verdict, hid, found, Except.map]
      | _ =>
        rw [startAs_of_error (e := .seedNotFound id) (by
          simp [operationFor, heldOperation, operation?, hc, hid, Except.map,
            Option.filter_some])]
        simp [StageRequest.verdict, hid, Except.map]

/-! ## Requests -/

variable {I : Interface} {registry : Registry I} {name : String} {m : SeedMethod I}

/-- The request and its method are checked before the coordinator looks at its operation. -/
theorem methodFor_eq (registry : Registry I) (name : String) (request : StageRequest) :
    methodFor registry name request =
      if request.lacksHost then .error (.invalidRequest "backup host is empty")
      else
        match registry.resolve? name with
        | none => .error (.unknownMethod name)
        | some m =>
          if registry.isAvailable m.kind then .ok m else .error (.methodUnavailable m.kind) := by
  have complete_eq : complete request =
      if request.lacksHost then .error (.invalidRequest "backup host is empty") else .ok () := by
    cases request with
    | backup host port => by_cases h : host = "" <;> simp [complete, StageRequest.lacksHost, h]
    | _ => rfl
  rw [methodFor, complete_eq]
  cases request.lacksHost with
  | true => rfl
  | false =>
    simp only [Registry.usable, Registry.known]
    cases registry.resolve? name <;> rfl

theorem methodFor_ok (h : methodFor registry name request = .ok m) :
    registry.resolve? name = some m := by
  rw [methodFor_eq] at h
  grind

/-- A request is decided by the registry and by the records of the held operation. -/
theorem request_outcome (held : ∀ {op}, c.operation = some op → op.WellFormed)
    (registry : Registry I) (id : SeedId) (name : String) (request : StageRequest)
    (now : Instant) :
    (c.request registry id name request now).2.map (·.1.outcome) =
      request.decision registry c.operation id name := by
  have turn (m : SeedMethod I) :
      (c.draw.startAs c.draw.generation m.kind id request now).2.map Start.outcome =
        request.verdict c.operation id m.kind :=
    startAs_outcome (c := c.draw) held c.draw.generation now
  rw [Coordinator.request, methodFor_eq, StageRequest.decision]
  cases request.lacksHost with
  | true => rfl
  | false =>
    cases registry.resolve? name with
    | none => rfl
    | some m =>
      by_cases available : registry.isAvailable m.kind
      · simp only [available, Bool.false_eq_true, if_false, if_true]
        refine Eq.trans ?_ (turn m)
        rw [start]
        cases (c.draw.startAs c.draw.generation m.kind id request now).2 <;> rfl
      · simp only [available, Bool.false_eq_true, if_false]
        rfl

/-- A request that is not refused and not served already begins its stage: of a fresh operation, or
of the held one, where it replaces the record of that stage. -/
theorem request_started (registry : Registry I) (id : SeedId) (name : String)
    (request : StageRequest) (now : Instant) {start : Start} {m : SeedMethod I}
    (answer : (c.request registry id name request now).2 = .ok (start, m))
    (started : start.outcome = .started) :
    registry.resolve? name = some m ∧
    ∃ op, c.Concerns id m.kind request op ∧
      (c.request registry id name request now).1.operation =
        some (c.entered op request (c.generation + 1) now) := by
  rw [Coordinator.request] at answer ⊢
  cases known : methodFor registry name request with
  | error e => simp [known] at answer
  | ok m' =>
    simp only [known, Coordinator.start] at answer ⊢
    obtain ⟨e, refused⟩ | ⟨op, r, -, -, -, -, -, already⟩ | ⟨op, concerns, -, -, begun⟩ :=
      c.draw.startAs_cases c.draw.generation m'.kind id request now
    · simp [refused, Except.map] at answer
    · simp only [already, Except.map, Except.ok.injEq, Prod.mk.injEq] at answer
      simp [← answer.1, Start.outcome] at started
    · simp only [begun, Except.map, Except.ok.injEq, Prod.mk.injEq] at answer ⊢
      obtain ⟨-, rfl⟩ := answer
      refine ⟨methodFor_ok known, op, ?_, rfl⟩
      cases concerns with
      | held hc hid hm => exact .held hc hid hm
      | fresh idle => exact .fresh idle

/-- A request that does not begin a stage leaves the held operation as it is. -/
theorem request_operation (registry : Registry I) (id : SeedId) (name : String)
    (request : StageRequest) (now : Instant)
    (h : (c.request registry id name request now).2.map (·.1.outcome) ≠ .ok .started) :
    (c.request registry id name request now).1.operation = c.operation := by
  rw [Coordinator.request] at h ⊢
  cases known : methodFor registry name request with
  | error e => rfl
  | ok m =>
    simp only [known, Coordinator.start] at h ⊢
    obtain ⟨e, refused⟩ | ⟨op, r, -, -, -, -, -, already⟩ | ⟨op, concerns, -, -, begun⟩ :=
      c.draw.startAs_cases c.draw.generation m.kind id request now
    · rw [refused]
      rfl
    · rw [already]
      rfl
    · simp [begun, Except.map, Start.outcome] at h

end Coordinator

namespace Scene

variable {I : Interface}

/-- A request is decided by the registry and by the records of the held operation. It begins a stage
of a fresh operation, which then has no other record, or of the held one, where only the record of
that stage is replaced. -/
theorem request_decided (hostname : String) (events : List (Event I)) (registry : Registry I)
    (id : SeedId) (name : String) (request : StageRequest) (now : Instant) :
    let c := ((initial hostname).run events).coordinator
    let result := c.request registry id name request now
    result.2.map (·.1.outcome) = request.decision registry c.operation id name ∧
    (result.2.map (·.1.outcome) ≠ .ok .started → result.1.operation = c.operation) ∧
    ∀ start m, result.2 = .ok (start, m) → start.outcome = .started →
      registry.resolve? name = some m ∧
      ∃ op, result.1.operation = some op ∧ op.seedId = id ∧ op.method = m.kind ∧
        op.stage = request.stage ∧ op.status = .running ∧
        ((∀ before, c.operation = some before → before.seedId ≠ id) →
          request = .prepare op.side ∧
          ∀ stage, op.record? stage =
            if stage = .prepare then some (.running op .prepare c.hostname now (c.generation + 1))
            else none) ∧
        ∀ before, c.operation = some before → before.seedId = id →
          op.side = Coordinator.requestedSide before request ∧ op.method = before.method ∧
          ∀ stage, op.record? stage =
            if stage = request.stage then
              some (.running op request.stage c.hostname now (c.generation + 1))
            else before.record? stage := by
  intro c result
  refine ⟨Coordinator.request_outcome (consistent_run hostname events).held .., fun kept =>
    Coordinator.request_operation _ _ _ _ _ kept, fun start m answer started => ?_⟩
  obtain ⟨resolved, op, concerns, begun⟩ :=
    Coordinator.request_started _ _ _ _ _ answer started
  refine ⟨resolved, _, begun, concerns.seedId, concerns.method, rfl, rfl, fun other => ?_,
    fun before held seedId => ?_⟩
  · cases concerns with
    | held held seedId => exact absurd seedId (other _ held)
    | fresh =>
      refine ⟨rfl, fun stage => ?_⟩
      rw [Coordinator.record?_entered, Operation.record?_fresh]
      rfl
  · cases concerns with
    | held now =>
      obtain rfl : before = op := Option.some.inj (held.symm.trans now)
      exact ⟨rfl, rfl, fun stage => Coordinator.record?_entered stage⟩
    | fresh idle => exact absurd seedId (idle before held).1

example :
    (((initial "db1").run (requested (.stage (.prepare .target)))).coordinator.request .probed ⟨2⟩
      "mysqldump" (.prepare .source) .epoch).2.map (·.1.outcome) =
        .error (.operationRunning ⟨1⟩ .prepare) := by
  rfl

end Scene

end ReplicaSeed
