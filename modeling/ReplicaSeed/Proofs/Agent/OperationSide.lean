import ReplicaSeed.Method.Mysqldump
import ReplicaSeed.Proofs.Agent.Finality

/-!
# The side of an operation

An operation has the side that its last accepted Prepare named. A dispatch is told that side when it
begins, its record shows it, and it stays the side of the operation as long as the dispatch runs.
Prepare and Backup are run on it. Cleanup is not: it is run on the side that its own request names,
whatever the operation has.

## Main definitions

* `Assignment`: what is fixed of a dispatch when it begins.
* `preparedSide`: the side that the last Prepare among dispatches named.
* `Scene.Sided`: the side of the operation, of its dispatches and of their records.

## Main statements

* `Scene.Sided.step`: every event keeps the sides together.
* `Scene.Step.begun`: what is published when a dispatch begins.
* `Scene.prepare_and_backup_on_side`: what a method is told, in every scene that can come about.
-/

namespace ReplicaSeed

/-- The side that a Prepare names. -/
def Task.named? : Task → Option Side
  | .stage (.prepare side) => some side
  | _ => none

/-- What is fixed of a dispatch when it begins. -/
structure Assignment where
  task : Task
  side : Side
  key : DispatchKey
  deriving DecidableEq, Repr

def Dispatch.assignment (d : Dispatch) : Assignment := ⟨d.task, d.side, d.key⟩

/-- The side that the last Prepare among some dispatches named. -/
def preparedSide (as : List Assignment) : Option Side :=
  (as.filterMap fun a => a.task.named?).getLast?

theorem preparedSide_concat (as : List Assignment) (a : Assignment) :
    preparedSide (as ++ [a]) = a.task.named?.or (preparedSide as) := by
  cases named : a.task.named? <;> simp [preparedSide, named]

/-- The operation of a request has the side that the request names, or the one that it had. -/
theorem Coordinator.preparedSide_requested {c : Coordinator} {id : SeedId} {kind : Method}
    {request : StageRequest} {op : Operation} {as : List Assignment} (key : DispatchKey)
    (concerns : c.Concerns id kind request op)
    (held : ∀ {op}, c.operation = some op → preparedSide as = some op.side) :
    preparedSide (as ++ [⟨.stage request, requestedSide op request, key⟩]) =
      some (requestedSide op request) := by
  rw [preparedSide_concat]
  cases request with
  | prepare side => rfl
  | _ =>
    cases concerns with
    | held operation => exact held operation

namespace Scene

variable {I : Interface} {s t : Scene} {e : Event I} {op op' : Operation} {q r : StageRecord}

/-- What was fixed of each dispatch when it began. -/
def assignments (s : Scene) : List Assignment := s.dispatches.map Dispatch.assignment

theorem assignments_conclude (s : Scene) (i : Nat) :
    (s.conclude i).assignments = s.assignments :=
  s.map_dispatches_change i fun _ => rfl

theorem assignments_enroll (s : Scene) (i : Nat) (command : String) :
    (s.enroll i command).assignments = s.assignments :=
  s.map_dispatches_change i fun _ => rfl

theorem assignments_dispatch (s : Scene) (w : Waiting) (side : Side) (r : StageRecord) :
    (s.dispatch w side r).assignments = s.assignments ++ [⟨w.task, side, r.key⟩] := by
  simp [assignments, dispatch, Dispatch.assignment]

/-! ## The invariant -/

/-- Some dispatch has the key of the record and was told its side. -/
def Told (s : Scene) (r : StageRecord) : Prop :=
  ∃ a ∈ s.assignments, a.key = r.key ∧ a.side = r.side

/-- Dispatches are never taken back, so what was told stays so. -/
theorem Told.mono (told : s.Told r) (kept : s.assignments ⊆ t.assignments) : t.Told r := by
  obtain ⟨a, member, same⟩ := told
  exact ⟨a, kept member, same⟩

/-- The sides of the operation, of the dispatches and of their records go together. -/
structure Sided (s : Scene) : Prop where
  /-- The operation has the side of the last Prepare. -/
  held : ∀ {op}, s.coordinator.operation = some op → preparedSide s.assignments = some op.side
  /-- So had the operation of each dispatch when it began. -/
  agreed : ∀ {before a later}, s.assignments = before ++ a :: later →
    preparedSide (before ++ [a]) = some a.side
  /-- A stage in flight is on the side of the operation. -/
  running : ∀ {op stage r}, s.coordinator.operation = some op → stage ≠ .metadataFetch →
    op.record? stage = some r → r.status = .running → r.side = op.side
  stored : ∀ {op stage r}, s.coordinator.operation = some op → op.record? stage = some r → s.Told r
  published : ∀ r ∈ s.published, s.Told r

theorem sided_initial (hostname : String) : (initial hostname).Sided where
  held := by simp [initial]
  agreed := by simp [initial, assignments]
  running := by simp [initial]
  stored := by simp [initial]
  published := by simp [initial]

/-- A record changes, but neither its key nor its side, and it does not begin to run. -/
theorem Sided.replace (h : s.Sided) {stage : Stage} (held : s.coordinator.operation = some op)
    (found : op.record? stage = some q) (same : r.key = q.key ∧ r.side = q.side)
    (ends : r.status = .running → q.status = .running) (held' : t.coordinator.operation = some op')
    (side' : op'.side = op.side)
    (records : ∀ other, op'.record? other = if other = stage then some r else op.record? other)
    (assigned : t.assignments = s.assignments)
    (published : t.published = s.published ∨ t.published = s.published ++ [r]) : t.Sided := by
  obtain ⟨key, side⟩ := same
  have kept : s.assignments ⊆ t.assignments := by simp [assigned]
  have told : t.Told r := by
    rw [Told, key, side]
    exact (h.stored held found).mono kept
  refine ⟨?_, ?_, ?_, ?_, ?_⟩
  · intro op₁ held₁
    obtain rfl := Option.some.inj (held'.symm.trans held₁)
    rw [assigned, side']
    exact h.held held
  · intro before a later split
    rw [assigned] at split
    exact h.agreed split
  · intro op₁ other r₁ held₁ forward found₁ running
    obtain rfl := Option.some.inj (held'.symm.trans held₁)
    rw [records] at found₁
    split at found₁
    · obtain rfl := Option.some.inj found₁
      subst other
      rw [side, side']
      exact h.running held forward found (ends running)
    · rw [side']
      exact h.running held forward found₁ running
  · intro op₁ other r₁ held₁ found₁
    obtain rfl := Option.some.inj (held'.symm.trans held₁)
    rw [records] at found₁
    split at found₁
    · obtain rfl := Option.some.inj found₁
      exact told
    · exact (h.stored held found₁).mono kept
  · intro r₁ member
    rcases published with published | published <;> rw [published] at member
    · exact (h.published r₁ member).mono kept
    · rcases List.mem_append.1 member with member | member
      · exact (h.published r₁ member).mono kept
      · obtain rfl := List.mem_singleton.1 member
        exact told

/-- A dispatch begins on the side of its operation. -/
theorem Sided.begin (h : s.Sided) (a : Assignment) (stage : Stage)
    (held' : t.coordinator.operation = some op') (side : r.side = op'.side)
    (told : a.side = op'.side) (key : a.key = r.key)
    (named : preparedSide (s.assignments ++ [a]) = some a.side)
    (assigned : t.assignments = s.assignments ++ [a])
    (records : ∀ {other q}, op'.record? other = some q →
      (other = stage ∧ q = r) ∨ (other ≠ stage ∧ s.Told q ∧
        (other ≠ .metadataFetch → q.status = .running → q.side = op'.side)))
    (published : t.published = s.published ++ [r]) : t.Sided := by
  have kept : s.assignments ⊆ t.assignments := by simp [assigned]
  have new : t.Told r := ⟨a, by simp [assigned], key, told.trans side.symm⟩
  refine ⟨?_, ?_, ?_, ?_, ?_⟩
  · intro op₁ held₁
    obtain rfl := Option.some.inj (held'.symm.trans held₁)
    rw [assigned, named, told]
  · intro before b later split
    rw [assigned] at split
    rcases List.eq_nil_or_concat later with rfl | ⟨later, c, rfl⟩
    · obtain ⟨rfl, last⟩ := List.append_inj' split rfl
      obtain rfl := List.singleton_inj.1 last
      exact named
    · rw [List.concat_eq_append, ← List.cons_append, ← List.append_assoc] at split
      exact h.agreed (List.append_inj' split rfl).1
  · intro op₁ other q held₁ forward found running
    obtain rfl := Option.some.inj (held'.symm.trans held₁)
    obtain ⟨-, rfl⟩ | ⟨-, -, old⟩ := records found
    · exact side
    · exact old forward running
  · intro op₁ other q held₁ found
    obtain rfl := Option.some.inj (held'.symm.trans held₁)
    obtain ⟨-, rfl⟩ | ⟨-, old, -⟩ := records found
    · exact new
    · exact old.mono kept
  · intro q member
    rw [published] at member
    rcases List.mem_append.1 member with member | member
    · exact (h.published q member).mono kept
    · obtain rfl := List.mem_singleton.1 member
      exact new

/-- A scene that differs in nothing that has a side. -/
theorem Sided.congr (h : s.Sided) (operation : t.coordinator.operation = s.coordinator.operation)
    (same : t.assignments = s.assignments) (published : t.published = s.published) : t.Sided := by
  have kept : s.assignments ⊆ t.assignments := by simp [same]
  refine ⟨?_, ?_, ?_, ?_, ?_⟩
  · intro op held
    rw [same]
    exact h.held (operation ▸ held)
  · intro before a later split
    exact h.agreed (same ▸ split)
  · intro op stage r held
    exact h.running (operation ▸ held)
  · intro op stage r held found
    exact (h.stored (operation ▸ held) found).mono kept
  · intro r member
    exact (h.published r (published ▸ member)).mono kept

/-- Every event keeps the sides together. -/
theorem Sided.step (h : s.Sided) (consistent : s.Consistent) (step : s.Step e t) : t.Sided := by
  cases step with
  | idle => exact h
  | draw => exact h.congr rfl rfl rfl
  | leave => exact h.congr rfl rfl rfl
  | @start turn now w request op waits task concerns free allowed =>
    have wellFormed : (s.coordinator.entered op request w.number now).WellFormed :=
      concerns.wellFormed_entered consistent.held allowed
    refine h.begin ⟨w.task, Coordinator.requestedSide op request,
      (s.coordinator.firstRecord op request w.number now).key⟩ request.stage rfl rfl rfl rfl ?_
      (assignments_dispatch ..) ?_ rfl
    · rw [task]
      exact Coordinator.preparedSide_requested _ concerns h.held
    · intro other q found
      by_cases new : other = request.stage
      · rw [Coordinator.record?_entered, if_pos new] at found
        exact .inl ⟨new, (Option.some.inj found).symm⟩
      · refine .inr ⟨new, ?_, ?_⟩
        · rw [Coordinator.record?_entered, if_neg new] at found
          cases concerns with
          | held held => exact h.stored held found
          | fresh => simp at found
        · intro forward running
          exact absurd (wellFormed.inFlight forward found running) new
  | @fetch turn now w op b waits task held =>
    refine h.begin ⟨w.task, op.side, (s.coordinator.fetchRecord op w.number now).key⟩
      .metadataFetch rfl rfl rfl rfl ?_ (assignments_dispatch ..) ?_ rfl
    · rw [preparedSide_concat, task]
      exact h.held held
    · intro other q found
      obtain ⟨rfl, rfl⟩ | ⟨ne, found⟩ := Operation.record_of_withRecord found
      · exact .inl ⟨rfl, rfl⟩
      · refine .inr ⟨ne, h.stored held found, ?_⟩
        intro forward running
        have side : q.side = op.side := h.running held forward found running
        exact side
  | @abort id stage now op q r p held seedId found running process live settled =>
    have same : r.key = q.key ∧ r.side = q.side := by
      subst settled
      exact ⟨rfl, rfl⟩
    exact h.replace held found same (fun _ => running) rfl rfl
      (Operation.record?_endStage _ _ _) rfl (.inr rfl)
  | @progress i details now d op q r dispatch task found running changed =>
    obtain ⟨held, -, found, -⟩ := Coordinator.recordOf?_eq_some_iff.1 found
    have same : r.key = q.key ∧ r.side = q.side := by
      subst changed
      exact ⟨rfl, rfl⟩
    exact h.replace held found same (fun _ => running) rfl rfl
      (Operation.record?_withRecord _ _ _) rfl (.inr rfl)
  | @attach i command now d op q r dispatch task found running changed =>
    obtain ⟨held, -, found, -⟩ := Coordinator.recordOf?_eq_some_iff.1 found
    have same : r.key = q.key ∧ r.side = q.side := by
      subst changed
      exact ⟨rfl, rfl⟩
    exact h.replace held found same (fun _ => running) rfl rfl
      (Operation.record?_withRecord _ _ _) (s.assignments_enroll i command) (.inl rfl)
  | @reject i command => exact h.congr rfl (s.assignments_enroll i command) rfl
  | exit => exact h.congr rfl rfl rfl
  | @settle e i d op q r status details now ends dispatch underWay found uncancelled terminal
      settled =>
    obtain ⟨held, -, found, -⟩ := Coordinator.recordOf?_eq_some_iff.1 found
    have same : r.key = q.key ∧ r.side = q.side ∧ r.status = status := by
      subst settled
      exact ⟨rfl, rfl, rfl⟩
    have ended : r.status ≠ .running := same.2.2 ▸ terminal
    exact h.replace held found ⟨same.1, same.2.1⟩ (fun running => absurd running ended) rfl rfl
      (Operation.record?_endStage _ _ _) (s.assignments_conclude i) (.inr rfl)
  | @conclude e i => exact h.congr rfl (s.assignments_conclude i) rfl

theorem sided_run (hostname : String) (events : List (Event I)) :
    ((initial hostname).run events).Sided := by
  have both : ((initial hostname).run events).Consistent ∧ ((initial hostname).run events).Sided :=
    run_induction (P := fun s => s.Consistent ∧ s.Sided)
      (fun h step => ⟨h.1.step step, h.2.step h.1 step⟩)
      ⟨consistent_initial hostname, sided_initial hostname⟩ events
  exact both.2

/-! ## What a method is told -/

/-- When a dispatch begins, its record is published, and both have the side of the operation. -/
theorem Step.begun (step : s.Step e t) {d : Dispatch} {request : StageRequest}
    (new : t.dispatches = s.dispatches ++ [d]) (task : d.task = .stage request) :
    ∃ op r, t.coordinator.operation = some op ∧ t.published = s.published ++ [r] ∧
      r.key = d.key ∧ r.status = .running ∧ r.side = op.side ∧ d.side = op.side := by
  have longer : t.dispatches.length = s.dispatches.length + 1 := by simp [new]
  cases step with
  | start =>
    obtain rfl := List.singleton_inj.1 (List.append_cancel_left new)
    exact ⟨_, _, rfl, rfl, rfl, rfl, rfl, rfl⟩
  | fetch waits coordinates =>
    obtain rfl := List.singleton_inj.1 (List.append_cancel_left new)
    exact nomatch coordinates.symm.trans task
  | attach | reject | settle | conclude =>
    exact absurd (longer.symm.trans (List.length_modify ..)) (Nat.succ_ne_self _)
  | _ => exact absurd longer (Nat.succ_ne_self _).symm

/-- With different keys, the dispatch of a record is the one with its key. -/
theorem Told.side_eq (told : s.Told r) (distinct : s.keys.Nodup) {d : Dispatch}
    (member : d ∈ s.dispatches) (key : d.key = r.key) : r.side = d.side := by
  obtain ⟨a, dispatched, key', side⟩ := told
  obtain ⟨d', member', rfl⟩ := List.mem_map.1 dispatched
  obtain rfl : d' = d := List.inj_on_of_nodup_map distinct member' member (key'.trans key.symm)
  exact side.symm

/-- Prepare and Backup are run on the side of the operation, which is the one that the last accepted
Prepare has named: when the dispatch begins, and as long as it runs. The record that is published
for the dispatch shows this side, also if it is for a Cleanup; but a Cleanup is run on the side that
its request names. -/
theorem prepare_and_backup_on_side (hostname : String) (events : List (Event I)) :
    let s := (initial hostname).run events
    (∀ (e : Event I) (d : Dispatch) (request : StageRequest),
      (s.after e).dispatches = s.dispatches ++ [d] → d.task = .stage request →
        ∃ op r, (s.after e).coordinator.operation = some op ∧
          (s.after e).published = s.published ++ [r] ∧ r.key = d.key ∧ r.status = .running ∧
          r.side = op.side ∧ d.side = op.side) ∧
    (∀ (before later : List Dispatch) (d : Dispatch) (request : StageRequest),
      s.dispatches = before ++ d :: later → d.task = .stage request →
        preparedSide ((before ++ [d]).map Dispatch.assignment) = some d.side ∧
        ∀ (m : SeedMethod I) (stopService : Procedure I Unit),
          (∀ side, request = .prepare side →
            m.stage stopService d.side request = m.prepare d.side) ∧
          (∀ host port, request = .backup host port →
            m.stage stopService d.side request = m.backup ⟨d.side, host, port⟩) ∧
          ∀ side, request = .cleanup side →
            m.stage stopService d.side request = m.cleanup side) ∧
    (∀ op, s.coordinator.operation = some op →
      preparedSide (s.dispatches.map Dispatch.assignment) = some op.side ∧
      ∀ stage r, stage ≠ .metadataFetch → op.record? stage = some r → r.status = .running →
        r.side = op.side) ∧
    (s.draws < UInt64.size → ∀ d ∈ s.dispatches, ∀ r ∈ s.published, r.key = d.key →
      r.side = d.side) := by
  intro s
  have sided : s.Sided := sided_run hostname events
  refine ⟨?_, ?_, ?_, ?_⟩
  · intro e d request new task
    exact (s.step_after e).begun new task
  · intro before later d request split task
    have assigned : s.assignments =
        before.map Dispatch.assignment ++ d.assignment :: later.map Dispatch.assignment := by
      simp [assignments, split]
    have last : preparedSide ((before ++ [d]).map Dispatch.assignment) = some d.side := by
      rw [List.map_append, List.map_singleton]
      exact sided.agreed assigned
    refine ⟨last, ?_⟩
    intro m stopService
    refine ⟨?_, ?_, ?_⟩
    · rintro side rfl
      have named : some side = some d.side := by
        simpa [preparedSide_concat, Dispatch.assignment, task, Task.named?] using last
      rw [SeedMethod.stage, Option.some.inj named]
    · rintro host port rfl
      rfl
    · rintro side rfl
      rfl
  · intro op held
    refine ⟨sided.held held, ?_⟩
    intro stage r forward found running
    exact sided.running held forward found running
  · intro few d member r published key
    have distinct : s.keys.Nodup := (numbered_run hostname events).keys_nodup few
    exact (sided.published r published).side_eq distinct member key.symm

/-- A Prepare for the target fails, one for the source takes its place, and a Backup follows. -/
def turned : List (Event Interface.host) :=
  requested (.stage (.prepare .target)) ++ [.stageEnded 0 (.crashed "disk full") .epoch] ++
    performed 1 (.prepare .source) ++ requested (.stage (.backup "db2" 3306))

/-- The Backup is run on the side of the second Prepare, and its record says so. -/
theorem prepare_and_backup_on_side_turned :
    let s := (initial "db1").run turned
    ∃ d r, s.dispatches[2]? = some d ∧ s.published.getLast? = some r ∧ r.side = .source ∧
      ∀ (m : SeedMethod Interface.host) (stopService : Procedure Interface.host Unit),
        m.stage stopService d.side (.backup "db2" 3306) = m.backup ⟨.source, "db2", 3306⟩ := by
  intro s
  obtain ⟨-, told, -, shown⟩ := prepare_and_backup_on_side "db1" turned
  obtain ⟨-, run⟩ := told [_, _] [] _ (.backup "db2" 3306) rfl rfl
  refine ⟨_, _, rfl, rfl, ?_, ?_⟩
  · exact shown (by decide) _ (List.mem_of_getElem? (i := 2) rfl) _
      (List.mem_of_getLast? rfl) rfl
  · intro m stopService
    exact (run m stopService).2.1 "db2" 3306 rfl

/-- A Cleanup for the source in an operation on the target is run on the source, where it leaves the
dump in place; its record shows the target. -/
theorem exists_cleanup_elsewhere :
    let s := (initial "db1").run
      (performed 0 (.prepare .target) ++ requested (.stage (.cleanup .source)))
    ∃ op d r, s.coordinator.operation = some op ∧ s.dispatches.getLast? = some d ∧
      s.published.getLast? = some r ∧ r.key = d.key ∧ d.task = .stage (.cleanup .source) ∧
      op.side = .target ∧ r.side = .target ∧
      ∃ m : SeedMethod Interface.host, m.kind = op.method ∧
        (∀ stopService, m.stage stopService d.side (.cleanup .source) = m.cleanup .source) ∧
        m.cleanup .source ≠ m.cleanup op.side := by
  refine ⟨_, _, _, rfl, rfl, rfl, rfl, rfl, rfl, rfl, Mysqldump.method {} {}, rfl, ?_, ?_⟩
  · intro stopService
    rfl
  · intro same
    cases same

end Scene

end ReplicaSeed
