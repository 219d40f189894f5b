import ReplicaSeed.Proofs.Agent.Aside
import ReplicaSeed.Proofs.Agent.Duplicate

/-!
# Coordinates are read beside the stages

Whoever reads the coordinates of a backup learns something and changes nothing. A run is compared
with the run in which all calls for coordinates and all that comes of them are left out: the other
calls have the same answers, the same work is begun, the same records of stages are published, and
the operation is the same but for its metadata record.

## Main definitions

* `Scene.others`: the events of a run that belong to no fetch.
* `Scene.outcomes`: the answers to some of the events of a run.

## Main statements

* `Scene.Alike.others`: the run without fetches stays like the scene without fetches.
* `Scene.fetches_aside`: what a run and the run without fetches have in common.
* `Scene.exists_fetches_noticed`: what the bound on the numbers is for.
-/

namespace ReplicaSeed

/-- The event asks to abort a metadata fetch. -/
def Event.abortsFetch {I : Interface} : Event I → Bool
  | .abort _ .metadataFetch _ => true
  | _ => false

namespace Scene

variable {I : Interface} {s t : Scene} {e : Event I} {n : Nat}

/-- The events of a run that belong to no metadata fetch, with the places that waiting requests and
dispatches have when there are no fetches. -/
def others : Scene → List (Event I) → List (Event I)
  | _, [] => []
  | s, e :: events =>
    if s.Spares e then s.placed e :: (s.after e).others events else (s.after e).others events

/-- What the events of a run that are kept tell their callers, event by event. -/
def outcomes (keep : Scene → Event I → Bool) : Scene → List (Event I) → List (Option Reply)
  | _, [] => []
  | s, e :: events =>
    if keep s e then s.answer e :: outcomes keep (s.after e) events
    else outcomes keep (s.after e) events

theorem others_append (s : Scene) (before events : List (Event I)) :
    s.others (before ++ events) = s.others before ++ (s.run before).others events := by
  induction before generalizing s with
  | nil => rfl
  | cons e before ih =>
    simp only [List.cons_append, others, run_cons, ih]
    split <;> rfl

/-- No call for coordinates is left. -/
theorem ask_not_mem_others (s : Scene) (events : List (Event I)) (registry : Registry I)
    (id : SeedId) (name : String) : .ask registry id name .coordinates ∉ s.others events := by
  induction events generalizing s with
  | nil => exact List.not_mem_nil
  | cons e events ih =>
    rw [others]
    split
    · rename_i spared
      rw [List.mem_cons, not_or]
      refine ⟨fun same => ?_, ih _⟩
      cases e with
      | ask registry' id' name' task =>
        obtain ⟨-, -, -, rfl⟩ := Event.ask.inj same
        exact Bool.false_ne_true spared
      | _ => cases same
    · exact ih _

theorem abortsFetch_placed (s : Scene) (e : Event I) :
    (s.placed e).abortsFetch = e.abortsFetch := by
  cases e <;> rfl

/-- An event that belongs to no fetch is answered as in the scene without fetches. -/
theorem answer_placed (consistent : s.Consistent) (spared : s.Spares e)
    (stays : e.abortsFetch = false) : s.withoutFetches.answer (s.placed e) = s.answer e := by
  have coordinator : s.withoutFetches.coordinator = s.coordinator.withoutMetadata := rfl
  cases e with
  | serve turn now =>
    simp only [placed, answer, waiting_placeOf spared.waiting]
    cases waits : s.waiting[turn]? with
    | none => rfl
    | some w =>
      have forward : w.task.isForward := by simpa [waits] using spared.waiting
      cases task : w.task with
      | coordinates => simp [Task.isForward_iff, task] at forward
      | stage request =>
        simp only [Option.bind_some, reply, task, coordinator,
          Coordinator.startAs_withoutMetadata consistent.held]
  | abort id stage now =>
    have forward : stage ≠ .metadataFetch := by
      rintro rfl
      cases stays
    have processes : s.withoutFetches.processes = s.processes := rfl
    simp only [placed, answer, coordinator, processes,
      Coordinator.abort_withoutMetadata _ _ _ forward]
    cases s.coordinator.abort s.processes.isFinished id stage now <;> rfl
  | fetchEnded i result now =>
    simp only [placed, answer, dispatches_placeOf (spared.dispatch rfl)]
  | _ => rfl

/-- Numbers that are skipped in the second scene leave the two alike. -/
theorem Alike.skip (h : Alike n s t) (m : Nat) : Alike (n + m) s (t.skip m) where
  unnumbered := h.unnumbered
  draws := by
    have := h.draws
    simp only [Scene.skip]
    omega
  waiting i w w' hs ht := by
    have := h.waiting i w w' hs ht
    omega
  tags i a b ha hb := by
    obtain ⟨le, heeded⟩ := h.tags i a b ha hb
    refine ⟨by omega, fun recent => heeded ?_⟩
    simp only [Scene.skip] at recent
    omega

/-- The run without fetches stays like the scene without fetches, and its calls have the same
answers. -/
theorem Alike.others (alike : Alike n t s.withoutFetches) (ns : s.Numbered) (nt : t.Numbered)
    (cs : s.Consistent) (ct : t.Consistent) (events : List (Event I))
    (prompt : s.PromptRun events) :
    (∃ m, Alike m (t.run (s.others events)) (s.run events).withoutFetches) ∧
    t.outcomes (fun _ e => !e.abortsFetch) (s.others events) =
      s.outcomes (fun s e => decide (s.Spares e) && !e.abortsFetch) events := by
  induction events generalizing s t n with
  | nil => exact ⟨⟨n, alike⟩, rfl⟩
  | cons e events ih =>
    obtain ⟨now, later⟩ := prompt
    have steps := s.step_after e
    have ns' := ns.step steps
    have cs' := cs.step steps
    simp only [Scene.others, outcomes, run_cons]
    by_cases spared : s.Spares e
    · have stept := t.step_after (s.placed e)
      have next := alike.after nt ns.withoutFetches ct cs.withoutFetches (now.placed spared)
      rw [after_placed cs spared] at next
      obtain ⟨last, answers⟩ := ih next ns' (nt.step stept) cs' (ct.step stept) later
      simp only [spared, if_true, run_cons, outcomes, decide_true, Bool.true_and,
        abortsFetch_placed]
      refine ⟨last, ?_⟩
      by_cases stays : e.abortsFetch = false
      · have same := (answer_congr alike.unnumbered (s.placed e)).trans
          (answer_placed cs spared stays)
        simp only [stays, Bool.not_false, if_true, same, answers]
      · simp only [stays, answers]
        rfl
    · simp only [spared, if_false, decide_false, Bool.false_and]
      obtain same | drawn := after_of_not_spares cs spared
      · exact ih (same ▸ alike) ns' nt cs' ct later
      · exact ih (drawn ▸ alike.skip 1) ns' nt cs' ct later

theorem stage_withoutMetadata (s : Scene) (id : SeedId) {stage : Stage}
    (forward : stage ≠ .metadataFetch) :
    s.withoutFetches.coordinator.stage id stage = s.coordinator.stage id stage := by
  have coordinator : s.withoutFetches.coordinator = s.coordinator.withoutMetadata := rfl
  simp only [Coordinator.stage, coordinator, Coordinator.operation?_withoutMetadata]
  cases s.coordinator.operation? id with
  | none => rfl
  | some op => simp only [Option.map_some, op.record?_withoutMetadata_of_ne forward]

theorem stage_unnumbered (c : Coordinator) (id : SeedId) (stage : Stage) :
    c.unnumbered.stage id stage = (c.stage id stage).map StageRecord.unnumbered := by
  simp only [Coordinator.stage, Coordinator.operation?_unnumbered]
  cases c.operation? id with
  | none => rfl
  | some op =>
    simp only [Option.map_some, Operation.record?_unnumbered]
    cases op.record? stage <;> rfl

/-- Leave out of a run all calls for coordinates and all that comes of them. The other calls have
the same answers, the same work is begun, the same records of stages are published, and the held
operation is the same but for its metadata record. Only the numbers of the dispatches may differ,
and so they must not come round: that takes `2 ^ 64` draws. -/
theorem fetches_aside (hostname : String) (events : List (Event I))
    (prompt : (initial hostname).PromptRun events) :
    let others := (initial hostname).others events
    let s := (initial hostname).run events
    let t := (initial hostname).run others
    (∀ registry id name, .ask registry id name .coordinates ∉ others) ∧
    (initial hostname).outcomes (fun _ e => !e.abortsFetch) others =
      (initial hostname).outcomes (fun s e => decide (s.Spares e) && !e.abortsFetch) events ∧
    t.dispatches.map Dispatch.unnumbered =
      (s.dispatches.filter (·.task.isForward)).map Dispatch.unnumbered ∧
    t.published.map StageRecord.unnumbered =
      (s.published.filter (·.stage.isForward)).map StageRecord.unnumbered ∧
    t.unnumbered = s.withoutFetches.unnumbered ∧
    (∀ id stage, stage ≠ .metadataFetch →
      (t.coordinator.stage id stage).map StageRecord.unnumbered =
        (s.coordinator.stage id stage).map StageRecord.unnumbered) ∧
    ∀ op, s.coordinator.operation = some op → ∃ op', t.coordinator.operation = some op' ∧
      op'.unnumbered = op.withoutMetadata.unnumbered ∧
      op'.phase = op.phase ∧ op'.runningStage? = op.runningStage? ∧ op'.status = op.status := by
  intro others s t
  have start : Alike 0 (initial hostname) (initial hostname).withoutFetches :=
    alike_skip (initial hostname) 0
  have numbered := numbered_initial hostname
  have consistent := consistent_initial hostname
  obtain ⟨⟨m, alike⟩, answers⟩ :=
    start.others numbered numbered consistent consistent events prompt
  have same : t.unnumbered = s.withoutFetches.unnumbered := alike.unnumbered
  refine ⟨ask_not_mem_others _ events, answers, congrArg Scene.dispatches same,
    congrArg Scene.published same, same, fun id stage forward => ?_, fun op held => ?_⟩
  · have records := congrArg (fun u => u.coordinator.stage id stage) same
    simp only [coordinator_unnumbered, stage_unnumbered] at records
    rwa [stage_withoutMetadata s id forward] at records
  · have wellFormed : op.WellFormed := (consistent_run hostname events).held held
    have operations := congrArg (fun u => u.coordinator.operation) same
    have shown : s.withoutFetches.coordinator.operation = some op.withoutMetadata :=
      congrArg (Option.map Operation.withoutMetadata) held
    simp only [coordinator_unnumbered, Coordinator.operation_unnumbered, shown] at operations
    obtain ⟨op', held', bare⟩ := Option.map_eq_some_iff.1 operations
    refine ⟨op', held', bare, ?_, ?_, (congrArg Operation.status bare :)⟩
    · rw [← op'.phase_unnumbered, bare, Operation.phase_unnumbered,
        wellFormed.phase_withoutMetadata]
    · rw [← op'.runningStage?_unnumbered, bare, Operation.runningStage?_unnumbered,
        wellFormed.runningStage?_withoutMetadata]

/-- Two fetches overlap each other and a Restore. One ends before the Restore is aborted, and one
after another operation has taken the place of the first. -/
def entangled : List (Event Interface.host) :=
  performed 0 (.prepare .target) ++ performed 1 (.backup "db2" 3306) ++
    [.ask .probed ⟨1⟩ "mysqldump" .coordinates, .ask .probed ⟨1⟩ "mysqldump" (.stage .restore),
      .serve 0 .epoch, .ask .probed ⟨1⟩ "mysqldump" .coordinates, .serve 0 .epoch, .serve 0 .epoch,
      .processStarted 3 "mysql" .epoch, .fetchEnded 4 (.ok ⟨"binlog.000001", 4, ""⟩) .epoch,
      .abort ⟨1⟩ .restore .epoch, .ask .probed ⟨2⟩ "mysqldump" (.stage (.prepare .source)),
      .serve 0 .epoch, .fetchEnded 2 (.error (.config "gone")) .epoch]

/-- Of six dispatches two are fetches, and without them the other operation begins just the same. -/
theorem fetches_aside_entangled :
    let s := (initial "db1").run entangled
    let t := (initial "db1").run ((initial "db1").others entangled)
    s.dispatches.length = 6 ∧ t.dispatches.length = 4 ∧
    t.published.map StageRecord.unnumbered =
      (s.published.filter (·.stage.isForward)).map StageRecord.unnumbered ∧
    ∃ op, t.coordinator.operation = some op ∧ op.seedId = ⟨2⟩ ∧ op.phase = .preparing := by
  intro s t
  have prompt : (initial "db1").PromptRun entangled := promptRun_of_few entangled (by decide)
  obtain ⟨-, -, dispatches, published, -, -, operation⟩ := fetches_aside "db1" entangled prompt
  have length := congrArg List.length dispatches
  rw [List.length_map, List.length_map] at length
  obtain ⟨op, held, bare, phase, -⟩ := operation _ rfl
  exact ⟨rfl, length, published, op, held, congrArg Operation.seedId bare, phase⟩

/-! ## A number that comes round -/

/-- Of requests for coordinates that are refused nothing is left. -/
theorem others_vain (absent : s.coordinator.operation? ⟨2⟩ = none) (nobody : s.waiting = [])
    (n : Nat) : s.others (vain n) = [] := by
  induction n generalizing s with
  | zero => rfl
  | succ n ih =>
    have first : s.run (vain 1) = s.skip 1 := run_vain absent nobody 1
    simp only [vain, run_cons, run_nil] at first
    have known :
        Task.method Registry.probed "mysqldump" .coordinates = .ok (Mysqldump.method {} {}) := rfl
    have asks : ¬ s.Spares (.ask .probed ⟨2⟩ "mysqldump" .coordinates) := Bool.false_ne_true
    have serves : ¬ (s.after (.ask .probed ⟨2⟩ "mysqldump" .coordinates)).Spares
        (.serve 0 .epoch : Event Interface.host) := by
      simp [Spares, taskOf, after, known, draw, nobody, Task.isForward, Task.target,
        Stage.isForward]
    rw [vain, others, if_neg asks, others, if_neg serves, first]
    exact ih (s := s.skip 1) absent nobody

/-- So many fetches are refused that the third backup has the number of the first one. -/
def crowded : List (Event Interface.host) := restarted ++ vain (UInt64.size - 2) ++ outrun

/-- Without a bound on the numbers fetches can make a difference. -/
theorem exists_fetches_noticed :
    ((initial "db1").run ((initial "db1").others crowded)).unnumbered ≠
      ((initial "db1").run crowded).withoutFetches.unnumbered := by
  intro same
  have skipped : (initial "db1").run (restarted ++ vain (UInt64.size - 2)) =
      ((initial "db1").run restarted).skip (UInt64.size - 2) := by
    rw [run_append, run_vain rfl rfl]
  have before : (initial "db1").others restarted = restarted := rfl
  have later : (((initial "db1").run restarted).skip (UInt64.size - 2)).others outrun = outrun :=
    rfl
  rw [crowded, others_append, others_append, (initial "db1").run_append _ outrun, skipped,
    others_vain rfl rfl, before, later, List.append_nil, run_append] at same
  have status := congrArg (fun u => u.coordinator.operation.map (·.status)) same
  cases status

end Scene

end ReplicaSeed
