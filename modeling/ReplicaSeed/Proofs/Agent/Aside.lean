import ReplicaSeed.Proofs.Agent.Alike
import ReplicaSeed.Proofs.Agent.Metadata

/-!
# Scenes without their metadata fetches

A fetch waits in the same queue as the stages, draws its number from the same counter and reports in
the same way. All its traces but the numbers are taken away here, and whatever else happens does the
same as before.

## Main definitions

* `Scene.withoutFetches`: without the fetches that wait, are under way, or have ended.
* `Scene.Spares`, `Scene.placed`: an event that belongs to no fetch, and what it is in the scene
  without fetches, where waiting requests and dispatches have other places.

## Main statements

* `Scene.after_placed`: an event that belongs to no fetch does the same in both scenes.
* `Scene.after_of_not_spares`: one that belongs to a fetch does nothing but draw a number.
-/

namespace ReplicaSeed

/-! ## Lists of which some entries are kept -/

section Kept

variable {α : Type} {p : α → Bool} {l : List α} {i : Nat} {a : α}

/-- The place that an entry has among those that are kept. -/
def placeOf (p : α → Bool) (l : List α) (i : Nat) : Nat := (l.take i).countP p

theorem getElem?_filter_placeOf (kept : (l[i]?).all p) : (l.filter p)[placeOf p l i]? = l[i]? := by
  induction l generalizing i with
  | nil => simp
  | cons b l ih =>
    cases i with
    | zero =>
      have hb : p b := by simpa using kept
      simp [placeOf, hb]
    | succ i =>
      have rest := ih (i := i) (by simpa using kept)
      by_cases hb : p b <;> simpa [placeOf, hb] using rest

theorem filter_eraseIdx_placeOf (kept : (l[i]?).all p) :
    (l.eraseIdx i).filter p = (l.filter p).eraseIdx (placeOf p l i) := by
  induction l generalizing i with
  | nil => simp
  | cons b l ih =>
    cases i with
    | zero =>
      have hb : p b := by simpa using kept
      simp [placeOf, hb]
    | succ i =>
      have rest := ih (i := i) (by simpa using kept)
      by_cases hb : p b <;> simpa [placeOf, hb] using rest

theorem filter_modify_placeOf {f : α → α} (same : ∀ a, p (f a) = p a) (kept : (l[i]?).all p) :
    (l.modify i f).filter p = (l.filter p).modify (placeOf p l i) f := by
  induction l generalizing i with
  | nil => simp
  | cons b l ih =>
    cases i with
    | zero =>
      have hb : p b := by simpa using kept
      simp [placeOf, hb, same]
    | succ i =>
      have rest := ih (i := i) (by simpa using kept)
      by_cases hb : p b <;> simpa [placeOf, hb] using rest

theorem filter_eraseIdx_of_neg (found : l[i]? = some a) (dropped : ¬ p a) :
    (l.eraseIdx i).filter p = l.filter p := by
  induction l generalizing i with
  | nil => simp
  | cons b l ih =>
    cases i with
    | zero =>
      obtain rfl : b = a := by simpa using found
      simp [dropped]
    | succ i =>
      have rest := ih (i := i) (by simpa using found)
      by_cases hb : p b <;> simp [hb, rest]

theorem filter_modify_of_neg {f : α → α} (same : ∀ a, p (f a) = p a) (found : l[i]? = some a)
    (dropped : ¬ p a) : (l.modify i f).filter p = l.filter p := by
  induction l generalizing i with
  | nil => simp
  | cons b l ih =>
    cases i with
    | zero =>
      obtain rfl : b = a := by simpa using found
      simp [dropped, same]
    | succ i =>
      have rest := ih (i := i) (by simpa using found)
      by_cases hb : p b <;> simp [hb, rest]

end Kept

/-! ## Scenes -/

/-- The task is to move a stage. -/
def Task.isForward (task : Task) : Bool := task.target.isForward

theorem Task.isForward_iff {task : Task} : task.isForward ↔ task ≠ .coordinates := by
  cases task with
  | stage request => simp [isForward, target, Stage.isForward_iff, request.stage_ne_metadataFetch]
  | coordinates => simp [isForward, target, Stage.isForward]

namespace Scene

variable {I : Interface} {s : Scene} {e : Event I} {i turn : Nat} {w : Waiting} {d : Dispatch}
  {now : Instant}

/-- The scene without its metadata fetches. The numbers that they have drawn stay drawn. -/
def withoutFetches (s : Scene) : Scene :=
  { s with
    coordinator := s.coordinator.withoutMetadata
    waiting := s.waiting.filter (·.task.isForward)
    dispatches := s.dispatches.filter (·.task.isForward)
    published := s.published.filter (·.stage.isForward) }

/-- The task that an event is about. -/
def taskOf (s : Scene) : Event I → Option Task
  | .ask _ _ _ task => some task
  | .serve turn _ => (s.waiting[turn]?).map (·.task)
  | .abort .. | .processExited _ => none
  | .progress i _ _ | .processStarted i _ _ | .stageEnded i _ _ | .fetchEnded i _ _ =>
    (s.dispatches[i]?).map (·.task)

/-- The event belongs to no metadata fetch. -/
def Spares (s : Scene) (e : Event I) : Prop := (s.taskOf e).all (·.isForward)

instance (s : Scene) (e : Event I) : Decidable (s.Spares e) :=
  inferInstanceAs (Decidable (_ = true))

theorem Spares.waiting (h : s.Spares (.serve turn now : Event I)) :
    (s.waiting[turn]?).all (·.task.isForward) := by
  simp only [Spares, taskOf] at h
  cases hw : s.waiting[turn]? with
  | none => rfl
  | some w => simpa [hw] using h

theorem Spares.dispatch (h : s.Spares e) (report : e.reportOf = some i) :
    (s.dispatches[i]?).all (·.task.isForward) := by
  have task : s.taskOf e = (s.dispatches[i]?).map (·.task) := by
    cases e with
    | progress | processStarted | stageEnded | fetchEnded =>
      obtain rfl := Option.some.inj report
      rfl
    | _ => cases report
  rw [Spares, task] at h
  cases hd : s.dispatches[i]? with
  | none => rfl
  | some d => simpa [hd] using h

/-- The event in the scene without fetches, where waiting requests and dispatches have their places
there. -/
def placed (s : Scene) : Event I → Event I
  | .serve turn now => .serve (placeOf (·.task.isForward) s.waiting turn) now
  | .progress i details now => .progress (placeOf (·.task.isForward) s.dispatches i) details now
  | .processStarted i command now =>
    .processStarted (placeOf (·.task.isForward) s.dispatches i) command now
  | .stageEnded i how now => .stageEnded (placeOf (·.task.isForward) s.dispatches i) how now
  | .fetchEnded i result now => .fetchEnded (placeOf (·.task.isForward) s.dispatches i) result now
  | e => e

theorem reportOf_placed (s : Scene) (e : Event I) :
    (s.placed e).reportOf = e.reportOf.map (placeOf (·.task.isForward) s.dispatches) := by
  cases e <;> rfl

/-! ## What is left of a change -/

theorem waiting_placeOf (kept : (s.waiting[turn]?).all (·.task.isForward)) :
    s.withoutFetches.waiting[placeOf (·.task.isForward) s.waiting turn]? = s.waiting[turn]? :=
  getElem?_filter_placeOf kept

theorem dispatches_placeOf (kept : (s.dispatches[i]?).all (·.task.isForward)) :
    s.withoutFetches.dispatches[placeOf (·.task.isForward) s.dispatches i]? = s.dispatches[i]? :=
  getElem?_filter_placeOf kept

theorem withoutFetches_withCoordinator (s : Scene) (c : Coordinator) :
    { s with coordinator := c }.withoutFetches =
      { s.withoutFetches with coordinator := c.withoutMetadata } := rfl

theorem withoutFetches_draw (s : Scene) (id : SeedId) (kind : Method) {task : Task}
    (forward : task.isForward) :
    (s.draw id kind task).withoutFetches = s.withoutFetches.draw id kind task := by
  simp [draw, withoutFetches, forward, Coordinator.draw, Coordinator.withoutMetadata]

theorem withoutFetches_draw_coordinates (s : Scene) (id : SeedId) (kind : Method) :
    (s.draw id kind .coordinates).withoutFetches = s.withoutFetches.skip 1 := by
  have aside : ¬ Task.coordinates.isForward := by decide
  simp [draw, withoutFetches, skip, aside, Coordinator.draw, Coordinator.withoutMetadata]

theorem withoutFetches_leave (kept : (s.waiting[turn]?).all (·.task.isForward)) :
    (s.leave turn).withoutFetches =
      s.withoutFetches.leave (placeOf (·.task.isForward) s.waiting turn) := by
  simp only [leave, withoutFetches, filter_eraseIdx_placeOf kept]

theorem withoutFetches_leave_fetch (waits : s.waiting[turn]? = some w)
    (aside : ¬ w.task.isForward) : (s.leave turn).withoutFetches = s.withoutFetches := by
  simp only [leave, withoutFetches,
    filter_eraseIdx_of_neg (p := fun w : Waiting => w.task.isForward) waits aside]

theorem withoutFetches_dispatch (s : Scene) (side : Side) {r : StageRecord}
    (forward : w.task.isForward) (stage : r.stage.isForward) :
    (s.dispatch w side r).withoutFetches = s.withoutFetches.dispatch w side r := by
  simp [dispatch, withoutFetches, forward, stage]

theorem withoutFetches_dispatch_fetch (s : Scene) (side : Side) {r : StageRecord}
    (aside : ¬ w.task.isForward) (stage : ¬ r.stage.isForward) :
    (s.dispatch w side r).withoutFetches = s.withoutFetches := by
  simp [dispatch, withoutFetches, aside, stage]

theorem withoutFetches_publish (s : Scene) {r : StageRecord} (stage : r.stage.isForward) :
    (s.publish r).withoutFetches = s.withoutFetches.publish r := by
  simp [publish, withoutFetches, stage]

theorem withoutFetches_publish_fetch (s : Scene) {r : StageRecord} (stage : ¬ r.stage.isForward) :
    (s.publish r).withoutFetches = s.withoutFetches := by
  simp [publish, withoutFetches, stage]

theorem withoutFetches_change {f : Dispatch → Dispatch} (same : ∀ d, (f d).task = d.task)
    (kept : (s.dispatches[i]?).all (·.task.isForward)) :
    (s.change i f).withoutFetches =
      s.withoutFetches.change (placeOf (·.task.isForward) s.dispatches i) f := by
  have filtered := filter_modify_placeOf (p := fun d : Dispatch => d.task.isForward) (f := f)
    (fun d => by rw [same]) kept
  simp only [change, withoutFetches, filtered]

theorem withoutFetches_conclude (kept : (s.dispatches[i]?).all (·.task.isForward)) :
    (s.conclude i).withoutFetches =
      s.withoutFetches.conclude (placeOf (·.task.isForward) s.dispatches i) :=
  withoutFetches_change (fun _ => rfl) kept

theorem withoutFetches_conclude_fetch (dispatch : s.dispatches[i]? = some d)
    (aside : ¬ d.task.isForward) : (s.conclude i).withoutFetches = s.withoutFetches := by
  have filtered := filter_modify_of_neg (p := fun d : Dispatch => d.task.isForward)
    (f := fun d => { d with ended := some s.draws }) (fun _ => rfl) dispatch aside
  simp only [conclude, change, withoutFetches, filtered]

theorem withoutFetches_enroll (command : String)
    (kept : (s.dispatches[i]?).all (·.task.isForward)) :
    (s.enroll i command).withoutFetches =
      s.withoutFetches.enroll (placeOf (·.task.isForward) s.dispatches i) command := by
  have changed := withoutFetches_change
    (f := fun d => { d with processes := d.processes ++ [s.processes.next] }) (fun _ => rfl) kept
  exact congrArg (fun u => { u with processes := s.processes.start command }) changed

/-! ## Invariants without fetches -/

theorem Numbered.withoutFetches (h : s.Numbered) : s.withoutFetches.Numbered where
  generation := h.generation
  waiting w hw := h.waiting w (List.mem_of_mem_filter hw)
  dispatches d hd := h.dispatches d (List.mem_of_mem_filter hd)
  ended d hd := h.ended d (List.mem_of_mem_filter hd)
  distinct := h.distinct.sublist
    ((List.filter_sublist.map _).append (List.filter_sublist.map _))

theorem Consistent.withoutFetches (h : s.Consistent) : s.withoutFetches.Consistent where
  held := by
    intro op held
    obtain ⟨op, hc, rfl⟩ := Option.map_eq_some_iff.1 held
    exact (h.held hc).withoutMetadata
  target d hd := h.target d (List.mem_of_mem_filter hd)

/-- An event that is in time is so in the scene without fetches. -/
theorem Prompt.placed (h : s.Prompt e) (spared : s.Spares e) :
    s.withoutFetches.Prompt (s.placed e) := by
  refine ⟨fun place now w served waits => ?_, fun place d report dispatch => ?_⟩
  · cases e with
    | serve turn at_ =>
      obtain ⟨rfl, rfl⟩ := Event.serve.inj served
      rw [waiting_placeOf spared.waiting] at waits
      exact h.1 turn at_ w rfl waits
    | _ => cases served
  · rw [reportOf_placed] at report
    obtain ⟨i, reported, rfl⟩ := Option.map_eq_some_iff.1 report
    rw [dispatches_placeOf (spared.dispatch reported)] at dispatch
    exact h.2 i d reported dispatch

/-! ## Events -/

/-- A waiting request for a stage is served as in the scene without fetches. -/
theorem withoutFetches_serve (consistent : s.Consistent) (waits : s.waiting[turn]? = some w)
    (forward : w.task.isForward) (now : Instant) :
    (s.serve turn w now).withoutFetches =
      s.withoutFetches.serve (placeOf (·.task.isForward) s.waiting turn) w now := by
  have kept : (s.waiting[turn]?).all (·.task.isForward) := by simpa [waits] using forward
  have leaves := withoutFetches_leave kept
  cases task : w.task with
  | coordinates => simp [Task.isForward_iff, task] at forward
  | stage request =>
    have bare := Coordinator.startAs_withoutMetadata consistent.held w.number w.method w.id request
      now
    have coordinator : s.withoutFetches.coordinator = s.coordinator.withoutMetadata := rfl
    have stage : request.stage.isForward :=
      (Stage.isForward_iff _).2 request.stage_ne_metadataFetch
    simp only [serve, task, coordinator, bare]
    obtain ⟨e, refused⟩ | ⟨op, r, -, -, -, -, -, already⟩ | ⟨op, -, -, -, begun⟩ :=
      s.coordinator.startAs_cases w.number w.method w.id request now
    · simp only [refused, withoutFetches_withCoordinator, leaves]
    · simp only [already, withoutFetches_withCoordinator, leaves]
    · simp only [begun]
      rw [withoutFetches_dispatch _ _ forward (by exact stage), withoutFetches_withCoordinator,
        leaves]

/-- Serving a request for coordinates shows nowhere else. -/
theorem withoutFetches_serve_fetch (waits : s.waiting[turn]? = some w)
    (task : w.task = .coordinates) (now : Instant) :
    (s.serve turn w now).withoutFetches = s.withoutFetches := by
  have aside : ¬ w.task.isForward := by simp [Task.isForward_iff, task]
  have leaves := withoutFetches_leave_fetch waits aside
  simp only [serve, task]
  obtain ⟨e, refused⟩ | ⟨op, b, held, -, -, -, -, begun⟩ :=
    s.coordinator.beginMetadataAs_cases w.number w.method w.id now
  · rw [refused]
    exact leaves
  · rw [begun]
    simp only
    rw [withoutFetches_dispatch_fetch _ _ aside (by exact Bool.false_ne_true),
      withoutFetches_withCoordinator,
      Coordinator.withoutMetadata_of_held held op.withoutMetadata_withMetadata, leaves]
    rfl

theorem withoutFetches_abort (consistent : s.Consistent) (id : SeedId) (stage : Stage)
    (now : Instant) :
    (s.abort id stage now).withoutFetches = s.withoutFetches.abort id stage now := by
  by_cases forward : stage = .metadataFetch
  · -- Neither scene has anything to abort.
    subst forward
    obtain ⟨e, refused⟩ := Coordinator.abort_metadataFetch consistent.held
      s.processes.isFinished id now
    obtain ⟨e', refused'⟩ := Coordinator.abort_metadataFetch consistent.withoutFetches.held
      s.withoutFetches.processes.isFinished id now
    simp only [abort, refused, refused']
  · have bare := s.coordinator.abort_withoutMetadata s.processes.isFinished id forward now
    have coordinator : s.withoutFetches.coordinator = s.coordinator.withoutMetadata := rfl
    have processes : s.withoutFetches.processes = s.processes := rfl
    simp only [abort, coordinator, processes, bare]
    cases aborted : s.coordinator.abort s.processes.isFinished id stage now with
    | error e => rfl
    | ok done =>
      obtain ⟨c, r, p⟩ := done
      obtain ⟨op, q, held, -, found, -, -, -, settled, -⟩ := Coordinator.abort_ok aborted
      have about : r.stage = stage := by
        subst settled
        exact ((consistent.held held).about found).1
      rw [withoutFetches_publish _ (by simpa [about, Stage.isForward_iff] using forward)]
      rfl

/-- A dispatch of a stage has its record under that stage. -/
theorem Consistent.key_ne_metadataFetch (h : s.Consistent) (dispatch : s.dispatches[i]? = some d)
    (forward : d.task.isForward) : d.key.stage ≠ .metadataFetch := by
  rw [h.target d (List.mem_of_getElem? dispatch)]
  exact (Stage.isForward_iff _).1 forward

theorem withoutFetches_progress (consistent : s.Consistent) (dispatch : s.dispatches[i]? = some d)
    (forward : d.task.isForward) (details : String) (now : Instant) :
    (s.progress d details now).withoutFetches = s.withoutFetches.progress d details now := by
  have stage := consistent.key_ne_metadataFetch dispatch forward
  have bare := s.coordinator.progress_withoutMetadata stage details now
  have coordinator : s.withoutFetches.coordinator = s.coordinator.withoutMetadata := rfl
  simp only [progress, coordinator, bare]
  cases counted : s.coordinator.progress d.key details now with
  | none => rfl
  | some done =>
    obtain ⟨c, r⟩ := done
    obtain ⟨op, q, found, -, changed, -⟩ := Coordinator.progress_eq_some_iff.1 counted
    have about : r.stage = d.key.stage := by
      subst changed
      exact congrArg DispatchKey.stage (consistent.found found).2.2
    exact withoutFetches_publish _ (by simpa [about, Stage.isForward_iff] using stage)

theorem withoutFetches_processStarted (consistent : s.Consistent)
    (dispatch : s.dispatches[i]? = some d) (forward : d.task.isForward) (command : String)
    (now : Instant) :
    (s.processStarted i d command now).withoutFetches =
      s.withoutFetches.processStarted (placeOf (·.task.isForward) s.dispatches i) d command
        now := by
  have stage := consistent.key_ne_metadataFetch dispatch forward
  have bare := s.coordinator.processStarted_withoutMetadata stage s.processes.next now
  have enrolled := withoutFetches_enroll (s := s) (i := i) command
    (by simpa [dispatch] using forward)
  have coordinator : s.withoutFetches.coordinator = s.coordinator.withoutMetadata := rfl
  have processes : s.withoutFetches.processes = s.processes := rfl
  simp only [processStarted, coordinator, processes, bare]
  cases s.coordinator.processStarted d.key s.processes.next now with
  | none =>
    exact congrArg (fun u => { u with processes := u.processes.cancel s.processes.next }) enrolled
  | some c => exact congrArg (fun u => { u with coordinator := c.withoutMetadata }) enrolled

theorem withoutFetches_finish (consistent : s.Consistent) (dispatch : s.dispatches[i]? = some d)
    (forward : d.task.isForward) (status : Status) (details : String) (now : Instant) :
    (s.finish i d status details now).withoutFetches =
      s.withoutFetches.finish (placeOf (·.task.isForward) s.dispatches i) d status details now := by
  have stage := consistent.key_ne_metadataFetch dispatch forward
  have bare := s.coordinator.finish_withoutMetadata stage status details now
  have concluded := withoutFetches_conclude (s := s) (i := i) (by simpa [dispatch] using forward)
  have coordinator : s.withoutFetches.coordinator = s.coordinator.withoutMetadata := rfl
  simp only [finish, coordinator, bare]
  cases counted : s.coordinator.finish d.key status details now with
  | none => exact concluded
  | some done =>
    obtain ⟨c, r⟩ := done
    obtain ⟨op, q, found, -, settled, -⟩ := Coordinator.finish_eq_some_iff.1 counted
    have about : r.stage = d.key.stage := by
      subst settled
      exact congrArg DispatchKey.stage (consistent.found found).2.2
    refine (withoutFetches_publish _ (by simpa [about, Stage.isForward_iff] using stage)).trans ?_
    exact congrArg (fun u => { u with coordinator := c.withoutMetadata }.publish r) concluded

/-- The end of a fetch shows nowhere else: it does not even move the status of the operation. -/
theorem withoutFetches_finish_fetch (consistent : s.Consistent)
    (dispatch : s.dispatches[i]? = some d) (task : d.task = .coordinates) (status : Status)
    (details : String) (now : Instant) :
    (s.finish i d status details now).withoutFetches = s.withoutFetches := by
  have aside : ¬ d.task.isForward := by simp [Task.isForward_iff, task]
  have concluded := withoutFetches_conclude_fetch dispatch aside
  have stage : d.key.stage = .metadataFetch := by
    rw [consistent.target d (List.mem_of_getElem? dispatch), task]
    rfl
  simp only [finish]
  cases counted : s.coordinator.finish d.key status details now with
  | none => exact concluded
  | some done =>
    obtain ⟨c, r⟩ := done
    obtain ⟨op, q, found, -, settled, rfl⟩ := Coordinator.finish_eq_some_iff.1 counted
    obtain ⟨wellFormed, -, key⟩ := consistent.found found
    have held := (Coordinator.recordOf?_eq_some_iff.1 found).1
    have about : r.stage = .metadataFetch := by
      subst settled
      exact (congrArg DispatchKey.stage key).trans stage
    have unmoved : (s.coordinator.storeEnd op d.key.stage r).withoutMetadata =
        s.coordinator.withoutMetadata := by
      rw [stage]
      exact Coordinator.withoutMetadata_of_held held wellFormed.withoutMetadata_endFetch
    refine (withoutFetches_publish_fetch _ (by simp [about, Stage.isForward])).trans ?_
    rw [withoutFetches_withCoordinator, unmoved, concluded]
    rfl

/-- An event that belongs to no fetch does the same in the scene without fetches. -/
theorem after_placed (consistent : s.Consistent) (spared : s.Spares e) :
    s.withoutFetches.after (s.placed e) = (s.after e).withoutFetches := by
  have forward {i : Nat} {d : Dispatch} (report : e.reportOf = some i)
      (dispatch : s.dispatches[i]? = some d) : d.task.isForward := by
    simpa [dispatch] using spared.dispatch report
  have places {i : Nat} (report : e.reportOf = some i) :=
    dispatches_placeOf (spared.dispatch report)
  cases e with
  | ask registry id name task =>
    have forward : task.isForward := spared
    simp only [placed, after]
    cases task.method registry name with
    | error e => rfl
    | ok m => exact (s.withoutFetches_draw id m.kind forward).symm
  | serve turn now =>
    simp only [placed, after, waiting_placeOf spared.waiting]
    cases waits : s.waiting[turn]? with
    | none => rfl
    | some w =>
      have forward : w.task.isForward := by simpa [waits] using spared.waiting
      exact (withoutFetches_serve consistent waits forward now).symm
  | abort id stage now => exact (withoutFetches_abort consistent id stage now).symm
  | progress i details now =>
    simp only [placed, after, places rfl]
    cases dispatch : s.dispatches[i]? with
    | none => rfl
    | some d =>
      have task := Task.isForward_iff.1 (forward rfl dispatch)
      simp only [task, if_false]
      exact (withoutFetches_progress consistent dispatch (forward rfl dispatch) details now).symm
  | processStarted i command now =>
    simp only [placed, after, places rfl]
    cases dispatch : s.dispatches[i]? with
    | none => rfl
    | some d =>
      have task := Task.isForward_iff.1 (forward rfl dispatch)
      simp only [task, if_false]
      exact (withoutFetches_processStarted consistent dispatch (forward rfl dispatch) command
        now).symm
  | processExited p => rfl
  | stageEnded i how now =>
    simp only [placed, after, places rfl]
    cases dispatch : s.dispatches[i]? with
    | none => rfl
    | some d =>
      by_cases ended : d.task = .coordinates ∨ d.ended.isSome
      · simp only [ended, if_true]
      · simp only [ended, if_false]
        exact (withoutFetches_finish consistent dispatch (forward rfl dispatch) _ _ now).symm
  | fetchEnded i result now =>
    simp only [placed, after, places rfl]
    cases dispatch : s.dispatches[i]? with
    | none => rfl
    | some d =>
      have task := Task.isForward_iff.1 (forward rfl dispatch)
      simp only [task, ne_eq, not_false_eq_true, true_or, if_true]

/-- An event that belongs to a fetch draws a number at most. -/
theorem after_of_not_spares (consistent : s.Consistent) (aside : ¬ s.Spares e) :
    (s.after e).withoutFetches = s.withoutFetches ∨
      (s.after e).withoutFetches = s.withoutFetches.skip 1 := by
  have fetches {task : Task} (about : s.taskOf e = some task) : task = .coordinates := by
    have other : ¬ task.isForward := by simpa [Spares, about] using aside
    exact Decidable.not_not.1 (mt Task.isForward_iff.2 other)
  have nobody (about : s.taskOf e = none) : False := aside (by simp [Spares, about])
  cases e with
  | ask registry id name task =>
    obtain rfl := fetches rfl
    simp only [after]
    cases Task.coordinates.method registry name with
    | error e => exact .inl rfl
    | ok m => exact .inr (s.withoutFetches_draw_coordinates id m.kind)
  | serve turn now =>
    left
    simp only [after]
    cases waits : s.waiting[turn]? with
    | none => rfl
    | some w =>
      exact withoutFetches_serve_fetch waits (fetches (by simp [taskOf, waits])) now
  | abort => exact (nobody rfl).elim
  | progress i details now =>
    left
    simp only [after]
    cases dispatch : s.dispatches[i]? with
    | none => rfl
    | some d =>
      have task : d.task = .coordinates := fetches (by simp [taskOf, dispatch])
      simp only [task, if_true]
  | processStarted i command now =>
    left
    simp only [after]
    cases dispatch : s.dispatches[i]? with
    | none => rfl
    | some d =>
      have task : d.task = .coordinates := fetches (by simp [taskOf, dispatch])
      simp only [task, if_true]
  | processExited => exact (nobody rfl).elim
  | stageEnded i how now =>
    left
    simp only [after]
    cases dispatch : s.dispatches[i]? with
    | none => rfl
    | some d =>
      have task : d.task = .coordinates := fetches (by simp [taskOf, dispatch])
      simp only [task, true_or, if_true]
  | fetchEnded i result now =>
    left
    simp only [after]
    cases dispatch : s.dispatches[i]? with
    | none => rfl
    | some d =>
      have task : d.task = .coordinates := fetches (by simp [taskOf, dispatch])
      by_cases ended : d.task ≠ .coordinates ∨ d.ended.isSome
      · simp only [ended, if_true]
      · simp only [ended, if_false]
        exact withoutFetches_finish_fetch consistent dispatch task _ _ now

end Scene

end ReplicaSeed
