import ReplicaSeed.Proofs.Agent.Publication
import ReplicaSeed.Proofs.Execution.Ending
import ReplicaSeed.Proofs.Method.Path

/-!
# A dispatch at work

While a dispatch makes its exchanges with the host other things happen: requests come in, someone
aborts the stage, other dispatches report. What becomes of its record is decided by its exchanges
alone: a command ends cancelled exactly if the stage was aborted while it ran.

## Main definitions

* `Exchange.isCancelled`: a command of the stage that was cancelled.
* `Scene.Accompanies`: the events of a dispatch that makes exchanges, among others.
* `Scene.Open`, `Scene.Busy`, `Scene.Shut`: the record of a dispatch between two commands, during a
  command, and after an abort.

## Main statements

* `Scene.Accompanies.open_or_shut`: the record is shut exactly if a command was cancelled.
* `Scene.Open.recordOf_stageEnded`, `Scene.Shut.recordOf_stageEnded`: how the record ends.
-/

namespace ReplicaSeed

/-- A command of the stage was cancelled. -/
def HostRequest.isCancelled : (q : HostRequest) → q.Answer → Bool
  | exec .., .error e => e.isCancelled
  | _, _ => false

/-- The exchange was a command that was cancelled. -/
def Exchange.isCancelled (x : Exchange Interface.host) : Bool :=
  HostRequest.isCancelled x.request x.answer

theorem Exchange.isCancelled_of_ends {line : Line} {elevate cancelled : Bool}
    {answer : Except ExecError Unit} (ends : Pipeline.Ends line.text elevate cancelled answer) :
    Exchange.isCancelled ⟨HostRequest.exec line elevate, answer⟩ = cancelled := by
  rw [Bool.eq_iff_iff, ← ends.isCancelled_iff]
  cases answer <;> simp [isCancelled, HostRequest.isCancelled]

/-- The request is not seen by others. -/
def HostRequest.isSilent : HostRequest → Bool
  | note _ => false
  | exec .. => false
  | _ => true

namespace ProcessTable

/-- What stays of a process table in a step where the process `ended` may end. -/
structure Grows (t t' : ProcessTable) (ended : Option ProcessId) : Prop where
  next : t.next ≤ t'.next
  finished : ∀ p < t.next, t.isFinished p = true → t'.isFinished p = true
  lives : ∀ p < t.next, some p ≠ ended → t.isFinished p = false → t'.isFinished p = false
  cancelled : ∀ p < t.next, t.isCancelled p = true → t'.isCancelled p = true

variable {t : ProcessTable} {p : ProcessId}

theorem isFinished_start (h : p < t.next) (command : String) :
    (t.start command).isFinished p = t.isFinished p := by
  simp [isFinished, get?_start_of_lt _ _ h]

theorem isCancelled_start (h : p < t.next) (command : String) :
    (t.start command).isCancelled p = t.isCancelled p := by
  simp [isCancelled, get?_start_of_lt _ _ h]

@[simp] theorem isFinished_start_next (t : ProcessTable) (command : String) :
    (t.start command).isFinished t.next = false := by
  simp [isFinished, get?_start_next]

@[simp] theorem isCancelled_start_next (t : ProcessTable) (command : String) :
    (t.start command).isCancelled t.next = false := by
  simp [isCancelled, get?_start_next]

theorem Grows.refl (t : ProcessTable) (ended : Option ProcessId) : t.Grows t ended :=
  ⟨Nat.le_refl _, fun _ _ => id, fun _ _ _ => id, fun _ _ => id⟩

theorem grows_start (t : ProcessTable) (command : String) (ended : Option ProcessId) :
    t.Grows (t.start command) ended where
  next := by simp
  finished p lt := by simp [isFinished_start lt]
  lives p lt _ := by simp [isFinished_start lt]
  cancelled p lt := by simp [isCancelled_start lt]

theorem Grows.cancel {t' : ProcessTable} {ended : Option ProcessId} (h : t.Grows t' ended)
    (q : ProcessId) : t.Grows (t'.cancel q) ended where
  next := by simpa using h.next
  finished p lt := by simpa using h.finished p lt
  lives p lt := by simpa using h.lives p lt
  cancelled p lt hc := by simp [h.cancelled p lt hc]

theorem grows_exit (t : ProcessTable) (q : ProcessId) : t.Grows (t.exit q) (some q) where
  next := by simp
  finished p _ hf := by simp [hf]
  lives p _ ne hf := by simpa [hf] using fun same => ne (congrArg some same)
  cancelled p _ := by simp

end ProcessTable

/-- The process that an event ends. -/
def Event.exited? {I : Interface} : Event I → Option ProcessId
  | processExited p => some p
  | _ => none

namespace Scene

variable {I : Interface} {s t : Scene} {e : Event I} {i : Nat} {key : DispatchKey} {op : Operation}
  {q r : StageRecord} {p : ProcessId}

theorem Step.grows (step : s.Step e t) : s.processes.Grows t.processes e.exited? := by
  cases step with
  | abort => exact (ProcessTable.Grows.refl _ _).cancel _
  | attach => exact ProcessTable.grows_start ..
  | reject => exact (ProcessTable.grows_start ..).cancel _
  | exit => exact ProcessTable.grows_exit ..
  | _ => exact .refl _ _

/-! ## The record of a dispatch while others act -/

/-- What an event of others does to the record under a key. -/
inductive Meanwhile (s t : Scene) (key : DispatchKey) : Prop
  | spared (records : t.recordOf key = s.recordOf key)
      (cancelled : ∀ p < s.processes.next, t.processes.isCancelled p = s.processes.isCancelled p)
  /-- The record was not running, and may be replaced. -/
  | settled (settled : ∀ r, s.recordOf key = some r → r.status ≠ .running)
      (records : t.recordOf key = s.recordOf key ∨ t.recordOf key = none)
  | aborted {q r : StageRecord} {p : ProcessId} (found : s.recordOf key = some q)
      (running : q.status = .running) (process : q.process = some p)
      (lives : s.processes.isFinished p = false) (stored : t.recordOf key = some r)
      (cancelled : r.status = .cancelled) (published : r ∈ t.published) (same : r.key = key)
      (stopped : t.processes.isCancelled p = true)

/-- At most one forward stage is running. -/
theorem Consistent.running_unique (h : s.Consistent) (held : s.coordinator.operation = some op)
    {stage : Stage} (hq : op.record? stage = some q) (running : q.status = .running)
    (forward : stage ≠ .metadataFetch) (stored : s.recordOf key = some r)
    (running' : r.status = .running) (forward' : key.stage ≠ .metadataFetch) : q = r := by
  obtain ⟨hr, -⟩ := (h.recordOf_eq_some_iff held).1 stored
  have wellFormed := h.held held
  have same := wellFormed.inFlight forward hq running
  have same' := wellFormed.inFlight forward' hr running'
  rw [same] at hq
  rw [same'] at hr
  exact Option.some.inj (hq.symm.trans hr)

/-- A stage that begins replaces no running record of a stage. -/
theorem settled_of_begins_start (consistent : s.Consistent) {w : Waiting} {request : StageRequest}
    {number : Generation} {now : Instant}
    (concerns : s.coordinator.Concerns w.id w.method request op)
    (free : ∀ r, op.record? request.stage = some r → r.status.blocksRestart = false)
    (forward : key.stage ≠ .metadataFetch)
    (replaces : (s.coordinator.firstRecord op request number now).key.replaces key = true)
    (stored : s.recordOf key = some r) : r.status ≠ .running := by
  intro running
  obtain ⟨op', held', seedId, hr, -⟩ := recordOf_eq_some_iff.1 stored
  cases concerns with
  | held held =>
    obtain rfl : op = op' := Option.some.inj (held.symm.trans held')
    have stage : request.stage = key.stage := by
      simpa [DispatchKey.replaces, StageRecord.key, Coordinator.firstRecord, StageRecord.running,
        seedId] using replaces
    simpa [running, Status.blocksRestart] using free r (stage ▸ hr)
  | fresh idle =>
    have wellFormed := consistent.held held'
    exact wellFormed.runningStage?_eq_none_iff.1 (idle op' held').2
      (wellFormed.status_eq_running.2 ⟨_, r, forward, hr, running⟩)

theorem Begins.meanwhile (begins : s.Begins t r) (ne : key ≠ r.key)
    (processes : t.processes = s.processes)
    (settled : r.key.replaces key = true → ∀ q, s.recordOf key = some q → q.status ≠ .running) :
    s.Meanwhile t key := by
  by_cases replaced : r.key.replaces key = true
  · exact .settled (settled replaced) (.inr (by simp [begins.records, ne, replaced]))
  · exact .spared (by simp [begins.records, ne, replaced]) fun _ _ => by rw [processes]

theorem Reports.meanwhile (reports : s.Reports t q r) (ne : key ≠ q.key)
    (cancelled : ∀ p < s.processes.next, t.processes.isCancelled p = s.processes.isCancelled p) :
    s.Meanwhile t key :=
  .spared (by rw [reports.records, if_neg ne]) cancelled

/-- An event of others leaves the record of a dispatch alone as long as it is running, unless it
aborts the stage. -/
theorem Step.meanwhile (step : s.Step e t) (keyed : s.Keyed) (distinct : t.keys.Nodup)
    (underWay : s.UnderWay i key) (forward : key.stage ≠ .metadataFetch)
    (elsewhere : e.reportOf ≠ some i) : s.Meanwhile t key := by
  have consistent := keyed.consistent
  have dispatched : key ∈ s.keys := by
    obtain ⟨d, dispatch, -, rfl⟩ := underWay
    exact List.mem_map_of_mem (List.mem_of_getElem? dispatch)
  -- With different keys the report of another dispatch is about another record.
  have other {j : Nat} {d : Dispatch} (report : e.reportOf = some j)
      (dispatch : s.dispatches[j]? = some d) : key ≠ d.key := by
    rintro rfl
    obtain ⟨d', dispatch', -, same⟩ := underWay
    have lt := (List.getElem?_eq_some_iff.1 dispatch').1
    have : i = j := (List.getElem?_inj (by simpa [keys] using lt) keyed.distinct).1
      (by simp [keys, dispatch, dispatch', same])
    exact elsewhere (this ▸ report)
  have same : ∀ p < s.processes.next, s.processes.isCancelled p = s.processes.isCancelled p :=
    fun _ _ => rfl
  cases step with
  | idle => exact .spared rfl same
  | draw => exact .spared rfl same
  | leave => exact .spared rfl same
  | @start turn now w request op waits task concerns free allowed =>
    have begins := begins_start consistent concerns free turn now
    exact begins.meanwhile (begins.key_ne distinct dispatched) rfl fun replaces q stored =>
      settled_of_begins_start consistent concerns free forward replaces stored
  | @fetch turn now w op b waits task held =>
    have begins := begins_fetch consistent held w turn now
    refine begins.meanwhile (begins.key_ne distinct dispatched) rfl fun replaces => ?_
    have stage : Stage.metadataFetch = key.stage := by
      unfold DispatchKey.replaces at replaces
      split at replaces
      · exact eq_of_beq replaces
      · cases replaces
    exact absurd stage.symm forward
  | @abort id stage now op q r p held seedId found running process lives settled =>
    have reports := reports_abort consistent held found running settled p
    by_cases mine : key = q.key
    · subst mine
      refine .aborted reports.found running process lives (by rw [reports.records, if_pos rfl])
        (by simp [settled, StageRecord.settle]) (List.mem_append_right _ (List.mem_singleton.2 rfl))
        (by subst settled; rfl) ?_
      simp [lives]
    · refine .settled (fun r' stored running' => mine ?_)
        (.inl (by rw [reports.records, if_neg mine]))
      have only := consistent.running_unique held found running
        ((consistent.held held).process found process).2 stored running' forward
      exact only ▸ ((consistent.recordOf_eq_some_iff held).1 stored).2.symm
  | @progress i details now d op q r dispatch task found running changed =>
    have key : q.key = d.key := (consistent.found found).2.2
    exact (reports_progress consistent found running changed).meanwhile (key ▸ other rfl dispatch)
      same
  | @attach i command now d op q r dispatch task found running changed =>
    have key : q.key = d.key := (consistent.found found).2.2
    exact (reports_attach consistent found running changed i command).meanwhile
      (key ▸ other rfl dispatch) fun p lt => ProcessTable.isCancelled_start lt command
  | @reject i command now d dispatch task lost =>
    refine .spared rfl fun p lt => ?_
    have ne : p ≠ s.processes.next := Nat.ne_of_lt lt
    simp [ProcessTable.isCancelled_start lt, ne]
  | exit => exact .spared rfl fun _ _ => by simp
  | @settle e j d op q r _ _ _ ends dispatch underWay found uncancelled terminal settled =>
    have running := keyed.tracked.running_of_found consistent dispatch underWay found uncancelled
    have key : q.key = d.key := (consistent.found found).2.2
    exact (reports_settle consistent found running settled j).meanwhile
      (key ▸ other (Event.reportOf_of_endOf ends) dispatch) same
  | conclude => exact .spared rfl same

theorem Step.published_prefix (step : s.Step e t) : s.published <+: t.published := by
  cases step with
  | start => exact List.prefix_append ..
  | fetch => exact List.prefix_append ..
  | abort => exact List.prefix_append ..
  | progress => exact List.prefix_append ..
  | settle => exact List.prefix_append ..
  | _ => exact List.prefix_refl _

theorem Step.underWay (step : s.Step e t) (h : s.UnderWay i key) (goesOn : e.endOf ≠ some i) :
    t.UnderWay i key := by
  cases step with
  | start => exact underWay_dispatch.2 (.inl h)
  | fetch => exact underWay_dispatch.2 (.inl h)
  | @attach j command => exact (underWay_enroll command).2 h
  | @reject j command => exact (underWay_enroll command).2 h
  | settle ends => exact underWay_conclude.2 ⟨fun same => goesOn (same ▸ ends), h⟩
  | conclude ends => exact underWay_conclude.2 ⟨fun same => goesOn (same ▸ ends), h⟩
  | _ => exact h

/-! ## Between commands, during a command, after an abort -/

/-- The record of the dispatch is running, and no process of it lives. -/
structure Open (s : Scene) (i : Nat) (key : DispatchKey) : Prop where
  underWay : s.UnderWay i key
  running : ∃ r, s.recordOf key = some r ∧ r.status = .running ∧
    ∀ p ∈ r.process, p < s.processes.next ∧ s.processes.isFinished p = true

/-- The record of the dispatch is running, and has a process that lives. -/
structure Busy (s : Scene) (i : Nat) (key : DispatchKey) (p : ProcessId) : Prop where
  underWay : s.UnderWay i key
  started : p < s.processes.next
  lives : s.processes.isFinished p = false
  free : s.processes.isCancelled p = false
  running : ∃ r, s.recordOf key = some r ∧ r.status = .running ∧ r.process = some p

/-- The record of the dispatch was published as cancelled; it is so still, or gone since. -/
structure Shut (s : Scene) (i : Nat) (key : DispatchKey) : Prop where
  underWay : s.UnderWay i key
  published : ∃ r ∈ s.published, r.key = key ∧ r.status = .cancelled
  cancelled : ∀ r, s.recordOf key = some r → r.status = .cancelled

theorem Event.endOf_ne_of_reportOf_ne {e : Event I} (h : e.reportOf ≠ some i) : e.endOf ≠ some i :=
  fun ends => h (Event.reportOf_of_endOf ends)

theorem Open.elsewhere (h : s.Open i key) (keyed : s.Keyed) (distinct : (s.after e).keys.Nodup)
    (forward : key.stage ≠ .metadataFetch) (elsewhere : e.reportOf ≠ some i) :
    (s.after e).Open i key := by
  have step := s.step_after e
  refine ⟨step.underWay h.underWay (Event.endOf_ne_of_reportOf_ne elsewhere), ?_⟩
  obtain ⟨r, stored, running, quiet⟩ := h.running
  cases step.meanwhile keyed distinct h.underWay forward elsewhere with
  | spared records =>
    refine ⟨r, records.trans stored, running, fun p hp => ?_⟩
    obtain ⟨started, finished⟩ := quiet p hp
    exact ⟨Nat.lt_of_lt_of_le started step.grows.next, step.grows.finished p started finished⟩
  | settled settled => exact absurd running (settled r stored)
  | aborted found _ process lives =>
    obtain rfl := Option.some.inj (stored.symm.trans found)
    simp [(quiet _ process).2] at lives

/-- While a command runs, its stage may be aborted, and then its process is cancelled. -/
theorem Busy.elsewhere (h : s.Busy i key p) (keyed : s.Keyed) (distinct : (s.after e).keys.Nodup)
    (forward : key.stage ≠ .metadataFetch) (elsewhere : e.reportOf ≠ some i)
    (goesOn : e.exited? ≠ some p) :
    (s.after e).Busy i key p ∨
      (s.after e).Shut i key ∧ (s.after e).processes.isCancelled p = true := by
  have step := s.step_after e
  have underWay := step.underWay h.underWay (Event.endOf_ne_of_reportOf_ne elsewhere)
  obtain ⟨r, stored, running, process⟩ := h.running
  cases step.meanwhile keyed distinct h.underWay forward elsewhere with
  | spared records cancelled =>
    exact .inl ⟨underWay, Nat.lt_of_lt_of_le h.started step.grows.next,
      step.grows.lives p h.started goesOn.symm h.lives, (cancelled p h.started).trans h.free, r,
      records.trans stored, running, process⟩
  | settled settled => exact absurd running (settled r stored)
  | @aborted q r' p' found _ process' lives stored' cancelled published same stopped =>
    obtain rfl := Option.some.inj (stored.symm.trans found)
    obtain rfl := Option.some.inj (process.symm.trans process')
    refine .inr ⟨⟨underWay, ⟨r', published, same, cancelled⟩, fun x hx => ?_⟩, stopped⟩
    exact Option.some.inj (stored'.symm.trans hx) ▸ cancelled

/-- A record that is shut stays so. -/
theorem Shut.after (h : s.Shut i key) (keyed : s.Keyed) (distinct : (s.after e).keys.Nodup)
    (forward : key.stage ≠ .metadataFetch) (goesOn : e.endOf ≠ some i) :
    (s.after e).Shut i key := by
  have step := s.step_after e
  obtain ⟨q, told, same, status⟩ := h.published
  refine ⟨step.underWay h.underWay goesOn, ⟨q, step.published_prefix.subset told, same, status⟩, ?_⟩
  have unchanged (records : (s.after e).recordOf key = s.recordOf key) :
      ∀ r, (s.after e).recordOf key = some r → r.status = .cancelled :=
    fun r stored => h.cancelled r (records.symm.trans stored)
  by_cases report : e.reportOf = some i
  · obtain ⟨d, dispatch, -, rfl⟩ := h.underWay
    have lost := step.report_lost keyed.consistent keyed.tracked report dispatch
      fun r stored running => by simp [h.cancelled r stored] at running
    exact unchanged (by simp [recordOf, Coordinator.recordOf?, Coordinator.operation?, lost.1])
  · cases step.meanwhile keyed distinct h.underWay forward report with
    | spared records => exact unchanged records
    | settled _ records =>
      obtain records | gone := records
      · exact unchanged records
      · simp [gone]
    | aborted found running =>
      simp [h.cancelled _ found] at running

/-! ## What a dispatch does itself -/

/-- A dispatch under way that is no metadata fetch, with its stored record. -/
theorem UnderWay.found (h : s.UnderWay i key) (consistent : s.Consistent)
    (forward : key.stage ≠ .metadataFetch) (stored : s.recordOf key = some r) :
    ∃ d op, s.dispatches[i]? = some d ∧ d.ended = none ∧ d.key = key ∧ d.task ≠ .coordinates ∧
      s.coordinator.recordOf? d.key = some (op, r) := by
  obtain ⟨d, dispatch, ended, rfl⟩ := h
  obtain ⟨⟨op, q⟩, found, rfl⟩ := Option.map_eq_some_iff.1 stored
  refine ⟨d, op, dispatch, ended, rfl, fun task => forward ?_, found⟩
  rw [consistent.target d (List.mem_of_getElem? dispatch), task, Task.target]

theorem Open.noted (h : s.Open i key) (keyed : s.Keyed) (forward : key.stage ≠ .metadataFetch)
    (text : String) (now : Instant) : (s.after (.progress i text now : Event I)).Open i key := by
  obtain ⟨q, stored, running, quiet⟩ := h.running
  obtain ⟨d, op, dispatch, -, rfl, task, found⟩ := h.underWay.found keyed.consistent forward stored
  let r : StageRecord := { q with details := text, updatedAt := now }
  have counts : s.coordinator.progress d.key text now =
      some (s.coordinator.store op d.key.stage r, r) :=
    Coordinator.progress_eq_some_iff.2 ⟨op, q, found, running, rfl, rfl⟩
  have after : s.after (.progress i text now : Event I) =
      (s.hold (op.withRecord d.key.stage r)).publish r := by
    simp only [Scene.after, dispatch, if_neg task, progress, counts]
    rfl
  have reports : s.Reports ((s.hold (op.withRecord d.key.stage r)).publish r) q r :=
    reports_progress keyed.consistent found running rfl
  have key : q.key = d.key := (keyed.consistent.found found).2.2
  rw [after]
  exact ⟨h.underWay, r, by rw [reports.records, if_pos key.symm], running, quiet⟩

/-- A command begins. -/
theorem Open.started (h : s.Open i key) (keyed : s.Keyed) (forward : key.stage ≠ .metadataFetch)
    (command : String) (now : Instant) :
    (s.after (.processStarted i command now : Event I)).Busy i key s.processes.next := by
  obtain ⟨q, stored, running, -⟩ := h.running
  obtain ⟨d, op, dispatch, -, rfl, task, found⟩ := h.underWay.found keyed.consistent forward stored
  let r : StageRecord := { q with process := some s.processes.next, updatedAt := now }
  have counts : s.coordinator.processStarted d.key s.processes.next now =
      some (s.coordinator.store op d.key.stage r) :=
    Coordinator.processStarted_eq_some_iff.2 ⟨op, q, found, running, rfl⟩
  have after : s.after (.processStarted i command now : Event I) =
      (s.enroll i command).hold (op.withRecord d.key.stage r) := by
    simp only [Scene.after, dispatch, if_neg task, processStarted, counts]
    rfl
  have reports : s.Reports ((s.enroll i command).hold (op.withRecord d.key.stage r)) q r :=
    reports_attach keyed.consistent found running rfl i command
  have key : q.key = d.key := (keyed.consistent.found found).2.2
  rw [after]
  refine ⟨(underWay_enroll command).2 h.underWay, ?_, ?_, ?_, r,
    by rw [reports.records, if_pos key.symm], running, rfl⟩
  all_goals simp [hold, enroll]

/-- A command comes to its end. -/
theorem Busy.exited (h : s.Busy i key p) : (s.after (.processExited p : Event I)).Open i key := by
  obtain ⟨r, stored, running, process⟩ := h.running
  refine ⟨h.underWay, r, stored, running, fun p' hp' => ?_⟩
  obtain rfl := Option.some.inj (process.symm.trans hp')
  simp [Scene.after, h.started]

/-- The record of a dispatch that has not been aborted ends as the dispatch does. -/
theorem Open.recordOf_stageEnded (h : s.Open i key) (consistent : s.Consistent)
    (forward : key.stage ≠ .metadataFetch) (how : StageEnd) (now : Instant) :
    ∃ r, (s.after (.stageEnded i how now : Event I)).recordOf key = some r ∧
      r.status = how.status ∧ r.details = how.details key.stage := by
  obtain ⟨q, stored, running, -⟩ := h.running
  obtain ⟨d, op, dispatch, ended, rfl, task, found⟩ := h.underWay.found consistent forward stored
  let r : StageRecord := q.settle how.status (how.details d.key.stage) now
  have counts : s.coordinator.finish d.key how.status (how.details d.key.stage) now =
      some (s.coordinator.storeEnd op d.key.stage r, r) :=
    Coordinator.finish_eq_some_iff.2 ⟨op, q, found, by simp [running], rfl, rfl⟩
  have after : s.after (.stageEnded i how now : Event I) =
      ((s.conclude i).hold (op.endStage d.key.stage r)).publish r := by
    simp only [Scene.after, dispatch, task, ended, Option.isSome_none, Bool.false_eq_true, or_self,
      if_false, finish, counts]
    rfl
  have reports : s.Reports (((s.conclude i).hold (op.endStage d.key.stage r)).publish r) q r :=
    reports_settle consistent found running rfl i
  have key : q.key = d.key := (consistent.found found).2.2
  rw [after]
  exact ⟨r, by rw [reports.records, if_pos key.symm], rfl, rfl⟩

/-- The record of a dispatch that was aborted stays cancelled. -/
theorem Shut.recordOf_stageEnded (h : s.Shut i key) (keyed : s.Keyed) (how : StageEnd)
    (now : Instant) :
    let t := s.after (.stageEnded i how now : Event I)
    (∃ r ∈ t.published, r.key = key ∧ r.status = .cancelled) ∧
      ∀ r, t.recordOf key = some r → r.status = .cancelled := by
  obtain ⟨d, dispatch, -, rfl⟩ := h.underWay
  have step := s.step_after (.stageEnded i how now : Event I)
  have lost := step.report_lost keyed.consistent keyed.tracked rfl dispatch
    fun r stored running => by simp [h.cancelled r stored] at running
  obtain ⟨q, told, same, status⟩ := h.published
  refine ⟨⟨q, step.published_prefix.subset told, same, status⟩, fun r stored => ?_⟩
  refine h.cancelled r (Eq.trans ?_ stored)
  simp [recordOf, Coordinator.recordOf?, Coordinator.operation?, lost.1]

/-! ## Exchanges and events -/

/-- The events of dispatch `i` while it makes exchanges with the host, and those of others. A report
of progress is one event; a command is two, its process is reported and comes to an end, unless it
is not started at all. -/
inductive Accompanies (i : Nat) : List (Exchange Interface.host) → Scene → List (Event I) → Prop
  | done {s : Scene} : Accompanies i [] s []
  | other {s : Scene} {e : Event I} {exchanges : List (Exchange Interface.host)}
      {events : List (Event I)} (elsewhere : e.reportOf ≠ some i)
      (rest : Accompanies i exchanges (s.after e) events) : Accompanies i exchanges s (e :: events)
  | noted {s : Scene} {text : String} {now : Instant} {exchanges : List (Exchange Interface.host)}
      {events : List (Event I)}
      (rest : Accompanies i exchanges (s.after (.progress i text now : Event I)) events) :
      Accompanies i (⟨HostRequest.note text, ()⟩ :: exchanges) s (.progress i text now :: events)
  | refused {s : Scene} {line : Line} {elevate : Bool} {e : ExecError}
      {exchanges : List (Exchange Interface.host)} {events : List (Event I)}
      (refuses : Pipeline.Refuses line.text elevate e) (rest : Accompanies i exchanges s events) :
      Accompanies i (⟨HostRequest.exec line elevate, .error e⟩ :: exchanges) s events
  | ran {s t : Scene} {line : Line} {elevate : Bool} {answer : Except ExecError Unit}
      {command : String} {now : Instant} {between : List (Event I)}
      {exchanges : List (Exchange Interface.host)} {events : List (Event I)}
      (others : ∀ e ∈ between, e.reportOf ≠ some i ∧ e.exited? ≠ some s.processes.next)
      (reached : t = (s.after (.processStarted i command now : Event I)).run between)
      (ends : Pipeline.Ends line.text elevate (t.processes.isCancelled s.processes.next) answer)
      (rest :
        Accompanies i exchanges (t.after (.processExited s.processes.next : Event I)) events) :
      Accompanies i (⟨HostRequest.exec line elevate, answer⟩ :: exchanges) s
        (.processStarted i command now :: (between ++ .processExited s.processes.next :: events))
  | silent {s : Scene} {x : Exchange Interface.host} {exchanges : List (Exchange Interface.host)}
      {events : List (Event I)} (silent : HostRequest.isSilent x.request = true)
      (rest : Accompanies i exchanges s events) : Accompanies i (x :: exchanges) s events

variable {exchanges : List (Exchange Interface.host)} {events : List (Event I)}

theorem Keyed.of_run_cons (h : s.Keyed) (distinct : (s.run (e :: events)).keys.Nodup) :
    (s.after e).keys.Nodup ∧ (s.after e).Keyed := by
  have next : (s.after e).keys.Nodup := nodup_keys_of_run distinct
  exact ⟨next, h.after next⟩

theorem Shut.run (h : s.Shut i key) (keyed : s.Keyed) (distinct : (s.run events).keys.Nodup)
    (forward : key.stage ≠ .metadataFetch) (goesOn : ∀ e ∈ events, e.endOf ≠ some i) :
    (s.run events).Shut i key := by
  induction events generalizing s with
  | nil => exact h
  | cons e events ih =>
    obtain ⟨next, keyed'⟩ := keyed.of_run_cons distinct
    obtain ⟨now, later⟩ := List.forall_mem_cons.1 goesOn
    exact ih (h.after keyed next forward now) keyed' distinct later

/-- A dispatch does not end as long as it makes exchanges. -/
theorem Accompanies.goesOn (h : Accompanies i exchanges s events) :
    ∀ e ∈ events, e.endOf ≠ some i := by
  induction h with
  | done => simp
  | other elsewhere _ ih =>
    exact List.forall_mem_cons.2 ⟨Event.endOf_ne_of_reportOf_ne elsewhere, ih⟩
  | noted _ ih => exact List.forall_mem_cons.2 ⟨nofun, ih⟩
  | refused _ _ ih => exact ih
  | ran others _ _ _ ih =>
    refine List.forall_mem_cons.2 ⟨nofun, List.forall_mem_append.2 ⟨fun e member => ?_, ?_⟩⟩
    · exact Event.endOf_ne_of_reportOf_ne (others e member).1
    · exact List.forall_mem_cons.2 ⟨nofun, ih⟩
  | silent _ _ ih => exact ih

/-- While a command runs others act, and one of them may abort the stage. -/
theorem Busy.run (h : s.Busy i key p) (keyed : s.Keyed) (distinct : (s.run events).keys.Nodup)
    (forward : key.stage ≠ .metadataFetch)
    (others : ∀ e ∈ events, e.reportOf ≠ some i ∧ e.exited? ≠ some p) :
    (s.run events).Busy i key p ∨
      (s.run events).Shut i key ∧ (s.run events).processes.isCancelled p = true := by
  induction events generalizing s with
  | nil => exact .inl h
  | cons e events ih =>
    obtain ⟨next, keyed'⟩ := keyed.of_run_cons distinct
    obtain ⟨⟨elsewhere, goesOn⟩, later⟩ := List.forall_mem_cons.1 others
    obtain busy | ⟨shut, cancelled⟩ := h.elsewhere keyed next forward elsewhere goesOn
    · exact ih busy keyed' distinct later
    · refine .inr ⟨shut.run keyed' distinct forward fun e member => ?_, ?_⟩
      · exact Event.endOf_ne_of_reportOf_ne (later e member).1
      · have started := Nat.lt_of_lt_of_le h.started (s.step_after e).grows.next
        have P := run_induction
          (P := fun t => p < t.processes.next ∧ t.processes.isCancelled p = true)
          (fun ⟨lt, hc⟩ step =>
            ⟨Nat.lt_of_lt_of_le lt step.grows.next, step.grows.cancelled p lt hc⟩)
          ⟨started, cancelled⟩ events
        exact P.2

/-- After its exchanges a dispatch finds its record shut exactly if one of its commands was
cancelled. -/
theorem Accompanies.open_or_shut (h : Accompanies i exchanges s events) (opened : s.Open i key)
    (keyed : s.Keyed) (distinct : (s.run events).keys.Nodup)
    (forward : key.stage ≠ .metadataFetch) :
    if exchanges.any Exchange.isCancelled then (s.run events).Shut i key
    else (s.run events).Open i key := by
  have skip {t : Scene} {x : Exchange Interface.host} {exchanges : List (Exchange Interface.host)}
      (uncancelled : x.isCancelled = false)
      (rest : if exchanges.any Exchange.isCancelled then t.Shut i key else t.Open i key) :
      if (x :: exchanges).any Exchange.isCancelled then t.Shut i key else t.Open i key := by
    rwa [List.any_cons, uncancelled, Bool.false_or]
  induction h with
  | done => exact opened
  | other elsewhere _ ih =>
    obtain ⟨next, keyed'⟩ := keyed.of_run_cons distinct
    exact ih (opened.elsewhere keyed next forward elsewhere) keyed' distinct
  | @noted s text now exchanges events _ ih =>
    obtain ⟨-, keyed'⟩ := keyed.of_run_cons distinct
    exact skip rfl (ih (opened.noted keyed forward text now) keyed' distinct)
  | refused refuses _ ih => exact skip refuses.isCancelled (ih opened keyed distinct)
  | @ran s t line elevate answer command now between exchanges events others reached ends rest ih =>
    subst reached
    rw [run_cons, run_append, run_cons] at distinct ⊢
    have next := nodup_keys_of_run distinct
    have last := (step_after _ _).nodup_keys next
    have first := nodup_keys_of_run last
    have keyed' := (keyed.after first).run between last
    have started : (s.after (.processStarted i command now : Event I)).Busy i key
      s.processes.next := opened.started keyed forward command now
    obtain busy | ⟨shut, cancelled⟩ := started.run (keyed.after first) last forward others
    · rw [busy.free] at ends
      exact skip (Exchange.isCancelled_of_ends ends) (ih busy.exited (keyed'.after next) distinct)
    · rw [cancelled] at ends
      rw [List.any_cons, Exchange.isCancelled_of_ends ends, Bool.true_or, if_pos rfl]
      have still := shut.after keyed' next forward nofun
      exact still.run (keyed'.after next) distinct forward rest.goesOn
  | @silent s x exchanges events silent _ ih =>
    refine skip ?_ (ih opened keyed distinct)
    obtain ⟨q, answer⟩ := x
    cases q with
    | exec => cases silent
    | _ => rfl

end Scene

end ReplicaSeed
