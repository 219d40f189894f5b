import ReplicaSeed.Proofs.Agent.Number

/-!
# The held operation

Whatever happens, the operation that the coordinator holds is well-formed: its stage, its status and
its records agree. That metadata are only ever read from a complete backup takes more: a backup that
is complete stays so, because the dispatch that could still report on it has ended.

## Main definitions

* `Scene.Consistent`: the held operation is well-formed, and each dispatch has the key of its task.
* `Scene.Apart`: dispatches under way have different keys.
* `Scene.Tracked`: which dispatches are still to report on the held records.

## Main statements

* `Scene.consistent_run`, `Scene.tracked_run`: both hold in every run.
* `Scene.heldOperation_coherent`: all that is known of the held operation.
* `Scene.exists_metadata_without_backup`: what the bound on the numbers is for.
-/

namespace ReplicaSeed

/-! ## Changes of the held operation -/

namespace Coordinator

variable {c : Coordinator} {id : SeedId} {kind : Method} {request : StageRequest}
  {n : Generation} {now : Instant} {op : Operation} {r : StageRecord} {key : DispatchKey}

theorem firstRecord_fits :
    Operation.Fits { op with side := requestedSide op request } request.stage
      (c.firstRecord op request n now) where
  stage_eq := rfl
  seedId_eq := rfl
  method_eq := rfl
  process := by simp [firstRecord, StageRecord.running]

theorem fetchRecord_fits : op.Fits .metadataFetch (c.fetchRecord op n now) where
  stage_eq := rfl
  seedId_eq := rfl
  method_eq := rfl
  process := by simp [fetchRecord, StageRecord.running]

/-- A stage that is admitted begins in a well-formed operation. -/
theorem Concerns.wellFormed_entered (concerns : c.Concerns id kind request op)
    (held : ∀ {op}, c.operation = some op → op.WellFormed)
    (allowed : op.phase.allows request.stage) : (c.entered op request n now).WellFormed := by
  have forward := request.stage_ne_metadataFetch
  have filed : op.Filed := by
    cases concerns with
    | held hc => exact (held hc).toFiled
    | fresh => exact Operation.filed_fresh ..
  refine Operation.Filed.enter ⟨filed.about, filed.process⟩ firstRecord_fits rfl forward ?_ ?_
  · cases concerns with
    | held hc => exact .inr (held hc).prepared
    | fresh => exact .inl rfl
  · cases concerns with
    | held hc => exact fun hf hq => ((held hc).allows_iff forward).1 allowed _ _ hf hq
    | fresh => exact fun _ hq => by simp [Operation.record?, Operation.fresh] at hq

theorem Concerns.backedUp_entered (concerns : c.Concerns id kind request op)
    (held : ∀ {op}, c.operation = some op → op.BackedUp)
    (free : ∀ r, op.record? request.stage = some r → r.status.blocksRestart = false) :
    (c.entered op request n now).BackedUp := by
  have before : op.BackedUp := by
    cases concerns with
    | held hc => exact held hc
    | fresh => exact fun m hm => by simp at hm
  have sided : Operation.BackedUp { op with side := requestedSide op request } := before
  exact sided.enter request.stage_ne_metadataFetch free

end Coordinator

namespace Operation

variable {op : Operation} {stage : Stage} {q : StageRecord}

theorem Fits.settle (h : op.Fits stage q) (status : Status) (details : String) (now : Instant) :
    op.Fits stage (q.settle status details now) where
  stage_eq := h.stage_eq
  seedId_eq := h.seedId_eq
  method_eq := h.method_eq
  process := by simp [StageRecord.settle]

theorem Filed.key_eq (h : op.Filed) (hr : op.record? stage = some q) :
    q.key = ⟨op.seedId, stage, q.generation⟩ := by
  obtain ⟨hst, hid, -⟩ := h.about hr
  rw [StageRecord.key, hst, hid]

theorem Filed.key_ne (h : op.Filed) (hr : op.record? stage = some q) {key : DispatchKey}
    (ne : stage ≠ key.stage) : q.key ≠ key := by
  rintro rfl
  exact ne (by rw [h.key_eq hr])

/-- In an operation whose records are filed, the record of a key is the one that has it. -/
theorem Filed.recordOf?_eq_some_iff (h : op.Filed) {c : Coordinator} {key : DispatchKey}
    (held : c.operation = some op) :
    c.recordOf? key = some (op, q) ↔ op.record? key.stage = some q ∧ q.key = key := by
  rw [Coordinator.recordOf?_eq_some_iff]
  constructor
  · rintro ⟨-, hid, hq, hn⟩
    refine ⟨hq, ?_⟩
    rw [h.key_eq hq, hid, hn]
  · rintro ⟨hq, rfl⟩
    exact ⟨held, (h.about hq).2.1.symm, hq, rfl⟩

end Operation

theorem Task.target_ne_metadataFetch {task : Task} (h : task ≠ .coordinates) :
    task.target ≠ .metadataFetch := by
  cases task with
  | stage request => exact request.stage_ne_metadataFetch
  | coordinates => exact absurd rfl h

namespace Scene

variable {I : Interface} {s t : Scene} {e : Event I} {i : Nat} {d : Dispatch} {op : Operation}

/-! ## Agreement of the records -/

/-- The held operation is well-formed, and each dispatch has the key of its task. -/
structure Consistent (s : Scene) : Prop where
  held : ∀ {op}, s.coordinator.operation = some op → op.WellFormed
  target : ∀ d ∈ s.dispatches, d.key.stage = d.task.target

theorem Consistent.hold (h : s.Consistent) (wellFormed : op.WellFormed) :
    (s.hold op).Consistent where
  held := by
    rintro _ ⟨⟩
    exact wellFormed
  target := h.target

theorem Consistent.dispatch (h : s.Consistent) {w : Waiting} {side : Side} {r : StageRecord}
    (target : r.stage = w.task.target) : (s.dispatch w side r).Consistent where
  held := h.held
  target := by
    intro d hd
    rcases List.mem_append.1 hd with hd | hd
    · exact h.target d hd
    · obtain rfl := List.mem_singleton.1 hd
      exact target

theorem Consistent.change (h : s.Consistent) {f : Dispatch → Dispatch}
    (key : ∀ d, (f d).key = d.key) (task : ∀ d, (f d).task = d.task) :
    (s.change i f).Consistent where
  held := h.held
  target := by
    intro d' hd'
    obtain ⟨d, hd, rfl | rfl⟩ := of_mem_change hd'
    · exact h.target d' hd
    · rw [key, task]
      exact h.target d hd

theorem Consistent.enroll (h : s.Consistent) (i : Nat) (command : String) :
    (s.enroll i command).Consistent := by
  have := h.change (i := i)
    (f := fun d => { d with processes := d.processes ++ [s.processes.next] })
    (fun _ => rfl) (fun _ => rfl)
  exact ⟨this.held, this.target⟩

theorem Consistent.conclude (h : s.Consistent) (i : Nat) : (s.conclude i).Consistent :=
  h.change (fun _ => rfl) (fun _ => rfl)

theorem Consistent.found (h : s.Consistent) {key : DispatchKey} {q : StageRecord}
    (found : s.coordinator.recordOf? key = some (op, q)) :
    op.WellFormed ∧ op.record? key.stage = some q ∧ q.key = key := by
  have held := (Coordinator.recordOf?_eq_some_iff.1 found).1
  exact ⟨h.held held, ((h.held held).recordOf?_eq_some_iff held).1 found⟩

theorem Consistent.step (h : s.Consistent) (step : s.Step e t) : t.Consistent := by
  cases step with
  | idle => exact h
  | draw => exact ⟨h.held, h.target⟩
  | leave => exact ⟨h.held, h.target⟩
  | @start turn now w request op waits task concerns free allowed =>
    have : (s.leave turn).Consistent := ⟨h.held, h.target⟩
    exact (this.hold (concerns.wellFormed_entered h.held allowed)).dispatch
      (congrArg Task.target task).symm
  | @fetch turn now w op b waits task held =>
    have : (s.leave turn).Consistent := ⟨h.held, h.target⟩
    exact (this.hold ((h.held held).withMetadata Coordinator.fetchRecord_fits)).dispatch
      (congrArg Task.target task).symm
  | @abort id stage now op q r p held seedId found running process live settled =>
    have fits : op.Fits stage r := settled ▸ ((h.held held).fits found).settle ..
    have ended : r.status ≠ .running := by simp [settled, StageRecord.settle]
    have := h.hold ((h.held held).endStage fits ended)
    exact ⟨this.held, this.target⟩
  | @progress i details now d op q r dispatch task found running changed =>
    obtain ⟨wellFormed, hq, -⟩ := h.found found
    have fits := wellFormed.fits hq
    have fits' : op.Fits d.key.stage r := by
      subst changed
      exact ⟨fits.stage_eq, fits.seedId_eq, fits.method_eq, fits.process⟩
    have := h.hold (wellFormed.withRecord hq fits' (by rw [changed]))
    exact ⟨this.held, this.target⟩
  | @attach i command now d op q r dispatch task found running changed =>
    obtain ⟨wellFormed, hq, -⟩ := h.found found
    have fits := wellFormed.fits hq
    have forward := Task.target_ne_metadataFetch task
    rw [← h.target d (List.mem_of_getElem? dispatch)] at forward
    have fits' : op.Fits d.key.stage r := by
      subst changed
      exact ⟨fits.stage_eq, fits.seedId_eq, fits.method_eq, fun _ _ => ⟨running, forward⟩⟩
    exact (h.enroll i command).hold (wellFormed.withRecord hq fits' (by rw [changed]))
  | @reject i command =>
    have := h.enroll i command
    exact ⟨this.held, this.target⟩
  | exit => exact ⟨h.held, h.target⟩
  | @settle e i d op q r _ _ _ ends dispatch underWay found uncancelled terminal settled =>
    obtain ⟨wellFormed, hq, -⟩ := h.found found
    have fits : op.Fits d.key.stage r := settled ▸ (wellFormed.fits hq).settle ..
    have ended : r.status ≠ .running := settled ▸ terminal
    have := (h.conclude i).hold (wellFormed.endStage fits ended)
    exact ⟨this.held, this.target⟩
  | conclude => exact h.conclude _

theorem consistent_initial (hostname : String) : (initial hostname).Consistent where
  held := by simp [initial]
  target := by simp [initial]

theorem consistent_run (hostname : String) (events : List (Event I)) :
    ((initial hostname).run events).Consistent :=
  run_induction Consistent.step (consistent_initial hostname) events

/-! ## Dispatches that are still to report -/

/-- A running record has a dispatch that is still to report on it; one that was settled by a report
has none any more. -/
structure Tracks (s : Scene) (q : StageRecord) : Prop where
  running : q.status = .running → ∃ i, s.UnderWay i q.key
  settled : q.status ≠ .running → q.status ≠ .cancelled → ∀ i, ¬ s.UnderWay i q.key

variable {p q r : StageRecord}

theorem Tracks.congr (h : s.Tracks q) (same : ∀ i key, t.UnderWay i key ↔ s.UnderWay i key) :
    t.Tracks q where
  running hs := (h.running hs).imp fun i => (same i _).2
  settled hs hc i := mt (same i _).1 (h.settled hs hc i)

theorem Tracks.of_key (h : s.Tracks p) (key : q.key = p.key) (status : q.status = p.status) :
    s.Tracks q where
  running hs := key ▸ h.running (status ▸ hs)
  settled hs hc := key ▸ h.settled (status ▸ hs) (status ▸ hc)

theorem Tracks.dispatch_of_ne (h : s.Tracks q) (ne : q.key ≠ r.key) (turn : Nat) (op : Operation)
    (w : Waiting) (side : Side) : (((s.leave turn).hold op).dispatch w side r).Tracks q where
  running hs := (h.running hs).imp fun _ hi => underWay_dispatch.2 (.inl hi)
  settled hs hc i hi := (underWay_dispatch.1 hi).elim (h.settled hs hc i) fun new => ne new.2

theorem tracks_dispatch (s : Scene) (w : Waiting) (side : Side) (hs : r.status = .running) :
    (s.dispatch w side r).Tracks r where
  running _ := ⟨s.dispatches.length, underWay_dispatch.2 (.inr ⟨rfl, rfl⟩)⟩
  settled hns := absurd hs hns

theorem Tracks.conclude_of_ne (h : s.Tracks q) (dispatch : s.dispatches[i]? = some d)
    (ne : q.key ≠ d.key) : (s.conclude i).Tracks q where
  running hs := by
    obtain ⟨j, hj⟩ := h.running hs
    refine ⟨j, underWay_conclude.2 ⟨?_, hj⟩⟩
    rintro rfl
    obtain ⟨d', hd', -, key⟩ := hj
    obtain rfl : d = d' := Option.some.inj (dispatch.symm.trans hd')
    exact ne key.symm
  settled hs hc j hj := h.settled hs hc j (underWay_conclude.1 hj).2

/-- Dispatches that are under way have different keys. -/
def Apart (s : Scene) : Prop :=
  ∀ ⦃i j key⦄, s.UnderWay i key → s.UnderWay j key → i = j

/-- Once its only dispatch has ended, a settled record is tracked again. -/
theorem tracks_conclude (apart : s.Apart) (hi : s.UnderWay i q.key) (hs : q.status ≠ .running) :
    (s.conclude i).Tracks q where
  running h := absurd h hs
  settled _ _ j hj := by
    obtain ⟨ne, hj⟩ := underWay_conclude.1 hj
    exact ne (apart hi hj)

/-- Each held record is tracked, and so a metadata record stands beside a complete backup. -/
structure Tracked (s : Scene) : Prop where
  tracks : ∀ {op stage q}, s.coordinator.operation = some op → op.record? stage = some q →
    s.Tracks q
  backedUp : ∀ {op}, s.coordinator.operation = some op → op.BackedUp

/-- A dispatch under way finds its record running or cancelled. -/
theorem Tracked.running_of_found (h : s.Tracked) (consistent : s.Consistent)
    (dispatch : s.dispatches[i]? = some d) (underWay : d.ended = none)
    (found : s.coordinator.recordOf? d.key = some (op, q)) (uncancelled : q.status ≠ .cancelled) :
    q.status = .running := by
  obtain ⟨-, hq, key⟩ := consistent.found found
  have held := (Coordinator.recordOf?_eq_some_iff.1 found).1
  refine Decidable.not_not.1 fun settled => ?_
  exact (h.tracks held hq).settled settled uncancelled i (key ▸ .of_dispatch dispatch underWay)

/-- The records of an operation after the record of one stage has changed. -/
theorem tracks_withRecord {stage other : Stage} (old : ∀ {other q}, op.record? other = some q →
      other ≠ stage → t.Tracks q) (new : t.Tracks r)
    (h : (op.withRecord stage r).record? other = some q) : t.Tracks q := by
  obtain ⟨-, rfl⟩ | ⟨ne, h⟩ := Operation.record_of_withRecord h
  · exact new
  · exact old h ne

theorem Tracked.step_of_apart (h : s.Tracked) (apart : s.Apart) (consistent : s.Consistent)
    (step : s.Step e t) : t.Tracked := by
  cases step with
  | idle => exact h
  | draw => exact ⟨fun held hq => (h.tracks held hq).congr fun _ _ => .rfl, h.backedUp⟩
  | leave => exact ⟨fun held hq => (h.tracks held hq).congr fun _ _ => .rfl, h.backedUp⟩
  | @start turn now w request op waits task concerns free allowed =>
    refine ⟨?_, ?_⟩
    · rintro _ stage q ⟨⟩ hq
      refine tracks_withRecord (fun hq ne => ?_) (tracks_dispatch _ _ _ rfl) hq
      cases concerns with
      | held held =>
        refine (h.tracks held hq).dispatch_of_ne ?_ turn _ w _
        exact (consistent.held held).key_ne hq ne
      | fresh => simp [Operation.record?, Operation.fresh] at hq
    · rintro _ ⟨⟩
      exact concerns.backedUp_entered h.backedUp free
  | @fetch turn now w op b waits task held seedId method backup completed =>
    refine ⟨?_, ?_⟩
    · rintro _ stage q ⟨⟩ hq
      refine tracks_withRecord (fun hq ne => ?_) (tracks_dispatch _ _ _ rfl) hq
      refine (h.tracks held hq).dispatch_of_ne ?_ turn _ w _
      exact (consistent.held held).key_ne hq ne
    · rintro _ ⟨⟩
      exact Operation.BackedUp.withMetadata backup completed
  | @abort id stage now op q r p held seedId found running process live settled =>
    refine ⟨?_, ?_⟩
    -- The dispatch of the aborted record is still to report, which a cancelled record allows.
    · rintro _ stage q ⟨⟩ hq
      refine tracks_withRecord (fun hq _ => (h.tracks held hq).congr fun _ _ => .rfl) ?_ hq
      exact ⟨by simp [settled, StageRecord.settle], by simp [settled, StageRecord.settle]⟩
    · rintro _ ⟨⟩
      exact (h.backedUp held).endStage found (by simp [running])
  | @progress i details now d op q r dispatch task found running changed =>
    obtain ⟨wellFormed, hq, key⟩ := consistent.found found
    have held := (Coordinator.recordOf?_eq_some_iff.1 found).1
    refine ⟨?_, ?_⟩
    · rintro _ stage q' ⟨⟩ hq'
      refine tracks_withRecord (fun hq _ => (h.tracks held hq).congr fun _ _ => .rfl) ?_ hq'
      have := (h.tracks held hq).of_key (q := r) (by subst changed; rfl) (by subst changed; rfl)
      exact this.congr fun _ _ => .rfl
    · rintro _ ⟨⟩
      exact (h.backedUp held).withRecord hq (by simp [changed])
  | @attach i command now d op q r dispatch task found running changed =>
    obtain ⟨wellFormed, hq, key⟩ := consistent.found found
    have held := (Coordinator.recordOf?_eq_some_iff.1 found).1
    refine ⟨?_, ?_⟩
    · rintro _ stage q' ⟨⟩ hq'
      refine tracks_withRecord
        (fun hq _ => (h.tracks held hq).congr fun _ _ => underWay_enroll command) ?_ hq'
      have := (h.tracks held hq).of_key (q := r) (by subst changed; rfl) (by subst changed; rfl)
      exact this.congr fun _ _ => underWay_enroll command
    · rintro _ ⟨⟩
      exact (h.backedUp held).withRecord hq (by simp [changed])
  | @reject i command =>
    exact ⟨fun held hq => (h.tracks held hq).congr fun _ _ => underWay_enroll command, h.backedUp⟩
  | exit => exact ⟨fun held hq => (h.tracks held hq).congr fun _ _ => .rfl, h.backedUp⟩
  | @settle e i d op q r _ _ _ ends dispatch underWay found uncancelled terminal settled =>
    obtain ⟨wellFormed, hq, key⟩ := consistent.found found
    have held := (Coordinator.recordOf?_eq_some_iff.1 found).1
    -- A late report would find the record cancelled, so this one cannot undo a complete backup.
    have running := h.running_of_found consistent dispatch underWay found uncancelled
    have rkey : r.key = d.key := by subst settled; exact key
    refine ⟨?_, ?_⟩
    · rintro _ stage q' ⟨⟩ hq'
      refine tracks_withRecord (fun hq ne => ?_) ?_ hq'
      · have ne := wellFormed.key_ne hq ne
        exact ((h.tracks held hq).conclude_of_ne dispatch ne).congr fun _ _ => .rfl
      · have ended : r.status ≠ .running := settled ▸ terminal
        have hi : s.UnderWay i r.key := rkey ▸ .of_dispatch dispatch underWay
        exact (tracks_conclude apart hi ended).congr fun _ _ => .rfl
    · rintro _ ⟨⟩
      exact (h.backedUp held).endStage hq (by simp [running])
  | @conclude e i d ends dispatch underWay lost =>
    refine ⟨fun {op stage q} held hq => ?_, h.backedUp⟩
    by_cases key : q.key = d.key
    · have filed := (consistent.held held).toFiled
      have hst : d.key.stage = stage := by rw [← key, filed.key_eq hq]
      have found := (filed.recordOf?_eq_some_iff held).2 ⟨hst.symm ▸ hq, key⟩
      have cancelled := lost op q found
      exact ⟨by simp [cancelled], fun _ h => absurd cancelled h⟩
    · exact (h.tracks held hq).conclude_of_ne dispatch key

theorem Tracked.step (h : s.Tracked) (numbered : s.Numbered) (consistent : s.Consistent)
    (timely : s.Timely) (step : s.Step e t) : t.Tracked :=
  h.step_of_apart (fun _ _ _ => numbered.underWay_unique timely) consistent step

theorem tracked_initial (hostname : String) : (initial hostname).Tracked where
  tracks := by simp [initial]
  backedUp := by simp [initial]

theorem tracked_run (hostname : String) (events : List (Event I))
    (timely : ((initial hostname).run events).Timely) :
    ((initial hostname).run events).Tracked := by
  let P (s : Scene) : Prop := s.Numbered ∧ s.Consistent ∧ (s.Timely → s.Tracked)
  have step {s t : Scene} {e : Event I} (h : P s) (step : s.Step e t) : P t := by
    obtain ⟨numbered, consistent, tracked⟩ := h
    refine ⟨numbered.step step, consistent.step step, fun timely => ?_⟩
    have before := timely.of_step numbered step
    exact (tracked before).step numbered consistent before step
  have start : P (initial hostname) :=
    ⟨numbered_initial hostname, consistent_initial hostname, fun _ => tracked_initial hostname⟩
  exact (run_induction (P := P) step start events).2.2 timely

/-- Whatever requests and reports came in, the stage, the status and the records of the held
operation fit together. Only the last clause looks at the numbers: a dispatch that outlives `2 ^ 64`
draws can meet its own number again on a backup that is complete. -/
theorem heldOperation_coherent (hostname : String) (events : List (Event I)) (op : Operation)
    (held : ((initial hostname).run events).coordinator.operation = some op) :
    (∃ r, op.record? .prepare = some r) ∧
    (∀ stage r, op.record? stage = some r →
      r.stage = stage ∧ r.seedId = op.seedId ∧ r.method = op.method) ∧
    op.stage ≠ .metadataFetch ∧
    (∃ r, op.record? op.stage = some r ∧ op.status = r.status) ∧
    (∀ stage r, stage ≠ .metadataFetch → op.record? stage = some r → r.status = .running →
      stage = op.stage) ∧
    (∀ stage, op.runningStage? = some stage ↔ op.phase.isActive ∧ stage = op.stage) ∧
    op.phase ≠ .idle ∧
    (∀ stage r, op.record? stage = some r → r.process.isSome →
      r.status = .running ∧ stage ≠ .metadataFetch) ∧
    (((initial hostname).run events).Timely → ∀ m, op.record? .metadataFetch = some m →
      ∃ b, op.record? .backup = some b ∧ b.status = .completed) := by
  have wellFormed := (consistent_run hostname events).held held
  refine ⟨wellFormed.prepared, fun _ _ hr => wellFormed.about hr, wellFormed.forward,
    wellFormed.current, fun _ _ hf hr hs => wellFormed.inFlight hf hr hs, fun stage => ?_,
    wellFormed.phase_ne_idle, fun stage r hr hp => ?_,
    fun timely => (tracked_run hostname events timely).backedUp held⟩
  · rw [wellFormed.runningStage?_eq]
    split
    · rename_i active
      simp [active, eq_comm]
    · rename_i inactive
      simp [inactive]
  · obtain ⟨p, hp⟩ := Option.isSome_iff_exists.1 hp
    exact wellFormed.process hr hp

/-- An operation whose backup is complete and whose coordinates are being read. -/
def fetching : List (Event Interface.host) :=
  performed 0 (.prepare .target) ++ performed 1 (.backup "db2" 3306) ++ requested .coordinates

theorem heldOperation_coherent_fetching : ∃ op m b,
    ((initial "db1").run fetching).coordinator.operation = some op ∧
    op.record? .metadataFetch = some m ∧ op.record? .backup = some b ∧
    b.status = .completed := by
  have few : ((initial "db1").run fetching).draws < UInt64.size := by decide
  obtain ⟨-, -, -, -, -, -, -, -, backedUp⟩ := heldOperation_coherent "db1" fetching _ rfl
  obtain ⟨b, hb, hs⟩ := backedUp ((numbered_run "db1" fetching).timely few) _ rfl
  exact ⟨_, _, b, rfl, rfl, hb, hs⟩

/-! ## A number that comes round -/

/-- A backup is aborted, but its work goes on for `2 ^ 64` numbers. By then a second backup of the
same number is complete and its coordinates are being read, and now the first one fails. -/
def belated : List (Event Interface.host) :=
  performed 0 (.prepare .target) ++ requested (.stage (.backup "db2" 3306)) ++
    [.processStarted 1 "mysqldump" .epoch, .abort ⟨1⟩ .backup .epoch] ++ vain (UInt64.size - 1) ++
    performed 2 (.backup "db2" 3306) ++ requested .coordinates ++
    [.stageEnded 1 (.crashed "killed") .epoch]

/-- Without a bound on the numbers the backup beside a metadata record need not be complete. -/
theorem exists_metadata_without_backup : ∃ op m b,
    ((initial "db1").run belated).coordinator.operation = some op ∧
    op.record? .metadataFetch = some m ∧ op.record? .backup = some b ∧ b.status = .error := by
  rw [belated, run_append, run_append, run_append, run_append, run_vain rfl rfl]
  exact ⟨_, _, _, rfl, rfl, rfl, rfl⟩

end Scene

end ReplicaSeed
