import ReplicaSeed.Proofs.Agent.HeldOperation

/-!
# How a record ends

The record of a dispatch starts out running and is settled once. From then on nothing touches it,
until a dispatch of the same stage or a Prepare of another operation takes its place; and once it is
gone it does not come back.

## Main definitions

* `Scene.recordOf`: the record of a dispatch, as long as it is stored.
* `DispatchKey.replaces`: one dispatch takes the place of another.
* `Scene.Moves`: what an event can do to all records.

## Main statements

* `Scene.Step.moves`: an event does nothing else.
* `Scene.record_final`: the life of a record.
-/

namespace ReplicaSeed

/-- The dispatch of the first key takes the place of that of the second: it is of the same stage of
the same operation, or it begins another operation. -/
def DispatchKey.replaces (new old : DispatchKey) : Bool :=
  if new.seedId = old.seedId then new.stage == old.stage else new.stage == .prepare

/-- The dispatch that an event reports on. -/
def Event.reportOf {I : Interface} : Event I → Option Nat
  | progress i _ _ => some i
  | processStarted i _ _ => some i
  | stageEnded i _ _ => some i
  | fetchEnded i _ _ => some i
  | _ => none

theorem Event.reportOf_of_endOf {I : Interface} {e : Event I} {i : Nat} (h : e.endOf = some i) :
    e.reportOf = some i := by
  cases e with
  | stageEnded => exact h
  | fetchEnded => exact h
  | _ => cases h

namespace Scene

variable {I : Interface} {s t : Scene} {e : Event I} {i : Nat} {d : Dispatch} {op op' : Operation}
  {q r : StageRecord} {key : DispatchKey}

/-! ## The record of a key -/

/-- The record of a key, as long as it is in place. -/
def recordOf (s : Scene) (key : DispatchKey) : Option StageRecord :=
  (s.coordinator.recordOf? key).map (·.2)

theorem recordOf_eq_some_iff :
    s.recordOf key = some r ↔
      ∃ op, s.coordinator.operation = some op ∧ op.seedId = key.seedId ∧
        op.record? key.stage = some r ∧ r.generation = key.generation := by
  simp [recordOf, Coordinator.recordOf?_eq_some_iff]

theorem recordOf_eq (held : s.coordinator.operation = some op) :
    s.recordOf key =
      if op.seedId = key.seedId then
        (op.record? key.stage).filter fun r => r.generation = key.generation
      else none := by
  apply Option.ext
  intro r
  rw [recordOf_eq_some_iff]
  split <;> simp_all [Option.filter_eq_some_iff]

theorem Consistent.recordOf_eq_some_iff (h : s.Consistent)
    (held : s.coordinator.operation = some op) :
    s.recordOf key = some q ↔ op.record? key.stage = some q ∧ q.key = key := by
  rw [← (h.held held).recordOf?_eq_some_iff held]
  simp only [recordOf, Option.map_eq_some_iff, Prod.exists, exists_eq_right]
  constructor
  · rintro ⟨op', found⟩
    obtain rfl : op = op' :=
      Option.some.inj (held.symm.trans (Coordinator.recordOf?_eq_some_iff.1 found).1)
    exact found
  · exact fun found => ⟨op, found⟩

/-! ## What an event does to the records -/

/-- A running record changes, and no other. -/
structure Reports (s t : Scene) (q r : StageRecord) : Prop where
  keys : t.keys = s.keys
  found : s.recordOf q.key = some q
  running : q.status = .running
  records : ∀ key, t.recordOf key = if key = q.key then some r else s.recordOf key

/-- A dispatch begins with a running record. The records that it replaces have no process. -/
structure Begins (s t : Scene) (r : StageRecord) : Prop where
  keys : t.keys = s.keys ++ [r.key]
  running : r.status = .running
  records : ∀ key, t.recordOf key =
    if key = r.key then some r else if r.key.replaces key then none else s.recordOf key
  spares : ∀ {key q}, s.recordOf key = some q → r.key.replaces key → q.process = none

/-- What an event can do to all records. -/
inductive Moves (s t : Scene) : Prop where
  | stay (keys : t.keys = s.keys) (records : ∀ key, t.recordOf key = s.recordOf key)
  | report {q r : StageRecord} (reports : s.Reports t q r)
  | begin {r : StageRecord} (begins : s.Begins t r)

theorem Reports.of_withRecord (consistent : s.Consistent) (keys : t.keys = s.keys)
    (held : s.coordinator.operation = some op) {stage : Stage}
    (found : op.record? stage = some q) (running : q.status = .running)
    (generation : r.generation = q.generation) (held' : t.coordinator.operation = some op')
    (seedId : op'.seedId = op.seedId)
    (records : ∀ other, op'.record? other = if other = stage then some r else op.record? other) :
    s.Reports t q r := by
  have hq := (consistent.held held).toFiled.key_eq found
  have hst : q.key.stage = stage := by rw [hq]
  refine ⟨keys, (consistent.recordOf_eq_some_iff held).2 ⟨hst ▸ found, rfl⟩, running, fun k => ?_⟩
  rw [recordOf_eq held', recordOf_eq held, seedId, records]
  by_cases hid : op.seedId = k.seedId
  · by_cases hk : k.stage = stage
    · obtain ⟨id, st, n⟩ := k
      simp only at hid hk
      subst hid hk
      by_cases hn : n = q.generation <;>
        simp [hq, found, generation, hn, Option.filter, eq_comm (a := q.generation)]
    · have : k ≠ q.key := fun same => hk (same ▸ hst)
      simp [hid, hk, this]
  · have : k ≠ q.key := by
      rintro rfl
      exact hid (by rw [hq])
    simp [hid, this]

/-- A report finds the record of its dispatch and changes it. -/
theorem Reports.of_found (consistent : s.Consistent) (keys : t.keys = s.keys)
    (found : s.coordinator.recordOf? key = some (op, q)) (running : q.status = .running)
    (generation : r.generation = q.generation) (held' : t.coordinator.operation = some op')
    (seedId : op'.seedId = op.seedId)
    (records : ∀ other, op'.record? other =
      if other = key.stage then some r else op.record? other) :
    s.Reports t q r :=
  .of_withRecord consistent keys (Coordinator.recordOf?_eq_some_iff.1 found).1
    (consistent.found found).2.1 running generation held' seedId records

/-- A dispatch begins in an operation that has the records of `old` beside its own. -/
theorem Begins.of_records {old : Stage → Option StageRecord} (keys : t.keys = s.keys ++ [r.key])
    (running : r.status = .running) (held' : t.coordinator.operation = some op')
    (seedId' : op'.seedId = r.seedId)
    (records : ∀ other, op'.record? other = if other = r.stage then some r else old other)
    (kept : ∀ {stage} n, stage ≠ r.stage →
      s.recordOf ⟨r.seedId, stage, n⟩ = (old stage).filter fun q => q.generation = n)
    (gone : ∀ key, key.seedId ≠ r.seedId → r.stage = .prepare ∨ s.recordOf key = none)
    (spares : ∀ {key q}, s.recordOf key = some q → r.key.replaces key → q.process = none) :
    s.Begins t r := by
  refine ⟨keys, running, fun key => ?_, spares⟩
  obtain ⟨id, stage, n⟩ := key
  rw [recordOf_eq held', seedId', records]
  by_cases hid : r.seedId = id
  · subst hid
    by_cases hst : stage = r.stage
    · by_cases hn : r.generation = n <;>
        simp [StageRecord.key, DispatchKey.replaces, Option.filter, hst, hn, eq_comm (a := n)]
    · have other : ¬ r.stage = stage := Ne.symm hst
      simp [StageRecord.key, DispatchKey.replaces, hst, other, kept n hst]
  · have other : ¬ id = r.seedId := Ne.symm hid
    obtain prepare | absent := gone ⟨id, stage, n⟩ other
    · simp [StageRecord.key, DispatchKey.replaces, hid, other, prepare]
    · simp [StageRecord.key, DispatchKey.replaces, hid, other, absent]

/-- A stage of the held operation begins, and only its record is replaced. -/
theorem Begins.of_enter (held : s.coordinator.operation = some op)
    (keys : t.keys = s.keys ++ [r.key]) (running : r.status = .running)
    (held' : t.coordinator.operation = some op') (seedId : op.seedId = r.seedId)
    (seedId' : op'.seedId = r.seedId)
    (records : ∀ other, op'.record? other = if other = r.stage then some r else op.record? other)
    (spares : ∀ q, op.record? r.stage = some q → q.process = none) : s.Begins t r := by
  refine .of_records keys running held' seedId' records (fun n _ => ?_) (fun key ne => .inr ?_)
    fun {key q} stored replaces => ?_
  · rw [recordOf_eq held, if_pos seedId]
  · rw [recordOf_eq held, if_neg fun same => ne (same.symm.trans seedId)]
  · obtain ⟨op', held', hid, hq, -⟩ := recordOf_eq_some_iff.1 stored
    obtain rfl : op = op' := Option.some.inj (held.symm.trans held')
    have same : r.seedId = key.seedId := seedId.symm.trans hid
    have hst : r.stage = key.stage := by
      simpa [DispatchKey.replaces, StageRecord.key, same] using replaces
    exact spares q (hst ▸ hq)

/-- An operation begins, and the records of the one before are gone. -/
theorem Begins.of_fresh (other : ∀ op, s.coordinator.operation = some op → op.seedId ≠ r.seedId)
    (keys : t.keys = s.keys ++ [r.key]) (running : r.status = .running)
    (held' : t.coordinator.operation = some op') (seedId' : op'.seedId = r.seedId)
    (prepare : r.stage = .prepare)
    (records : ∀ other, op'.record? other = if other = r.stage then some r else none)
    (spares : ∀ op stage q, s.coordinator.operation = some op → op.record? stage = some q →
      q.process = none) : s.Begins t r := by
  refine .of_records keys running held' seedId' records (fun {stage} n _ => ?_)
    (fun _ _ => .inl prepare) fun {key q} stored _ => ?_
  · refine Option.eq_none_iff_forall_ne_some.2 fun q hq => ?_
    obtain ⟨op, held, same, -⟩ := recordOf_eq_some_iff.1 hq
    exact other op held same
  · obtain ⟨op, held, -, hq, -⟩ := recordOf_eq_some_iff.1 stored
    exact spares op key.stage q held hq

/-- A stage begins: its record was not running, or no stage was. -/
theorem begins_start (consistent : s.Consistent) {w : Waiting} {request : StageRequest}
    (concerns : s.coordinator.Concerns w.id w.method request op)
    (free : ∀ r, op.record? request.stage = some r → r.status.blocksRestart = false) (turn : Nat)
    (now : Instant) :
    s.Begins
      (((s.leave turn).hold (s.coordinator.entered op request w.number now)).dispatch w
        (Coordinator.requestedSide op request) (s.coordinator.firstRecord op request w.number now))
      (s.coordinator.firstRecord op request w.number now) := by
  have id := concerns.seedId
  cases concerns with
  | held held =>
    refine .of_enter held (keys_dispatch ..) rfl rfl rfl rfl
      (fun _ => Coordinator.record?_entered _) fun q hq => ?_
    refine Option.eq_none_iff_forall_ne_some.2 fun p hp => ?_
    have running := ((consistent.held held).process hq hp).1
    simpa [running, Status.blocksRestart] using free q hq
  | fresh idle =>
    refine .of_fresh (fun op held => (idle op held).1) (keys_dispatch ..) rfl rfl rfl rfl
      (fun other => ?_) fun op stage q held hq => ?_
    · rw [Coordinator.record?_entered, Operation.record?_fresh]
      rfl
    · have wellFormed := consistent.held held
      have settled := wellFormed.runningStage?_eq_none_iff.1 (idle op held).2
      refine Option.eq_none_iff_forall_ne_some.2 fun p hp => settled ?_
      obtain ⟨running, forward⟩ := wellFormed.process hq hp
      exact wellFormed.status_eq_running.2 ⟨stage, q, forward, hq, running⟩

/-- A metadata fetch begins: a metadata record has no process. -/
theorem begins_fetch (consistent : s.Consistent) (held : s.coordinator.operation = some op)
    (w : Waiting) (turn : Nat) (now : Instant) :
    s.Begins
      (((s.leave turn).hold
        (op.withRecord .metadataFetch (s.coordinator.fetchRecord op w.number now))).dispatch w
        op.side (s.coordinator.fetchRecord op w.number now))
      (s.coordinator.fetchRecord op w.number now) := by
  refine .of_enter held (keys_dispatch ..) rfl rfl rfl rfl
    (fun _ => Operation.record?_withRecord ..) fun q hq => ?_
  refine Option.eq_none_iff_forall_ne_some.2 fun p hp => ?_
  exact ((consistent.held held).process hq hp).2 rfl

/-- An abort changes the record that it finds. -/
theorem reports_abort (consistent : s.Consistent) (held : s.coordinator.operation = some op)
    {stage : Stage} (found : op.record? stage = some q) (running : q.status = .running)
    {details : String} {now : Instant} (settled : r = q.settle .cancelled details now)
    (p : ProcessId) :
    s.Reports { (s.hold (op.endStage stage r)).publish r with processes := s.processes.cancel p }
      q r :=
  .of_withRecord consistent rfl held found running (by subst settled; rfl) rfl rfl
    (Operation.record?_endStage op stage r)

/-- Progress changes the record of its dispatch. -/
theorem reports_progress (consistent : s.Consistent)
    (found : s.coordinator.recordOf? key = some (op, q)) (running : q.status = .running)
    {details : String} {now : Instant} (changed : r = { q with details, updatedAt := now }) :
    s.Reports ((s.hold (op.withRecord key.stage r)).publish r) q r :=
  .of_found consistent rfl found running (by subst changed; rfl) rfl rfl
    (Operation.record?_withRecord op key.stage r)

/-- A process is stored in the record of its dispatch. -/
theorem reports_attach (consistent : s.Consistent)
    (found : s.coordinator.recordOf? key = some (op, q)) (running : q.status = .running)
    {p : ProcessId} {now : Instant} (changed : r = { q with process := some p, updatedAt := now })
    (i : Nat) (command : String) :
    s.Reports ((s.enroll i command).hold (op.withRecord key.stage r)) q r :=
  .of_found consistent (s.keys_enroll i command) found running (by subst changed; rfl) rfl rfl
    (Operation.record?_withRecord op key.stage r)

/-- The end of a dispatch settles its record. -/
theorem reports_settle (consistent : s.Consistent)
    (found : s.coordinator.recordOf? key = some (op, q)) (running : q.status = .running)
    {status : Status} {details : String} {now : Instant}
    (settled : r = q.settle status details now) (i : Nat) :
    s.Reports (((s.conclude i).hold (op.endStage key.stage r)).publish r) q r :=
  .of_found consistent (s.keys_conclude i) found running (by subst settled; rfl) rfl rfl
    (Operation.record?_endStage op key.stage r)

theorem Step.moves (step : s.Step e t) (consistent : s.Consistent) (tracked : s.Tracked) :
    s.Moves t := by
  cases step with
  | idle => exact .stay rfl fun _ => rfl
  | draw => exact .stay rfl fun _ => rfl
  | leave => exact .stay rfl fun _ => rfl
  | start waits task concerns free allowed =>
    exact .begin (begins_start consistent concerns free _ _)
  | fetch waits task held => exact .begin (begins_fetch consistent held _ _ _)
  | abort held seedId found running process live settled =>
    exact .report (reports_abort consistent held found running settled _)
  | progress dispatch task found running changed =>
    exact .report (reports_progress consistent found running changed)
  | attach dispatch task found running changed =>
    exact .report (reports_attach consistent found running changed _ _)
  | @reject i command => exact .stay (s.keys_enroll i command) fun _ => rfl
  | exit => exact .stay rfl fun _ => rfl
  | settle ends dispatch underWay found uncancelled terminal settled =>
    have running := tracked.running_of_found consistent dispatch underWay found uncancelled
    exact .report (reports_settle consistent found running settled _)
  | @conclude e i => exact .stay (s.keys_conclude i) fun _ => rfl

/-- A report that does not find its record running changes nothing. -/
theorem Step.report_lost (step : s.Step e t) (consistent : s.Consistent) (tracked : s.Tracked)
    (report : e.reportOf = some i) (dispatch : s.dispatches[i]? = some d)
    (lost : ∀ r, s.recordOf d.key = some r → r.status ≠ .running) :
    t.coordinator.operation = s.coordinator.operation ∧ t.published = s.published := by
  have absent {j : Nat} {d' : Dispatch} {op : Operation} {q : StageRecord}
      (same : e.reportOf = some j) (dispatch' : s.dispatches[j]? = some d')
      (found : s.coordinator.recordOf? d'.key = some (op, q)) : q.status ≠ .running := by
    obtain rfl : i = j := Option.some.inj (report.symm.trans same)
    obtain rfl : d = d' := Option.some.inj (dispatch.symm.trans dispatch')
    exact lost q (by simp [recordOf, found])
  cases step with
  | idle => exact ⟨rfl, rfl⟩
  | progress dispatch' _ found running => exact absurd running (absent rfl dispatch' found)
  | attach dispatch' _ found running => exact absurd running (absent rfl dispatch' found)
  | reject => exact ⟨rfl, rfl⟩
  | settle ends dispatch' underWay found uncancelled =>
    have running := tracked.running_of_found consistent dispatch' underWay found uncancelled
    exact absurd running (absent (Event.reportOf_of_endOf ends) dispatch' found)
  | conclude => exact ⟨rfl, rfl⟩
  | _ => cases report

/-! ## The life of a record -/

/-- With different keys a dispatch does not begin under an old one. -/
theorem Begins.key_ne (begins : s.Begins t r) (distinct : t.keys.Nodup)
    (dispatched : key ∈ s.keys) : key ≠ r.key := by
  rw [begins.keys] at distinct
  exact fun same =>
    (List.nodup_append.1 distinct).2.2 _ dispatched _ (List.mem_singleton.2 rfl) same

/-- What becomes of a record. -/
theorem Moves.recordOf (moves : s.Moves t) (distinct : t.keys.Nodup) (dispatched : key ∈ s.keys)
    (stored : s.recordOf key = some r) :
    (∃ r', t.recordOf key = some r' ∧ (r.status ≠ .running → r' = r)) ∨
    (t.recordOf key = none ∧ ∃ new ∈ t.keys.drop s.keys.length, new.replaces key) := by
  cases moves with
  | stay _ records => exact .inl ⟨r, (records key).trans stored, fun _ => rfl⟩
  | @report q r' reports =>
    left
    by_cases h : key = q.key
    · subst h
      obtain rfl : r = q := Option.some.inj (stored.symm.trans reports.found)
      exact ⟨r', by simp [reports.records], fun settled => absurd reports.running settled⟩
    · exact ⟨r, by simp [reports.records, h, stored], fun _ => rfl⟩
  | @begin r' begins =>
    have ne := begins.key_ne distinct dispatched
    by_cases h : r'.key.replaces key
    · exact .inr ⟨by simp [begins.records, ne, h], r'.key, by simp [begins.keys], h⟩
    · exact .inl ⟨r, by simp [begins.records, ne, h, stored], fun _ => rfl⟩

/-- A record that is gone does not come back. -/
theorem Moves.recordOf_none (moves : s.Moves t) (distinct : t.keys.Nodup)
    (dispatched : key ∈ s.keys) (gone : s.recordOf key = none) : t.recordOf key = none := by
  cases moves with
  | stay _ records => exact (records key).trans gone
  | @report q r reports =>
    have ne : key ≠ q.key := fun same => by simp [same, reports.found] at gone
    simp [reports.records, ne, gone]
  | begin begins => simp [begins.records, begins.key_ne distinct dispatched, gone]

theorem Moves.keys_prefix (moves : s.Moves t) : s.keys <+: t.keys := by
  cases moves with
  | stay keys => exact keys ▸ List.prefix_refl _
  | report reports => exact reports.keys ▸ List.prefix_refl _
  | begin begins => exact begins.keys ▸ List.prefix_append ..

/-- A dispatch begins with a running record. -/
theorem Moves.running_of_new (moves : s.Moves t) (new : key ∈ t.keys.drop s.keys.length) :
    ∃ r, t.recordOf key = some r ∧ r.status = .running := by
  cases moves with
  | stay keys => simp [keys] at new
  | report reports => simp [reports.keys] at new
  | @begin r begins =>
    obtain rfl : key = r.key := by simpa [begins.keys] using new
    exact ⟨r, by simp [begins.records], begins.running⟩

/-- A running record is that of a dispatch under way, and of no other. -/
theorem Tracked.underWay_of_running (h : s.Tracked) (consistent : s.Consistent)
    (distinct : s.keys.Nodup) (stored : s.recordOf key = some r) (running : r.status = .running) :
    key ∈ s.keys ∧ ∀ d ∈ s.dispatches, d.key = key → d.ended = none := by
  obtain ⟨op, held, -, -⟩ := recordOf_eq_some_iff.1 stored
  obtain ⟨hr, rfl⟩ := (consistent.recordOf_eq_some_iff held).1 stored
  obtain ⟨i, d', dispatch', underWay, key'⟩ := (h.tracks held hr).running running
  have member := List.mem_of_getElem? dispatch'
  refine ⟨List.mem_map.2 ⟨d', member, key'⟩, fun d dispatch key => ?_⟩
  have same : d' = d := List.inj_on_of_nodup_map distinct member dispatch (key'.trans key.symm)
  exact same ▸ underWay

/-- All that is known of a scene before the numbers come round. -/
structure Sound (s : Scene) : Prop where
  numbered : s.Numbered
  consistent : s.Consistent
  tracked : s.Tracked
  few : s.draws < UInt64.size

theorem Sound.distinct (h : s.Sound) : s.keys.Nodup := h.numbered.keys_nodup h.few

theorem Sound.moves (h : s.Sound) (e : Event I) : s.Moves (s.after e) :=
  (s.step_after e).moves h.consistent h.tracked

theorem Sound.after (h : s.Sound) (few : (s.after e).draws < UInt64.size) : (s.after e).Sound where
  numbered := h.numbered.step (s.step_after e)
  consistent := h.consistent.step (s.step_after e)
  tracked := h.tracked.step h.numbered h.consistent (h.numbered.timely h.few) (s.step_after e)
  few := few

theorem sound_run (hostname : String) (events : List (Event I))
    (few : ((initial hostname).run events).draws < UInt64.size) :
    ((initial hostname).run events).Sound where
  numbered := numbered_run hostname events
  consistent := consistent_run hostname events
  tracked := tracked_run hostname events ((numbered_run hostname events).timely few)
  few := few

/-- What becomes of a record in a run. -/
theorem Sound.recordOf_run (h : s.Sound) (later : List (Event I))
    (few : (s.run later).draws < UInt64.size) (dispatched : key ∈ s.keys) :
    s.keys <+: (s.run later).keys ∧
    (s.recordOf key = none → (s.run later).recordOf key = none) ∧
    ∀ r, s.recordOf key = some r →
      (∃ r', (s.run later).recordOf key = some r' ∧ (r.status ≠ .running → r' = r)) ∨
      ((s.run later).recordOf key = none ∧
        ∃ new ∈ (s.run later).keys.drop s.keys.length, new.replaces key) := by
  induction later generalizing s with
  | nil => exact ⟨List.prefix_refl _, id, fun r stored => .inl ⟨r, stored, fun _ => rfl⟩⟩
  | cons e later ih =>
    rw [run_cons] at few ⊢
    have next := h.after (Nat.lt_of_le_of_lt (draws_le_run _ later) few)
    have moves := h.moves e
    have le := moves.keys_prefix
    obtain ⟨le', none, some⟩ := ih next few (le.subset dispatched)
    refine ⟨le.trans le', fun gone => none (moves.recordOf_none next.distinct dispatched gone),
      fun r stored => ?_⟩
    obtain ⟨r', stored', same⟩ | ⟨gone, new, hnew, replaces⟩ :=
      moves.recordOf next.distinct dispatched stored
    · obtain ⟨r'', stored'', same'⟩ | ⟨gone, new, hnew, replaces⟩ := some r' stored'
      · refine .inl ⟨r'', stored'', fun settled => ?_⟩
        obtain rfl := same settled
        exact same' settled
      · have hnew := (List.drop_sublist_drop_left _ le.length_le).subset hnew
        exact .inr ⟨gone, new, hnew, replaces⟩
    · exact .inr ⟨none gone, new, (le'.sublist.drop _).subset hnew, replaces⟩

/-- The life of a record. With fewer draws than numbers no two dispatches have the same key. A
report only counts as long as the record of its dispatch is stored and running. The record begins
running; while it runs its dispatch is under way; once it is settled it stays as it is, until a
later dispatch replaces it; and when it is gone it does not come back. -/
theorem record_final (hostname : String) (before : List (Event I)) (e : Event I)
    (later : List (Event I))
    (few : ((initial hostname).run (before ++ e :: later)).draws < UInt64.size) :
    let s := (initial hostname).run before
    let t := s.after e
    let u := t.run later
    u.keys.Nodup ∧
    (∀ i d, e.reportOf = some i → s.dispatches[i]? = some d →
      (∀ r, s.recordOf d.key = some r → r.status ≠ .running) →
      t.coordinator.operation = s.coordinator.operation ∧ t.published = s.published) ∧
    (∀ key ∈ t.keys.drop s.keys.length, ∃ r, t.recordOf key = some r ∧ r.status = .running) ∧
    (∀ key r, t.recordOf key = some r → r.status = .running →
      key ∈ t.keys ∧ ∀ d ∈ t.dispatches, d.key = key → d.ended = none) ∧
    (∀ key ∈ t.keys, ∀ r, t.recordOf key = some r →
      (∃ r', u.recordOf key = some r' ∧ (r.status ≠ .running → r' = r)) ∨
      (u.recordOf key = none ∧ ∃ new ∈ u.keys.drop t.keys.length, new.replaces key)) ∧
    ∀ key ∈ t.keys, t.recordOf key = none → u.recordOf key = none := by
  intro s t u
  have run : (initial hostname).run (before ++ e :: later) = u := run_append ..
  have last : u.Sound := run ▸ sound_run hostname _ few
  have fewNext : t.draws < UInt64.size := Nat.lt_of_le_of_lt (draws_le_run t later) last.few
  have sound : s.Sound :=
    sound_run hostname before (Nat.lt_of_le_of_lt (s.step_after e).draws_le fewNext)
  have next : t.Sound := sound.after fewNext
  have life {key : DispatchKey} (dispatched : key ∈ t.keys) :=
    next.recordOf_run later last.few dispatched
  refine ⟨last.distinct, fun i d report dispatch lost => ?_,
    fun key new => (sound.moves e).running_of_new new, fun key r stored running => ?_,
    fun key dispatched => (life dispatched).2.2, fun key dispatched => (life dispatched).2.1⟩
  · exact (s.step_after e).report_lost sound.consistent sound.tracked report dispatch lost
  · exact next.tracked.underWay_of_running next.consistent next.distinct stored running

/-- A backup that has reported a process. -/
def backingUp : List (Event Interface.host) :=
  performed 0 (.prepare .target) ++ requested (.stage (.backup "db2" 3306)) ++
    [.processStarted 1 "mysqldump" .epoch]

/-- The work of an aborted backup may still come to a good end, but its record does not. -/
theorem record_final_aborted : ∃ r,
    ((((initial "db1").run backingUp).after (.abort ⟨1⟩ .backup .epoch : Event Interface.host)).run
      [(.stageEnded 1 (.result (.ok ())) .epoch : Event Interface.host)]).recordOf
        ⟨⟨1⟩, .backup, 2⟩ = some r ∧ r.status = .cancelled := by
  have few : ((initial "db1").run (backingUp ++ [.abort ⟨1⟩ .backup .epoch,
    .stageEnded 1 (.result (.ok ())) .epoch])).draws < UInt64.size := by decide
  obtain ⟨-, -, -, -, life, -⟩ := record_final "db1" backingUp (.abort ⟨1⟩ .backup .epoch)
    [.stageEnded 1 (.result (.ok ())) .epoch] few
  obtain ⟨r, stored, same⟩ | ⟨-, new, none, -⟩ := life ⟨⟨1⟩, .backup, 2⟩ (by decide) _ rfl
  · exact ⟨r, stored, same (by decide) ▸ rfl⟩
  · exact absurd (show new ∈ [] from none) List.not_mem_nil

end Scene

end ReplicaSeed
