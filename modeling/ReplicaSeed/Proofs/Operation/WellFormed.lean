import ReplicaSeed.Operation.Record
import ReplicaSeed.Operation.Request

/-!
# Well-formed operations

An operation keeps its current stage and status beside up to five records that say the same in more
detail. Here is what makes the two agree, and why every change of an operation keeps it so.

## Main definitions

* `Operation.WellFormed`: stage, status and records fit together.
* `Operation.BackedUp`: metadata are read only from a backup that is complete.

## Main statements

* `WellFormed.enter`, `WellFormed.withRecord`, `WellFormed.endStage`: a stage begins, reports, ends.
* `WellFormed.runningStage?_eq`: the stage in flight, read off phase and current stage.
-/

namespace ReplicaSeed

theorem Stage.isForward_iff (stage : Stage) : stage.isForward ↔ stage ≠ .metadataFetch := by
  cases stage <;> decide

theorem StageRequest.stage_ne_metadataFetch (request : StageRequest) :
    request.stage ≠ .metadataFetch := by
  cases request <;> simp [StageRequest.stage]

namespace Phase

theorem isActive_of (stage : Stage) (status : Status) :
    (of stage status).isActive ↔ status = .running := by
  cases status <;> cases stage <;> decide

theorem isSettled_of (stage : Stage) (status : Status) :
    (of stage status).isSettled ↔ status ≠ .running := by
  cases status <;> cases stage <;> decide

theorem of_ne_idle (stage : Stage) (status : Status) : of stage status ≠ idle := by
  cases status <;> cases stage <;> decide

theorem allows_iff {stage : Stage} (forward : stage ≠ .metadataFetch) (p : Phase) :
    p.allows stage ↔ (p = idle ∧ stage = .prepare) ∨ p.isSettled := by
  cases stage <;> cases p <;> simp_all [allows, isSettled]

end Phase

namespace Operation

variable {op : Operation} {stage : Stage} {r : StageRecord}

/-! ## Records after a change -/

@[simp] theorem record?_fresh (id : SeedId) (side : Side) (method : Method) (stage : Stage) :
    (fresh id side method).record? stage = none :=
  Stage.Map.get?_empty stage

@[simp] theorem record?_withRecord (op : Operation) (stage : Stage) (r : StageRecord)
    (other : Stage) :
    (op.withRecord stage r).record? other = if other = stage then some r else op.record? other :=
  Stage.Map.get?_insert op.records stage other r

@[simp] theorem record?_enter (op : Operation) (r : StageRecord) (other : Stage) :
    (op.enter r).record? other = if other = r.stage then some r else op.record? other :=
  record?_withRecord op r.stage r other

@[simp] theorem record?_endStage (op : Operation) (stage : Stage) (r : StageRecord)
    (other : Stage) :
    (op.endStage stage r).record? other = if other = stage then some r else op.record? other :=
  record?_withRecord op stage r other

@[simp] theorem stage_withRecord : (op.withRecord stage r).stage = op.stage := rfl

@[simp] theorem stage_enter : (op.enter r).stage = r.stage := rfl

@[simp] theorem stage_endStage : (op.endStage stage r).stage = op.stage := rfl

@[simp] theorem status_endStage :
    (op.endStage stage r).status = if op.stage = stage then r.status else op.status := rfl

/-- A record after a change is the new one or one from before. -/
theorem record_of_withRecord {other : Stage} {q t : StageRecord}
    (h : (op.withRecord stage q).record? other = some t) :
    (other = stage ∧ t = q) ∨ (other ≠ stage ∧ op.record? other = some t) := by
  rw [record?_withRecord] at h
  split at h
  · exact .inl ⟨‹_›, (Option.some.inj h).symm⟩
  · exact .inr ⟨‹_›, h⟩

theorem phase_of_record (h : op.record? stage = some r) : op.phase = .of op.stage op.status := by
  have hm : (stage, r) ∈ op.records.toList := Stage.Map.mem_toList_iff.2 h
  have hne : op.records.isEmpty = false := by
    simpa [Stage.Map.isEmpty] using List.ne_nil_of_mem hm
  simp [phase, hne]

/-- The search for a stage in flight finds nothing exactly if no forward record is running. -/
theorem runningStage?_eq_none
    (filed : ∀ {stage r}, op.record? stage = some r → r.stage = stage) :
    op.runningStage? = none ↔
      ∀ stage r, stage ≠ .metadataFetch → op.record? stage = some r → r.status ≠ .running := by
  simp only [runningStage?, Option.map_eq_none_iff, List.find?_eq_none, Prod.forall,
    Stage.Map.mem_toList_iff, Bool.and_eq_true, beq_iff_eq, Stage.isForward_iff, not_and]
  constructor
  · intro absent stage r forward hr
    exact absent stage r hr (filed hr ▸ forward)
  · intro absent stage r hr forward
    exact absent stage r (filed hr ▸ forward) hr

/-- A stage in flight has a running record. -/
theorem record_of_runningStage? (h : op.runningStage? = some stage) :
    ∃ key r, op.record? key = some r ∧ r.stage = stage ∧ stage ≠ .metadataFetch ∧
      r.status = .running := by
  simp only [runningStage?, Option.map_eq_some_iff] at h
  obtain ⟨⟨key, r⟩, found, rfl⟩ := h
  have hr := Stage.Map.mem_toList_iff.1 (List.mem_of_find?_eq_some found)
  have test := List.find?_some found
  simp only [Bool.and_eq_true, beq_iff_eq, Stage.isForward_iff] at test
  exact ⟨key, r, hr, rfl, test.1, test.2⟩

/-! ## The invariant -/

/-- Each record sits under its own stage and is about this operation, and only a forward record that
is running has a process. -/
structure Filed (op : Operation) : Prop where
  about : ∀ {stage r}, op.record? stage = some r →
    r.stage = stage ∧ r.seedId = op.seedId ∧ r.method = op.method
  process : ∀ {stage r p}, op.record? stage = some r → r.process = some p →
    r.status = .running ∧ stage ≠ .metadataFetch

/-- The stage, the status and the records of an operation fit together. -/
structure WellFormed (op : Operation) : Prop extends Filed op where
  prepared : ∃ r, op.record? .prepare = some r
  forward : op.stage ≠ .metadataFetch
  current : ∃ r, op.record? op.stage = some r ∧ op.status = r.status
  inFlight : ∀ {stage r}, stage ≠ .metadataFetch → op.record? stage = some r →
    r.status = .running → stage = op.stage

/-- Metadata are read only from a backup that is complete. -/
def BackedUp (op : Operation) : Prop :=
  ∀ m, op.record? .metadataFetch = some m →
    ∃ r, op.record? .backup = some r ∧ r.status = .completed

theorem filed_fresh (id : SeedId) (side : Side) (method : Method) :
    (fresh id side method).Filed where
  about := by simp
  process := by simp

namespace WellFormed

theorem phase_eq (h : op.WellFormed) : op.phase = .of op.stage op.status := by
  obtain ⟨r, hr⟩ := h.prepared
  exact phase_of_record hr

theorem phase_ne_idle (h : op.WellFormed) : op.phase ≠ .idle :=
  h.phase_eq ▸ Phase.of_ne_idle _ _

theorem isActive_phase (h : op.WellFormed) : op.phase.isActive ↔ op.status = .running := by
  rw [h.phase_eq, Phase.isActive_of]

/-- The current record is running exactly if the operation is. -/
theorem status_eq_running (h : op.WellFormed) :
    op.status = .running ↔
      ∃ stage r, stage ≠ .metadataFetch ∧ op.record? stage = some r ∧ r.status = .running := by
  constructor
  · intro running
    obtain ⟨r, hr, hs⟩ := h.current
    exact ⟨op.stage, r, h.forward, hr, hs ▸ running⟩
  · rintro ⟨stage, r, forward, hr, running⟩
    obtain ⟨c, hc, hs⟩ := h.current
    obtain rfl := h.inFlight forward hr running
    obtain rfl : c = r := Option.some.inj (hc.symm.trans hr)
    rw [hs, running]

/-- A forward stage may start exactly if no forward record is running. -/
theorem allows_iff (h : op.WellFormed) (forward : stage ≠ .metadataFetch) :
    op.phase.allows stage ↔
      ∀ other r, other ≠ .metadataFetch → op.record? other = some r → r.status ≠ .running := by
  rw [Phase.allows_iff forward, h.phase_eq, Phase.isSettled_of]
  simp only [Phase.of_ne_idle, false_and, false_or, ne_eq, h.status_eq_running, not_exists,
    not_and]

theorem runningStage?_eq_none_iff (h : op.WellFormed) :
    op.runningStage? = none ↔ op.status ≠ .running := by
  rw [runningStage?_eq_none fun hr => (h.about hr).1, ne_eq, h.status_eq_running]
  simp only [not_exists, not_and, ne_eq]

/-- The stage in flight, if there is one, is the current stage. -/
theorem runningStage?_eq (h : op.WellFormed) :
    op.runningStage? = if op.phase.isActive then some op.stage else none := by
  by_cases running : op.status = .running
  · rw [if_pos (h.isActive_phase.2 running)]
    cases found : op.runningStage? with
    | none => exact absurd running (h.runningStage?_eq_none_iff.1 found)
    | some stage =>
      obtain ⟨key, r, hr, rfl, forward, hs⟩ := record_of_runningStage? found
      have hkey := (h.about hr).1
      rw [h.inFlight (hkey ▸ forward) hr hs] at hkey
      rw [hkey]
  · rw [if_neg (mt h.isActive_phase.1 running)]
    exact h.runningStage?_eq_none_iff.2 running

end WellFormed

/-! ## Changes that keep it -/

/-- The record can stand in the operation under the stage. -/
structure Fits (op : Operation) (stage : Stage) (r : StageRecord) : Prop where
  stage_eq : r.stage = stage
  seedId_eq : r.seedId = op.seedId
  method_eq : r.method = op.method
  process : ∀ p, r.process = some p → r.status = .running ∧ stage ≠ .metadataFetch

theorem Filed.fits (h : op.Filed) (hr : op.record? stage = some r) : op.Fits stage r where
  stage_eq := (h.about hr).1
  seedId_eq := (h.about hr).2.1
  method_eq := (h.about hr).2.2
  process _ hp := h.process hr hp

theorem Filed.withRecord (h : op.Filed) (fits : op.Fits stage r) :
    (op.withRecord stage r).Filed where
  about := by
    intro other t ht
    obtain ⟨rfl, rfl⟩ | ⟨-, ht⟩ := record_of_withRecord ht
    · exact ⟨fits.stage_eq, fits.seedId_eq, fits.method_eq⟩
    · exact h.about ht
  process := by
    intro other t p ht hp
    obtain ⟨rfl, rfl⟩ | ⟨-, ht⟩ := record_of_withRecord ht
    · exact fits.process p hp
    · exact h.process ht hp

theorem prepared_withRecord (h : stage = .prepare ∨ ∃ p, op.record? .prepare = some p) :
    ∃ p, (op.withRecord stage r).record? .prepare = some p := by
  by_cases hst : Stage.prepare = stage
  · exact ⟨r, by simp [hst]⟩
  · obtain ⟨p, hp⟩ := h.resolve_left (Ne.symm hst)
    exact ⟨p, by simp [hst, hp]⟩

/-- A stage begins where nothing is in flight. -/
theorem Filed.enter (h : op.Filed) (fits : op.Fits r.stage r) (running : r.status = .running)
    (forward : r.stage ≠ .metadataFetch)
    (prepared : r.stage = .prepare ∨ ∃ p, op.record? .prepare = some p)
    (idle : ∀ {stage q}, stage ≠ .metadataFetch → op.record? stage = some q →
      q.status ≠ .running) : (op.enter r).WellFormed where
  about := (h.withRecord fits).about
  process := (h.withRecord fits).process
  prepared := prepared_withRecord prepared
  forward := forward
  current := ⟨r, by simp, running.symm⟩
  inFlight := by
    intro stage q hf hq hs
    obtain ⟨hst, -⟩ | ⟨-, hq⟩ := record_of_withRecord hq
    · exact hst
    · exact absurd hs (idle hf hq)

namespace WellFormed

/-- The record of a stage changes, but not its status. -/
theorem withRecord {q : StageRecord} (h : op.WellFormed) (hr : op.record? stage = some r)
    (fits : op.Fits stage q) (hs : q.status = r.status) : (op.withRecord stage q).WellFormed where
  toFiled := h.toFiled.withRecord fits
  prepared := prepared_withRecord (.inr h.prepared)
  forward := h.forward
  current := by
    obtain ⟨c, hc, hcs⟩ := h.current
    by_cases hst : op.stage = stage
    · obtain rfl : r = c := Option.some.inj (hr.symm.trans (hst ▸ hc))
      exact ⟨q, by simp [hst], hcs.trans hs.symm⟩
    · exact ⟨c, by simpa [hst] using hc, hcs⟩
  inFlight := by
    intro other t hf ht running
    obtain ⟨rfl, rfl⟩ | ⟨-, ht⟩ := record_of_withRecord ht
    · exact h.inFlight hf hr (hs ▸ running)
    · exact h.inFlight hf ht running

/-- A metadata fetch begins beside the stages. -/
theorem withMetadata (h : op.WellFormed) (fits : op.Fits .metadataFetch r) :
    (op.withRecord .metadataFetch r).WellFormed where
  toFiled := h.toFiled.withRecord fits
  prepared := h.prepared
  forward := h.forward
  current := by
    obtain ⟨c, hc, hcs⟩ := h.current
    exact ⟨c, by simpa [h.forward] using hc, hcs⟩
  inFlight := by
    intro other t hf ht running
    obtain ⟨rfl, -⟩ | ⟨-, ht⟩ := record_of_withRecord ht
    · exact absurd rfl hf
    · exact h.inFlight hf ht running

/-- A stage ends. -/
theorem endStage (h : op.WellFormed) (fits : op.Fits stage r) (ended : r.status ≠ .running) :
    (op.endStage stage r).WellFormed where
  about := (h.toFiled.withRecord fits).about
  process := (h.toFiled.withRecord fits).process
  prepared := prepared_withRecord (.inr h.prepared)
  forward := h.forward
  current := by
    obtain ⟨c, hc, hcs⟩ := h.current
    by_cases hst : op.stage = stage
    · exact ⟨r, by simp [hst], by simp [hst]⟩
    · exact ⟨c, by simpa [hst] using hc, by simpa [hst] using hcs⟩
  inFlight := by
    intro other t hf ht running
    obtain ⟨-, rfl⟩ | ⟨-, ht⟩ := record_of_withRecord ht
    · exact absurd running ended
    · exact h.inFlight hf ht running

end WellFormed

namespace BackedUp

/-- A stage that was not complete begins. -/
theorem enter (h : op.BackedUp) (forward : r.stage ≠ .metadataFetch)
    (free : ∀ q, op.record? r.stage = some q → q.status.blocksRestart = false) :
    (op.enter r).BackedUp := by
  intro m hm
  obtain ⟨hst, -⟩ | ⟨-, hm⟩ := record_of_withRecord hm
  · exact absurd hst.symm forward
  · obtain ⟨b, hb, hs⟩ := h m hm
    have hne : Stage.backup ≠ r.stage := by
      intro hst
      have := free b (hst ▸ hb)
      simp [hs, Status.blocksRestart] at this
    exact ⟨b, by simpa [hne] using hb, hs⟩

/-- A metadata fetch begins. -/
theorem withMetadata {b : StageRecord} (hb : op.record? .backup = some b)
    (hs : b.status = .completed) : (op.withRecord .metadataFetch r).BackedUp :=
  fun _ _ => ⟨b, by simpa using hb, hs⟩

/-- The record of a stage changes; one of a complete stage stays complete. -/
theorem withRecord {q : StageRecord} (h : op.BackedUp) (hr : op.record? stage = some r)
    (hs : r.status = .completed → q.status = .completed) : (op.withRecord stage q).BackedUp := by
  intro m hm
  have before : ∃ m, op.record? .metadataFetch = some m := by
    obtain ⟨rfl, -⟩ | ⟨-, hm⟩ := record_of_withRecord hm
    · exact ⟨r, hr⟩
    · exact ⟨m, hm⟩
  obtain ⟨m, hm⟩ := before
  obtain ⟨b, hb, hbs⟩ := h m hm
  by_cases hst : Stage.backup = stage
  · obtain rfl : r = b := Option.some.inj (hr.symm.trans (hst ▸ hb))
    exact ⟨q, by simp [hst], hs hbs⟩
  · exact ⟨b, by simpa [hst] using hb, hbs⟩

/-- A stage ends that was not complete. -/
theorem endStage {q : StageRecord} (h : op.BackedUp) (hr : op.record? stage = some r)
    (hs : r.status ≠ .completed) : (op.endStage stage q).BackedUp :=
  h.withRecord hr fun completed => absurd completed hs

end BackedUp

end Operation

end ReplicaSeed
