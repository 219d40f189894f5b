import ReplicaSeed.Proofs.Agent.Finality
import ReplicaSeed.Proofs.Agent.Unnumbered

/-!
# Runs that draw at different counts

Of two runs with the same events one may have drawn more numbers before. They go on alike, because
a dispatch is heeded in one of them exactly if it is in the other: what it takes for its record to
be replaced does not depend on numbers. Only a number that comes round can break this.

## Main definitions

* `Scene.tags`: the index and the key of each dispatch.
* `Scene.Admits`: a waiting request begins its work.
* `Scene.Alike`: two scenes that differ in their numbers only and heed the same dispatches.
* `Scene.PromptRun`: no request and no dispatch is so late that its number has come round.

## Main statements

* `Scene.Step.admits_or`: an event begins work, or replaces no record.
* `Scene.Alike.run`: scenes that are alike stay so.
-/

namespace ReplicaSeed

/-- What a dispatch replaces does not depend on numbers. -/
theorem DispatchKey.replaces_unnumbered (new old : DispatchKey) :
    new.unnumbered.replaces old.unnumbered = new.replaces old := rfl

namespace Scene

variable {I : Interface} {s t : Scene} {e : Event I} {op op' : Operation} {q r : StageRecord}
  {w : Waiting} {n : Nat}

/-! ## Work that begins -/

/-- The index and the key of each dispatch. -/
def tags (s : Scene) : List (Nat × DispatchKey) := s.dispatches.map fun d => (d.index, d.key)

theorem tags_dispatch (s : Scene) (w : Waiting) (side : Side) (r : StageRecord) :
    (s.dispatch w side r).tags = s.tags ++ [(w.index, r.key)] := by
  simp [tags, dispatch]

theorem tags_change (s : Scene) (i : Nat) {f : Dispatch → Dispatch}
    (same : ∀ d, ((f d).index, (f d).key) = (d.index, d.key)) : (s.change i f).tags = s.tags :=
  s.map_dispatches_change i same

theorem length_tags (s : Scene) : s.tags.length = s.dispatches.length := by
  simp [tags]

theorem Numbered.tags (h : s.Numbered) {a : Nat × DispatchKey} (ha : a ∈ s.tags) :
    a.2.generation = .ofNat a.1 ∧ a.1 ≤ s.draws := by
  obtain ⟨d, hd, rfl⟩ := List.mem_map.1 ha
  exact h.dispatches d hd

/-- A request that waits has another index than each dispatch. -/
theorem Numbered.index_ne (h : s.Numbered) {a : Nat × DispatchKey} (hw : w ∈ s.waiting)
    (ha : a ∈ s.tags) : a.1 ≠ w.index := by
  obtain ⟨d, hd, rfl⟩ := List.mem_map.1 ha
  exact ((List.nodup_append.1 h.distinct).2.2 _ (List.mem_map_of_mem hw) _
    (List.mem_map_of_mem hd)).symm

/-- A waiting request begins its work. -/
structure Admits (s t : Scene) (e : Event I) (w : Waiting) (r : StageRecord) : Prop
    extends s.Begins t r where
  served : ∃ turn now, e = .serve turn now ∧ s.waiting[turn]? = some w
  number : r.generation = w.number
  tags : t.tags = s.tags ++ [(w.index, r.key)]
  /-- A stage begins only if it is neither running nor complete. -/
  free : r.stage ≠ .metadataFetch → ∀ key q, s.recordOf key = some q → key.seedId = r.seedId →
    key.stage = r.stage → q.status.blocksRestart = false

/-- When work begins, a dispatch with another number is heeded no more if its record is replaced. -/
theorem Admits.isSome_recordOf (h : s.Admits t e w r) (numbered : s.Numbered)
    {a : Nat × DispatchKey} (ha : a ∈ s.tags) (hw : s.draws < w.index + UInt64.size)
    (recent : s.draws < a.1 + UInt64.size) :
    (t.recordOf a.2).isSome = (!r.key.replaces a.2 && (s.recordOf a.2).isSome) := by
  obtain ⟨turn, now, -, waits⟩ := h.served
  have waits := List.mem_of_getElem? waits
  have drawn := numbered.waiting w waits
  have tagged := numbered.tags ha
  have other : a.2 ≠ r.key := by
    intro same
    refine numbered.index_ne waits ha (ofNat_inj_of_close ?_ (by omega) (by omega))
    rw [← tagged.1, ← drawn.1, same]
    exact h.number
  rw [h.records, if_neg other]
  cases r.key.replaces a.2 <;> rfl

/-- A record that is stored in place of one with the same number replaces none. -/
theorem isSome_recordOf_of_stored (held : s.coordinator.operation = some op) {stage : Stage}
    (found : op.record? stage = some q) (generation : r.generation = q.generation)
    (held' : t.coordinator.operation = some op') (seedId : op'.seedId = op.seedId)
    (records : ∀ other, op'.record? other = if other = stage then some r else op.record? other)
    (key : DispatchKey) : (t.recordOf key).isSome = (s.recordOf key).isSome := by
  rw [recordOf_eq held', recordOf_eq held, seedId, records]
  by_cases hst : key.stage = stage
  · subst hst
    simp only [if_true, found, Option.filter_some, generation]
    split
    · split <;> rfl
    · rfl
  · rw [if_neg hst]

/-- An event begins the work of a waiting request, or it begins none and replaces no record. -/
theorem Step.admits_or (step : s.Step e t) (consistent : s.Consistent) :
    (t.tags = s.tags ∧ ∀ key, (t.recordOf key).isSome = (s.recordOf key).isSome) ∨
    ∃ w r, s.Admits t e w r := by
  cases step with
  | idle => exact .inl ⟨rfl, fun _ => rfl⟩
  | draw => exact .inl ⟨rfl, fun _ => rfl⟩
  | leave => exact .inl ⟨rfl, fun _ => rfl⟩
  | @start turn now w request op waits task concerns free allowed =>
    refine .inr ⟨w, _, { begins_start consistent concerns free turn now with
      served := ⟨turn, now, rfl, waits⟩
      number := rfl
      tags := tags_dispatch ..
      free := ?_ }⟩
    intro _ key q stored seedId (stage : key.stage = request.stage)
    obtain ⟨before, held, hid, hq, -⟩ := recordOf_eq_some_iff.1 stored
    cases concerns with
    | held now =>
      obtain rfl : before = op := Option.some.inj (held.symm.trans now)
      exact free q (stage ▸ hq)
    | fresh idle => exact absurd (hid.trans seedId) (idle before held).1
  | @fetch turn now w op b waits task held =>
    exact .inr ⟨w, _, { begins_fetch consistent held w turn now with
      served := ⟨turn, now, rfl, waits⟩
      number := rfl
      tags := tags_dispatch ..
      free := fun forward => absurd rfl forward }⟩
  | @abort id stage now op q r p held seedId found running process live settled =>
    exact .inl ⟨rfl, isSome_recordOf_of_stored held found (by subst settled; rfl) rfl rfl
      (Operation.record?_endStage op stage r)⟩
  | @progress i details now d op q r dispatch task found running changed =>
    obtain ⟨held, seedId, stored, -⟩ := Coordinator.recordOf?_eq_some_iff.1 found
    exact .inl ⟨rfl, isSome_recordOf_of_stored held stored (by subst changed; rfl) rfl rfl
      (Operation.record?_withRecord op d.key.stage r)⟩
  | @attach i command now d op q r dispatch task found running changed =>
    obtain ⟨held, seedId, stored, -⟩ := Coordinator.recordOf?_eq_some_iff.1 found
    exact .inl ⟨s.tags_change i fun _ => rfl, isSome_recordOf_of_stored held stored
      (by subst changed; rfl) rfl rfl (Operation.record?_withRecord op d.key.stage r)⟩
  | @reject i => exact .inl ⟨s.tags_change i fun _ => rfl, fun _ => rfl⟩
  | exit => exact .inl ⟨rfl, fun _ => rfl⟩
  | @settle e i d op q r _ _ _ ends dispatch underWay found uncancelled terminal settled =>
    obtain ⟨held, seedId, stored, -⟩ := Coordinator.recordOf?_eq_some_iff.1 found
    exact .inl ⟨s.tags_change i fun _ => rfl, isSome_recordOf_of_stored held stored
      (by subst settled; rfl) rfl rfl (Operation.record?_endStage op d.key.stage r)⟩
  | @conclude e i => exact .inl ⟨s.tags_change i fun _ => rfl, fun _ => rfl⟩

/-- What an event does to the requests that wait, in whatever scene. -/
theorem waiting_after (e : Event I) :
    (∀ s : Scene, (s.after e).draws = s.draws ∧ (s.after e).waiting = s.waiting) ∨
    (∃ turn, ∀ s : Scene,
      (s.after e).draws = s.draws ∧ (s.after e).waiting = s.waiting.eraseIdx turn) ∨
    ∃ id kind task, ∀ s : Scene, (s.after e).draws = s.draws + 1 ∧ (s.after e).waiting =
      s.waiting ++ [⟨s.draws + 1, s.coordinator.draw.generation, id, kind, task⟩] := by
  cases e with
  | ask registry id name task =>
    cases known : task.method registry name with
    | error e => exact .inl fun s => by simp [after, known]
    | ok m => exact .inr (.inr ⟨id, m.kind, task, fun s => by simp [after, known, draw]⟩)
  | serve turn now =>
    refine .inr (.inl ⟨turn, fun s => ?_⟩)
    simp only [after]
    split
    · rename_i nobody
      exact ⟨rfl, (List.eraseIdx_of_length_le (List.getElem?_eq_none_iff.1 nobody)).symm⟩
    · unfold serve
      split <;> split <;> exact ⟨rfl, rfl⟩
  | processExited p => exact .inl fun s => ⟨rfl, rfl⟩
  | _ =>
    refine .inl fun s => ?_
    simp only [after, abort, progress, processStarted, finish]
    repeat' split
    all_goals exact ⟨rfl, rfl⟩

/-! ## Numbers that are used in time -/

/-- The event uses no number that has come round since it was drawn. -/
def Prompt (s : Scene) (e : Event I) : Prop :=
  (∀ turn now w, e = .serve turn now → s.waiting[turn]? = some w →
    s.draws < w.index + UInt64.size) ∧
  ∀ i d, e.reportOf = some i → s.dispatches[i]? = some d → s.draws < d.index + UInt64.size

/-- Every event of the run uses its number in time. -/
def PromptRun : Scene → List (Event I) → Prop
  | _, [] => True
  | s, e :: events => s.Prompt e ∧ (s.after e).PromptRun events

/-- Before a number comes round there must be as many draws as numbers. -/
theorem promptRun_of_few (events : List (Event I)) (few : (s.run events).draws < UInt64.size) :
    s.PromptRun events := by
  induction events generalizing s with
  | nil => trivial
  | cons e events ih =>
    have now : s.draws < UInt64.size := Nat.lt_of_le_of_lt (draws_le_run s (e :: events)) few
    exact ⟨⟨fun _ _ _ _ _ => Nat.lt_add_left _ now, fun _ _ _ _ => Nat.lt_add_left _ now⟩, ih few⟩

/-! ## Scenes that are alike -/

/-- Two scenes that differ in their numbers only, with `n` more draws in the second one. Dispatches
whose numbers have not come round are heeded in both or in neither. -/
structure Alike (n : Nat) (s t : Scene) : Prop where
  unnumbered : s.unnumbered = t.unnumbered
  draws : t.draws = s.draws + n
  waiting : ∀ (i : Nat) (w w' : Waiting), s.waiting[i]? = some w → t.waiting[i]? = some w' →
    w'.index ≤ w.index + n
  tags : ∀ (i : Nat) (a b : Nat × DispatchKey), s.tags[i]? = some a → t.tags[i]? = some b →
    b.1 ≤ a.1 + n ∧
    (t.draws < b.1 + UInt64.size → (s.recordOf a.2).isSome = (t.recordOf b.2).isSome)

theorem tags_getElem? {i : Nat} {d : Dispatch} (h : s.dispatches[i]? = some d) :
    s.tags[i]? = some (d.index, d.key) := by
  simp [Scene.tags, h]

theorem length_tags_of_unnumbered (h : s.unnumbered = t.unnumbered) :
    s.tags.length = t.tags.length := by
  simpa [unnumbered, tags] using congrArg (fun u => u.dispatches.length) h

namespace Alike

theorem length_waiting (h : Alike n s t) : s.waiting.length = t.waiting.length := by
  simpa [Scene.unnumbered] using congrArg (fun u => u.waiting.length) h.unnumbered

theorem length_tags (h : Alike n s t) : s.tags.length = t.tags.length :=
  length_tags_of_unnumbered h.unnumbered

/-- The dispatch that an event comes from is heeded in both scenes or in neither. -/
theorem heeds (h : Alike n s t) (prompt : t.Prompt e) (i : Nat) (d d' : Dispatch)
    (report : e.reportOf = some i) (hs : s.dispatches[i]? = some d)
    (ht : t.dispatches[i]? = some d') : s.Heeds d ↔ t.Heeds d' := by
  have recent := prompt.2 i d' report ht
  have stored := (h.tags i _ _ (tags_getElem? hs) (tags_getElem? ht)).2 recent
  simp only [recordOf, Option.isSome_map] at stored
  rw [Heeds, Heeds, stored]

theorem waiting_eraseIdx (h : Alike n s t) (turn i : Nat) (w w' : Waiting)
    (hs : (s.waiting.eraseIdx turn)[i]? = some w) (ht : (t.waiting.eraseIdx turn)[i]? = some w') :
    w'.index ≤ w.index + n := by
  rw [List.getElem?_eraseIdx] at hs ht
  by_cases before : i < turn
  · rw [if_pos before] at hs ht
    exact h.waiting i w w' hs ht
  · rw [if_neg before] at hs ht
    exact h.waiting (i + 1) w w' hs ht

theorem waiting_append (h : Alike n s t) {a b : Waiting} (le : b.index ≤ a.index + n) (i : Nat)
    (w w' : Waiting) (hs : (s.waiting ++ [a])[i]? = some w)
    (ht : (t.waiting ++ [b])[i]? = some w') : w'.index ≤ w.index + n := by
  rcases Nat.lt_trichotomy i s.waiting.length with lt | rfl | gt
  · rw [List.getElem?_append_left lt] at hs
    rw [List.getElem?_append_left (h.length_waiting ▸ lt)] at ht
    exact h.waiting i w w' hs ht
  · rw [List.getElem?_concat_length, Option.some.injEq] at hs
    rw [h.length_waiting, List.getElem?_concat_length, Option.some.injEq] at ht
    exact hs ▸ ht ▸ le
  · rw [List.getElem?_eq_none (by rw [List.length_append]; exact gt)] at hs
    cases hs

/-- The keys of two dispatches in the same place differ in their numbers only. -/
theorem keys (h : s.unnumbered = t.unnumbered) {i : Nat} {a b : Nat × DispatchKey}
    (hs : s.tags[i]? = some a) (ht : t.tags[i]? = some b) : a.2.unnumbered = b.2.unnumbered := by
  obtain ⟨d, hd, rfl⟩ := Option.map_eq_some_iff.1 (List.getElem?_map ▸ hs)
  obtain ⟨d', hd', rfl⟩ := Option.map_eq_some_iff.1 (List.getElem?_map ▸ ht)
  have bare := congrArg (fun u => u.dispatches[i]?) h
  simp only [Scene.unnumbered, List.getElem?_map, hd, hd', Option.map_some, Option.some.injEq]
    at bare
  exact congrArg Dispatch.key bare

/-- Work begins in both scenes. A dispatch that loses its record loses it in both. -/
theorem tags_admits (h : Alike n s t) (hs : s.Numbered) (ht : t.Numbered) {s' t' : Scene}
    {r' : StageRecord} {w' : Waiting} (admits : s.Admits s' e w r) (admits' : t.Admits t' e w' r')
    (le : w'.index ≤ w.index + n) (prompt : t.draws < w'.index + UInt64.size)
    (more : t.draws ≤ t'.draws) (same : s'.unnumbered = t'.unnumbered) (i : Nat)
    (a b : Nat × DispatchKey) (ha : s'.tags[i]? = some a) (hb : t'.tags[i]? = some b) :
    b.1 ≤ a.1 + n ∧
    (t'.draws < b.1 + UInt64.size → (s'.recordOf a.2).isSome = (t'.recordOf b.2).isSome) := by
  have draws := h.draws
  have first : s'.tags[s.tags.length]? = some (w.index, r.key) := by
    rw [admits.tags, List.getElem?_concat_length]
  have second : t'.tags[s.tags.length]? = some (w'.index, r'.key) := by
    rw [admits'.tags, h.length_tags, List.getElem?_concat_length]
  -- The dispatch was there before, or it is the one that begins, or there is none in this place.
  rcases Nat.lt_trichotomy i s.tags.length with lt | rfl | gt
  · have keys : a.2.unnumbered = b.2.unnumbered := Alike.keys same ha hb
    have new : r.key.unnumbered = r'.key.unnumbered := Alike.keys same first second
    rw [admits.tags, List.getElem?_append_left lt] at ha
    rw [admits'.tags, List.getElem?_append_left (h.length_tags ▸ lt)] at hb
    obtain ⟨old, heeded⟩ := h.tags i a b ha hb
    refine ⟨old, fun recent => ?_⟩
    have replaces : r.key.replaces a.2 = r'.key.replaces b.2 := by
      rw [← DispatchKey.replaces_unnumbered, new, keys, DispatchKey.replaces_unnumbered]
    rw [admits.isSome_recordOf hs (List.mem_of_getElem? ha) (by omega) (by omega),
      admits'.isSome_recordOf ht (List.mem_of_getElem? hb) prompt (by omega), replaces,
      heeded (by omega)]
  · obtain rfl := Option.some.inj (first.symm.trans ha)
    obtain rfl := Option.some.inj (second.symm.trans hb)
    refine ⟨le, fun _ => ?_⟩
    rw [admits.records, admits'.records, if_pos rfl, if_pos rfl]
    rfl
  · rw [admits.tags, List.getElem?_eq_none (by rw [List.length_append]; exact gt)] at ha
    cases ha

/-- What an event does to the dispatches of two scenes that are alike. -/
theorem tags_after (h : Alike n s t) (hs : s.Numbered) (ht : t.Numbered) (cs : s.Consistent)
    (ct : t.Consistent) (prompt : t.Prompt e)
    (same : (s.after e).unnumbered = (t.after e).unnumbered) (i : Nat) (a b : Nat × DispatchKey)
    (ha : (s.after e).tags[i]? = some a) (hb : (t.after e).tags[i]? = some b) :
    b.1 ≤ a.1 + n ∧ ((t.after e).draws < b.1 + UInt64.size →
      ((s.after e).recordOf a.2).isSome = ((t.after e).recordOf b.2).isSome) := by
  have more := (t.step_after e).draws_le
  have before := h.length_tags
  have now : (s.after e).tags.length = (t.after e).tags.length := length_tags_of_unnumbered same
  obtain ⟨kept, records⟩ | ⟨w, r, admits⟩ := (s.step_after e).admits_or cs <;>
    obtain ⟨kept', records'⟩ | ⟨w', r', admits'⟩ := (t.step_after e).admits_or ct
  · rw [kept] at ha
    rw [kept'] at hb
    obtain ⟨le, heeded⟩ := h.tags i a b ha hb
    refine ⟨le, fun recent => ?_⟩
    rw [records, records', heeded (by omega)]
  · simp [kept, admits'.tags, before] at now
  · simp [kept', admits.tags, before] at now
  · obtain ⟨turn, at_, served, waits⟩ := admits.served
    obtain ⟨_, _, served', waits'⟩ := admits'.served
    obtain ⟨rfl, rfl⟩ := Event.serve.inj (served.symm.trans served')
    exact h.tags_admits hs ht admits admits' (h.waiting turn w w' waits waits')
      (prompt.1 turn at_ w' served waits') more same i a b ha hb

/-- What is alike before an event that uses its number in time is alike after it. -/
theorem after (h : Alike n s t) (hs : s.Numbered) (ht : t.Numbered) (cs : s.Consistent)
    (ct : t.Consistent) (prompt : t.Prompt e) : Alike n (s.after e) (t.after e) := by
  have same := after_congr h.unnumbered e (h.heeds prompt)
  have draws := h.draws
  have tags := h.tags_after hs ht cs ct prompt same
  obtain queue | ⟨turn, queue⟩ | ⟨id, kind, task, queue⟩ := waiting_after e
  · obtain ⟨ds, ws⟩ := queue s
    obtain ⟨dt, wt⟩ := queue t
    exact ⟨same, by omega, ws ▸ wt ▸ h.waiting, tags⟩
  · obtain ⟨ds, ws⟩ := queue s
    obtain ⟨dt, wt⟩ := queue t
    exact ⟨same, by omega, ws ▸ wt ▸ h.waiting_eraseIdx turn, tags⟩
  · obtain ⟨ds, ws⟩ := queue s
    obtain ⟨dt, wt⟩ := queue t
    refine ⟨same, by omega, ?_, tags⟩
    rw [ws, wt]
    exact h.waiting_append (by simp only; omega)

/-- Runs from scenes that are alike give the same answers and end alike. -/
theorem run (h : Alike n s t) (hs : s.Numbered) (ht : t.Numbered) (cs : s.Consistent)
    (ct : t.Consistent) (events : List (Event I)) (prompt : t.PromptRun events) :
    Alike n (s.run events) (t.run events) ∧ s.answers events = t.answers events := by
  induction events generalizing s t with
  | nil => exact ⟨h, rfl⟩
  | cons e events ih =>
    obtain ⟨now, later⟩ := prompt
    have steps := s.step_after e
    have stept := t.step_after e
    obtain ⟨alike, answers⟩ := ih (h.after hs ht cs ct now) (hs.step steps) (ht.step stept)
      (cs.step steps) (ct.step stept) later
    exact ⟨alike, by rw [answers_cons, answers_cons, answers, answer_congr h.unnumbered e]⟩

end Alike

/-- Numbers that are skipped leave a scene alike. -/
theorem alike_skip (s : Scene) (n : Nat) : Alike n s (s.skip n) where
  unnumbered := rfl
  draws := rfl
  waiting := by
    intro i w w' hs ht
    obtain rfl := Option.some.inj (hs.symm.trans ht)
    exact Nat.le_add_right ..
  tags := by
    intro i a b ha hb
    obtain rfl := Option.some.inj (ha.symm.trans hb)
    exact ⟨Nat.le_add_right .., fun _ => rfl⟩

end Scene

end ReplicaSeed
