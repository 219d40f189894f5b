import Mathlib.Data.List.Nodup
import Mathlib.Data.List.Perm.Basic
import ReplicaSeed.Proofs.Agent.Scene

/-!
# Numbers of dispatches

Every request draws a number of its own, but a number has only 64 bits: after so many draws it comes
round. As long as no dispatch lasts until then, no two that are under way have the same key, and if
there were fewer draws than numbers, no two dispatches at all.

## Main definitions

* `Scene.keys`: the keys of all dispatches.
* `Scene.UnderWay`: a dispatch that has not ended, with its key.
* `Scene.Timely`: every dispatch has ended before its number came round.
* `Scene.vain`: requests that do nothing else than draw numbers.

## Main statements

* `Scene.underWay_unique`: in a timely scene the key of a dispatch under way is its own.
* `Scene.keys_nodup`: after fewer than `2 ^ 64` draws all keys are different.
-/

namespace ReplicaSeed

namespace Scene

variable {I : Interface} {s t : Scene} {e : Event I} {i j : Nat} {d : Dispatch} {key : DispatchKey}

/-! ## Dispatches after a change -/

theorem dispatches_change (s : Scene) (i : Nat) (f : Dispatch → Dispatch) (j : Nat) :
    (s.change i f).dispatches[j]? = (s.dispatches[j]?).map fun d => if i = j then f d else d := by
  simp [change, List.getElem?_modify]

theorem map_dispatches_change {α : Type} (s : Scene) (i : Nat) {f : Dispatch → Dispatch}
    {g : Dispatch → α} (same : ∀ d, g (f d) = g d) :
    (s.change i f).dispatches.map g = s.dispatches.map g := by
  apply List.ext_getElem?
  intro j
  rw [List.getElem?_map, List.getElem?_map, dispatches_change, Option.map_map]
  congr 1
  funext d
  by_cases h : i = j <;> simp [h, same]

theorem of_mem_change {f : Dispatch → Dispatch} {d' : Dispatch}
    (h : d' ∈ (s.change i f).dispatches) : ∃ d ∈ s.dispatches, d' = d ∨ d' = f d := by
  obtain ⟨j, hj⟩ := List.getElem?_of_mem h
  rw [dispatches_change, Option.map_eq_some_iff] at hj
  obtain ⟨d, hd, rfl⟩ := hj
  refine ⟨d, List.mem_of_getElem? hd, ?_⟩
  split
  · exact .inr rfl
  · exact .inl rfl

theorem mem_change (f : Dispatch → Dispatch) (h : d ∈ s.dispatches) :
    d ∈ (s.change i f).dispatches ∨ f d ∈ (s.change i f).dispatches := by
  obtain ⟨j, hj⟩ := List.getElem?_of_mem h
  have hf := s.dispatches_change i f j
  rw [hj, Option.map_some] at hf
  split at hf
  · exact .inr (List.mem_of_getElem? hf)
  · exact .inl (List.mem_of_getElem? hf)

/-- The keys of all dispatches. -/
def keys (s : Scene) : List DispatchKey := s.dispatches.map (·.key)

theorem keys_conclude (s : Scene) (i : Nat) : (s.conclude i).keys = s.keys :=
  s.map_dispatches_change i fun _ => rfl

theorem keys_enroll (s : Scene) (i : Nat) (command : String) : (s.enroll i command).keys = s.keys :=
  s.map_dispatches_change i fun _ => rfl

theorem keys_dispatch (s : Scene) (w : Waiting) (side : Side) (r : StageRecord) :
    (s.dispatch w side r).keys = s.keys ++ [r.key] := by
  simp [keys, dispatch]

/-- The dispatch in place `i` has the key and has not ended. -/
def UnderWay (s : Scene) (i : Nat) (key : DispatchKey) : Prop :=
  ∃ d, s.dispatches[i]? = some d ∧ d.ended = none ∧ d.key = key

theorem UnderWay.of_dispatch (h : s.dispatches[i]? = some d) (ended : d.ended = none) :
    s.UnderWay i d.key :=
  ⟨d, h, ended, rfl⟩

theorem underWay_enroll (command : String) :
    (s.enroll i command).UnderWay j key ↔ s.UnderWay j key := by
  simp only [UnderWay, enroll, dispatches_change, Option.map_eq_some_iff]
  constructor
  · rintro ⟨_, ⟨d, h, rfl⟩, ended, rfl⟩
    refine ⟨d, h, ?_, ?_⟩ <;> split at ended <;> simp_all
  · rintro ⟨d, h, ended, rfl⟩
    refine ⟨_, ⟨d, h, rfl⟩, ?_, ?_⟩ <;> split <;> simp_all

theorem underWay_conclude : (s.conclude i).UnderWay j key ↔ i ≠ j ∧ s.UnderWay j key := by
  simp only [UnderWay, conclude, dispatches_change, Option.map_eq_some_iff]
  constructor
  · rintro ⟨_, ⟨d, h, rfl⟩, ended, rfl⟩
    split at ended
    · cases ended
    · rename_i hne
      exact ⟨hne, d, h, ended, by rw [if_neg hne]⟩
  · rintro ⟨hne, d, h, ended, rfl⟩
    exact ⟨d, ⟨d, h, if_neg hne⟩, ended, rfl⟩

theorem underWay_dispatch {w : Waiting} {side : Side} {r : StageRecord} :
    (s.dispatch w side r).UnderWay j key ↔
      s.UnderWay j key ∨ (j = s.dispatches.length ∧ key = r.key) := by
  simp only [UnderWay, dispatch]
  rcases Nat.lt_trichotomy j s.dispatches.length with h | rfl | h
  · simp [List.getElem?_append_left h, Nat.ne_of_lt h]
  · simp [eq_comm]
  · have beyond (new : Dispatch) : (s.dispatches ++ [new])[j]? = none :=
      List.getElem?_eq_none (by rw [List.length_append]; exact h)
    simp [beyond, Nat.le_of_lt h, Nat.ne_of_gt h]

/-! ## Numbers -/

/-- The numbers come from the draws. -/
structure Numbered (s : Scene) : Prop where
  generation : s.coordinator.generation = .ofNat s.draws
  waiting : ∀ w ∈ s.waiting, w.number = .ofNat w.index ∧ w.index ≤ s.draws
  dispatches : ∀ d ∈ s.dispatches, d.key.generation = .ofNat d.index ∧ d.index ≤ s.draws
  ended : ∀ d ∈ s.dispatches, ∀ n ∈ d.ended, n ≤ s.draws
  distinct : (s.waiting.map (·.index) ++ s.dispatches.map (·.index)).Nodup

/-- A number that is drawn differs from all others in its index. -/
theorem Numbered.draw (h : s.Numbered) (id : SeedId) (kind : Method) (task : Task) :
    (s.draw id kind task).Numbered where
  generation := by
    simp [Scene.draw, Coordinator.draw, h.generation]
  waiting := by
    intro w hw
    rcases List.mem_append.1 hw with hw | hw
    · exact ⟨(h.waiting w hw).1, Nat.le_succ_of_le (h.waiting w hw).2⟩
    · obtain rfl := List.mem_singleton.1 hw
      simp [Scene.draw, Coordinator.draw, h.generation]
  dispatches d hd := ⟨(h.dispatches d hd).1, Nat.le_succ_of_le (h.dispatches d hd).2⟩
  ended d hd n hn := Nat.le_succ_of_le (h.ended d hd n hn)
  distinct := by
    have fresh : s.draws + 1 ∉ s.waiting.map (·.index) ++ s.dispatches.map (·.index) := by
      intro hmem
      rcases List.mem_append.1 hmem with hmem | hmem
      · obtain ⟨w, hw, hi⟩ := List.mem_map.1 hmem
        have := (h.waiting w hw).2
        omega
      · obtain ⟨d, hd, hi⟩ := List.mem_map.1 hmem
        have := (h.dispatches d hd).2
        omega
    simp only [Scene.draw, List.map_append, List.map_cons, List.map_nil, List.append_assoc,
      List.singleton_append]
    exact List.nodup_middle.2 (List.nodup_cons.2 ⟨fresh, h.distinct⟩)

/-- A request that waits no longer takes its number with it. -/
theorem Numbered.leave (h : s.Numbered) (turn : Nat) : (s.leave turn).Numbered where
  generation := h.generation
  waiting w hw := h.waiting w ((List.eraseIdx_sublist ..).subset hw)
  dispatches := h.dispatches
  ended := h.ended
  distinct := h.distinct.sublist
    (((List.eraseIdx_sublist ..).map _).append (List.Sublist.refl _))

/-- The number of a request becomes that of its dispatch. -/
theorem Numbered.dispatch (h : s.Numbered) {turn : Nat} {w : Waiting}
    (waits : s.waiting[turn]? = some w) (op : Operation) (side : Side) {r : StageRecord}
    (number : r.generation = w.number) :
    (((s.leave turn).hold op).dispatch w side r).Numbered where
  generation := h.generation
  waiting := (h.leave turn).waiting
  dispatches := by
    intro d hd
    rcases List.mem_append.1 hd with hd | hd
    · exact h.dispatches d hd
    · obtain rfl := List.mem_singleton.1 hd
      have := h.waiting w (List.mem_of_getElem? waits)
      exact ⟨number.trans this.1, this.2⟩
  ended := by
    intro d hd
    rcases List.mem_append.1 hd with hd | hd
    · exact h.ended d hd
    · obtain rfl := List.mem_singleton.1 hd
      simp
  distinct := by
    obtain ⟨hlt, rfl⟩ := List.getElem?_eq_some_iff.1 waits
    have perm := (List.getElem_cons_eraseIdx_perm hlt).map Waiting.index
    have := (perm.append_right (s.dispatches.map (·.index))).nodup_iff.2 h.distinct
    simp only [Scene.dispatch, hold, Scene.leave, List.map_append, List.map_cons, List.map_nil,
      ← List.append_assoc]
    rw [List.nodup_append_comm]
    simpa using this

theorem Numbered.change (h : s.Numbered) (i : Nat) {f : Dispatch → Dispatch}
    (index : ∀ d, (f d).index = d.index) (key : ∀ d, (f d).key = d.key)
    (ended : ∀ d, ∀ n ∈ (f d).ended, n ∈ d.ended ∨ n ≤ s.draws) : (s.change i f).Numbered where
  generation := h.generation
  waiting := h.waiting
  dispatches := by
    intro d' hd'
    obtain ⟨d, hd, rfl | rfl⟩ := of_mem_change hd'
    · exact h.dispatches d' hd
    · rw [index, key]
      exact h.dispatches d hd
  ended := by
    intro d' hd' n hn
    obtain ⟨d, hd, rfl | rfl⟩ := of_mem_change hd'
    · exact h.ended d' hd n hn
    · exact (ended d n hn).elim (h.ended d hd n) id
  distinct := by
    rw [s.map_dispatches_change i index]
    exact h.distinct

theorem Numbered.conclude (h : s.Numbered) (i : Nat) : (s.conclude i).Numbered :=
  h.change i (fun _ => rfl) (fun _ => rfl) (by simp)

theorem Numbered.enroll (h : s.Numbered) (i : Nat) (command : String) :
    (s.enroll i command).Numbered := by
  have := h.change i (f := fun d => { d with processes := d.processes ++ [s.processes.next] })
    (fun _ => rfl) (fun _ => rfl) (fun _ _ => .inl)
  exact ⟨this.generation, this.waiting, this.dispatches, this.ended, this.distinct⟩

/-- Only draws, dispatches and requests that leave touch the numbers. -/
theorem Numbered.congr (h : s.Numbered)
    (generation : t.coordinator.generation = s.coordinator.generation) (draws : t.draws = s.draws)
    (waiting : t.waiting = s.waiting) (dispatches : t.dispatches = s.dispatches) : t.Numbered where
  generation := by rw [generation, draws, h.generation]
  waiting := by rw [waiting, draws]; exact h.waiting
  dispatches := by rw [dispatches, draws]; exact h.dispatches
  ended := by rw [dispatches, draws]; exact h.ended
  distinct := by rw [waiting, dispatches]; exact h.distinct

theorem Numbered.step (h : s.Numbered) (step : s.Step e t) : t.Numbered := by
  cases step with
  | idle => exact h
  | draw => exact h.draw ..
  | leave => exact h.leave _
  | start waits => exact h.dispatch waits _ _ rfl
  | fetch waits => exact h.dispatch waits _ _ rfl
  | abort => exact h.congr rfl rfl rfl rfl
  | progress => exact h.congr rfl rfl rfl rfl
  | attach => exact (h.enroll ..).congr rfl rfl rfl rfl
  | @reject i command => exact (h.enroll i command).congr rfl rfl rfl rfl
  | exit => exact h.congr rfl rfl rfl rfl
  | settle => exact (h.conclude _).congr rfl rfl rfl rfl
  | conclude => exact h.conclude _

theorem numbered_initial (hostname : String) : (initial hostname).Numbered where
  generation := rfl
  waiting := by simp [initial]
  dispatches := by simp [initial]
  ended := by simp [initial]
  distinct := by simp [initial]

theorem numbered_run (hostname : String) (events : List (Event I)) :
    ((initial hostname).run events).Numbered :=
  run_induction Numbered.step (numbered_initial hostname) events

theorem Step.draws_le (step : s.Step e t) : s.draws ≤ t.draws := by
  cases step with
  | draw => exact Nat.le_succ _
  | _ => exact Nat.le_refl _

theorem draws_le_run (s : Scene) (events : List (Event I)) : s.draws ≤ (s.run events).draws :=
  run_induction (P := fun t => s.draws ≤ t.draws) (fun le step => Nat.le_trans le step.draws_le)
    (Nat.le_refl _) events

/-! ## Numbers that come round -/

/-- Every dispatch has ended before its number came round, `2 ^ 64` draws later. -/
def Timely (s : Scene) : Prop :=
  ∀ d ∈ s.dispatches, d.ended.getD s.draws < d.index + UInt64.size

/-- Before a number comes round there must be as many draws as numbers. -/
theorem Numbered.timely (h : s.Numbered) (few : s.draws < UInt64.size) : s.Timely := by
  intro d hd
  cases hn : d.ended with
  | none => exact Nat.lt_add_left _ few
  | some n => exact Nat.lt_add_left _ (Nat.lt_of_le_of_lt (h.ended d hd n hn) few)

theorem Timely.mono (h : t.Timely)
    (later : ∀ d ∈ s.dispatches, ∃ d' ∈ t.dispatches, d'.index = d.index ∧
      d.ended.getD s.draws ≤ d'.ended.getD t.draws) : s.Timely := by
  intro d hd
  obtain ⟨d', hd', index, le⟩ := later d hd
  exact index ▸ Nat.lt_of_le_of_lt le (h d' hd')

theorem Timely.of_change {f : Dispatch → Dispatch} (h : (s.change i f).Timely)
    (index : ∀ d, (f d).index = d.index)
    (later : ∀ d ∈ s.dispatches, d.ended.getD s.draws ≤ (f d).ended.getD s.draws) :
    s.Timely := by
  refine h.mono fun d hd => ?_
  rcases mem_change (i := i) f hd with hm | hm
  · exact ⟨d, hm, rfl, Nat.le_refl _⟩
  · exact ⟨f d, hm, index d, later d hd⟩

/-- A scene that is timely has been so all along. -/
theorem Timely.of_step (numbered : s.Numbered) (h : t.Timely) (step : s.Step e t) : s.Timely := by
  have same (d : Dispatch) (hd : d ∈ s.dispatches) :
      ∃ d' ∈ s.dispatches, d'.index = d.index ∧ d.ended.getD s.draws ≤ d'.ended.getD s.draws :=
    ⟨d, hd, rfl, Nat.le_refl _⟩
  have more (d : Dispatch) (hd : d ∈ s.dispatches) (new : Dispatch) :
      ∃ d' ∈ s.dispatches ++ [new], d'.index = d.index ∧
        d.ended.getD s.draws ≤ d'.ended.getD s.draws :=
    ⟨d, List.mem_append_left _ hd, rfl, Nat.le_refl _⟩
  have enrolled (i : Nat)
      (h : (s.change i fun d => { d with processes := d.processes ++ [s.processes.next] }).Timely) :
      s.Timely :=
    h.of_change (fun _ => rfl) fun _ _ => Nat.le_refl _
  have concluded (i : Nat) (h : (s.conclude i).Timely) : s.Timely := by
    refine Timely.of_change (f := fun d => { d with ended := some s.draws }) h (fun _ => rfl)
      fun d hd => ?_
    cases hn : d.ended with
    | none => exact Nat.le_refl _
    | some n => exact numbered.ended d hd n hn
  cases step with
  | idle => exact h
  | draw =>
    refine h.mono fun d hd => ⟨d, hd, rfl, ?_⟩
    cases d.ended with
    | none => exact Nat.le_succ _
    | some n => exact Nat.le_refl _
  | leave => exact h.mono same
  | start => exact h.mono fun d hd => more d hd _
  | fetch => exact h.mono fun d hd => more d hd _
  | abort => exact h.mono same
  | progress => exact h.mono same
  | attach => exact enrolled _ h
  | reject => exact enrolled _ h
  | exit => exact h.mono same
  | settle => exact concluded _ (h.mono fun d hd => ⟨d, hd, rfl, Nat.le_refl _⟩)
  | conclude => exact concluded _ h

theorem Timely.of_run (numbered : s.Numbered) (events : List (Event I))
    (h : (s.run events).Timely) : s.Timely := by
  induction events generalizing s with
  | nil => exact h
  | cons e events ih =>
    have step := s.step_after e
    exact (ih (numbered.step step) h).of_step numbered step

theorem ofNat_inj_of_close {m n : Nat} (h : UInt64.ofNat m = UInt64.ofNat n)
    (hm : m < n + UInt64.size) (hn : n < m + UInt64.size) : m = n := by
  have := congrArg UInt64.toNat h
  simp only [UInt64.toNat_ofNat', UInt64.size] at this hm hn
  omega

/-- As long as no number has come round to a dispatch under way, its key is its own. -/
theorem Numbered.underWay_unique (h : s.Numbered) (timely : s.Timely) (hi : s.UnderWay i key)
    (hj : s.UnderWay j key) : i = j := by
  obtain ⟨a, ha, aEnded, rfl⟩ := hi
  obtain ⟨b, hb, bEnded, same⟩ := hj
  have ma := List.mem_of_getElem? ha
  have mb := List.mem_of_getElem? hb
  have na := h.dispatches a ma
  have nb := h.dispatches b mb
  have ta := timely a ma
  have tb := timely b mb
  simp only [aEnded, bEnded, Option.getD_none] at ta tb
  have index : a.index = b.index := by
    refine ofNat_inj_of_close ?_ (by omega) (by omega)
    rw [← na.1, ← nb.1, same]
  have distinct : (s.dispatches.map (·.index)).Nodup :=
    h.distinct.sublist (List.sublist_append_right ..)
  have hlt : i < (s.dispatches.map (·.index)).length := by
    simpa using (List.getElem?_eq_some_iff.1 ha).1
  refine (List.getElem?_inj hlt distinct).1 ?_
  simp [ha, hb, index]

/-- Before a number comes round all keys are different. -/
theorem Numbered.keys_nodup (h : s.Numbered) (few : s.draws < UInt64.size) :
    s.keys.Nodup := by
  have distinct : (s.dispatches.map (·.index)).Nodup :=
    h.distinct.sublist (List.sublist_append_right ..)
  rw [keys, List.Nodup, List.pairwise_map]
  rw [List.Nodup, List.pairwise_map] at distinct
  refine distinct.imp_of_mem fun {a b} ha hb index same => index ?_
  have na := h.dispatches a ha
  have nb := h.dispatches b hb
  refine ofNat_inj_of_close ?_ (by omega) (by omega)
  rw [← na.1, ← nb.1, same]

/-! ## Requests that only use up numbers -/

/-- Requests that are refused. -/
def vain : Nat → List (Event Interface.host)
  | 0 => []
  | n + 1 => .ask .probed ⟨2⟩ "mysqldump" .coordinates :: .serve 0 .epoch :: vain n

/-- The scene once more numbers were drawn. -/
def skip (s : Scene) (n : Nat) : Scene :=
  { s with
    coordinator := { s.coordinator with generation := s.coordinator.generation + .ofNat n }
    draws := s.draws + n }

/-- All that is left of a refused request is its number. -/
theorem run_vain (absent : s.coordinator.operation? ⟨2⟩ = none) (nobody : s.waiting = [])
    (n : Nat) : s.run (vain n) = s.skip n := by
  induction n generalizing s with
  | zero => simp [vain, skip]
  | succ n ih =>
    have absent' : s.coordinator.draw.operation? ⟨2⟩ = none := absent
    have lost (number : Generation) (m : Method) :
        s.coordinator.draw.beginMetadataAs number m ⟨2⟩ .epoch =
          (s.coordinator.draw, .error (.seedNotFound ⟨2⟩)) := by
      simp [Coordinator.beginMetadataAs, Coordinator.heldOperation, absent']
    have known :
        Task.method Registry.probed "mysqldump" .coordinates = .ok (Mysqldump.method {} {}) := rfl
    have refused : (s.after (.ask .probed ⟨2⟩ "mysqldump" .coordinates)).after
        (.serve 0 .epoch : Event Interface.host) = s.skip 1 := by
      simp only [after, known, draw, nobody, List.nil_append, List.getElem?_cons_zero, serve, lost]
      simp [leave, skip, Coordinator.draw, nobody]
    rw [vain, run_cons, run_cons, refused, ih (s := s.skip 1) absent nobody]
    simp [skip, Nat.add_assoc, Nat.add_comm 1 n, UInt64.add_assoc, UInt64.add_comm]

end Scene

end ReplicaSeed
