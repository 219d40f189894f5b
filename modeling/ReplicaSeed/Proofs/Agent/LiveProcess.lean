import ReplicaSeed.Proofs.Agent.Finality

/-!
# Live processes

The work of a stage runs one process after the other. As long as one of them lives, the running
record of its dispatch has it, so that an abort can find it; a process that no record has was asked
to stop.

That a dispatch waits for its last process, before it starts another one and before it ends, is up
to the methods and is assumed here.

## Main definitions

* `Scene.Orderly`, `Scene.OrderlyRun`: every dispatch waits for its processes.
* `Scene.Minded`: the record of a dispatch has its process.
* `Scene.Guarded`: every live process is minded or was asked to stop.

## Main statements

* `Scene.guarded_run`: in an orderly run that is always so.
* `Scene.live_process_minded`: where the live processes are.
* `Scene.exists_two_live_processes`: what the bound on the numbers is for.
-/

namespace ReplicaSeed

namespace ProcessTable

variable {t : ProcessTable} {p q : ProcessId}

/-- The process lives, and nobody has asked it to stop. -/
def Loose (t : ProcessTable) (p : ProcessId) : Prop :=
  t.isFinished p = false ∧ t.isCancelled p = false

theorem loose_start (lt : p < t.next) (command : String) :
    (t.start command).Loose p ↔ t.Loose p := by
  simp [Loose, isFinished, isCancelled, get?_start_of_lt _ _ lt]

theorem loose_cancel : (t.cancel q).Loose p ↔ t.Loose p ∧ p ≠ q := by
  simp only [Loose, isFinished_cancel, isCancelled_cancel, Bool.or_eq_false_iff]
  constructor
  · rintro ⟨lives, free, other⟩
    exact ⟨⟨lives, free⟩, by simpa [lives] using other⟩
  · rintro ⟨⟨lives, free⟩, other⟩
    exact ⟨lives, free, by simp [other]⟩

theorem Loose.of_exit (h : (t.exit q).Loose p) : t.Loose p := by
  simp only [Loose, isFinished_exit, isCancelled_exit, Bool.or_eq_false_iff] at h
  exact ⟨h.1.1, h.2⟩

end ProcessTable

namespace Scene

variable {I : Interface} {s t : Scene} {e : Event I} {i : Nat} {d : Dispatch} {op : Operation}
  {q r : StageRecord} {p : ProcessId}

/-! ## Orderly runs -/

/-- All processes that a dispatch has reported have ended. -/
def Quiet (s : Scene) (d : Dispatch) : Prop := ∀ p ∈ d.processes, s.processes.isFinished p

instance (s : Scene) (d : Dispatch) : Decidable (s.Quiet d) :=
  inferInstanceAs (Decidable (∀ p ∈ d.processes, s.processes.isFinished p))

/-- A dispatch reports a process only while it is under way, and reports one or ends only once its
last one has ended. -/
def Orderly (s : Scene) : Event I → Prop
  | .processStarted i _ _ => ∀ d ∈ s.dispatches[i]?, d.ended = none ∧ s.Quiet d
  | .stageEnded i _ _ => ∀ d ∈ s.dispatches[i]?, s.Quiet d
  | .fetchEnded i _ _ => ∀ d ∈ s.dispatches[i]?, s.Quiet d
  | _ => True

/-- All events of a run are orderly. -/
def OrderlyRun : Scene → List (Event I) → Prop
  | _, [] => True
  | s, e :: events => s.Orderly e ∧ (s.after e).OrderlyRun events

instance (s : Scene) : (e : Event I) → Decidable (s.Orderly e)
  | .processStarted i _ _ =>
    inferInstanceAs (Decidable (∀ d ∈ s.dispatches[i]?, d.ended = none ∧ s.Quiet d))
  | .stageEnded i _ _ => inferInstanceAs (Decidable (∀ d ∈ s.dispatches[i]?, s.Quiet d))
  | .fetchEnded i _ _ => inferInstanceAs (Decidable (∀ d ∈ s.dispatches[i]?, s.Quiet d))
  | .ask .. | .serve .. | .abort .. | .progress .. | .processExited _ => .isTrue trivial

instance decidableOrderlyRun : (s : Scene) → (events : List (Event I)) →
    Decidable (s.OrderlyRun events)
  | _, [] => .isTrue trivial
  | s, e :: events =>
    have := decidableOrderlyRun (s.after e) events
    inferInstanceAs (Decidable (s.Orderly e ∧ (s.after e).OrderlyRun events))

theorem Orderly.quiet (h : s.Orderly e) (ends : e.endOf = some i)
    (dispatch : s.dispatches[i]? = some d) : s.Quiet d := by
  cases e with
  | stageEnded j =>
    obtain rfl : j = i := Option.some.inj ends
    exact h d dispatch
  | fetchEnded j =>
    obtain rfl : j = i := Option.some.inj ends
    exact h d dispatch
  | _ => cases ends

/-! ## Where the live processes are -/

/-- The dispatch is under way, and its record is running and has the process. -/
def Minded (s : Scene) (d : Dispatch) (p : ProcessId) : Prop :=
  d.ended = none ∧ ∃ r, s.recordOf d.key = some r ∧ r.status = .running ∧ r.process = some p

/-- Every process that lives is minded or was asked to stop. -/
structure Guarded (s : Scene) : Prop where
  known : ∀ d ∈ s.dispatches, ∀ p ∈ d.processes, p < s.processes.next
  minded : ∀ {i : Nat} {d : Dispatch} {p : ProcessId}, s.dispatches[i]? = some d →
    p ∈ d.processes → s.processes.Loose p → s.Minded d p

theorem Minded.of_recordOf (h : s.Minded d p) (same : t.recordOf d.key = s.recordOf d.key) :
    t.Minded d p := by
  rw [Minded, same]
  exact h

theorem Guarded.of_dispatches (h : s.Guarded) (dispatches : t.dispatches = s.dispatches)
    (next : t.processes.next = s.processes.next)
    (loose : ∀ p, t.processes.Loose p → s.processes.Loose p)
    (minded : ∀ {d p}, s.Minded d p → t.processes.Loose p → t.Minded d p) : t.Guarded where
  known := by
    rw [dispatches, next]
    exact h.known
  minded := by
    rw [dispatches]
    exact fun dispatch member hp => minded (h.minded dispatch member (loose _ hp)) hp

/-- A report of another dispatch leaves the record alone. -/
theorem Minded.of_reports (h : s.Minded d p) (reports : s.Reports t q r) (ne : d.key ≠ q.key) :
    t.Minded d p :=
  h.of_recordOf (by rw [reports.records, if_neg ne])

/-- The record that a report finds has the process. -/
theorem Minded.process_eq (h : s.Minded d p) (reports : s.Reports t q r) (key : d.key = q.key) :
    q.process = some p := by
  obtain ⟨-, x, stored, -, process⟩ := h
  obtain rfl : x = q := Option.some.inj (stored.symm.trans (key ▸ reports.found))
  exact process

/-- A report that leaves the process alone. -/
theorem Minded.of_reports_same (h : s.Minded d p) (reports : s.Reports t q r)
    (running : r.status = .running) (process : r.process = q.process) : t.Minded d p := by
  by_cases key : d.key = q.key
  · refine ⟨h.1, r, ?_, running, process.trans (h.process_eq reports key)⟩
    rw [reports.records, if_pos key]
  · exact h.of_reports reports key

/-- A dispatch begins, and those that are minded stay so. -/
theorem Guarded.begins (h : s.Guarded) (numbered : t.Numbered) (timely : t.Timely)
    (begins : s.Begins t r) (processes : t.processes = s.processes)
    (dispatches : t.dispatches = s.dispatches ++ [d]) (key : d.key = r.key)
    (ended : d.ended = none) (none : d.processes = []) : t.Guarded where
  known := by
    rw [dispatches, processes]
    intro d' hd' p hp
    rcases List.mem_append.1 hd' with hd' | hd'
    · exact h.known d' hd' p hp
    · obtain rfl := List.mem_singleton.1 hd'
      simp [none] at hp
  minded := by
    intro i d' p dispatch member loose
    have last : t.UnderWay s.dispatches.length r.key := ⟨d, by simp [dispatches], ended, key⟩
    rw [processes] at loose
    have before := dispatch
    rw [dispatches, List.getElem?_append] at before
    split at before
    · rename_i lt
      obtain ⟨underWay, x, stored, running, process⟩ := h.minded before member loose
      have ne : d'.key ≠ r.key := by
        intro same
        have first : t.UnderWay i d'.key := .of_dispatch dispatch underWay
        have := numbered.underWay_unique timely (same ▸ first) last
        omega
      have kept : r.key.replaces d'.key = false := by
        refine Bool.eq_false_iff.2 fun replaces => ?_
        simp [begins.spares stored replaces] at process
      refine ⟨underWay, x, ?_, running, process⟩
      simp [begins.records, ne, kept, stored]
    · obtain rfl : d' = d := by
        have := List.mem_of_getElem? before
        simpa using this
      simp [none] at member

/-- A dispatch whose processes have ended reports one more. -/
theorem Guarded.enroll (h : s.Guarded) (dispatch : s.dispatches[i]? = some d) (quiet : s.Quiet d)
    (command : String) (dispatches : t.dispatches = (s.enroll i command).dispatches)
    (next : t.processes.next = s.processes.next + 1)
    (loose : ∀ p < s.processes.next, t.processes.Loose p → s.processes.Loose p)
    (others : ∀ {j d' p}, s.dispatches[j]? = some d' → i ≠ j → s.Minded d' p → t.Minded d' p)
    (new : t.processes.Loose s.processes.next → t.Minded d s.processes.next) : t.Guarded where
  known := by
    rw [dispatches, next]
    intro d' hd' p hp
    obtain ⟨d, hd, rfl | rfl⟩ := of_mem_change hd'
    · exact Nat.lt_succ_of_lt (h.known d' hd p hp)
    · rcases List.mem_append.1 hp with hp | hp
      · exact Nat.lt_succ_of_lt (h.known d hd p hp)
      · obtain rfl := List.mem_singleton.1 hp
        exact Nat.lt_succ_self _
  minded := by
    intro j d' p hj hp hl
    rw [dispatches, Scene.enroll, dispatches_change, Option.map_eq_some_iff] at hj
    obtain ⟨b, hb, rfl⟩ := hj
    by_cases same : i = j
    · subst same
      obtain rfl : d = b := Option.some.inj (dispatch.symm.trans hb)
      rw [if_pos rfl] at hp ⊢
      rcases List.mem_append.1 hp with hp | hp
      · have lt := h.known d (List.mem_of_getElem? hb) p hp
        have := (loose p lt hl).1
        simp [quiet p hp] at this
      · obtain rfl := List.mem_singleton.1 hp
        exact new hl
    · rw [if_neg same] at hp ⊢
      have lt := h.known b (List.mem_of_getElem? hb) p hp
      exact others hb same (h.minded hb hp (loose p lt hl))

/-- A dispatch whose processes have ended ends. -/
theorem Guarded.conclude (h : s.Guarded) (dispatch : s.dispatches[i]? = some d) (quiet : s.Quiet d)
    (dispatches : t.dispatches = (s.conclude i).dispatches) (processes : t.processes = s.processes)
    (others : ∀ {j d' p}, s.dispatches[j]? = some d' → i ≠ j → s.Minded d' p → t.Minded d' p) :
    t.Guarded where
  known := by
    rw [dispatches, processes]
    intro d' hd' p hp
    obtain ⟨d, hd, rfl | rfl⟩ := of_mem_change hd'
    · exact h.known d' hd p hp
    · exact h.known d hd p hp
  minded := by
    intro j d' p hj hp hl
    rw [dispatches, Scene.conclude, dispatches_change, Option.map_eq_some_iff] at hj
    obtain ⟨b, hb, rfl⟩ := hj
    rw [processes] at hl
    by_cases same : i = j
    · subst same
      obtain rfl : d = b := Option.some.inj (dispatch.symm.trans hb)
      rw [if_pos rfl] at hp
      have := quiet p hp
      simp [hl.1] at this
    · rw [if_neg same] at hp ⊢
      exact others hb same (h.minded hb hp hl)

theorem Guarded.step (h : s.Guarded) (numbered : s.Numbered) (consistent : s.Consistent)
    (tracked : s.Tracked) (timely : t.Timely) (orderly : s.Orderly e) (step : s.Step e t) :
    t.Guarded := by
  have before := timely.of_step numbered step
  have apart {i j : Nat} {d d' : Dispatch} {p : ProcessId} (dispatch : s.dispatches[i]? = some d)
      (underWay : d.ended = none) (dispatch' : s.dispatches[j]? = some d') (ne : i ≠ j)
      (minded : s.Minded d' p) : d'.key ≠ d.key := by
    intro same
    have first : s.UnderWay j d'.key := .of_dispatch dispatch' minded.1
    exact ne (numbered.underWay_unique before (.of_dispatch dispatch underWay) (same ▸ first))
  have next := numbered.step step
  cases step with
  | idle => exact h
  | draw => exact ⟨h.known, h.minded⟩
  | leave => exact ⟨h.known, h.minded⟩
  | start waits task concerns free allowed =>
    exact h.begins next timely (begins_start consistent concerns free _ _) rfl rfl rfl rfl rfl
  | fetch waits task held =>
    exact h.begins next timely (begins_fetch consistent held _ _ _) rfl rfl rfl rfl rfl
  | @abort id stage now op q r p held seedId found running process live settled =>
    refine h.of_dispatches rfl (by simp) (fun p' loose => (ProcessTable.loose_cancel.1 loose).1)
      fun minded loose => ?_
    have reports := reports_abort consistent held found running settled p
    refine minded.of_reports reports fun key => (ProcessTable.loose_cancel.1 loose).2 ?_
    exact Option.some.inj ((minded.process_eq reports key).symm.trans process)
  | @progress i details now d op q r dispatch task found running changed =>
    have reports := reports_progress consistent found running changed
    refine h.of_dispatches rfl rfl (fun _ => id) fun minded _ => ?_
    exact minded.of_reports_same reports (by simpa [changed]) (by simp [changed])
  | @attach i command now d op q r dispatch task found running changed =>
    obtain ⟨underWay, quiet⟩ := orderly d dispatch
    have key : q.key = d.key := (consistent.found found).2.2
    have reports := reports_attach consistent found running changed i command
    refine h.enroll dispatch quiet command rfl (ProcessTable.next_start ..)
      (fun p lt => (ProcessTable.loose_start lt command).1) (fun dispatch' ne minded => ?_)
      fun _ => ⟨underWay, r, ?_, by simpa [changed], by simp [changed]⟩
    · exact minded.of_reports reports (key ▸ apart dispatch underWay dispatch' ne minded)
    · rw [reports.records, if_pos key.symm]
  | @reject i command now d dispatch task lost =>
    obtain ⟨underWay, quiet⟩ := orderly d dispatch
    refine h.enroll dispatch quiet command rfl (by simp) (fun p lt loose => ?_)
      (fun _ _ minded => minded.of_recordOf rfl) fun loose => ?_
    · exact (ProcessTable.loose_start lt command).1 (ProcessTable.loose_cancel.1 loose).1
    · exact absurd rfl (ProcessTable.loose_cancel.1 loose).2
  | exit =>
    exact h.of_dispatches rfl (by simp) (fun p loose => loose.of_exit)
      fun minded _ => minded.of_recordOf rfl
  | @settle e i d op q r _ _ _ ends dispatch underWay found uncancelled terminal settled =>
    have running := tracked.running_of_found consistent dispatch underWay found uncancelled
    have key : q.key = d.key := (consistent.found found).2.2
    have reports := reports_settle consistent found running settled i
    refine h.conclude dispatch (orderly.quiet ends dispatch) rfl rfl fun dispatch' ne minded => ?_
    exact minded.of_reports reports (key ▸ apart dispatch underWay dispatch' ne minded)
  | @conclude e i d ends dispatch underWay lost =>
    exact h.conclude dispatch (orderly.quiet ends dispatch) rfl rfl
      fun _ _ minded => minded.of_recordOf rfl

theorem guarded_initial (hostname : String) : (initial hostname).Guarded where
  known := by simp [initial]
  minded := by simp [initial]

theorem guarded_run (hostname : String) (events : List (Event I))
    (orderly : (initial hostname).OrderlyRun events)
    (timely : ((initial hostname).run events).Timely) :
    ((initial hostname).run events).Guarded := by
  have later {s : Scene} (numbered : s.Numbered) (consistent : s.Consistent) (tracked : s.Tracked)
      (guarded : s.Guarded) (events : List (Event I)) (orderly : s.OrderlyRun events)
      (timely : (s.run events).Timely) : (s.run events).Guarded := by
    induction events generalizing s with
    | nil => exact guarded
    | cons e events ih =>
      have step := s.step_after e
      have next := timely.of_run (numbered.step step) events
      have before := next.of_step numbered step
      exact ih (numbered.step step) (consistent.step step)
        (tracked.step numbered consistent before step)
        (guarded.step numbered consistent tracked next orderly.1 step) orderly.2 timely
  exact later (numbered_initial hostname) (consistent_initial hostname) (tracked_initial hostname)
    (guarded_initial hostname) events orderly timely

/-- Two processes that are minded are the same: only one forward stage is running. -/
theorem minded_unique (h : s.Consistent) {d d' : Dispatch} {p p' : ProcessId}
    (minded : s.Minded d p) (minded' : s.Minded d' p') : p = p' := by
  obtain ⟨-, r, stored, running, process⟩ := minded
  obtain ⟨-, r', stored', running', process'⟩ := minded'
  obtain ⟨op, held, -, hr, -⟩ := recordOf_eq_some_iff.1 stored
  obtain ⟨op', held', -, hr', -⟩ := recordOf_eq_some_iff.1 stored'
  obtain rfl : op = op' := Option.some.inj (held.symm.trans held')
  have wellFormed := h.held held
  have stage := wellFormed.inFlight (wellFormed.process hr process).2 hr running
  have stage' := wellFormed.inFlight (wellFormed.process hr' process').2 hr' running'
  rw [stage] at hr
  rw [stage'] at hr'
  obtain rfl : r = r' := Option.some.inj (hr.symm.trans hr')
  exact Option.some.inj (process.symm.trans process')

/-- In an orderly run, every process that was reported and still lives is the one of the running
record of its dispatch, or it was asked to stop. So at most one lives that was not, and none lives
on untold when the record of its dispatch is settled or gone. -/
theorem live_process_minded (hostname : String) (events : List (Event I))
    (orderly : (initial hostname).OrderlyRun events)
    (timely : ((initial hostname).run events).Timely) :
    let s := (initial hostname).run events
    (∀ d ∈ s.dispatches, ∀ p ∈ d.processes, s.processes.isFinished p = false →
      (d.ended = none ∧
        ∃ r, s.recordOf d.key = some r ∧ r.status = .running ∧ r.process = some p) ∨
      s.processes.isCancelled p = true) ∧
    (∀ d ∈ s.dispatches, ∀ p ∈ d.processes, ∀ d' ∈ s.dispatches, ∀ p' ∈ d'.processes,
      s.processes.isFinished p = false → s.processes.isCancelled p = false →
      s.processes.isFinished p' = false → s.processes.isCancelled p' = false → p = p') ∧
    ∀ d ∈ s.dispatches, (∀ r, s.recordOf d.key = some r → r.status ≠ .running) →
      ∀ p ∈ d.processes, s.processes.isFinished p = true ∨ s.processes.isCancelled p = true := by
  intro s
  have guarded : s.Guarded := guarded_run hostname events orderly timely
  have minded {d : Dispatch} {p : ProcessId} (dispatch : d ∈ s.dispatches)
      (member : p ∈ d.processes) (loose : s.processes.Loose p) : s.Minded d p := by
    obtain ⟨i, hi⟩ := List.getElem?_of_mem dispatch
    exact guarded.minded hi member loose
  refine ⟨fun d dispatch p member lives => ?_,
    fun d dispatch p member d' dispatch' p' member' lives free lives' free' => ?_,
    fun d dispatch lost p member => ?_⟩
  · cases free : s.processes.isCancelled p with
    | true => exact .inr rfl
    | false => exact .inl (minded dispatch member ⟨lives, free⟩)
  · exact minded_unique (consistent_run hostname events) (minded dispatch member ⟨lives, free⟩)
      (minded dispatch' member' ⟨lives', free'⟩)
  · by_contra untold
    simp only [not_or, Bool.not_eq_true] at untold
    obtain ⟨-, r, stored, running, -⟩ := minded dispatch member untold
    exact lost r stored running

/-- An aborted backup that goes on with its next process. -/
def straggling : List (Event Interface.host) :=
  backingUp ++
    [.abort ⟨1⟩ .backup .epoch, .processExited 0, .processStarted 1 "gzip" .epoch]

theorem live_process_minded_straggling :
    ((initial "db1").run straggling).processes.isFinished 1 = false ∧
    ((initial "db1").run straggling).processes.isCancelled 1 = true := by
  have few : ((initial "db1").run straggling).draws < UInt64.size := by decide
  obtain ⟨-, -, told⟩ := live_process_minded "db1" straggling (by decide)
    ((numbered_run "db1" straggling).timely few)
  have lives : ((initial "db1").run straggling).processes.isFinished 1 = false := by decide
  have bound : 1 < ((initial "db1").run straggling).dispatches.length := by decide
  have settled (r : StageRecord)
      (stored : ((initial "db1").run straggling).recordOf ⟨⟨1⟩, .backup, 2⟩ = some r) :
      r.status ≠ .running := by
    have cancelled : (((initial "db1").run straggling).recordOf ⟨⟨1⟩, .backup, 2⟩).map
      (·.status) = some .cancelled := by decide
    rw [stored, Option.map_some, Option.some.injEq] at cancelled
    simp [cancelled]
  have ended := told ((initial "db1").run straggling).dispatches[1] (List.getElem_mem bound) settled
    1 (show 1 ∈ [0, 1] by decide)
  exact ⟨lives, ended.resolve_left (by simp [lives])⟩

/-! ## A number that comes round -/

theorem orderlyRun_append (before events : List (Event I)) :
    s.OrderlyRun (before ++ events) ↔ s.OrderlyRun before ∧ (s.run before).OrderlyRun events := by
  induction before generalizing s with
  | nil => simp [OrderlyRun]
  | cons e before ih => simp [OrderlyRun, ih, and_assoc]

theorem orderlyRun_vain (s : Scene) (n : Nat) : s.OrderlyRun (vain n) := by
  induction n generalizing s with
  | zero => trivial
  | succ n ih => exact ⟨trivial, trivial, ih _⟩

/-- A backup is aborted. -/
def aborted : List (Event Interface.host) := backingUp ++ [.abort ⟨1⟩ .backup .epoch]

/-- A second backup begins, and both it and the first report a process. -/
def overlap : List (Event Interface.host) :=
  requested (.stage (.backup "db2" 3306)) ++
    [.processExited 0, .processStarted 1 "mysqldump" .epoch, .processStarted 2 "gzip" .epoch]

/-- So many numbers later the next one is that of the aborted backup. -/
theorem run_aborted_vain :
    (initial "db1").run (aborted ++ vain (UInt64.size - 1)) =
      { (initial "db1").run aborted with
        coordinator := { ((initial "db1").run aborted).coordinator with generation := 1 }
        draws := ((initial "db1").run aborted).draws + (UInt64.size - 1) } := by
  have generation :
      ((initial "db1").run aborted).coordinator.generation + .ofNat (UInt64.size - 1) = 1 := by
    decide
  rw [run_append, run_vain rfl rfl, skip, generation]

/-- The second backup begins when its number has come round: it is that of the first one, whose
next process takes the place of its own. -/
def doubled : List (Event Interface.host) := aborted ++ vain (UInt64.size - 1) ++ overlap

/-- Without a bound on the numbers two dispatches can have processes that live at the same time and
that nobody has asked to stop. -/
theorem exists_two_live_processes :
    let s := (initial "db1").run doubled
    (initial "db1").OrderlyRun doubled ∧
    ∃ d ∈ s.dispatches, ∃ p ∈ d.processes, ∃ d' ∈ s.dispatches, ∃ p' ∈ d'.processes,
      p ≠ p' ∧ s.processes.Loose p ∧ s.processes.Loose p' := by
  intro s
  have run : s = ((initial "db1").run (aborted ++ vain (UInt64.size - 1))).run overlap :=
    run_append _ _ _
  rw [run_aborted_vain] at run
  refine ⟨?_, ?_⟩
  · rw [doubled, orderlyRun_append, orderlyRun_append, run_aborted_vain]
    exact ⟨⟨by decide, orderlyRun_vain _ _⟩, by decide⟩
  · rw [run]
    exact ⟨_, List.mem_of_getElem? (i := 1) rfl, 1, by decide, _, List.mem_of_getElem? (i := 2) rfl,
      2, by decide, by decide, ⟨rfl, rfl⟩, ⟨rfl, rfl⟩⟩

end Scene

end ReplicaSeed
