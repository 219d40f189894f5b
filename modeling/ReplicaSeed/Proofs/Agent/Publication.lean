import ReplicaSeed.Proofs.Agent.Answer
import ReplicaSeed.Proofs.Agent.Finality

/-!
# What is published of a dispatch

A listener sees the records of all dispatches in one sequence. Of each dispatch it sees that it has
started, then its progress, then at most how it has ended, and nothing more. What it sees is what is
stored: the record is published in the same step in which it is stored.

## Main definitions

* `Account`: what is published of a dispatch, in its order.
* `Scene.told`: the progress that a dispatch reports in a run.
* `Scene.Publishes`: what an event does to the records and to what is published.
* `Scene.Recorded`: the account of a dispatch agrees with its stored record.

## Main statements

* `Scene.Step.publishes`: an event does nothing else.
* `Scene.Recorded.after`: the accounts go on agreeing with the records.
* `Scene.published_in_order`: the account of each dispatch, in every run.
* `Scene.exists_started_twice`: what the condition on the keys is for.
-/

namespace ReplicaSeed

/-- What is published of a dispatch: it has started, it makes progress, and it may have ended. -/
structure Account where
  first : StageRecord
  progress : List StageRecord := []
  last : Option StageRecord := none

namespace Account

/-- The records of the account, as they are published. -/
def records (a : Account) : List StageRecord := a.first :: (a.progress ++ a.last.toList)

/-- The account of a dispatch that began under the key and told of its progress since then. What it
told after it had been settled or replaced is left out. -/
structure Proper (a : Account) (key : DispatchKey) (told : List String) : Prop where
  started : a.first.status = .running ∧ a.first.details = key.stage.name ++ " started"
  running : ∀ r ∈ a.progress, r.status = .running
  told : a.progress.map (·.details) <+: told
  terminal : ∀ r ∈ a.last, r.status.isTerminal

variable {a : Account} {key : DispatchKey} {told more : List String} {r : StageRecord}

/-- What a dispatch tells later need not be published. -/
theorem Proper.append (h : a.Proper key told) (more : List String) :
    a.Proper key (told ++ more) :=
  { h with told := h.told.trans (List.prefix_append ..) }

theorem Proper.add (h : a.Proper key told) (all : a.progress.map (·.details) = told)
    (running : r.status = .running) :
    { a with progress := a.progress ++ [r] }.Proper key (told ++ [r.details]) where
  started := h.started
  running := by
    intro q hq
    rcases List.mem_append.1 hq with hq | hq
    · exact h.running q hq
    · rw [List.mem_singleton.1 hq, running]
  told := by
    rw [List.map_append, all]
    exact List.prefix_refl _
  terminal := h.terminal

theorem Proper.close (h : a.Proper key told) (terminal : r.status.isTerminal) :
    { a with last := some r }.Proper key told :=
  { h with terminal := fun _ hq => Option.mem_some.1 hq ▸ terminal }

theorem records_add (open_ : a.last = none) (r : StageRecord) :
    { a with progress := a.progress ++ [r] }.records = a.records ++ [r] := by
  simp [records, open_]

theorem records_close (open_ : a.last = none) (r : StageRecord) :
    { a with last := some r }.records = a.records ++ [r] := by
  simp [records, open_]

end Account

namespace Scene

variable {I : Interface} {s t : Scene} {e : Event I} {i : Nat} {d : Dispatch} {op : Operation}
  {q r : StageRecord} {key : DispatchKey}

/-- What was published under a key. -/
def publishedUnder (s : Scene) (key : DispatchKey) : List StageRecord :=
  s.published.filter fun r => r.key = key

theorem publishedUnder_append (published : t.published = s.published ++ [r]) (key : DispatchKey) :
    t.publishedUnder key = s.publishedUnder key ++ if r.key = key then [r] else [] := by
  by_cases same : r.key = key <;> simp [publishedUnder, published, same]

theorem publishedUnder_congr (published : t.published = s.published) (key : DispatchKey) :
    t.publishedUnder key = s.publishedUnder key := by
  rw [publishedUnder, publishedUnder, published]

/-- The progress that an event reports of the dispatches under a key. -/
def tells (s : Scene) (key : DispatchKey) : Event I → List String
  | .progress i details _ =>
    if (s.dispatches[i]?).any fun d => d.key = key && d.task ≠ .coordinates then [details] else []
  | _ => []

/-- The progress that the dispatches under a key report in a run. -/
def told (s : Scene) (key : DispatchKey) : List (Event I) → List String
  | [] => []
  | e :: events => s.tells key e ++ (s.after e).told key events

theorem tells_of_dispatch (dispatch : s.dispatches[i]? = some d) (task : d.task ≠ .coordinates)
    (key : DispatchKey) (details : String) (now : Instant) :
    s.tells key (.progress i details now : Event I) = if key = d.key then [details] else [] := by
  simp [tells, dispatch, task, eq_comm (a := key)]

/-- Nobody tells of a dispatch that has not begun. -/
theorem tells_of_not_mem (absent : key ∉ s.keys) (e : Event I) : s.tells key e = [] := by
  cases e with
  | progress i details now =>
    have other : ¬ (s.dispatches[i]?).any fun d => d.key = key && d.task ≠ .coordinates := by
      intro found
      obtain ⟨d, hd, same⟩ := (Option.any_eq_true ..).1 found
      rw [Bool.and_eq_true, decide_eq_true_eq] at same
      exact absent (List.mem_map.2 ⟨d, List.mem_of_getElem? hd, same.1⟩)
    rw [tells, if_neg other]
  | _ => rfl

/-- Progress that is told of a running record is published. -/
theorem tells_of_published_eq (published : (s.after e).published = s.published)
    (stored : s.recordOf key = some q) (running : q.status = .running) : s.tells key e = [] := by
  cases e with
  | progress i details now =>
    rw [tells]
    refine if_neg fun told => ?_
    obtain ⟨d, dispatch, same⟩ := (Option.any_eq_true ..).1 told
    rw [Bool.and_eq_true, decide_eq_true_eq, decide_eq_true_eq] at same
    obtain ⟨rfl, task⟩ := same
    obtain ⟨⟨op, q'⟩, found, rfl⟩ := Option.map_eq_some_iff.1 stored
    have counts : s.coordinator.progress d.key details now =
        some (s.coordinator.store op d.key.stage { q' with details, updatedAt := now },
          { q' with details, updatedAt := now }) :=
      Coordinator.progress_eq_some_iff.2 ⟨op, q', found, running, rfl, rfl⟩
    simp [after, dispatch, task, progress, counts, publish] at published
  | _ => rfl

theorem tells_of_endOf (ends : e.endOf = some i) (key : DispatchKey) : s.tells key e = [] := by
  cases e with
  | progress => cases ends
  | _ => rfl

/-! ## Dispatches with different keys -/

theorem Step.keys_prefix (step : s.Step e t) : s.keys <+: t.keys := by
  cases step with
  | start => exact keys_dispatch .. ▸ List.prefix_append ..
  | fetch => exact keys_dispatch .. ▸ List.prefix_append ..
  | @attach i command => exact s.keys_enroll i command ▸ List.prefix_refl _
  | @reject i command => exact s.keys_enroll i command ▸ List.prefix_refl _
  | settle => exact s.keys_conclude _ ▸ List.prefix_refl _
  | conclude => exact s.keys_conclude _ ▸ List.prefix_refl _
  | _ => exact List.prefix_refl _

theorem keys_prefix_run (s : Scene) (events : List (Event I)) : s.keys <+: (s.run events).keys :=
  run_induction (P := fun t => s.keys <+: t.keys) (fun le step => le.trans step.keys_prefix)
    (List.prefix_refl _) events

theorem Step.nodup_keys (step : s.Step e t) (distinct : t.keys.Nodup) : s.keys.Nodup :=
  distinct.sublist step.keys_prefix.sublist

theorem nodup_keys_of_run {events : List (Event I)} (distinct : (s.run events).keys.Nodup) :
    s.keys.Nodup :=
  distinct.sublist (keys_prefix_run s events).sublist

theorem apart_of_nodup (distinct : s.keys.Nodup) : s.Apart := by
  rintro i j key ⟨a, ha, -, rfl⟩ ⟨b, hb, -, same⟩
  have lt := (List.getElem?_eq_some_iff.1 ha).1
  refine (List.getElem?_inj (by simpa [keys] using lt) distinct).1 ?_
  simp [keys, ha, hb, same]

/-- All that is known of a scene whose dispatches have different keys. -/
structure Keyed (s : Scene) : Prop where
  distinct : s.keys.Nodup
  consistent : s.Consistent
  tracked : s.Tracked

theorem Keyed.after (h : s.Keyed) (distinct : (s.after e).keys.Nodup) : (s.after e).Keyed where
  distinct := distinct
  consistent := h.consistent.step (s.step_after e)
  tracked := h.tracked.step_of_apart (apart_of_nodup h.distinct) h.consistent (s.step_after e)

theorem Keyed.run (h : s.Keyed) (events : List (Event I))
    (distinct : (s.run events).keys.Nodup) : (s.run events).Keyed := by
  induction events generalizing s with
  | nil => exact h
  | cons e events ih =>
    have next : (s.after e).keys.Nodup := nodup_keys_of_run distinct
    exact ih (h.after next) distinct

theorem keyed_initial (hostname : String) : (initial hostname).Keyed where
  distinct := by simp [initial, keys]
  consistent := consistent_initial hostname
  tracked := tracked_initial hostname

/-! ## What an event publishes -/

/-- What an event does to the records and to what is published. -/
inductive Publishes (s t : Scene) (e : Event I) : Prop where
  | silent (keys : t.keys = s.keys) (records : ∀ key, t.recordOf key = s.recordOf key)
      (published : t.published = s.published)
  /-- A record gets a process, which is not published. -/
  | attaches {q r : StageRecord} (reports : s.Reports t q r) (running : r.status = .running)
      (published : t.published = s.published) (tells : ∀ key, s.tells key e = [])
  | counts {q r : StageRecord} (reports : s.Reports t q r) (same : r.key = q.key)
      (running : r.status = .running) (published : t.published = s.published ++ [r])
      (tells : ∀ key, s.tells key e = if key = q.key then [r.details] else [])
  | ends {q r : StageRecord} (reports : s.Reports t q r) (same : r.key = q.key)
      (terminal : r.status.isTerminal) (published : t.published = s.published ++ [r])
      (tells : ∀ key, s.tells key e = [])
  | begins {r : StageRecord} (begins : s.Begins t r)
      (details : r.details = r.stage.name ++ " started")
      (published : t.published = s.published ++ [r]) (tells : ∀ key, s.tells key e = [])

theorem Step.publishes (step : s.Step e t) (consistent : s.Consistent) (tracked : s.Tracked) :
    s.Publishes t e := by
  cases step with
  | idle => exact .silent rfl (fun _ => rfl) rfl
  | draw => exact .silent rfl (fun _ => rfl) rfl
  | leave => exact .silent rfl (fun _ => rfl) rfl
  | start waits task concerns free allowed =>
    exact .begins (begins_start consistent concerns free _ _) rfl rfl fun _ => rfl
  | fetch waits task held =>
    exact .begins (begins_fetch consistent held _ _ _) rfl rfl fun _ => rfl
  | abort held seedId found running process live settled =>
    exact .ends (reports_abort consistent held found running settled _) (by subst settled; rfl)
      (by subst settled; rfl) rfl fun _ => rfl
  | @progress i details now d op q r dispatch task found running changed =>
    have key : q.key = d.key := (consistent.found found).2.2
    refine .counts (reports_progress consistent found running changed) (by subst changed; rfl)
      (by subst changed; exact running) rfl fun other => ?_
    subst changed
    rw [key]
    exact tells_of_dispatch dispatch task other details now
  | attach dispatch task found running changed =>
    exact .attaches (reports_attach consistent found running changed _ _)
      (by subst changed; exact running) rfl fun _ => rfl
  | @reject i command => exact .silent (s.keys_enroll i command) (fun _ => rfl) rfl
  | exit => exact .silent rfl (fun _ => rfl) rfl
  | @settle e i d op q r status _ _ ends dispatch underWay found uncancelled terminal settled =>
    have running := tracked.running_of_found consistent dispatch underWay found uncancelled
    have terminal : r.status.isTerminal := by
      subst settled
      simpa [Status.isTerminal, StageRecord.settle] using terminal
    exact .ends (reports_settle consistent found running settled _) (by subst settled; rfl) terminal
      rfl (tells_of_endOf ends)
  | @conclude e i => exact .silent (s.keys_conclude i) (fun _ => rfl) rfl

theorem Keyed.publishes (h : s.Keyed) (e : Event I) : s.Publishes (s.after e) e :=
  (s.step_after e).publishes h.consistent h.tracked

namespace Publishes

variable (h : s.Publishes t e)
include h

/-- What is published is stored. -/
theorem stored : t.published = s.published ∨
    ∃ r, t.published = s.published ++ [r] ∧ t.recordOf r.key = some r := by
  cases h with
  | silent _ _ published => exact .inl published
  | attaches _ _ published => exact .inl published
  | counts reports same _ published => exact .inr ⟨_, published, by simp [reports.records, same]⟩
  | ends reports same _ published => exact .inr ⟨_, published, by simp [reports.records, same]⟩
  | begins begins _ published => exact .inr ⟨_, published, by simp [begins.records]⟩

/-- A terminal record is published exactly when it becomes the stored one. -/
theorem terminal_iff (terminal : r.status.isTerminal) :
    t.published = s.published ++ [r] ↔ t.recordOf r.key = some r ∧ s.recordOf r.key ≠ some r := by
  have unpublished (published : t.published = s.published) : t.published ≠ s.published ++ [r] := by
    simp [published]
  have only {p : StageRecord} (published : t.published = s.published ++ [p]) :
      t.published = s.published ++ [r] ↔ p = r := by
    simp [published]
  have ne_running {p : StageRecord} (running : p.status = .running) : p ≠ r := by
    rintro rfl
    simp [Status.isTerminal, running] at terminal
  cases h with
  | silent _ records published =>
    refine iff_of_false (unpublished published) fun ⟨now, before⟩ => before ?_
    rw [← records, now]
  | @attaches q p reports running published =>
    refine iff_of_false (unpublished published) fun ⟨now, before⟩ => before ?_
    rw [reports.records] at now
    split at now
    · exact absurd (Option.some.inj now) (ne_running running)
    · exact now
  | @counts q p reports same running published =>
    rw [only published]
    refine iff_of_false (ne_running running) fun ⟨now, before⟩ => before ?_
    rw [reports.records] at now
    split at now
    · exact absurd (Option.some.inj now) (ne_running running)
    · exact now
  | @ends q p reports same _ published =>
    rw [only published]
    constructor
    · rintro rfl
      refine ⟨by simp [reports.records, same], fun before => ?_⟩
      rw [same, reports.found] at before
      exact ne_running reports.running (Option.some.inj before)
    · rintro ⟨now, before⟩
      rw [reports.records] at now
      split at now
      · exact Option.some.inj now
      · exact absurd now before
  | @begins p begins _ published =>
    rw [only published]
    refine iff_of_false (ne_running begins.running) fun ⟨now, before⟩ => before ?_
    rw [begins.records] at now
    split at now
    · exact absurd (Option.some.inj now) (ne_running begins.running)
    · split at now
      · cases now
      · exact now

/-- Nothing is published under the key of a record that is gone, unless a dispatch begins. -/
theorem publishedUnder_of_gone (dispatched : key ∈ s.keys) (distinct : t.keys.Nodup)
    (gone : s.recordOf key = none) : t.publishedUnder key = s.publishedUnder key := by
  have silent {p : StageRecord} (published : t.published = s.published ++ [p]) (ne : p.key ≠ key) :
      t.publishedUnder key = s.publishedUnder key := by
    simp [publishedUnder_append published, ne]
  have reported {q r : StageRecord} (reports : s.Reports t q r) (same : r.key = q.key) :
      r.key ≠ key := by
    rintro rfl
    simp [same, reports.found] at gone
  cases h with
  | silent _ _ published => exact publishedUnder_congr published key
  | attaches _ _ published => exact publishedUnder_congr published key
  | counts reports same _ published => exact silent published (reported reports same)
  | ends reports same _ published => exact silent published (reported reports same)
  | begins begins _ published =>
    exact silent published (begins.key_ne distinct dispatched).symm

end Publishes

/-! ## Accounts along a run -/

/-- Nothing is known of a dispatch that has not begun. The account of one that has begun goes as far
as its record, as long as this is stored. -/
inductive Recorded (s : Scene) (key : DispatchKey) (told : List String) : Prop where
  | absent (fresh : key ∉ s.keys) (silent : s.publishedUnder key = []) (untold : told = [])
  | account (a : Account) (dispatched : key ∈ s.keys)
      (published : s.publishedUnder key = a.records) (proper : a.Proper key told)
      (running : ∀ r, s.recordOf key = some r → r.status = .running →
        a.last = none ∧ a.progress.map (·.details) = told)
      (settled : ∀ r, s.recordOf key = some r → r.status ≠ .running → a.last = some r)

variable {told : List String}

/-- A dispatch begins, and its account with it. -/
theorem Recorded.of_begins (begins : s.Begins t r)
    (details : r.details = r.stage.name ++ " started")
    (published : t.published = s.published ++ [r]) (silent : s.publishedUnder r.key = []) :
    t.Recorded r.key [] := by
  refine .account ⟨r, [], none⟩ (by simp [begins.keys]) ?_ ?_ (fun q stored running => ⟨rfl, rfl⟩)
    fun q stored settled => ?_
  · simp [publishedUnder_append published, silent, Account.records]
  · exact ⟨⟨begins.running, details⟩, by simp, List.nil_prefix, by simp⟩
  · rw [begins.records, if_pos rfl] at stored
    exact absurd (Option.some.inj stored ▸ begins.running) settled

/-- The account of a dispatch is not touched by what is published of others. -/
theorem Recorded.congr (h : s.Recorded key told) (keys : key ∈ t.keys ↔ key ∈ s.keys)
    (published : t.publishedUnder key = s.publishedUnder key)
    (records : ∀ r, t.recordOf key = some r → ∃ q, s.recordOf key = some q ∧
      (r.status = .running → q.status = .running) ∧ (r.status ≠ .running → q = r)) :
    t.Recorded key told := by
  cases h with
  | absent fresh silent untold => exact .absent (mt keys.1 fresh) (published.trans silent) untold
  | account a dispatched before proper running settled =>
    refine .account a (keys.2 dispatched) (published.trans before) proper
      (fun r stored isRunning => ?_) fun r stored isSettled => ?_
    · obtain ⟨q, hq, same, -⟩ := records r stored
      exact running q hq (same isRunning)
    · obtain ⟨q, hq, -, same⟩ := records r stored
      obtain rfl := same isSettled
      exact settled q hq isSettled

theorem Recorded.congr_of_eq (h : s.Recorded key told) (keys : key ∈ t.keys ↔ key ∈ s.keys)
    (published : t.publishedUnder key = s.publishedUnder key)
    (records : t.recordOf key = s.recordOf key ∨ t.recordOf key = none) : t.Recorded key told := by
  refine h.congr keys published fun r stored => ?_
  obtain same | gone := records
  · exact ⟨r, same.symm.trans stored, id, fun _ => rfl⟩
  · simp [gone] at stored

/-- A running record belongs to a dispatch that has an account, and this is still open. -/
theorem Recorded.open (h : s.Recorded key told) (dispatched : key ∈ s.keys)
    (stored : s.recordOf key = some r) (isRunning : r.status = .running) :
    ∃ a : Account, s.publishedUnder key = a.records ∧ a.Proper key told ∧ a.last = none ∧
      a.progress.map (·.details) = told := by
  cases h with
  | absent fresh => exact absurd dispatched fresh
  | account a _ published proper running =>
    obtain ⟨open_, all⟩ := running r stored isRunning
    exact ⟨a, published, proper, open_, all⟩

/-- The account goes on agreeing with the stored record. -/
theorem Recorded.after (h : s.Recorded key told) (keyed : s.Keyed)
    (distinct : (s.after e).keys.Nodup) : (s.after e).Recorded key (told ++ s.tells key e) := by
  -- The record that an event reports on is running, so that its dispatch has begun.
  have dispatched {q r : StageRecord} (reports : s.Reports (s.after e) q r) : q.key ∈ s.keys :=
    (keyed.tracked.underWay_of_running keyed.consistent keyed.distinct reports.found
      reports.running).1
  have elsewhere {q r : StageRecord} (reports : s.Reports (s.after e) q r) (ne : key ≠ q.key) :
      (s.after e).recordOf key = s.recordOf key := by
    rw [reports.records, if_neg ne]
  cases keyed.publishes e with
  | silent keys records published =>
    have same : (s.after e).Recorded key told :=
      h.congr_of_eq (by rw [keys]) (publishedUnder_congr published key) (.inl (records key))
    cases same with
    | absent fresh silent untold =>
      rw [untold, tells_of_not_mem (keys ▸ fresh)]
      exact .absent fresh silent rfl
    | account a dispatched account proper running settled =>
      refine .account a dispatched account (proper.append _) (fun r stored isRunning => ?_) settled
      have nothing := tells_of_published_eq published ((records key).symm.trans stored) isRunning
      rw [nothing, List.append_nil]
      exact running r stored isRunning
  | @attaches q r reports running published tells =>
    rw [tells, List.append_nil]
    refine h.congr (by rw [reports.keys]) (publishedUnder_congr published key) fun p stored => ?_
    by_cases same : key = q.key
    · rw [reports.records, if_pos same] at stored
      obtain rfl := Option.some.inj stored
      exact ⟨q, same ▸ reports.found, fun _ => reports.running, fun ended => absurd running ended⟩
    · exact ⟨p, (elsewhere reports same).symm.trans stored, id, fun _ => rfl⟩
  | @counts q r reports same running published tells =>
    rw [tells]
    by_cases mine : key = q.key
    · subst mine
      obtain ⟨a, account, proper, open_, all⟩ :=
        h.open (dispatched reports) reports.found reports.running
      rw [if_pos rfl]
      refine .account { a with progress := a.progress ++ [r] } (reports.keys ▸ dispatched reports)
        ?_ (proper.add all running) (fun _ _ _ => ⟨open_, by simp [all]⟩) fun p stored ended => ?_
      · rw [publishedUnder_append published, account, if_pos same, Account.records_add open_]
      · rw [reports.records, if_pos rfl] at stored
        exact absurd (Option.some.inj stored ▸ running) ended
    · rw [if_neg mine, List.append_nil]
      refine h.congr_of_eq (by rw [reports.keys]) ?_ (.inl (elsewhere reports mine))
      rw [publishedUnder_append published, if_neg fun other => mine (other.symm.trans same),
        List.append_nil]
  | @ends q r reports same terminal published tells =>
    rw [tells, List.append_nil]
    by_cases mine : key = q.key
    · subst mine
      obtain ⟨a, account, proper, open_, all⟩ :=
        h.open (dispatched reports) reports.found reports.running
      have stored : (s.after e).recordOf q.key = some r := by rw [reports.records, if_pos rfl]
      refine .account { a with last := some r } (reports.keys ▸ dispatched reports) ?_
        (proper.close terminal) (fun p hp isRunning => ?_) fun p hp _ => stored.symm.trans hp
      · rw [publishedUnder_append published, account, if_pos same, Account.records_close open_]
      · obtain rfl := Option.some.inj (stored.symm.trans hp)
        simp [Status.isTerminal, isRunning] at terminal
    · refine h.congr_of_eq (by rw [reports.keys]) ?_ (.inl (elsewhere reports mine))
      rw [publishedUnder_append published, if_neg fun other => mine (other.symm.trans same),
        List.append_nil]
  | @begins r begins details published tells =>
    rw [tells, List.append_nil]
    by_cases mine : key = r.key
    · subst mine
      cases h with
      | absent fresh silent untold =>
        subst untold
        exact .of_begins begins details published silent
      | account _ dispatched => exact absurd rfl (begins.key_ne distinct dispatched)
    · refine h.congr_of_eq (by simp [begins.keys, mine]) ?_ ?_
      · rw [publishedUnder_append published, if_neg (Ne.symm mine), List.append_nil]
      · rw [begins.records, if_neg mine]
        split
        · exact .inr rfl
        · exact .inl rfl

theorem Recorded.run (h : s.Recorded key told) (keyed : s.Keyed) (events : List (Event I))
    (distinct : (s.run events).keys.Nodup) :
    (s.run events).Recorded key (told ++ s.told key events) := by
  induction events generalizing s told with
  | nil => simpa [Scene.told] using h
  | cons e events ih =>
    have next : (s.after e).keys.Nodup := nodup_keys_of_run distinct
    have run := ih (h.after keyed next) (keyed.after next) distinct
    rwa [List.append_assoc] at run

theorem recorded_run (hostname : String) (events : List (Event I))
    (distinct : ((initial hostname).run events).keys.Nodup) (key : DispatchKey) :
    ((initial hostname).run events).Recorded key ((initial hostname).told key events) := by
  have start : (initial hostname).Recorded key [] := .absent (by simp [initial, keys]) rfl rfl
  simpa using start.run (keyed_initial hostname) events distinct

/-- A dispatch that is superseded has an account that is complete. -/
theorem Keyed.publishedUnder_run (h : s.Keyed) (dispatched : key ∈ s.keys)
    (gone : s.recordOf key = none) (events : List (Event I))
    (distinct : (s.run events).keys.Nodup) :
    (s.run events).publishedUnder key = s.publishedUnder key := by
  induction events generalizing s with
  | nil => rfl
  | cons e events ih =>
    have next : (s.after e).keys.Nodup := nodup_keys_of_run distinct
    have moves := (s.step_after e).moves h.consistent h.tracked
    have later := ih (h.after next) (moves.keys_prefix.subset dispatched)
      (moves.recordOf_none next dispatched gone) distinct
    exact later.trans ((h.publishes e).publishedUnder_of_gone dispatched next gone)

/-- In every run in which dispatches have different keys, the records of each dispatch are published
in order: it has started, it makes progress, and at most once it has ended. Whatever is published
is stored in the same step, and a terminal record is published exactly if it is stored. A dispatch
that is superseded publishes nothing any more, and a request that is refused nothing at all. -/
theorem published_in_order (hostname : String) (events : List (Event I))
    (distinct : ((initial hostname).run events).keys.Nodup) :
    let s := (initial hostname).run events
    (∀ d ∈ s.dispatches, ∃ a : Account, s.publishedUnder d.key = a.records ∧
      a.Proper d.key ((initial hostname).told d.key events) ∧
      ∀ r, s.recordOf d.key = some r →
        if r.status.isTerminal then a.last = some r
        else a.last = none ∧ a.progress.map (·.details) = (initial hostname).told d.key events) ∧
    (∀ r ∈ s.published, ∃ d ∈ s.dispatches, d.key = r.key) ∧
    ∀ (before : List (Event I)) (e : Event I) (later : List (Event I)),
      events = before ++ e :: later →
      let u := (initial hostname).run before
      let v := u.after e
      (v.published = u.published ∨
        ∃ r, v.published = u.published ++ [r] ∧ v.recordOf r.key = some r) ∧
      (∀ r, r.status.isTerminal →
        (v.published = u.published ++ [r] ↔
          v.recordOf r.key = some r ∧ u.recordOf r.key ≠ some r)) ∧
      (∀ d ∈ u.dispatches, u.recordOf d.key = none →
        s.publishedUnder d.key = u.publishedUnder d.key ∧
        ∀ i, e.reportOf = some i → u.dispatches[i]? = some d → v.published = u.published) ∧
      ∀ a, u.answer e = some a → Declined a → v.published = u.published := by
  intro s
  have recorded := recorded_run hostname events distinct
  refine ⟨fun d hd => ?_, fun r hr => ?_, ?_⟩
  · have dispatched : d.key ∈ s.keys := List.mem_map_of_mem hd
    cases recorded d.key with
    | absent fresh => exact absurd dispatched fresh
    | account a _ published proper running settled =>
      refine ⟨a, published, proper, fun r stored => ?_⟩
      by_cases isRunning : r.status = .running
      · simpa [Status.isTerminal, isRunning] using running r stored isRunning
      · simpa [Status.isTerminal, isRunning] using settled r stored isRunning
  · have under : r ∈ s.publishedUnder r.key := by simpa [publishedUnder] using hr
    cases recorded r.key with
    | absent _ silent => exact absurd (silent ▸ under) List.not_mem_nil
    | account _ dispatched => exact List.mem_map.1 dispatched
  · intro before e later split u v
    have run : s = v.run later := by
      simp only [s, split, run_append, run_cons]
      rfl
    have distinct : (v.run later).keys.Nodup := run ▸ (show s.keys.Nodup from distinct)
    have next : v.keys.Nodup := nodup_keys_of_run distinct
    have now : u.keys.Nodup := (u.step_after e).nodup_keys next
    have keyed : u.Keyed := (keyed_initial hostname).run before now
    have publishes := keyed.publishes e
    refine ⟨publishes.stored, fun r terminal => publishes.terminal_iff terminal,
      fun d hd gone => ⟨?_, fun i report dispatch => ?_⟩,
      fun a answered declined => (untouched_of_declined answered declined).published⟩
    · rw [run]
      exact keyed.publishedUnder_run (List.mem_map_of_mem hd) gone (e :: later) distinct
    · refine ((u.step_after e).report_lost keyed.consistent keyed.tracked report dispatch ?_).2
      simp [gone]

/-- A backup makes progress and is aborted before it comes to its end. -/
def cutShort : List (Event Interface.host) :=
  backingUp ++ [.progress 1 "half done" .epoch, .abort ⟨1⟩ .backup .epoch,
    .progress 1 "nearly done" .epoch, .stageEnded 1 (.result (.ok ())) .epoch]

/-- Of the aborted backup one hears that it has started, that it is half done and that it was
aborted. -/
theorem published_in_order_cutShort : ∃ a : Account,
    ((initial "db1").run cutShort).publishedUnder ⟨⟨1⟩, .backup, 2⟩ = a.records ∧
    a.progress.map (·.details) <+: ["half done", "nearly done"] ∧
    a.last.map (·.status) = some .cancelled := by
  have distinct : ((initial "db1").run cutShort).keys.Nodup := by decide
  obtain ⟨accounts, -, -⟩ := published_in_order "db1" cutShort distinct
  obtain ⟨a, published, proper, last⟩ := accounts _ (List.mem_of_getElem? (i := 1) rfl)
  exact ⟨a, published, proper.told, congrArg (Option.map (·.status)) (last _ rfl)⟩

/-! ## A number that comes round -/

/-- A backup fails, and the next one begins when its number has come round. -/
def reborn : List (Event Interface.host) :=
  performed 0 (.prepare .target) ++ requested (.stage (.backup "db2" 3306)) ++
    [.stageEnded 1 (.crashed "killed") .epoch] ++ vain (UInt64.size - 1) ++
    requested (.stage (.backup "db2" 3306))

/-- Two dispatches with one key both begin under it. -/
theorem exists_started_twice : ∃ first failed second,
    ((initial "db1").run reborn).publishedUnder ⟨⟨1⟩, .backup, 2⟩ = [first, failed, second] ∧
    first.details = "Backup started" ∧ failed.status = .error ∧
    second.details = "Backup started" := by
  rw [reborn, run_append, run_append, run_vain rfl rfl]
  exact ⟨_, _, _, rfl, rfl, rfl, rfl⟩

end Scene

end ReplicaSeed
