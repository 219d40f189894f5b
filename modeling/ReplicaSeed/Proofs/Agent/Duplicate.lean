import ReplicaSeed.Proofs.Agent.Alike
import ReplicaSeed.Proofs.Agent.Decision

/-!
# Requests that come again

A request for a stage that is running or complete is told so, and uses up a number. Otherwise the
run goes on as if it had not come. So a stage is only ever begun again after it has failed.

## Main definitions

* `StageCall`: a request for a stage as it comes in.
* `StageCall.Repeats`: it asks again for a stage of the held operation.
* `Scene.Keeps`: the operation stays in place throughout a run.

## Main statements

* `Scene.run_repeats`: what is left of requests for a stage that is running or complete.
* `Scene.failed_of_again`, `Scene.completed_stays`: what has happened when a stage begins again.
* `Scene.duplicates_ignored`: a run with such requests and the run without them.
* `Scene.exists_duplicates_noticed`: what the bound on the numbers is for.
-/

namespace ReplicaSeed

/-- A request for a stage as it comes in. -/
structure StageCall (I : Interface) where
  registry : Registry I
  name : String
  request : StageRequest
  now : Instant

namespace StageCall

variable {I : Interface}

/-- The request is complete and asks for this stage of the operation, with its method, which can be
used. -/
structure Repeats (call : StageCall I) (op : Operation) (stage : Stage) : Prop where
  stage : call.request.stage = stage
  complete : call.request.lacksHost = false
  method : ∃ m, call.registry.resolve? call.name = some m ∧ m.kind = op.method ∧
    call.registry.isAvailable m.kind

theorem Repeats.methodFor {call : StageCall I} {op : Operation} {stage : Stage}
    (h : call.Repeats op stage) : ∃ m,
      Coordinator.methodFor call.registry call.name call.request = .ok m ∧ m.kind = op.method := by
  obtain ⟨m, resolved, kind, available⟩ := h.method
  refine ⟨m, ?_, kind⟩
  rw [Coordinator.methodFor_eq, h.complete, resolved]
  simp [available]

end StageCall

/-- A status that allows a restart is that of a stage that has failed. -/
theorem Status.failed_of_not_blocksRestart {status : Status} (h : status.blocksRestart = false) :
    status = .error ∨ status = .cancelled := by
  cases status with
  | error => exact .inl rfl
  | cancelled => exact .inr rfl
  | _ => cases h

namespace Coordinator

variable {c : Coordinator} {id : SeedId} {kind : Method} {request : StageRequest} {op : Operation}
  {r : StageRecord}

/-- A request for a stage that is running or complete. -/
theorem startAs_already (held : c.operation = some op) (seedId : op.seedId = id)
    (method : op.method = kind) (found : op.record? request.stage = some r)
    (begun : r.status.blocksRestart) (n : Generation) (now : Instant) :
    c.startAs n kind id request now = (c, .ok (.already request.stage)) := by
  rw [startAs, operationFor_held held seedId method]
  simp [found, begun]

end Coordinator

namespace Scene

variable {I : Interface} {s t : Scene} {e : Event I} {op : Operation} {r : StageRecord}
  {key : DispatchKey} {stage : Stage}

/-! ## What is left of a repeated request -/

theorem skip_skip (s : Scene) (m n : Nat) : (s.skip m).skip n = s.skip (m + n) := by
  simp [skip, Nat.add_assoc, UInt64.add_assoc]

/-- The events of the requests, each of which finds no other in its way. -/
def calls (s : Scene) (id : SeedId) (calls : List (StageCall I)) : List (Event I) :=
  calls.flatMap fun call => s.call call.registry call.now (.start id call.name call.request)

/-- Someone who comes and goes leaves the queue as it was. -/
theorem leave_draw (s : Scene) (id : SeedId) (kind : Method) (task : Task) :
    (s.draw id kind task).leave s.waiting.length = s.skip 1 := by
  simp [draw, leave, skip, Coordinator.draw, List.eraseIdx_append_of_length_le]

/-- A request for a stage that is running or complete is told so, and uses up a number. -/
theorem run_repeat (held : s.coordinator.operation = some op) (found : op.record? stage = some r)
    (begun : r.status.blocksRestart) {call : StageCall I} (repeats : call.Repeats op stage) :
    s.run (s.calls op.seedId [call]) = s.skip 1 ∧
      s.answers (s.calls op.seedId [call]) =
        [none, some (.ok (.start (.alreadyStarted stage)))] := by
  obtain ⟨m, known, kind⟩ := repeats.methodFor
  obtain rfl := repeats.stage
  let u := s.draw op.seedId m.kind (.stage call.request)
  let w : Waiting :=
    ⟨s.draws + 1, s.coordinator.draw.generation, op.seedId, m.kind, .stage call.request⟩
  have known : Task.method call.registry call.name (.stage call.request) = .ok m := known
  have asked : s.after (.ask call.registry op.seedId call.name (.stage call.request)) = u := by
    simp only [after, known, u]
  have turn : u.waiting[s.waiting.length]? = some w := List.getElem?_concat_length
  have already : u.coordinator.startAs w.number w.method w.id call.request call.now =
      (u.coordinator, .ok (.already call.request.stage)) := by
    have holds : u.coordinator.operation = some op := held
    exact Coordinator.startAs_already holds rfl kind.symm found begun w.number call.now
  have served : u.after (.serve s.waiting.length call.now : Event I) = s.skip 1 := by
    simp only [after, turn, serve, w]
    rw [already]
    exact s.leave_draw ..
  have reply : u.reply w call.now = some (.ok (.start (.alreadyStarted call.request.stage))) := by
    simp only [Scene.reply, w]
    rw [already]
    rfl
  have waits : s.answer (.ask call.registry op.seedId call.name (.stage call.request)) = none := by
    simp only [answer, known]
  have answered : u.answer (.serve s.waiting.length call.now : Event I) = u.reply w call.now := by
    simp only [answer, turn, Option.bind_some]
  simp only [calls, Scene.call, List.flatMap_cons, List.flatMap_nil, List.append_nil, run_cons,
    run_nil, answers_cons, answers_nil, asked, served, waits, answered, reply, and_self]

/-- Any number of such requests use up as many numbers. -/
theorem run_repeats (held : s.coordinator.operation = some op) (found : op.record? stage = some r)
    (begun : r.status.blocksRestart) (calls : List (StageCall I))
    (repeats : ∀ call ∈ calls, call.Repeats op stage) :
    s.run (s.calls op.seedId calls) = s.skip calls.length ∧
      s.answers (s.calls op.seedId calls) =
        calls.flatMap fun _ => [none, some (.ok (.start (.alreadyStarted stage)))] := by
  induction calls generalizing s with
  | nil => exact ⟨by simp [Scene.calls, skip], rfl⟩
  | cons call calls ih =>
    rw [List.forall_mem_cons] at repeats
    -- The next request finds the same operation, after one more number.
    obtain ⟨first, answers⟩ := run_repeat held found begun repeats.1
    obtain ⟨others, further⟩ := ih (s := s.skip 1) held repeats.2
    have split : s.calls op.seedId (call :: calls) =
        s.calls op.seedId [call] ++ (s.skip 1).calls op.seedId calls := by
      simp [Scene.calls]
      rfl
    rw [split, run_append, answers_append, first, answers, others, further, skip_skip,
      Nat.add_comm 1]
    exact ⟨rfl, rfl⟩

/-! ## Stages that begin again -/

/-- The operation stays in place throughout the run. -/
def Keeps (id : SeedId) : Scene → List (Event I) → Prop
  | s, [] => s.coordinator.operation.map (·.seedId) = some id
  | s, e :: events => s.coordinator.operation.map (·.seedId) = some id ∧ (s.after e).Keeps id events

theorem Keeps.held {id : SeedId} {events : List (Event I)} (h : s.Keeps id events) :
    s.coordinator.operation.map (·.seedId) = some id := by
  cases events with
  | nil => exact h
  | cons => exact h.1

theorem keys_eq_of_tags (h : t.tags = s.tags) : t.keys = s.keys := by
  have keys (u : Scene) : u.keys = u.tags.map Prod.snd := by simp [Scene.keys, tags]
  rw [keys, keys, h]

/-- A dispatch that begins is one of the operation that is held then. -/
theorem Begins.seedId {id : SeedId} (h : s.Begins t r)
    (held : t.coordinator.operation.map (·.seedId) = some id) : r.seedId = id := by
  obtain ⟨op, holds, rfl⟩ := Option.map_eq_some_iff.1 held
  have stored : t.recordOf r.key = some r := by simp [h.records]
  obtain ⟨op', held', seedId, -⟩ := recordOf_eq_some_iff.1 stored
  obtain rfl := Option.some.inj (holds.symm.trans held')
  exact seedId.symm

/-- What another stage of the operation does to a record. -/
theorem Begins.recordOf_of_ne (h : s.Begins t r) (seedId : r.seedId = key.seedId)
    (stage : r.stage ≠ key.stage) : t.recordOf key = s.recordOf key := by
  have ne : key ≠ r.key := by
    rintro rfl
    exact stage rfl
  have spared : r.key.replaces key = false := by
    simp [DispatchKey.replaces, StageRecord.key, seedId, stage]
  rw [h.records, if_neg ne, spared]
  rfl

/-- A stage begins again only if its record has failed. -/
theorem Admits.failed {w : Waiting} (h : s.Admits t e w r) (forward : key.stage ≠ .metadataFetch)
    (stored : (s.recordOf key).isSome) (seedId : r.seedId = key.seedId)
    (stage : r.stage = key.stage) :
    ∃ q, s.recordOf key = some q ∧ (q.status = .error ∨ q.status = .cancelled) := by
  obtain ⟨q, hq⟩ := Option.isSome_iff_exists.1 stored
  have free := h.free (stage ▸ forward) key q hq seedId.symm stage.symm
  exact ⟨q, hq, Status.failed_of_not_blocksRestart free⟩

/-- Between two dispatches of a stage of one operation the record of the first one has failed. -/
theorem failed_of_again (consistent : s.Consistent) (forward : key.stage ≠ .metadataFetch)
    {mid : List (Event I)} (stored : (s.recordOf key).isSome) (keeps : s.Keeps key.seedId mid)
    {new : DispatchKey} (begun : ((s.run mid).after e).keys = (s.run mid).keys ++ [new])
    (seedId : new.seedId = key.seedId) (stage : new.stage = key.stage) :
    ∃ part, part <+: mid ∧ ∃ r, (s.run part).recordOf key = some r ∧
      (r.status = .error ∨ r.status = .cancelled) := by
  induction mid generalizing s with
  | nil =>
    obtain ⟨kept, -⟩ | ⟨w, r, admits⟩ := (s.step_after e).admits_or consistent
    · simp [keys_eq_of_tags kept] at begun
    · obtain rfl : r.key = new := by simpa [admits.keys] using begun
      exact ⟨[], List.nil_prefix, admits.failed forward stored seedId stage⟩
  | cons first mid ih =>
    have next := consistent.step (s.step_after first)
    have later (stored : ((s.after first).recordOf key).isSome) :
        ∃ part, part <+: first :: mid ∧ ∃ r, (s.run part).recordOf key = some r ∧
          (r.status = .error ∨ r.status = .cancelled) := by
      obtain ⟨part, le, failed⟩ := ih next stored keeps.2 begun
      exact ⟨first :: part, (List.prefix_cons_inj first).2 le, failed⟩
    -- Until the stage begins again its record stays in place, and what begins it finds it failed.
    obtain ⟨-, records⟩ | ⟨w, r, admits⟩ := (s.step_after first).admits_or consistent
    · exact later ((records key).trans stored)
    · have same : r.seedId = key.seedId := admits.seedId (keeps.2.held)
      by_cases again : r.stage = key.stage
      · exact ⟨[], List.nil_prefix, admits.failed forward stored same again⟩
      · exact later (admits.recordOf_of_ne same again ▸ stored)

/-- A stage that is complete stays so as long as its operation stays in place. -/
theorem completed_stays (numbered : s.Numbered) (consistent : s.Consistent) (tracked : s.Tracked)
    (forward : key.stage ≠ .metadataFetch) (stored : s.recordOf key = some r)
    (completed : r.status = .completed) {mid : List (Event I)} (keeps : s.Keeps key.seedId mid)
    (timely : (s.run mid).Timely) : (s.run mid).recordOf key = some r := by
  induction mid generalizing s with
  | nil => exact stored
  | cons e mid ih =>
    have step := s.step_after e
    have next : (s.after e).Timely := timely.of_run (numbered.step step) mid
    have now : s.Timely := next.of_step numbered step
    refine ih (numbered.step step) (consistent.step step)
      (tracked.step numbered consistent now step) ?_ keeps.2 timely
    -- A report needs a running record, and a request one that has failed.
    obtain ⟨kept, -⟩ | ⟨w, r', admits⟩ := step.admits_or consistent
    · cases step.moves consistent tracked with
      | stay _ records => exact (records key).trans stored
      | @report q r' reports =>
        have ne : key ≠ q.key := by
          rintro rfl
          have running := reports.running
          rw [← Option.some.inj (stored.symm.trans reports.found), completed] at running
          cases running
        rw [reports.records, if_neg ne, stored]
      | begin begins => exact absurd begins.keys (by simp [keys_eq_of_tags kept])
    · have same : r'.seedId = key.seedId := admits.seedId (keeps.2.held)
      have other : r'.stage ≠ key.stage := by
        intro again
        obtain ⟨q, hq, failed⟩ := admits.failed forward (stored ▸ rfl) same again
        obtain rfl := Option.some.inj (stored.symm.trans hq)
        simp [completed] at failed
      exact (admits.recordOf_of_ne same other).trans stored

/-! ## Runs with and without duplicates -/

/-- Requests that ask again for a stage of the held operation that is running or complete are told
so, and the run goes on as it would have without them, but for the numbers. A stage is begun again
only after its record has failed, and one that is complete is not begun again as long as its
operation stays in place. The bounds keep out numbers that come round, which takes `2 ^ 64` draws:
an old dispatch can meet its own number on a new record. -/
theorem duplicates_ignored (hostname : String) (before : List (Event I)) :
    let s := (initial hostname).run before
    (∀ (op : Operation) (stage : Stage) (r : StageRecord) (calls : List (StageCall I))
      (later : List (Event I)),
      s.coordinator.operation = some op → op.record? stage = some r →
      r.status = .running ∨ r.status = .completed →
      (∀ call ∈ calls, call.Repeats op stage) →
      (s.run (s.calls op.seedId calls)).PromptRun later →
      s.answers (s.calls op.seedId calls) =
        calls.flatMap (fun _ => [none, some (.ok (.start (.alreadyStarted stage)))]) ∧
      (s.run (s.calls op.seedId calls)).answers later = s.answers later ∧
      (s.run (s.calls op.seedId calls ++ later)).unnumbered = (s.run later).unnumbered) ∧
    (∀ (key : DispatchKey) (r : StageRecord) (between : List (Event I)) (e : Event I)
      (new : DispatchKey),
      s.recordOf key = some r → key.stage ≠ .metadataFetch → s.Keeps key.seedId between →
      ((s.run between).after e).keys = (s.run between).keys ++ [new] →
      new.seedId = key.seedId → new.stage = key.stage →
      ∃ part, part <+: between ∧ ∃ q, (s.run part).recordOf key = some q ∧
        (q.status = .error ∨ q.status = .cancelled)) ∧
    ∀ (key : DispatchKey) (r : StageRecord) (between : List (Event I)),
      s.recordOf key = some r → key.stage ≠ .metadataFetch → r.status = .completed →
      s.Keeps key.seedId between → (s.run between).Timely →
      (s.run between).recordOf key = some r ∧
      ∀ (e : Event I) (new : DispatchKey),
        ((s.run between).after e).keys = (s.run between).keys ++ [new] →
        new.seedId = key.seedId → new.stage ≠ key.stage := by
  intro s
  have numbered : s.Numbered := numbered_run hostname before
  have consistent : s.Consistent := consistent_run hostname before
  refine ⟨fun op stage r calls later held found begun repeats prompt => ?_,
    fun key r between e new stored forward keeps begun seedId again => ?_,
    fun key r between stored forward completed keeps timely => ?_⟩
  · have blocked : r.status.blocksRestart := by
      obtain running | completed := begun
      · simp [running, Status.blocksRestart]
      · simp [completed, Status.blocksRestart]
    obtain ⟨skipped, answers⟩ := run_repeats held found blocked calls repeats
    have numbered' := run_induction Numbered.step numbered (s.calls op.seedId calls)
    have consistent' := run_induction Consistent.step consistent (s.calls op.seedId calls)
    rw [run_append]
    rw [skipped] at numbered' consistent' prompt ⊢
    obtain ⟨alike, same⟩ := (alike_skip s calls.length).run numbered numbered' consistent
      consistent' later prompt
    exact ⟨answers, same.symm, alike.unnumbered.symm⟩
  · exact failed_of_again consistent forward (stored ▸ rfl) keeps begun seedId again
  · have tracked : s.Tracked := tracked_run hostname before (timely.of_run numbered between)
    have stays := completed_stays numbered consistent tracked forward stored completed keeps timely
    refine ⟨stays, fun e new begun seedId again => ?_⟩
    have consistent' := run_induction Consistent.step consistent between
    obtain ⟨kept, -⟩ | ⟨w, r', admits⟩ := ((s.run between).step_after e).admits_or consistent'
    · simp [keys_eq_of_tags kept] at begun
    · obtain rfl : r'.key = new := by simpa [admits.keys] using begun
      obtain ⟨q, hq, failed⟩ := admits.failed forward (stays ▸ rfl) seedId again
      obtain rfl := Option.some.inj (stays.symm.trans hq)
      simp [completed] at failed

/-- A backup is requested again, from another server and under another spelling of the method. -/
def backupCall : StageCall Interface.host :=
  ⟨.probed, "MySQLdump", .backup "db3" 3307, .epoch⟩

theorem repeats_backupCall {op : Operation} (method : op.method = .mysqldump) (n : Nat) :
    ∀ call ∈ List.replicate n backupCall, call.Repeats op .backup := by
  intro call hc
  obtain rfl := List.eq_of_mem_replicate hc
  exact ⟨rfl, rfl, Mysqldump.method {} {}, rfl, method.symm, rfl⟩

/-- The backup is aborted, and another request for it comes in. -/
def retried : List (Event Interface.host) :=
  [.abort ⟨1⟩ .backup .epoch, .ask .probed ⟨1⟩ "mysqldump" (.stage (.backup "db2" 3306))]

/-- Two more requests for a running backup change nothing about how it is aborted and retried. The
retry comes after the abort, and the Prepare is not begun again. -/
theorem duplicates_ignored_backingUp :
    let s := (initial "db1").run backingUp
    let again := s.calls ⟨1⟩ (List.replicate 2 backupCall)
    let already : Reply := .ok (.start (.alreadyStarted .backup))
    s.answers again = [none, some already, none, some already] ∧
    (s.run (again ++ retried)).unnumbered = (s.run retried).unnumbered ∧
    (∃ part, part <+: retried ∧ ∃ q, (s.run part).recordOf ⟨⟨1⟩, .backup, 2⟩ = some q ∧
      (q.status = .error ∨ q.status = .cancelled)) ∧
    ∃ r, (s.run retried).recordOf ⟨⟨1⟩, .prepare, 1⟩ = some r ∧ r.status = .completed := by
  intro s again already
  obtain ⟨ignored, failed, stays⟩ := duplicates_ignored "db1" backingUp
  have prompt : (s.run again).PromptRun retried := promptRun_of_few retried (by decide)
  obtain ⟨answers, -, same⟩ := ignored _ .backup _ (List.replicate 2 backupCall) retried rfl rfl
    (.inl rfl) (repeats_backupCall rfl 2) prompt
  have timely : (s.run retried).Timely := by
    rw [← run_append]
    exact (numbered_run "db1" _).timely (by decide)
  obtain ⟨stays, -⟩ := stays ⟨⟨1⟩, .prepare, 1⟩ _ retried rfl (by decide) rfl ⟨rfl, rfl, rfl⟩ timely
  exact ⟨answers, same, failed ⟨⟨1⟩, .backup, 2⟩ _ retried (.serve 0 .epoch) ⟨⟨1⟩, .backup, 3⟩ rfl
    (by decide) ⟨rfl, rfl, rfl⟩ rfl rfl rfl, _, stays, rfl⟩

/-! ## A number that comes round -/

/-- A backup is aborted while its work goes on, and is begun again. -/
def restarted : List (Event Interface.host) :=
  backingUp ++ retried ++ [.serve 0 .epoch]

/-- The second backup fails and a third one begins, but it is the first one that comes to an end. -/
def outrun : List (Event Interface.host) :=
  .stageEnded 2 (.crashed "killed") .epoch :: requested (.stage (.backup "db2" 3306)) ++
    [.stageEnded 1 (.result (.ok ())) .epoch]

/-- So many duplicates that the third backup has the number of the first one. -/
def duplicates : List (StageCall Interface.host) := .replicate (UInt64.size - 2) backupCall

/-- Without a bound on the numbers duplicates can make a difference. -/
theorem exists_duplicates_noticed : ∃ op r,
    let s := (initial "db1").run restarted
    s.coordinator.operation = some op ∧ op.record? .backup = some r ∧ r.status = .running ∧
    (∀ call ∈ duplicates, call.Repeats op .backup) ∧
    (s.run (s.calls op.seedId duplicates ++ outrun)).unnumbered ≠ (s.run outrun).unnumbered := by
  have repeats (op : Operation) (method : op.method = .mysqldump) :
      ∀ call ∈ duplicates, call.Repeats op .backup := repeats_backupCall method (UInt64.size - 2)
  refine ⟨_, _, rfl, rfl, rfl, repeats _ rfl, fun same => ?_⟩
  obtain ⟨skipped, -⟩ :=
    run_repeats (s := (initial "db1").run restarted) rfl rfl rfl duplicates (repeats _ rfl)
  rw [run_append, skipped, duplicates, List.length_replicate] at same
  have status := congrArg (fun u => u.coordinator.operation.map (·.status)) same
  cases status

end Scene

end ReplicaSeed
