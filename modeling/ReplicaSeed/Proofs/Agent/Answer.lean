import ReplicaSeed.Proofs.Agent.Scene

/-!
# What callers are told

A call is answered by one of its events: when the request comes in, when its turn comes, or, if it
is for coordinates, when the fetch has ended. A call that is answered by a refusal has done nothing,
although its checks come in between steps that replace the held operation or take the process out
of a record.

## Main definitions

* `Scene.answer`, `Scene.answers`: what the events of a run tell their callers.
* `Scene.call`: the events of a call that finds no other in its way.
* `Declined`: the answers that say that nothing was done.
* `Scene.Untouched`: nothing was done.

## Main statements

* `Scene.mem_answers_call_start`: the answer to a request that finds no other in its way.
* `Scene.untouched_of_declined`: an event that declines its call does nothing.
* `Scene.declined_call_untouched`: nor does a declined call.
-/

namespace ReplicaSeed

/-- The request was refused before anything was done for it. -/
def RequestError.isRefusal : RequestError → Bool
  | invalidRequest _ | unknownMethod _ | methodUnavailable _ | seedNotFound _ | stageNotFound ..
  | methodMismatch .. | operationRunning .. | invalidTransition .. | notRunning ..
  | stageNotCompleted .. => true
  | method _ | exec _ | controlPlane _ => false

/-- What a caller is told. -/
abbrev Reply := Except RequestError AgentAnswer

/-- The answers that say that nothing was done: a refusal, and that the stage was started before. -/
inductive Declined : Reply → Prop where
  | already (stage : Stage) : Declined (.ok (.start (.alreadyStarted stage)))
  | refused {e : RequestError} (refusal : e.isRefusal) : Declined (.error e)

namespace Scene

variable {I : Interface} (s : Scene)

/-! ## Answers -/

/-- The answer to a waiting request whose turn it is. One for coordinates that is admitted waits
on, for the end of its fetch. -/
def reply (w : Waiting) (now : Instant) : Option Reply :=
  match w.task with
  | .stage request =>
    some ((s.coordinator.startAs w.number w.method w.id request now).2.map fun start =>
      .start start.outcome)
  | .coordinates =>
    match (s.coordinator.beginMetadataAs w.number w.method w.id now).2 with
    | .error e => some (.error e)
    | .ok _ => none

/-- The answer that an event gives, if it gives one. -/
def answer : Event I → Option Reply
  | .ask registry _ name task =>
    match task.method registry name with
    | .error e => some (.error e)
    | .ok _ => none
  | .serve turn now => (s.waiting[turn]?).bind fun w => s.reply w now
  | .abort id stage now =>
    some ((s.coordinator.abort s.processes.isFinished id stage now).map fun _ => .aborted id stage)
  | .fetchEnded i result _ =>
    (s.dispatches[i]?).bind fun d =>
      if d.task ≠ .coordinates ∨ d.ended.isSome then none
      else some ((result.mapError .method).map .coordinates)
  | .progress .. | .processStarted .. | .processExited _ | .stageEnded .. => none

/-- The answers that the events of a run give, event by event. -/
def answers : Scene → List (Event I) → List (Option Reply)
  | _, [] => []
  | s, e :: events => s.answer e :: (s.after e).answers events

@[simp] theorem answers_nil : s.answers ([] : List (Event I)) = [] := rfl

@[simp] theorem answers_cons (e : Event I) (events : List (Event I)) :
    s.answers (e :: events) = s.answer e :: (s.after e).answers events := rfl

theorem answers_append (before events : List (Event I)) :
    s.answers (before ++ events) = s.answers before ++ (s.run before).answers events := by
  induction before generalizing s with
  | nil => rfl
  | cons e before ih => simp [ih]

/-- The events of a call that finds no other in its way. -/
def call (registry : Registry I) (now : Instant) : AgentRequest → List (Event I)
  | .start id name request =>
    [.ask registry id name (.stage request), .serve s.waiting.length now]
  | .metadata id name => [.ask registry id name .coordinates, .serve s.waiting.length now]
  | .abort id stage => [.abort id stage now]
  | .stage .. | .operation | .methods => []

/-! ## Calls that do nothing -/

/-- The held operation, what was published, the work and the processes are what they were. Only the
numbers that were drawn and the requests that wait may be others. -/
structure Untouched (s t : Scene) : Prop where
  operation : t.coordinator.operation = s.coordinator.operation
  published : t.published = s.published
  dispatches : t.dispatches = s.dispatches
  processes : t.processes = s.processes

variable {s} {t u : Scene} {e : Event I} {a : Reply}

theorem Untouched.refl (s : Scene) : s.Untouched s := ⟨rfl, rfl, rfl, rfl⟩

theorem Untouched.trans (h : s.Untouched t) (g : t.Untouched u) : s.Untouched u where
  operation := g.operation.trans h.operation
  published := g.published.trans h.published
  dispatches := g.dispatches.trans h.dispatches
  processes := g.processes.trans h.processes

theorem untouched_leave (s : Scene) (turn : Nat) : s.Untouched (s.leave turn) :=
  ⟨rfl, rfl, rfl, rfl⟩

/-- A request that comes in is refused or draws a number. -/
theorem untouched_ask (s : Scene) (registry : Registry I) (id : SeedId) (name : String)
    (task : Task) : s.Untouched (s.after (.ask registry id name task)) := by
  simp only [after]
  split
  · exact .refl s
  · exact ⟨rfl, rfl, rfl, rfl⟩

/-- A waiting request that is declined just leaves. -/
theorem serve_of_declined {w : Waiting} {turn : Nat} {now : Instant}
    (answered : s.reply w now = some a) (declined : Declined a) :
    s.serve turn w now = s.leave turn := by
  cases task : w.task with
  | stage request =>
    simp only [reply, task, Option.some.injEq] at answered
    simp only [serve, task]
    obtain ⟨e, refused⟩ | ⟨op, r, -, -, -, -, -, already⟩ | ⟨op, -, -, -, begun⟩ :=
      s.coordinator.startAs_cases w.number w.method w.id request now
    · rw [refused]
      rfl
    · rw [already]
      rfl
    · rw [begun] at answered
      subst answered
      cases declined
  | coordinates =>
    simp only [reply, task] at answered
    simp only [serve, task]
    obtain ⟨e, refused⟩ | ⟨op, b, -, -, -, -, -, begun⟩ :=
      s.coordinator.beginMetadataAs_cases w.number w.method w.id now
    · rw [refused]
      rfl
    · simp [begun] at answered

/-- An abort that is declined does nothing. -/
theorem abort_of_declined {id : SeedId} {stage : Stage} {now : Instant}
    (answered : s.answer (.abort id stage now : Event I) = some a) (declined : Declined a) :
    s.abort id stage now = s := by
  unfold abort
  split
  · rfl
  · rename_i c r p aborted
    rw [answer, aborted] at answered
    cases answered
    cases declined

/-- The end of a fetch is never declined: by then the call was admitted long ago. -/
theorem not_declined_of_fetchEnded {i : Nat} {result : Except MethodError Coordinates}
    {now : Instant} (answered : s.answer (.fetchEnded i result now : Event I) = some a) :
    ¬ Declined a := by
  obtain ⟨d, -, answered⟩ := Option.bind_eq_some_iff.1 answered
  split at answered
  · cases answered
  · cases result with
    | ok c =>
      cases answered
      rintro ⟨⟩
    | error e =>
      cases answered
      rintro ⟨⟩
      contradiction

/-- An event that declines its call does nothing. -/
theorem untouched_of_declined (answered : s.answer e = some a) (declined : Declined a) :
    s.Untouched (s.after e) := by
  cases e with
  | ask registry id name task => exact s.untouched_ask registry id name task
  | serve turn now =>
    obtain ⟨w, waits, answered⟩ := Option.bind_eq_some_iff.1 answered
    simp only [after, waits, serve_of_declined answered declined]
    exact s.untouched_leave turn
  | abort id stage now =>
    simp only [after, abort_of_declined answered declined]
    exact .refl s
  | fetchEnded i result now => exact absurd declined (not_declined_of_fetchEnded answered)
  | _ => cases answered

/-- A request for a stage that finds no other in its way gets the answer of the coordinator. -/
theorem mem_answers_call_start (s : Scene) (registry : Registry I) (id : SeedId) (name : String)
    (request : StageRequest) (now : Instant) :
    some ((s.coordinator.request registry id name request now).2.map fun (start, _) =>
      .start start.outcome) ∈ s.answers (s.call registry now (.start id name request)) := by
  cases known : Coordinator.methodFor registry name request with
  | error e => simp [call, answer, Task.method, known, Coordinator.request, Except.map]
  | ok m =>
    have turn : (s.draw id m.kind (.stage request)).waiting[s.waiting.length]? =
        some ⟨s.draws + 1, s.coordinator.draw.generation, id, m.kind, .stage request⟩ :=
      List.getElem?_concat_length
    simp only [call, answers_cons, answers_nil, answer, after, Task.method, known, turn,
      Option.bind_some, reply, Coordinator.request, Coordinator.start]
    have drawn : (s.draw id m.kind (.stage request)).coordinator = s.coordinator.draw := rfl
    rw [drawn]
    refine List.mem_cons_of_mem _ (List.mem_singleton.2 (congrArg some ?_))
    cases (s.coordinator.draw.startAs s.coordinator.draw.generation m.kind id request now).2 <;> rfl

/-- Of the two events of a request the first one refuses it, and then the second does nothing, or
the second one answers it. -/
theorem untouched_request (registry : Registry I) (id : SeedId) (name : String) (task : Task)
    (now : Instant)
    (answered : some a ∈
      s.answers [.ask registry id name task, .serve s.waiting.length now]) (declined : Declined a) :
    s.Untouched (s.run [.ask registry id name task, .serve s.waiting.length now]) := by
  rw [run_cons, run_cons, run_nil]
  simp only [answers_cons, answers_nil, List.mem_cons, List.not_mem_nil, or_false] at answered
  obtain first | second := answered
  · have refused : s.after (.ask registry id name task : Event I) = s := by
      simp only [answer, after] at first ⊢
      split <;> simp_all
    have nobody : s.waiting[s.waiting.length]? = none := List.getElem?_eq_none (Nat.le_refl _)
    rw [refused]
    simp only [after, nobody]
    exact .refl s
  · exact (s.untouched_ask registry id name task).trans (untouched_of_declined second.symm declined)

/-- A call that is refused, or that asks for a stage that was started before, does nothing to the
held operation, to what was published, to the work and to the processes. That is so if it finds no
other call in its way, and if anything happens between its two events. -/
theorem declined_call_untouched (hostname : String) (events : List (Event I)) :
    let s := (initial hostname).run events
    (∀ (registry : Registry I) (now : Instant) (q : AgentRequest) (a : Reply),
      some a ∈ s.answers (s.call registry now q) → Declined a →
      s.Untouched (s.run (s.call registry now q))) ∧
    (∀ (registry : Registry I) (id : SeedId) (name : String) (task : Task),
      s.Untouched (s.after (.ask registry id name task))) ∧
    ∀ (e : Event I) (a : Reply), s.answer e = some a → Declined a → s.Untouched (s.after e) := by
  intro s
  refine ⟨fun registry now q a answered declined => ?_, s.untouched_ask,
    fun e a => untouched_of_declined⟩
  cases q with
  | start id name request =>
    exact untouched_request registry id name (.stage request) now answered declined
  | metadata id name => exact untouched_request registry id name .coordinates now answered declined
  | abort id stage =>
    rw [call, answers_cons, answers_nil, List.mem_singleton] at answered
    exact untouched_of_declined answered.symm declined
  | _ => exact absurd answered List.not_mem_nil

/-- A Prepare of another operation that comes in while a stage is running leaves the held operation
in place. -/
theorem declined_call_untouched_preparing :
    let s := (initial "db1").run (requested (.stage (.prepare .target)))
    s.Untouched (s.run (s.call .probed .epoch (.start ⟨2⟩ "mysqldump" (.prepare .source)))) := by
  obtain ⟨calls, -, -⟩ := declined_call_untouched "db1" (requested (.stage (.prepare .target)))
  refine calls .probed .epoch (.start ⟨2⟩ "mysqldump" (.prepare .source))
    (.error (.operationRunning ⟨1⟩ .prepare)) ?_ (.refused rfl)
  exact List.mem_cons_of_mem _ (List.mem_singleton.2 rfl)

end Scene

end ReplicaSeed
