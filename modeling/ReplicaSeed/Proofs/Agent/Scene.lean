import ReplicaSeed.Proofs.Agent.Change

/-!
# The coordinator among requests and dispatches

The coordinator does not act on its own: requests come in at any time, and the work that it has
dispatched reports back in any order, also when nobody waits for it any more. A scene is the
coordinator with all this around it, and an event is one thing that can happen next.

A request draws its number first and is admitted later; other requests may come in between. Each
admission, each abort and each report is one step. What an event cannot do (a dispatch that ends a
second time, a report of a dispatch that there is not) changes nothing.

## Main definitions

* `Scene`, `Event`: the coordinator with its surroundings, and what can happen.
* `Scene.after`, `Scene.run`: the scene after one event, and after many.
* `Scene.Step`: everything that an event can do.

## Main statements

* `Scene.step_after`: an event does nothing else.
* `Scene.request_coordinator`: a request that is admitted at once.
-/

namespace ReplicaSeed

/-! ## Scenes -/

/-- What a request wants to have done. -/
inductive Task where
  | stage (request : StageRequest)
  /-- The coordinates of the backup are read. -/
  | coordinates
  deriving DecidableEq, Repr

/-- The stage whose record a task moves. -/
def Task.target : Task → Stage
  | stage request => request.stage
  | coordinates => .metadataFetch

/-- The method that a request names, if the request gets as far as drawing a number. -/
def Task.method {I : Interface} (registry : Registry I) (name : String) :
    Task → Except RequestError (SeedMethod I)
  | stage request => Coordinator.methodFor registry name request
  | coordinates => registry.known name

/-- A request that has drawn its number and waits to be admitted. -/
structure Waiting where
  /-- How many numbers had been drawn when it had its own. Unlike the number this has no bound. -/
  index : Nat
  number : Generation
  id : SeedId
  method : Method
  task : Task
  deriving DecidableEq, Repr

/-- Work that was begun. -/
structure Dispatch where
  /-- The index of the request. -/
  index : Nat
  key : DispatchKey
  method : Method
  task : Task
  /-- The side of the operation at that time. -/
  side : Side
  /-- The processes that it has reported. -/
  processes : List ProcessId := []
  /-- How many numbers had been drawn when it ended, if it has. -/
  ended : Option Nat := none
  deriving DecidableEq, Repr

/-- The coordinator with the requests that wait and the work that was begun. -/
structure Scene where
  coordinator : Coordinator
  /-- How many numbers were drawn. -/
  draws : Nat := 0
  waiting : List Waiting := []
  /-- All dispatches, also those that have ended, in their order. -/
  dispatches : List Dispatch := []
  /-- All processes that dispatches have reported. -/
  processes : ProcessTable := {}
  /-- All records that were published, in their order. -/
  published : List StageRecord := []
  deriving DecidableEq, Repr

/-- What can happen. A dispatch goes by its place among all dispatches, and a waiting request by its
place among those that wait. -/
inductive Event (I : Interface) where
  /-- A request comes in. If it is complete and its method is there, it draws a number. -/
  | ask (registry : Registry I) (id : SeedId) (name : String) (task : Task)
  /-- It is the turn of a waiting request. -/
  | serve (turn : Nat) (now : Instant)
  | abort (id : SeedId) (stage : Stage) (now : Instant)
  | progress (dispatch : Nat) (details : String) (now : Instant)
  /-- A dispatch starts a process and reports it. -/
  | processStarted (dispatch : Nat) (command : String) (now : Instant)
  | processExited (process : ProcessId)
  /-- The work of a stage ends. -/
  | stageEnded (dispatch : Nat) (how : StageEnd) (now : Instant)
  /-- A metadata fetch ends. -/
  | fetchEnded (dispatch : Nat) (result : Except MethodError Coordinates) (now : Instant)

theorem StageEnd.status_ne_running (how : StageEnd) : how.status ≠ .running := by
  unfold StageEnd.status
  split
  · simp
  · split <;> simp
  · simp

theorem fetchStatus_ne_running (result : Except MethodError Coordinates) :
    fetchStatus result ≠ .running := by
  cases result <;> simp [fetchStatus]

/-- The dispatch that an event ends. -/
def Event.endOf {I : Interface} : Event I → Option Nat
  | stageEnded i _ _ => some i
  | fetchEnded i _ _ => some i
  | _ => none

namespace Scene

variable {I : Interface} (s : Scene)

/-- The scene at the start. -/
def initial (hostname : String) : Scene := { coordinator := { hostname } }

/-- A request draws a number and waits. -/
def draw (id : SeedId) (method : Method) (task : Task) : Scene :=
  { s with
    coordinator := s.coordinator.draw
    draws := s.draws + 1
    waiting := s.waiting ++ [⟨s.draws + 1, s.coordinator.draw.generation, id, method, task⟩] }

/-- A request is admitted or refused and waits no longer. -/
def leave (turn : Nat) : Scene := { s with waiting := s.waiting.eraseIdx turn }

/-- The coordinator holds an operation. -/
def hold (op : Operation) : Scene :=
  { s with coordinator := { s.coordinator with operation := some op } }

/-- A record is published. -/
def publish (r : StageRecord) : Scene := { s with published := s.published ++ [r] }

/-- The work of a request begins under the key of its record. -/
def dispatch (w : Waiting) (side : Side) (r : StageRecord) : Scene :=
  { s with
    dispatches := s.dispatches ++ [⟨w.index, r.key, w.method, w.task, side, [], none⟩]
    published := s.published ++ [r] }

/-- A dispatch changes. -/
def change (i : Nat) (f : Dispatch → Dispatch) : Scene :=
  { s with dispatches := s.dispatches.modify i f }

/-- A dispatch ends. -/
def conclude (i : Nat) : Scene := s.change i fun d => { d with ended := some s.draws }

/-- A process is started and a dispatch has reported it. -/
def enroll (i : Nat) (command : String) : Scene :=
  { s.change i fun d => { d with processes := d.processes ++ [s.processes.next] } with
    processes := s.processes.start command }

/-- A waiting request is admitted. -/
def serve (turn : Nat) (w : Waiting) (now : Instant) : Scene :=
  match w.task with
  | .stage request =>
    match s.coordinator.startAs w.number w.method w.id request now with
    | (c, .ok (.dispatched r side)) =>
      { s.leave turn with coordinator := c }.dispatch w side r
    | (c, _) => { s.leave turn with coordinator := c }
  | .coordinates =>
    match s.coordinator.beginMetadataAs w.number w.method w.id now with
    | (c, .ok r) => { s.leave turn with coordinator := c }.dispatch w r.side r
    | (c, .error _) => { s.leave turn with coordinator := c }

/-- Someone asks to stop a stage. -/
def abort (id : SeedId) (stage : Stage) (now : Instant) : Scene :=
  match s.coordinator.abort s.processes.isFinished id stage now with
  | .error _ => s
  | .ok (c, r, p) =>
    { s with coordinator := c, processes := s.processes.cancel p }.publish r

/-- A dispatch reports progress. -/
def progress (d : Dispatch) (details : String) (now : Instant) : Scene :=
  match s.coordinator.progress d.key details now with
  | none => s
  | some (c, r) => { s with coordinator := c }.publish r

/-- A dispatch starts a process and reports it. -/
def processStarted (i : Nat) (d : Dispatch) (command : String) (now : Instant) : Scene :=
  let t := s.enroll i command
  match s.coordinator.processStarted d.key s.processes.next now with
  | none => { t with processes := t.processes.cancel s.processes.next }
  | some c => { t with coordinator := c }

/-- A dispatch ends and reports how. -/
def finish (i : Nat) (d : Dispatch) (status : Status) (details : String) (now : Instant) : Scene :=
  match s.coordinator.finish d.key status details now with
  | none => s.conclude i
  | some (c, r) => { s.conclude i with coordinator := c }.publish r

/-- The scene after an event. -/
def after : Event I → Scene
  | .ask registry id name task =>
    match task.method registry name with
    | .error _ => s
    | .ok m => s.draw id m.kind task
  | .serve turn now =>
    match s.waiting[turn]? with
    | none => s
    | some w => s.serve turn w now
  | .abort id stage now => s.abort id stage now
  | .progress i details now =>
    match s.dispatches[i]? with
    | none => s
    | some d => if d.task = .coordinates then s else s.progress d details now
  | .processStarted i command now =>
    match s.dispatches[i]? with
    | none => s
    | some d => if d.task = .coordinates then s else s.processStarted i d command now
  | .processExited p => { s with processes := s.processes.exit p }
  | .stageEnded i how now =>
    match s.dispatches[i]? with
    | none => s
    | some d =>
      if d.task = .coordinates ∨ d.ended.isSome then s
      else s.finish i d how.status (how.details d.key.stage) now
  | .fetchEnded i result now =>
    match s.dispatches[i]? with
    | none => s
    | some d =>
      if d.task ≠ .coordinates ∨ d.ended.isSome then s
      else s.finish i d (fetchStatus result) (fetchDetails result) now

/-- The scene after a run of events. -/
def run (events : List (Event I)) : Scene := events.foldl after s

@[simp] theorem run_nil : s.run ([] : List (Event I)) = s := rfl

@[simp] theorem run_cons (e : Event I) (events : List (Event I)) :
    s.run (e :: events) = (s.after e).run events := rfl

theorem run_append (before events : List (Event I)) :
    s.run (before ++ events) = (s.run before).run events :=
  List.foldl_append ..

/-! ## What an event can do -/

/-- Everything that an event can do. -/
inductive Step (s : Scene) : Event I → Scene → Prop where
  | idle (e : Event I) : Step s e s
  | draw {registry : Registry I} {id : SeedId} {name : String} {task : Task} {m : SeedMethod I}
      (known : task.method registry name = .ok m) :
      Step s (.ask registry id name task) (s.draw id m.kind task)
  /-- A waiting request is refused. -/
  | leave {turn : Nat} {now : Instant} : Step s (.serve turn now) (s.leave turn)
  /-- A waiting request begins a stage. -/
  | start {turn : Nat} {now : Instant} {w : Waiting} {request : StageRequest} {op : Operation}
      (waits : s.waiting[turn]? = some w) (task : w.task = .stage request)
      (concerns : s.coordinator.Concerns w.id w.method request op)
      (free : ∀ r, op.record? request.stage = some r → r.status.blocksRestart = false)
      (allowed : op.phase.allows request.stage) :
      Step s (.serve turn now)
        (((s.leave turn).hold (s.coordinator.entered op request w.number now)).dispatch w
          (Coordinator.requestedSide op request)
          (s.coordinator.firstRecord op request w.number now))
  /-- A waiting request begins a metadata fetch. -/
  | fetch {turn : Nat} {now : Instant} {w : Waiting} {op : Operation} {b : StageRecord}
      (waits : s.waiting[turn]? = some w) (task : w.task = .coordinates)
      (held : s.coordinator.operation = some op) (seedId : op.seedId = w.id)
      (method : op.method = w.method) (backup : op.record? .backup = some b)
      (completed : b.status = .completed) :
      Step s (.serve turn now)
        (((s.leave turn).hold
          (op.withRecord .metadataFetch (s.coordinator.fetchRecord op w.number now))).dispatch w
          op.side (s.coordinator.fetchRecord op w.number now))
  | abort {id : SeedId} {stage : Stage} {now : Instant} {op : Operation} {q r : StageRecord}
      {p : ProcessId} (held : s.coordinator.operation = some op) (seedId : op.seedId = id)
      (found : op.record? stage = some q) (running : q.status = .running)
      (process : q.process = some p) (live : s.processes.isFinished p = false)
      (settled : r = q.settle .cancelled (stage.name ++ " aborted") now) :
      Step s (.abort id stage now)
        { (s.hold (op.endStage stage r)).publish r with processes := s.processes.cancel p }
  | progress {i : Nat} {details : String} {now : Instant} {d : Dispatch} {op : Operation}
      {q r : StageRecord} (dispatch : s.dispatches[i]? = some d) (task : d.task ≠ .coordinates)
      (found : s.coordinator.recordOf? d.key = some (op, q)) (running : q.status = .running)
      (changed : r = { q with details, updatedAt := now }) :
      Step s (.progress i details now) ((s.hold (op.withRecord d.key.stage r)).publish r)
  /-- A process is reported and stored. -/
  | attach {i : Nat} {command : String} {now : Instant} {d : Dispatch} {op : Operation}
      {q r : StageRecord} (dispatch : s.dispatches[i]? = some d) (task : d.task ≠ .coordinates)
      (found : s.coordinator.recordOf? d.key = some (op, q)) (running : q.status = .running)
      (changed : r = { q with process := some s.processes.next, updatedAt := now }) :
      Step s (.processStarted i command now)
        ((s.enroll i command).hold (op.withRecord d.key.stage r))
  /-- A process is reported and cancelled. -/
  | reject {i : Nat} {command : String} {now : Instant} {d : Dispatch}
      (dispatch : s.dispatches[i]? = some d) (task : d.task ≠ .coordinates)
      (lost : ∀ op q, s.coordinator.recordOf? d.key = some (op, q) → q.status ≠ .running) :
      Step s (.processStarted i command now)
        { s.enroll i command with
          processes := (s.processes.start command).cancel s.processes.next }
  | exit {p : ProcessId} : Step s (.processExited p) { s with processes := s.processes.exit p }
  /-- A dispatch ends and settles its record. -/
  | settle {e : Event I} {i : Nat} {d : Dispatch} {op : Operation} {q r : StageRecord}
      {status : Status} {details : String} {now : Instant} (ends : e.endOf = some i)
      (dispatch : s.dispatches[i]? = some d) (underWay : d.ended = none)
      (found : s.coordinator.recordOf? d.key = some (op, q)) (uncancelled : q.status ≠ .cancelled)
      (terminal : status ≠ .running) (settled : r = q.settle status details now) :
      Step s e (((s.conclude i).hold (op.endStage d.key.stage r)).publish r)
  /-- A dispatch ends, and its record is gone or cancelled. -/
  | conclude {e : Event I} {i : Nat} {d : Dispatch} (ends : e.endOf = some i)
      (dispatch : s.dispatches[i]? = some d) (underWay : d.ended = none)
      (lost : ∀ op q, s.coordinator.recordOf? d.key = some (op, q) → q.status = .cancelled) :
      Step s e (s.conclude i)

theorem step_serve {s : Scene} {turn : Nat} {w : Waiting} (waits : s.waiting[turn]? = some w)
    (now : Instant) : s.Step (.serve turn now : Event I) (s.serve turn w now) := by
  unfold serve
  split
  · rename_i request task
    obtain ⟨e, refused⟩ | ⟨op, r, -, -, -, -, -, already⟩ | ⟨op, concerns, free, allowed, begun⟩ :=
      s.coordinator.startAs_cases w.number w.method w.id request now
    · rw [refused]
      exact .leave
    · rw [already]
      exact .leave
    · rw [begun]
      exact .start waits task concerns free allowed
  · rename_i task
    obtain ⟨e, refused⟩ | ⟨op, b, held, seedId, method, backup, completed, begun⟩ :=
      s.coordinator.beginMetadataAs_cases w.number w.method w.id now
    · rw [refused]
      exact .leave
    · rw [begun]
      exact .fetch waits task held seedId method backup completed

theorem step_abort (s : Scene) (id : SeedId) (stage : Stage) (now : Instant) :
    s.Step (.abort id stage now : Event I) (s.abort id stage now) := by
  unfold abort
  split
  · exact .idle _
  · rename_i c r p aborted
    obtain ⟨op, q, held, seedId, found, running, process, live, settled, rfl⟩ :=
      Coordinator.abort_ok aborted
    exact .abort held seedId found running process live settled

theorem step_progress {s : Scene} {i : Nat} {d : Dispatch} (dispatch : s.dispatches[i]? = some d)
    (task : d.task ≠ .coordinates) (details : String) (now : Instant) :
    s.Step (.progress i details now : Event I) (s.progress d details now) := by
  unfold progress
  split
  · exact .idle _
  · rename_i c r counted
    obtain ⟨op, q, found, running, changed, rfl⟩ := Coordinator.progress_eq_some_iff.1 counted
    exact .progress dispatch task found running changed

theorem step_processStarted {s : Scene} {i : Nat} {d : Dispatch}
    (dispatch : s.dispatches[i]? = some d) (task : d.task ≠ .coordinates) (command : String)
    (now : Instant) :
    s.Step (.processStarted i command now : Event I) (s.processStarted i d command now) := by
  unfold processStarted
  split
  · rename_i lost
    exact .reject dispatch task fun op q found => Coordinator.processStarted_eq_none lost found
  · rename_i c counted
    obtain ⟨op, q, found, running, rfl⟩ := Coordinator.processStarted_eq_some_iff.1 counted
    exact .attach dispatch task found running rfl

theorem step_finish {s : Scene} {e : Event I} {i : Nat} {d : Dispatch} (ends : e.endOf = some i)
    (dispatch : s.dispatches[i]? = some d) (underWay : d.ended = none) {status : Status}
    (terminal : status ≠ .running) (details : String) (now : Instant) :
    s.Step e (s.finish i d status details now) := by
  unfold finish
  split
  · rename_i lost
    exact .conclude ends dispatch underWay fun op q found =>
      Coordinator.finish_eq_none lost found
  · rename_i c r counted
    obtain ⟨op, q, found, uncancelled, settled, rfl⟩ :=
      Coordinator.finish_eq_some_iff.1 counted
    exact .settle ends dispatch underWay found uncancelled terminal settled

/-- An event does nothing but what `Step` says. -/
theorem step_after (s : Scene) (e : Event I) : s.Step e (s.after e) := by
  cases e with
  | ask registry id name task =>
    simp only [after]
    split
    · exact .idle _
    · exact .draw ‹_›
  | serve turn now =>
    simp only [after]
    split
    · exact .idle _
    · exact step_serve ‹_› now
  | abort id stage now => exact s.step_abort id stage now
  | progress i details now =>
    simp only [after]
    split
    · exact .idle _
    · split
      · exact .idle _
      · exact step_progress ‹_› ‹_› details now
  | processStarted i command now =>
    simp only [after]
    split
    · exact .idle _
    · split
      · exact .idle _
      · exact step_processStarted ‹_› ‹_› command now
  | processExited p => exact .exit
  | stageEnded i how now =>
    simp only [after]
    split
    · exact .idle _
    · split
      · exact .idle _
      · rename_i d dispatch counts
        simp only [not_or, Option.not_isSome_iff_eq_none] at counts
        exact step_finish rfl dispatch counts.2 how.status_ne_running _ now
  | fetchEnded i result now =>
    simp only [after]
    split
    · exact .idle _
    · split
      · exact .idle _
      · rename_i d dispatch counts
        simp only [not_or, Option.not_isSome_iff_eq_none] at counts
        exact step_finish rfl dispatch counts.2 (fetchStatus_ne_running result) _ now

/-- What every event keeps holds after every run. -/
theorem run_induction {P : Scene → Prop}
    (step : ∀ {s t : Scene} {e : Event I}, P s → s.Step e t → P t) {s : Scene} (start : P s)
    (events : List (Event I)) : P (s.run events) := by
  induction events generalizing s with
  | nil => exact start
  | cons e events ih => exact ih (step start (s.step_after e))

/-! ## Requests that are admitted at once -/

/-- A request that finds no other in its way does to the coordinator what `Coordinator.request` and
`Coordinator.requestMetadata` say. -/
theorem request_coordinator (s : Scene) (registry : Registry I) (id : SeedId) (name : String)
    (task : Task) (now : Instant) :
    (s.run [.ask registry id name task, .serve s.waiting.length now]).coordinator =
      match task with
      | .stage request => (s.coordinator.request registry id name request now).1
      | .coordinates => (s.coordinator.requestMetadata registry id name now).1 := by
  have turn (m : SeedMethod I) :
      (s.draw id m.kind task).waiting[s.waiting.length]? =
        some ⟨s.draws + 1, s.coordinator.draw.generation, id, m.kind, task⟩ :=
    List.getElem?_concat_length
  cases task with
  | stage request =>
    cases known : Coordinator.methodFor registry name request with
    | error e => simp [after, Task.method, known, Coordinator.request]
    | ok m =>
      simp only [run_cons, run_nil, after, Task.method, known, turn, serve, Coordinator.request,
        Coordinator.start]
      split <;> simp_all [dispatch, draw]
  | coordinates =>
    cases known : registry.known name with
    | error e => simp [after, Task.method, known, Coordinator.requestMetadata]
    | ok m =>
      simp only [run_cons, run_nil, after, Task.method, known, turn, serve,
        Coordinator.requestMetadata, Coordinator.beginMetadata]
      split <;> simp_all [dispatch, draw]

end Scene

/-! ## Requests to run -/

/-- The registry of the default configuration once a probe has found the tools. -/
def Registry.probed : Registry Interface.host := (ofConfig {} {}).publish .mysqldump ⟨true, none⟩

namespace Scene

/-- A request comes in and is admitted at once. -/
def requested (task : Task) : List (Event Interface.host) :=
  [.ask .probed ⟨1⟩ "mysqldump" task, .serve 0 .epoch]

/-- A stage is requested, and the dispatch in place `i` that it leads to ends well. -/
def performed (i : Nat) (request : StageRequest) : List (Event Interface.host) :=
  requested (.stage request) ++ [.stageEnded i (.result (.ok ())) .epoch]

end Scene

end ReplicaSeed
