import ReplicaSeed.Agent.Feed
import ReplicaSeed.Agent.Identity
import ReplicaSeed.Agent.Request
import ReplicaSeed.Execution.FileTree
import ReplicaSeed.Http.Router
import ReplicaSeed.Rehearsal.Double
import ReplicaSeed.Rehearsal.Recorder
import ReplicaSeed.Rehearsal.Server

/-!
# The world of a rehearsal

The agent with everything around it: recorded commands, a rehearsed database, files, and a clock
that is turned by hand. Here procedures are run as far as they get: a request is answered, or it
leaves the procedure paused.

## Main definitions

* `World`: the agent and its surroundings.
* `Job`, `Sleeper`, `Holder`: the work that is still to be done.
* `World.respond`: the reaction to a request.
* `World.run`: a procedure, up to its end or its next pause.
-/

namespace ReplicaSeed.Rehearsal

/-- Who hears of the processes and the progress of a procedure. -/
inductive Observer where
  /-- The coordinator, under the key of the dispatch. -/
  | stage (key : DispatchKey)
  /-- The caller, who may cancel each process as it starts. -/
  | caller (cancel : Bool)
  | nobody
  deriving DecidableEq, Repr

/-- What a paused procedure waits for. -/
inductive Pause where
  /-- The process is cancelled. -/
  | process (id : ProcessId)
  /-- The method is released. -/
  | gate (kind : Method)
  /-- Others had their turn while a file is read or written. -/
  | file
  /-- So many milliseconds have gone by. -/
  | timer (limit : Nat)
  deriving DecidableEq, Repr

/-- The reaction to a request. -/
inductive Reaction (α : Type) where
  | answer (a : α)
  /-- The answer comes after a pause. -/
  | later (pause : Pause) (a : α)
  | never
  | crash

/-- How far a procedure got. -/
inductive Progress (α : Type) where
  | ended (result : Except MethodError α)
  | paused (pause : Pause) (rest : Act α)
  /-- It waits for what never comes. -/
  | stuck
  | crashed

/-- What is ready to be done. -/
inductive Job where
  /-- Starts the work of a dispatch. -/
  | launch (key : DispatchKey) (work : Act Unit)
  /-- Does the work of a dispatch, or goes on with it. -/
  | work (key : DispatchKey) (rest : Act Unit)
  /-- Looks whether a process was cancelled. -/
  | poll (key : DispatchKey) (process : ProcessId) (rest : Act Unit)
  /-- Reports the end of a dispatch. -/
  | settle (key : DispatchKey) (how : StageEnd)
  /-- Writes the event log. -/
  | log

/-- A job that is due at a point in time. -/
structure Sleeper where
  due : Nat
  job : Job

/-- A dispatch that waits for a release of its method. -/
structure Holder where
  kind : Method
  key : DispatchKey
  rest : Act Unit

/-- The agent and its surroundings. -/
structure World where
  /-- The milliseconds since the start. -/
  now : Nat := 0
  site : Site
  router : Http.Router
  identity : Identity
  coordinator : Coordinator
  registry : Registry Interface.rehearsal
  recorder : Recorder := {}
  server : Server := {}
  files : FileTree := {}
  /-- The directory that relative paths are seen from. -/
  workDir : FilePlace := []
  processes : ProcessTable := {}
  scripted : List ScriptedState := []
  /-- The progress that callers have heard of. -/
  progress : List String := []
  /-- The processes that callers have heard of. -/
  started : List ProcessId := []
  feed : Feed := {}
  /-- The event log, if there is one. -/
  log : Option (List FeedItem) := none
  /-- How many records the writer of the log has seen, and whether it waits for more. -/
  logPosition : Nat := 0
  logParked : Bool := false
  /-- The jobs that are ready, in the order in which they are done. -/
  ready : List Job := []
  sleepers : List Sleeper := []
  holders : List Holder := []
  /-- The jobs that go on when a file was read or written. -/
  fileJobs : List Job := []
  /-- The dispatches that wait for what never comes. -/
  lost : List DispatchKey := []

namespace World

variable (w : World)

/-- The point in time, as records show it. -/
def instant : Instant := Instant.epoch.after (.millis w.now)

/-- Puts a job at the end of the queue. -/
def push (job : Job) : World := { w with ready := w.ready ++ [job] }

/-- Publishes a record; the writer of the log wakes up if it waits. -/
def publish (r : StageRecord) : World :=
  let w := { w with feed := w.feed.publish r }
  if w.log.isSome ∧ w.logParked then { w with logParked := false }.push .log else w

/-- The script of a method. -/
def script? (kind : Method) : Option ScriptedState := w.scripted.find? fun s => s.kind == kind

/-- The world where the script of a method has changed. -/
def changeScript (kind : Method) (f : ScriptedState → ScriptedState) : World :=
  { w with scripted := w.scripted.map fun s => if s.kind = kind then f s else s }

/-! ## Requests -/

/-- A report of progress. -/
def hear (o : Observer) (text : String) : World :=
  match o with
  | .stage key =>
    match w.coordinator.progress key text w.instant with
    | some (c, record) => { w with coordinator := c }.publish record
    | none => w
  | .caller _ => { w with progress := w.progress ++ [text] }
  | .nobody => w

/-- A report of a new process. One that does not count is cancelled. -/
def hearProcess (o : Observer) (id : ProcessId) : World :=
  let cancelled := { w with processes := w.processes.cancel id }
  match o with
  | .stage key =>
    match w.coordinator.processStarted key id w.instant with
    | some c => { w with coordinator := c }
    | none => cancelled
  | .caller cancel =>
    let w := if cancel then cancelled else w
    { w with started := w.started ++ [id] }
  | .nobody => w

/-- How a process ends: what it was asked to stop for counts before its own result. -/
def processResult (id : ProcessId) (line : String) (reply : Reply) : Except ExecError Unit :=
  if w.processes.isCancelled id then .error (.cancelled line)
  else (reply.result line).map fun _ => ()

/-- The world after the end of a process. -/
def exit (id : ProcessId) : World := { w with processes := w.processes.exit id }

/-- Runs the command of a stage. -/
def exec (o : Observer) (line : String) (elevate : Bool) :
    World × Reaction (Except ExecError Unit) :=
  match w.recorder.record ⟨line, elevate, true⟩ with
  | (recorder, .error e) => ({ w with recorder }, .answer (.error e))
  | (recorder, .ok reply) =>
    let id := w.processes.next
    let w := { w with recorder, processes := w.processes.start line }.hearProcess o id
    if reply = .block ∧ !w.processes.isCancelled id then
      (w, .later (.process id) (.error (.cancelled line)))
    else (w.exit id, .answer (w.processResult id line reply))

/-- Runs a short command. -/
def capture (line : String) (elevate : Bool) : World × Except ExecError Output :=
  let (recorder, result) := w.recorder.run line elevate
  ({ w with recorder }, result)

/-- The reaction to a request to the host. -/
def respondHost (o : Observer) :
    (q : HostRequest) → World × Reaction q.Answer
  | .note text => (w.hear o text, .answer ())
  | .exec line elevate => w.exec o line.text elevate
  | .capture line elevate =>
    let (w, result) := w.capture line.text elevate
    (w, .answer result)
  | .probe line elevate _ =>
    let (w, result) := w.capture line.text elevate
    (w, .answer result.toOption)
  | .database call =>
    match w.server.perform call with
    | (server, some result) => ({ w with server }, .answer result)
    | (server, none) => ({ w with server }, .never)
  | .probeDatabase call limit =>
    match w.server.perform call with
    | (server, some result) => ({ w with server }, .answer result.toOption)
    | (server, none) => ({ w with server }, .later (.timer (limit.nanos / 1000000)) none)
  | .readFile path => (w, .later .file (w.files.read w.workDir path))
  | .writeFile path content =>
    match w.files.write w.workDir path (Text.encode content.toList) with
    | .ok files => ({ w with files }, .later .file (.ok ()))
    | .error fault => (w, .later .file (.error fault))

/-- The reaction to a request that only rehearsed methods make. -/
def respondDouble : (q : DoubleRequest) → World × Reaction q.Answer
  | .play kind stage side =>
    let w := w.changeScript kind fun s => { s with calls := s.calls ++ [(stage, side)] }
    (w, .answer (((w.script? kind).bind fun s => s.scripts.get? stage).getD .succeed))
  | .hold kind =>
    if (w.script? kind).any (·.released) then
      (w.changeScript kind fun s => { s with released := false }, .answer ())
    else (w, .later (.gate kind) ())
  | .coordinates kind =>
    let w := w.changeScript kind fun s => { s with calls := s.calls ++ [(.metadataFetch, none)] }
    (w, .answer ((w.script? kind).bind (·.coordinates)))
  | .available kind => (w, .answer ((w.script? kind).any (·.available)))
  | .crash => (w, .crash)

/-- The reaction to a request. -/
def respond (o : Observer) :
    (q : Interface.rehearsal.Request) → World × Reaction (Interface.rehearsal.Answer q)
  | .inl q => w.respondHost o q
  | .inr q => w.respondDouble q

/-- Runs a procedure up to its end or its next pause. -/
def run {α : Type} (o : Observer) : Act α → World → World × Progress α
  | .done a, w => (w, .ended (.ok a))
  | .fail e, w => (w, .ended (.error e))
  | .ask q next, w =>
    match w.respond o q with
    | (w, .answer a) => run o (next a) w
    | (w, .later pause a) => (w, .paused pause (next a))
    | (w, .never) => (w, .stuck)
    | (w, .crash) => (w, .crashed)

end World

end ReplicaSeed.Rehearsal
