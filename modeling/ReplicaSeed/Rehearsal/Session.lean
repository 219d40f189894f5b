import ReplicaSeed.Method.Registry
import ReplicaSeed.Rehearsal.Schedule

/-!
# Rehearsals

An agent is set up from its configuration and then led through requests, direct calls of its
methods, and changes of its surroundings.

## Main definitions

* `World.ofConfig`: the agent at the start.
* `World.start`, `World.fetch`, `World.abort`, `World.answer`, `World.serve`: requests to the agent.
* `World.refresh`, `World.direct`: probes and direct calls of methods.
* `World.release`: lets a stage go on that waits.
* `Report`: what has happened between two points of a rehearsal.
-/

namespace ReplicaSeed.Rehearsal

/-- A method that is not one of the agent's own. -/
inductive Double where
  | scripted (state : ScriptedState) (intoDatadir : Bool)
  | stubborn (kind : Method)
  | fragile (kind : Method) (chatter : Nat)

/-- The milliseconds that stages are given before the agent is looked at. -/
def settlePeriod : Nat := 102

/-- The milliseconds that a caller waits for a direct call. -/
def patience : Nat := 30000

namespace World

/-- The agent that also has a rehearsed method, in place of one of its kind. -/
def addDouble (w : World) : Double → World
  | .scripted state intoDatadir =>
    { w with
      registry := w.registry.register (Rehearsal.scripted w.site state.kind intoDatadir)
      scripted := w.scripted.filter (·.kind != state.kind) ++ [state] }
  | .stubborn kind => { w with registry := w.registry.register (Rehearsal.stubborn w.site kind) }
  | .fragile kind chatter =>
    { w with registry := w.registry.register (Rehearsal.fragile kind chatter) }

/-- The agent at the start: with the methods that its configuration enables, or with none. There is
none if the configuration has no routes. -/
def ofConfig (config : Config) (enableMethods : Bool) (hostname token : String) :
    Except Http.RouteFault World := do
  let router ← Http.Router.ofSettings config.apiSettings
  return {
    site := config.site
    router
    identity := { hostname, port := config.common.port, token := ⟨token⟩ }
    coordinator := { hostname }
    registry :=
      if enableMethods then (Registry.ofConfig config.site config.methods).widen else .empty }

/-- The world with a directory for files. -/
def withWorkDir (w : World) (place : FilePlace) : World :=
  { w with workDir := place, files := w.files.makeDirectories place }

/-- The world where an event log is written from the start. -/
def withLog (w : World) : World := { w with log := some [] }.push .log

variable (w : World)

/-! ## Requests to the agent -/

/-- A request for a stage. What is started does nothing before the caller waits. -/
def start (id : SeedId) (name : String) (request : StageRequest) :
    World × Except RequestError StartOutcome :=
  let (c, result) := w.coordinator.request w.registry id name request w.instant
  let w := { w with coordinator := c }
  match result with
  | .error e => (w, .error e)
  | .ok (.dispatched record side, m) =>
    let work := m.stage w.site.stopService.widen side request
    ((w.publish record).push (.launch record.key work), .ok .started)
  | .ok (.already stage, _) => (w, .ok (.alreadyStarted stage))

/-- A request for the coordinates of the backup; none if it never ends. -/
def fetch (id : SeedId) (name : String) : World × Option (Except RequestError Coordinates) :=
  let (c, result) := w.coordinator.requestMetadata w.registry id name w.instant
  let w := { w with coordinator := c }
  match result with
  | .error e => (w, some (.error e))
  | .ok (record, m) =>
    match conduct .nobody none m.coordinates (w.publish record) with
    | (w, .ended result) =>
      (w.finish record.key (fetchStatus result) (fetchDetails result),
        some (result.mapError .method))
    | (w, _) => (w, none)

/-- A request to stop a stage. -/
def abort (id : SeedId) (stage : Stage) : World × Except RequestError Unit :=
  match w.coordinator.abort w.processes.isFinished id stage w.instant with
  | .error e => (w, .error e)
  | .ok (c, record, process) =>
    let w := { w with coordinator := c }.publish record
    ({ w with processes := w.processes.cancel process }, .ok ())

/-- The answer to a request; none if it never comes. -/
def answer : AgentRequest → World × Option (Except RequestError AgentAnswer)
  | .start id name request =>
    let (w, result) := w.start id name request
    (w, some (result.map .start))
  | .metadata id name =>
    let (w, result) := w.fetch id name
    (w, result.map fun r => r.map .coordinates)
  | .abort id stage =>
    let (w, result) := w.abort id stage
    (w, some (result.map fun _ => .aborted id stage))
  | .stage id stage => (w, some ((w.coordinator.stage id stage).map .record))
  | .operation => (w, some (.ok (.operation w.coordinator.operation)))
  | .methods => (w, some (.ok (.methods w.registry.descriptors)))

/-- Gives the stages time. -/
def settle : World := w.advance settlePeriod

/-- The response to a request over HTTP, with its type; none if it never comes. -/
def serve (request : Http.Request) : World × Option (Http.Response × Option String) :=
  match w.router.route w.identity.token request with
  | .error response => (w, some (response.sent request))
  | .ok .health =>
    let health := w.identity.healthAt .epoch w.router.settings.statusBadAfter
    (w, some ((Http.Response.ofHealth health).sent request))
  | .ok (.agent agentRequest) =>
    let (w, result) := w.answer agentRequest
    (w, result.map fun r => (Http.Response.ofResult r).sent request)

/-- The control plane was heard of so many seconds ago. -/
def contact (age : Int) : World := { w with identity := w.identity.contacted ⟨-age, 0⟩ }

/-! ## Methods -/

/-- Runs a procedure for the caller, who loses patience at some point. -/
def direct {α : Type} (o : Observer) (act : Act α) : World × Conduct α :=
  conduct o (some (w.now + patience)) act w

/-- Probes one method; its version counts from now on. -/
def probe (m : SeedMethod Interface.rehearsal) (version : ToolVersion) (deadline : Option Nat) :
    World × Conduct Finding :=
  match conduct .nobody deadline (m.probe version) w with
  | (w, .ended (.ok finding)) =>
    ({ w with registry := w.registry.learn m.kind finding.version }, .ended (.ok finding))
  | (w, outcome) => (w, outcome)

/-- Probes the methods of a list, and gives what was found. -/
def probeAll : List (Registration Interface.rehearsal) → World → World × List (Method × Finding)
  | [], w => (w, [])
  | e :: rest, w =>
    let (w, outcome) := w.probe e.method e.version none
    let (w, found) := probeAll rest w
    match outcome with
    | .ended (.ok finding) => (w, (e.method.kind, finding) :: found)
    | _ => (w, found)

/-- Probes all methods. -/
def refresh : World :=
  let (w, found) := probeAll w.registry.entries w
  { w with
    registry := found.foldl (fun r (kind, finding) => r.publish kind finding) w.registry }

/-- Probes a method for the caller. -/
def callProbe (e : Registration Interface.rehearsal) : World × Conduct Bool :=
  let (w, outcome) := w.probe e.method e.version (some (w.now + patience))
  (w, outcome.map (·.available))

/-- Runs a command for the caller. -/
def runCommand (line : String) (elevate : Bool) : World × Except ExecError Output :=
  w.capture line elevate

/-- Lets the stage go on that waits longest for a release of the method, or else the next one that
would wait. -/
def release (kind : Method) : World :=
  match w.holders.find? fun h => h.kind == kind with
  | some h =>
    { w with holders := w.holders.eraseP fun h => h.kind == kind }.push (.work h.key h.rest)
  | none => w.changeScript kind fun s => { s with released := true }

/-- Every dispatch has ended, once there was time: the event log ends with the agent. -/
def logEnds : Bool :=
  let w := w.settle
  w.ready.isEmpty && w.sleepers.isEmpty && w.holders.isEmpty && w.lost.isEmpty

end World

/-! ## Reports -/

/-- What has happened between two points of a rehearsal. -/
structure Report where
  commands : List RecordedCommand
  statements : List String
  /-- The locks taken and released so far, if there are new ones. -/
  locks : Option (Nat × Nat)
  progress : List String
  /-- The processes that callers have heard of, as they are now. -/
  started : List HostProcess
  events : List FeedItem
  log : List FeedItem

/-- What has happened since an earlier point. -/
def World.reportSince (w earlier : World) : Report where
  commands := w.recorder.commands.drop earlier.recorder.commands.length
  statements := w.server.statements.drop earlier.server.statements.length
  locks :=
    let locks (s : Server) := (s.locksTaken, s.locksReleased)
    if locks w.server = locks earlier.server then none else some (locks w.server)
  progress := w.progress.drop earlier.progress.length
  started := (w.started.drop earlier.started.length).filterMap w.processes.get?
  events := w.feed.since earlier.feed.sent
  log := (w.log.getD []).drop (earlier.log.getD []).length

end ReplicaSeed.Rehearsal
