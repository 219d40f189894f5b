import ReplicaSeed.Command.Template
import ReplicaSeed.Database.Call
import ReplicaSeed.Execution.FileFault
import ReplicaSeed.Execution.Output
import ReplicaSeed.Method.Procedure
import ReplicaSeed.Time.Span

/-!
# Work on a host

The procedures of seed methods on the host of the agent: what they can ask for, and the ways of
asking in which a failed request is a failure of the procedure.

## Main definitions

* `Line`: a command line that the agent builds, or one that the configuration gives.
* `HostRequest`: what can be asked of the host.
* `Work`: procedures on the host.
-/

namespace ReplicaSeed

/-- A command line: one that the agent builds, or one that the configuration gives. -/
inductive Line where
  | built (template : Command.Template)
  | given (text : String)
  deriving DecidableEq, Repr

instance : Coe Command.Template Line := ⟨.built⟩

/-- The text of a line. -/
def Line.text : Line → String
  | built template => template.text
  | given text => text

/-- What can be asked of the host. -/
inductive HostRequest where
  /-- Reports progress. -/
  | note (text : String)
  /-- Runs a command of the stage; its process is reported and can be cancelled. -/
  | exec (line : Line) (elevate : Bool)
  /-- Runs a short command for its output. -/
  | capture (line : Line) (elevate : Bool)
  /-- Runs a command that may take no longer than `limit`; no output if it fails or does. -/
  | probe (line : Line) (elevate : Bool) (limit : Span)
  | database (call : Database.Call)
  /-- A call that may take no longer than `limit`; no answer if it fails or does. -/
  | probeDatabase (call : Database.Call) (limit : Span)
  | readFile (path : String)
  | writeFile (path content : String)
  deriving DecidableEq, Repr

/-- The type of the answer to a request. -/
def HostRequest.Answer : HostRequest → Type
  | note _ => Unit
  | exec .. => Except ExecError Unit
  | capture .. => Except ExecError Output
  | probe .. => Option Output
  | database call => Except DatabaseError call.Answer
  | probeDatabase call _ => Option call.Answer
  | readFile _ => Except FileFault (List UInt8)
  | writeFile .. => Except FileFault Unit

/-- The requests to the host. -/
def Interface.host : Interface := ⟨HostRequest, HostRequest.Answer⟩

/-- A procedure on the host. -/
abbrev Work := Procedure Interface.host

/-- The failure of a stage that a file is to blame for; a missing file is a missing artifact. -/
def MethodError.ofFileFault (path : String) : FileFault → MethodError
  | .notFound => .missingArtifact path
  | fault => .io path fault.message

namespace Work

open Procedure

/-- Reports progress. -/
def note (text : String) : Work Unit := request (I := Interface.host) (HostRequest.note text)

/-- Runs a command of the stage. -/
def exec (elevate : Bool) (line : Line) : Work Unit :=
  .ask (HostRequest.exec line elevate) fun
    | .ok () => .done ()
    | .error e => .fail (.exec e)

/-- Runs a short command for its output. -/
def capture (elevate : Bool) (line : Line) : Work Output :=
  .ask (HostRequest.capture line elevate) fun
    | .ok output => .done output
    | .error e => .fail (.exec e)

/-- Asks the server. -/
def database (call : Database.Call) : Work call.Answer :=
  .ask (HostRequest.database call) fun
    | .ok answer => .done answer
    | .error e => .fail (.database e)

/-- The content of a file. -/
def readFile (path : String) : Work (List UInt8) :=
  .ask (HostRequest.readFile path) fun
    | .ok bytes => .done bytes
    | .error fault => .fail (.ofFileFault path fault)

/-- Writes a file; here a missing directory is no missing artifact. -/
def writeFile (path content : String) : Work Unit :=
  .ask (HostRequest.writeFile path content) fun
    | .ok () => .done ()
    | .error fault => .fail (.io path fault.message)

/-- The content of a file of text. -/
def readText (path : String) : Work (List Char) := do
  match Text.decode? (← readFile path) with
  | some text => .done text
  | none => .fail (.io path "stream did not contain valid UTF-8")

/-- The coordinates of an artifact that was read from `path`. -/
def artifact (path : String) : Except ArtifactFault Coordinates → Work Coordinates
  | .ok c => .done c
  | .error fault => .fail (.malformedArtifact path fault.message)

end Work

end ReplicaSeed
