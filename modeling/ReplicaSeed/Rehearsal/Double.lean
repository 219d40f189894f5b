import ReplicaSeed.Method.Site
import ReplicaSeed.Method.SeedMethod

/-!
# Rehearsed methods

Seed methods that do what a script says: they succeed, fail, run a command, wait to be released,
ignore a failure, or break down. Beside what all methods ask of the host, they ask for their script.

## Main definitions

* `Script`: what a stage does.
* `DoubleRequest`, `Act`: what rehearsed methods can ask for, and their procedures.
* `scripted`, `stubborn`, `fragile`: the methods.
* `ScriptedState`: the script of a method, and the calls so far.
-/

namespace ReplicaSeed.Rehearsal

/-- What a stage does. -/
inductive Script where
  | succeed
  | fail (text : String)
  | run (line : String)
  /-- Waits for a release. -/
  | hold
  | runThenHold (line : String)
  deriving DecidableEq, Repr

/-- What rehearsed methods can ask for. -/
inductive DoubleRequest where
  /-- Notes the call of a stage and gives its script. -/
  | play (kind : Method) (stage : Stage) (side : Option Side)
  /-- Waits for a release. -/
  | hold (kind : Method)
  /-- Notes the call and gives the coordinates that are set. -/
  | coordinates (kind : Method)
  | available (kind : Method)
  /-- Breaks the work down. -/
  | crash
  deriving DecidableEq, Repr

/-- The type of the answer to a request. -/
def DoubleRequest.Answer : DoubleRequest → Type
  | play .. => Script
  | hold _ => Unit
  | coordinates _ => Option Coordinates
  | available _ => Bool
  | crash => Empty

end Rehearsal

/-- What rehearsed methods can ask for beside the host. -/
def Interface.double : Interface := ⟨Rehearsal.DoubleRequest, Rehearsal.DoubleRequest.Answer⟩

/-- What procedures can ask for in a rehearsal. -/
def Interface.rehearsal : Interface := Interface.host.sum Interface.double

namespace Rehearsal

/-- A procedure in a rehearsal. -/
abbrev Act := Procedure Interface.rehearsal

/-- Asks for something that only rehearsed methods ask for. -/
def askDouble (request : DoubleRequest) : Act request.Answer :=
  Procedure.request (I := Interface.rehearsal) (Sum.inr request)

variable (site : Site)

/-- Runs the command of a line. -/
def exec (line : String) : Act Unit := (site.exec (.given line)).widen

/-- Reports progress. -/
def note (text : String) : Act Unit := (Work.note text).widen

/-! ## Scripted methods -/

/-- Does what the script of a stage says. -/
def play (kind : Method) (stage : Stage) (side : Option Side) : Act Unit := do
  match (← askDouble (.play kind stage side) : Script) with
  | .succeed => pure ()
  | .fail text => .fail (.config text)
  | .run line => exec site line
  | .hold => (askDouble (.hold kind) : Act Unit)
  | .runThenHold line => do
    exec site line
    (askDouble (.hold kind) : Act Unit)

/-- The method that does what its scripts say. -/
def scripted (kind : Method) (intoDatadir : Bool) : SeedMethod Interface.rehearsal where
  kind := kind
  engines := fun _ => .ofList [.innoDb]
  intoDatadir := intoDatadir
  probe := fun version => do
    let available : Bool ← askDouble (.available kind)
    return ⟨available, version⟩
  prepare := fun side => play site kind .prepare (some side)
  backup := fun request => play site kind .backup (some request.side)
  restore := play site kind .restore none
  coordinates := do
    match (← askDouble (.coordinates kind) : Option Coordinates) with
    | some c => pure c
    | none => .fail (.missingArtifact "scripted")
  cleanup := fun side => play site kind .cleanup (some side)

/-- The script of a method, and the calls so far. -/
structure ScriptedState where
  kind : Method
  available : Bool := true
  coordinates : Option Coordinates := none
  scripts : Stage.Map Script := .empty
  calls : List (Stage × Option Side) := []
  /-- The next stage that would wait goes on at once. -/
  released : Bool := false
  deriving DecidableEq, Repr

/-- How often a stage was called. -/
def ScriptedState.callCount (s : ScriptedState) (stage : Stage) : Nat :=
  s.calls.countP fun c => c.1 == stage

/-! ## Other methods -/

/-- The two commands of a stage; only the second can fail it. -/
def persist (stage : Stage) : Act Unit := do
  let _ ← (exec site ("first " ++ stage.name)).attempt
  note (stage.name ++ " goes on")
  exec site ("second " ++ stage.name)

/-- The method that goes on after a failure. -/
def stubborn (kind : Method) : SeedMethod Interface.rehearsal where
  kind := kind
  engines := fun _ => .ofList []
  intoDatadir := false
  probe := fun version => pure ⟨true, version⟩
  prepare := fun _ => persist site .prepare
  backup := fun _ => persist site .backup
  restore := persist site .restore
  coordinates := .fail (.config "stubborn")
  cleanup := fun _ => persist site .cleanup

/-- Breaks down. -/
def breakDown : Act Unit := do
  let impossible : Empty ← askDouble .crash
  nomatch impossible

/-- Reports so many lines of progress. -/
def chat (lines : Nat) : Act Unit :=
  (List.range lines).forM fun i => note ("line " ++ toString i)

/-- The method that breaks down in every stage, in Prepare after some progress. -/
def fragile (kind : Method) (chatter : Nat) : SeedMethod Interface.rehearsal where
  kind := kind
  engines := fun _ => .ofList []
  intoDatadir := true
  probe := fun version => pure ⟨true, version⟩
  prepare := fun _ => do
    chat chatter
    breakDown
  backup := fun _ => breakDown
  restore := breakDown
  coordinates := pure .zero
  cleanup := fun _ => breakDown

end ReplicaSeed.Rehearsal
