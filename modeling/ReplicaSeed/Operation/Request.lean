import ReplicaSeed.Seed.Side
import ReplicaSeed.Seed.Stage

/-!
# Stage requests

What the control plane can ask of an operation, and the answers to an accepted request.
-/

namespace ReplicaSeed

/-- A request to start a stage. -/
inductive StageRequest where
  | prepare (side : Side)
  /-- Takes the backup from, or gives it to, the server at `host` and `port`. -/
  | backup (host : String) (port : UInt16)
  | restore
  | cleanup (side : Side)
  deriving DecidableEq, Repr

/-- The stage that a request starts. -/
def StageRequest.stage : StageRequest → Stage
  | prepare _ => .prepare
  | backup .. => .backup
  | restore => .restore
  | cleanup _ => .cleanup

/-- The answer to a request that is not refused. -/
inductive StartOutcome where
  | started
  /-- The stage is in flight or done; nothing was started. -/
  | alreadyStarted (stage : Stage)
  deriving DecidableEq, Repr

/-- The text of the answer. -/
def StartOutcome.message : StartOutcome → String
  | started => "Started"
  | alreadyStarted stage => stage.name ++ " stage already started for seed"

end ReplicaSeed
