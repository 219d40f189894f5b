import ReplicaSeed.Artifact.Fault
import ReplicaSeed.Database.Error
import ReplicaSeed.Execution.Error
import ReplicaSeed.Seed.Method
import ReplicaSeed.Seed.Side
import ReplicaSeed.Seed.Stage

/-!
# Failures of seed methods

Why a stage of a seed method failed.
-/

namespace ReplicaSeed

/-- Why a stage of a seed method failed. -/
inductive MethodError where
  | exec (e : ExecError)
  | database (e : DatabaseError)
  | missingArtifact (path : String)
  | malformedArtifact (path reason : String)
  | io (path cause : String)
  | unsupported (method : Method) (stage : Stage) (side : Side)
  | config (text : String)
  deriving DecidableEq, Repr

namespace MethodError

/-- The text of a failure. -/
def message : MethodError → String
  | exec e => e.message
  | database e => "database error: " ++ e.message
  | missingArtifact path => "backup artifact not found: " ++ path
  | malformedArtifact path reason => "malformed backup metadata in " ++ path ++ ": " ++ reason
  | io path cause => "I/O error on " ++ path ++ ": " ++ cause
  | unsupported method stage side =>
    method.name ++ " does not support " ++ stage.name ++ " on the " ++ side.name ++ " side"
  | config text => "configuration error: " ++ text

/-- The stage was stopped on request. -/
def isCancelled : MethodError → Bool
  | exec e => e.isCancelled
  | _ => false

end MethodError

end ReplicaSeed
