import ReplicaSeed.Database.Error
import ReplicaSeed.Seed.Coordinates

/-!
# Calls to the database

What the agent asks of the server on its host.
-/

namespace ReplicaSeed.Database

/-- What is asked of the server. -/
inductive Call where
  /-- The status of an installed plugin. -/
  | pluginStatus (plugin : String)
  /-- The current place in the binary log; zero without one. -/
  | masterStatus
  /-- The place that the last clone took from its donor. -/
  | cloneStatus
  /-- The global `sql_mode`. -/
  | sqlMode
  | execute (statement : String)
  /-- Takes a global read lock and reads the place in the binary log under it. -/
  | lock
  /-- Gives the lock back. -/
  | unlock
  deriving DecidableEq, Repr

/-- The type of the answer to a call. -/
def Call.Answer : Call → Type
  | pluginStatus _ => Option String
  | masterStatus => Coordinates
  | cloneStatus => Option Coordinates
  | sqlMode => String
  | execute _ => Unit
  | lock => Coordinates
  | unlock => Unit

end ReplicaSeed.Database
