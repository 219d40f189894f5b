import ReplicaSeed.Database.Call
import ReplicaSeed.Database.Row
import ReplicaSeed.Method.Procedure

/-!
# Statements of the client

What each call says to the server on one connection, and how the rows that come back are read.

## Main definitions

* `Query`: a statement with its arguments.
* `Interface.sql`, `Dialogue`: what can be said on a connection, and procedures that say it.
* `Dialogue.of`: the dialogue of a call.
-/

namespace ReplicaSeed

namespace Database

/-- A statement with its arguments. -/
structure Query where
  statement : String
  arguments : List String := []
  deriving DecidableEq, Repr

end Database

/-- What can be said on a connection: a statement, of whose result only the first row counts. -/
def Interface.sql : Interface where
  Request := Database.Query
  Answer := fun _ => Except DatabaseError (Option Database.Row)

namespace Database

/-- A procedure on one connection. -/
abbrev Dialogue := Procedure Interface.sql

namespace Dialogue

/-- A result of reading a row. -/
def ofRead {α : Type} : Except DatabaseError α → Dialogue α
  | .ok a => .done a
  | .error e => .fail (.database e)

/-- The first row of the result of a statement. -/
def first? (query : Query) : Dialogue (Option Row) :=
  .ask (I := Interface.sql) query fun
    | .ok row => .done row
    | .error e => .fail (.database e)

/-- Executes a statement. -/
def execute (statement : String) : Dialogue Unit := do
  let _ ← first? { statement }

/-! ## Queries -/

/-- The status of an installed plugin. -/
def pluginStatus (plugin : String) : Dialogue (Option String) := do
  let row ← first?
    { statement := "SELECT PLUGIN_STATUS FROM information_schema.PLUGINS WHERE PLUGIN_NAME = ?"
      arguments := [plugin] }
  match row with
  | some r => return some (← ofRead r.single)
  | none => return none

/-- The global `sql_mode`. -/
def sqlMode : Dialogue String := do
  match ← first? { statement := "SELECT @@GLOBAL.sql_mode" } with
  | some r => ofRead r.single
  | none => .fail (.database .noRow)

/-- The largest position. -/
def maxPosition : Nat := 9223372036854775807

/-- The coordinates in a row about the binary log. A set of transactions that cannot be read counts
as empty. -/
def coordinatesOf (r : Row) : Except DatabaseError Coordinates := do
  let file ← r.text "File"
  let position ← r.unsigned "Position"
  let set := ((r.text? "Executed_Gtid_Set").toOption.join).getD ""
  let pos := Int64.ofNat (min position.toNat maxPosition)
  return (Coordinates.positional file pos).withGtid (normalizeGtid set.toList)

/-- The coordinates in the first row of a result; zero without one. -/
def coordinatesOf? : Option Row → Dialogue Coordinates
  | some r => ofRead (coordinatesOf r)
  | none => pure .zero

/-- The place in the binary log. A server that refuses the old form of the question is asked in the
new one. -/
def masterStatus : Dialogue Coordinates :=
  .ask (I := Interface.sql) ({ statement := "SHOW MASTER STATUS" } : Query) fun
    | .ok row => coordinatesOf? row
    | .error (.server ..) => do coordinatesOf? (← first? { statement := "SHOW BINARY LOG STATUS" })
    | .error e => .fail (.database e)

/-- The coordinates in a row about the last clone, each part of which may be null. -/
def cloneOf (r : Row) : Except DatabaseError Coordinates := do
  let file ← r.text? "BINLOG_FILE"
  let position ← r.integer? "BINLOG_POSITION"
  let set ← r.text? "GTID_EXECUTED"
  return (Coordinates.positional (file.getD "") (position.getD 0)).withGtid
    (normalizeGtid (set.getD "").toList)

/-- The place that the last clone took from its donor. -/
def cloneStatus : Dialogue (Option Coordinates) := do
  let row ← first?
    { statement :=
        "SELECT BINLOG_FILE, BINLOG_POSITION, GTID_EXECUTED FROM performance_schema.clone_status" }
  match row with
  | some r => return some (← ofRead (cloneOf r))
  | none => return none

/-! ## The lock -/

/-- Gives the lock back. -/
def unlock : Dialogue Unit := execute "UNLOCK TABLES"

/-- Takes the lock and reads the coordinates under it; without them the lock is given back. -/
def lock : Dialogue Coordinates := do
  execute "FLUSH TABLES WITH READ LOCK"
  match ← masterStatus.attempt with
  | .ok c => return c
  | .error e => do
    let _ ← unlock.attempt
    .fail e

/-- The dialogue of a call. -/
def of : (call : Call) → Dialogue call.Answer
  | .pluginStatus plugin => pluginStatus plugin
  | .masterStatus => masterStatus
  | .cloneStatus => cloneStatus
  | .sqlMode => sqlMode
  | .execute statement => execute statement
  | .lock => lock
  | .unlock => unlock

end Dialogue

end Database

end ReplicaSeed
