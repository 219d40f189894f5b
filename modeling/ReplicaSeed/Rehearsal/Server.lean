import ReplicaSeed.Database.Call

/-!
# A rehearsed database

A server that answers from what was arranged and counts its locks. Each kind of call can be made to
fail or to never return; such a call does not reach the server.

## Main definitions

* `Server`: the server.
* `Fault`: what goes wrong with a kind of call.
* `Server.perform`: a call.
-/

namespace ReplicaSeed.Rehearsal

open Database

/-- The kinds of calls. -/
inductive CallKind where
  | pluginStatus
  | masterStatus
  | cloneStatus
  | sqlMode
  | execute
  | lock
  | unlock
  deriving DecidableEq, Repr

/-- The kind of a call. -/
def kindOf : Call → CallKind
  | .pluginStatus _ => .pluginStatus
  | .masterStatus => .masterStatus
  | .cloneStatus => .cloneStatus
  | .sqlMode => .sqlMode
  | .execute _ => .execute
  | .lock => .lock
  | .unlock => .unlock

/-- What goes wrong with a kind of call. -/
inductive Fault where
  /-- So many calls still pass; all later ones fail. -/
  | failure (text : String) (after : Nat)
  | hang
  deriving DecidableEq, Repr

/-- The state of the server. -/
structure Server where
  plugins : List (String × String) := []
  master : Coordinates := .zero
  clone : Option Coordinates := none
  sqlMode : String := ""
  /-- The statements that were executed. -/
  statements : List String := []
  locksTaken : Nat := 0
  locksReleased : Nat := 0
  faults : List (CallKind × Fault) := []
  deriving DecidableEq, Repr

namespace Server

/-- The server with the status of a plugin set. -/
def setPlugin (s : Server) (name status : String) : Server :=
  { s with plugins := (name, status) :: s.plugins }

/-- The server without a fault of a kind of call. -/
def repair (s : Server) (kind : CallKind) : Server :=
  { s with faults := s.faults.filter fun f => f.1 != kind }

/-- The server with a fault of a kind of call. -/
def inject (s : Server) (kind : CallKind) (fault : Fault) : Server :=
  { s with faults := (kind, fault) :: (s.repair kind).faults }

/-- A call that reaches the server. -/
def answer (s : Server) : (call : Call) → Server × call.Answer
  | .pluginStatus name => (s, s.plugins.lookup name)
  | .masterStatus => (s, s.master)
  | .cloneStatus => (s, s.clone)
  | .sqlMode => (s, s.sqlMode)
  | .execute statement => ({ s with statements := s.statements ++ [statement] }, ())
  | .lock => ({ s with locksTaken := s.locksTaken + 1 }, s.master)
  | .unlock => ({ s with locksReleased := s.locksReleased + 1 }, ())

/-- A call that passes all faults. -/
def pass (s : Server) (call : Call) : Server × Option (Except DatabaseError call.Answer) :=
  let (s, a) := s.answer call
  (s, some (.ok a))

/-- A call; none if it never returns. -/
def perform (s : Server) (call : Call) : Server × Option (Except DatabaseError call.Answer) :=
  match s.faults.lookup (kindOf call) with
  | none => s.pass call
  | some .hang => (s, none)
  | some (.failure text 0) => (s, some (.error (.protocol text)))
  | some (.failure text (after + 1)) => (s.inject (kindOf call) (.failure text after)).pass call

end Server

end ReplicaSeed.Rehearsal
