import ReplicaSeed.Database.Client
import ReplicaSeed.Database.Pool

/-!
# Rehearsed dialogues with a server

A server that replies to each statement from a script, and a client that talks to it over its
connections.

## Main definitions

* `SqlScript`: the replies to statements.
* `SqlClient`: the client, with what it has said.
* `SqlClient.call`, `SqlClient.lock`, `SqlClient.unlock`: calls.
-/

namespace ReplicaSeed.Rehearsal

open Database

/-- The reply to a statement. -/
inductive SqlReply where
  | rows (rows : List (List Value))
  | refused (code : Nat) (state text : String)
  /-- The server closes the connection. -/
  | close
  deriving DecidableEq, Repr

/-- The replies to one statement, in their order; the last is given again and again. -/
structure StatementScript where
  columns : List (String × ColumnType)
  replies : List SqlReply
  deriving DecidableEq, Repr

/-- The replies to statements. One that is not there has no result. -/
abbrev SqlScript := List (String × StatementScript)

namespace StatementScript

/-- The next reply. -/
def next (s : StatementScript) : SqlReply := s.replies.head?.getD (.rows [])

/-- The script after a reply. -/
def advance (s : StatementScript) : StatementScript :=
  match s.replies with
  | _ :: r :: rest => { s with replies := r :: rest }
  | _ => s

/-- A row of the result. -/
def row (s : StatementScript) (values : List Value) : Row :=
  ⟨s.columns.mapIdx fun i (name, type) => ⟨name, type, values[i]?.getD .null⟩⟩

/-- The first row of the result, if it has columns. -/
def firstRow? (s : StatementScript) (rows : List (List Value)) : Option Row :=
  if s.columns.isEmpty then none else rows.head?.map s.row

end StatementScript

/-- A client and its server. -/
structure SqlClient where
  script : SqlScript
  pool : Pool := {}
  /-- What was said so far, and on which connection. -/
  said : List (ConnectionId × Query) := []
  /-- The connections of the locks that are held, by the number of the lock. -/
  locks : List (Nat × ConnectionId) := []
  deriving DecidableEq, Repr

namespace SqlClient

/-- Says something on a connection. -/
def say (c : SqlClient) (id : ConnectionId) (query : Query) : SqlClient × SqlReply × Option Row :=
  let c := { c with said := c.said ++ [(id, query)] }
  match c.script.lookup query.statement with
  | none => (c, .rows [], none)
  | some s =>
    let script := c.script.map fun (statement, t) =>
      (statement, if statement = query.statement then t.advance else t)
    let row := match s.next with
      | .rows rows => s.firstRow? rows
      | _ => none
    ({ c with script }, s.next, row)

/-- Holds a dialogue on a connection that is open or was closed by the server, and tells whether it
is open in the end. -/
def converse {α : Type} (id : ConnectionId) :
    Dialogue α → Bool → SqlClient → SqlClient × Bool × Except MethodError α
  | .done a, isOpen, c => (c, isOpen, .ok a)
  | .fail e, isOpen, c => (c, isOpen, .error e)
  | .ask _ next, false, c => converse id (next (.error .disconnected)) false c
  | .ask query next, true, c =>
    match c.say id query with
    | (c, .rows _, row) => converse id (next (.ok row)) true c
    | (c, .refused code state text, _) =>
      converse id (next (.error (.server code state text))) true c
    | (c, .close, _) => converse id (next (.error .disconnected)) false c

/-- The client without a connection that was used. -/
def close (c : SqlClient) (id : ConnectionId) : SqlClient := { c with pool := c.pool.close id }

/-- A call that needs no lock; none if no connection becomes free. -/
def call {α : Type} (c : SqlClient) (dialogue : Dialogue α) :
    Option (SqlClient × Except MethodError α) := do
  let (id, pool) ← c.pool.acquire?
  let (c, isOpen, result) := converse id dialogue true { c with pool }
  if isOpen then return ({ c with pool := c.pool.release id }, result)
  else return (c.close id, result)

/-- Lets go of a lock without giving it back: its connection is closed, which frees the tables.
Tells whether there was one. -/
def drop (c : SqlClient) (number : Nat) : SqlClient × Bool :=
  match c.locks.lookup number with
  | some id => ({ c.close id with locks := c.locks.filter fun l => l.1 != number }, true)
  | none => (c, false)

/-- Takes a lock and keeps it under a number, in place of the one there; none if no connection
becomes free. -/
def lock (c : SqlClient) (number : Nat) : Option (SqlClient × Except MethodError Coordinates) := do
  let (id, pool) ← c.pool.acquire?
  match converse id Dialogue.lock true { c with pool } with
  | (c, _, .ok coordinates) =>
    let c := (c.drop number).1
    return ({ c with locks := (number, id) :: c.locks }, .ok coordinates)
  | (c, _, .error e) => return (c.close id, .error e)

/-- Gives a lock back; none if there is none. Its connection is closed in any case. -/
def unlock (c : SqlClient) (number : Nat) : Option (SqlClient × Except MethodError Unit) := do
  let id ← c.locks.lookup number
  let (c, _, result) := converse id Dialogue.unlock true c
  return ((c.drop number).1, result)

end SqlClient

end ReplicaSeed.Rehearsal
