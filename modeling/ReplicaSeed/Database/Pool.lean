/-!
# Connections

The connections of a client to its server. They are numbered in the order in which they are opened.
A call takes one that is idle or else opens one, as long as there are not too many; the connection
of a lock belongs to the lock and is never used again.

## Main definitions

* `Pool`: the connections.
* `Pool.acquire?`, `Pool.release`, `Pool.close`: taking one, giving it back, and closing it.
-/

namespace ReplicaSeed.Database

/-- The number of a connection. -/
abbrev ConnectionId := Nat

/-- The connections that are open. -/
structure Pool where
  /-- How many were opened so far. -/
  opened : Nat := 0
  idle : List ConnectionId := []
  busy : List ConnectionId := []
  deriving DecidableEq, Repr

namespace Pool

/-- So many connections may be open at a time. -/
def limit : Nat := 4

/-- Takes a connection; none if all are busy. -/
def acquire? (p : Pool) : Option (ConnectionId × Pool) :=
  match p.idle with
  | id :: idle => some (id, { p with idle, busy := id :: p.busy })
  | [] =>
    if p.busy.length < limit then
      some (p.opened + 1, { p with opened := p.opened + 1, busy := (p.opened + 1) :: p.busy })
    else none

/-- Closes a connection. -/
def close (p : Pool) (id : ConnectionId) : Pool := { p with busy := p.busy.filter (· != id) }

/-- Gives a connection back. -/
def release (p : Pool) (id : ConnectionId) : Pool :=
  { p.close id with idle := p.idle ++ [id] }

/-- The connections that are open, in the order of their numbers. -/
def openIds (p : Pool) : List ConnectionId := (p.idle ++ p.busy).mergeSort (· ≤ ·)

end Pool

end ReplicaSeed.Database
