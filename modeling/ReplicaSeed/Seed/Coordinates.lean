import ReplicaSeed.Text.Blank

/-!
# Replication coordinates

The place in the binary log that a backup corresponds to.
-/

namespace ReplicaSeed

/-- A place in the binary log: file, position and, where the server keeps them, the set of the
transactions executed before it. -/
structure Coordinates where
  logFile : String
  logPos : Int64
  gtidExecuted : String
  deriving DecidableEq, Repr

namespace Coordinates

/-- The coordinates of a server without a binary log. -/
def zero : Coordinates := ⟨"", 0, ""⟩

instance : Inhabited Coordinates := ⟨zero⟩

/-- Coordinates without a transaction set. -/
def positional (file : String) (pos : Int64) : Coordinates := ⟨file, pos, ""⟩

/-- The coordinates with another transaction set. -/
def withGtid (c : Coordinates) (set : String) : Coordinates := { c with gtidExecuted := set }

/-- No log file is named. -/
def isEmpty (c : Coordinates) : Bool := c.logFile == ""

/-- A transaction set is named. -/
def hasGtid (c : Coordinates) : Bool := c.gtidExecuted != ""

end Coordinates

/-- A transaction set without the line breaks and blanks that a server puts into a long one. -/
def normalizeGtid (set : List Char) : String := String.ofList (Text.squeeze set)

end ReplicaSeed
