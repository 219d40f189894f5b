import ReplicaSeed.Artifact.Fault
import ReplicaSeed.Seed.Coordinates
import ReplicaSeed.Text.Search

/-!
# The metadata file of a parallel dump

A dump by `mydumper` tells its coordinates in a file of keys and values, in the block that begins
with `SHOW MASTER STATUS:` or in the section `[source]`.

## Main definitions

* `DumpMetadata.parse`: the coordinates of a file.
-/

namespace ReplicaSeed.DumpMetadata

/-- Where a reader stands: before the block, in it, or in a transaction set that goes on. -/
inductive Place where
  | before
  | inside
  | inSet
  deriving DecidableEq, Repr

/-- The line begins the block. -/
def opensBlock (line : List Char) : Bool :=
  Text.startsWith "SHOW MASTER STATUS".toList line ||
    Text.startsWith "SHOW BINARY LOG STATUS".toList line ||
    line == "[source]".toList || line == "[master]".toList

/-- The line ends the block. -/
def closesBlock (line : List Char) : Bool :=
  Text.startsWith "SHOW SLAVE STATUS".toList line ||
    Text.startsWith "SHOW REPLICA STATUS".toList line ||
    Text.startsWith "Finished dump".toList line ||
    (line.head? == some '[' && line.getLast? == some ']')

/-- Key and value of a line: cut at the first colon, or at the first equals sign if that comes
before it. -/
def keyValue? (line : List Char) : Option (List Char × List Char) :=
  match Text.splitOnce? ':' line with
  | some (key, value) => if key.contains '=' then Text.splitOnce? '=' line else some (key, value)
  | none => Text.splitOnce? '=' line

/-- A value without blanks and apostrophes around it. -/
def bareValue (value : List Char) : List Char := Text.trimMatches (· == '\'') (Text.trim value)

/-- What was read so far. -/
structure Found where
  file : List Char := []
  pos : Int64 := 0
  set : List Char := []
  deriving Repr

/-- What a line of the block adds. -/
def Found.read (found : Found) (line : List Char) : Except ArtifactFault (Place × Found) :=
  match keyValue? line with
  | none => .ok (.inside, found)
  | some (key, value) =>
    let value := bareValue value
    match String.ofList (Text.trim key) with
    | "Log" | "File" => .ok (.inside, { found with file := value })
    | "Pos" | "Position" =>
      match Text.readInt64 value with
      | .error cause => .error (.badPosition value cause)
      | .ok pos => .ok (.inside, { found with pos })
    | "GTID" | "Executed_Gtid_Set" =>
      .ok (if value.getLast? = some ',' then .inSet else .inside, { found with set := value })
    | _ => .ok (.inside, found)

/-- Reads trimmed lines. A line that begins the block never ends it, nor is it read. -/
def scan (place : Place) (found : Found) : List (List Char) → Except ArtifactFault Found
  | [] => .ok found
  | line :: rest =>
    if place = .inSet then
      scan (if line.getLast? = some ',' then .inSet else .inside)
        { found with set := found.set ++ line } rest
    else if opensBlock line then scan .inside found rest
    else if place = .before then scan .before found rest
    else if closesBlock line then .ok found
    else
      match found.read line with
      | .error e => .error e
      | .ok (place, found) => scan place found rest

/-- The coordinates of a metadata file. -/
def parse (text : List Char) : Except ArtifactFault Coordinates := do
  let found ← scan .before {} ((Text.lines text).map Text.trim)
  if found.file = [] then throw .metadataWithoutCoordinates
  return ⟨String.ofList found.file, found.pos, normalizeGtid found.set⟩

end ReplicaSeed.DumpMetadata
