import ReplicaSeed.Artifact.Fault
import ReplicaSeed.Seed.Coordinates
import ReplicaSeed.Text.Lossy
import ReplicaSeed.Text.Search

/-!
# The header of a dump

A dump by `mysqldump` tells its coordinates in its header: the transaction set in a statement that
sets `GTID_PURGED`, which may go over several lines, and file and position in a commented
`CHANGE MASTER TO`. Nothing after that statement is read, nor anything from the first database on.

## Main definitions

* `DumpHeader.parse`: the coordinates of the lines of a dump.
* `DumpHeader.ofBytes`: the coordinates of a file.
-/

namespace ReplicaSeed.DumpHeader

/-- The text without comments; one that is not closed reaches to the end. A comment may close
with the asterisk that opens it. -/
def dropComments : (inside : Bool) → List Char → List Char
  | _, [] => []
  | false, '/' :: '*' :: '/' :: cs => dropComments false cs
  | false, '/' :: '*' :: cs => dropComments true cs
  | false, c :: cs => c :: dropComments false cs
  | true, '*' :: '/' :: cs => dropComments false cs
  | true, _ :: cs => dropComments true cs

/-- The text between the first and the last apostrophe; without two of them, the text without the
semicolons at its end. -/
def quotedPart (cs : List Char) : List Char :=
  match Text.splitOnce? '\'' cs with
  | none => Text.dropEndWhile (· == ';') cs
  | some (_, rest) =>
    match Text.splitOnce? '\'' rest.reverse with
    | none => Text.dropEndWhile (· == ';') cs
    | some (_, inner) => inner.reverse

/-- The transaction set of the right side of an assignment. -/
def gtidSet (value : List Char) : String := normalizeGtid (quotedPart (dropComments false value))

/-- File and position in a `CHANGE MASTER TO` statement. -/
def logPlace (line : List Char) : Except ArtifactFault (String × Int64) := do
  let file ← match Text.cut? "LOG_FILE='".toList line with
    | none => throw (.noLogFile (Text.trim line))
    | some (_, rest) =>
      match Text.splitOnce? '\'' rest with
      | none => throw (.noLogFile (Text.trim line))
      | some (file, _) => pure file
  let digits ← match Text.cut? "LOG_POS=".toList line with
    | none => throw (.noLogPosition (Text.trim line))
    | some (_, rest) => pure (rest.takeWhile Char.isDigit)
  match Text.readInt64 digits with
  | .error cause => throw (.badLogPosition (Text.trim line) cause)
  | .ok pos => return (String.ofList file, pos)

/-- The line states the place in the log. -/
def statesPlace (line : List Char) : Bool :=
  Text.contains "CHANGE MASTER TO".toList line ||
    Text.contains "CHANGE REPLICATION SOURCE TO".toList line

/-- What a header tells: the assignment of the transaction set, and the place in the log. -/
structure Found where
  assignment : Option (List Char) := none
  place : Option (String × Int64) := none

/-- Reads the lines of a header. `continues` tells that the assignment is not yet complete; a line
that is no text is `none`. -/
def scan (assignment : Option (List Char)) (continues : Bool) :
    List (Option (List Char)) → Except ArtifactFault Found
  | [] => .ok { assignment }
  | none :: _ => .error .notText
  | some line :: rest =>
    if continues then
      scan (some (assignment.getD [] ++ line)) (!line.contains ';') rest
    else
      match Text.cut? "GTID_PURGED".toList line with
      | some (_, after) =>
        let value := ((Text.splitOnce? '=' after).map (·.2)).getD []
        scan (some value) (!value.contains ';') rest
      | none =>
        if statesPlace line then
          (logPlace line).map fun place => { assignment, place := some place }
        else if Text.startsWith "-- Current Database:".toList line then .ok { assignment }
        else scan assignment false rest

/-- The coordinates of the lines of a dump. -/
def parse (lines : List (Option (List Char))) : Except ArtifactFault Coordinates := do
  let found ← scan none false lines
  match found.place with
  | none => throw .headerWithoutCoordinates
  | some (file, pos) =>
    if file = "" then throw .headerWithoutCoordinates
    return ⟨file, pos, (found.assignment.map gtidSet).getD ""⟩

/-- The coordinates of a text. -/
def ofText (text : List Char) : Except ArtifactFault Coordinates :=
  parse ((Text.lines text).map some)

/-- The lines of a byte sequence, each still with its line feed. -/
def rawByteLines : List UInt8 → List (List UInt8)
  | [] => []
  | b :: bs =>
    if b = 10 then [b] :: rawByteLines bs
    else
      match rawByteLines bs with
      | [] => [[b]]
      | line :: rest => (b :: line) :: rest

/-- The coordinates of a file. -/
def ofBytes (bytes : List UInt8) : Except ArtifactFault Coordinates :=
  parse ((rawByteLines bytes).map fun line => (Text.decode? line).map Text.stripLineEnd)

end ReplicaSeed.DumpHeader
