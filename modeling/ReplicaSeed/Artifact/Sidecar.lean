import ReplicaSeed.Artifact.Fault
import ReplicaSeed.Json.Reader
import ReplicaSeed.Seed.Wire

/-!
# The sidecar of a snapshot

A snapshot of a volume does not tell its coordinates; they are written to a file beside it.

## Main definitions

* `Sidecar.text`: the content of the file.
* `Sidecar.parse`: the coordinates in it.
-/

namespace ReplicaSeed.Sidecar

/-- The name of the file. -/
def fileName : String := "binlog_info.json"

/-- The content of the file. -/
def text (c : Coordinates) : String := c.toJson.text

/-- The coordinates of a file; they must name a log file. -/
def parse (text : String) : Except ArtifactFault Coordinates :=
  match (Json.ofText? text).bind Coordinates.ofJson? with
  | none => .error .notJson
  | some c => if c.isEmpty then .error .sidecarWithoutLogFile else .ok c

end ReplicaSeed.Sidecar
