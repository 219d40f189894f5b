import ReplicaSeed.Artifact.Sidecar
import ReplicaSeed.Proofs.Seed.Wire

/-!
# The sidecar that is written

Coordinates are written to a sidecar whatever they are. They are read from it only if they name a
log file.

## Main definitions

* `Sidecar.Tells`: the coordinates that stand in a file, said without the writer and the reader.

## Main statements

* `Sidecar.tells_text`: the content that is written tells the coordinates.
* `Sidecar.parse_text`: what is read from a sidecar that was written.
-/

namespace ReplicaSeed

namespace Sidecar

variable {content : String} {c : Coordinates}

/-- The content is that of a JSON object with each part of the coordinates under its name. -/
def Tells (content : String) (c : Coordinates) : Prop :=
  Json.ofText? content =
    some (.obj [("LogFile", .str c.logFile), ("LogPos", .int c.logPos.toInt),
      ("GtidExecuted", .str c.gtidExecuted)])

/-- What is written tells the coordinates, whatever they are. -/
theorem tells_text (c : Coordinates) : Tells (text c) c :=
  Json.ofText?_text c.carries_toJson.readable

/-- Whoever reads the content as coordinates finds those that it tells. -/
theorem Tells.read (h : Tells content c) :
    (Json.ofText? content).bind Coordinates.ofJson? = some c :=
  (congrArg (Option.bind · Coordinates.ofJson?) h).trans c.carries_toJson.read_eq

/-- What is read from a file that tells coordinates. -/
theorem Tells.parse (h : Tells content c) :
    Sidecar.parse content = if c.isEmpty then .error .sidecarWithoutLogFile else .ok c := by
  simp only [Sidecar.parse, h.read]

/-- What is read from a sidecar that was written. -/
theorem parse_text (c : Coordinates) :
    parse (text c) = if c.isEmpty then .error .sidecarWithoutLogFile else .ok c :=
  (tells_text c).parse

end Sidecar

end ReplicaSeed
