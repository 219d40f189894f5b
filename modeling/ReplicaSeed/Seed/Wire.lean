import ReplicaSeed.Json.Decode
import ReplicaSeed.Seed.Coordinates
import ReplicaSeed.Seed.Descriptor
import ReplicaSeed.Seed.Id
import ReplicaSeed.Seed.Side
import ReplicaSeed.Seed.Stage

/-!
# The vocabulary in JSON

How identifiers, names, coordinates and descriptors are written to the control plane and into
files, and how they are read back.
-/

namespace ReplicaSeed

def SeedId.toJson (id : SeedId) : Json := .int id.val.toInt

def SeedId.ofJson? (v : Json) : Option SeedId := v.int64?.map SeedId.mk

def Stage.toJson (s : Stage) : Json := s.name

def Stage.ofJson? (v : Json) : Option Stage := v.variant? Stage.ofName?

def Side.toJson (s : Side) : Json := s.name

def Side.ofJson? (v : Json) : Option Side := v.variant? Side.ofName?

def Status.toJson (s : Status) : Json := s.name

def Status.ofJson? (v : Json) : Option Status := v.variant? Status.ofName?

def Method.toJson (m : Method) : Json := m.name

def Method.ofJson? (v : Json) : Option Method := v.variant? Method.ofName?

def Engine.toJson (e : Engine) : Json := e.name

def Engine.ofJson? (v : Json) : Option Engine := v.variant? Engine.ofName?

namespace Coordinates

/-- The keys of coordinates. -/
def keys : List String := ["LogFile", "LogPos", "GtidExecuted"]

def toJson (c : Coordinates) : Json :=
  .obj [("LogFile", c.logFile), ("LogPos", .int c.logPos.toInt), ("GtidExecuted", c.gtidExecuted)]

/-- Coordinates from JSON; the transaction set may be missing. -/
def ofJson? (v : Json) : Option Coordinates := do
  match ← v.fields? keys with
  | [some file, some pos, gtid] =>
    let set ← match gtid with
      | none => some ""
      | some g => g.str?
    return ⟨← file.str?, ← pos.int64?, set⟩
  | _ => none

end Coordinates

namespace Descriptor

/-- The keys of a descriptor. -/
def keys : List String := ["name", "supported_engines", "backups_into_datadir", "is_available"]

def toJson (d : Descriptor) : Json :=
  .obj [
    ("name", d.method.toJson),
    ("supported_engines", .arr (d.engines.toList.map Engine.toJson)),
    ("backups_into_datadir", .bool d.intoDatadir),
    ("is_available", .bool d.available)]

/-- A descriptor from JSON; the order of the engines and repetitions of them do not matter. -/
def ofJson? (v : Json) : Option Descriptor := do
  match ← v.fields? keys with
  | [some method, some engines, some intoDatadir, some available] =>
    return {
      method := ← Method.ofJson? method
      engines := EngineSet.ofList (← (← engines.arr?).mapM Engine.ofJson?)
      intoDatadir := ← intoDatadir.bool?
      available := ← available.bool? }
  | _ => none

end Descriptor

end ReplicaSeed
