import ReplicaSeed.Operation.Record
import ReplicaSeed.Seed.Wire

/-!
# Operations in JSON

How phases, stage records and operations are written to the control plane, and how they are read
back. The process of a record and the number of its dispatch are the agent's own and are not
written.
-/

namespace ReplicaSeed

def Phase.toJson (p : Phase) : Json := p.name

def Phase.ofJson? (v : Json) : Option Phase := v.variant? Phase.ofName?

namespace StageRecord

/-- The keys of a record. -/
def keys : List String :=
  ["SeedID", "Stage", "Side", "Method", "Hostname", "StartedAt", "UpdatedAt", "Status", "Details"]

def toJson (r : StageRecord) : Json :=
  .obj [
    ("SeedID", r.seedId.toJson),
    ("Stage", r.stage.toJson),
    ("Side", r.side.toJson),
    ("Method", r.method.toJson),
    ("Hostname", r.hostname),
    ("StartedAt", r.startedAt.text),
    ("UpdatedAt", r.updatedAt.text),
    ("Status", r.status.toJson),
    ("Details", r.details)]

def ofJson? (v : Json) : Option StageRecord := do
  match ← v.fields? keys with
  | [some seedId, some stage, some side, some method, some hostname, some startedAt,
      some updatedAt, some status, some details] =>
    return {
      seedId := ← SeedId.ofJson? seedId
      stage := ← Stage.ofJson? stage
      side := ← Side.ofJson? side
      method := ← Method.ofJson? method
      hostname := ← hostname.str?
      startedAt := ← Instant.ofText? (← startedAt.str?)
      updatedAt := ← Instant.ofText? (← updatedAt.str?)
      status := ← Status.ofJson? status
      details := ← details.str? }
  | _ => none

end StageRecord

namespace Operation

/-- The keys of an operation. -/
def keys : List String := ["ID", "Stage", "Side", "Method", "Status", "StageRecords"]

def toJson (op : Operation) : Json :=
  .obj [
    ("ID", op.seedId.toJson),
    ("Stage", op.stage.toJson),
    ("Side", op.side.toJson),
    ("Method", op.method.toJson),
    ("Status", op.status.toJson),
    ("StageRecords", .obj (op.records.toList.map fun (stage, r) => (stage.name, r.toJson)))]

/-- A table of records from JSON; of two records under one stage the later counts. -/
def recordsOfJson? : Json → Option (Stage.Map StageRecord)
  | .obj members =>
    members.foldlM (fun records (key, v) => do
      return records.insert (← Stage.ofName? key) (← StageRecord.ofJson? v)) Stage.Map.empty
  | _ => none

def ofJson? (v : Json) : Option Operation := do
  match ← v.fields? keys with
  | [some seedId, some stage, some side, some method, some status, some records] =>
    return {
      seedId := ← SeedId.ofJson? seedId
      stage := ← Stage.ofJson? stage
      side := ← Side.ofJson? side
      method := ← Method.ofJson? method
      status := ← Status.ofJson? status
      records := ← recordsOfJson? records }
  | _ => none

end Operation

end ReplicaSeed
