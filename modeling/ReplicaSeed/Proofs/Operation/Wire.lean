import ReplicaSeed.Operation.Wire
import ReplicaSeed.Proofs.Agent.Unnumbered
import ReplicaSeed.Proofs.Seed.Wire
import ReplicaSeed.Proofs.Time.Instant

/-!
# Operations that are written are read

A record is read from its JSON with all but its process and the number of its dispatch, which are
not written; an operation is read with all of its records.

## Main definitions

* `StageRecord.asWritten`, `Operation.asWritten`: what is left of them.
* `StageRecord.Ordinary`, `Operation.Ordinary`: their times are in years of four digits.

## Main statements

* `Stage.Map.foldl_insert_toList`: a table is put together from its entries.
* `StageRecord.carries_toJson`, `Operation.carries_toJson`: what is written carries what is left.
-/

namespace ReplicaSeed

/-- A table is put together from its entries. -/
theorem Stage.Map.foldl_insert_toList {α : Type} (m : Map α) :
    m.toList.foldl (fun n (stage, a) => n.insert stage a) empty = m := by
  obtain ⟨a, b, c, d, e⟩ := m
  cases a <;> cases b <;> cases c <;> cases d <;> cases e <;> rfl

namespace StageRecord

variable (r : StageRecord)

/-- The record without what the agent keeps to itself. -/
def asWritten : StageRecord := { r with process := none, generation := 0 }

/-- The times of the record are written with years of four digits. -/
structure Ordinary : Prop where
  startedAt : r.startedAt.Ordinary
  updatedAt : r.updatedAt.Ordinary

variable {r}

/-- A record is carried but for what the agent keeps to itself. -/
theorem carries_toJson (ordinary : r.Ordinary) : r.toJson.Carries ofJson? r.asWritten := by
  have seedId := r.seedId.carries_toJson
  have stage := r.stage.carries_toJson
  have side := r.side.carries_toJson
  have method := r.method.carries_toJson
  have status := r.status.carries_toJson
  constructor
  · refine .obj ?_
    simp only [List.forall_mem_cons]
    exact ⟨seedId.readable, stage.readable, side.readable, method.readable, .str _, .str _, .str _,
      status.readable, .str _, nofun⟩
  · have fields : r.toJson.fields? keys = _ := Json.fields?_obj (by decide : keys.Nodup)
    simp only [ofJson?, fields, List.map_cons, List.map_nil, Option.bind_eq_bind, Option.bind_some,
      seedId.read_eq, stage.read_eq, side.read_eq, method.read_eq, status.read_eq, Json.str?,
      Instant.ofText?_text ordinary.startedAt, Instant.ofText?_text ordinary.updatedAt]
    rfl

end StageRecord

namespace Operation

variable (op : Operation)

/-- The operation without what the agent keeps to itself. -/
def asWritten : Operation := { op with records := op.records.map StageRecord.asWritten }

/-- The times of all records are written with years of four digits. -/
def Ordinary : Prop := ∀ stage r, op.record? stage = some r → r.Ordinary

/-- The JSON of an entry of the table of records. -/
def entryJson (entry : Stage × StageRecord) : String × Json := (entry.1.name, entry.2.toJson)

/-- Records are read one by one into the table. -/
theorem foldlM_records {entries : List (Stage × StageRecord)}
    (ordinary : ∀ entry ∈ entries, entry.2.Ordinary) (records : Stage.Map StageRecord) :
    (entries.map entryJson).foldlM (fun records (key, v) => do
        return records.insert (← Stage.ofName? key) (← StageRecord.ofJson? v)) records =
      some ((entries.map fun (stage, r) => (stage, r.asWritten)).foldl
        (fun n (stage, r) => n.insert stage r) records) := by
  induction entries generalizing records with
  | nil => rfl
  | cons entry entries ih =>
    obtain ⟨first, others⟩ := List.forall_mem_cons.1 ordinary
    have stage := entry.1.ofName?_name
    have record := (StageRecord.carries_toJson first).read_eq
    simp only [List.map_cons, List.foldlM_cons, List.foldl_cons, entryJson, stage, record,
      Option.bind_eq_bind, Option.bind_some, Option.pure_def]
    exact ih others _

/-- The table of records is carried by the JSON of its entries. -/
theorem carries_records {records : Stage.Map StageRecord}
    (ordinary : ∀ entry ∈ records.toList, entry.2.Ordinary) :
    (Json.obj (records.toList.map entryJson)).Carries recordsOfJson?
      (records.map StageRecord.asWritten) := by
  constructor
  · exact .obj (List.forall_mem_map.2 fun entry member =>
      (StageRecord.carries_toJson (ordinary entry member)).readable)
  · rw [recordsOfJson?]
    refine (foldlM_records ordinary .empty).trans ?_
    rw [← Stage.Map.toList_map, Stage.Map.foldl_insert_toList]

variable {op}

/-- An operation is carried but for what the agent keeps to itself. -/
theorem carries_toJson (ordinary : op.Ordinary) : op.toJson.Carries ofJson? op.asWritten := by
  have seedId := op.seedId.carries_toJson
  have stage := op.stage.carries_toJson
  have side := op.side.carries_toJson
  have method := op.method.carries_toJson
  have status := op.status.carries_toJson
  have records := carries_records fun entry member =>
    ordinary entry.1 entry.2 (Stage.Map.mem_toList_iff.1 member)
  constructor
  · refine .obj ?_
    simp only [List.forall_mem_cons]
    exact ⟨seedId.readable, stage.readable, side.readable, method.readable, status.readable,
      records.readable, nofun⟩
  · have fields : op.toJson.fields? keys = _ := Json.fields?_obj (by decide : keys.Nodup)
    have read : recordsOfJson? (.obj (op.records.toList.map fun (stage, r) =>
        (stage.name, r.toJson))) = some (op.records.map StageRecord.asWritten) := records.read_eq
    simp only [ofJson?, fields, List.map_cons, List.map_nil, Option.bind_eq_bind, Option.bind_some,
      seedId.read_eq, stage.read_eq, side.read_eq, method.read_eq, status.read_eq, read]
    rfl

end Operation

end ReplicaSeed
