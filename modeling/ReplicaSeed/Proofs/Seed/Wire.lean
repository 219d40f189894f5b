import ReplicaSeed.Proofs.Json.Decode
import ReplicaSeed.Seed.Wire

/-!
# The vocabulary that is written is read

Identifiers, the names of the enumerations, coordinates, and the descriptors of the methods are
carried by their JSON.

## Main statements

* `Method.carries_toJson` and its like: a name is that of its member.
* `Coordinates.carries_toJson`: coordinates are carried whatever they are.
* `Descriptor.carries_toJson`: a descriptor is carried with all of its engines.
-/

namespace ReplicaSeed

theorem SeedId.carries_toJson (id : SeedId) : id.toJson.Carries ofJson? id :=
  (Json.carries_int64 id.val).map SeedId.mk

theorem Stage.ofName?_name (s : Stage) : ofName? s.name = some s := by cases s <;> rfl

theorem Stage.carries_toJson (s : Stage) : s.toJson.Carries ofJson? s :=
  Json.carries_variant s.ofName?_name

theorem Side.carries_toJson (s : Side) : s.toJson.Carries ofJson? s :=
  Json.carries_variant (by cases s <;> rfl)

theorem Status.carries_toJson (s : Status) : s.toJson.Carries ofJson? s :=
  Json.carries_variant (by cases s <;> rfl)

theorem Method.carries_toJson (m : Method) : m.toJson.Carries ofJson? m :=
  Json.carries_variant (by cases m <;> rfl)

theorem Engine.carries_toJson (e : Engine) : e.toJson.Carries ofJson? e :=
  Json.carries_variant (by cases e <;> rfl)

/-- Coordinates are carried whatever they are. -/
theorem Coordinates.carries_toJson (c : Coordinates) : c.toJson.Carries ofJson? c := by
  have pos := Json.carries_int64 c.logPos
  constructor
  · refine .obj ?_
    simp only [List.forall_mem_cons]
    exact ⟨.str _, pos.readable, .str _, nofun⟩
  · have fields : c.toJson.fields? keys = _ := Json.fields?_obj (by decide : keys.Nodup)
    simp only [ofJson?, fields, List.map_cons, List.map_nil, Option.bind_eq_bind, Option.bind_some,
      Json.str?, pos.read_eq, Option.pure_def]

/-- A descriptor is carried with all of its engines. -/
theorem Descriptor.carries_toJson (d : Descriptor) : d.toJson.Carries ofJson? d := by
  have method := d.method.carries_toJson
  have engines := Json.carries_arr fun e (_ : e ∈ d.engines.toList) => e.carries_toJson
  constructor
  · refine .obj ?_
    simp only [List.forall_mem_cons]
    exact ⟨method.readable, engines.readable, .bool _, .bool _, nofun⟩
  · have fields : d.toJson.fields? keys = _ := Json.fields?_obj (by decide : keys.Nodup)
    have items : (d.engines.toList.map Engine.toJson).mapM Engine.ofJson? = some d.engines.toList :=
      engines.read_eq
    simp only [ofJson?, fields, List.map_cons, List.map_nil, Option.bind_eq_bind, Option.bind_some,
      method.read_eq, Json.arr?, items, Json.bool?, EngineSet.ofList_toList, Option.pure_def]

end ReplicaSeed
