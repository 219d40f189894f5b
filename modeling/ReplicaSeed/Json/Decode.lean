import ReplicaSeed.Json.Basic

/-!
# Reading values from JSON

How the agent's types are read from a JSON value: enumerations by name, records by their keys or by
position.

## Main definitions

* `Json.variant?`: a member of an enumeration.
* `Json.fields?`: the fields of a record.
-/

namespace ReplicaSeed.Json

/-- A boolean. -/
def bool? : Json → Option Bool
  | bool b => some b
  | _ => none

/-- A string. -/
def str? : Json → Option String
  | str s => some s
  | _ => none

/-- An integer from `lo` to `hi`. -/
def intIn? (lo hi : Int) : Json → Option Int
  | int n => if lo ≤ n ∧ n ≤ hi then some n else none
  | _ => none

/-- A signed 64-bit integer. -/
def int64? (v : Json) : Option Int64 :=
  (v.intIn? (-9223372036854775808) 9223372036854775807).map Int64.ofInt

/-- The items of an array. -/
def arr? : Json → Option (List Json)
  | arr items => some items
  | _ => none

/-- A member of an enumeration: its name, or an object with the name as the only key and null as
the value. -/
def variant? {α : Type} (ofName? : String → Option α) : Json → Option α
  | str s => ofName? s
  | obj [(name, null)] => ofName? name
  | _ => none

/-- The values under a key. -/
def membersNamed (members : List (String × Json)) (key : String) : List Json :=
  members.filterMap fun (k, v) => if k = key then some v else none

/-- The fields of a record, in the order of their names, each with its value if it has one. An
object gives them by key: other keys do not matter, a key of the record must not be repeated. An
array gives them by position and must not have more. -/
def fields? (names : List String) : Json → Option (List (Option Json))
  | obj members =>
    names.mapM fun name =>
      match membersNamed members name with
      | [] => some none
      | [v] => some (some v)
      | _ => none
  | arr items =>
    if items.length ≤ names.length then
      some (items.map some ++ List.replicate (names.length - items.length) none)
    else none
  | _ => none

end ReplicaSeed.Json
