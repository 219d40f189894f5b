import ReplicaSeed.Json.Decode
import ReplicaSeed.Proofs.Json.RoundTrip

/-!
# Values that are read from their JSON

How what is written as JSON is read again: names, integers, lists, and records by their keys.

## Main definitions

* `Json.Carries`: a value is read from the JSON, and the JSON is read from its text.

## Main statements

* `Json.Carries.read_text`: the value is read from the text.
* `Json.carries_variant`, `Json.carries_int64`, `Json.carries_arr`: what carries what.
* `Json.fields?_obj`: a record that is written with its keys in order has all its fields.
-/

namespace ReplicaSeed.Json

variable {α : Type} {read : Json → Option α} {v : Json} {a : α}

/-- The JSON carries a value: the value is read from it, and the JSON is read from its own text. -/
structure Carries (v : Json) (read : Json → Option α) (a : α) : Prop where
  readable : v.Readable
  read_eq : read v = some a

theorem Carries.read_text (h : v.Carries read a) : (ofText? v.text).bind read = some a := by
  rw [ofText?_text h.readable, Option.bind_some, h.read_eq]

/-- A member of an enumeration is carried by its name. -/
theorem carries_variant {ofName? : String → Option α} {name : String}
    (named : ofName? name = some a) : (str name).Carries (variant? ofName?) a := ⟨.str name, named⟩

theorem carries_int64 (n : Int64) : (int n.toInt).Carries int64? n := by
  have range : -9223372036854775808 ≤ n.toInt ∧ n.toInt ≤ 9223372036854775807 :=
    ⟨n.le_toInt, Int.le_of_lt_add_one n.toInt_lt⟩
  refine ⟨.int ⟨range.1, Int.le_trans range.2 (by decide)⟩, ?_⟩
  rw [int64?, intIn?, if_pos range, Option.map_some, Int64.ofInt_toInt]

/-- What is made of a value that is carried is carried as well. -/
theorem Carries.map {β : Type} (f : α → β) (h : v.Carries read a) :
    v.Carries (fun v => (read v).map f) (f a) :=
  ⟨h.readable, by rw [h.read_eq, Option.map_some]⟩

/-- A list is carried item by item. -/
theorem carries_arr {write : α → Json} {as : List α} (each : ∀ a ∈ as, (write a).Carries read a) :
    (arr (as.map write)).Carries (fun v => v.arr?.bind (List.mapM read)) as := by
  refine ⟨.arr (List.forall_mem_map.2 fun a member => (each a member).readable), ?_⟩
  have items := mapM_eq_some (f := read ∘ write) (g := id) fun a member => (each a member).read_eq
  simpa only [arr?, Option.bind_some, List.mapM_map, List.map_id] using items

/-! ## Records -/

section

variable {members : List (String × Json)} {key : String}

theorem membersNamed_eq_nil (absent : key ∉ members.map (·.1)) : membersNamed members key = [] := by
  refine List.filterMap_eq_nil_iff.2 fun m member => if_neg ?_
  rintro rfl
  exact absent (List.mem_map_of_mem member)

/-- A key that is not repeated has one value. -/
theorem membersNamed_of_mem (distinct : (members.map (·.1)).Nodup) (member : (key, v) ∈ members) :
    membersNamed members key = [v] := by
  induction members with
  | nil => cases member
  | cons m members ih =>
    rw [List.map_cons, List.nodup_cons] at distinct
    obtain rfl | later := List.mem_cons.1 member
    · have alone := membersNamed_eq_nil distinct.1
      simp only [membersNamed] at alone ⊢
      simp [alone]
    · have other : m.1 ≠ key := by
        rintro rfl
        exact distinct.1 (List.mem_map.2 ⟨_, later, rfl⟩)
      have one := ih distinct.2 later
      simp only [membersNamed] at one ⊢
      simp [other, one]

/-- A record that is written with its keys in order has all its fields. -/
theorem fields?_obj (distinct : (members.map (·.1)).Nodup) :
    (obj members).fields? (members.map (·.1)) = some (members.map fun m => some m.2) := by
  simp only [fields?, List.mapM_map]
  refine mapM_eq_some fun m member => ?_
  simp only [Function.comp_apply, membersNamed_of_mem distinct member]

end

end ReplicaSeed.Json
