import ReplicaSeed.Seed.Name
import ReplicaSeed.Text.Numeral

/-!
# Seed identifiers

The identifier that the control plane gives to a seed operation.
-/

namespace ReplicaSeed

/-- The identifier of a seed operation. -/
structure SeedId where
  val : Int64
  deriving DecidableEq, Repr

namespace SeedId

/-- The decimal text of the identifier. -/
def text (id : SeedId) : String := Text.int64Text id.val

/-- The identifier in a diagnostic. -/
def diagnostic (id : SeedId) : String := "SeedId(" ++ id.text ++ ")"

instance : ToString SeedId := ⟨text⟩

/-- Reads an identifier: a signed 64-bit numeral, blanks at its ends aside. -/
def ofText? (s : String) : Except NameFault SeedId :=
  match Text.readInt64 (Text.trim s.toList) with
  | .ok n => .ok ⟨n⟩
  | .error _ => .error (.seedId s)

end SeedId

end ReplicaSeed
