import ReplicaSeed.Seed.Name

/-!
# Sides of a seed

The end of a seed that an agent is on.
-/

namespace ReplicaSeed

/-- The end of a seed: the host that gives the data, or the host that receives it. -/
inductive Side where
  | source
  | target
  deriving DecidableEq, Repr

namespace Side

/-- Both sides. -/
def all : List Side := [.source, .target]

theorem mem_all (s : Side) : s ∈ all := by cases s <;> decide

/-- The canonical name. -/
def name : Side → String
  | source => "Source"
  | target => "Target"

instance : ToString Side := ⟨name⟩

/-- The side of a canonical name. -/
def ofName? (s : String) : Option Side := all.find? fun side => side.name == s

/-- The side that a request names. -/
def ofText? (s : String) : Except NameFault Side :=
  match nameKey s with
  | "source" => .ok source
  | "target" => .ok target
  | _ => .error (.side s)

end Side

end ReplicaSeed
