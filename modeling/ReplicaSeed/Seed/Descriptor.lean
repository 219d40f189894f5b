import ReplicaSeed.Seed.Engine
import ReplicaSeed.Seed.Method

/-!
# Method descriptors

What the control plane is told about a seed method.
-/

namespace ReplicaSeed

/-- A seed method as the control plane sees it. -/
structure Descriptor where
  method : Method
  /-- The engines whose tables survive the method intact. -/
  engines : EngineSet
  /-- The backup lands in the live data directory. -/
  intoDatadir : Bool
  /-- The last probe found the tools of the method. -/
  available : Bool
  deriving DecidableEq

/-- The method carries the tables of every engine of the list. -/
def Descriptor.supportsAll (d : Descriptor) (es : List Engine) : Bool := d.engines.containsAll es

end ReplicaSeed
