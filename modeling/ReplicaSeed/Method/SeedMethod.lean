import ReplicaSeed.Method.Site
import ReplicaSeed.Operation.Request
import ReplicaSeed.Seed.Descriptor

/-!
# Seed methods

What every seed method offers: a probe for its tools, the stages, and the coordinates of the backup.

## Main definitions

* `SeedMethod`: a method.
* `SeedMethod.describe`: its descriptor.
* `SeedMethod.stage`: the work of a requested stage.
-/

namespace ReplicaSeed

/-- The parameters of a Backup. -/
structure BackupRequest where
  side : Side
  /-- The other server: the source of the data, or the host that they are sent to. -/
  host : String
  port : UInt16
  deriving DecidableEq, Repr

/-- The major version of the tool of a method, once it is known. -/
abbrev ToolVersion := Option UInt32

/-- What a probe found. -/
structure Finding where
  available : Bool
  version : ToolVersion := none
  deriving DecidableEq, Repr

/-- A seed method whose procedures make the requests of `I`. -/
structure SeedMethod (I : Interface) where
  kind : Method
  /-- The engines whose tables survive, which may depend on the version of the tool. -/
  engines : ToolVersion → EngineSet
  /-- The backup lands in the data directory, so Restore begins with the service stopped. -/
  intoDatadir : Bool
  /-- Looks for the tools of the method; it is told the version that an earlier probe found. -/
  probe : ToolVersion → Procedure I Finding
  prepare : Side → Procedure I Unit
  backup : BackupRequest → Procedure I Unit
  restore : Procedure I Unit
  /-- The coordinates of the backup. -/
  coordinates : Procedure I Coordinates
  cleanup : Side → Procedure I Unit

namespace SeedMethod

variable {I J : Interface}

/-- The descriptor of a method. -/
def describe (m : SeedMethod I) (version : ToolVersion) (available : Bool) : Descriptor where
  method := m.kind
  engines := m.engines version
  intoDatadir := m.intoDatadir
  available := available

/-- The method where the requests of `J` can be made as well. -/
def widen (m : SeedMethod I) : SeedMethod (I.sum J) where
  kind := m.kind
  engines := m.engines
  intoDatadir := m.intoDatadir
  probe := fun version => (m.probe version).widen
  prepare := fun side => (m.prepare side).widen
  backup := fun request => (m.backup request).widen
  restore := m.restore.widen
  coordinates := m.coordinates.widen
  cleanup := fun side => (m.cleanup side).widen

/-- The work of a requested stage for an operation on `side`, where `stopService` stops the
database service. -/
def stage (m : SeedMethod I) (stopService : Procedure I Unit) (side : Side) :
    StageRequest → Procedure I Unit
  | .prepare requested => m.prepare requested
  | .backup host port => m.backup ⟨side, host, port⟩
  | .restore => do
    if m.intoDatadir then stopService
    m.restore
  | .cleanup requested => m.cleanup requested

end SeedMethod

end ReplicaSeed
