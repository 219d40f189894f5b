import ReplicaSeed.Method.ClonePlugin
import ReplicaSeed.Method.Lvm
import ReplicaSeed.Method.Mydumper
import ReplicaSeed.Method.Xtrabackup

/-!
# Registered methods

The seed methods that an agent offers, in the order of `Method.all`, with what the last probe of
each has found.

## Main definitions

* `Registry`: the methods.
* `Registry.ofConfig`: the methods that a configuration enables.
* `Registry.register`: adding or replacing a method.
* `Registry.resolve?`, `Registry.isAvailable`: looking one up.
* `Registry.publish`: the descriptors after a probe.
-/

namespace ReplicaSeed

/-- A method with what is known about it. -/
structure Registration (I : Interface) where
  method : SeedMethod I
  /-- The version of the tool, once a probe has found it. -/
  version : ToolVersion
  /-- What the control plane is told. -/
  descriptor : Descriptor

/-- The methods of an agent, at most one of each kind. -/
structure Registry (I : Interface) where
  entries : List (Registration I)

namespace Registry

variable {I J : Interface}

/-- No method at all. -/
def empty : Registry I := ⟨[]⟩

/-- The entry of a kind. -/
def find? (r : Registry I) (kind : Method) : Option (Registration I) :=
  r.entries.find? fun e => e.method.kind == kind

/-- The registry with the entry of one kind set. -/
def put (r : Registry I) (kind : Method) (entry : Registration I) : Registry I :=
  ⟨Method.all.filterMap fun k => if k = kind then some entry else r.find? k⟩

/-- The registry with one more method, in place of one of its kind. It counts as unavailable until
it is probed. -/
def register (r : Registry I) (m : SeedMethod I) : Registry I :=
  r.put m.kind ⟨m, none, m.describe none false⟩

/-- The method of a kind. -/
def get? (r : Registry I) (kind : Method) : Option (SeedMethod I) := (r.find? kind).map (·.method)

/-- The method that a request names. -/
def resolve? (r : Registry I) (name : String) : Option (SeedMethod I) :=
  match Method.ofText? name with
  | .ok kind => r.get? kind
  | .error _ => none

/-- The last probe found the tools of the method. -/
def isAvailable (r : Registry I) (kind : Method) : Bool :=
  (r.find? kind).any fun e => e.descriptor.available

/-- The descriptors of all methods. -/
def descriptors (r : Registry I) : List Descriptor := r.entries.map (·.descriptor)

/-- The registry that knows the version of the tool of a kind. -/
def learn (r : Registry I) (kind : Method) (version : ToolVersion) : Registry I :=
  match r.find? kind with
  | some e => r.put kind { e with version }
  | none => r

/-- The registry where a probe of a kind has found something: its version and its descriptor are
up to date. -/
def publish (r : Registry I) (kind : Method) (finding : Finding) : Registry I :=
  match r.find? kind with
  | some e =>
    r.put kind
      { e with
        version := finding.version
        descriptor := e.method.describe finding.version finding.available }
  | none => r

/-- The registry where the requests of `J` can be made as well. -/
def widen (r : Registry I) : Registry (I.sum J) :=
  ⟨r.entries.map fun e => ⟨e.method.widen, e.version, e.descriptor⟩⟩

/-- The methods that a configuration enables. -/
def ofConfig (site : Site) (methods : Config.Methods) : Registry Interface.host :=
  let enabled : List (Bool × SeedMethod Interface.host) :=
    [(methods.mysqldump.enabled, Mysqldump.method site methods.mysqldump),
      (methods.mydumper.enabled, Mydumper.method site methods.mydumper),
      (methods.xtrabackup.enabled, Xtrabackup.method site methods.xtrabackup),
      (methods.lvm.enabled, Lvm.method site methods.lvm),
      (methods.clonePlugin.enabled, ClonePlugin.method site)]
  enabled.foldl (fun r (on, m) => if on then r.register m else r) empty

/-- The text of a registry in a diagnostic. -/
def diagnostic (r : Registry I) : String :=
  "SeedMethodRegistry \x7b methods: [" ++
    ", ".intercalate (r.entries.map fun e => e.method.kind.diagnostic) ++ "], .. \x7d"

end Registry

end ReplicaSeed
