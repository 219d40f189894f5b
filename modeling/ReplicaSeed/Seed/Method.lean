import ReplicaSeed.Seed.Name

/-!
# Seed methods

The ways in which the data of one server can be brought to another.
-/

namespace ReplicaSeed

/-- A way to seed a replica. -/
inductive Method where
  | mysqldump
  | mydumper
  | xtrabackup
  | lvm
  | clonePlugin
  deriving DecidableEq, Repr

namespace Method

/-- Every method, in the order of registration. -/
def all : List Method := [.mysqldump, .mydumper, .xtrabackup, .lvm, .clonePlugin]

theorem mem_all (m : Method) : m ∈ all := by cases m <;> decide

/-- The canonical name. -/
def name : Method → String
  | mysqldump => "mysqldump"
  | mydumper => "mydumper"
  | xtrabackup => "xtrabackup"
  | lvm => "lvm"
  | clonePlugin => "clone_plugin"

instance : ToString Method := ⟨name⟩

/-- The method in a diagnostic. -/
def diagnostic : Method → String
  | mysqldump => "Mysqldump"
  | mydumper => "Mydumper"
  | xtrabackup => "Xtrabackup"
  | lvm => "Lvm"
  | clonePlugin => "ClonePlugin"

/-- The method of a canonical name. -/
def ofName? (s : String) : Option Method := all.find? fun method => method.name == s

/-- The method that a request names. -/
def ofText? (s : String) : Except NameFault Method :=
  match nameKey s with
  | "mysqldump" => .ok mysqldump
  | "mydumper" => .ok mydumper
  | "xtrabackup" => .ok xtrabackup
  | "lvm" => .ok lvm
  | "cloneplugin" | "clone" => .ok clonePlugin
  | _ => .error (.method s)

end Method

end ReplicaSeed
