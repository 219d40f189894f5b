import ReplicaSeed.Seed.Name

/-!
# Storage engines

The storage engines whose tables a seed method can carry over, and sets of them.

## Main definitions

* `Engine`: the enumeration.
* `EngineSet`: a set of engines, in one canonical order.
-/

namespace ReplicaSeed

/-- A storage engine. -/
inductive Engine where
  | innoDb
  | myIsam
  | mrgMyIsam
  | csv
  | blackhole
  | memory
  | archive
  | federated
  | rocksDb
  | tokuDb
  deriving DecidableEq, Repr

namespace Engine

/-- Every engine, in canonical order. -/
def all : List Engine :=
  [.innoDb, .myIsam, .mrgMyIsam, .csv, .blackhole, .memory, .archive, .federated, .rocksDb, .tokuDb]

theorem mem_all (e : Engine) : e ∈ all := by cases e <;> decide

/-- The name that the server reports. -/
def name : Engine → String
  | innoDb => "InnoDB"
  | myIsam => "MyISAM"
  | mrgMyIsam => "MRG_MYISAM"
  | csv => "CSV"
  | blackhole => "BLACKHOLE"
  | memory => "MEMORY"
  | archive => "ARCHIVE"
  | federated => "FEDERATED"
  | rocksDb => "ROCKSDB"
  | tokuDb => "TokuDB"

instance : ToString Engine := ⟨name⟩

/-- The engine in a diagnostic. -/
def diagnostic : Engine → String
  | innoDb => "InnoDb"
  | myIsam => "MyIsam"
  | mrgMyIsam => "MrgMyIsam"
  | csv => "Csv"
  | blackhole => "Blackhole"
  | memory => "Memory"
  | archive => "Archive"
  | federated => "Federated"
  | rocksDb => "RocksDb"
  | tokuDb => "TokuDb"

/-- The engine of a reported name. -/
def ofName? (s : String) : Option Engine := all.find? fun engine => engine.name == s

/-- The engine that a request names; its separators do matter. -/
def ofText? (s : String) : Except NameFault Engine :=
  match String.ofList ((Text.trim s.toList).map Char.toUpper) with
  | "INNODB" => .ok innoDb
  | "MYISAM" => .ok myIsam
  | "MRG_MYISAM" => .ok mrgMyIsam
  | "CSV" => .ok csv
  | "BLACKHOLE" => .ok blackhole
  | "MEMORY" => .ok memory
  | "ARCHIVE" => .ok archive
  | "FEDERATED" => .ok federated
  | "ROCKSDB" => .ok rocksDb
  | "TOKUDB" => .ok tokuDb
  | _ => .error (.engine s)

end Engine

/-- A set of engines: each at most once, in canonical order. -/
structure EngineSet where
  toList : List Engine
  sorted : (Engine.all.filter fun e => toList.contains e) = toList
  deriving DecidableEq

namespace EngineSet

/-- The set of the engines of a list. -/
def ofList (es : List Engine) : EngineSet where
  toList := Engine.all.filter fun e => es.contains e
  sorted := by
    apply List.filter_congr
    intro e he
    simp [he]

instance : Membership Engine EngineSet := ⟨fun s e => e ∈ s.toList⟩

instance (e : Engine) (s : EngineSet) : Decidable (e ∈ s) :=
  inferInstanceAs (Decidable (e ∈ s.toList))

@[simp] theorem mem_ofList {e : Engine} {es : List Engine} : e ∈ ofList es ↔ e ∈ es := by
  change e ∈ Engine.all.filter _ ↔ _
  simp [Engine.mem_all]

@[simp] theorem ofList_toList (s : EngineSet) : ofList s.toList = s := by
  cases s with
  | mk es h => simp only [ofList, mk.injEq]; exact h

/-- The set with one engine more. -/
def insert (s : EngineSet) (e : Engine) : EngineSet := ofList (e :: s.toList)

/-- Every engine of the list is in the set. -/
def containsAll (s : EngineSet) (es : List Engine) : Bool := es.all fun e => decide (e ∈ s)

end EngineSet

end ReplicaSeed
