import ReplicaSeed.Seed.Name

/-!
# Stages of a seed

The stages of a seed operation, their statuses, and tables with an entry per stage.

## Main definitions

* `Stage`, `Status`: the two enumerations.
* `Stage.ofText?`: reading a stage from a request.
* `Stage.Map`: a table with at most one entry per stage.
-/

namespace ReplicaSeed

/-- A stage of a seed operation. All but `metadataFetch` move the operation forward. -/
inductive Stage where
  | prepare
  | backup
  | restore
  | cleanup
  | metadataFetch
  deriving DecidableEq, Repr

namespace Stage

/-- Every stage, in forward order. -/
def all : List Stage := [.prepare, .backup, .restore, .cleanup, .metadataFetch]

theorem mem_all (s : Stage) : s ∈ all := by cases s <;> decide

/-- The canonical name. -/
def name : Stage → String
  | prepare => "Prepare"
  | backup => "Backup"
  | restore => "Restore"
  | cleanup => "Cleanup"
  | metadataFetch => "MetadataFetch"

instance : ToString Stage := ⟨name⟩

/-- The stage of a canonical name. -/
def ofName? (s : String) : Option Stage := all.find? fun stage => stage.name == s

/-- The stage that a request names. -/
def ofText? (s : String) : Except NameFault Stage :=
  match nameKey s with
  | "prepare" => .ok prepare
  | "backup" => .ok backup
  | "restore" => .ok restore
  | "cleanup" => .ok cleanup
  | "metadatafetch" | "metadata" | "getmetadata" => .ok metadataFetch
  | _ => .error (.stage s)

/-- The stage moves the operation; a metadata fetch only reads beside it. -/
def isForward : Stage → Bool
  | metadataFetch => false
  | _ => true

/-- A table with at most one entry per stage. -/
structure Map (α : Type) where
  prepare : Option α := none
  backup : Option α := none
  restore : Option α := none
  cleanup : Option α := none
  metadataFetch : Option α := none
  deriving DecidableEq, Repr

namespace Map

variable {α : Type}

/-- The table without entries. -/
def empty : Map α := {}

/-- The entry of a stage. -/
def get? (m : Map α) : Stage → Option α
  | .prepare => m.prepare
  | .backup => m.backup
  | .restore => m.restore
  | .cleanup => m.cleanup
  | .metadataFetch => m.metadataFetch

/-- The table with the entry of one stage set or taken away. -/
def put (m : Map α) (stage : Stage) (entry : Option α) : Map α :=
  match stage with
  | .prepare => { m with prepare := entry }
  | .backup => { m with backup := entry }
  | .restore => { m with restore := entry }
  | .cleanup => { m with cleanup := entry }
  | .metadataFetch => { m with metadataFetch := entry }

/-- The table with an entry for `stage`, in place of the one it may have had. -/
def insert (m : Map α) (stage : Stage) (entry : α) : Map α := m.put stage (some entry)

/-- The entries with their stages, in forward order. -/
def toList (m : Map α) : List (Stage × α) :=
  all.filterMap fun stage => (m.get? stage).map fun entry => (stage, entry)

/-- The table has no entry. -/
def isEmpty (m : Map α) : Bool := m.toList.isEmpty

@[simp] theorem get?_empty (s : Stage) : (empty : Map α).get? s = none := by cases s <;> rfl

@[simp] theorem get?_put_self (m : Map α) (s : Stage) (e : Option α) : (m.put s e).get? s = e := by
  cases s <;> rfl

@[simp] theorem get?_put_of_ne (m : Map α) {s t : Stage} (e : Option α) (h : t ≠ s) :
    (m.put s e).get? t = m.get? t := by
  cases s <;> cases t <;> first | rfl | exact absurd rfl h

theorem get?_put (m : Map α) (s t : Stage) (e : Option α) :
    (m.put s e).get? t = if t = s then e else m.get? t := by
  by_cases h : t = s
  · subst h; simp
  · simp [h]

theorem get?_insert (m : Map α) (s t : Stage) (a : α) :
    (m.insert s a).get? t = if t = s then some a else m.get? t := get?_put ..

/-- Two tables with the same entries are the same. -/
theorem ext_get? {m n : Map α} (h : ∀ s, m.get? s = n.get? s) : m = n := by
  cases m; cases n
  have h1 := h .prepare
  have h2 := h .backup
  have h3 := h .restore
  have h4 := h .cleanup
  have h5 := h .metadataFetch
  simp only [get?] at h1 h2 h3 h4 h5
  simp [h1, h2, h3, h4, h5]

theorem mem_toList_iff {m : Map α} {s : Stage} {a : α} : (s, a) ∈ m.toList ↔ m.get? s = some a := by
  simp only [toList, List.mem_filterMap, Option.map_eq_some_iff, Prod.mk.injEq]
  constructor
  · rintro ⟨_, _, _, h, rfl, rfl⟩
    exact h
  · exact fun h => ⟨s, mem_all s, a, h, rfl, rfl⟩

end Map

end Stage

/-- The status of a stage, and of the operation as a whole. -/
inductive Status where
  | running
  | completed
  | error
  | cancelled
  deriving DecidableEq, Repr

namespace Status

/-- Every status. -/
def all : List Status := [.running, .completed, .error, .cancelled]

theorem mem_all (s : Status) : s ∈ all := by cases s <;> decide

/-- The canonical name. -/
def name : Status → String
  | running => "Running"
  | completed => "Completed"
  | error => "Error"
  | cancelled => "Cancelled"

instance : ToString Status := ⟨name⟩

/-- The status of a canonical name. -/
def ofName? (s : String) : Option Status := all.find? fun status => status.name == s

/-- No further progress will be reported. -/
def isTerminal (s : Status) : Bool := s != running

/-- A repeated request for the stage does not run it again. -/
def blocksRestart : Status → Bool
  | running | completed => true
  | error | cancelled => false

end Status

end ReplicaSeed
