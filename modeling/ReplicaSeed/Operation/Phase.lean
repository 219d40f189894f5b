import ReplicaSeed.Seed.Stage

/-!
# Phases of an operation

The phase of an operation follows from its current stage and the status of that stage. A stage may
start whenever nothing is in flight; a stage that failed does not stop later ones. Metadata is read
beside any phase of an operation and never moves it.

## Main definitions

* `Phase`: the phases.
* `Phase.of`: the phase of a stage and its status.
* `Phase.allows`: whether a stage may start.
-/

namespace ReplicaSeed

/-- What the agent's operation is doing, as others see it. -/
inductive Phase where
  | idle
  | preparing
  | backingUp
  | restoring
  | cleaningUp
  | completed
  | error
  | cancelled
  deriving DecidableEq, Repr

namespace Phase

/-- Every phase. -/
def all : List Phase :=
  [.idle, .preparing, .backingUp, .restoring, .cleaningUp, .completed, .error, .cancelled]

theorem mem_all (p : Phase) : p ∈ all := by cases p <;> decide

/-- The phase of an operation whose current stage is `stage` with the given status. -/
def of (stage : Stage) : Status → Phase
  | .running =>
    match stage with
    | .prepare => preparing
    | .backup | .metadataFetch => backingUp
    | .restore => restoring
    | .cleanup => cleaningUp
  | .completed => completed
  | .error => error
  | .cancelled => cancelled

/-- The name in JSON. -/
def name : Phase → String
  | idle => "Idle"
  | preparing => "Preparing"
  | backingUp => "BackingUp"
  | restoring => "Restoring"
  | cleaningUp => "CleaningUp"
  | completed => "Completed"
  | error => "Error"
  | cancelled => "Cancelled"

/-- The phase of a name. -/
def ofName? (s : String) : Option Phase := all.find? fun phase => phase.name == s

/-- The name in messages. -/
def text : Phase → String
  | backingUp => "Backing-up"
  | cleaningUp => "Cleaning-up"
  | p => p.name

instance : ToString Phase := ⟨text⟩

/-- A stage of the operation is in flight. -/
def isActive : Phase → Bool
  | preparing | backingUp | restoring | cleaningUp => true
  | _ => false

/-- The current stage has ended. -/
def isSettled : Phase → Bool
  | completed | error | cancelled => true
  | _ => false

/-- The stage may start: Prepare from nothing, any forward stage once the current one has ended,
and a metadata fetch beside anything. -/
def allows : Phase → Stage → Bool
  | idle, stage => stage == .prepare
  | _, .metadataFetch => true
  | phase, _ => phase.isSettled

end Phase

end ReplicaSeed
