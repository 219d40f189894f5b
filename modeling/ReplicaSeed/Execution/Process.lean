import ReplicaSeed.Text.Quoted

/-!
# Processes

The processes that an agent has started, each with a request to stop it, if there was one, and with
its end.

## Main definitions

* `HostProcess`: a process.
* `ProcessTable`: all of them, by number.
* `ProcessTable.cancel`: the request to stop one, which is void once it has ended.
-/

namespace ReplicaSeed

/-- The number of a process among all that the agent has started. -/
abbrev ProcessId := Nat

/-- A process that was started. -/
structure HostProcess where
  /-- Its command line, masked. -/
  command : String
  cancelled : Bool := false
  finished : Bool := false
  deriving DecidableEq, Repr

/-- The process after a request to stop it; one that has ended is not asked. -/
def HostProcess.cancel (p : HostProcess) : HostProcess :=
  if p.finished then p else { p with cancelled := true }

/-- The process after its end. -/
def HostProcess.exit (p : HostProcess) : HostProcess := { p with finished := true }

/-- The process in a diagnostic. It has no process group of the system. -/
def HostProcess.diagnostic (p : HostProcess) : String :=
  "ProcessHandle \x7b pgid: None, command: " ++ Text.quoted p.command ++ ", finished: " ++
    toString p.finished ++ ", cancelled: " ++ toString p.cancelled ++ " \x7d"

/-- The processes that were started, in that order. -/
structure ProcessTable where
  toList : List HostProcess := []
  deriving DecidableEq, Repr

namespace ProcessTable

/-- The process of a number. -/
def get? (t : ProcessTable) (id : ProcessId) : Option HostProcess := t.toList[id]?

/-- The number of the process that is started next. -/
def next (t : ProcessTable) : ProcessId := t.toList.length

/-- The table with one more process. -/
def start (t : ProcessTable) (command : String) : ProcessTable :=
  ⟨t.toList ++ [{ command := command }]⟩

/-- The table after a request to stop a process. -/
def cancel (t : ProcessTable) (id : ProcessId) : ProcessTable :=
  ⟨t.toList.modify id HostProcess.cancel⟩

/-- The table after the end of a process. -/
def exit (t : ProcessTable) (id : ProcessId) : ProcessTable := ⟨t.toList.modify id HostProcess.exit⟩

/-- The process has ended; one that is not in the table counts as ended. -/
def isFinished (t : ProcessTable) (id : ProcessId) : Bool := (t.get? id).all (·.finished)

/-- The process was asked to stop. -/
def isCancelled (t : ProcessTable) (id : ProcessId) : Bool := (t.get? id).any (·.cancelled)

variable (t : ProcessTable) (command : String) (p q : ProcessId)

@[simp] theorem next_start : (t.start command).next = t.next + 1 := by simp [next, start]

@[simp] theorem next_cancel : (t.cancel q).next = t.next := by simp [next, cancel]

@[simp] theorem next_exit : (t.exit q).next = t.next := by simp [next, exit]

theorem get?_start_of_lt {p : ProcessId} (h : p < t.next) : (t.start command).get? p = t.get? p :=
  List.getElem?_append_left h

theorem get?_start_next : (t.start command).get? t.next = some { command := command } :=
  List.getElem?_concat_length

/-- A process that is asked to stop goes on until it ends. -/
@[simp] theorem isFinished_cancel : (t.cancel q).isFinished p = t.isFinished p := by
  simp only [isFinished, get?, cancel, List.getElem?_modify]
  cases t.toList[p]? with
  | none => rfl
  | some x => by_cases h : q = p <;> by_cases hf : x.finished <;> simp [h, hf, HostProcess.cancel]

@[simp] theorem isCancelled_cancel :
    (t.cancel q).isCancelled p = (t.isCancelled p || (p == q && !t.isFinished p)) := by
  simp only [isCancelled, isFinished, get?, cancel, List.getElem?_modify]
  cases t.toList[p]? with
  | none => simp
  | some x =>
    by_cases h : q = p <;> by_cases hf : x.finished <;>
      simp [h, hf, HostProcess.cancel, eq_comm (a := p)]

@[simp] theorem isFinished_exit : (t.exit q).isFinished p = (t.isFinished p || p == q) := by
  simp only [isFinished, get?, exit, List.getElem?_modify]
  cases t.toList[p]? with
  | none => simp
  | some x => by_cases h : q = p <;> simp [h, HostProcess.exit, eq_comm (a := p)]

@[simp] theorem isCancelled_exit : (t.exit q).isCancelled p = t.isCancelled p := by
  simp only [isCancelled, get?, exit, List.getElem?_modify]
  cases t.toList[p]? with
  | none => rfl
  | some x => by_cases h : q = p <;> simp [h, HostProcess.exit]

end ProcessTable

end ReplicaSeed
