import ReplicaSeed.Execution.Pipeline
import ReplicaSeed.Execution.Process
import ReplicaSeed.Time.Span

/-!
# Running command lines

The three ways to run a line on a machine: to its end, within a limit of time, and with a process
that others may watch and stop.

## Main definitions

* `Machine.execute`: runs a line to its end.
* `Machine.executeWithin`: runs a line, and stops it after a limit.
* `Machine.track`: runs a line whose process is reported.
-/

namespace ReplicaSeed

open Command

/-- The pipeline of the text of a line. -/
def Pipeline.read (line : String) (elevate : Bool) : Except ExecError Pipeline :=
  match CommandLine.parse line with
  | .error fault => .error (.ofSyntaxFault fault)
  | .ok c => .ok (.ofLine (if elevate then c.elevate else c))

/-- What became of a line that was run. -/
structure Execution (α : Type) where
  result : Except ExecError α
  /-- How many milliseconds it took. -/
  elapsed : Nat := 0

/-- What a watcher does to a process that was reported to it. -/
inductive Watch where
  | wait
  /-- The process is cancelled at once. -/
  | cancel
  /-- The process is waited for so many milliseconds, and then abandoned. -/
  | abandon (after : Nat)
  deriving DecidableEq, Repr

/-- What a watcher saw of a process. -/
structure Watched where
  /-- How the line ended; `none` if it was abandoned. -/
  result : Option (Except ExecError Unit)
  /-- The process, if one was reported. -/
  process : Option HostProcess
  /-- No process of the abandoned line is left after two seconds. -/
  gone : Bool := true
  elapsed : Nat := 0

namespace Machine

variable {σ : Type} (m : Machine σ)

/-- Runs a line to its end. -/
def execute (line : String) (elevate : Bool) (s : σ) : Execution Output × σ :=
  match Pipeline.read line elevate with
  | .error e => (⟨.error e, 0⟩, s)
  | .ok p =>
    match m.launch none p s with
    | (.error e, s) => (⟨.error e, 0⟩, s)
    | (.ok runs, s) => (⟨p.settle false runs, Pipeline.closes runs⟩, s)

/-- Runs a line; if it has not ended within the limit, it is stopped there. -/
def executeWithin (limit : Nat) (line : String) (elevate : Bool) (s : σ) : Execution Output × σ :=
  match Pipeline.read line elevate with
  | .error e => (⟨.error e, 0⟩, s)
  | .ok p =>
    match m.launch none p s with
    | (.error e, s) => (⟨.error e, 0⟩, s)
    | (.ok runs, after) =>
      if Pipeline.closes runs < limit then (⟨p.settle false runs, Pipeline.closes runs⟩, after)
      else (⟨.error (.timeout p.command (.millis limit)), limit⟩, (m.launch (some limit) p s).2)

/-- How long a process may outlive an abandoned line and still count as gone. -/
def grace : Nat := 2000

/-- A process that the line started is left when its stages were killed at a time. -/
def leaves (runs : List StageRun) (time : Nat) : Bool :=
  runs.any fun r => r.children.any fun (starts, ends) => starts ≤ time && time + grace < ends

/-- Runs a line whose process is reported. -/
def track (watch : Watch) (line : String) (elevate : Bool) (s : σ) : Watched × σ :=
  match Pipeline.read line elevate with
  | .error e => ({ result := some (.error e), process := none }, s)
  | .ok p =>
    match m.launch none p s with
    | (.error e, s) => ({ result := some (.error e), process := none }, s)
    | (.ok runs, after) =>
      let process : HostProcess := { command := p.command }
      let finish (elapsed : Nat) (process : HostProcess) (after : σ) : Watched × σ :=
        ({ result := some ((p.settle process.cancelled runs).map fun _ => ())
           process := some process.exit
           elapsed }, after)
      match watch with
      | .wait => finish (Pipeline.closes runs) process after
      | .cancel => finish 0 process.cancel (m.launch (some 0) p s).2
      | .abandon time =>
        if Pipeline.closes runs < time then finish (Pipeline.closes runs) process after
        else
          let gone := !leaves runs time
          ({ result := none
             process := some (if Pipeline.ends runs < time then process.exit else process)
             gone
             elapsed := if gone then time else time + grace },
            (m.launch (some time) p s).2)

end Machine

end ReplicaSeed
