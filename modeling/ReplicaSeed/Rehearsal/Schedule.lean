import ReplicaSeed.Rehearsal.World

/-!
# Whose turn it is

Jobs that are ready are done one after another, in the order in which they became ready, and each as
far as it gets. The clock is turned only when nothing is ready. The caller who waits is served
before the jobs that become ready at the same moment.

A process that runs until it is cancelled is looked after every few milliseconds.

## Main definitions

* `World.doJob`, `World.drain`: a job, and all that are ready.
* `World.advanceTo`: turning the clock.
* `World.conduct`: a procedure of the caller, for whom everyone else works while it waits.
-/

namespace ReplicaSeed.Rehearsal

/-- After so many milliseconds a process is looked after again. -/
def pollPeriod : Nat := 5

/-- What a record says after the text that the work broke down. -/
def crashReport : String := "the work broke down"

/-- More turns than any rehearsal takes. -/
def turnLimit : Nat := 1000000

namespace World

variable (w : World)

/-- Lets the work of a dispatch wait. -/
def wait (key : DispatchKey) (pause : Pause) (rest : Act Unit) : World :=
  match pause with
  | .process id => { w with sleepers := w.sleepers ++ [⟨w.now + pollPeriod, .poll key id rest⟩] }
  | .gate kind => { w with holders := w.holders ++ [⟨kind, key, rest⟩] }
  | .file => { w with fileJobs := w.fileJobs ++ [.work key rest] }
  | .timer limit => { w with sleepers := w.sleepers ++ [⟨w.now + limit, .work key rest⟩] }

/-- Goes on with the work of a dispatch. -/
def goOn (key : DispatchKey) (rest : Act Unit) : World :=
  match run (.stage key) rest w with
  | (w, .ended result) => w.push (.settle key (.result result))
  | (w, .crashed) => w.push (.settle key (.crashed crashReport))
  | (w, .paused pause rest) => w.wait key pause rest
  | (w, .stuck) => { w with lost := w.lost ++ [key] }

/-- Reports the end of a dispatch. -/
def finish (key : DispatchKey) (status : Status) (details : String) : World :=
  match w.coordinator.finish key status details w.instant with
  | some (c, record) => { w with coordinator := c }.publish record
  | none => w

/-- Writes what is new into the event log. -/
def writeLog : World :=
  { w with
    log := w.log.map fun lines => lines ++ w.feed.since w.logPosition
    logPosition := w.feed.sent
    logParked := true }

/-- Does a job as far as it gets. -/
def doJob : Job → World
  | .launch key work => w.push (.work key work)
  | .work key rest => w.goOn key rest
  | .poll key id rest =>
    if w.processes.isCancelled id then (w.exit id).goOn key rest
    else w.wait key (.process id) rest
  | .settle key how => w.finish key how.status (how.details key.stage)
  | .log => w.writeLog

/-- Does up to so many jobs that are ready. -/
def doReady : (turns : Nat) → World → World
  | 0, w => w
  | turns + 1, w =>
    match w.ready with
    | [] => w
    | job :: rest => doReady turns ({ w with ready := rest }.doJob job)

/-- The jobs that waited for files become ready. -/
def filesDone : World := { w with ready := w.ready ++ w.fileJobs, fileJobs := [] }

/-- Does all jobs that are ready, and then those that wait for files, until none is left. -/
def drainWith : (turns : Nat) → World → World
  | 0, w => w
  | turns + 1, w =>
    let w := doReady turnLimit w
    if w.fileJobs.isEmpty then w else drainWith turns w.filesDone

/-- Does everything that can be done without turning the clock. -/
def drain : World := drainWith turnLimit w

/-- Lets the others have their turn while the caller reads or writes a file. -/
def yieldTurn : World := (doReady turnLimit w).filesDone

/-! ## The clock -/

/-- The next point in time at which a job is due. -/
def nextDue? : Option Nat := (w.sleepers.map (·.due)).min?

/-- Turns the clock to a point in time; the jobs that are due become ready. -/
def wake (time : Nat) : World :=
  let (due, later) := w.sleepers.partition fun s => s.due ≤ time
  { w with now := time, sleepers := later, ready := w.ready ++ due.map (·.job) }

/-- Nothing will come of a job before the caller acts. -/
def isIdle : Job → Bool
  | .poll _ id _ => !w.processes.isCancelled id
  | _ => false

/-- The next time from `time` on at which a process is looked after that is looked after
at `due`. -/
def nextPoll (time due : Nat) : Nat :=
  due + (time - due + (pollPeriod - 1)) / pollPeriod * pollPeriod

/-- Leaves out the looks at processes before a point in time. -/
def skipTo (time : Nat) : World :=
  { w with sleepers := w.sleepers.map fun s => { s with due := nextPoll time s.due } }

/-- Turns the clock to a point in time. Jobs that are due just then become ready but are
not done. -/
def advanceWith : (turns : Nat) → (time : Nat) → World → World
  | 0, _, w => w
  | turns + 1, time, w =>
    let w := w.drain
    let w := if w.sleepers.all fun s => w.isIdle s.job then w.skipTo time else w
    match w.nextDue? with
    | none => { w with now := time }
    | some due =>
      if due < time then advanceWith turns time (w.wake due) else w.wake time

/-- Turns the clock to a point in time. -/
def advanceTo (time : Nat) : World := advanceWith turnLimit time w

/-- Turns the clock by so many milliseconds. -/
def advance (millis : Nat) : World := w.advanceTo (w.now + millis)

end World

/-! ## The caller -/

/-- How a procedure of the caller ends. -/
inductive Conduct (α : Type) where
  | ended (result : Except MethodError α)
  /-- It waits longer than the caller does. -/
  | hung
  | crashed

/-- The result where a procedure cannot fail otherwise. -/
def Conduct.map {α β : Type} (f : α → β) : Conduct α → Conduct β
  | ended result => .ended (result.map f)
  | hung => .hung
  | crashed => .crashed

namespace World

/-- Waits for nothing until a point in time, if there is one. -/
def waitOut (w : World) (deadline : Option Nat) : World :=
  match deadline with
  | some time => w.advanceTo time
  | none => w

/-- Runs a procedure of the caller, who waits until `deadline`. While the procedure waits, everyone
else works. -/
def conduct {α : Type} (o : Observer) (deadline : Option Nat) : Act α → World → World × Conduct α
  | .done a, w => (w, .ended (.ok a))
  | .fail e, w => (w, .ended (.error e))
  | .ask q next, w =>
    match w.respond o q with
    | (w, .answer a) => conduct o deadline (next a) w
    | (w, .later .file a) => conduct o deadline (next a) w.yieldTurn
    | (w, .later (.timer limit) a) =>
      if deadline.all fun time => w.now + limit ≤ time then
        conduct o deadline (next a) (w.advance limit)
      else (w.waitOut deadline, .hung)
    | (w, .later (.process _) _) => (w.waitOut deadline, .hung)
    | (w, .later (.gate _) _) => (w.waitOut deadline, .hung)
    | (w, .never) => (w.waitOut deadline, .hung)
    | (w, .crash) => (w, .crashed)

end World

end ReplicaSeed.Rehearsal
