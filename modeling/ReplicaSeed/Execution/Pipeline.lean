import ReplicaSeed.Command.Masking
import ReplicaSeed.Execution.Error
import ReplicaSeed.Execution.FileFault
import ReplicaSeed.Execution.Flow
import ReplicaSeed.Execution.Output
import ReplicaSeed.Text.Blank

/-!
# Pipelines

A command line is run as a pipeline of programs. The output of each goes into the next; the output
of the last is kept, or goes to the file of the redirection. An agent may not be allowed to write
where an elevated command writes, so behind an elevated pipeline the file is written by one more
elevated stage.

What programs there are and what they do is told by a `Machine`, over a state that holds all that
programs may change.

## Main definitions

* `Pipeline.ofLine`: the stages of a line, and where the output of the last one goes.
* `Machine.launch`: opening the file, finding the programs and running them.
* `Pipeline.settle`: the result of a pipeline whose stages have ended: the first of them that failed
  gives the exit code, and the errors of all of them the text.
-/

namespace ReplicaSeed

open Command

/-- How a program ended. -/
inductive ExitStatus where
  | exited (code : Nat)
  | killed (signal : Nat)
  deriving DecidableEq, Repr

namespace ExitStatus

/-- The program did what it was asked to do. -/
def isSuccess (s : ExitStatus) : Bool := s = exited 0

/-- The exit code; a program that was killed has none. -/
def code? : ExitStatus → Option Int32
  | exited code => some (Int32.ofNat code)
  | killed _ => none

end ExitStatus

/-- Where the output of the last stage goes. -/
inductive Sink where
  | capture
  | file (target : Redirect)
  | discard
  deriving DecidableEq, Repr

/-- The programs that a line stands for. -/
structure Pipeline where
  /-- The masked text of the line. -/
  command : String
  stages : List (List String)
  sink : Sink
  deriving DecidableEq, Repr

/-- One run of a program as a stage. -/
structure StageRun where
  stdout : Flow := {}
  stderr : List UInt8 := []
  exit : ExitStatus
  /-- When the program ended. -/
  ends : Nat
  /-- When the last process that it left behind closed its output and its errors. -/
  closes : Nat
  /-- How much of its input the program read; `none` if it read to the end. -/
  consumed : Option Nat := none
  /-- When the processes began and ended that the program started. -/
  children : List (Nat × Nat) := []
  deriving Repr

/-- What may cut a run short. -/
structure Bounds where
  /-- When the program is killed. What it would do then or later is not done. -/
  time : Option Nat := none
  /-- How many bytes of output there is a place for. A program that writes more is stopped. -/
  room : Option Nat := none
  deriving DecidableEq, Repr

/-- A host that runs programs, by what they do to its state. -/
structure Machine (σ : Type) where
  /-- Why no program can be started from these words. -/
  refusal? : List String → σ → Option String
  /-- Runs a program on an input. -/
  run : Bounds → List String → Flow → σ → StageRun × σ
  /-- Opens the file of a redirection: it is created, and made empty unless it is appended to. -/
  openFile : Redirect → σ → Except FileFault σ
  /-- Writes an output into the file of a redirection, up to the time `limit`. -/
  store : (limit : Option Nat) → Redirect → Flow → σ → σ

namespace Pipeline

/-- The stage that writes the file of an elevated pipeline. -/
def teeStage (r : Redirect) : List String :=
  CommandLine.elevation ++ ["tee"] ++ (if r.append then ["-a"] else []) ++ [r.path]

/-- The pipeline of a line. -/
def ofLine (line : CommandLine) : Pipeline :=
  match line.redirect with
  | none => ⟨line.display, line.stages, .capture⟩
  | some target =>
    if line.elevated then ⟨line.display, line.stages ++ [teeStage target], .discard⟩
    else ⟨line.display, line.stages, .file target⟩

variable (p : Pipeline)

/-- What was captured of the output. -/
def captured (runs : List StageRun) : List UInt8 :=
  match p.sink with
  | .capture => (runs.getLast?.map (·.stdout.bytes)).getD []
  | _ => []

/-- What all stages wrote as errors. -/
def errors (runs : List StageRun) : List UInt8 := runs.flatMap (·.stderr)

/-- The text of errors in a message. -/
def errorText (bytes : List UInt8) : String := String.ofList (Text.trim (Text.decodeLossy bytes))

/-- The first stage that failed. -/
def firstFailure? (runs : List StageRun) : Option StageRun :=
  runs.find? fun r => !r.exit.isSuccess

/-- The result of a pipeline whose stages have ended. -/
def settle (cancelled : Bool) (runs : List StageRun) : Except ExecError Output :=
  if cancelled then .error (.cancelled p.command)
  else
    match firstFailure? runs with
    | some r => .error (.failed p.command r.exit.code? (errorText (errors runs)))
    | none => .ok ⟨p.captured runs, errors runs⟩

/-- When the last stage has ended. -/
def ends (runs : List StageRun) : Nat := (runs.map (·.ends)).foldl max 0

/-- When nothing holds an output of the pipeline any more. -/
def closes (runs : List StageRun) : Nat := (runs.map fun r => max r.ends r.closes).foldl max 0

end Pipeline

/-! ## Running -/

/-- How many bytes a pipe holds that nobody reads. -/
def pipeCapacity : Nat := 65536

/-- The place that there is for the output of a stage whose reader stopped reading, if it is not
enough. -/
def StageRun.lackedRoom? (r : StageRun) (reader : Option StageRun) : Option Nat := do
  let room := (← (← reader).consumed) + pipeCapacity
  if room < r.stdout.size then some room else none

namespace Machine

variable {σ : Type} (m : Machine σ)

/-- Why one of the stages cannot be started. -/
def refusal (stages : List (List String)) (s : σ) : Option ExecError :=
  stages.findSome? fun words => (m.refusal? words s).map (.spawn (words.headD ""))

/-- Runs the stages one after the other, each on the output of the one before. A stage whose reader
stopped too early is run again with the place that there is for its output. -/
def runStages (limit : Option Nat) : List (List String) → Flow → σ → List StageRun × σ
  | [], _, s => ([], s)
  | words :: rest, input, s =>
    let runFrom (room : Option Nat) : StageRun × List StageRun × σ :=
      let (r, s) := m.run ⟨limit, room⟩ words input s
      (r, runStages limit rest r.stdout s)
    let (r, rs, s) := runFrom none
    match r.lackedRoom? rs.head? with
    | none => (r :: rs, s)
    | some room =>
      let (r, rs, s) := runFrom (some room)
      (r :: rs, s)

/-- Opens the file of a pipeline, if it has one. -/
def openSink (p : Pipeline) (s : σ) : Except ExecError σ :=
  match p.sink with
  | .file target =>
    match m.openFile target s with
    | .ok s => .ok s
    | .error fault => .error (.io p.command fault.message)
  | _ => .ok s

/-- Writes the output of the last stage to the file of a pipeline, if it has one. -/
def fillSink (limit : Option Nat) (p : Pipeline) (runs : List StageRun) (s : σ) : σ :=
  match p.sink, runs.getLast? with
  | .file target, some r => m.store limit target r.stdout s
  | _, _ => s

/-- Runs a pipeline: the runs of its stages, or why it did not start. -/
def launch (limit : Option Nat) (p : Pipeline) (s : σ) : Except ExecError (List StageRun) × σ :=
  match m.openSink p s with
  | .error e => (.error e, s)
  | .ok s =>
    match m.refusal p.stages s with
    | some e => (.error e, s)
    | none =>
      let (runs, s) := m.runStages limit p.stages {} s
      (.ok runs, m.fillSink limit p runs s)

end Machine

end ReplicaSeed
