import ReplicaSeed.Execution.FileTree
import ReplicaSeed.Execution.Pipeline
import ReplicaSeed.Text.Lossy

/-!
# Jobs

A job is a program at work: it reads an input, it writes output and errors, it changes files, and
all of it at times that the job's own clock gives. A job may be given bounds: what it would do to
files after a time is not done, and with more output than there is a place for it is stopped.

## Main definitions

* `Job`: the state of a program at work.
* `JobM`: what a program does.
* `JobM.emit`, `JobM.complain`: writing output and errors.
* `JobM.readAll`: reading the input to its end.
* `JobM.fileContent`, `JobM.createFile`, `JobM.appendFile`: files.
-/

namespace ReplicaSeed.Toolbox

/-- The two outputs of a program. -/
inductive Port where
  | output
  | errors
  deriving DecidableEq, Repr

/-- Bytes that a program wrote. -/
structure Emission where
  time : Nat
  port : Port
  bytes : List UInt8
  deriving DecidableEq, Repr

/-- A program at work. -/
structure Job where
  /-- The directory from which paths are seen. -/
  dir : FilePlace
  bounds : Bounds := {}
  /-- It wrote more than there was a place for. -/
  stopped : Bool := false
  /-- The variables of the environment. -/
  environment : List (String × String) := []
  clock : Nat := 0
  /-- What is left of the input. -/
  input : Flow := {}
  /-- How much of the input was read; `none` once it was read to the end. -/
  consumed : Option Nat := some 0
  emissions : List Emission := []
  files : FileTree := {}
  exit : ExitStatus := .exited 0
  /-- When the processes began and ended that the program started. -/
  children : List (Nat × Nat) := []
  /-- When the last process that it left behind closed its output and its errors. -/
  closes : Nat := 0

/-- What a program does. -/
abbrev JobM := StateM Job

/-- A program, by what it does with its arguments. -/
abbrev Tool := List String → JobM Unit

/-- A time that never comes. -/
def never : Nat := 1000 * 60 * 60 * 24 * 365

/-- How much is read of a file that has no end. -/
def endlessRead : Nat := 1048576

namespace JobM

/-- Does something, unless the program has been stopped. -/
def act (f : Job → Job) : JobM Unit := modify fun j => if j.stopped then j else f j

/-- Writes to an output at a time. -/
def emitAt (time : Nat) (port : Port) (bytes : List UInt8) : JobM Unit := act fun j =>
  if bytes.isEmpty then j
  else
    let written (bytes : List UInt8) : List Emission := j.emissions ++ [⟨time, port, bytes⟩]
    match port, j.bounds.room with
    | .output, some room =>
      if bytes.length ≤ room then
        { j with
          emissions := written bytes
          bounds := { j.bounds with room := some (room - bytes.length) } }
      else
        { j with
          emissions := written (bytes.take room)
          bounds := { j.bounds with room := some 0 }
          clock := time
          stopped := true
          exit := .killed 13 }
    | _, _ => { j with emissions := written bytes }

/-- Writes to an output. -/
def emit (port : Port) (bytes : List UInt8) : JobM Unit := do emitAt (← get).clock port bytes

/-- Writes bytes to the output. -/
def write (bytes : List UInt8) : JobM Unit := emit .output bytes

/-- Writes a line to the errors. -/
def warn (text : String) : JobM Unit := emit .errors (Text.encode (text.toList ++ ['\n']))

/-- The program will end with an exit code. -/
def exitWith (code : Nat) : JobM Unit := act fun j => { j with exit := .exited code }

/-- Writes a line to the errors; the program will end with an exit code. -/
def complain (text : String) (code : Nat) : JobM Unit := do
  warn text
  exitWith code

/-- Lets time pass. -/
def sleep (millis : Nat) : JobM Unit := act fun j => { j with clock := j.clock + millis }

/-- Reads the input to its end. The pieces come with their times. -/
def readChunks : JobM (List Chunk) := do
  let j ← get
  if j.stopped then return []
  let clock := max j.clock j.input.ends
  set { j with clock, input := ⟨[], clock⟩, consumed := none }
  return j.input.chunks.map fun c => { c with time := max j.clock c.time }

/-- Reads the input to its end. -/
def readAll : JobM (List UInt8) := do return (← readChunks).flatMap (·.bytes)

/-- The time at which the first `n` bytes have come, or else the input ends. -/
def arrival (input : Flow) (n : Nat) : Nat :=
  let rec go (left : Nat) : List Chunk → Nat
    | [] => input.ends
    | c :: cs => if left ≤ c.bytes.length then c.time else go (left - c.bytes.length) cs
  if n = 0 then 0 else go n input.chunks

/-- Reads `n` bytes of the input, or all of it if it has less. -/
def readBytes (n : Nat) : JobM (List UInt8) := do
  let j ← get
  let bytes := j.input.bytes
  set { j with
    clock := max j.clock (arrival j.input n)
    input := j.input.drop n
    consumed := if bytes.length < n then none else j.consumed.map (· + n) }
  return bytes.take n

/-- Something is still done at this time. -/
def inTime : JobM Bool := do
  let j ← get
  return !j.stopped && j.bounds.time.all (j.clock < ·)

/-- The content of a file. A device of zeros is read for ever. -/
def fileContent (path : String) : JobM (Except FileFault (List UInt8)) := do
  let j ← get
  match path with
  | "/dev/null" => return .ok []
  | "/dev/stdin" => return .ok (← readAll)
  | "/dev/zero" =>
    sleep never
    return .ok (List.replicate endlessRead 0)
  | _ => return j.files.read j.dir path

/-- Changes the content of a file, which is created if need be. -/
def changeFile (path : String) (change : List UInt8 → List UInt8) : JobM (Option FileFault) := do
  let j ← get
  if path = "/dev/null" then return none
  match j.files.update j.dir path change with
  | .error fault => return some fault
  | .ok files =>
    if ← inTime then set { j with files }
    return none

/-- Creates a file, or makes it empty unless it is to be appended to. -/
def openFile (path : String) (append : Bool) : JobM (Option FileFault) :=
  changeFile path fun old => if append then old else []

/-- Appends to a file what was written, each piece at its time. -/
def fillFile (path : String) (chunks : List Chunk) : JobM Unit := do
  let j ← get
  let bytes := (chunks.filter fun c => j.bounds.time.all (c.time < ·)).flatMap (·.bytes)
  match j.files.update j.dir path (· ++ bytes) with
  | .ok files => if path ≠ "/dev/null" ∧ bytes ≠ [] then set { j with files }
  | .error _ => return

end JobM

/-- What was written to one of the outputs. -/
def chunksOf (port : Port) (emissions : List Emission) : List Chunk :=
  (emissions.filter (·.port = port)).map fun e => ⟨e.time, e.bytes⟩

/-- The job as a stage of a pipeline. -/
def Job.stageRun (j : Job) : StageRun :=
  { stdout := ⟨chunksOf .output j.emissions, max j.clock j.closes⟩
    stderr := (chunksOf .errors j.emissions).flatMap (·.bytes)
    exit := j.exit
    ends := j.clock
    closes := max j.clock j.closes
    consumed := j.consumed
    children := j.children }

end ReplicaSeed.Toolbox
