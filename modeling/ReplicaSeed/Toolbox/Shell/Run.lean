import ReplicaSeed.Toolbox.Shell.Reader
import ReplicaSeed.Toolbox.Tool.Print

/-!
# Running scripts

A shell is itself a job. Each command of its script works on the shell's input, outputs and files; a
command that is not built in is a job of its own. Pipelines, groups in parentheses and commands in
the background run in shells that were made for them.

## Main definitions

* `Shell`: the state of a shell.
* `Shell.expand`: the words that a word stands for.
* `Shell.run`: running a script.
* `Shell.tool`: the shell as a program.
-/

namespace ReplicaSeed.Toolbox

open JobM

/-- A shell at work. -/
structure Shell where
  job : Job
  /-- What the shell calls itself in its messages. -/
  name : String := "sh"
  arguments : List String := []
  bindings : List (String × String) := []
  /-- How the last command ended. -/
  status : Nat := 0
  /-- The shell has ended. -/
  halted : Bool := false
  /-- When its commands in the background end. -/
  background : List Nat := []

/-- What a shell does. -/
abbrev ShellM := StateM Shell

/-- The programs that a shell may start, by their names. -/
abbrev Programs := String → Option Tool

/-- The number by which a shell knows itself. -/
def shellNumber : String := "1000"

namespace Shell

/-- Does something as the shell's own job. -/
def onJob (act : JobM Unit) : ShellM Unit := modify fun s => { s with job := (act.run s.job).2 }

/-- The shell has come to its end. -/
def halt (exit : ExitStatus) : ShellM Unit :=
  modify fun s => { s with halted := true, job := { s.job with exit } }

/-- The status of the last command. -/
def setStatus (status : Nat) : ShellM Unit := modify fun s => { s with status }

/-- What stands before a message about a line. -/
def label (line : Nat) : ShellM String := do
  return (← get).name ++ ": " ++ toString line ++ ": "

/-! ## Words -/

/-- The value of a variable. -/
def value (s : Shell) (name : String) : String :=
  match name with
  | "?" => toString s.status
  | "$" => shellNumber
  | "#" => toString s.arguments.length
  | "@" | "*" => " ".intercalate s.arguments
  | "0" => s.name
  | _ =>
    match name.toNat? with
    | some n => s.arguments.getD (n - 1) ""
    | none => ((s.bindings.lookup name).or (s.job.environment.lookup name)).getD ""

/-- The characters of a word with its variables replaced; the blanks at which it is cut
are marked. -/
def marked (s : Shell) (w : ShellWord) : List (Option Char) :=
  w.flatMap fun
    | .text cs _ => cs.map some
    | .variable name true => (s.value name).toList.map some
    | .variable name false =>
      (s.value name).toList.map fun c => if c = ' ' ∨ c = '\t' ∨ c = '\n' then none else some c

/-- The words that a word stands for: none if it is empty and has nothing quoted. -/
def expand (s : Shell) (w : ShellWord) : List String :=
  if w = [.variable "@" true] then s.arguments
  else
    let fields := (s.marked w).splitBy fun a b => a.isSome == b.isSome
    let words := (fields.filter fun f => (f.head?.bind id).isSome).map fun f =>
      String.ofList (f.filterMap id)
    let quoted := w.any fun
      | .text _ quoted => quoted
      | .variable _ quoted => quoted
    if words = [] ∧ quoted then [""] else words

/-- The text of a word that is not cut at blanks. -/
def textOf (s : Shell) (w : ShellWord) : String :=
  String.ofList (w.flatMap fun
    | .text cs _ => cs
    | .variable name _ => (s.value name).toList)

/-! ## Redirections -/

/-- Where a stream of a command goes. -/
inductive Route where
  | port (p : Port)
  | file (path : String)
  | nowhere
  deriving DecidableEq, Repr

/-- Where the streams of a command go. -/
structure Routes where
  output : Route := .port .output
  errors : Route := .port .errors
  /-- Another input than the shell's. -/
  input : Option (List UInt8) := none

/-- Where a stream goes. -/
def Routes.get (r : Routes) : Nat → Route
  | 1 => r.output
  | 2 => r.errors
  | _ => .nowhere

/-- Sends a stream elsewhere; there are no streams but the first three. -/
def Routes.set (r : Routes) (stream : Nat) (route : Route) : Routes :=
  match stream with
  | 1 => { r with output := route }
  | 2 => { r with errors := route }
  | _ => r

/-- Why a redirection could not be made. -/
def redirectionFault (reading : Bool) (path : String) : FileFault → String
  | .notFound | .notDirectory =>
    if reading then "cannot open " ++ path ++ ": No such file"
    else "cannot create " ++ path ++ ": Directory nonexistent"
  | fault =>
    (if reading then "cannot open " else "cannot create ") ++ path ++ ": " ++ fault.description

/-- Makes one redirection. -/
def redirect (routes : Routes) (r : ShellRedirection) : ShellM (Except String Routes) := do
  let target := (← get).textOf r.target
  match r.kind with
  | .read =>
    let (result, job) := (fileContent target).run (← get).job
    modify fun s => { s with job }
    match result with
    | .ok bytes => return .ok { routes with input := some bytes }
    | .error fault => return .error (redirectionFault true target fault)
  | .duplicate =>
    match target.toNat? with
    | some n => return .ok (routes.set r.stream (routes.get n))
    | none =>
      if target = "-" then return .ok (routes.set r.stream .nowhere)
      else return .error ("Syntax error: Bad fd number")
  | .write | .append =>
    if target = "/dev/null" then return .ok (routes.set r.stream .nowhere)
    else if target = "/dev/stdout" then return .ok (routes.set r.stream routes.output)
    else if target = "/dev/stderr" then return .ok (routes.set r.stream routes.errors)
    else
      let (fault?, job) := (openFile target (r.kind = .append)).run (← get).job
      modify fun s => { s with job }
      match fault? with
      | none => return .ok (routes.set r.stream (.file target))
      | some fault => return .error (redirectionFault false target fault)

/-- Makes redirections in their order. -/
def redirectAll : Routes → List ShellRedirection → ShellM (Except String Routes)
  | routes, [] => return .ok routes
  | routes, r :: rs => do
    match ← redirect routes r with
    | .error text => return .error text
    | .ok routes => redirectAll routes rs

/-- Does something with its streams sent along routes. -/
def along (routes : Routes) (act : ShellM Unit) : ShellM Unit := do
  let before ← get
  let input := match routes.input with
    | some bytes => Flow.ofBytes bytes before.job.clock
    | none => before.job.input
  let bounds := before.job.bounds
  let elsewhere := routes.output ≠ .port .output
  set { before with job := { before.job with
    emissions := []
    input
    bounds := if elsewhere then { bounds with room := none } else bounds } }
  act
  let written := (← get).job.emissions
  modify fun s => { s with job := { s.job with
    emissions := before.job.emissions
    bounds := if elsewhere then bounds else s.job.bounds } }
  if routes.input.isSome then
    modify fun s => { s with job := { s.job with
      input := before.job.input, consumed := before.job.consumed } }
  for e in written do
    match routes.get (if e.port = .output then 1 else 2) with
    | .port port =>
      modify fun s => { s with job := { s.job with
        emissions := s.job.emissions ++ [{ e with port }] } }
    | .file path => onJob (fillFile path [⟨e.time, e.bytes⟩])
    | .nowhere => pure ()

/-! ## Commands -/

/-- The signals by name. -/
def signals : List (String × Nat) :=
  [("HUP", 1), ("INT", 2), ("QUIT", 3), ("ABRT", 6), ("KILL", 9), ("USR1", 10), ("SEGV", 11),
    ("USR2", 12), ("PIPE", 13), ("ALRM", 14), ("TERM", 15)]

/-- The number of a signal. -/
def signalNumber? (text : String) : Option Nat :=
  text.toNat?.or (signals.lookup text)

/-- What a shell says about a command that was killed. -/
def killText? : Nat → Option String
  | 1 => some "Hangup"
  | 6 => some "Aborted"
  | 9 => some "Killed"
  | 11 => some "Segmentation fault"
  | 15 => some "Terminated"
  | _ => none

/-- The signal and the targets among the words of `kill`. -/
def killWords : List String → Option (Nat × List String)
  | "-s" :: name :: targets => (signalNumber? name).map (·, targets)
  | word :: targets =>
    match word.toList with
    | '-' :: name => (signalNumber? (String.ofList name)).map (·, targets)
    | _ => some (15, word :: targets)
  | [] => none

/-- Sends a signal to the shell itself; no other target is known to it. -/
def kill (line : Nat) (words : List String) : ShellM Unit := do
  match killWords words with
  | none =>
    onJob (warn ((← label line) ++
      "kill: Usage: kill [-s sigspec | -signum | -sigspec] [pid | job]... or\n" ++
      "kill -l [exitstatus]"))
    setStatus 2
  | some (0, _) => setStatus 0
  | some (signal, targets) =>
    if targets.contains shellNumber || targets.contains "0" then halt (.killed signal)
    else
      for target in targets do
        onJob (warn ((← label line) ++ "kill: No such process"))
        setStatus (if target = "" then 2 else 1)

/-- Ends the shell. -/
def exit (line : Nat) : List String → ShellM Unit
  | [] => do halt (.exited (← get).status)
  | word :: _ => do
    match word.toNat? with
    | some n => halt (.exited (n % 256))
    | none =>
      onJob (warn ((← label line) ++ "exit: Illegal number: " ++ word))
      halt (.exited 2)

/-- Reads a line of the input into a variable. -/
def read (names : List String) : ShellM Unit := do
  let input := (← get).job.input.bytes
  let line := input.takeWhile (· ≠ 10)
  let complete := line.length < input.length
  let (bytes, job) :=
    (if complete then readBytes (line.length + 1) else readAll).run (← get).job
  let text := String.ofList (Text.decodeLossy (bytes.filter (· ≠ 10)))
  modify fun s => { s with
    job
    bindings := (names.filter (!·.startsWith "-")).map (·, text) ++ s.bindings
    status := if complete then 0 else 1 }

/-- Whether a condition of `test` holds; `none` if the words are no condition. -/
def test (files : String → Option FileNode) : List String → Option Bool
  | [] => some false
  | [word] => some (word ≠ "")
  | ["!", word] => some (word = "")
  | ["-n", word] => some (word ≠ "")
  | ["-z", word] => some (word = "")
  | ["-e", path] => some (files path).isSome
  | ["-d", path] => some (files path = some .directory)
  | ["-f", path] => some ((files path).any (· ≠ .directory))
  | ["-s", path] => some ((files path).any fun n => n ≠ .directory ∧ n ≠ .file [])
  | [a, "=", b] => some (a = b)
  | [a, "!=", b] => some (a ≠ b)
  | [a, op, b] => do
    let a ← a.toInt?
    let b ← b.toInt?
    match op with
    | "-eq" => some (a = b)
    | "-ne" => some (a ≠ b)
    | "-lt" => some (a < b)
    | "-le" => some (a ≤ b)
    | "-gt" => some (a > b)
    | "-ge" => some (a ≥ b)
    | _ => none
  | _ => none

/-- What stands under a path. -/
def nodeAt (s : Shell) (path : String) : Option FileNode :=
  match s.job.files.locate s.job.dir path with
  | .ok place => s.job.files.node? place
  | .error _ => none

/-- Tells whether a condition holds. -/
def runTest (line : Nat) (words : List String) : ShellM Unit := do
  match test (← get).nodeAt words with
  | some holds => setStatus (if holds then 0 else 1)
  | none =>
    onJob (warn ((← label line) ++ "test: " ++ words.headD "" ++ ": unexpected operator"))
    setStatus 2

/-- The status that a shell sees of an end. -/
def statusOf : ExitStatus → Nat
  | .exited code => code
  | .killed signal => 128 + signal

/-- Runs a program of the shell's own as part of the shell. -/
def runOwn (tool : Tool) (words : List String) : ShellM Unit := do
  let s ← get
  let ((), job) := (tool words).run { s.job with exit := .exited 0 }
  set { s with job := { job with exit := s.job.exit }, status := statusOf job.exit }
  if job.stopped then halt job.exit

/-- Runs another program, which may take the shell's place. -/
def runOther (tool : Tool) (words : List String) (assigned : List (String × String))
    (inPlace : Bool) : ShellM Unit := do
  let s ← get
  let environment := assigned ++ s.job.environment
  let ((), job) := (tool words).run { s.job with environment, exit := .exited 0 }
  if inPlace then set { s with job, halted := true }
  else
    set { s with
      job := { job with
        environment := s.job.environment
        stopped := false
        exit := s.job.exit
        children := job.children ++ [(s.job.clock, job.clock)] }
      status := statusOf job.exit }
    match job.exit with
    | .exited _ => return
    | .killed signal =>
      match killText? signal with
      | some text => onJob (warn text)
      | none => return

/-- Refuses a command that is no program. -/
def notFound (line : Nat) (name : String) (last : Bool) : ShellM Unit := do
  onJob (warn ((← label line) ++ name ++ ": not found"))
  setStatus 127
  if last then halt (.exited 127)

/-- Runs a command by its name: one of the shell's own, or a program. -/
def runCommand (programs : Programs) (line : Nat) (last : Bool)
    (assigned : List (String × String)) : List String → ShellM Unit
  | [] => do
    modify fun s => { s with bindings := assigned ++ s.bindings, status := 0 }
  | name :: words => do
    match name with
    | "echo" => runOwn shellEcho words
    | "printf" => runOwn (shellPrintf (← label line)) words
    | "true" | ":" | "trap" => setStatus 0
    | "false" => setStatus 1
    | "exit" => exit line words
    | "kill" => kill line words
    | "read" => read words
    | "test" => runTest line words
    | "[" =>
      if words.getLast? = some "]" then runTest line words.dropLast
      else
        onJob (warn ((← label line) ++ "[: missing ]"))
        setStatus 2
    | "export" =>
      let s ← get
      let exported := words.map fun w =>
        match Text.splitOnce? '=' w.toList with
        | some (name, value) => (String.ofList name, String.ofList value)
        | none => (w, s.value w)
      set { s with
        bindings := exported ++ s.bindings
        job := { s.job with environment := exported ++ s.job.environment }
        status := 0 }
    | "wait" =>
      modify fun s => { s with
        job := { s.job with clock := s.background.foldl max s.job.clock }
        background := []
        status := 0 }
    | "exec" =>
      match words with
      | [] => setStatus 0
      | name :: words =>
        match programs name with
        | some tool => runOther tool words assigned true
        | none =>
          onJob (warn ((← label line) ++ "exec: " ++ name ++ ": not found"))
          halt (.exited 127)
    | _ =>
      match programs name with
      | some tool => runOther tool words assigned last
      | none => notFound line name last

/-- Runs a simple command. -/
def runSimple (programs : Programs) (last : Bool) (words : List ShellWord)
    (redirections : List ShellRedirection) (line : Nat) : ShellM Unit := do
  let assignments := words.takeWhile fun w => w.assignment?.isSome
  let s ← get
  let assigned := (assignments.filterMap ShellWord.assignment?).map fun (name, w) =>
    (name, s.textOf w)
  let expanded := (words.drop assignments.length).flatMap s.expand
  match ← redirectAll {} redirections with
  | .error text =>
    onJob (warn ((← label line) ++ text))
    setStatus 2
    if ["exec", "exit", ":", "export", "trap"].contains (expanded.headD "") then halt (.exited 2)
  | .ok routes => along routes (runCommand programs line last assigned expanded)

/-- Runs something in a shell that is left again. -/
def inSubshell (act : ShellM Unit) : ShellM Unit := do
  let before ← get
  act
  modify fun s => { before with
    job := { s.job with exit := before.job.exit, stopped := false }
    status := if s.halted then statusOf s.job.exit else s.status }

/-- Runs two shells at once, where the second reads what the first writes. The result is the place
for the output of the first, if it wrote more than that after the second had stopped reading. -/
def pipeOnce (room : Option Nat) (left right : ShellM Unit) : ShellM (Option Nat) := do
  let before ← get
  set { before with job := { before.job with
    emissions := []
    bounds := { before.job.bounds with room } } }
  inSubshell left
  let middle ← get
  let flow : Flow :=
    ⟨chunksOf .output middle.job.emissions, max middle.job.clock middle.job.closes⟩
  set { middle with job := { middle.job with
    emissions := []
    bounds := before.job.bounds
    input := flow
    consumed := some 0
    clock := before.job.clock } }
  inSubshell right
  let after ← get
  let kept := middle.job.emissions.filter (·.port = .errors)
  set { after with job := { after.job with
    emissions := before.job.emissions ++
      (kept ++ after.job.emissions).mergeSort fun a b => a.time ≤ b.time
    input := middle.job.input
    consumed := middle.job.consumed
    clock := max middle.job.clock after.job.clock
    children := after.job.children ++
      [(before.job.clock, middle.job.clock), (before.job.clock, after.job.clock)] } }
  return middle.job.stageRun.lackedRoom? (some after.job.stageRun)

/-- Runs two shells at once, where the second reads what the first writes. -/
def pipe (left right : ShellM Unit) : ShellM Unit := do
  let before ← get
  match ← pipeOnce none left right with
  | none => return
  | some room =>
    set before
    let _ ← pipeOnce (some room) left right

/-- Nothing that a command writes is kept open by it. -/
def isSilent : ShellScript → Bool
  | .simple _ redirections _ | .group _ redirections | .subshell _ redirections =>
    [1, 2].all fun stream => redirections.any (·.stream = stream)
  | _ => false

/-- Runs a script. In a shell that was made for the script its last command takes the shell's
place. -/
def run (programs : Programs) (last : Bool) : ShellScript → ShellM Unit
  | .nothing => setStatus 0
  | .simple words redirections line => do
    if !(← get).halted then runSimple programs last words redirections line
  | .negate body => do
    run programs false body
    modify fun s => { s with status := if s.status = 0 then 1 else 0 }
  | .both left right => do
    run programs false left
    if !(← get).halted && (← get).status = 0 then run programs last right
  | .either left right => do
    run programs false left
    if !(← get).halted && (← get).status ≠ 0 then run programs last right
  | .sequence left right => do
    run programs false left
    if !(← get).halted then run programs last right
  | .pipe left right => do
    if !(← get).halted then pipe (run programs true left) (run programs true right)
  | .background body => do
    if !(← get).halted then
      let before ← get
      modify fun s => { s with job := { s.job with input := {} } }
      inSubshell (run programs true body)
      modify fun s => { s with
        job := { s.job with
          clock := before.job.clock
          input := before.job.input
          consumed := before.job.consumed
          closes := if isSilent body then s.job.closes else max s.job.closes s.job.clock
          children := s.job.children ++ [(before.job.clock, s.job.clock)] }
        background := s.job.clock :: s.background
        status := 0 }
  | .group body redirections => do
    if !(← get).halted then
      match ← redirectAll {} redirections with
      | .error text =>
        onJob (warn ((← label 1) ++ text))
        setStatus 2
      | .ok routes => along routes (run programs (last && redirections.isEmpty) body)
  | .subshell body redirections => do
    if !(← get).halted then
      match ← redirectAll {} redirections with
      | .error text =>
        onJob (warn ((← label 1) ++ text))
        setStatus 2
      | .ok routes =>
        along routes (inSubshell (run programs true body))
        if !last then
          let start := (← get).job.clock
          modify fun s => { s with job := { s.job with
            children := s.job.children ++ [(start, s.job.clock)] } }

/-! ## The shell as a program -/

/-- Runs the text of a script as a program. -/
def runText (programs : Programs) (name : String) (arguments : List String) (text : String) :
    JobM Unit := do
  match ShellScript.read text with
  | .error fault => complain (name ++ ": 1: " ++ fault.message) 2
  | .ok script =>
    let job ← get
    let ((), s) := (run programs false script).run { job, name, arguments }
    let exit := if s.halted then s.job.exit else .exited s.status
    set { s.job with
      exit
      emissions := s.job.emissions.mergeSort fun a b => a.time ≤ b.time }

/-- The shell: with `-c` the script is the next word, and the ones after it are the name and the
arguments; with a path it is the content of a file, and else the input. -/
def tool (programs : Programs) : Tool := fun words => do
  let options := words.takeWhile fun w =>
    match w.toList with
    | '-' :: c :: _ => c ≠ '-'
    | _ => false
  let operands := words.drop options.length
  if options.any fun o => o.toList.contains 'c' then
    match operands with
    | [] => complain "sh: 0: -c requires an argument" 2
    | [script] => runText programs "sh" [] script
    | script :: name :: arguments => runText programs name arguments script
  else
    match operands with
    | [] =>
      let bytes ← readAll
      runText programs "sh" [] (String.ofList (Text.decodeLossy bytes))
    | path :: arguments =>
      match ← fileContent path with
      | .ok bytes => runText programs path arguments (String.ofList (Text.decodeLossy bytes))
      | .error fault =>
        complain ("sh: 0: cannot open " ++ path ++ ": " ++
          (match fault with | .notFound => "No such file" | fault => fault.description)) 2

end Shell

end ReplicaSeed.Toolbox
