import ReplicaSeed.Execution.Runner
import ReplicaSeed.Toolbox.Shell.Run
import ReplicaSeed.Toolbox.Tool.Sort
import ReplicaSeed.Toolbox.Tool.Transliterate
import ReplicaSeed.Toolbox.Tool.Wait

/-!
# A host with a few programs

A host on which command lines can be run: it has a tree of files and a few common programs. Its
`sudo` wants the option `-n`, tells the elevated program so by a variable, and runs it.

## Main definitions

* `programs`: the programs by their names.
* `host`: the machine.
-/

namespace ReplicaSeed.Toolbox

open JobM

/-- The programs that start no others. -/
def plainPrograms : List (String × Tool) :=
  [("echo", echo), ("printf", printf), ("cat", cat), ("head", head), ("tee", tee), ("cut", cut),
    ("tr", tr), ("sort", sort), ("sleep", sleepFor), ("true", succeed), ("false", fail)]

/-- The name of a program without the directories that all programs are in. -/
def bareName (name : String) : String :=
  match ["/bin/", "/usr/bin/"].findSome? fun dir => Text.stripStart? dir.toList name.toList with
  | some rest => String.ofList rest
  | none => name

/-- Runs the rest of the words with elevated rights. -/
def runElevated (programs : Programs) : Tool
  | "-n" :: name :: words => do
    modify fun j => { j with environment := ("SEED_SUDO", "1") :: j.environment }
    match programs name with
    | some tool => tool words
    | none => complain ("sudo: " ++ name ++ ": command not found") 127
  | _ => exitWith 1

/-- How deep programs may start one another. -/
def maxDepth : Nat := 32

/-- The programs by their names, where so many levels of them may start others. -/
def programsWithin : (depth : Nat) → Programs
  | 0, name => plainPrograms.lookup (bareName name)
  | depth + 1, name =>
    match bareName name with
    | "sh" => some (Shell.tool (programsWithin depth))
    | "sudo" => some (runElevated (programsWithin depth))
    | bare => plainPrograms.lookup bare

/-- The programs by their names. -/
def programs : Programs := programsWithin maxDepth

/-- Why no program can be started from words. -/
def refusal? (dir : FilePlace) (words : List String) (files : FileTree) : Option String :=
  let name := words.headD ""
  if words.any fun w => w.toList.contains '\x00' then some "nul byte found in provided data"
  else if (programs name).isSome then none
  else if name.toList.contains '/' then
    match files.locate dir name with
    | .ok _ => some "Permission denied (os error 13)"
    | .error fault => some fault.message
  else some FileFault.notFound.message

/-- Runs a program as a stage. -/
def runStage (dir : FilePlace) (bounds : Bounds) (words : List String) (input : Flow)
    (files : FileTree) : StageRun × FileTree :=
  match words with
  | [] => ({ exit := .exited 127, ends := 0, closes := 0 }, files)
  | name :: words =>
    let ((), job) := (((programs name).getD fail) words).run { dir, bounds, input, files }
    (job.stageRun, job.files)

/-- Runs file actions as a program that has just started. -/
def withFiles {α : Type} (dir : FilePlace) (limit : Option Nat) (files : FileTree) (act : JobM α) :
    α × FileTree :=
  let (a, job) := act.run { dir, bounds := { time := limit }, files }
  (a, job.files)

/-- A host whose programs see paths from a directory. -/
def host (dir : FilePlace) : Machine FileTree where
  refusal? := refusal? dir
  run := runStage dir
  openFile target files :=
    match withFiles dir none files (openFile target.path target.append) with
    | (none, files) => .ok files
    | (some fault, _) => .error fault
  store limit target output files :=
    (withFiles dir limit files (fillFile target.path output.chunks)).2

end ReplicaSeed.Toolbox
