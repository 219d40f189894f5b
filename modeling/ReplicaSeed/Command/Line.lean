import ReplicaSeed.Command.Token

/-!
# Command lines

A command line is a pipeline of one or more stages, each a program with its arguments, and at most
one redirection of the output at its end. There is no shell behind it: a word is passed on as it is.

## Main definitions

* `CommandLine`: the parsed line.
* `CommandLine.parse`: reading a line.
* `CommandLine.elevate`: the same pipeline with every stage under `sudo`.
-/

namespace ReplicaSeed.Command

/-- The redirection at the end of a pipeline. -/
structure Redirect where
  path : String
  append : Bool
  deriving DecidableEq, Repr

/-- A parsed command line: the words of each stage. -/
structure CommandLine where
  stages : List (List String)
  redirect : Option Redirect
  elevated : Bool
  deriving DecidableEq, Repr

/-- Sorts tokens into stages, after `words` of a stage that is still open. -/
def assemble (words : List String) :
    List Token → Except SyntaxFault (List (List String) × Option Redirect)
  | [] => if words = [] then .error .emptyStage else .ok ([words], none)
  | .word w :: ts => assemble (words ++ [String.ofList w]) ts
  | .pipe :: ts =>
    if words = [] then .error .emptyStage
    else (assemble [] ts).map fun (stages, redirect) => (words :: stages, redirect)
  | [.redirect append, .word path] =>
    if words = [] then .error .emptyStage
    else .ok ([words], some ⟨String.ofList path, append⟩)
  | .redirect _ :: .word _ :: _ :: _ => .error .redirectionInside
  | .redirect _ :: _ => .error .missingTarget

namespace CommandLine

/-- Reads a command line. -/
def parse (line : String) : Except SyntaxFault CommandLine := do
  let ts ← tokens line.toList
  if ts = [] then throw .emptyCommand
  let (stages, redirect) ← assemble [] ts
  return ⟨stages, redirect, false⟩

/-- What stands in front of the words of an elevated stage. -/
def elevation : List String := ["sudo", "-n"]

/-- The pipeline with every stage elevated; an elevated one stays as it is. -/
def elevate (c : CommandLine) : CommandLine :=
  if c.elevated then c
  else { c with stages := c.stages.map (elevation ++ ·), elevated := true }

@[simp] theorem elevate_elevate (c : CommandLine) : c.elevate.elevate = c.elevate := by
  by_cases h : c.elevated <;> simp [elevate, h]

/-- The program of the first stage, elevation aside. -/
def program (c : CommandLine) : String :=
  let words := c.stages.headD []
  (if c.elevated then words.drop elevation.length else words).headD ""

end CommandLine

end ReplicaSeed.Command
