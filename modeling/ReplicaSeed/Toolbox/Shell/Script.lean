/-!
# Scripts of the shell

What a script says: commands of words, joined by operators. Of the shell's language there are simple
commands with redirections, pipelines, lists, groups and subshells; of expansions only variables.

## Main definitions

* `ShellWord`: a word before its variables are replaced.
* `ShellScript`: what is to be done.
-/

namespace ReplicaSeed.Toolbox

/-- A piece of a word. What is quoted is not cut at blanks. -/
inductive WordPiece where
  | text (chars : List Char) (quoted : Bool)
  | variable (name : String) (quoted : Bool)
  deriving DecidableEq, Repr

/-- A word before its variables are replaced. -/
abbrev ShellWord := List WordPiece

namespace ShellWord

/-- The word with a piece added; unquoted text is kept together. -/
def add (w : ShellWord) (piece : WordPiece) : ShellWord :=
  match w.reverse, piece with
  | .text cs false :: before, .text ds false => (.text (cs ++ ds) false :: before).reverse
  | _, _ => w ++ [piece]

/-- The text of a word without quotes and variables. -/
def plain? : ShellWord → Option String
  | [.text cs false] => some (String.ofList cs)
  | _ => none

/-- The characters of a name after its first. -/
def isNameChar (c : Char) : Bool := c.isAlphanum || c = '_'

/-- The characters that a name begins with. -/
def isNameStart (c : Char) : Bool := c.isAlpha || c = '_'

/-- The name and the value that a word assigns. -/
def assignment? : ShellWord → Option (String × ShellWord)
  | .text cs false :: rest =>
    let name := cs.takeWhile isNameChar
    match name, cs.dropWhile isNameChar with
    | first :: _, '=' :: value =>
      if isNameStart first then
        some (String.ofList name, if value = [] then rest else .text value false :: rest)
      else none
    | _, _ => none
  | _ => none

end ShellWord

/-- How a redirection opens its target. -/
inductive RedirectionKind where
  | write
  | append
  | read
  /-- The target is the number of another stream. -/
  | duplicate
  deriving DecidableEq, Repr

/-- A redirection of one stream. -/
structure ShellRedirection where
  stream : Nat
  kind : RedirectionKind
  target : ShellWord
  deriving DecidableEq, Repr

/-- What is to be done. -/
inductive ShellScript where
  | nothing
  | simple (words : List ShellWord) (redirections : List ShellRedirection) (line : Nat)
  | pipe (left right : ShellScript)
  | negate (body : ShellScript)
  | both (left right : ShellScript)
  | either (left right : ShellScript)
  | sequence (left right : ShellScript)
  | background (body : ShellScript)
  | group (body : ShellScript) (redirections : List ShellRedirection)
  | subshell (body : ShellScript) (redirections : List ShellRedirection)
  deriving DecidableEq, Repr

end ReplicaSeed.Toolbox
