import ReplicaSeed.Text.Blank

/-!
# Tokens of a command line

A command line is cut into words, pipes and redirections. Outside quotes a backslash makes the next
character an ordinary one, blanks separate words, and `|`, `>` and `>>` are operators. Single
quotes keep everything as it is; inside double quotes a backslash escapes `"` and itself.

## Main definitions

* `SyntaxFault`: why a line is no command.
* `Token`: a word or an operator.
* `scan`: the tokens of a line.
-/

namespace ReplicaSeed.Command

/-- Why a line is no command. -/
inductive SyntaxFault where
  | emptyCommand
  | emptyStage
  | missingTarget
  | redirectionInside
  | openSingleQuote
  | openDoubleQuote
  | trailingBackslash
  deriving DecidableEq, Repr

/-- The text of a fault. -/
def SyntaxFault.message : SyntaxFault → String
  | .emptyCommand => "empty command"
  | .emptyStage => "empty pipeline stage"
  | .missingTarget => "redirection without a target"
  | .redirectionInside => "redirection must end the command"
  | .openSingleQuote => "unterminated single quote"
  | .openDoubleQuote => "unterminated double quote"
  | .trailingBackslash => "trailing backslash"

/-- A word, or an operator between words. -/
inductive Token where
  | word (text : List Char)
  | pipe
  | redirect (append : Bool)
  deriving DecidableEq, Repr

/-- How the next character is read. -/
inductive Quoting where
  | bare
  | single
  | double
  deriving DecidableEq, Repr

/-- The word read so far, in reverse; `none` between words. A word may be empty: `''` is one. -/
abbrev Pending := Option (List Char)

namespace Pending

/-- The word with one more character. -/
def push (w : Pending) (c : Char) : Pending := some (c :: w.getD [])

/-- A word has begun, even if it has no character yet. -/
def opened (w : Pending) : Pending := some (w.getD [])

/-- The token of the word, if one has begun. -/
def flush : Pending → List Token
  | none => []
  | some w => [.word w.reverse]

end Pending

open Pending in
/-- The tokens of a text that is read in the given way, after a part of a word. -/
def scan : Quoting → Pending → List Char → Except SyntaxFault (List Token)
  | .bare, w, [] => .ok (flush w)
  | .single, _, [] => .error .openSingleQuote
  | .double, _, [] => .error .openDoubleQuote
  | .single, w, c :: cs => if c = '\'' then scan .bare w cs else scan .single (push w c) cs
  | .double, w, '"' :: cs => scan .bare w cs
  | .double, _, ['\\'] => .error .openDoubleQuote
  | .double, w, '\\' :: c :: cs =>
    if c = '"' ∨ c = '\\' then scan .double (push w c) cs
    else scan .double (push (push w '\\') c) cs
  | .double, w, c :: cs => scan .double (push w c) cs
  | .bare, w, '\'' :: cs => scan .single (opened w) cs
  | .bare, w, '"' :: cs => scan .double (opened w) cs
  | .bare, _, ['\\'] => .error .trailingBackslash
  | .bare, w, '\\' :: c :: cs => scan .bare (push w c) cs
  | .bare, w, '|' :: cs => (scan .bare none cs).map fun ts => flush w ++ .pipe :: ts
  | .bare, w, '>' :: '>' :: cs =>
    (scan .bare none cs).map fun ts => flush w ++ .redirect true :: ts
  | .bare, w, '>' :: cs => (scan .bare none cs).map fun ts => flush w ++ .redirect false :: ts
  | .bare, w, c :: cs =>
    if Text.isBlank c then (scan .bare none cs).map fun ts => flush w ++ ts
    else scan .bare (push w c) cs

/-- The tokens of a line. -/
def tokens (line : List Char) : Except SyntaxFault (List Token) := scan .bare none line

end ReplicaSeed.Command
