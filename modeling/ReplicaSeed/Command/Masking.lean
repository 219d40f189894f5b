import ReplicaSeed.Command.Line
import ReplicaSeed.Text.Search

/-!
# Masked command lines

The text of a command line for messages and logs, where four asterisks stand for a password.

## Main definitions

* `maskWord`: one word, with its password masked.
* `CommandLine.display`: the text of a line.
-/

namespace ReplicaSeed.Command

/-- What stands for a password. -/
def mask : List Char := "****".toList

/-- The value of the option `--password` or `-p` that a word gives with an equals sign, masked. -/
def maskOption? (word : List Char) : Option (List Char) :=
  match Text.splitOnce? '=' word with
  | some (flag, _) =>
    if flag = "--password".toList ∨ flag = "-p".toList then some (flag ++ '=' :: mask) else none
  | none => none

/-- The value that follows the option `-p` at once, masked. -/
def maskShortOption? : List Char → Option (List Char)
  | '-' :: 'p' :: _ :: _ => some ('-' :: 'p' :: mask)
  | _ => none

/-- The words of a statement that a password follows. -/
def credentialClause : List Char := "IDENTIFIED BY".toList

/-- Everything after the first credential clause, masked. -/
def maskClause? (word : List Char) : Option (List Char) :=
  (Text.cut? credentialClause word).map fun (before, _) => before ++ credentialClause ++ ' ' :: mask

/-- A word with its password masked: an option first, then a clause. -/
def maskWord (word : List Char) : List Char :=
  (maskOption? word <|> maskShortOption? word <|> maskClause? word).getD word

/-- The masked words of a stage, with a blank between them. -/
def stageText (words : List String) : String :=
  " ".intercalate (words.map fun w => String.ofList (maskWord w.toList))

/-- The text of a redirection, as it follows a pipeline. -/
def Redirect.text (r : Redirect) : String := (if r.append then " >> " else " > ") ++ r.path

/-- The text of a line for messages. -/
def CommandLine.display (c : CommandLine) : String :=
  " | ".intercalate (c.stages.map stageText) ++ (c.redirect.map Redirect.text).getD ""

end ReplicaSeed.Command
