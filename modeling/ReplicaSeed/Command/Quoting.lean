import ReplicaSeed.Command.Line

/-!
# Quoted words

Writing a word so that a command line that holds it gives it back as one literal word.

## Main definitions

* `isSafe`: the characters that need no quotes.
* `quote`: a word as it is written in a command line.
-/

namespace ReplicaSeed.Command

/-- The character has no meaning of its own in a command line. -/
def isSafe (c : Char) : Bool :=
  c.isAlphanum || ['-', '_', '.', '/', ':', '=', '@', ',', '+', '%'].contains c

/-- One character between single quotes: an apostrophe closes them, stands escaped and opens
them again. -/
def quoteChar (c : Char) : List Char := if c = '\'' then ['\'', '\\', '\'', '\''] else [c]

/-- A word between single quotes. -/
def singleQuoted (word : List Char) : List Char := '\'' :: word.flatMap quoteChar ++ ['\'']

/-- A word as it is written in a command line: as it is if all of it is safe and it is not empty,
between single quotes otherwise. -/
def quoteChars (word : List Char) : List Char :=
  if word ≠ [] ∧ word.all isSafe then word else singleQuoted word

/-- A word as it is written in a command line. -/
def quote (word : String) : String := String.ofList (quoteChars word.toList)

end ReplicaSeed.Command
