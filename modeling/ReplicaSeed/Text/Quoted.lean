import ReplicaSeed.Text.Printable

/-!
# Quoted text

The text of a value in a diagnostic: between double quotes, with the characters escaped that could
not be told apart otherwise.

## Main definitions

* `escape`: the text of one character.
* `quoted`: a text between double quotes.
* `quotedPath`: the same for a path, where the apostrophe is escaped too.
-/

namespace ReplicaSeed.Text

/-- The lower-case hexadecimal digits of `n`. -/
def hexDigits (n : Nat) : List Char := Nat.toDigits 16 n

/-- One character of a quoted text. -/
def escape (c : Char) : List Char :=
  if c = '\x00' then ['\\', '0']
  else if c = '\t' then ['\\', 't']
  else if c = '\n' then ['\\', 'n']
  else if c = '\r' then ['\\', 'r']
  else if c = '"' then ['\\', '"']
  else if c = '\\' then ['\\', '\\']
  else if isPrintable c then [c]
  else ['\\', 'u', '{'] ++ hexDigits c.toNat ++ ['}']

/-- A text between double quotes. -/
def quoted (s : String) : String :=
  String.ofList ('"' :: s.toList.flatMap escape ++ ['"'])

/-- A path between double quotes; the apostrophe is escaped as well. -/
def quotedPath (s : String) : String :=
  String.ofList
    ('"' :: (s.toList.flatMap fun c => if c = '\'' then ['\\', '\''] else escape c) ++ ['"'])

end ReplicaSeed.Text
