import ReplicaSeed.Text.Search
import ReplicaSeed.Toml.Scalar

/-!
# Strings and keys of TOML

## Main definitions

* `Toml.string?`: a string in any of its four forms.
* `Toml.key?`: a dotted key.
-/

namespace ReplicaSeed.Toml

/-- A control character that may stand neither in a string nor in a comment. -/
def isControl (c : Char) : Bool := (c.toNat < 32 && c != '\t') || c.toNat == 127

/-- The character of a number that an escape gives in hexadecimal digits. -/
def scalar? (digits : List Char) : Option Char := do
  guard (digits.all isHexDigit)
  let n := numberOf 16 digits
  guard (n < 0xd800 ∨ (0xdfff < n ∧ n ≤ 0x10ffff))
  return Char.ofNat n

/-- The character of an escape of one letter. -/
def simpleEscape? : Char → Option Char
  | 'b' => some '\x08'
  | 't' => some '\t'
  | 'n' => some '\n'
  | 'f' => some '\x0c'
  | 'r' => some '\r'
  | '"' => some '"'
  | '\\' => some '\\'
  | _ => none

/-- A text that was read, and the text after it. -/
abbrev Piece := List Char × List Char

/-- The rest with a character in front of what was read. -/
def push (c : Char) : Piece → Piece := fun (read, rest) => (c :: read, rest)

/-- A string of one line, after its opening quote. -/
def basic : List Char → Option Piece
  | [] => none
  | '"' :: rest => some ([], rest)
  | '\\' :: 'u' :: a :: b :: c :: d :: rest =>
    match scalar? [a, b, c, d] with
    | none => none
    | some x => (basic rest).map (push x)
  | '\\' :: 'U' :: a :: b :: c :: d :: e :: f :: g :: h :: rest =>
    match scalar? [a, b, c, d, e, f, g, h] with
    | none => none
    | some x => (basic rest).map (push x)
  | '\\' :: e :: rest =>
    match simpleEscape? e with
    | none => none
    | some x => (basic rest).map (push x)
  | c :: rest => if isControl c ∨ c = '\\' then none else (basic rest).map (push c)

/-- How a string of several lines goes on: with text, or with blanks that an escaped line break
makes disappear, before that line break or after it. -/
inductive Lines where
  | text
  | beforeBreak
  | afterBreak
  deriving DecidableEq, Repr

/-- A blank that an escaped line break makes disappear. -/
def isSkipped (c : Char) : Bool := c == ' ' || c == '\t' || c == '\r'

/-- A string of several lines, after its opening quotes. Two quotes may stand before the closing
ones. -/
def multiBasic : Lines → List Char → Option Piece
  | _, [] => none
  | .beforeBreak, c :: rest =>
    if c = '\n' then multiBasic .afterBreak rest
    else if isSkipped c then multiBasic .beforeBreak rest
    else none
  | .afterBreak, '\n' :: rest => multiBasic .afterBreak rest
  | .afterBreak, ' ' :: rest => multiBasic .afterBreak rest
  | .afterBreak, '\t' :: rest => multiBasic .afterBreak rest
  | .afterBreak, '\r' :: rest => multiBasic .afterBreak rest
  | _, '"' :: '"' :: '"' :: '"' :: '"' :: rest => some (['"', '"'], rest)
  | _, '"' :: '"' :: '"' :: '"' :: rest => some (['"'], rest)
  | _, '"' :: '"' :: '"' :: rest => some ([], rest)
  | _, '\\' :: 'u' :: a :: b :: c :: d :: rest =>
    match scalar? [a, b, c, d] with
    | none => none
    | some x => (multiBasic .text rest).map (push x)
  | _, '\\' :: 'U' :: a :: b :: c :: d :: e :: f :: g :: h :: rest =>
    match scalar? [a, b, c, d, e, f, g, h] with
    | none => none
    | some x => (multiBasic .text rest).map (push x)
  | _, '\\' :: e :: rest =>
    if e = '\n' then multiBasic .afterBreak rest
    else if isSkipped e then multiBasic .beforeBreak rest
    else
      match simpleEscape? e with
      | none => none
      | some x => (multiBasic .text rest).map (push x)
  | _, '\r' :: '\n' :: rest => (multiBasic .text rest).map (push '\r' ∘ push '\n')
  | _, c :: rest =>
    if (isControl c ∧ c ≠ '\n') ∨ c = '\\' then none
    else (multiBasic .text rest).map (push c)

/-- A literal string of one line, after its opening quote. -/
def literal : List Char → Option Piece
  | [] => none
  | '\'' :: rest => some ([], rest)
  | c :: rest => if isControl c then none else (literal rest).map (push c)

/-- A literal string of several lines, after its opening quotes. -/
def multiLiteral : List Char → Option Piece
  | [] => none
  | '\'' :: '\'' :: '\'' :: '\'' :: '\'' :: rest => some (['\'', '\''], rest)
  | '\'' :: '\'' :: '\'' :: '\'' :: rest => some (['\''], rest)
  | '\'' :: '\'' :: '\'' :: rest => some ([], rest)
  | '\r' :: '\n' :: rest => (multiLiteral rest).map (push '\r' ∘ push '\n')
  | c :: rest =>
    if isControl c ∧ c ≠ '\n' then none else (multiLiteral rest).map (push c)

/-- The text without one line break in front. -/
def dropBreak : List Char → List Char
  | '\n' :: rest => rest
  | '\r' :: '\n' :: rest => rest
  | cs => cs

/-- A string; none if the text does not begin with a quote. -/
def string? : List Char → Option Piece
  | '"' :: '"' :: '"' :: rest => multiBasic .text (dropBreak rest)
  | '"' :: rest => basic rest
  | '\'' :: '\'' :: '\'' :: rest => multiLiteral (dropBreak rest)
  | '\'' :: rest => literal rest
  | _ => none

/-- A blank within a line. -/
def isSpace (c : Char) : Bool := c == ' ' || c == '\t'

/-- The text after the blanks it begins with. -/
def skipSpace (cs : List Char) : List Char := cs.dropWhile isSpace

/-- A character of a key without quotes. -/
def isBareKey (c : Char) : Bool := c.isAlphanum || c == '_' || c == '-'

/-- A key without dots. -/
def simpleKey? : List Char → Option Piece
  | '"' :: rest => basic rest
  | '\'' :: rest => literal rest
  | cs =>
    match cs.takeWhile isBareKey with
    | [] => none
    | key => some (key, cs.dropWhile isBareKey)

/-- The parts of a dotted key, with blanks around dots and at both ends. -/
def key? : (fuel : Nat) → List Char → Option (List String × List Char)
  | 0, _ => none
  | fuel + 1, cs =>
    match simpleKey? (skipSpace cs) with
    | none => none
    | some (part, rest) =>
      match skipSpace rest with
      | '.' :: rest => (key? fuel rest).map fun (parts, r) => (String.ofList part :: parts, r)
      | rest => some ([String.ofList part], rest)

end ReplicaSeed.Toml
