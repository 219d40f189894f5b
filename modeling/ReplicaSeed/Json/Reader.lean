import ReplicaSeed.Json.Basic
import ReplicaSeed.Text.Search

/-!
# Reading JSON

The grammar of RFC 8259, without extensions.

## Main definitions

* `Json.ofText?`: the value of a text.
-/

namespace ReplicaSeed.Json

/-- The blanks between tokens. -/
def isSpace (c : Char) : Bool := c == ' ' || c == '\n' || c == '\t' || c == '\r'

/-- The text from the next token on. -/
def skipSpace (cs : List Char) : List Char := cs.dropWhile isSpace

/-! ## Strings -/

/-- A part of a string: a character, or a unit of UTF-16 that an escape gives. -/
inductive StringPart where
  | char (c : Char)
  | unit (n : Nat)
  deriving DecidableEq, Repr

/-- The value of a hexadecimal digit. -/
def hexValue? (c : Char) : Option Nat :=
  if '0' ≤ c ∧ c ≤ '9' then some (c.toNat - 48)
  else if 'a' ≤ c ∧ c ≤ 'f' then some (c.toNat - 87)
  else if 'A' ≤ c ∧ c ≤ 'F' then some (c.toNat - 55)
  else none

/-- The value of four hexadecimal digits. -/
def hexValue4? (a b c d : Char) : Option Nat := do
  return ((((← hexValue? a) * 16 + (← hexValue? b)) * 16 + (← hexValue? c)) * 16) + (← hexValue? d)

/-- The character of an escape of one letter. -/
def simpleEscape? : Char → Option Char
  | '"' => some '"'
  | '\\' => some '\\'
  | '/' => some '/'
  | 'b' => some '\x08'
  | 'f' => some '\x0c'
  | 'n' => some '\n'
  | 'r' => some '\r'
  | 't' => some '\t'
  | _ => none

/-- The parts of a string up to its closing quote, and the text after that. -/
def stringParts : List Char → Option (List StringPart × List Char)
  | [] => none
  | '"' :: rest => some ([], rest)
  | '\\' :: 'u' :: a :: b :: c :: d :: rest =>
    match hexValue4? a b c d with
    | none => none
    | some n => (stringParts rest).map fun (ps, r) => (.unit n :: ps, r)
  | '\\' :: e :: rest =>
    match simpleEscape? e with
    | none => none
    | some c => (stringParts rest).map fun (ps, r) => (.char c :: ps, r)
  | c :: rest =>
    if c.toNat < 32 ∨ c = '\\' then none
    else (stringParts rest).map fun (ps, r) => (.char c :: ps, r)

/-- The text of the parts; none if a unit is half of a pair without the other half. -/
def joinParts : List StringPart → Option (List Char)
  | [] => some []
  | .char c :: ps => (joinParts ps).map (c :: ·)
  | .unit hi :: ps =>
    if 0xd800 ≤ hi ∧ hi < 0xdc00 then
      match ps with
      | .unit lo :: ps =>
        if 0xdc00 ≤ lo ∧ lo < 0xe000 then
          (joinParts ps).map (Char.ofNat (0x10000 + (hi - 0xd800) * 0x400 + (lo - 0xdc00)) :: ·)
        else none
      | _ => none
    else if 0xdc00 ≤ hi ∧ hi < 0xe000 then none
    else (joinParts ps).map (Char.ofNat hi :: ·)

/-! ## Numbers -/

/-- The digits at the beginning, and the text after them. -/
def digitRun (cs : List Char) : List Char × List Char :=
  (cs.takeWhile Char.isDigit, cs.dropWhile Char.isDigit)

/-- The whole part of a number: zero, or digits that do not begin with zero. -/
def wholePart : List Char → Option (List Char × List Char)
  | '0' :: rest => if (rest.head?.map Char.isDigit).getD false then none else some (['0'], rest)
  | cs =>
    match digitRun cs with
    | ([], _) => none
    | run => some run

/-- Skips a fraction if there is one, and tells whether there was. -/
def skipFraction : List Char → Option (Bool × List Char)
  | '.' :: rest =>
    match digitRun rest with
    | ([], _) => none
    | (_, rest) => some (true, rest)
  | cs => some (false, cs)

/-- Skips an exponent if there is one, and tells whether there was. -/
def skipExponent : List Char → Option (Bool × List Char)
  | 'e' :: rest | 'E' :: rest =>
    let rest := match rest with
      | '+' :: r | '-' :: r => r
      | r => r
    match digitRun rest with
    | ([], _) => none
    | (_, rest) => some (true, rest)
  | cs => some (false, cs)

/-- The value of a number: an integer if it is written as one and fits into 64 bits. A zero with a
minus sign is no integer. -/
def numberValue (negative exact : Bool) (digits : List Char) : Json :=
  let n : Nat := digits.foldl (fun n c => n * 10 + (c.toNat - 48)) 0
  if !exact then other
  else if negative then if n = 0 ∨ 9223372036854775808 < n then other else int (-(n : Int))
  else if 18446744073709551615 < n then other else int n

/-- Reads a number. -/
def number (cs : List Char) : Option (Json × List Char) := do
  let (negative, cs) := match cs with
    | '-' :: rest => (true, rest)
    | cs => (false, cs)
  let (digits, cs) ← wholePart cs
  let (fraction, cs) ← skipFraction cs
  let (exponent, cs) ← skipExponent cs
  return (numberValue negative (!fraction && !exponent) digits, cs)

/-! ## Values -/

/-- The value of a string. -/
def stringValue (ps : List StringPart) : Json :=
  match joinParts ps with
  | some cs => str (String.ofList cs)
  | none => other

/-- The value of an object; a key that is no text makes it one that nothing reads. -/
def objectValue (ms : List (Option String × Json)) : Json :=
  match ms.mapM fun (key, v) => key.map fun k => (k, v) with
  | some ms => obj ms
  | none => other

mutual

/-- Reads a value; `fuel` bounds the number of the values in it and of their nesting. -/
def value : (fuel : Nat) → List Char → Option (Json × List Char)
  | 0, _ => none
  | fuel + 1, cs =>
    match skipSpace cs with
    | '"' :: rest => (stringParts rest).map fun (ps, r) => (stringValue ps, r)
    | '[' :: rest =>
      match skipSpace rest with
      | ']' :: r => some (arr [], r)
      | _ => (items fuel rest).map fun (vs, r) => (arr vs, r)
    | '{' :: rest =>
      match skipSpace rest with
      | '}' :: r => some (obj [], r)
      | _ => (members fuel rest).map fun (ms, r) => (objectValue ms, r)
    | cs =>
      match Text.stripStart? "null".toList cs with
      | some r => some (null, r)
      | none =>
        match Text.stripStart? "true".toList cs with
        | some r => some (bool true, r)
        | none =>
          match Text.stripStart? "false".toList cs with
          | some r => some (bool false, r)
          | none => number cs

/-- Reads the items of an array and its closing bracket. -/
def items : (fuel : Nat) → List Char → Option (List Json × List Char)
  | 0, _ => none
  | fuel + 1, cs =>
    match value fuel cs with
    | none => none
    | some (v, rest) =>
      match skipSpace rest with
      | ']' :: r => some ([v], r)
      | ',' :: r => (items fuel r).map fun (vs, r) => (v :: vs, r)
      | _ => none

/-- Reads the members of an object and its closing brace. -/
def members : (fuel : Nat) → List Char → Option (List (Option String × Json) × List Char)
  | 0, _ => none
  | fuel + 1, cs =>
    match skipSpace cs with
    | '"' :: rest =>
      match stringParts rest with
      | none => none
      | some (ps, rest) =>
        match skipSpace rest with
        | ':' :: rest =>
          match value fuel rest with
          | none => none
          | some (v, rest) =>
            let member := ((joinParts ps).map String.ofList, v)
            match skipSpace rest with
            | '}' :: r => some ([member], r)
            | ',' :: r => (members fuel r).map fun (ms, r) => (member :: ms, r)
            | _ => none
        | _ => none
    | _ => none

end

/-- The value of a text that holds one value and blanks around it. -/
def ofText? (s : String) : Option Json := do
  let cs := s.toList
  let (v, rest) ← value (2 * cs.length + 1) cs
  guard (skipSpace rest = [])
  return v

end ReplicaSeed.Json
