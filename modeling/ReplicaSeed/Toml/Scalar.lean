import ReplicaSeed.Json.Basic
import ReplicaSeed.Text.Numeral
import ReplicaSeed.Text.Search
import ReplicaSeed.Time.Calendar

/-!
# Unquoted values of TOML

Booleans, integers, floating-point numbers and dates, as TOML 1.0 writes them. What the agent has no
type for is checked and then read as `Json.other`.

## Main definitions

* `Toml.atom?`: the value of a run of characters.
-/

namespace ReplicaSeed.Toml

/-- The digits of a run in which single underscores may stand between digits. -/
def plainDigits? (isDigit : Char → Bool) : List Char → Option (List Char)
  | [] => none
  | [c] => if isDigit c then some [c] else none
  | c :: '_' :: cs => if isDigit c then (plainDigits? isDigit cs).map (c :: ·) else none
  | c :: cs => if isDigit c then (plainDigits? isDigit cs).map (c :: ·) else none

/-- A hexadecimal digit in either case. -/
def isHexDigit (c : Char) : Bool := c.isDigit || ('a' ≤ c && c ≤ 'f') || ('A' ≤ c && c ≤ 'F')

/-- The value of a digit in any base up to sixteen. -/
def digitValue (c : Char) : Nat :=
  if c.isDigit then c.toNat - 48 else if c.isUpper then c.toNat - 55 else c.toNat - 87

/-- The number of a list of digits. -/
def numberOf (base : Nat) (digits : List Char) : Nat :=
  digits.foldl (fun n c => n * base + digitValue c) 0

/-- A sign, and the text after it. -/
def sign : List Char → Bool × List Char
  | '-' :: cs => (true, cs)
  | '+' :: cs => (false, cs)
  | cs => (false, cs)

/-- The digits of a decimal number without needless zeros in front. -/
def decimalDigits? (cs : List Char) : Option (List Char) := do
  let ds ← plainDigits? Char.isDigit cs
  guard (ds.length = 1 ∨ ds.head? ≠ some '0')
  return ds

/-- An integer that fits into 128 bits, signed or unsigned. -/
def wide (n : Int) : Option Json :=
  if n < -Nat.pow 2 127 ∨ (Nat.pow 2 128 : Int) ≤ n then none else some (.int n)

/-- An integer. -/
def integer? : List Char → Option Json
  | '0' :: 'x' :: cs => do
    wide (numberOf 16 (← plainDigits? isHexDigit cs))
  | '0' :: 'o' :: cs => do
    wide (numberOf 8 (← plainDigits? (fun c => '0' ≤ c ∧ c ≤ '7') cs))
  | '0' :: 'b' :: cs => do
    wide (numberOf 2 (← plainDigits? (fun c => c == '0' || c == '1') cs))
  | cs => do
    let (negative, cs) := sign cs
    let n := numberOf 10 (← decimalDigits? cs)
    wide (if negative then -(n : Int) else n)

/-- The number `mantissa` times ten to the `exponent` rounds to a binary number of 64 bits. The
limit is the middle between the greatest such number and the next power of two. -/
def isFinite (mantissa : Nat) (exponent : Int) : Bool :=
  let limit := (Nat.pow 2 54 - 1) * Nat.pow 2 970
  let size := (Nat.toDigits 10 mantissa).length + exponent
  if mantissa = 0 ∨ size < 300 then true
  else if 320 < size then false
  else if 0 ≤ exponent then mantissa * Nat.pow 10 exponent.toNat < limit
  else mantissa < limit * Nat.pow 10 (-exponent).toNat

/-- A floating-point number. -/
def float? (cs : List Char) : Option Json := do
  let (_, cs) := sign cs
  if cs = "inf".toList ∨ cs = "nan".toList then return .other
  let (body, exponent) := match Text.splitOnce? 'e' cs, Text.splitOnce? 'E' cs with
    | some (b, e), none | none, some (b, e) => (b, some e)
    | none, none => (cs, none)
    | some _, some _ => ([], none)
  let (whole, fraction) := match Text.splitOnce? '.' body with
    | some (w, f) => (w, some f)
    | none => (body, none)
  guard (exponent.isSome ∨ fraction.isSome)
  let whole ← decimalDigits? whole
  let fraction ← match fraction with
    | none => some []
    | some f => plainDigits? Char.isDigit f
  let exponent ← match exponent with
    | none => some 0
    | some e => do
      let (negative, e) := sign e
      let n := numberOf 10 (← plainDigits? Char.isDigit e)
      some (if negative then -(n : Int) else n)
  guard (isFinite (numberOf 10 (whole ++ fraction)) (exponent - fraction.length))
  return .other

/-! ## Dates -/

/-- Exactly `width` digits with a value within bounds, and the text after them. -/
def fixedNumber? (width lo hi : Nat) (cs : List Char) : Option (Nat × List Char) := do
  let ds := cs.take width
  guard (ds.length = width ∧ ds.all Char.isDigit)
  let n := numberOf 10 ds
  guard (lo ≤ n ∧ n ≤ hi)
  return (n, cs.drop width)

/-- A date, and the text after it. -/
def date? (cs : List Char) : Option (List Char) := do
  let (year, cs) ← fixedNumber? 4 0 9999 cs
  let cs ← Text.stripStart? ['-'] cs
  let (month, cs) ← fixedNumber? 2 1 12 cs
  let cs ← Text.stripStart? ['-'] cs
  let (_, cs) ← fixedNumber? 2 1 (Calendar.daysInMonth year month) cs
  return cs

/-- A time of day, and the text after it. -/
def time? (cs : List Char) : Option (List Char) := do
  let (_, cs) ← fixedNumber? 2 0 23 cs
  let cs ← Text.stripStart? [':'] cs
  let (_, cs) ← fixedNumber? 2 0 59 cs
  let cs ← Text.stripStart? [':'] cs
  let (_, cs) ← fixedNumber? 2 0 60 cs
  match cs with
  | '.' :: rest =>
    guard ((rest.head?.map Char.isDigit).getD false)
    return rest.dropWhile Char.isDigit
  | _ => return cs

/-- Nothing, or a distance from universal time. -/
def isOffset : List Char → Bool
  | [] | ['Z'] | ['z'] => true
  | c :: cs =>
    (c == '+' || c == '-') &&
      (do
        let (_, cs) ← fixedNumber? 2 0 23 cs
        let cs ← Text.stripStart? [':'] cs
        let (_, cs) ← fixedNumber? 2 0 59 cs
        guard (cs = [])).isSome

/-- A date, a time of day, or both. -/
def dateTime? (cs : List Char) : Option Json :=
  match date? cs with
  | some [] => some .other
  | some (c :: rest) =>
    if c = 'T' ∨ c = 't' ∨ c = ' ' then
      match time? rest with
      | some rest => if isOffset rest then some .other else none
      | none => none
    else none
  | none => if time? cs = some [] then some .other else none

/-- The value of a run of characters. -/
def atom? (cs : List Char) : Option Json :=
  if cs = "true".toList then some (.bool true)
  else if cs = "false".toList then some (.bool false)
  else integer? cs <|> float? cs <|> dateTime? cs

/-- The character ends an unquoted value. -/
def endsAtom (c : Char) : Bool :=
  [' ', '\t', '\n', '\r', ',', ']', '}', '#'].contains c

/-- Reads an unquoted value. A blank may stand between a date and a time. -/
def atom (cs : List Char) : Option (Json × List Char) := do
  let run := cs.takeWhile fun c => !endsAtom c
  let rest := cs.dropWhile fun c => !endsAtom c
  match date? run, rest with
  | some [], ' ' :: more =>
    if (more.head?.map Char.isDigit).getD false then
      let second := more.takeWhile fun c => !endsAtom c
      return (← dateTime? (run ++ ' ' :: second), more.dropWhile fun c => !endsAtom c)
    else return (← atom? run, rest)
  | _, _ => return (← atom? run, rest)

end ReplicaSeed.Toml
