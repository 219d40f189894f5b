import ReplicaSeed.Text.Lossy

/-!
# Escapes in printed text

A backslash in a text that is to be printed may begin an escape: a letter for a control character,
the octal or hexadecimal digits of a byte, or `c`, which ends all printing. A backslash that begins
no escape stands for itself.

## Main definitions

* `EscapeStyle`: which escapes there are.
* `EscapeStyle.escape?`: the escape after a backslash.
* `EscapeStyle.unescape`: the bytes of a text.
-/

namespace ReplicaSeed.Toolbox

/-- Which escapes there are. -/
structure EscapeStyle where
  /-- Letters, each with the byte that it stands for. -/
  letters : List (Char × UInt8)
  /-- `c` ends all printing. -/
  canStop : Bool
  /-- A zero may stand before the three octal digits. -/
  leadingZero : Bool
  /-- `x` and two digits stand for a byte. -/
  hexadecimal : Bool

/-- Letters that all styles know. -/
def controlLetters : List (Char × UInt8) :=
  [('\\', 92), ('a', 7), ('b', 8), ('f', 12), ('n', 10), ('r', 13), ('t', 9), ('v', 11)]

/-- The value of a digit in a base up to sixteen. -/
def digitIn? (base : Nat) (c : Char) : Option Nat :=
  let v? :=
    if c.isDigit then some (c.toNat - '0'.toNat)
    else if 'a' ≤ c ∧ c ≤ 'f' then some (c.toNat - 'a'.toNat + 10)
    else if 'A' ≤ c ∧ c ≤ 'F' then some (c.toNat - 'A'.toNat + 10)
    else none
  v?.filter (· < base)

/-- Reads at most `count` digits: how many there are, their value, and the rest. -/
def readDigitsIn (base : Nat) : (count : Nat) → List Char → Nat × Nat × List Char
  | 0, cs => (0, 0, cs)
  | _, [] => (0, 0, [])
  | count + 1, c :: cs =>
    match digitIn? base c with
    | none => (0, 0, c :: cs)
    | some d =>
      let (n, value, rest) := readDigitsIn base count cs
      (n + 1, d * Nat.pow base n + value, rest)

/-- What a backslash begins. -/
inductive Escape where
  | byte (value : UInt8) (rest : List Char)
  | stop
  deriving DecidableEq, Repr

namespace EscapeStyle

variable (style : EscapeStyle)

/-- The escape of the text after a backslash. -/
def escape? : List Char → Option Escape
  | [] => none
  | c :: cs =>
    if c = 'c' ∧ style.canStop then some .stop
    else
      match style.letters.lookup c with
      | some b => some (.byte b cs)
      | none =>
        if c = 'x' ∧ style.hexadecimal then
          match readDigitsIn 16 2 cs with
          | (0, _) => none
          | (_, value, rest) => some (.byte (UInt8.ofNat value) rest)
        else
          let digits := if c = '0' ∧ style.leadingZero then cs else c :: cs
          match readDigitsIn 8 3 digits with
          | (0, _) => if c = '0' ∧ style.leadingZero then some (.byte 0 cs) else none
          | (_, value, rest) => some (.byte (UInt8.ofNat value) rest)

/-- The bytes of at most `fuel` steps through a text, and whether they end all printing. -/
def unescapeWithin : (fuel : Nat) → List Char → List UInt8 × Bool
  | 0, _ => ([], false)
  | _, [] => ([], false)
  | fuel + 1, c :: cs =>
    let continue_ (bytes : List UInt8) (rest : List Char) : List UInt8 × Bool :=
      let (more, stopped) := unescapeWithin fuel rest
      (bytes ++ more, stopped)
    if c = '\\' then
      match style.escape? cs with
      | some .stop => ([], true)
      | some (.byte b rest) => continue_ [b] rest
      | none => continue_ [92] cs
    else continue_ (Text.encode [c]) cs

/-- The bytes of a text, and whether they end all printing. -/
def unescape (cs : List Char) : List UInt8 × Bool := style.unescapeWithin cs.length cs

end EscapeStyle

end ReplicaSeed.Toolbox
