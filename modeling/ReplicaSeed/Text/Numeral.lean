/-!
# Decimal numerals

Reading integers of a limited range, with the reason when a text is none, and the instances for
the widths that the agent's settings and coordinates have.

## Main definitions

* `NumeralFault`: why a text is no numeral of the range.
* `readNat`, `readInt`: reading with the limit of the range.
* `readPosition`, `readPort`: the ranges in use.
-/

namespace ReplicaSeed.Text

/-- Why a text is not a numeral of the wanted range. -/
inductive NumeralFault where
  | empty
  | invalidDigit
  | tooLarge
  | tooSmall
  deriving DecidableEq, Repr

/-- The text of a fault, as it stands at the end of a message. -/
def NumeralFault.message : NumeralFault → String
  | .empty => "cannot parse integer from empty string"
  | .invalidDigit => "invalid digit found in string"
  | .tooLarge => "number too large to fit in target type"
  | .tooSmall => "number too small to fit in target type"

/-- The value of an ASCII digit. -/
def digit? (c : Char) : Option Nat :=
  if '0' ≤ c ∧ c ≤ '9' then some (c.toNat - '0'.toNat) else none

/-- The number that decimal digits stand for. -/
def decimalValue (digits : List Char) : Nat :=
  digits.foldl (fun n c => n * 10 + (digit? c).getD 0) 0

/-- The number that a text begins with and the rest after it, if it begins with a digit. -/
def leadingNat? (cs : List Char) : Option (Nat × List Char) :=
  match cs.takeWhile Char.isDigit with
  | [] => none
  | digits => some (decimalValue digits, cs.dropWhile Char.isDigit)

/-- Reads digits after those that gave `value`. The first fault from the left wins: a character
that is no digit, or a digit that takes the value over `limit`. -/
def readDigits (limit : Nat) (tooLong : NumeralFault) (value : Nat) :
    List Char → Except NumeralFault Nat
  | [] => .ok value
  | c :: cs =>
    match digit? c with
    | none => .error .invalidDigit
    | some d =>
      let next := value * 10 + d
      if limit < next then .error tooLong else readDigits limit tooLong next cs

/-- A numeral from 0 to `limit`, with an optional plus sign. -/
def readNat (limit : Nat) : List Char → Except NumeralFault Nat
  | [] => .error .empty
  | ['+'] => .error .invalidDigit
  | '+' :: cs => readDigits limit .tooLarge 0 cs
  | cs => readDigits limit .tooLarge 0 cs

/-- A numeral from `-2^bits` to `2^bits - 1`, with an optional sign. -/
def readInt (bits : Nat) : List Char → Except NumeralFault Int
  | [] => .error .empty
  | ['+'] => .error .invalidDigit
  | ['-'] => .error .invalidDigit
  | '+' :: cs => (readDigits (Nat.pow 2 bits - 1) .tooLarge 0 cs).map Int.ofNat
  | '-' :: cs => (readDigits (Nat.pow 2 bits) .tooSmall 0 cs).map fun n => -Int.ofNat n
  | cs => (readDigits (Nat.pow 2 bits - 1) .tooLarge 0 cs).map Int.ofNat

/-- A signed 64-bit numeral. -/
def readInt64 (cs : List Char) : Except NumeralFault Int64 := (readInt 63 cs).map Int64.ofInt

/-- An unsigned 16-bit numeral. -/
def readUInt16 (cs : List Char) : Except NumeralFault UInt16 := (readNat 65535 cs).map UInt16.ofNat

/-- An unsigned 32-bit numeral. -/
def readUInt32 (cs : List Char) : Except NumeralFault UInt32 :=
  (readNat 4294967295 cs).map UInt32.ofNat

/-- The decimal text of a signed 64-bit integer. -/
def int64Text (n : Int64) : String := toString n.toInt

end ReplicaSeed.Text
