/-!
# Lengths of time

Lengths of time with a resolution of one nanosecond, and their text in messages.

## Main definitions

* `Span`: a length of time.
* `Span.text`: the text in the largest unit that is not below one.
-/

namespace ReplicaSeed

/-- A length of time in nanoseconds. -/
structure Span where
  nanos : Nat
  deriving DecidableEq, Repr

namespace Span

/-- A length of whole seconds. -/
def seconds (n : Nat) : Span := ⟨n * 1000000000⟩

/-- A length of whole milliseconds. -/
def millis (n : Nat) : Span := ⟨n * 1000000⟩

/-- Seconds and nanoseconds. -/
def ofParts (secs nanos : Nat) : Span := ⟨secs * 1000000000 + nanos⟩

/-- The whole seconds of a length. -/
def wholeSeconds (s : Span) : Nat := s.nanos / 1000000000

instance : LE Span := ⟨fun a b => a.nanos ≤ b.nanos⟩

instance (a b : Span) : Decidable (a ≤ b) := inferInstanceAs (Decidable (a.nanos ≤ b.nanos))

/-- The last `width` decimal digits of `n`. -/
def paddedDigits (width n : Nat) : List Char :=
  let ds := Nat.toDigits 10 n
  List.replicate (width - ds.length) '0' ++ ds

/-- A fraction of `width` places after a decimal point, without the zeros at its end; nothing if
no digit is left. -/
def fractionText (width n : Nat) : String :=
  let ds := ((paddedDigits width n).reverse.dropWhile (· == '0')).reverse
  if ds.isEmpty then "" else String.ofList ('.' :: ds)

/-- The quotient by `10 ^ places` as a decimal. -/
def decimalText (places n : Nat) : String :=
  toString (n / Nat.pow 10 places) ++ fractionText places (n % Nat.pow 10 places)

/-- The text of a length in the largest of the units second, millisecond, microsecond and
nanosecond in which it is at least one. -/
def text (s : Span) : String :=
  if 1000000000 ≤ s.nanos then decimalText 9 s.nanos ++ "s"
  else if 1000000 ≤ s.nanos then decimalText 6 s.nanos ++ "ms"
  else if 1000 ≤ s.nanos then decimalText 3 s.nanos ++ "µs"
  else decimalText 0 s.nanos ++ "ns"

end Span

end ReplicaSeed
