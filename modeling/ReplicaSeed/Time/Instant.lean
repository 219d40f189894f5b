import ReplicaSeed.Text.Blank
import ReplicaSeed.Text.Numeral
import ReplicaSeed.Text.Search
import ReplicaSeed.Time.Calendar
import ReplicaSeed.Time.Span

/-!
# Instants

Points in time, read and written as in RFC 3339 and always shown in universal time.

## Main definitions

* `Instant`: a point in time.
* `Instant.text`: its text.
* `Instant.ofText?`: reading, where blanks may stand between the parts.
-/

namespace ReplicaSeed

/-- A point in time: seconds since the beginning of 1970, and nanoseconds after them. In a leap
second the nanoseconds reach from one to two thousand million. -/
structure Instant where
  secs : Int
  nanos : Nat
  deriving DecidableEq, Repr

namespace Instant

/-- The beginning of 1970. -/
def epoch : Instant := ⟨0, 0⟩

instance : Inhabited Instant := ⟨epoch⟩

/-- The instant that is `s` later. -/
def after (t : Instant) (s : Span) : Instant :=
  let nanos := t.nanos + s.nanos
  ⟨t.secs + (nanos / 1000000000 : Nat), nanos % 1000000000⟩

/-- The instant lies in a leap second. -/
def isLeap (t : Instant) : Bool := 1000000000 ≤ t.nanos

/-- The second of the day that an instant lies in. -/
def secondOfDay (t : Instant) : Int := t.secs.fmod 86400

/-- The leap second that is counted between `t` and `u`: one of the two lies in it, and the other
one is later in the day. -/
def leapBetween (t u : Instant) : Int :=
  if t.isLeap ∧ t.secondOfDay < u.secondOfDay then 1
  else if u.isLeap ∧ u.secondOfDay < t.secondOfDay then -1
  else 0

/-- Nanoseconds from `t` to `u`; negative if `u` is earlier. -/
def nanosUntil (t u : Instant) : Int :=
  (u.secs - t.secs + leapBetween t u) * 1000000000 + (u.nanos - t.nanos)

/-- A number with at least two digits. -/
def twoDigits (n : Nat) : String := String.ofList (Span.paddedDigits 2 n)

/-- A year has four digits; outside of 0 to 9999 it has a sign as well. -/
def yearText (year : Int) : String :=
  let digits := String.ofList (Span.paddedDigits 4 year.natAbs)
  if 0 ≤ year ∧ year ≤ 9999 then digits else (if year < 0 then "-" else "+") ++ digits

/-- Nanoseconds have 3, 6 or 9 places, the fewest that are exact; none if they are zero. -/
def subsecondText (nanos : Nat) : String :=
  if nanos = 0 then ""
  else if nanos % 1000000 = 0 then "." ++ String.ofList (Span.paddedDigits 3 (nanos / 1000000))
  else if nanos % 1000 = 0 then "." ++ String.ofList (Span.paddedDigits 6 (nanos / 1000))
  else "." ++ String.ofList (Span.paddedDigits 9 nanos)

/-- The text of an instant in universal time. -/
def text (t : Instant) : String :=
  let (year, month, day) := Calendar.civilDate (t.secs.fdiv 86400)
  let secondOfDay := (t.secs.fmod 86400).toNat
  let leap := if 1000000000 ≤ t.nanos then 1 else 0
  yearText year ++ "-" ++ twoDigits month ++ "-" ++ twoDigits day ++ "T" ++
    twoDigits (secondOfDay / 3600) ++ ":" ++ twoDigits (secondOfDay / 60 % 60) ++ ":" ++
    twoDigits (secondOfDay % 60 + leap) ++ subsecondText (t.nanos - leap * 1000000000) ++ "Z"

/-! ## Reading -/

/-- A step of reading: a value and the text after it. -/
abbrev Reads (α : Type) := List Char → Option (α × List Char)

/-- The digits at the beginning, at most `width` of them, and at least one; the value fits into a
signed 64-bit integer. -/
def number (width : Option Nat) : Reads Nat := fun cs =>
  let run := cs.takeWhile fun c => (Text.digit? c).isSome
  let digits := match width with
    | some w => run.take w
    | none => run
  if digits.isEmpty then none
  else
    match Text.readNat 9223372036854775807 digits with
    | .ok n => some (n, cs.drop digits.length)
    | .error _ => none

/-- A number with at most two digits after optional blanks, within bounds. -/
def field (lo hi : Nat) : Reads Nat := fun cs => do
  let (n, rest) ← number (some 2) (Text.trimStart cs)
  guard (lo ≤ n ∧ n ≤ hi)
  return (n, rest)

/-- A year after optional blanks: four digits at most, or any number of them after a sign. -/
def year : Reads Int := fun cs =>
  match Text.trimStart cs with
  | '-' :: rest => (number none rest).map fun (n, r) => (-(n : Int), r)
  | '+' :: rest => (number none rest).map fun (n, r) => ((n : Int), r)
  | rest => (number (some 4) rest).map fun (n, r) => ((n : Int), r)

/-- A separator after optional blanks. -/
def separator (c : Char) (cs : List Char) : Option (List Char) :=
  Text.stripStart? [c] (Text.trimStart cs)

/-- An optional fraction of a second, in nanoseconds; places after the ninth are dropped. -/
def fraction : Reads Nat
  | '.' :: cs => do
    let run := cs.takeWhile fun c => (Text.digit? c).isSome
    guard (run ≠ [])
    let nine := run.take 9
    let n ← (Text.readNat 1000000000 nine).toOption
    return (n * Nat.pow 10 (9 - nine.length), cs.drop run.length)
  | cs => some (0, cs)

/-- The distance from universal time in seconds: `Z`, `UTC`, or a sign, two digits of hours and
two of minutes, with colons and blanks allowed between them. -/
def zone : Reads Int := fun cs =>
  match cs with
  | a :: b :: c :: rest =>
    if [a, b, c].map Char.toUpper = ['U', 'T', 'C'] then some (0, rest) else offset cs
  | _ => offset cs
where
  offset : Reads Int
    | 'Z' :: rest | 'z' :: rest => some (0, rest)
    | '+' :: rest => hoursAndMinutes rest
    | '-' :: rest | '−' :: rest => (hoursAndMinutes rest).map fun (n, r) => (-n, r)
    | _ => none
  hoursAndMinutes : Reads Int
    | h1 :: h2 :: rest => do
      let h1 ← Text.digit? h1
      let h2 ← Text.digit? h2
      match rest.dropWhile fun c => c == ':' || Text.isBlank c with
      | m1 :: m2 :: rest => do
        let m1 ← Text.digit? m1
        let m2 ← Text.digit? m2
        guard (m1 ≤ 5)
        return (((h1 * 10 + h2) * 3600 + (m1 * 10 + m2) * 60 : Nat), rest)
      | _ => none
    | _ => none

/-- The years that an instant may lie in. -/
def yearRange (year : Int) : Bool := -262143 ≤ year && year ≤ 262142

/-- Reads an instant. Blanks may stand before each number and separator of the date and of the
time, a lower-case `t` or a blank between them. -/
def ofText? (s : String) : Option Instant := do
  let (yyyy, cs) ← year s.toList
  let cs ← separator '-' cs
  let (month, cs) ← field 1 12 cs
  let cs ← separator '-' cs
  let (day, cs) ← field 1 31 cs
  let cs ← match cs with
    | 't' :: rest | 'T' :: rest | ' ' :: rest => some rest
    | _ => none
  let (hour, cs) ← field 0 23 cs
  let cs ← separator ':' cs
  let (minute, cs) ← field 0 59 cs
  let cs ← separator ':' cs
  let (second, cs) ← field 0 60 cs
  let (nanos, cs) ← fraction cs
  let (distance, cs) ← zone (Text.trimStart cs)
  guard (Text.trimStart cs = [])
  guard (distance.natAbs < 86400)
  guard (yearRange yyyy ∧ day ≤ Calendar.daysInMonth yyyy month)
  let leap := if second = 60 then 1 else 0
  let local_ := Calendar.dayNumber yyyy month day * 86400 + (hour * 3600 + minute * 60 : Nat) +
    ((second : Int) - leap)
  let secs := local_ - distance
  guard (yearRange (Calendar.civilDate (secs.fdiv 86400)).1)
  return ⟨secs, nanos + leap.toNat * 1000000000⟩

end Instant

end ReplicaSeed
