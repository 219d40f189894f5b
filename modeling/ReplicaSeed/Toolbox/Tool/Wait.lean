import ReplicaSeed.Toolbox.Tool.Options
import ReplicaSeed.Text.Numeral

/-!
# Waiting programs

`sleep` lets time pass; `true` and `false` do nothing, well or badly.
-/

namespace ReplicaSeed.Toolbox

open JobM

/-- The milliseconds of a unit of time. -/
def timeUnit? : List Char → Option Nat
  | [] | ['s'] => some 1000
  | ['m'] => some 60000
  | ['h'] => some 3600000
  | ['d'] => some 86400000
  | _ => none

/-- The milliseconds that a word stands for: a decimal number and a unit. What is less than a
millisecond is rounded up. -/
def millis? (word : String) : Option Nat := do
  let cs := word.toList
  let whole := cs.takeWhile Char.isDigit
  let (fraction, unit) := match cs.dropWhile Char.isDigit with
    | '.' :: rest => (rest.takeWhile Char.isDigit, rest.dropWhile Char.isDigit)
    | rest => ([], rest)
  if whole = [] ∧ fraction = [] then none
  let digits := Text.decimalValue (whole ++ fraction)
  let scale := Nat.pow 10 fraction.length
  return (digits * (← timeUnit? unit) + scale - 1) / scale

/-- Lets the sum of some times pass. -/
def sleepFor : Tool := withOptions "sleep" { flags := [] } 1 fun given => do
  if given.operands = [] then misuse "sleep" "missing operand" 1
  else
    let times := given.operands.map fun w => (w, millis? w)
    match times.filter (·.2.isNone) with
    | [] => sleep ((times.filterMap (·.2)).foldl (· + ·) 0)
    | bad =>
      for (word, _) in bad do
        warn ("sleep: invalid time interval '" ++ word ++ "'")
      complain "Try 'sleep --help' for more information." 1

/-- Does nothing. -/
def succeed : Tool := fun _ => return

/-- Does nothing, badly. -/
def fail : Tool := fun _ => exitWith 1

end ReplicaSeed.Toolbox
