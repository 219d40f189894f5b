import ReplicaSeed.Toolbox.Tool.Copy

/-!
# Cutting columns

`cut` keeps parts of each line: bytes by their positions, or fields between delimiters.

## Main definitions

* `Positions.read?`: a list of positions and ranges.
* `cut`: the program.
-/

namespace ReplicaSeed.Toolbox

open JobM

/-- A range of positions, which count from one; no last one if it has no end. -/
structure Positions where
  first : Nat
  last : Option Nat
  deriving DecidableEq, Repr

namespace Positions

/-- The position is in one of the ranges. -/
def any (ranges : List Positions) (n : Nat) : Bool :=
  ranges.any fun r => r.first ≤ n && r.last.all (n ≤ ·)

/-- Why a list of positions is none. -/
inductive Fault where
  | fromOne
  | noEndpoint
  | decreasing
  | invalid
  deriving DecidableEq, Repr

/-- Reads one position or range. -/
def readOne (cs : List Char) : Except Fault Positions := do
  let number (digits : List Char) : Except Fault Nat := do
    if !digits.all Char.isDigit then throw .invalid
    match Text.decimalValue digits with
    | 0 => throw .fromOne
    | n => return n
  match Text.splitOn '-' cs with
  | [[]] => throw .fromOne
  | [n] => do
    let n ← number n
    return ⟨n, some n⟩
  | [[], []] => throw .noEndpoint
  | [[], n] => return ⟨1, some (← number n)⟩
  | [n, []] => return ⟨← number n, none⟩
  | [n, m] =>
    let n ← number n
    let m ← number m
    if m < n then throw .decreasing
    return ⟨n, some m⟩
  | _ => throw .invalid

/-- Reads a list of positions and ranges, between commas or blanks. -/
def read (text : String) : Except Fault (List Positions) :=
  (Text.splitOn ',' (text.toList.map fun c => if c = ' ' ∨ c = '\t' then ',' else c)).mapM readOne

/-- The text of a fault. -/
def faultText (ofFields : Bool) (text : String) : Fault → String
  | .fromOne =>
    if ofFields then "fields are numbered from 1"
    else "byte/character positions are numbered from 1"
  | .noEndpoint => "invalid range with no endpoint: -"
  | .decreasing => "invalid decreasing range"
  | .invalid =>
    if ofFields then "invalid field value '" ++ text ++ "'"
    else "invalid byte/character position '" ++ text ++ "'"

end Positions

/-- What `cut` keeps. -/
structure Cutting where
  ranges : List Positions
  ofFields : Bool
  delimiter : UInt8 := 9
  outputDelimiter : Option (List UInt8) := none
  onlyDelimited : Bool := false
  complement : Bool := false

namespace Cutting

variable (c : Cutting)

/-- A position is kept. -/
def keeps (n : Nat) : Bool := Positions.any c.ranges n != c.complement

/-- Pieces of a list between the occurrences of `d`. -/
def splitBytes (d : UInt8) (bytes : List UInt8) : List (List UInt8) :=
  let (pieces, last) := bytes.foldr
    (fun b (acc : List (List UInt8) × List UInt8) =>
      if b = d then (acc.2 :: acc.1, []) else (acc.1, b :: acc.2))
    ([], [])
  last :: pieces

/-- What is kept of a line; nothing if the line is left out. -/
def line (bytes : List UInt8) : Option (List UInt8) :=
  if c.ofFields then
    if bytes.contains c.delimiter then
      let kept := (splitBytes c.delimiter bytes).zipIdx.filter fun (_, i) => c.keeps (i + 1)
      some ((c.outputDelimiter.getD [c.delimiter]).intercalate (kept.map (·.1)))
    else if c.onlyDelimited then none
    else some bytes
  else some ((bytes.zipIdx.filter fun (_, i) => c.keeps (i + 1)).map (·.1))

/-- What is kept of all lines. Each line that is kept is ended. -/
def apply (bytes : List UInt8) : List UInt8 :=
  (byteLines bytes).flatMap fun l =>
    match c.line (chomp l) with
    | some kept => kept ++ [10]
    | none => []

/-- What the options ask for. -/
def ofOptions (given : GivenWords) : Except String Cutting := do
  let lists := given.options.filter fun o => ['b', 'c', 'f'].contains o.letter
  let list ← match lists with
    | [] => throw "you must specify a list of bytes, characters, or fields"
    | [o] => pure o
    | _ => throw "only one list may be specified"
  let ofFields := list.letter = 'f'
  let delimiter ← match given.value? 'd' with
    | none => pure 9
    | some text =>
      match Text.encode text.toList with
      | [] => pure 0
      | [b] => pure b
      | _ => throw "the delimiter must be a single character"
  if !ofFields && (given.value? 'd').isSome then
    throw "an input delimiter may be specified only when operating on fields"
  if !ofFields && given.has 's' then
    throw "suppressing non-delimited lines makes sense\n\tonly when operating on fields"
  match Positions.read list.value with
  | .error fault => throw (Positions.faultText ofFields list.value fault)
  | .ok ranges =>
    return {
      ranges, ofFields, delimiter
      outputDelimiter := (given.value? 'o').map fun t => Text.encode t.toList
      onlyDelimited := given.has 's'
      complement := given.has 'C' }

end Cutting

/-- Keeps parts of the lines of files, or of the input if there are none. -/
def cut : Tool := withOptions "cut"
    { flags := ['n', 's']
      valued := ['b', 'c', 'd', 'f']
      long := [("bytes", 'b'), ("characters", 'c'), ("fields", 'f'), ("delimiter", 'd'),
        ("only-delimited", 's'), ("complement", 'C'), ("output-delimiter", 'o')]
      longValued := ['o'] } 1 fun given => do
  match Cutting.ofOptions given with
  | .error text => misuse "cut" text 1
  | .ok cutting =>
    for operand in (if given.operands = [] then ["-"] else given.operands) do
      if operand = "-" then write (cutting.apply (← readAll))
      else
        match ← fileContent operand with
        | .ok bytes => write (cutting.apply bytes)
        | .error fault => complain ("cut: " ++ operand ++ ": " ++ fault.description) 1

end ReplicaSeed.Toolbox
