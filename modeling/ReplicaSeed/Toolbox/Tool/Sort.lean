import ReplicaSeed.Toolbox.Tool.Cut

/-!
# Sorting lines

`sort` puts lines in the order of their bytes, or of the keys that its options describe; lines whose
keys are equal follow in the order of their bytes.

## Main definitions

* `Comparison`, `LineOrder`: how lines are compared.
* `SortKey.read`: the fields that make a key.
* `sort`: the program.
-/

namespace ReplicaSeed.Toolbox

open JobM

/-- How texts are compared. -/
structure Comparison where
  numeric : Bool := false
  reversed : Bool := false
  foldCase : Bool := false
  skipBlanks : Bool := false
  deriving DecidableEq

/-- The fields of a line that make a key. -/
structure SortKey where
  first : Nat
  last : Option Nat := none
  comparison : Comparison := {}

/-- The order of bytes. -/
def compareBytes : List UInt8 → List UInt8 → Ordering
  | [], [] => .eq
  | [], _ :: _ => .lt
  | _ :: _, [] => .gt
  | a :: as, b :: bs => if a < b then .lt else if b < a then .gt else compareBytes as bs

/-- The bytes without blanks in front. -/
def skipBlankBytes (bytes : List UInt8) : List UInt8 := bytes.dropWhile fun b => b = 32 || b = 9

private def isDigitByte (b : UInt8) : Bool := 48 ≤ b && b ≤ 57

/-- The number that bytes begin with, as a whole number and the digits of a fraction. -/
def leadingNumber (bytes : List UInt8) : Bool × Nat × List UInt8 :=
  let (negative, rest) := match skipBlankBytes bytes with
    | 45 :: rest => (true, rest)
    | rest => (false, rest)
  let whole := (rest.takeWhile isDigitByte).foldl (fun n b => n * 10 + (b.toNat - 48)) 0
  let fraction := match rest.dropWhile isDigitByte with
    | 46 :: more => more.takeWhile isDigitByte
    | _ => []
  let trimmed := (fraction.reverse.dropWhile (· = 48)).reverse
  (negative && !(whole = 0 && trimmed = []), whole, trimmed)

/-- The order of the numbers that bytes begin with. -/
def compareNumbers (a b : List UInt8) : Ordering :=
  let (negA, wholeA, fracA) := leadingNumber a
  let (negB, wholeB, fracB) := leadingNumber b
  let sizes := (compare wholeA wholeB).then (compareBytes fracA fracB)
  match negA, negB with
  | true, false => .lt
  | false, true => .gt
  | false, false => sizes
  | true, true => sizes.swap

/-- The order of two texts. -/
def Comparison.compare (c : Comparison) (a b : List UInt8) : Ordering :=
  let prepare (t : List UInt8) : List UInt8 :=
    let t := if c.skipBlanks then skipBlankBytes t else t
    if c.foldCase then t.map fun b => if 97 ≤ b ∧ b ≤ 122 then b - 32 else b else t
  let order := if c.numeric then compareNumbers a b else compareBytes (prepare a) (prepare b)
  if c.reversed then order.swap else order

/-- The fields of a line. Without a separator a field begins where blanks follow a text. -/
def sortFields (separator : Option UInt8) (line : List UInt8) : List (List UInt8) :=
  match separator with
  | some d => Cutting.splitBytes d line
  | none =>
    let isBlankByte (b : UInt8) : Bool := b = 32 || b = 9
    let (fields, last, _) := line.foldl
      (fun (acc : List (List UInt8) × List UInt8 × Bool) b =>
        let (fields, field, inText) := acc
        if isBlankByte b && inText then (field.reverse :: fields, [b], false)
        else (fields, b :: field, inText || !isBlankByte b))
      ([], [], false)
    (last.reverse :: fields).reverse

/-- The key of a line. -/
def SortKey.text (k : SortKey) (separator : Option UInt8) (line : List UInt8) : List UInt8 :=
  let fields := (sortFields separator line).drop (k.first - 1)
  let fields := match k.last with
    | some last => fields.take (last + 1 - k.first)
    | none => fields
  match separator with
  | some d => [d].intercalate fields
  | none => fields.flatten

/-- Adds what a letter asks for to a comparison. -/
def Comparison.add (c : Comparison) : Char → Option Comparison
  | 'n' => some { c with numeric := true }
  | 'r' => some { c with reversed := true }
  | 'f' => some { c with foldCase := true }
  | 'b' => some { c with skipBlanks := true }
  | _ => none

/-- The field and the letters that a part of the description of a key begins with. -/
def SortKey.readPart (where_ text : String) (cs : List Char) : Except String (Nat × List Char) :=
  match Text.leadingNat? cs with
  | some part => .ok part
  | none => .error ("invalid number " ++ where_ ++ ": invalid count at start of '" ++ text ++ "'")

/-- Reads the description of a key: a field or two, each perhaps with letters. -/
def SortKey.read (text : String) : Except String SortKey := do
  let invalid (reason : String) : String :=
    reason ++ ": invalid field specification '" ++ text ++ "'"
  let comparison (letters : List Char) : Except String Comparison :=
    match letters.foldlM Comparison.add {} with
    | some c => .ok c
    | none => .error (invalid "stray character in field spec")
  let (start, end_) := match Text.splitOnce? ',' text.toList with
    | some (start, end_) => (start, some end_)
    | none => (text.toList, none)
  let (n, letters) ← SortKey.readPart "at field start" text start
  if n = 0 then throw (invalid "field number is zero")
  match end_ with
  | none => return ⟨n, none, ← comparison letters⟩
  | some end_ =>
    let (m, more) ← SortKey.readPart "after ','" (String.ofList end_) end_
    return ⟨n, if m = 0 then none else some m, ← comparison (letters ++ more)⟩

/-- How lines are ordered. -/
structure LineOrder where
  keys : List SortKey
  whole : Comparison
  separator : Option UInt8 := none
  unique : Bool := false
  stable : Bool := false

namespace LineOrder

variable (o : LineOrder)

/-- The order of two lines by their keys, or as a whole if there are none. -/
def compareKeys (a b : List UInt8) : Ordering :=
  if o.keys.isEmpty then o.whole.compare a b
  else
    o.keys.foldl
      (fun order k =>
        let comparison := if k.comparison = {} then o.whole else k.comparison
        order.then (comparison.compare (k.text o.separator a) (k.text o.separator b)))
      .eq

/-- The order of two lines. -/
def compare (a b : List UInt8) : Ordering :=
  let last := if o.unique || o.stable then .eq
    else if o.whole.reversed then (compareBytes a b).swap else compareBytes a b
  (o.compareKeys a b).then last

/-- The lines in order; of lines with equal keys only the first, if only one is wanted. -/
def apply (lines : List (List UInt8)) : List (List UInt8) :=
  let sorted := lines.mergeSort fun a b => o.compare a b != .gt
  if o.unique then
    (sorted.foldl
      (fun out line =>
        match out with
        | last :: _ => if o.compareKeys last line = .eq then out else line :: out
        | [] => [line])
      []).reverse
  else sorted

end LineOrder

/-- The lines of files or of the input; `sort` gives up at the first file that it cannot read. -/
def sortInput : List String → JobM (Option (List (List UInt8)))
  | [] => return some []
  | operand :: rest => do
    let bytes ← if operand = "-" then Except.ok <$> readAll else fileContent operand
    match bytes with
    | .error .isDirectory =>
      complain ("sort: read failed: " ++ operand ++ ": Is a directory") 2
      return none
    | .error fault =>
      complain ("sort: cannot read: " ++ operand ++ ": " ++ fault.description) 2
      return none
    | .ok bytes =>
      match ← sortInput rest with
      | none => return none
      | some lines => return some ((byteLines bytes).map chomp ++ lines)

/-- Writes the lines of files, or of the input if there are none, in order. -/
def sort : Tool := withOptions "sort"
    { flags := ['b', 'c', 'f', 'n', 'r', 's', 'u']
      valued := ['k', 'o', 't']
      long := [("reverse", 'r'), ("numeric-sort", 'n'), ("unique", 'u'), ("key", 'k'),
        ("output", 'o'), ("field-separator", 't'), ("stable", 's'), ("check", 'c'),
        ("ignore-case", 'f'), ("ignore-leading-blanks", 'b')] } 2 fun given => do
  match (given.options.filter (·.letter = 'k')).mapM fun o => SortKey.read o.value with
  | .error text => complain ("sort: " ++ text) 2
  | .ok keys =>
    let order : LineOrder := {
      keys
      whole := ⟨given.has 'n', given.has 'r', given.has 'f', given.has 'b'⟩
      separator := (given.value? 't').bind fun t => (Text.encode t.toList).head?
      unique := given.has 'u'
      stable := given.has 's' }
    match ← sortInput (if given.operands = [] then ["-"] else given.operands) with
    | none => return
    | some lines =>
      if given.has 'c' then
        let bad := (lines.zip (lines.drop 1)).zipIdx.find? fun ((a, b), _) =>
          if order.unique then order.compareKeys a b != .lt else order.compare a b == .gt
        match bad with
        | some ((_, line), i) =>
          emit .errors (Text.encode ("sort: -:" ++ toString (i + 2) ++ ": disorder: ").toList ++
            line ++ [10])
          exitWith 1
        | none => return
      else
        let bytes := (order.apply lines).flatMap (· ++ [10])
        match given.value? 'o' with
        | none => write bytes
        | some path =>
          match ← openFile path false with
          | some fault => complain ("sort: open failed: " ++ path ++ ": " ++ fault.description) 2
          | none => fillFile path [⟨(← get).clock, bytes⟩]

end ReplicaSeed.Toolbox
