import ReplicaSeed.Toolbox.Tool.Escape
import ReplicaSeed.Toolbox.Tool.Options

/-!
# Transliteration

`tr` replaces, deletes and squeezes the bytes of its input. Its sets are written as characters,
escapes, ranges and classes.

## Main definitions

* `byteSet`: the bytes that a set stands for, in order.
* `Transliteration`: what is replaced, deleted and squeezed.
* `tr`: the program.
-/

namespace ReplicaSeed.Toolbox

open JobM

/-- All bytes, in order. -/
def allBytes : List UInt8 := (List.range 256).map UInt8.ofNat

/-- The bytes from one to another. -/
def byteRange (first last : UInt8) : List UInt8 := allBytes.filter fun b => first ≤ b && b ≤ last

/-- The bytes of a class. -/
def byteClass? (name : String) : Option (List UInt8) :=
  let lower := byteRange 97 122
  let upper := byteRange 65 90
  let digit := byteRange 48 57
  [("lower", lower), ("upper", upper), ("alpha", upper ++ lower), ("digit", digit),
    ("alnum", digit ++ upper ++ lower), ("blank", [9, 32]), ("space", byteRange 9 13 ++ [32]),
    ("cntrl", byteRange 0 31 ++ [127]), ("print", byteRange 32 126), ("graph", byteRange 33 126),
    ("punct", byteRange 33 47 ++ byteRange 58 64 ++ byteRange 91 96 ++ byteRange 123 126),
    ("xdigit", digit ++ byteRange 65 70 ++ byteRange 97 102)].lookup name

/-- A piece of a set: a byte, or a byte that only stands for itself, or a class. -/
inductive SetPiece where
  | byte (b : UInt8)
  | escaped (b : UInt8)
  | members (bytes : List UInt8)

/-- The escapes of sets. -/
def setEscapes : EscapeStyle := ⟨controlLetters, false, false, false⟩

/-- The pieces of at most `fuel` steps through a set. -/
def setPieces : (fuel : Nat) → List Char → List SetPiece
  | 0, _ => []
  | _, [] => []
  | fuel + 1, '\\' :: cs =>
    match setEscapes.escape? cs, cs with
    | some (.byte b rest), _ => .escaped b :: setPieces fuel rest
    | _, [] => [.byte 92]
    | _, c :: rest => (Text.encode [c]).map .escaped ++ setPieces fuel rest
  | fuel + 1, '[' :: ':' :: cs =>
    match Text.cut? [':', ']'] cs with
    | some (name, rest) =>
      match byteClass? (String.ofList name) with
      | some bytes => .members bytes :: setPieces fuel rest
      | none => .byte 91 :: setPieces fuel (':' :: cs)
    | none => .byte 91 :: setPieces fuel (':' :: cs)
  | fuel + 1, c :: cs => (Text.encode [c]).map .byte ++ setPieces fuel cs

/-- The byte of a piece that may be the end of a range. -/
def SetPiece.byte? : SetPiece → Option UInt8
  | .byte b | .escaped b => some b
  | .members _ => none

/-- The bytes of pieces, with ranges; or a range that runs backwards. -/
def expandPieces : List SetPiece → Except String (List UInt8)
  | [] => .ok []
  | [p] => .ok (p.byte?.toList ++ match p with | .members bytes => bytes | _ => [])
  | p :: .byte 45 :: q :: rest =>
    match p.byte?, q.byte? with
    | some a, some b =>
      if a ≤ b then (expandPieces rest).map (byteRange a b ++ ·)
      else
        let show_ (b : UInt8) : String := String.ofList [Char.ofNat b.toNat]
        .error ("range-endpoints of '" ++ show_ a ++ "-" ++ show_ b ++
          "' are in reverse collating sequence order")
    | _, _ =>
      match p with
      | .members bytes => (expandPieces (.byte 45 :: q :: rest)).map (bytes ++ ·)
      | .byte b | .escaped b => (expandPieces (.byte 45 :: q :: rest)).map (b :: ·)
  | .members bytes :: rest => (expandPieces rest).map (bytes ++ ·)
  | .byte b :: rest | .escaped b :: rest => (expandPieces rest).map (b :: ·)

/-- The bytes that a set stands for, in order. -/
def byteSet (text : String) : Except String (List UInt8) :=
  expandPieces (setPieces text.length text.toList)

/-- What is done to the bytes of an input: each is deleted or replaced, and of neighbours that are
equal and in a set only one is kept. -/
structure Transliteration where
  replaced : List (UInt8 × UInt8) := []
  deleted : List UInt8 := []
  squeezed : List UInt8 := []

/-- The result for an input. -/
def Transliteration.apply (t : Transliteration) (bytes : List UInt8) : List UInt8 :=
  let kept := if t.deleted = [] then bytes else bytes.filter fun b => !t.deleted.contains b
  let table := (allBytes.map fun b => (t.replaced.lookup b).getD b).toArray
  let replaced := if t.replaced = [] then kept else kept.map fun b => table.getD b.toNat b
  if t.squeezed = [] then replaced
  else
    (replaced.foldl
      (fun out b =>
        match out with
        | last :: _ => if last = b ∧ t.squeezed.contains b then out else b :: out
        | [] => [b])
      []).reverse

/-- Pairs the bytes of one set with those of another, whose last byte stands for all that are
missing. Of two pairs for one byte the later counts. -/
def pairBytes (set images : List UInt8) (cutShort : Bool) : List (UInt8 × UInt8) :=
  let filled :=
    if cutShort then images
    else images ++ List.replicate (set.length - images.length) (images.getLast?.getD 0)
  (set.zip filled).reverse

/-- What the options and sets ask for. -/
def Transliteration.ofOptions (given : GivenWords) : Except (String × Bool) Transliteration := do
  let set (text : String) : Except (String × Bool) (List UInt8) :=
    (byteSet text).mapError fun e => (e, false)
  let complemented (bytes : List UInt8) : List UInt8 :=
    if given.has 'c' || given.has 'C' then allBytes.filter fun b => !bytes.contains b else bytes
  let delete := given.has 'd'
  let squeeze := given.has 's'
  match given.operands with
  | [] => throw ("missing operand", true)
  | [a] =>
    if delete && squeeze then
      throw ("missing operand after '" ++ a ++
        "'\nTwo strings must be given when both deleting and squeezing repeats.", true)
    else if delete then return { deleted := complemented (← set a) }
    else if squeeze then return { squeezed := complemented (← set a) }
    else throw ("missing operand after '" ++ a ++
      "'\nTwo strings must be given when translating.", true)
  | [a, b] =>
    if delete && !squeeze then
      throw ("extra operand '" ++ b ++
        "'\nOnly one string may be given when deleting without squeezing repeats.", true)
    let first := complemented (← set a)
    let second ← set b
    if delete then return { deleted := first, squeezed := second }
    if second = [] && first ≠ [] && !given.has 't' then
      throw ("when not truncating set1, string2 must be non-empty", false)
    return {
      replaced := pairBytes first second (given.has 't')
      squeezed := if squeeze then second else [] }
  | _ :: _ :: c :: _ => throw ("extra operand '" ++ c ++ "'", true)

/-- Replaces, deletes and squeezes the bytes of the input. -/
def tr : Tool := withOptions "tr"
    { flags := ['c', 'C', 'd', 's', 't']
      long := [("complement", 'c'), ("delete", 'd'), ("squeeze-repeats", 's'),
        ("truncate-set1", 't')] }
    1 fun given => do
  match Transliteration.ofOptions given with
  | .error (text, true) => misuse "tr" text 1
  | .error (text, false) => complain ("tr: " ++ text) 1
  | .ok t => write (t.apply (← readAll))

end ReplicaSeed.Toolbox
