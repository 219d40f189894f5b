import ReplicaSeed.Text.Search

/-!
# Forms of paths

A path has pieces between its slashes. The form of a path says for each piece what it must be: a
fixed text, a parameter that may stand behind a fixed lead, or, at the end, a parameter for all that
is left.

## Main definitions

* `Pattern.ofText?`: reading a form, in which `:name` is a parameter and `*name` the rest.
* `Pattern.parameters?`: the parameters of a path that has the form.
* `Pattern.clashes`: whether two forms cannot be told apart.
* `Pattern.isCloser`: which of two forms of a path is the closer one.
-/

namespace ReplicaSeed.Http

/-- What a piece of a path must be. -/
inductive Segment where
  | fixed (text : String)
  | parameter (lead name : String)
  | remainder (name : String)
  deriving DecidableEq, Repr

/-- The form of a path. -/
abbrev Pattern := List Segment

/-- The pieces of a path. -/
def pieces (path : String) : List (List Char) := Text.splitOn '/' path.toList

namespace Pattern

/-- A character that begins a parameter. -/
def marksParameter (c : Char) : Bool := c = ':' || c = '*'

/-- Reads one piece of a form; only the last may stand for the rest of a path. -/
def readPiece? (last : Bool) (piece : List Char) : Option Segment :=
  let lead := piece.takeWhile fun c => !marksParameter c
  match piece.dropWhile fun c => !marksParameter c with
  | [] => some (.fixed (String.ofList piece))
  | mark :: name =>
    if name = [] ∨ name.any marksParameter then none
    else if mark = ':' then some (.parameter (String.ofList lead) (String.ofList name))
    else if last ∧ lead = [] then some (.remainder (String.ofList name))
    else none

/-- Reads the pieces of a form. -/
def ofPieces? : List (List Char) → Option Pattern
  | [] => some []
  | [piece] => (readPiece? true piece).map fun s => [s]
  | piece :: rest => do return (← readPiece? false piece) :: (← ofPieces? rest)

/-- Reads a form, which must begin with a slash. It may have any number of parameters here; the
library that routes takes 25 in one form and no more. -/
def ofText? (text : String) : Option Pattern :=
  if text.toList.head? = some '/' then ofPieces? (pieces text) else none

/-- The names and raw values of the parameters of a path that has the form. The last piece must
not be empty as a parameter, nor may the rest be. -/
def parameters? : Pattern → List (List Char) → Option (List (String × List Char))
  | [], [] => some []
  | .fixed text :: pattern, piece :: rest =>
    if piece = text.toList then parameters? pattern rest else none
  | .parameter lead name :: pattern, piece :: rest =>
    match Text.stripStart? lead.toList piece with
    | none => none
    | some value =>
      if rest = [] ∧ value = [] then none
      else (parameters? pattern rest).map fun ps => (name, value) :: ps
  | [.remainder name], piece :: rest =>
    let value := ['/'].intercalate (piece :: rest)
    if value = [] then none else some [(name, value)]
  | _, _ => none

/-- The two forms cannot be told apart: they differ only in names, or have a parameter and a rest in
the same place. -/
def clashes : Pattern → Pattern → Bool
  | [], [] => true
  | .fixed s :: a, .fixed t :: b => s = t && clashes a b
  | .parameter s _ :: a, .parameter t _ :: b => s = t && clashes a b
  | .parameter s _ :: _, .remainder _ :: _ => s = ""
  | .remainder _ :: _, .parameter t _ :: _ => t = ""
  | .remainder _ :: _, .remainder _ :: _ => true
  | _, _ => false

/-- How close a piece is to what it must be: a fixed text is closest, then a long lead. -/
def closeness : Segment → Nat × Nat
  | .fixed _ => (2, 0)
  | .parameter lead _ => (1, lead.length)
  | .remainder _ => (0, 0)

/-- Of two forms that a path has, the first is closer at the first piece where they differ. -/
def isCloser : Pattern → Pattern → Bool
  | a :: as, b :: bs =>
    let (x, x') := closeness a
    let (y, y') := closeness b
    if x = y ∧ x' = y' then isCloser as bs else y < x || (x = y && y' < x')
  | _, _ => false

end Pattern

end ReplicaSeed.Http
