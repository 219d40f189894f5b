/-!
# Searching text

Finding a piece of text inside another, and cutting text at what was found.

## Main definitions

* `cut?`: the text before and after the first occurrence of a piece.
* `contains`: whether a piece occurs.
* `splitOnce?`, `splitOn`: cutting at one character, once or everywhere.
* `lines`: cutting into lines, each without its line break.
-/

namespace ReplicaSeed.Text

/-- What follows `p` in `cs`, if `cs` begins with it. -/
def stripStart? : (p cs : List Char) → Option (List Char)
  | [], cs => some cs
  | _ :: _, [] => none
  | a :: p, c :: cs => if a = c then stripStart? p cs else none

theorem stripStart?_eq_some_iff {p cs rest : List Char} :
    stripStart? p cs = some rest ↔ cs = p ++ rest := by
  induction p generalizing cs with
  | nil => simp [stripStart?, eq_comm]
  | cons a p ih =>
    cases cs with
    | nil => simp [stripStart?]
    | cons c cs =>
      by_cases h : a = c
      · simp [stripStart?, h, ih]
      · simp [stripStart?, h, Ne.symm h]

/-- `cs` begins with `p`. -/
def startsWith (p cs : List Char) : Bool := (stripStart? p cs).isSome

/-- The text before and after the first occurrence of `p` in `cs`. -/
def cut? (p : List Char) : List Char → Option (List Char × List Char)
  | [] => if p = [] then some ([], []) else none
  | c :: cs =>
    match stripStart? p (c :: cs) with
    | some rest => some ([], rest)
    | none => (cut? p cs).map fun (before, after) => (c :: before, after)

/-- `p` occurs in `cs`. -/
def contains (p cs : List Char) : Bool := (cut? p cs).isSome

/-- The text before and after the first `d` of `cs`. -/
def splitOnce? (d : Char) : List Char → Option (List Char × List Char)
  | [] => none
  | c :: cs =>
    if c = d then some ([], cs)
    else (splitOnce? d cs).map fun (before, after) => (c :: before, after)

/-- The pieces of `cs` between its `d`s; there is one more of them than there are `d`s. -/
def splitOn (d : Char) : List Char → List (List Char)
  | [] => [[]]
  | c :: cs =>
    if c = d then [] :: splitOn d cs
    else
      match splitOn d cs with
      | [] => [[c]]
      | piece :: pieces => (c :: piece) :: pieces

/-- `cs` without one line feed at its end, and then without one carriage return. -/
def stripLineEnd (cs : List Char) : List Char :=
  match cs.reverse with
  | '\n' :: '\r' :: rest => rest.reverse
  | '\n' :: rest => rest.reverse
  | _ => cs

/-- The lines of `cs`, each still with its line feed; only the last may lack one. -/
def rawLines : List Char → List (List Char)
  | [] => []
  | c :: cs =>
    if c = '\n' then [c] :: rawLines cs
    else
      match rawLines cs with
      | [] => [[c]]
      | line :: rest => (c :: line) :: rest

/-- The lines of `cs`. A line ends with a line feed or a carriage return and a line feed; what is
left after the last line feed is a line if it is not empty. -/
def lines (cs : List Char) : List (List Char) := (rawLines cs).map stripLineEnd

@[simp] theorem flatten_rawLines (cs : List Char) : (rawLines cs).flatten = cs := by
  fun_induction rawLines cs <;> simp_all

/-- Every occurrence of `c` in `cs` replaced by `by_`. -/
def replaceChar (c : Char) (by_ : List Char) (cs : List Char) : List Char :=
  cs.flatMap fun d => if d = c then by_ else [d]

end ReplicaSeed.Text
