import ReplicaSeed.Database.Error

/-!
# Rows

A row that the server sends back. Its values are read by the name of their column, and only as the
type that the column has.

## Main definitions

* `Row`: a row.
* `Row.text`, `Row.unsigned`: a value that must be there.
* `Row.text?`, `Row.integer?`: a value that may be null.
-/

namespace ReplicaSeed.Database

/-- The type of a column. -/
inductive ColumnType where
  | text
  /-- Whole numbers in 64 bits, without a sign. -/
  | unsigned
  /-- Whole numbers in 64 bits. -/
  | integer
  | blob
  deriving DecidableEq, Repr

/-- A value. -/
inductive Value where
  | null
  | text (s : String)
  | number (n : Int)
  deriving DecidableEq, Repr

/-- A value in a row, with the name and the type of its column. -/
structure Cell where
  name : String
  type : ColumnType
  value : Value
  deriving DecidableEq, Repr

/-- A row. -/
structure Row where
  cells : List Cell
  deriving DecidableEq, Repr

namespace Cell

/-- The text in a cell of texts; none if it is null. -/
def text? (c : Cell) (label : String) : Except DatabaseError (Option String) :=
  match c.value, c.type with
  | .null, _ => .ok none
  | .text s, .text => .ok (some s)
  | .number n, .text => .ok (some (toString n))
  | _, _ => .error (.badValue label)

/-- The number in a cell of the given type; none if it is null. -/
def number? (c : Cell) (type : ColumnType) (label : String) : Except DatabaseError (Option Int) :=
  match c.value with
  | .null => .ok none
  | .number n => if c.type = type then .ok (some n) else .error (.badValue label)
  | .text _ => .error (.badValue label)

end Cell

/-- A value that must not be null. -/
def required {α : Type} (label : String) : Except DatabaseError (Option α) → Except DatabaseError α
  | .ok (some a) => .ok a
  | .ok none => .error (.badValue label)
  | .error e => .error e

namespace Row

variable (r : Row)

/-- The cell of a column; of two columns with one name the later counts. -/
def cell (name : String) : Except DatabaseError Cell :=
  match r.cells.reverse.find? fun c => name != "" && c.name == name with
  | some c => .ok c
  | none => .error (.noColumn name)

/-- The text in a column; none if it is null. -/
def text? (name : String) : Except DatabaseError (Option String) := do (← r.cell name).text? name

/-- The text in a column. -/
def text (name : String) : Except DatabaseError String := required name (r.text? name)

/-- The whole number in a column; none if it is null. -/
def integer? (name : String) : Except DatabaseError (Option Int64) := do
  return (← (← r.cell name).number? .integer name).map Int64.ofInt

/-- The number without a sign in a column. -/
def unsigned (name : String) : Except DatabaseError UInt64 := do
  let n ← required name ((← r.cell name).number? .unsigned name)
  return UInt64.ofNat n.toNat

/-- The text in the first column, whatever its name. -/
def single : Except DatabaseError String :=
  match r.cells with
  | c :: _ => required "0" (c.text? "0")
  | [] => .error (.noColumn "0")

end Row

end ReplicaSeed.Database
