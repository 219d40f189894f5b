/-!
# JSON values

JSON as the agent reads and writes it.

## Main definitions

* `Json`: a value. Members keep their order, and a key may be repeated.
* `Json.text`: the compact text of a value.
-/

namespace ReplicaSeed

/-- A JSON value. `other` stands for all that is JSON but no value of any type of the agent: a
number that is no 64-bit integer, a string with half a surrogate pair, an object with such a key. -/
inductive Json where
  | null
  | bool (b : Bool)
  | int (n : Int)
  | str (s : String)
  | arr (items : List Json)
  | obj (members : List (String × Json))
  | other
  deriving Inhabited

namespace Json

instance : Coe String Json := ⟨str⟩

instance : Coe Bool Json := ⟨bool⟩

instance : Coe Nat Json := ⟨fun n => int n⟩

instance : Coe UInt16 Json := ⟨fun n => int n.toNat⟩

instance : Coe UInt32 Json := ⟨fun n => int n.toNat⟩

instance : Coe UInt64 Json := ⟨fun n => int n.toNat⟩

/-- The JSON of a value that may be missing. -/
def optional {α : Type} (f : α → Json) : Option α → Json
  | none => null
  | some a => f a

/-- A hexadecimal digit in lower case. -/
def hexDigit (n : Nat) : Char := Nat.digitChar (n % 16)

/-- One character of a string: quote, backslash and controls are escaped, all else is kept. -/
def escape (c : Char) : List Char :=
  if c = '"' then ['\\', '"']
  else if c = '\\' then ['\\', '\\']
  else if c = '\n' then ['\\', 'n']
  else if c = '\r' then ['\\', 'r']
  else if c = '\t' then ['\\', 't']
  else if c = '\x08' then ['\\', 'b']
  else if c = '\x0c' then ['\\', 'f']
  else if c.toNat < 32 then ['\\', 'u', '0', '0', hexDigit (c.toNat / 16), hexDigit c.toNat]
  else [c]

/-- The text of a string, in its quotes. -/
def stringText (s : String) : String := String.ofList ('"' :: s.toList.flatMap escape ++ ['"'])

mutual

/-- The compact text of a value. `other` is written as one number that is no integer. -/
def text : Json → String
  | null => "null"
  | bool b => if b then "true" else "false"
  | int n => toString n
  | str s => stringText s
  | arr items => "[" ++ ",".intercalate (itemTexts items) ++ "]"
  | obj members => "\x7b" ++ ",".intercalate (memberTexts members) ++ "\x7d"
  | other => "0.0"

/-- The texts of the items of an array. -/
def itemTexts : List Json → List String
  | [] => []
  | v :: vs => v.text :: itemTexts vs

/-- The texts of the members of an object. -/
def memberTexts : List (String × Json) → List String
  | [] => []
  | (key, v) :: rest => (stringText key ++ ":" ++ v.text) :: memberTexts rest

end

/-- The member of an object; the last one counts if a key is repeated. -/
def get? (key : String) : Json → Option Json
  | obj members => (members.reverse.find? fun (k, _) => k == key).map (·.2)
  | _ => none

end Json

end ReplicaSeed
