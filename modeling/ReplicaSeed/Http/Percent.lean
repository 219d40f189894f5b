import ReplicaSeed.Json.Reader
import ReplicaSeed.Text.Lossy
import ReplicaSeed.Text.Search

/-!
# Percent encoding

Text in the parts of an address, where a percent sign and two hexadecimal digits stand for a byte.

## Main definitions

* `percentDecode`: the bytes of a text.
* `formFields`: the fields of a query.
-/

namespace ReplicaSeed.Http

/-- The bytes of a text. A percent sign without two hexadecimal digits after it stands for
itself. -/
def percentDecode : List Char → List UInt8
  | '%' :: a :: b :: rest =>
    match Json.hexValue? a, Json.hexValue? b with
    | some hi, some lo => UInt8.ofNat (hi * 16 + lo) :: percentDecode rest
    | _, _ => 37 :: percentDecode (a :: b :: rest)
  | c :: rest => Text.encode [c] ++ percentDecode rest
  | [] => []

/-- The text of a name or a value in a query, where a plus sign stands for a blank. -/
def formText (cs : List Char) : String :=
  String.ofList (Text.decodeLossy (percentDecode (cs.map fun c => if c = '+' then ' ' else c)))

/-- The fields of a query: names and values, separated by ampersands. -/
def formFields (query : String) : List (String × String) :=
  (Text.splitOn '&' query.toList).filterMap fun part =>
    match part, Text.splitOnce? '=' part with
    | [], _ => none
    | _, some (name, value) => some (formText name, formText value)
    | _, none => some (formText part, "")

end ReplicaSeed.Http
