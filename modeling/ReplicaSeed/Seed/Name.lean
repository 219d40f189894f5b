import ReplicaSeed.Text.Blank

/-!
# Names in requests

The names that an operator may write in several ways: case, blanks at the ends and the separators
between words do not matter.

## Main definitions

* `NameFault`: a text that names nothing, with the text as it was given.
* `nameKey`: what is left of a name when the free choices are taken away.
-/

namespace ReplicaSeed

/-- A text that is not the name of anything of its kind. -/
inductive NameFault where
  | seedId (text : String)
  | stage (text : String)
  | side (text : String)
  | method (text : String)
  | engine (text : String)
  deriving DecidableEq, Repr

/-- The text of a fault; it ends with the refused text. -/
def NameFault.message : NameFault → String
  | .seedId text => "invalid seed id: " ++ text
  | .stage text => "unknown stage: " ++ text
  | .side text => "unknown side: " ++ text
  | .method text => "unknown seed method: " ++ text
  | .engine text => "unknown storage engine: " ++ text

/-- A name in lower case without blanks at its ends and without separators inside. -/
def nameKey (text : String) : String :=
  String.ofList
    (((Text.trim text.toList).filter fun c => !(c == '_' || c == '-' || c == ' ')).map Char.toLower)

end ReplicaSeed
