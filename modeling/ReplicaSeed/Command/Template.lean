import ReplicaSeed.Command.Quoting

/-!
# Command templates

Commands as data: stages of words, where a word is made of fixed text and of values. The text of a
template quotes each value, so what a value holds cannot change the shape of the command.

## Main definitions

* `Piece`: fixed text or a value.
* `Template`: a pipeline of words made of pieces.
* `Template.text`: the command line.
* `Template.commandLine`: the pipeline that the template stands for.
-/

namespace ReplicaSeed.Command

/-- A part of a word: fixed text, which must be safe, or a value, which may be anything. -/
inductive Piece where
  | fixed (text : String)
  | value (text : String)
  deriving DecidableEq, Repr

namespace Piece

instance : Coe String Piece := ⟨fixed⟩

/-- The piece as it is written. -/
def text : Piece → String
  | fixed s => s
  | value s => quote s

/-- What the piece stands for. -/
def meaning : Piece → String
  | fixed s => s
  | value s => s

/-- Fixed text needs no quotes. -/
def WellFormed : Piece → Prop
  | fixed s => s.toList.all isSafe = true
  | value _ => True

end Piece

/-- A word of a template. -/
structure WordTemplate where
  pieces : List Piece
  deriving DecidableEq, Repr

namespace WordTemplate

instance : Coe String WordTemplate := ⟨fun s => ⟨[.fixed s]⟩⟩

/-- A word that is one value. -/
def value (s : String) : WordTemplate := ⟨[.value s]⟩

/-- Fixed text with a value at its end. -/
def option (name value : String) : WordTemplate := ⟨[.fixed name, .value value]⟩

/-- The word as it is written. -/
def text (w : WordTemplate) : String := String.join (w.pieces.map Piece.text)

/-- The word that is passed on. -/
def meaning (w : WordTemplate) : String := String.join (w.pieces.map Piece.meaning)

/-- Fixed text is safe, and the word is written with at least one character. -/
def WellFormed (w : WordTemplate) : Prop :=
  (∀ p ∈ w.pieces, p.WellFormed) ∧ w.text ≠ ""

end WordTemplate

/-- A pipeline with an optional file that its output goes to. -/
structure Template where
  stages : List (List WordTemplate)
  output : Option String := none
  deriving DecidableEq, Repr

/-- The words of a stage as they are written. -/
def wordsText (words : List WordTemplate) : String :=
  " ".intercalate (words.map WordTemplate.text)

namespace Template

/-- The template of a single program with its arguments. -/
def single (words : List WordTemplate) : Template := ⟨[words], none⟩

/-- The command line as it is written. -/
def text (t : Template) : String :=
  " | ".intercalate (t.stages.map wordsText) ++
    (t.output.map fun path => " > " ++ quote path).getD ""

/-- The pipeline that the template stands for. -/
def commandLine (t : Template) : CommandLine where
  stages := t.stages.map fun words => words.map WordTemplate.meaning
  redirect := t.output.map fun path => ⟨path, false⟩
  elevated := false

/-- There is a stage, no stage is empty, and every word is well formed. -/
def WellFormed (t : Template) : Prop :=
  t.stages ≠ [] ∧ ∀ words ∈ t.stages, words ≠ [] ∧ ∀ w ∈ words, w.WellFormed

end Template

end ReplicaSeed.Command
