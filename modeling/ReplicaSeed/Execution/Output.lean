import ReplicaSeed.Text.Lossy

/-!
# Output of commands

What a pipeline wrote: the output of its last stage and what all stages wrote as errors.
-/

namespace ReplicaSeed

/-- What a pipeline wrote. -/
structure Output where
  stdout : List UInt8 := []
  /-- What the stages wrote as errors, in the order of the stages. -/
  stderr : List UInt8 := []
  deriving DecidableEq, Repr

namespace Output

/-- The output as text. -/
def text (o : Output) : String := String.ofList (Text.decodeLossy o.stdout)

/-- The output and after it the errors, as text; some tools write their version as an error. -/
def combinedText (o : Output) : String :=
  o.text ++ String.ofList (Text.decodeLossy o.stderr)

end Output

end ReplicaSeed
