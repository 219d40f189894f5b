/-!
# Failures of files

Why a file could not be read or written.
-/

namespace ReplicaSeed

/-- Why a file could not be read or written. -/
inductive FileFault where
  | notFound
  | notDirectory
  | isDirectory
  | nameTooLong
  /-- The path holds a zero character. -/
  | zeroInPath
  deriving DecidableEq, Repr

namespace FileFault

/-- What the system says about a fault. -/
def description : FileFault → String
  | notFound => "No such file or directory"
  | notDirectory => "Not a directory"
  | isDirectory => "Is a directory"
  | nameTooLong => "File name too long"
  | zeroInPath => "file name contained an unexpected NUL byte"

/-- The number of a fault; a path with a zero character is refused before the system sees it. -/
def number? : FileFault → Option Nat
  | notFound => some 2
  | notDirectory => some 20
  | isDirectory => some 21
  | nameTooLong => some 36
  | zeroInPath => none

/-- The text of a fault. -/
def message (f : FileFault) : String :=
  match f.number? with
  | some n => f.description ++ " (os error " ++ toString n ++ ")"
  | none => f.description

end FileFault

end ReplicaSeed
