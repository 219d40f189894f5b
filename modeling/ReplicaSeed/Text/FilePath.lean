import ReplicaSeed.Text.Search

/-!
# File paths

Paths as text. A path is a list of entries between slashes. An entry that is empty or a single dot
stands for nothing, except for a dot at the very beginning.

## Main definitions

* `join`: a path below a directory.
* `fileName?`, `parent?`: the last entry, and the path up to it.
* `withExtension`: the path with another extension.
-/

namespace ReplicaSeed.FilePath

/-- The path `rest` as seen from the directory `dir`; an absolute `rest` stays as it is. -/
def join (dir rest : String) : String :=
  if rest.toList.head? = some '/' ∨ dir = "" then rest
  else if dir.toList.getLast? = some '/' then dir ++ rest
  else dir ++ "/" ++ rest

/-- Drops the entries that stand for nothing from the front of a reversed path. -/
def dropVoid : List (List Char) → List (List Char)
  | [] => []
  | [['.']] => [['.']]
  | entry :: rest => if entry = [] ∨ entry = ['.'] then dropVoid rest else entry :: rest

/-- The entries of a path from the last to the first, without those at the end that stand for
nothing. -/
def entries (path : String) : List (List Char) := dropVoid (Text.splitOn '/' path.toList).reverse

/-- The path of reversed entries. -/
def ofEntries (reversed : List (List Char)) : String :=
  String.ofList (List.intercalate ['/'] reversed.reverse)

/-- The entry is the name of a file or a directory. -/
def isName (entry : List Char) : Bool := entry ≠ ['.'] && entry ≠ ['.', '.']

/-- The name that a path ends with. -/
def fileName? (path : String) : Option String :=
  match entries path with
  | entry :: _ => if isName entry then some (String.ofList entry) else none
  | [] => none

/-- The path without its last entry; the root and the empty path have none. -/
def parent? (path : String) : Option String :=
  match entries path with
  | [] => none
  | _ :: rest =>
    match dropVoid rest with
    | [] => some (if path.toList.head? = some '/' then "/" else "")
    | kept => some (ofEntries kept)

/-- A name cut at its last dot, if it has one after its first character. -/
def splitName (name : List Char) : List Char × Option (List Char) :=
  match Text.splitOnce? '.' name.reverse with
  | some (extension, stem@(_ :: _)) => (stem.reverse, some extension.reverse)
  | _ => (name, none)

/-- The path up to the stem of its last name, and a new extension; a path that ends with no name
stays as it is. -/
def setExtension (extension path : String) : String :=
  match entries path with
  | entry :: rest =>
    if isName entry then ofEntries (((splitName entry).1 ++ '.' :: extension.toList) :: rest)
    else path
  | [] => path

/-- The length of the extension of the last name, without the dot. -/
def extensionLength (path : String) : Nat :=
  match fileName? path with
  | some name => ((splitName name.toList).2.getD []).length
  | none => 0

/-- The path with another extension. The old one is first taken off the end of the text, and only
then is the last name looked for. -/
def withExtension (extension path : String) : String :=
  setExtension extension
    (String.ofList (path.toList.take (path.toList.length - extensionLength path)))

end ReplicaSeed.FilePath
