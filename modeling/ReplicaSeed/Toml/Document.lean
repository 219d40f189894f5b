import ReplicaSeed.Toml.Reader

/-!
# TOML documents

The tree that the statements of a text build. A table has at most one header, a value at most one
assignment; the tables above a header come to be with it.

## Main definitions

* `Toml.ofText?`: the value of a text.
-/

namespace ReplicaSeed.Toml

namespace Entries

/-- Changes the table at a path; the tables on the way come to be if they are missing, and of an
array of tables the last is taken. -/
def modify (change : Entries → Option Entries) : List String → Entries → Option Entries
  | [], es => change es
  | key :: path, es =>
    match es.get? key with
    | none => (modify change path []).map fun sub => es.set key (.table .implied sub)
    | some (.table origin sub) =>
      (modify change path sub).map fun sub => es.set key (.table origin sub)
    | some (.tables elements) =>
      match elements.getLast? with
      | none => none
      | some last =>
        (modify change path last).map fun sub => es.set key (.tables (elements.dropLast ++ [sub]))
    | some (.leaf _) => none

/-- Gives the table under a key its header. -/
def openTable (key : String) (es : Entries) : Option Entries :=
  match es.get? key with
  | none => some (es.set key (.table .header []))
  | some (.table .implied sub) => some (es.set key (.table .header sub))
  | some _ => none

/-- Adds an element to the array of tables under a key. -/
def openElement (key : String) (es : Entries) : Option Entries :=
  match es.get? key with
  | none => some (es.set key (.tables [[]]))
  | some (.tables elements) => some (es.set key (.tables (elements ++ [[]])))
  | some _ => none

end Entries

/-- Runs statements on a tree; assignments go to the table at `here`. -/
def run (here : List String) : List Statement → Entries → Option Entries
  | [], es => some es
  | .table path :: rest, es =>
    match path.getLast? with
    | none => none
    | some key => (es.modify (Entries.openTable key) path.dropLast).bind (run path rest)
  | .element path :: rest, es =>
    match path.getLast? with
    | none => none
    | some key => (es.modify (Entries.openElement key) path.dropLast).bind (run path rest)
  | .assign path value :: rest, es =>
    (es.modify (Entries.assign value true path) here).bind (run here rest)

/-- The text without the mark that tells the order of bytes. -/
def dropMark : List Char → List Char
  | '\uFEFF' :: rest => rest
  | cs => cs

/-- The value of a text: an object. -/
def ofText? (s : String) : Option Json := do
  let cs := dropMark s.toList
  let statements ← statements? (cs.length + 1) cs
  let es ← run [] statements []
  return .obj (entriesToJson es)

end ReplicaSeed.Toml
