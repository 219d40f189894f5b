import ReplicaSeed.Toml.Quoted

/-!
# Reading TOML

The grammar of TOML 1.0: a text is a list of statements, each an assignment or the header of a
table.

## Main definitions

* `Toml.Entries`: the entries of a table under construction.
* `Toml.Entries.assign`: setting the value of a dotted key.
* `Toml.statements?`: the statements of a text.
-/

namespace ReplicaSeed.Toml

/-- How a table came to be: by a header of its own, by a header of one below it, or by a key with
dots. -/
inductive Origin where
  | header
  | implied
  | dotted
  deriving DecidableEq, Repr

/-- A node of the tree that statements build: a finished value, a table, or an array of tables of
which the last may still grow. -/
inductive Node where
  | leaf (value : Json)
  | table (origin : Origin) (entries : List (String × Node))
  | tables (elements : List (List (String × Node)))

/-- The entries of a table. -/
abbrev Entries := List (String × Node)

namespace Entries

/-- The node under a key. -/
def get? (es : Entries) (key : String) : Option Node := (es.find? fun (k, _) => k == key).map (·.2)

/-- The entries with a new node under a key. -/
def set (es : Entries) (key : String) (node : Node) : Entries :=
  if (es.get? key).isSome then es.map fun (k, n) => if k = key then (k, node) else (k, n)
  else es ++ [(key, node)]

/-- Sets the value of a dotted key. `own` tells that the key may end in this table: it is the
table of the statement, or dots made it. A table that has a header cannot be reached with dots, and
no value can be replaced. -/
def assign (value : Json) : (own : Bool) → List String → Entries → Option Entries
  | _, [], _ => none
  | own, [key], es => if own ∧ (es.get? key).isNone then some (es.set key (.leaf value)) else none
  | _, key :: path, es =>
    match es.get? key with
    | none => (assign value true path []).map fun sub => es.set key (.table .dotted sub)
    | some (.table .dotted sub) =>
      (assign value true path sub).map fun sub => es.set key (.table .dotted sub)
    | some (.table .implied sub) =>
      (assign value false path sub).map fun sub => es.set key (.table .implied sub)
    | some (.tables elements) =>
      match elements.getLast? with
      | none => none
      | some last =>
        (assign value false path last).map fun sub =>
          es.set key (.tables (elements.dropLast ++ [sub]))
    | some _ => none

end Entries

mutual

/-- The value of a node. -/
def Node.toJson : Node → Json
  | .leaf v => v
  | .table _ es => .obj (entriesToJson es)
  | .tables elements => .arr (tablesToJson elements)

/-- The members of a table. -/
def entriesToJson : List (String × Node) → List (String × Json)
  | [] => []
  | (key, node) :: rest => (key, node.toJson) :: entriesToJson rest

/-- The items of an array of tables. -/
def tablesToJson : List (List (String × Node)) → List Json
  | [] => []
  | es :: rest => .obj (entriesToJson es) :: tablesToJson rest

end

/-! ## Values -/

/-- The text after a comment, if it is one; the line break is not part of it. -/
def comment? : List Char → Option (List Char)
  | [] => some []
  | '\n' :: rest => some ('\n' :: rest)
  | '\r' :: '\n' :: rest => some ('\r' :: '\n' :: rest)
  | c :: rest => if isControl c then none else comment? rest

/-- The text after a line break. -/
def lineBreak? : List Char → Option (List Char)
  | '\n' :: rest => some rest
  | '\r' :: '\n' :: rest => some rest
  | _ => none

/-- The text after blanks, line breaks and comments. -/
def skipLines : (fuel : Nat) → List Char → Option (List Char)
  | 0, _ => none
  | fuel + 1, cs =>
    match skipSpace cs with
    | '#' :: rest =>
      match comment? rest with
      | none => none
      | some rest => skipLines fuel rest
    | rest =>
      match lineBreak? rest with
      | some rest => skipLines fuel rest
      | none => some rest

/-- The deepest nesting of arrays and inline tables. -/
def maxDepth : Nat := 80

mutual

/-- Reads a value; `depth` is the nesting that is still allowed. -/
def value : (fuel depth : Nat) → List Char → Option (Json × List Char)
  | 0, _, _ => none
  | fuel + 1, depth, cs =>
    match cs with
    | '[' :: rest =>
      match depth with
      | 0 => none
      | depth + 1 => (items fuel depth rest).map fun (vs, r) => (.arr vs, r)
    | '{' :: rest =>
      match depth with
      | 0 => none
      | depth + 1 =>
        match skipSpace rest with
        | '}' :: r => some (.obj [], r)
        | _ => (inlineEntries fuel depth [] rest).map fun (es, r) => (.obj (entriesToJson es), r)
    | '"' :: _ | '\'' :: _ => (string? cs).map fun (s, r) => (.str (String.ofList s), r)
    | cs => atom cs

/-- Reads the items of an array and its closing bracket. -/
def items : (fuel depth : Nat) → List Char → Option (List Json × List Char)
  | 0, _, _ => none
  | fuel + 1, depth, cs =>
    match skipLines (cs.length + 1) cs with
    | none => none
    | some (']' :: r) => some ([], r)
    | some cs =>
      match value fuel depth cs with
      | none => none
      | some (v, rest) =>
        match skipLines (rest.length + 1) rest with
        | some (']' :: r) => some ([v], r)
        | some (',' :: r) => (items fuel depth r).map fun (vs, r) => (v :: vs, r)
        | _ => none

/-- Reads the entries of an inline table, after those that are given, and its closing brace. -/
def inlineEntries : (fuel depth : Nat) → Entries → List Char → Option (Entries × List Char)
  | 0, _, _, _ => none
  | fuel + 1, depth, es, cs =>
    match key? (cs.length + 1) cs with
    | some (path, '=' :: rest) =>
      match value fuel depth (skipSpace rest) with
      | none => none
      | some (v, rest) =>
        match es.assign v true path with
        | none => none
        | some es =>
          match skipSpace rest with
          | '}' :: r => some (es, r)
          | ',' :: r => inlineEntries fuel depth es r
          | _ => none
    | _ => none

end

/-! ## Statements -/

/-- A statement: the header of a table or of an element of an array of tables, or an assignment. -/
inductive Statement where
  | table (path : List String)
  | element (path : List String)
  | assign (path : List String) (value : Json)

/-- The text after the end of a statement: blanks, a comment, and a line break or the end. -/
def statementEnd? (cs : List Char) : Option (List Char) :=
  let rest := match skipSpace cs with
    | '#' :: rest => comment? rest
    | rest => some rest
  match rest with
  | none => none
  | some [] => some []
  | some rest => lineBreak? rest

/-- Reads one statement. -/
def statement? (cs : List Char) : Option (Statement × List Char) :=
  let size := cs.length + 1
  match cs with
  | '[' :: '[' :: rest =>
    match key? size rest with
    | some (path, ']' :: ']' :: rest) => some (.element path, rest)
    | _ => none
  | '[' :: rest =>
    match key? size rest with
    | some (path, ']' :: rest) => some (.table path, rest)
    | _ => none
  | cs =>
    match key? size cs with
    | some (path, '=' :: rest) =>
      (value (2 * size) maxDepth (skipSpace rest)).map fun (v, rest) => (.assign path v, rest)
    | _ => none

/-- The statements of a text. -/
def statements? : (fuel : Nat) → List Char → Option (List Statement)
  | 0, _ => none
  | fuel + 1, cs =>
    match skipLines (cs.length + 1) cs with
    | none => none
    | some [] => some []
    | some cs =>
      match statement? cs with
      | none => none
      | some (s, rest) =>
        match statementEnd? rest with
        | none => none
        | some rest => (statements? fuel rest).map (s :: ·)

end ReplicaSeed.Toml
