import ReplicaSeed.Execution.FileFault
import ReplicaSeed.Text.Search

/-!
# Trees of files

The files and directories that commands and stages work on. A place in the tree is the list of
names that lead to it from the root. A path is text, and it is followed from a directory name by
name: each step but the last must arrive at a directory.

## Main definitions

* `FileTree`: the tree.
* `FileTree.locate`: the place of a path.
* `FileTree.read`, `FileTree.write`, `FileTree.append`: the content of a file.
* `FileTree.makeDirectories`, `FileTree.remove`: directories, and whole subtrees.
-/

namespace ReplicaSeed

/-- What stands at a place. -/
inductive FileNode where
  | file (content : List UInt8)
  | directory
  deriving DecidableEq, Repr

/-- A place: the names that lead to it from the root. -/
abbrev FilePlace := List String

/-- Files and directories by their place. The root is always a directory. -/
structure FileTree where
  nodes : List (FilePlace × FileNode) := []
  deriving Repr

namespace FileTree

variable (t : FileTree)

/-- What stands at a place. -/
def node? (place : FilePlace) : Option FileNode :=
  if place = [] then some .directory else t.nodes.lookup place

/-- The tree with a node set. -/
def put (place : FilePlace) (node : FileNode) : FileTree :=
  ⟨(place, node) :: t.nodes.filter fun n => n.1 != place⟩

/-- The tree without a place and all below it. -/
def remove (place : FilePlace) : FileTree := ⟨t.nodes.filter fun n => !place.isPrefixOf n.1⟩

/-- A place after all places above it. -/
def way (place : FilePlace) : List FilePlace := (List.range (place.length + 1)).map place.take

/-- The tree where a place and all above it are directories, as far as nothing stands there. -/
def makeDirectories (place : FilePlace) : FileTree :=
  (way place).foldl (fun t p => if (t.node? p).isSome then t else t.put p .directory) t

/-! ## Paths -/

/-- The longest name in bytes. -/
def maxName : Nat := 255

/-- The longest path in bytes. -/
def maxPath : Nat := 4095

/-- One step on a path. -/
def step (place : FilePlace) (name : String) : Except FileFault FilePlace :=
  match t.node? place with
  | none => .error .notFound
  | some (.file _) => .error .notDirectory
  | some .directory =>
    if name = "" ∨ name = "." then .ok place
    else if name = ".." then .ok place.dropLast
    else if maxName < name.utf8ByteSize then .error .nameTooLong
    else .ok (place ++ [name])

/-- The names on a path. -/
def names (path : String) : List String := (Text.splitOn '/' path.toList).map String.ofList

/-- Where a path starts: at the root, or at the directory that it is seen from. -/
def origin (dir : FilePlace) (path : String) : FilePlace :=
  if path.toList.head? = some '/' then [] else dir

/-- A text that can be a path. -/
def checkPath (path : String) : Except FileFault Unit :=
  if path.toList.contains '\x00' then .error .zeroInPath
  else if path = "" then .error .notFound
  else if maxPath < path.utf8ByteSize then .error .nameTooLong
  else .ok ()

/-- The place of a path as seen from a directory. -/
def locate (dir : FilePlace) (path : String) : Except FileFault FilePlace := do
  checkPath path
  (names path).foldlM t.step (origin dir path)

/-- The place of a file that is to be written. A path that ends with a slash or with dots can only
be a directory. -/
def locateNew (dir : FilePlace) (path : String) : Except FileFault FilePlace := do
  checkPath path
  match (names path).reverse.dropWhile (· == "") with
  | [] => .error .isDirectory
  | name :: above =>
    let parent ← above.reverse.foldlM t.step (origin dir path)
    let place ← t.step parent name
    if path.toList.getLast? = some '/' ∨ name = "." ∨ name = ".." then .error .isDirectory
    else .ok place

/-! ## Content -/

/-- The content of the file at a place. -/
def content (place : FilePlace) : Except FileFault (List UInt8) :=
  match t.node? place with
  | some (.file bytes) => .ok bytes
  | some .directory => .error .isDirectory
  | none => .error .notFound

/-- The content of the file under a path. -/
def read (dir : FilePlace) (path : String) : Except FileFault (List UInt8) := do
  t.content (← t.locate dir path)

/-- The tree where the file under a path has a new content, made of the old one. The file need not
be there, but its directory must. -/
def update (dir : FilePlace) (path : String) (f : List UInt8 → List UInt8) :
    Except FileFault FileTree := do
  let place ← t.locateNew dir path
  match t.node? place with
  | some .directory => .error .isDirectory
  | some (.file bytes) => .ok (t.put place (.file (f bytes)))
  | none => .ok (t.put place (.file (f [])))

/-- The tree where a file is written anew. -/
def write (dir : FilePlace) (path : String) (bytes : List UInt8) : Except FileFault FileTree :=
  t.update dir path fun _ => bytes

/-- The tree where a file has grown. -/
def append (dir : FilePlace) (path : String) (bytes : List UInt8) : Except FileFault FileTree :=
  t.update dir path fun old => old ++ bytes

end FileTree

end ReplicaSeed
