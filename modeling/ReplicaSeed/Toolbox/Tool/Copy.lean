import ReplicaSeed.Toolbox.Tool.Options
import ReplicaSeed.Text.Numeral

/-!
# Copying programs

`cat` copies files to its output, `head` their beginnings, and `tee` its input to files as well.
-/

namespace ReplicaSeed.Toolbox

open JobM

/-- The bytes cut after each line feed. -/
def byteLines (bytes : List UInt8) : List (List UInt8) :=
  let (lines, last) := bytes.foldl
    (fun (acc : List (List UInt8) × List UInt8) b =>
      if b = 10 then ((10 :: acc.2).reverse :: acc.1, []) else (acc.1, b :: acc.2))
    ([], [])
  (if last = [] then lines else last.reverse :: lines).reverse

/-- A line without its line feed. -/
def chomp (line : List UInt8) : List UInt8 :=
  if line.getLast? = some 10 then line.dropLast else line

/-- Writes pieces of the input, each at the time when it came. -/
def copyChunks (chunks : List Chunk) : JobM Unit :=
  chunks.forM fun c => emitAt c.time .output c.bytes

/-- The number of a line, as `cat -n` prints it. -/
def numberedLine (n : Nat) (line : List UInt8) : List UInt8 :=
  let digits := toString n
  Text.encode (List.replicate (6 - digits.length) ' ' ++ digits.toList ++ ['\t']) ++ line

/-- Copies files, or the input if there are none. With `-n` lines are numbered across all
of them. -/
def cat : Tool := withOptions "cat"
    { flags := ['n', 'u'], long := [("number", 'n')] } 1 fun given => do
  let mut numbered := 0
  for operand in (if given.operands = [] then ["-"] else given.operands) do
    if operand = "/dev/zero" then
      write (List.replicate endlessRead 0)
      sleep never
    else
      let time := (← get).clock
      let chunks : Except FileFault (List Chunk) ←
        if operand = "-" then Except.ok <$> readChunks
        else (fun content => content.map fun bytes => [⟨time, bytes⟩]) <$> fileContent operand
      match chunks with
      | .error fault => complain ("cat: " ++ operand ++ ": " ++ fault.description) 1
      | .ok chunks =>
        if given.has 'n' then
          let lines := byteLines (chunks.flatMap (·.bytes))
          write ((lines.zipIdx (numbered + 1)).flatMap fun (line, i) => numberedLine i line)
          numbered := numbered + lines.length
        else copyChunks chunks

/-! ## Beginnings -/

/-- How much of a file is copied. -/
structure HeadCount where
  ofLines : Bool := true
  count : Nat := 10
  /-- All but the last so many. -/
  fromEnd : Bool := false

/-- The multiplier of a suffix of a count. -/
def countUnit? (suffix : String) : Option Nat :=
  [("", 1), ("b", 512), ("K", 1024), ("k", 1024), ("kB", 1000), ("KB", 1000), ("KiB", 1024),
    ("M", 1048576), ("MB", 1000000), ("MiB", 1048576)].lookup suffix

/-- Reads a count of bytes or lines. -/
def HeadCount.read? (ofLines : Bool) (word : String) : Option HeadCount :=
  let (fromEnd, cs) := match word.toList with
    | '-' :: cs => (true, cs)
    | '+' :: cs => (false, cs)
    | cs => (false, cs)
  match Text.leadingNat? cs with
  | none => none
  | some (n, suffix) =>
    (countUnit? (String.ofList suffix)).map fun unit => ⟨ofLines, n * unit, fromEnd⟩

/-- The beginning of some bytes. -/
def HeadCount.beginning (h : HeadCount) (bytes : List UInt8) : List UInt8 :=
  if h.ofLines then
    let lines := byteLines bytes
    (lines.take (if h.fromEnd then lines.length - h.count else h.count)).flatten
  else bytes.take (if h.fromEnd then bytes.length - h.count else h.count)

/-- The beginning of the input. Of bytes no more are read than are wanted; lines are read until
there are enough of them. -/
def HeadCount.readInput (h : HeadCount) : JobM (List UInt8) := do
  if h.fromEnd then return h.beginning (← readAll)
  else if h.ofLines then
    let enough := h.beginning (← get).input.bytes
    let complete := (enough.filter (· = 10)).length = h.count
    if complete then readBytes enough.length else readAll
  else readBytes h.count

/-- What a directory lets `head` say. -/
def headFault (operand : String) : FileFault → String
  | .isDirectory => "head: error reading '" ++ operand ++ "': Is a directory"
  | fault => "head: cannot open '" ++ operand ++ "' for reading: " ++ fault.description

/-- Turns the old form of a count into the new one. -/
def modernHeadWords : List String → List String
  | word :: words =>
    match word.toList with
    | '-' :: c :: cs =>
      if c.isDigit && cs.all Char.isDigit then "-n" :: String.ofList (c :: cs) :: words
      else word :: words
    | _ => word :: words
  | [] => []

/-- Copies the beginnings of files, or of the input if there are none. -/
def head : Tool := fun words =>
  withOptions "head" {
      flags := ['q', 'v', 'z']
      valued := ['n', 'c']
      long := [("lines", 'n'), ("bytes", 'c'), ("quiet", 'q'), ("silent", 'q'),
        ("verbose", 'v')] } 1
    (fun given => do
    let asked := given.options.filter fun o => o.letter = 'n' || o.letter = 'c'
    let counts := asked.map fun o => (o, HeadCount.read? (o.letter = 'n') o.value)
    match counts.find? (·.2.isNone) with
    | some (o, _) =>
      complain ("head: invalid number of " ++ (if o.letter = 'n' then "lines" else "bytes") ++
        ": '" ++ o.value ++ "'") 1
    | none =>
      let count : HeadCount := (counts.getLast?.bind (·.2)).getD {}
      let operands := if given.operands = [] then ["-"] else given.operands
      let titled := given.has 'v' || (operands.length > 1 && !given.has 'q')
      let mut first := true
      for operand in operands do
        let title := if operand = "-" then "standard input" else operand
        let header : JobM Unit := do
          if titled then
            write (Text.encode ((if first then "" else "\n") ++ "==> " ++ title ++ " <==\n").toList)
        if operand = "-" then
          let bytes ← count.readInput
          header
          write bytes
          first := false
        else if operand = "/dev/zero" ∧ !count.ofLines ∧ !count.fromEnd then
          header
          write (List.replicate count.count 0)
          first := false
        else
          match ← fileContent operand with
          | .ok bytes =>
            header
            write (count.beginning bytes)
            first := false
          | .error .isDirectory =>
            header
            first := false
            complain (headFault operand .isDirectory) 1
          | .error fault => complain (headFault operand fault) 1)
    (modernHeadWords words)

/-! ## Forking a flow -/

/-- Copies the input to the output and to files. -/
def tee : Tool := withOptions "tee"
    { flags := ['a', 'i', 'p'], long := [("append", 'a'), ("ignore-interrupts", 'i')] } 1
  fun given => do
    let mut opened := []
    for path in given.operands do
      match ← openFile path (given.has 'a') with
      | none => opened := opened ++ [path]
      | some fault => complain ("tee: " ++ path ++ ": " ++ fault.description) 1
    let chunks ← readChunks
    copyChunks chunks
    for path in opened do
      fillFile path chunks

end ReplicaSeed.Toolbox
