import ReplicaSeed.Toolbox.Shell.Script
import ReplicaSeed.Text.Numeral

/-!
# Reading scripts

A script is cut into tokens, and the tokens are sorted into commands.

## Main definitions

* `shellTokens`: the tokens of a text.
* `ShellScript.read`: the script of a text.
-/

namespace ReplicaSeed.Toolbox

/-- A token of a script. -/
inductive ShellToken where
  | word (pieces : ShellWord) (line : Nat)
  /-- The number of a stream, right before its redirection. -/
  | stream (number : Nat)
  | operator (text : String)
  | lineEnd
  deriving DecidableEq, Repr

/-- Why a text is no script. -/
inductive ScriptFault where
  | unterminatedQuote
  | unexpectedEnd
  | unexpected (text : String)
  /-- One token alone could have stood there. -/
  | expecting (token : String) (fault : ScriptFault)
  deriving DecidableEq, Repr

/-- The text of a fault. -/
def ScriptFault.message : ScriptFault → String
  | unterminatedQuote => "Syntax error: Unterminated quoted string"
  | unexpectedEnd => "Syntax error: end of file unexpected"
  | unexpected text => "Syntax error: " ++ text ++ " unexpected"
  | expecting token fault => fault.message ++ " (expecting \"" ++ token ++ "\")"

/-! ## Tokens -/

/-- Characters that end a word. -/
def endsWord (c : Char) : Bool := [' ', '\t', '\n', ';', '&', '|', '<', '>', '(', ')'].contains c

/-- The piece after a dollar sign, and the rest. -/
def readVariable (quoted : Bool) (cs : List Char) : WordPiece × List Char :=
  match cs with
  | '\x7b' :: rest =>
    (.variable (String.ofList (rest.takeWhile (· ≠ '\x7d'))) quoted,
      (rest.dropWhile (· ≠ '\x7d')).drop 1)
  | c :: rest =>
    if ShellWord.isNameStart c then
      (.variable (String.ofList (cs.takeWhile ShellWord.isNameChar)) quoted,
        cs.dropWhile ShellWord.isNameChar)
    else if c.isDigit || ['?', '$', '#', '@', '*', '!', '-'].contains c then
      (.variable (String.ofList [c]) quoted, rest)
    else (.text ['$'] quoted, cs)
  | [] => (.text ['$'] quoted, [])

/-- The pieces inside double quotes, and the rest after them. -/
def readQuoted : (fuel : Nat) → ShellWord → List Char → Except ScriptFault (ShellWord × List Char)
  | 0, _, _ | _, _, [] => .error .unterminatedQuote
  | _, w, '"' :: cs => .ok (w, cs)
  | fuel + 1, w, '\\' :: c :: cs =>
    if c = '\n' then readQuoted fuel w cs
    else if ['$', '\x60', '"', '\\'].contains c then readQuoted fuel (w.add (.text [c] true)) cs
    else readQuoted fuel (w.add (.text ['\\', c] true)) cs
  | fuel + 1, w, '$' :: cs =>
    let (piece, rest) := readVariable true cs
    readQuoted fuel (w.add piece) rest
  | fuel + 1, w, c :: cs => readQuoted fuel (w.add (.text [c] true)) cs

/-- The pieces of a word, and the rest after it. -/
def readWord : (fuel : Nat) → ShellWord → List Char → Except ScriptFault (ShellWord × List Char)
  | 0, w, cs => .ok (w, cs)
  | _, w, [] => .ok (w, [])
  | fuel + 1, w, '\\' :: cs =>
    match cs with
    | [] => .ok (w.add (.text ['\\'] true), [])
    | '\n' :: cs => readWord fuel w cs
    | c :: cs => readWord fuel (w.add (.text [c] true)) cs
  | fuel + 1, w, '\'' :: cs =>
    match cs.dropWhile (· ≠ '\'') with
    | [] => .error .unterminatedQuote
    | _ :: rest => readWord fuel (w.add (.text (cs.takeWhile (· ≠ '\'')) true)) rest
  | fuel + 1, w, '"' :: cs => do
    let (w, rest) ← readQuoted (cs.length + 1) (w.add (.text [] true)) cs
    readWord fuel w rest
  | fuel + 1, w, '$' :: cs =>
    let (piece, rest) := readVariable false cs
    readWord fuel (w.add piece) rest
  | fuel + 1, w, c :: cs =>
    if endsWord c then .ok (w, c :: cs) else readWord fuel (w.add (.text [c] false)) cs

/-- The operators, longer ones before their beginnings. -/
def shellOperators : List String :=
  ["&&", "||", ";;", ">>", ">&", "<&", ">|", ";", "&", "|", "(", ")", "<", ">"]

/-- The operator that a text begins with, and the rest. -/
def readOperator? (cs : List Char) : Option (String × List Char) :=
  shellOperators.findSome? fun op =>
    if op.toList.isPrefixOf cs then some (op, cs.drop op.length) else none

/-- A redirection follows. -/
def beginsRedirection (cs : List Char) : Bool := cs.head? = some '<' || cs.head? = some '>'

/-- The tokens of at most `fuel` steps through a text. -/
def tokensWithin : (fuel line : Nat) → List Char → Except ScriptFault (List ShellToken)
  | 0, _, _ => .ok []
  | _, _, [] => .ok []
  | fuel + 1, line, c :: cs =>
    if c = ' ' ∨ c = '\t' then tokensWithin fuel line cs
    else if c = '\n' then (tokensWithin fuel (line + 1) cs).map (.lineEnd :: ·)
    else if c = '#' then tokensWithin fuel line (cs.dropWhile (· ≠ '\n'))
    else
      match readOperator? (c :: cs) with
      | some (op, rest) => (tokensWithin fuel line rest).map (.operator op :: ·)
      | none =>
        match (Text.leadingNat? (c :: cs)).filter fun (_, after) => beginsRedirection after with
        | some (n, after) => (tokensWithin fuel line after).map (.stream n :: ·)
        | none => do
          let (w, rest) ← readWord (cs.length + 2) [] (c :: cs)
          let breaks := (cs.take (cs.length - rest.length)).filter (· = '\n') |>.length
          return .word w line :: (← tokensWithin fuel (line + breaks) rest)

/-- The tokens of a text. -/
def shellTokens (text : List Char) : Except ScriptFault (List ShellToken) :=
  tokensWithin (text.length + 1) 1 text

/-! ## Commands -/

/-- The fault of a token that stands where it may not. -/
def faultAt : List ShellToken → ScriptFault
  | [] => .unexpectedEnd
  | .operator text :: _ => .unexpected ("\"" ++ text ++ "\"")
  | .lineEnd :: _ => .unexpected "newline"
  | .word w _ :: _ =>
    match w.plain? with
    | some text => .unexpected ("\"" ++ text ++ "\"")
    | none => .unexpected "word"
  | .stream _ :: _ => .unexpected "redirection"

/-- How an operator redirects, and which stream if none is named. -/
def redirectionOf? : String → Option (RedirectionKind × Nat)
  | ">" | ">|" => some (.write, 1)
  | ">>" => some (.append, 1)
  | "<" => some (.read, 0)
  | ">&" => some (.duplicate, 1)
  | "<&" => some (.duplicate, 0)
  | _ => none

/-- The redirection that tokens begin with. -/
def readRedirection? :
    List ShellToken → Except ScriptFault (Option (ShellRedirection × List ShellToken))
  | .stream n :: .operator op :: rest => after (some n) op rest
  | .operator op :: rest => after none op rest
  | _ => .ok none
where
  /-- The redirection after its operator. -/
  after (stream : Option Nat) (op : String) (rest : List ShellToken) :
      Except ScriptFault (Option (ShellRedirection × List ShellToken)) :=
    match redirectionOf? op, rest with
    | none, _ => .ok none
    | some (kind, standard), .word w _ :: rest => .ok (some (⟨stream.getD standard, kind, w⟩, rest))
    | some _, rest => .error (faultAt rest)

/-- The redirections behind a group. -/
def readRedirections : (fuel : Nat) → List ShellToken →
    Except ScriptFault (List ShellRedirection × List ShellToken)
  | 0, ts => .ok ([], ts)
  | fuel + 1, ts => do
    match ← readRedirection? ts with
    | none => return ([], ts)
    | some (r, rest) =>
      let (rs, rest) ← readRedirections fuel rest
      return (r :: rs, rest)

/-- The words and redirections of a simple command. -/
def readSimple : (fuel : Nat) → List ShellToken →
    Except ScriptFault (List ShellWord × List ShellRedirection × List ShellToken)
  | 0, ts => .ok ([], [], ts)
  | fuel + 1, ts => do
    match ← readRedirection? ts with
    | some (r, rest) =>
      let (ws, rs, rest) ← readSimple fuel rest
      return (ws, r :: rs, rest)
    | none =>
      match ts with
      | .word w _ :: rest =>
        let (ws, rs, rest) ← readSimple fuel rest
        return (w :: ws, rs, rest)
      | _ => return ([], [], ts)

/-- The text of the reserved word that tokens begin with. -/
def reserved? : List ShellToken → Option String
  | .word w _ :: _ => w.plain?.filter ["\x7b", "\x7d", "!"].contains
  | _ => none

/-- Tokens without the line ends in front. -/
def dropLineEnds (ts : List ShellToken) : List ShellToken := ts.dropWhile (· = .lineEnd)

mutual

/-- A list of commands, up to a token that ends it. -/
def readList : (fuel : Nat) → List ShellToken → Except ScriptFault (ShellScript × List ShellToken)
  | 0, ts => .ok (.nothing, ts)
  | fuel + 1, ts =>
    match dropLineEnds ts with
    | [] => .ok (.nothing, [])
    | .operator ")" :: rest => .ok (.nothing, .operator ")" :: rest)
    | ts =>
      if reserved? ts = some "\x7d" then .ok (.nothing, ts)
      else do
        let (first, rest) ← readAndOr fuel ts
        match rest with
        | .operator ";" :: rest | .lineEnd :: rest =>
          let (more, rest) ← readList fuel rest
          return (if more = .nothing then first else .sequence first more, rest)
        | .operator "&" :: rest =>
          let (more, rest) ← readList fuel rest
          return (if more = .nothing then .background first
            else .sequence (.background first) more, rest)
        | _ => return (first, rest)

/-- Pipelines between `&&` and `||`, which bind to the left. -/
def readAndOr : (fuel : Nat) → List ShellToken → Except ScriptFault (ShellScript × List ShellToken)
  | 0, ts => .error (faultAt ts)
  | fuel + 1, ts => do
    let (first, rest) ← readPipeline fuel ts
    readAndOrAfter fuel first rest

/-- What follows a pipeline in such a list. -/
def readAndOrAfter : (fuel : Nat) → ShellScript → List ShellToken →
    Except ScriptFault (ShellScript × List ShellToken)
  | 0, left, ts => .ok (left, ts)
  | fuel + 1, left, ts =>
    match ts with
    | .operator "&&" :: rest => do
      let (right, rest) ← readPipeline fuel (dropLineEnds rest)
      readAndOrAfter fuel (.both left right) rest
    | .operator "||" :: rest => do
      let (right, rest) ← readPipeline fuel (dropLineEnds rest)
      readAndOrAfter fuel (.either left right) rest
    | _ => .ok (left, ts)

/-- Commands between bars. -/
def readPipeline :
    (fuel : Nat) → List ShellToken → Except ScriptFault (ShellScript × List ShellToken)
  | 0, ts => .error (faultAt ts)
  | fuel + 1, ts =>
    if reserved? ts = some "!" then do
      let (body, rest) ← readPipeline fuel (ts.drop 1)
      return (.negate body, rest)
    else do
      let (first, rest) ← readCommand fuel ts
      match rest with
      | .operator "|" :: rest =>
        let (more, rest) ← readPipeline fuel (dropLineEnds rest)
        return (.pipe first more, rest)
      | _ => return (first, rest)

/-- One command. -/
def readCommand :
    (fuel : Nat) → List ShellToken → Except ScriptFault (ShellScript × List ShellToken)
  | 0, ts => .error (faultAt ts)
  | fuel + 1, ts =>
    match ts with
    | .operator "(" :: rest => do
      let (body, rest) ← readList fuel rest
      match rest with
      | .operator ")" :: rest =>
        if body = .nothing then throw (faultAt [.operator ")"])
        let (rs, rest) ← readRedirections fuel rest
        return (.subshell body rs, rest)
      | _ => throw (.expecting ")" (faultAt rest))
    | _ =>
      match reserved? ts with
      | some "\x7b" => do
        let (body, rest) ← readList fuel (ts.drop 1)
        if reserved? rest = some "\x7d" then
          if body = .nothing then throw (faultAt rest)
          let (rs, rest) ← readRedirections fuel (rest.drop 1)
          return (.group body rs, rest)
        else throw (.expecting "\x7d" (faultAt rest))
      | some "\x7d" => .error (faultAt ts)
      | _ => do
        let (ws, rs, rest) ← readSimple (ts.length + 1) ts
        if ws = [] ∧ rs = [] then throw (faultAt ts)
        let line := match ts with
          | .word _ line :: _ => line
          | _ => 1
        return (.simple ws rs line, rest)

end

/-- The script of a text. -/
def ShellScript.read (text : String) : Except ScriptFault ShellScript := do
  let ts ← shellTokens text.toList
  let (script, rest) ← readList (8 * ts.length + 8) ts
  match rest with
  | [] => return script
  | _ => throw (faultAt rest)

end ReplicaSeed.Toolbox
