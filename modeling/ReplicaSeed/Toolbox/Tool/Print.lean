import ReplicaSeed.Toolbox.Tool.Escape
import ReplicaSeed.Toolbox.Tool.Options

/-!
# Printing programs

`echo` prints its words with blanks between them, `printf` prints by a format that is used again
until no words are left. The shell has both of its own, with fewer escapes and other texts of
faults.

## Main definitions

* `echo`, `shellEcho`: words with blanks between them.
* `Printing`: how `printf` escapes and what it says about faults.
* `Printing.run`: printing by a format.
-/

namespace ReplicaSeed.Toolbox

open JobM

/-! ## Words -/

/-- The escapes of `echo -e`. -/
def echoEscapes : EscapeStyle := ⟨('e', 27) :: controlLetters, true, true, true⟩

/-- The escapes of the shell in words. -/
def shellEscapes : EscapeStyle := ⟨controlLetters, true, true, false⟩

/-- The words with blanks between them. -/
def spaced (words : List String) : List Char := (" ".intercalate words).toList

/-- Prints words; the line is ended unless `open_` or an escape says that it is not. -/
def printWords (style? : Option EscapeStyle) (open_ : Bool) (words : List String) : JobM Unit :=
  let (bytes, stopped) := match style? with
    | some style => style.unescape (spaced words)
    | none => (Text.encode (spaced words), false)
  write (if open_ || stopped then bytes else bytes ++ [10])

/-- A word of `echo` that holds only options. -/
def isEchoOption (word : String) : Bool :=
  match word.toList with
  | '-' :: c :: cs => (c :: cs).all fun c => c = 'n' || c = 'e' || c = 'E'
  | _ => false

/-- Prints its words, with escapes only if `-e` asks for them. -/
def echo : Tool := fun words =>
  let options := (words.takeWhile isEchoOption).flatMap fun w => w.toList.drop 1
  let escapes := (options.filter fun c => c ≠ 'n').getLast? = some 'e'
  printWords (if escapes then some echoEscapes else none) (options.contains 'n')
    (words.dropWhile isEchoOption)

/-- Prints its words, always with escapes. -/
def shellEcho : Tool
  | "-n" :: words => printWords (some shellEscapes) true words
  | words => printWords (some shellEscapes) false words

/-! ## Formats -/

/-- A place in a format where a word is printed. -/
structure Directive where
  flags : List Char
  width : Nat
  precision : Option Nat
  conversion : Char

/-- A piece of a format. -/
inductive FormatPiece where
  | text (bytes : List UInt8)
  | stop
  | directive (d : Directive)
  /-- A percent sign with what follows it, which is no directive. -/
  | fault (text : List Char)

/-- How `printf` escapes and what it says about faults. -/
structure Printing where
  format : EscapeStyle
  words : EscapeStyle
  /-- Letters that tell the length of a number. -/
  lengths : List Char
  /-- What stands before the text of a fault. -/
  label : String
  quote : String → String
  noNumber : String
  tail : String
  invalid : String
  /-- The exit code for a directive that is none. -/
  invalidCode : Nat
  /-- What stands before the first word that the format has no place for, if that is told. -/
  excess : Option String

/-- The directive after a percent sign, and the rest of the format. Letters that tell the length of
a number may stand before the conversion. -/
def readDirective (lengths : List Char) (cs : List Char) :
    Except (List Char) (Directive × List Char) :=
  let isFlag (c : Char) : Bool := ['-', '+', ' ', '#', '0'].contains c
  let flags := cs.takeWhile isFlag
  let afterFlags := cs.dropWhile isFlag
  let (_, width, rest) := readDigitsIn 10 9 afterFlags
  let (precision, rest) := match rest with
    | '.' :: rest =>
      let (_, n, rest) := readDigitsIn 10 9 rest
      (some n, rest)
    | _ => (none, rest)
  match rest.dropWhile lengths.contains with
  | [] => .error cs
  | c :: rest =>
    if ['s', 'd', 'i', 'u', 'o', 'x', 'X', 'c', 'b'].contains c then
      .ok (⟨flags, width, precision, c⟩, rest)
    else .error (cs.take (cs.length - rest.length))

/-- The pieces of at most `fuel` steps through a format. -/
def readFormat (style : EscapeStyle) (lengths : List Char) :
    (fuel : Nat) → List Char → List FormatPiece
  | 0, _ => []
  | _, [] => []
  | fuel + 1, '\\' :: cs =>
    match style.escape? cs with
    | some .stop => [.stop]
    | some (.byte b rest) => .text [b] :: readFormat style lengths fuel rest
    | none => .text [92] :: readFormat style lengths fuel cs
  | fuel + 1, '%' :: '%' :: cs => .text [37] :: readFormat style lengths fuel cs
  | fuel + 1, '%' :: cs =>
    match readDirective lengths cs with
    | .error text => [.fault text]
    | .ok (d, rest) => .directive d :: readFormat style lengths fuel rest
  | fuel + 1, c :: cs => .text (Text.encode [c]) :: readFormat style lengths fuel cs

/-- The number that a word begins with, and what follows it; nothing if it begins with none. -/
def leadingInt? (word : List Char) : Option (Int × List Char) :=
  let cs := word.dropWhile fun c => c = ' ' || (9 ≤ c.toNat && c.toNat ≤ 13)
  let (negative, digits) := match cs with
    | '-' :: cs => (true, cs)
    | '+' :: cs => (false, cs)
    | _ => (false, cs)
  let (n, value, rest) := match digits with
    | '0' :: 'x' :: cs | '0' :: 'X' :: cs =>
      match readDigitsIn 16 cs.length cs with
      | (0, _) => (1, 0, 'x' :: cs)
      | (n, value, rest) => (n, value, rest)
    | '0' :: cs =>
      let (n, value, rest) := readDigitsIn 8 cs.length cs
      (n + 1, value, rest)
    | _ => readDigitsIn 10 digits.length digits
  if n = 0 then none else some (if negative then -(value : Int) else value, rest)

/-- The number of a word, and the text of its fault. -/
def Printing.number (p : Printing) (word : String) : Int × Option String :=
  match word.toList with
  | [] => (0, none)
  | '\'' :: c :: _ | '"' :: c :: _ => (c.toNat, none)
  | cs =>
    match leadingInt? cs with
    | none => (0, some (p.quote word ++ p.noNumber))
    | some (n, []) => (n, none)
    | some (n, _) => (n, some (p.quote word ++ p.tail))

/-- A number in a range of sixty-four bits. -/
def clampTo (low high n : Int) : Int := max low (min high n)

/-- The digits of a number in a base. -/
def digitsIn (base n : Nat) : List Char := Nat.toDigits base n

/-- Text filled up to a width. -/
def Directive.pad (d : Directive) (sign body : List UInt8) (numeric : Bool) : List UInt8 :=
  let fill := d.width - (sign.length + body.length)
  if d.flags.contains '-' then sign ++ body ++ List.replicate fill 32
  else if d.flags.contains '0' && numeric && d.precision.isNone then
    sign ++ List.replicate fill 48 ++ body
  else List.replicate fill 32 ++ sign ++ body

/-- A whole number as a directive prints it. -/
def Directive.integer (d : Directive) (n : Int) : List UInt8 :=
  let signed := d.conversion = 'd' || d.conversion = 'i'
  let value :=
    if signed then (clampTo (-9223372036854775808) 9223372036854775807 n).natAbs
    else if n < 0 then 18446744073709551616 - n.natAbs
    else min n.natAbs 18446744073709551615
  let base := match d.conversion with
    | 'o' => 8
    | 'x' | 'X' => 16
    | _ => 10
  let digits := if value = 0 ∧ d.precision = some 0 then [] else digitsIn base value
  let digits := if d.conversion = 'X' then digits.map Char.toUpper else digits
  let digits := List.replicate (d.precision.getD 0 - digits.length) '0' ++ digits
  let sign :=
    if signed ∧ n < 0 then ['-']
    else if signed ∧ d.flags.contains '+' then ['+']
    else if signed ∧ d.flags.contains ' ' then [' ']
    else if d.flags.contains '#' ∧ value ≠ 0 then
      match d.conversion with
      | 'x' => ['0', 'x']
      | 'X' => ['0', 'X']
      | 'o' => ['0']
      | _ => []
    else []
  d.pad (Text.encode sign) (Text.encode digits) true

/-- Bytes as a directive prints them. -/
def Directive.bytes (d : Directive) (bytes : List UInt8) : List UInt8 :=
  d.pad [] (match d.precision with | some n => bytes.take n | none => bytes) false

/-- Prints the pieces of a format once: the words that are left, or nothing if printing is over. -/
def Printing.pass (p : Printing) : List FormatPiece → List String → JobM (Option (List String))
  | [], words => return some words
  | .text bytes :: pieces, words => do
    write bytes
    p.pass pieces words
  | .stop :: _, _ => return none
  | .fault text :: _, _ => do
    complain (p.label ++ "%" ++ String.ofList text ++ p.invalid) p.invalidCode
    return none
  | .directive d :: pieces, words => do
    let word := words.headD ""
    match d.conversion with
    | 's' => write (d.bytes (Text.encode word.toList))
    | 'c' => write (d.bytes ((Text.encode word.toList).take 1))
    | 'b' =>
      let (bytes, stopped) := p.words.unescape word.toList
      write (d.bytes bytes)
      if stopped then return none
    | _ =>
      let (n, fault?) := p.number word
      match fault? with
      | some fault => complain (p.label ++ fault) 1
      | none => pure ()
      write (d.integer n)
    p.pass pieces (words.drop 1)

/-- Writes in one go what something prints. -/
def inOneGo (body : JobM Unit) : JobM Unit := do
  let before ← get
  set { before with emissions := [], bounds := { before.bounds with room := none } }
  body
  let written := (← get).emissions
  modify fun j => { j with emissions := before.emissions, bounds := before.bounds }
  for port in [Port.output, .errors] do
    emit port ((chunksOf port written).flatMap (·.bytes))

/-- Prints by a format until no words are left, in at most `fuel` passes. -/
def Printing.passes (p : Printing) (pieces : List FormatPiece) :
    (fuel : Nat) → List String → JobM Unit
  | 0, _ => return
  | fuel + 1, words => do
    match ← p.pass pieces words with
    | some (w :: ws) =>
      if ws.length + 1 < words.length then p.passes pieces fuel (w :: ws)
      else
        match p.excess with
        | some text => warn (p.label ++ text ++ p.quote w)
        | none => return
    | _ => return

/-- Prints words by a format. -/
def Printing.run (p : Printing) (format : String) (words : List String) : JobM Unit :=
  inOneGo (p.passes (readFormat p.format p.lengths format.length format.toList)
    (words.length + 1) words)

/-- What the program `printf` escapes and says. -/
def printing : Printing where
  format := ⟨('e', 27) :: ('"', 34) :: controlLetters, true, false, true⟩
  words := ⟨('e', 27) :: ('"', 34) :: controlLetters, true, true, true⟩
  lengths := ['h', 'j', 'l', 'L', 't', 'z']
  label := "printf: "
  quote word := "'" ++ word ++ "'"
  noNumber := ": expected a numeric value"
  tail := ": value not completely converted"
  invalid := ": invalid conversion specification"
  invalidCode := 1
  excess := some "warning: ignoring excess arguments, starting with "

/-- What the shell's own `printf` escapes and says; `label` names the shell and the line. -/
def shellPrinting (label : String) : Printing where
  format := ⟨controlLetters, false, false, false⟩
  words := shellEscapes
  lengths := []
  label := label ++ "printf: "
  quote word := word
  noNumber := ": expected numeric value"
  tail := ": not completely converted"
  invalid := ": invalid directive"
  invalidCode := 2
  excess := none

/-- Prints words by a format. -/
def printf : Tool
  | "--" :: format :: words => printing.run format words
  | [] | ["--"] => misuse "printf" "missing operand" 1
  | format :: words => printing.run format words

/-- The shell's own `printf`. -/
def shellPrintf (label : String) : Tool
  | "--" :: format :: words => (shellPrinting label).run format words
  | [] | ["--"] => complain (label ++ "printf: usage: printf format [arg ...]") 2
  | format :: words => (shellPrinting label).run format words

end ReplicaSeed.Toolbox
