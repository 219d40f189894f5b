import ReplicaSeed.Http.Percent
import ReplicaSeed.Text.Blank
import ReplicaSeed.Text.Numeral

/-!
# Addresses

Reading an address of the web, leniently: blanks around it, line breaks in it and backslashes for
slashes are all accepted. Path and query are kept in the form in which they are requested:
characters that must not stand there are percent-encoded, and the dots of relative paths are worked
off.

## Main definitions

* `Url`: an address.
* `Url.ofText?`: reading one.
* `Url.target`: what is requested of its host.
-/

namespace ReplicaSeed.Http

/-! ## Encoding -/

/-- A byte in percent form. -/
def percentByte (b : UInt8) : List Char :=
  ['%', (Nat.digitChar (b.toNat / 16)).toUpper, (Nat.digitChar (b.toNat % 16)).toUpper]

/-- The characters in percent form that are not plain ASCII or for which `escapes` holds. -/
def percentEncode (escapes : Char → Bool) (cs : List Char) : List Char :=
  cs.flatMap fun c =>
    if c.toNat < 33 ∨ 127 ≤ c.toNat ∨ escapes c then (Text.encode [c]).flatMap percentByte else [c]

/-- The characters that are escaped in a path. -/
def pathEscapes (c : Char) : Bool := "\"<>`#?\x7b\x7d".toList.contains c

/-- The characters that are escaped in a query. -/
def queryEscapes (c : Char) : Bool := "\"<>#'".toList.contains c

/-! ## Hosts -/

/-- The characters that cannot stand in the name of a host. -/
def isHostChar (c : Char) : Bool :=
  !(c.toNat ≤ 32 || c.toNat = 127 || c = Text.replacement || "#%/:<>?@[\\]^|".toList.contains c)

/-- A number in a numeric host: decimal, octal after a zero, or hexadecimal after `0x`. -/
def hostNumber? (cs : List Char) : Option Nat :=
  let digits (base : Nat) (ds : List Char) : Option Nat :=
    ds.foldlM (fun n c => do
      let d ← Json.hexValue? c
      if d < base then some (n * base + d) else none) 0
  match cs with
  | [] => none
  | '0' :: 'x' :: ds => digits 16 ds
  | '0' :: 'X' :: ds => digits 16 ds
  | '0' :: ds => digits 8 ds
  | ds => digits 10 ds

/-- The parts of a host between dots, without an empty one at its end. -/
def hostParts (host : List Char) : List (List Char) :=
  let parts := Text.splitOn '.' host
  if 1 < parts.length ∧ parts.getLast? = some [] then parts.dropLast else parts

/-- The host ends with a number, so all of it must be one. -/
def isNumericHost (host : List Char) : Bool :=
  match (hostParts host).getLast? with
  | some part => part ≠ [] && (part.all Char.isDigit || (hostNumber? part).isSome)
  | none => false

/-- The numbers make up an address of four bytes, of which the last number may fill several. -/
def isHostAddress (host : List Char) : Bool :=
  match (hostParts host).mapM hostNumber? with
  | none => false
  | some numbers =>
    numbers.length ≤ 4 && numbers.dropLast.all (· ≤ 255) &&
      numbers.getLast?.all fun n => n < Nat.pow 256 (5 - numbers.length)

/-- The groups of an address in brackets. -/
def isBracketAddress (inside : List Char) : Bool :=
  let groups (cs : List Char) : List (List Char) := if cs = [] then [] else Text.splitOn ':' cs
  let wellFormed (gs : List (List Char)) : Bool :=
    gs.all fun g => g ≠ [] && g.length ≤ 4 && g.all fun c => (Json.hexValue? c).isSome
  match Text.cut? [':', ':'] inside with
  | some (before, after) =>
    wellFormed (groups before) && wellFormed (groups after) &&
      (groups before).length + (groups after).length ≤ 7
  | none => wellFormed (groups inside) && (groups inside).length = 8

/-- The text is the name or the address of a host. -/
def isHost : List Char → Bool
  | [] => false
  | '[' :: rest => rest.getLast? = some ']' && isBracketAddress rest.dropLast
  | raw =>
    let host := Text.decodeLossy (percentDecode raw)
    host ≠ [] && host.all isHostChar && (!isNumericHost host || isHostAddress host)

/-! ## Addresses -/

/-- An address of the web. -/
structure Url where
  /-- The host with the port, and who asks, as they were given. -/
  authority : String
  /-- The encoded parts of the path between slashes. -/
  path : List String
  /-- The encoded query. -/
  query : Option String
  deriving DecidableEq, Repr

namespace Url

/-- The text that counts: without blanks and control characters around it and without tabs and line
breaks. -/
def essential (text : List Char) : List Char :=
  let isEdge (c : Char) : Bool := c.toNat ≤ 32
  (Text.dropEndWhile isEdge (text.dropWhile isEdge)).filter fun c =>
    c ≠ '\t' && c ≠ '\n' && c ≠ '\r'

/-- The character is a slash, as which a backslash counts. -/
def isSlash (c : Char) : Bool := c = '/' || c = '\\'

/-- Where the authority ends. -/
def endsAuthority (c : Char) : Bool := isSlash c || c = '?' || c = '#'

/-- The port can be one: no digits at all, or a number of 16 bits. -/
def isPort (digits : List Char) : Bool :=
  digits.all Char.isDigit && (digits = [] || (Text.readUInt16 digits).isOk)

/-- A host in brackets or up to the next colon, and what follows. -/
def splitHost : (inBrackets : Bool) → List Char → List Char × List Char
  | _, [] => ([], [])
  | inBrackets, c :: rest =>
    if c = ':' ∧ !inBrackets then ([], c :: rest)
    else
      let (host, after) :=
        splitHost (if c = '[' then true else if c = ']' then false else inBrackets) rest
      (c :: host, after)

/-- The authority names a host, maybe after who asks, and maybe a port. -/
def isAuthority (authority : List Char) : Bool :=
  let hostAndPort := (authority.reverse.takeWhile (· != '@')).reverse
  let (host, after) := splitHost false hostAndPort
  isHost host && isPort (after.drop 1)

/-- A part of a path that stands for the place itself. -/
def isDot (part : List Char) : Bool :=
  [".", "%2e", "%2E"].any fun s => s.toList == part

/-- A part of a path that stands for the place above. -/
def isDotDot (part : List Char) : Bool :=
  let dots := [".", "%2e", "%2E"]
  dots.any fun s => dots.any fun t => (s ++ t).toList == part

/-- The parts of a path without those made of dots. Where such a part is the last one the path ends
with a slash. The parts that are kept so far come in reverse. -/
def resolve : (kept : List (List Char)) → List (List Char) → List (List Char)
  | kept, [] => kept.reverse
  | kept, [part] =>
    if isDotDot part then ([] :: kept.tail).reverse
    else if isDot part then ([] :: kept).reverse
    else (part :: kept).reverse
  | kept, part :: rest =>
    if isDotDot part then resolve kept.tail rest
    else if isDot part then resolve kept rest
    else resolve (part :: kept) rest

/-- The parts of the path of an address. -/
def pathParts (path : List Char) : List (List Char) :=
  let slashes := path.map fun c => if isSlash c then '/' else c
  resolve [] ((Text.splitOn '/' (slashes.drop 1)).map (percentEncode pathEscapes))

/-- The address that a text is, if it is one of the web. -/
def ofText? (text : String) : Option Url := do
  let (scheme, rest) ← Text.splitOnce? ':' (essential text.toList)
  let scheme := String.ofList (scheme.map Char.toLower)
  if scheme ≠ "http" ∧ scheme ≠ "https" then none
  else
    let rest := rest.dropWhile isSlash
    let authority := rest.takeWhile fun c => !endsAuthority c
    let rest := (rest.dropWhile fun c => !endsAuthority c).takeWhile (· != '#')
    let path := rest.takeWhile (· != '?')
    let query := rest.dropWhile (· != '?')
    if isAuthority authority then
      some
        { authority := String.ofList authority
          path := (pathParts path).map String.ofList
          query := match query with
            | [] => none
            | _ :: q => some (String.ofList (percentEncode queryEscapes q)) }
    else none

/-- What is requested of the host. -/
def target (u : Url) : String :=
  "/" ++ "/".intercalate u.path ++
    match u.query with
    | some q => "?" ++ q
    | none => ""

end Url

end ReplicaSeed.Http
