/-!
# Text from bytes

Decoding of UTF-8 in two ways: strictly, and with the replacement character `U+FFFD` for every
maximal piece that is not UTF-8.

## Main definitions

* `scalar?`: the first character of a byte sequence, with its rest.
* `decode?`: strict decoding.
* `decodeLossy`: decoding that replaces.
-/

namespace ReplicaSeed.Text

/-- The replacement character. -/
def replacement : Char := '\uFFFD'

/-- The byte is between two others. -/
def inRange (lo hi b : UInt8) : Bool := lo ≤ b && b ≤ hi

/-- How many bytes follow the lead byte, and the range of the first of them. -/
def leadByte? (b : UInt8) : Option (Nat × UInt8 × UInt8) :=
  if inRange 0xc2 0xdf b then some (1, 0x80, 0xbf)
  else if b = 0xe0 then some (2, 0xa0, 0xbf)
  else if inRange 0xe1 0xec b || inRange 0xee 0xef b then some (2, 0x80, 0xbf)
  else if b = 0xed then some (2, 0x80, 0x9f)
  else if b = 0xf0 then some (3, 0x90, 0xbf)
  else if inRange 0xf1 0xf3 b then some (3, 0x80, 0xbf)
  else if b = 0xf4 then some (3, 0x80, 0x8f)
  else none

/-- The six low bits of a continuation byte. -/
def lowBits (b : UInt8) : Nat := b.toNat % 64

/-- The continuation bytes, at most `count` of them, that `bytes` begins with: the first in the
given range, the others in the general one. -/
def continuation (lo hi : UInt8) : (count : Nat) → (bytes : List UInt8) → List UInt8
  | 0, _ => []
  | _, [] => []
  | count + 1, b :: bs => if inRange lo hi b then b :: continuation 0x80 0xbf count bs else []

/-- The bits of a lead byte that belong to the character. -/
def leadBits (extra : Nat) (b : UInt8) : Nat := b.toNat % Nat.pow 2 (6 - extra)

/-- The first character of a non-empty byte sequence and how many bytes it takes. A piece that is no
UTF-8 gives no character; its length is that of the longest beginning of one, and at least one. -/
def scalar? (b : UInt8) (bs : List UInt8) : Option Char × Nat :=
  if b < 0x80 then (some (Char.ofNat b.toNat), 1)
  else
    match leadByte? b with
    | none => (none, 1)
    | some (extra, lo, hi) =>
      let tail := continuation lo hi extra bs
      if tail.length = extra then
        (some (Char.ofNat (tail.foldl (fun n c => n * 64 + lowBits c) (leadBits extra b))),
          extra + 1)
      else (none, tail.length + 1)

/-- Decoding that puts `bad` for each piece that is no UTF-8; `skip` bytes are already read. -/
def decodeFrom (skip : Nat) : List UInt8 → List (Option Char)
  | [] => []
  | b :: bs =>
    match skip with
    | skip + 1 => decodeFrom skip bs
    | 0 =>
      let (c, size) := scalar? b bs
      c :: decodeFrom (size - 1) bs

/-- The characters of a byte sequence; `none` stands for a piece that is no UTF-8. -/
def decodePieces (bytes : List UInt8) : List (Option Char) := decodeFrom 0 bytes

/-- The text of a byte sequence, if all of it is UTF-8. -/
def decode? (bytes : List UInt8) : Option (List Char) := (decodePieces bytes).mapM id

/-- The text of a byte sequence, with the replacement character for what is no UTF-8. -/
def decodeLossy (bytes : List UInt8) : List Char :=
  (decodePieces bytes).map fun c => c.getD replacement

/-- The UTF-8 bytes of a text. -/
def encode (cs : List Char) : List UInt8 := (String.ofList cs).toByteArray.toList

end ReplicaSeed.Text
