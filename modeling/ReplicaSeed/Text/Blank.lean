/-!
# Blank characters

White space as the Unicode property `White_Space` has it, and the trimming of text by it.

## Main definitions

* `isBlank`: the property.
* `trimStart`, `trimEnd`, `trim`: text without the blanks at its ends.
* `squeeze`: text without any blank.
-/

namespace ReplicaSeed.Text

/-- Membership in the Unicode property `White_Space`. -/
def isBlank (c : Char) : Bool :=
  let n := c.toNat
  (9 ≤ n && n ≤ 13) || n == 32 || n == 0x85 || n == 0xa0 || n == 0x1680 ||
    (0x2000 ≤ n && n ≤ 0x200a) || n == 0x2028 || n == 0x2029 || n == 0x202f ||
    n == 0x205f || n == 0x3000

/-- `cs` without the blanks it begins with. -/
def trimStart (cs : List Char) : List Char := cs.dropWhile isBlank

/-- `cs` without the characters of `p` it ends with. -/
def dropEndWhile (p : Char → Bool) (cs : List Char) : List Char :=
  (cs.reverse.dropWhile p).reverse

/-- `cs` without the blanks it ends with. -/
def trimEnd (cs : List Char) : List Char := dropEndWhile isBlank cs

/-- `cs` without the blanks at its two ends. -/
def trim (cs : List Char) : List Char := trimEnd (trimStart cs)

/-- `cs` without the characters of `p` at its two ends. -/
def trimMatches (p : Char → Bool) (cs : List Char) : List Char :=
  dropEndWhile p (cs.dropWhile p)

/-- `cs` without its blanks, wherever they stand. -/
def squeeze (cs : List Char) : List Char := cs.filter fun c => !isBlank c

@[simp] theorem squeeze_squeeze (cs : List Char) : squeeze (squeeze cs) = squeeze cs := by
  simp [squeeze]

@[simp] theorem squeeze_append (cs ds : List Char) :
    squeeze (cs ++ ds) = squeeze cs ++ squeeze ds := by
  simp [squeeze]

end ReplicaSeed.Text
