import ReplicaSeed.Http.Percent
import ReplicaSeed.Proofs.Text.Lossy
import ReplicaSeed.Proofs.Text.Search

/-!
# Fields of a query

What a query says, without a reader: its fields stand between ampersands, and the names and values
in them between equals signs, with a plus sign for each blank and a percent sign and two digits for
any byte.

## Main definitions

* `Http.Spells`: the bytes that a name or a value is written for.
* `Http.StandsFor`: the text that it is written for.
* `Http.IsField`: a field with its name and its value.
* `Http.LastField`: the value of the last field of a name.

## Main statements

* `Http.formText_eq_iff`, `Http.field?_eq_some_iff`: names, values and fields are read as such.
* `Http.lastField_iff`: the last field of a name is the last one that is read.
-/

namespace ReplicaSeed.Http

open String (utf8EncodeChar)

/-! ## Names and values -/

/-- A hexadecimal digit of either case, and its value. -/
def IsHexDigit (c : Char) (n : Nat) : Prop :=
  n < 16 ∧ (c = Nat.digitChar n ∨ c = (Nat.digitChar n).toUpper)

/-- The text begins with two hexadecimal digits. -/
def BeginsByte : List Char → Prop
  | a :: b :: _ => (∃ hi, IsHexDigit a hi) ∧ ∃ lo, IsHexDigit b lo
  | _ => False

/-- The bytes that a name or a value in a query is written for. -/
inductive Spells : List Char → List UInt8 → Prop
  | nil : Spells [] []
  | blank {cs : List Char} {bytes : List UInt8} (h : Spells cs bytes) :
    Spells ('+' :: cs) (0x20 :: bytes)
  | byte {a b : Char} {hi lo : Nat} {cs : List Char} {bytes : List UInt8} (high : IsHexDigit a hi)
      (low : IsHexDigit b lo) (h : Spells cs bytes) :
    Spells ('%' :: a :: b :: cs) (UInt8.ofNat (hi * 16 + lo) :: bytes)
  | percent {cs : List Char} {bytes : List UInt8} (bare : ¬ BeginsByte cs) (h : Spells cs bytes) :
    Spells ('%' :: cs) (0x25 :: bytes)
  | plain {c : Char} {cs : List Char} {bytes : List UInt8} (noPlus : c ≠ '+')
      (noPercent : c ≠ '%') (h : Spells cs bytes) :
    Spells (c :: cs) (utf8EncodeChar c ++ bytes)

/-- The text that a name or a value in a query is written for. -/
def StandsFor (raw : List Char) (text : String) : Prop :=
  ∃ bytes, Spells raw bytes ∧ Text.ReadsAs bytes text.toList

section

variable {a b c : Char} {hi lo n : Nat} {cs raw : List Char} {bytes : List UInt8} {text : String}

theorem hexValue?_eq_some_iff : Json.hexValue? c = some n ↔ IsHexDigit c n := by
  constructor
  · intro value
    have table : ∀ k < 128, ∀ n ∈ Json.hexValue? (Char.ofNat k), n < 16 ∧
        (Char.ofNat k = Nat.digitChar n ∨ Char.ofNat k = (Nat.digitChar n).toUpper) := by decide
    have small : c.toNat < 128 := by
      unfold Json.hexValue? at value
      split_ifs at value with digit lower upper
      · exact Nat.lt_of_le_of_lt (Char.le_def.1 digit.2) (by decide)
      · exact Nat.lt_of_le_of_lt (Char.le_def.1 lower.2) (by decide)
      · exact Nat.lt_of_le_of_lt (Char.le_def.1 upper.2) (by decide)
    rw [← Char.ofNat_toNat c] at value ⊢
    exact table c.toNat small n value
  · have table : ∀ n < 16, Json.hexValue? (Nat.digitChar n) = some n ∧
        Json.hexValue? (Nat.digitChar n).toUpper = some n := by decide
    rintro ⟨small, rfl | rfl⟩
    · exact (table n small).1
    · exact (table n small).2

theorem percentDecode_byte (high : IsHexDigit a hi) (low : IsHexDigit b lo) (cs : List Char) :
    percentDecode ('%' :: a :: b :: cs) = UInt8.ofNat (hi * 16 + lo) :: percentDecode cs := by
  rw [percentDecode, hexValue?_eq_some_iff.2 high, hexValue?_eq_some_iff.2 low]

theorem encode_singleton (c : Char) : Text.encode [c] = utf8EncodeChar c := by
  simp [Text.encode_eq]

theorem percentDecode_plain (other : c ≠ '%') (cs : List Char) :
    percentDecode (c :: cs) = utf8EncodeChar c ++ percentDecode cs := by
  rw [percentDecode.eq_2 c cs fun _ _ _ same => absurd same other, encode_singleton]

/-- A percent sign without two digits after it stands for itself. -/
theorem percentDecode_percent (bare : ¬ BeginsByte cs) :
    percentDecode ('%' :: cs) = 0x25 :: percentDecode cs := by
  -- The reader has no case of its own for a text that ends too early.
  have alone (short : ∀ a b rest, cs ≠ a :: b :: rest) :
      percentDecode ('%' :: cs) = 0x25 :: percentDecode cs := by
    rw [percentDecode.eq_2 '%' cs fun a b rest _ => short a b rest, encode_singleton]
    rfl
  match cs with
  | [] | [_] => exact alone nofun
  | a :: b :: rest =>
    rw [percentDecode]
    split
    · rename_i hi lo high low
      exact absurd ⟨⟨hi, hexValue?_eq_some_iff.1 high⟩, lo, hexValue?_eq_some_iff.1 low⟩ bare
    · rfl

/-- The character that is read in place of one: a blank for a plus sign. -/
def blanked (c : Char) : Char := if c = '+' then ' ' else c

theorem isHexDigit_blanked : IsHexDigit (blanked c) n ↔ IsHexDigit c n := by
  unfold blanked
  split
  · -- Neither is a digit, so plus signs can be replaced before percent signs are looked at.
    rename_i plus
    rw [plus, ← hexValue?_eq_some_iff, ← hexValue?_eq_some_iff]
    exact iff_of_false nofun nofun
  · rfl

theorem beginsByte_map_blanked : BeginsByte (cs.map blanked) ↔ BeginsByte cs := by
  match cs with
  | [] | [_] => rfl
  | a :: b :: rest => simp only [List.map_cons, BeginsByte, isHexDigit_blanked]

theorem Spells.percentDecode_map (h : Spells raw bytes) :
    percentDecode (raw.map blanked) = bytes := by
  induction h with
  | nil => rfl
  | blank _ ih => exact (percentDecode_plain (by decide) _).trans (congrArg _ ih)
  | byte high low _ ih =>
    rw [← isHexDigit_blanked] at high low
    exact (percentDecode_byte high low _).trans (congrArg _ ih)
  | percent bare _ ih =>
    rw [← beginsByte_map_blanked] at bare
    exact (percentDecode_percent bare).trans (congrArg _ ih)
  | plain noPlus noPercent _ ih =>
    rw [List.map_cons, blanked, if_neg noPlus, percentDecode_plain noPercent, ih]

/-- Every text is written for some bytes. -/
theorem exists_spells (raw : List Char) : ∃ bytes, Spells raw bytes := by
  match raw with
  | [] => exact ⟨_, .nil⟩
  | c :: cs =>
    obtain rfl | noPlus := eq_or_ne c '+'
    · obtain ⟨bytes, h⟩ := exists_spells cs
      exact ⟨_, .blank h⟩
    obtain rfl | noPercent := eq_or_ne c '%'
    · by_cases begins : BeginsByte cs
      · match cs, begins with
        | a :: b :: rest, ⟨⟨hi, high⟩, lo, low⟩ =>
          obtain ⟨bytes, h⟩ := exists_spells rest
          exact ⟨_, .byte high low h⟩
      · obtain ⟨bytes, h⟩ := exists_spells cs
        exact ⟨_, .percent begins h⟩
    · obtain ⟨bytes, h⟩ := exists_spells cs
      exact ⟨_, .plain noPlus noPercent h⟩
termination_by raw.length

/-- A name or a value is read as the text that it is written for. -/
theorem formText_eq_iff : formText raw = text ↔ StandsFor raw text := by
  have split : formText raw = String.ofList (Text.decodeLossy (percentDecode (raw.map blanked))) :=
    rfl
  rw [split]
  constructor
  · rintro rfl
    obtain ⟨bytes, spells⟩ := exists_spells raw
    rw [spells.percentDecode_map, StandsFor, String.toList_ofList]
    exact ⟨bytes, spells, Text.readsAs_decodeLossy bytes⟩
  · rintro ⟨bytes, spells, reads⟩
    rw [spells.percentDecode_map, Text.decodeLossy_eq_iff.2 reads, String.ofList_toList]

end

/-! ## Fields -/

/-- A piece of a query is a field with this name and this value. Without an equals sign the value is
empty; nothing at all is no field. -/
inductive IsField : List Char → String × String → Prop
  | pair {rawName rawValue : List Char} {name value : String} (first : '=' ∉ rawName)
      (hn : StandsFor rawName name) (hv : StandsFor rawValue value) :
    IsField (rawName ++ '=' :: rawValue) (name, value)
  | bare {rawName : List Char} {name : String} (nonempty : rawName ≠ []) (free : '=' ∉ rawName)
      (hn : StandsFor rawName name) :
    IsField rawName (name, "")

/-- The last field of this name in the query has this value. -/
def LastField (query name value : String) : Prop :=
  ∃ before piece after, query.toList = ['&'].intercalate (before ++ piece :: after) ∧
    (∀ p ∈ before ++ piece :: after, '&' ∉ p) ∧ IsField piece (name, value) ∧
    ∀ p ∈ after, ∀ other, ¬ IsField p (name, other)

/-- The field that a piece of a query is. -/
def field? (piece : List Char) : Option (String × String) :=
  match piece, Text.splitOnce? '=' piece with
  | [], _ => none
  | _, some (name, value) => some (formText name, formText value)
  | _, none => some (formText piece, "")

section

variable {piece : List Char} {field : String × String} {query name value : String}

theorem formFields_eq : formFields query = (Text.splitOn '&' query.toList).filterMap field? := rfl

theorem field?_eq (nonempty : piece ≠ []) :
    field? piece = some (match Text.splitOnce? '=' piece with
      | some (name, value) => (formText name, formText value)
      | none => (formText piece, "")) := by
  unfold field?
  split
  · exact absurd rfl nonempty
  · rename_i cut
    rw [cut]
  · rename_i cut
    rw [cut]

theorem field?_eq_some_iff : field? piece = some field ↔ IsField piece field := by
  constructor
  · intro read
    unfold field? at read
    split at read
    · cases read
    · rename_i rawName rawValue _ cut
      cases read
      obtain ⟨first, rfl⟩ := Text.splitOnce?_eq_some_iff.1 cut
      exact .pair first (formText_eq_iff.1 rfl) (formText_eq_iff.1 rfl)
    · rename_i nonempty cut
      cases read
      exact .bare nonempty (Text.splitOnce?_eq_none_iff.1 cut) (formText_eq_iff.1 rfl)
  · rintro (⟨first, hn, hv⟩ | ⟨nonempty, free, hn⟩)
    · rw [field?_eq (by simp), Text.splitOnce?_append_cons first, ← formText_eq_iff.2 hn,
        ← formText_eq_iff.2 hv]
    · rw [field?_eq nonempty, Text.splitOnce?_eq_none_iff.2 free, ← formText_eq_iff.2 hn]

/-- The last field of a name is the last one of those that are read. -/
theorem lastField_iff :
    LastField query name value ↔ ∃ before after,
      formFields query = before ++ (name, value) :: after ∧ ∀ field ∈ after, field.1 ≠ name := by
  simp only [formFields_eq, LastField, ← field?_eq_some_iff]
  constructor
  · rintro ⟨before, piece, after, all, apart, here, later⟩
    have pieces : Text.splitOn '&' query.toList = before ++ piece :: after :=
      Text.splitOn_eq_iff.2 ⟨by simp, all, apart⟩
    refine ⟨before.filterMap field?, after.filterMap field?, ?_, fun field member same => ?_⟩
    · rw [pieces, List.filterMap_append, List.filterMap_cons_some here]
    · obtain ⟨p, among, read⟩ := List.mem_filterMap.1 member
      exact later p among field.2 (by rw [read, ← same])
  · rintro ⟨before, after, split, other⟩
    obtain ⟨front, back, pieces, rfl, late⟩ := List.filterMap_eq_append_iff.1 split
    obtain ⟨skipped, piece, rest, rfl, -, here, rfl⟩ := List.filterMap_eq_cons_iff.1 late
    rw [← List.append_assoc] at pieces
    obtain ⟨-, all, apart⟩ := Text.splitOn_eq_iff.1 pieces
    refine ⟨front ++ skipped, piece, rest, all, apart, here, fun p among value read => ?_⟩
    exact other (name, value) (List.mem_filterMap.2 ⟨p, among, read⟩) rfl

end

end ReplicaSeed.Http
