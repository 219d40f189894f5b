import Mathlib.Algebra.Group.Int.Defs
import Mathlib.Algebra.Group.Nat.Defs
import Mathlib.Data.List.TakeWhile
import ReplicaSeed.Proofs.Text.Blank
import ReplicaSeed.Text.Numeral

/-!
# Numbers that are written are read

Digits are read as the number that they are written for, within the limit of the range, and so is a
signed number. Nothing else is read.

## Main definitions

* `IsNumeral`: the decimal numbers with an optional sign.

## Main statements

* `readNat_eq`: digits are read as their number.
* `readInt64_int64Text`: a signed number of 64 bits is read as it is written.
* `readInt64_eq_ok_iff`: just the decimal numbers of 64 bits are read.
-/

namespace ReplicaSeed.Text

/-! ## Digits -/

theorem digit?_of_isDigit {c : Char} (h : c.isDigit = true) : digit? c = some (c.toNat - 48) := by
  have range : '0' ≤ c ∧ c ≤ '9' := by
    simpa [Char.isDigit, Char.le_def] using h
  exact if_pos range

theorem isSome_digit? (c : Char) : (digit? c).isSome = c.isDigit := by
  cases h : c.isDigit with
  | true => simp [digit?_of_isDigit h]
  | false =>
    have range : ¬ ('0' ≤ c ∧ c ≤ '9') := fun range => by
      have digit : c.isDigit = true := by simpa [Char.isDigit, Char.le_def] using range
      simp [digit] at h
    simp [digit?, range]

theorem not_isBlank_of_isDigit {c : Char} (h : c.isDigit = true) : isBlank c = false := by
  have range : 48 ≤ c.toNat ∧ c.toNat ≤ 57 := by
    simpa [Char.isDigit, UInt32.le_iff_toNat_le] using h
  simp [isBlank]
  omega

/-- Digits are read as their number, if it stays within the limit. -/
theorem readDigits_eq {limit : Nat} (fault : NumeralFault) {ds : List Char} {value : Nat}
    (digits : ∀ c ∈ ds, c.isDigit = true) (fits : Nat.ofDigitChars 10 ds value ≤ limit) :
    readDigits limit fault value ds = .ok (Nat.ofDigitChars 10 ds value) := by
  induction ds generalizing value with
  | nil => rfl
  | cons c ds ih =>
    obtain ⟨digit, digits⟩ := List.forall_mem_cons.1 digits
    rw [Nat.ofDigitChars_cons] at fits ⊢
    have next : value * 10 + (c.toNat - 48) = 10 * value + (c.toNat - '0'.toNat) := by
      rw [Nat.mul_comm]
      rfl
    have least : value * 10 + (c.toNat - 48) ≤ limit := by
      rw [Nat.ofDigitChars_eq_ofDigitChars_zero] at fits
      have grows := Nat.le_mul_of_pos_left (10 * value + (c.toNat - '0'.toNat))
        (Nat.pow_pos (n := ds.length) (by decide : 0 < 10))
      omega
    simp only [readDigits, digit?_of_isDigit digit, if_neg (Nat.not_lt.2 least)]
    rw [next]
    exact ih digits fits

/-- Nothing but digits within the limit is read as a number. -/
theorem readDigits_eq_ok_iff {limit value n : Nat} {fault : NumeralFault} {ds : List Char}
    (within : value ≤ limit) :
    readDigits limit fault value ds = .ok n ↔
      (∀ c ∈ ds, c.isDigit = true) ∧ n = Nat.ofDigitChars 10 ds value ∧ n ≤ limit := by
  constructor
  · intro read
    suffices (∀ c ∈ ds, c.isDigit = true) ∧ Nat.ofDigitChars 10 ds value ≤ limit by
      obtain ⟨digits, fits⟩ := this
      obtain rfl := Except.ok.inj ((readDigits_eq fault digits fits).symm.trans read)
      exact ⟨digits, rfl, fits⟩
    induction ds generalizing value with
    | nil => exact ⟨nofun, within⟩
    | cons c ds ih =>
      cases digit : c.isDigit with
      | false =>
        have none_ : digit? c = none := by
          simpa [digit] using isSome_digit? c
        simp [readDigits, none_] at read
      | true =>
        simp only [readDigits, digit?_of_isDigit digit] at read
        split at read
        · cases read
        · rename_i fits
          obtain ⟨digits, fits⟩ := ih (Nat.not_lt.1 fits) read
          have next : value * 10 + (c.toNat - 48) = 10 * value + (c.toNat - '0'.toNat) := by
            rw [Nat.mul_comm]
            rfl
          rw [Nat.ofDigitChars_cons, ← next]
          exact ⟨List.forall_mem_cons.2 ⟨digit, digits⟩, fits⟩
  · rintro ⟨digits, rfl, fits⟩
    exact readDigits_eq fault digits fits

theorem readNat_eq (limit : Nat) {ds : List Char} (nonempty : ds ≠ [])
    (digits : ∀ c ∈ ds, c.isDigit = true) (fits : Nat.ofDigitChars 10 ds 0 ≤ limit) :
    readNat limit ds = .ok (Nat.ofDigitChars 10 ds 0) := by
  rw [← readDigits_eq .tooLarge digits fits]
  cases ds with
  | nil => exact absurd rfl nonempty
  | cons c ds =>
    have unsigned : c ≠ '+' := by
      rintro rfl
      exact absurd (digits '+' (.head _)) (by decide)
    rw [readNat]
    all_goals simp [unsigned]

theorem takeWhile_digits {ds : List Char} (digits : ∀ c ∈ ds, c.isDigit = true)
    (rest : List Char) :
    (ds ++ rest).takeWhile (fun c => (digit? c).isSome) =
      ds ++ rest.takeWhile fun c => (digit? c).isSome :=
  List.takeWhile_append_of_pos fun c member => (isSome_digit? c).trans (digits c member)

/-! ## Signed numbers -/

/-- Digits are read as a number without a sign. -/
theorem readInt_digits {bits : Nat} {ds : List Char} (nonempty : ds ≠ [])
    (digits : ∀ c ∈ ds, c.isDigit = true) (fits : Nat.ofDigitChars 10 ds 0 < 2 ^ bits) :
    readInt bits ds = .ok (Nat.ofDigitChars 10 ds 0 : Int) := by
  have read := readDigits_eq .tooLarge digits (Nat.le_sub_one_of_lt fits)
  cases ds with
  | nil => exact absurd rfl nonempty
  | cons c ds =>
    have digit := digits c (.head _)
    have unsigned : c ≠ '+' ∧ c ≠ '-' := by
      constructor <;> rintro rfl <;> exact absurd digit (by decide)
    rw [readInt]
    · rw [Nat.pow_eq, read]
      rfl
    all_goals simp [unsigned]

/-- Digits behind a minus sign are read as a number below zero. -/
theorem readInt_minus_digits {bits : Nat} {ds : List Char} (nonempty : ds ≠ [])
    (digits : ∀ c ∈ ds, c.isDigit = true) (fits : Nat.ofDigitChars 10 ds 0 ≤ 2 ^ bits) :
    readInt bits ('-' :: ds) = .ok (-Nat.ofDigitChars 10 ds 0 : Int) := by
  have read := readDigits_eq .tooSmall digits fits
  rw [readInt]
  · rw [Nat.pow_eq, read]
    rfl
  · simpa using nonempty

theorem toList_int64Text (n : Int64) :
    (int64Text n).toList =
      if 0 ≤ n.toInt then Nat.toDigits 10 n.toInt.toNat
      else '-' :: Nat.toDigits 10 (-n.toInt).toNat := by
  change n.toInt.repr.toList = _
  rw [Int.repr_eq_if]
  split
  · rw [Nat.toList_repr]
  · rw [String.toList_append, Nat.toList_repr]
    rfl

/-- A signed number of 64 bits is written with digits, and a minus sign. -/
theorem isDigit_of_mem_int64Text {n : Int64} {c : Char} (member : c ∈ (int64Text n).toList) :
    c.isDigit = true ∨ c = '-' := by
  have digit {k : Nat} (member : c ∈ Nat.toDigits 10 k) : c.isDigit = true :=
    Nat.isDigit_of_mem_toDigits (by decide) (by decide) member
  rw [toList_int64Text] at member
  split at member
  · exact .inl (digit member)
  · obtain rfl | member := List.mem_cons.1 member
    · exact .inr rfl
    · exact .inl (digit member)

/-- A number that is not below zero is written with digits alone. -/
theorem isDigit_of_mem_int64Text_of_nonneg {n : Int64} (nonneg : 0 ≤ n.toInt) {c : Char}
    (member : c ∈ (int64Text n).toList) : c.isDigit = true := by
  rw [toList_int64Text, if_pos nonneg] at member
  exact Nat.isDigit_of_mem_toDigits (by decide) (by decide) member

theorem trim_int64Text (n : Int64) : trim (int64Text n).toList = (int64Text n).toList := by
  refine trimMatches_of_none fun c member => ?_
  obtain digit | rfl := isDigit_of_mem_int64Text member
  · exact not_isBlank_of_isDigit digit
  · rfl

/-- A signed number of 64 bits is read as it is written. -/
theorem readInt64_int64Text (n : Int64) : readInt64 (int64Text n).toList = .ok n := by
  have low := n.le_toInt
  have high := n.toInt_lt
  have digits (k : Nat) : ∀ c ∈ Nat.toDigits 10 k, c.isDigit = true :=
    fun _ member => Nat.isDigit_of_mem_toDigits (by decide) (by decide) member
  have value (k : Nat) : Nat.ofDigitChars 10 (Nat.toDigits 10 k) 0 = k :=
    Nat.ofDigitChars_ten_toDigits
  rw [readInt64, toList_int64Text]
  split
  · rename_i nonneg
    have fits : Nat.ofDigitChars 10 (Nat.toDigits 10 n.toInt.toNat) 0 < 2 ^ 63 := by
      rw [value]
      omega
    rw [readInt_digits Nat.toDigits_ne_nil (digits _) fits, value, Int.toNat_of_nonneg nonneg]
    exact congrArg Except.ok n.ofInt_toInt
  · rename_i negative
    have fits : Nat.ofDigitChars 10 (Nat.toDigits 10 (-n.toInt).toNat) 0 ≤ 2 ^ 63 := by
      rw [value]
      omega
    have back : -((-n.toInt).toNat : Int) = n.toInt := by omega
    rw [readInt_minus_digits Nat.toDigits_ne_nil (digits _) fits, value, back]
    exact congrArg Except.ok n.ofInt_toInt

/-! ## What is read as a signed number -/

/-- The text is a decimal number: one digit at least, and perhaps a sign in front. -/
inductive IsNumeral : List Char → Int → Prop
  | unsigned {ds : List Char} (some_ : ds ≠ []) (digits : ∀ c ∈ ds, c.isDigit = true) :
    IsNumeral ds (Nat.ofDigitChars 10 ds 0)
  | plus {ds : List Char} (some_ : ds ≠ []) (digits : ∀ c ∈ ds, c.isDigit = true) :
    IsNumeral ('+' :: ds) (Nat.ofDigitChars 10 ds 0)
  | minus {ds : List Char} (some_ : ds ≠ []) (digits : ∀ c ∈ ds, c.isDigit = true) :
    IsNumeral ('-' :: ds) (-Nat.ofDigitChars 10 ds 0)

theorem exceptMap_eq_ok_iff {ε α β : Type} {f : α → β} {x : Except ε α} {b : β} :
    x.map f = .ok b ↔ ∃ a, x = .ok a ∧ f a = b := by
  cases x <;> simp [Except.map]

/-- Just the numbers within the range are read. -/
theorem readInt_eq_ok_iff {bits : Nat} {cs : List Char} {k : Int} :
    readInt bits cs = .ok k ↔ IsNumeral cs k ∧ -2 ^ bits ≤ k ∧ k < 2 ^ bits := by
  have positive : 0 < 2 ^ bits := Nat.two_pow_pos bits
  have cast : ((2 ^ bits : Nat) : Int) = 2 ^ bits := by norm_cast
  constructor
  · intro read
    unfold readInt at read
    simp only [Nat.pow_eq] at read
    split at read
    · cases read
    · cases read
    · cases read
    · rename_i ds _ some_
      obtain ⟨n, run, rfl⟩ := exceptMap_eq_ok_iff.1 read
      obtain ⟨digits, rfl, fits⟩ := (readDigits_eq_ok_iff (Nat.zero_le _)).1 run
      exact ⟨.plus (by simpa using some_) digits, by simp only [Int.ofNat_eq_natCast]; omega⟩
    · rename_i ds _ some_
      obtain ⟨n, run, rfl⟩ := exceptMap_eq_ok_iff.1 read
      obtain ⟨digits, rfl, fits⟩ := (readDigits_eq_ok_iff (Nat.zero_le _)).1 run
      exact ⟨.minus (by simpa using some_) digits, by simp only [Int.ofNat_eq_natCast]; omega⟩
    · rename_i some_ _ _ _ _
      obtain ⟨n, run, rfl⟩ := exceptMap_eq_ok_iff.1 read
      obtain ⟨digits, rfl, fits⟩ := (readDigits_eq_ok_iff (Nat.zero_le _)).1 run
      exact ⟨.unsigned some_ digits, by simp only [Int.ofNat_eq_natCast]; omega⟩
  · rintro ⟨numeral, low, high⟩
    cases numeral with
    | unsigned some_ digits => exact readInt_digits some_ digits (by omega)
    | @plus ds some_ digits =>
      have fits : Nat.ofDigitChars 10 ds 0 ≤ Nat.pow 2 bits - 1 := by
        rw [Nat.pow_eq]
        omega
      rw [readInt, readDigits_eq .tooLarge digits fits]
      · rfl
      · simpa using some_
    | minus some_ digits => exact readInt_minus_digits some_ digits (by omega)

/-- Just the numbers of 64 bits are read. -/
theorem readInt64_eq_ok_iff {cs : List Char} {n : Int64} :
    readInt64 cs = .ok n ↔ IsNumeral cs n.toInt := by
  rw [readInt64, exceptMap_eq_ok_iff]
  constructor
  · rintro ⟨k, read, rfl⟩
    obtain ⟨numeral, low, high⟩ := readInt_eq_ok_iff.1 read
    rwa [Int64.toInt_ofInt_of_le low (by simpa using high)]
  · intro numeral
    exact ⟨n.toInt, readInt_eq_ok_iff.2 ⟨numeral, n.le_toInt, n.toInt_lt⟩, n.ofInt_toInt⟩

end ReplicaSeed.Text
