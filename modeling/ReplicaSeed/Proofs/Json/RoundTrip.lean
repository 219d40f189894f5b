import Mathlib.Data.List.Basic
import ReplicaSeed.Json.Reader

/-!
# Values that are written are read

The text of a JSON value is read as the value, for all values that the agent writes: those whose
numbers fit into 64 bits. Strings may hold any characters.

## Main definitions

* `Json.Readable`: the values that are read as they are written.
* `Json.EndsNumber`: text that does not go on with a number.

## Main statements

* `Json.stringParts_escape`: a string is read, whatever follows its closing quote.
* `Json.number_digits`: so is a number, if it ends.
* `Json.ofText?_text`: so is a value.
-/

namespace ReplicaSeed.Json

/-! ## Strings -/

/-- The part of a string that the text of a character is read as. -/
def partOf (c : Char) : StringPart :=
  if c.toNat < 32 ∧ c ∉ ['\n', '\r', '\t', '\x08', '\x0c'] then .unit c.toNat else .char c

theorem hexValue4?_hexDigit :
    ∀ n < 32, hexValue4? '0' '0' (hexDigit (n / 16)) (hexDigit n) = some n := by
  decide

theorem stringParts_escape_append (c : Char) (rest : List Char) :
    stringParts (escape c ++ rest) =
      (stringParts rest).map fun (ps, r) => (partOf c :: ps, r) := by
  have known (d : Char) (special : d ∈ ['"', '\\', '\n', '\r', '\t', '\x08', '\x0c']) :
      stringParts (escape d ++ rest) =
        (stringParts rest).map fun (ps, r) => (partOf d :: ps, r) := by
    simp only [List.mem_cons, List.not_mem_nil, or_false] at special
    obtain rfl | rfl | rfl | rfl | rfl | rfl | rfl := special <;>
      simp [escape, stringParts, simpleEscape?, partOf]
  by_cases special : c ∈ ['"', '\\', '\n', '\r', '\t', '\x08', '\x0c']
  · exact known c special
  simp only [List.mem_cons, List.not_mem_nil, or_false, not_or] at special
  by_cases control : c.toNat < 32
  · have value := hexValue4?_hexDigit c.toNat control
    simp [escape, stringParts, partOf, special, control, value]
  · simp [escape, stringParts, partOf, special, control]

/-- A string is read, whatever follows its closing quote. -/
theorem stringParts_escape (cs rest : List Char) :
    stringParts (cs.flatMap escape ++ '"' :: rest) = some (cs.map partOf, rest) := by
  induction cs with
  | nil => simp [stringParts]
  | cons c cs ih =>
    rw [List.flatMap_cons, List.append_assoc, stringParts_escape_append, ih]
    rfl

theorem joinParts_partOf (cs : List Char) : joinParts (cs.map partOf) = some cs := by
  induction cs with
  | nil => rfl
  | cons c cs ih =>
    rw [List.map_cons, partOf]
    split
    · rename_i control
      have low : ¬ 0xd800 ≤ c.toNat := by omega
      have low' : ¬ 0xdc00 ≤ c.toNat := by omega
      rw [joinParts.eq_def]
      simp [low, low', ih, Char.ofNat_toNat]
    · simp [joinParts, ih]

/-! ## Numbers -/

/-- The text does not go on with a number. -/
def EndsNumber (rest : List Char) : Prop :=
  ∀ c ∈ rest.head?, c.isDigit = false ∧ c ≠ '.' ∧ c ≠ 'e' ∧ c ≠ 'E'

theorem toDigits_eq_cons {n : Nat} (positive : 0 < n) :
    ∃ c cs, Nat.toDigits 10 n = c :: cs ∧ c ≠ '0' := by
  induction n using Nat.strongRecOn with
  | ind n ih =>
    rw [Nat.toDigits_eq_if (by decide)]
    split
    · rename_i small
      have nonzero : ∀ n < 10, 0 < n → n.digitChar ≠ '0' := by decide
      exact ⟨_, [], rfl, nonzero n small positive⟩
    · rename_i large
      obtain ⟨c, cs, digits, nonzero⟩ := ih (n / 10) (by omega) (by omega)
      exact ⟨c, cs ++ _, by rw [digits]; rfl, nonzero⟩

theorem digitRun_append {ds rest : List Char} (digits : ∀ c ∈ ds, c.isDigit = true)
    (ends : EndsNumber rest) : digitRun (ds ++ rest) = (ds, rest) := by
  have none : rest.takeWhile Char.isDigit = [] ∧ rest.dropWhile Char.isDigit = rest := by
    cases rest with
    | nil => exact ⟨rfl, rfl⟩
    | cons c rest => simp [(ends c rfl).1]
  rw [digitRun, List.takeWhile_append_of_pos digits, List.dropWhile_append_of_pos digits, none.1,
    none.2, List.append_nil]

theorem isDigit_toDigits (n : Nat) : ∀ c ∈ Nat.toDigits 10 n, c.isDigit = true :=
  fun _ member => Nat.isDigit_of_mem_toDigits (by decide) (by decide) member

section

variable (n : Nat) {rest : List Char} (ends : EndsNumber rest)

include ends

theorem wholePart_digits :
    wholePart (Nat.toDigits 10 n ++ rest) = some (Nat.toDigits 10 n, rest) := by
  rcases Nat.eq_zero_or_pos n with rfl | positive
  · have stops : ((rest.head?.map Char.isDigit).getD false) = false := by
      cases rest with
      | nil => rfl
      | cons c rest => exact (ends c rfl).1
    change wholePart ('0' :: rest) = some (['0'], rest)
    simp [wholePart, stops]
  · obtain ⟨c, cs, digits, nonzero⟩ := toDigits_eq_cons positive
    have run := digitRun_append (isDigit_toDigits n) ends
    rw [digits, List.cons_append] at run ⊢
    simp [wholePart, nonzero, run]

theorem skipFraction_of_ends : skipFraction rest = some (false, rest) := by
  cases rest with
  | nil => rfl
  | cons c rest => simp [skipFraction, (ends c rfl).2.1]

theorem skipExponent_of_ends : skipExponent rest = some (false, rest) := by
  cases rest with
  | nil => rfl
  | cons c rest => simp [skipExponent, (ends c rfl).2.2.1, (ends c rfl).2.2.2]

/-- Digits are read as a number, unless it goes on. -/
theorem number_digits :
    number (Nat.toDigits 10 n ++ rest) =
      some (numberValue false true (Nat.toDigits 10 n), rest) := by
  have whole := wholePart_digits n ends
  obtain ⟨c, cs, digits⟩ := List.exists_cons_of_ne_nil (Nat.toDigits_ne_nil (n := n) (b := 10))
  have notMinus : c ≠ '-' := by
    rintro rfl
    exact absurd (isDigit_toDigits n '-' (by simp [digits])) (by decide)
  rw [digits, List.cons_append] at whole ⊢
  simp [number, notMinus, whole, skipFraction_of_ends ends, skipExponent_of_ends ends]

theorem number_minus_digits :
    number ('-' :: Nat.toDigits 10 n ++ rest) =
      some (numberValue true true (Nat.toDigits 10 n), rest) := by
  simp [number, wholePart_digits n ends, skipFraction_of_ends ends, skipExponent_of_ends ends]

end

theorem digitsValue (n : Nat) :
    (Nat.toDigits 10 n).foldl (fun n c => n * 10 + (c.toNat - 48)) 0 = n := by
  have value : Nat.ofDigitChars 10 (Nat.toDigits 10 n) 0 = n :=
    Nat.ofDigitChars_toDigits (by decide) (by decide)
  simp only [Nat.ofDigitChars_eq_foldl, Nat.mul_comm 10] at value
  exact value

/-- An integer that fits into 64 bits, with a sign or without. -/
def Fits (n : Int) : Prop := -9223372036854775808 ≤ n ∧ n ≤ 18446744073709551615

/-- An integer is read, unless its number goes on. -/
theorem number_toString {n : Int} (fits : Fits n) {rest : List Char} (ends : EndsNumber rest) :
    number ((toString n).toList ++ rest) = some (int n, rest) := by
  obtain ⟨low, high⟩ := fits
  change number (n.repr.toList ++ rest) = _
  rw [Int.repr_eq_if]
  split
  · rename_i positive
    have fits : ¬ 18446744073709551615 < n.toNat := by omega
    rw [Nat.toList_repr, number_digits _ ends, numberValue, digitsValue]
    simp only [Bool.not_true, Bool.false_eq_true, if_false, if_neg fits,
      Int.toNat_of_nonneg positive]
  · rename_i negative
    have fits : ¬ ((-n).toNat = 0 ∨ 9223372036854775808 < (-n).toNat) := by omega
    have back : -((-n).toNat : Int) = n := by omega
    rw [String.toList_append, Nat.toList_repr]
    change number ('-' :: Nat.toDigits 10 (-n).toNat ++ rest) = _
    rw [number_minus_digits _ ends, numberValue, digitsValue]
    simp only [Bool.not_true, Bool.false_eq_true, if_false, if_true, if_neg fits, back]

/-! ## Values -/

/-- The values that are read as they are written. -/
inductive Readable : Json → Prop
  | null : Readable null
  | bool (b : Bool) : Readable (bool b)
  | int {n : Int} (fits : Fits n) : Readable (int n)
  | str (s : String) : Readable (str s)
  | arr {vs : List Json} (all : ∀ v ∈ vs, Readable v) : Readable (arr vs)
  | obj {ms : List (String × Json)} (all : ∀ m ∈ ms, Readable m.2) : Readable (obj ms)

/-- The value is read wherever its text stands and nothing goes on with a number after it. -/
def ReadsBack (v : Json) : Prop :=
  ∀ fuel rest, EndsNumber rest → 2 * v.text.toList.length ≤ fuel →
    value fuel (v.text.toList ++ rest) = some (v, rest)

theorem itemTexts_eq (vs : List Json) : itemTexts vs = vs.map text := by
  induction vs with
  | nil => rfl
  | cons v vs ih => rw [itemTexts, ih, List.map_cons]

theorem memberTexts_eq (ms : List (String × Json)) :
    memberTexts ms = ms.map fun (key, v) => stringText key ++ ":" ++ v.text := by
  induction ms with
  | nil => rfl
  | cons m ms ih => rw [memberTexts, ih, List.map_cons]

theorem toList_stringText (s : String) :
    (stringText s).toList = '"' :: s.toList.flatMap escape ++ ['"'] := by
  simp [stringText]

theorem endsNumber_nil : EndsNumber [] := nofun

theorem endsNumber_cons {c : Char} (stop : c ∈ [',', ']', '\x7d']) (rest : List Char) :
    EndsNumber (c :: rest) := by
  rintro _ ⟨⟩
  simp only [List.mem_cons, List.not_mem_nil, or_false] at stop
  obtain rfl | rfl | rfl := stop <;> decide

theorem ReadsBack.of_succ {v : Json} (nonempty : v.text.toList ≠ [])
    (h : ∀ fuel rest, EndsNumber rest → 2 * v.text.toList.length ≤ fuel + 1 →
      value (fuel + 1) (v.text.toList ++ rest) = some (v, rest)) : ReadsBack v := by
  rintro (_ | fuel) rest ends enough
  · exact absurd (List.length_eq_zero_iff.1 (by omega)) nonempty
  · exact h fuel rest ends enough

theorem readsBack_null : ReadsBack null :=
  .of_succ (by simp [text]) fun fuel rest _ _ => by
    simp [text, value, skipSpace, isSpace, Text.stripStart?]

theorem readsBack_bool (b : Bool) : ReadsBack (bool b) := by
  cases b <;> exact .of_succ (by simp [text]) fun fuel rest _ _ => by
    simp [text, value, skipSpace, isSpace, Text.stripStart?]

theorem readsBack_str (s : String) : ReadsBack (str s) :=
  .of_succ (by simp [text, toList_stringText]) fun fuel rest _ _ => by
    rw [text, toList_stringText]
    simp [value, skipSpace, isSpace, stringParts_escape, stringValue, joinParts_partOf]

/-- What begins a number differs from characters that do not. -/
theorem ne_of_startsNumber {c : Char} (starts : c.isDigit = true ∨ c = '-') {ds : List Char}
    (others : ds.all fun d => !(d.isDigit || d == '-')) : ∀ d ∈ ds, c ≠ d := by
  rintro d member rfl
  have other := List.all_eq_true.1 others c member
  obtain digit | rfl := starts
  · simp [digit] at other
  · simp at other

/-- What begins like a number is read as one. -/
theorem value_of_number {c : Char} (starts : c.isDigit = true ∨ c = '-') (fuel : Nat)
    (cs : List Char) : value (fuel + 1) (c :: cs) = number (c :: cs) := by
  have other : ∀ d ∈ [' ', '\n', '\t', '\r', '"', '[', '\x7b', 'n', 't', 'f'], c ≠ d ∧ d ≠ c :=
    fun d member =>
      have differs := ne_of_startsNumber starts (by decide) d member
      ⟨differs, differs.symm⟩
  simp only [List.forall_mem_cons] at other
  simp [value, skipSpace, isSpace, Text.stripStart?, other]

theorem toString_eq_cons (n : Int) :
    ∃ c cs, (toString n).toList = c :: cs ∧ (c.isDigit = true ∨ c = '-') := by
  change ∃ c cs, n.repr.toList = c :: cs ∧ _
  rw [Int.repr_eq_if]
  split
  · obtain ⟨c, cs, digits⟩ :=
      List.exists_cons_of_ne_nil (Nat.toDigits_ne_nil (n := n.toNat) (b := 10))
    rw [Nat.toList_repr, digits]
    exact ⟨c, cs, rfl, .inl (isDigit_toDigits n.toNat c (by simp [digits]))⟩
  · exact ⟨'-', _, by rw [String.toList_append]; rfl, .inr rfl⟩

theorem readsBack_int {n : Int} (fits : Fits n) : ReadsBack (int n) := by
  obtain ⟨c, cs, chars, starts⟩ := toString_eq_cons n
  refine .of_succ (by rw [text, chars]; exact nofun) fun fuel rest ends _ => ?_
  have read := number_toString fits ends
  rw [text]
  rw [chars, List.cons_append] at read ⊢
  rw [value_of_number starts, read]

/-- The texts of the items of an array, with commas between them. -/
def itemChars (vs : List Json) : List Char := [','].intercalate (vs.map fun v => v.text.toList)

/-- The texts of the members of an object, with commas between them. -/
def memberChars (ms : List (String × Json)) : List Char :=
  [','].intercalate (ms.map fun (key, v) => (stringText key).toList ++ ':' :: v.text.toList)

theorem toList_text_arr (vs : List Json) :
    (arr vs).text.toList = '[' :: itemChars vs ++ [']'] := by
  simp [text, itemTexts_eq, itemChars, Function.comp_def]

theorem toList_text_obj (ms : List (String × Json)) :
    (obj ms).text.toList = '\x7b' :: memberChars ms ++ ['\x7d'] := by
  simp [text, memberTexts_eq, memberChars, Function.comp_def]

/-- No text of a value begins with a blank or closes a bracket. -/
theorem text_eq_cons (v : Json) :
    ∃ c cs, v.text.toList = c :: cs ∧ isSpace c = false ∧ c ≠ ']' := by
  cases v with
  | null => exact ⟨'n', _, rfl, by decide, by decide⟩
  | bool b => cases b <;> exact ⟨_, _, rfl, by decide, by decide⟩
  | int n =>
    obtain ⟨c, cs, chars, starts⟩ := toString_eq_cons n
    have other : ∀ d ∈ [' ', '\n', '\t', '\r', ']'], c ≠ d :=
      ne_of_startsNumber starts (by decide)
    simp only [List.forall_mem_cons] at other
    exact ⟨c, cs, chars, by simp [isSpace, other], other.2.2.2.2.1⟩
  | str s => exact ⟨'"', _, toList_stringText s, by decide, by decide⟩
  | arr vs => exact ⟨'[', _, toList_text_arr vs, by decide, by decide⟩
  | obj ms => exact ⟨'\x7b', _, toList_text_obj ms, by decide, by decide⟩
  | other => exact ⟨'0', _, rfl, by decide, by decide⟩

theorem items_readsBack {vs : List Json} (nonempty : vs ≠ []) (all : ∀ v ∈ vs, ReadsBack v)
    (fuel : Nat) (rest : List Char) (enough : 2 * (itemChars vs).length < fuel) :
    items fuel (itemChars vs ++ ']' :: rest) = some (vs, rest) := by
  induction vs generalizing fuel with
  | nil => exact absurd rfl nonempty
  | cons v vs ih =>
    obtain ⟨fuel, rfl⟩ : ∃ f, fuel = f + 1 := ⟨fuel - 1, by omega⟩
    cases vs with
    | nil =>
      have chars : itemChars [v] = v.text.toList := List.intercalate_singleton
      rw [chars] at enough ⊢
      have read := all v (.head _) fuel (']' :: rest) (endsNumber_cons (by decide) _) (by omega)
      simp [items, read, skipSpace, isSpace]
    | cons w vs =>
      have chars : itemChars (v :: w :: vs) = v.text.toList ++ ',' :: itemChars (w :: vs) := by
        simp [itemChars, List.intercalate_cons_cons]
      rw [chars, List.length_append, List.length_cons] at enough
      have read := all v (.head _) fuel (',' :: (itemChars (w :: vs) ++ ']' :: rest))
        (endsNumber_cons (by decide) _) (by omega)
      have more := ih (by simp) (fun u member => all u (.tail _ member)) fuel (by omega)
      rw [chars, List.append_assoc, List.cons_append]
      simp [items, read, skipSpace, isSpace, more]

theorem skipSpace_cons {c : Char} (solid : isSpace c = false) (cs : List Char) :
    skipSpace (c :: cs) = c :: cs := by
  simp [skipSpace, solid]

theorem readsBack_arr {vs : List Json} (all : ∀ v ∈ vs, ReadsBack v) : ReadsBack (arr vs) := by
  refine .of_succ (by rw [toList_text_arr]; exact nofun) fun fuel rest ends enough => ?_
  rw [toList_text_arr] at enough ⊢
  cases vs with
  | nil => simp [itemChars, List.intercalate, value, skipSpace, isSpace]
  | cons v vs =>
    simp only [List.length_append, List.length_cons] at enough
    have read := items_readsBack (by simp) all fuel rest (by omega)
    obtain ⟨c, cs, chars, solid, opens⟩ := text_eq_cons v
    obtain ⟨ds, starts⟩ : ∃ ds, itemChars (v :: vs) = c :: ds := by
      cases vs <;> simp [itemChars, List.intercalate, chars]
    rw [starts] at read ⊢
    simp only [List.cons_append, List.append_assoc, List.nil_append] at read ⊢
    simp [value, skipSpace_cons (show isSpace '[' = false by decide), skipSpace_cons solid, opens,
      read]

theorem members_readsBack {ms : List (String × Json)} (nonempty : ms ≠ [])
    (all : ∀ m ∈ ms, ReadsBack m.2) (fuel : Nat) (rest : List Char)
    (enough : 2 * (memberChars ms).length < fuel) :
    members fuel (memberChars ms ++ '\x7d' :: rest) =
      some (ms.map fun m => (some m.1, m.2), rest) := by
  induction ms generalizing fuel with
  | nil => exact absurd rfl nonempty
  | cons m ms ih =>
    obtain ⟨key, v⟩ := m
    obtain ⟨fuel, rfl⟩ : ∃ f, fuel = f + 1 := ⟨fuel - 1, by omega⟩
    have readsBack : ReadsBack v := all (key, v) (.head _)
    cases ms with
    | nil =>
      have chars : memberChars [(key, v)] = (stringText key).toList ++ ':' :: v.text.toList :=
        List.intercalate_singleton
      rw [chars, List.length_append, List.length_cons] at enough
      have read := readsBack fuel ('\x7d' :: rest) (endsNumber_cons (by decide) _) (by omega)
      rw [chars, toList_stringText]
      simp [members, skipSpace, isSpace, stringParts_escape, joinParts_partOf, read]
    | cons m' ms =>
      have chars : memberChars ((key, v) :: m' :: ms) =
          (stringText key).toList ++ ':' :: (v.text.toList ++ ',' :: memberChars (m' :: ms)) := by
        simp [memberChars, List.intercalate_cons_cons]
      rw [chars] at enough
      simp only [List.length_append, List.length_cons] at enough
      have read := readsBack fuel (',' :: (memberChars (m' :: ms) ++ '\x7d' :: rest))
        (endsNumber_cons (by decide) _) (by omega)
      have more := ih (by simp) (fun m member => all m (.tail _ member)) fuel (by omega)
      rw [chars, toList_stringText]
      simp [members, skipSpace, isSpace, stringParts_escape, joinParts_partOf, read, more]

/-- Where every step succeeds, so do all of them. -/
theorem mapM_eq_some {α β : Type} {f : α → Option β} {g : α → β} {as : List α}
    (each : ∀ a ∈ as, f a = some (g a)) : as.mapM f = some (as.map g) := by
  induction as with
  | nil => rfl
  | cons a as ih =>
    obtain ⟨first, others⟩ := List.forall_mem_cons.1 each
    simp [List.mapM_cons, first, ih others]

theorem objectValue_some (ms : List (String × Json)) :
    objectValue (ms.map fun m => (some m.1, m.2)) = obj ms := by
  have all : (ms.map fun m => (some m.1, m.2)).mapM
      (fun (m : Option String × Json) => m.1.map fun key => (key, m.2)) = some ms := by
    rw [List.mapM_map]
    exact (mapM_eq_some (g := id) fun m _ => rfl).trans (by rw [List.map_id])
  unfold objectValue
  split
  · next read same => exact congrArg obj (Option.some.inj (same.symm.trans all))
  · next absent => exact absurd (absent.symm.trans all) (by simp)

theorem readsBack_obj {ms : List (String × Json)} (all : ∀ m ∈ ms, ReadsBack m.2) :
    ReadsBack (obj ms) := by
  refine .of_succ (by rw [toList_text_obj]; exact nofun) fun fuel rest ends enough => ?_
  rw [toList_text_obj] at enough ⊢
  cases ms with
  | nil => simp [memberChars, List.intercalate, value, skipSpace, isSpace]
  | cons m ms =>
    simp only [List.length_append, List.length_cons] at enough
    have read := members_readsBack (by simp) all fuel rest (by omega)
    obtain ⟨ds, starts⟩ : ∃ ds, memberChars (m :: ms) = '"' :: ds := by
      cases ms <;> simp [memberChars, List.intercalate, toList_stringText]
    rw [starts] at read ⊢
    simp only [List.cons_append, List.append_assoc, List.nil_append] at read ⊢
    simpa [value, skipSpace, isSpace, read] using objectValue_some (m :: ms)

/-- Readable values are read wherever they are written. -/
theorem Readable.readsBack {v : Json} (h : Readable v) : ReadsBack v := by
  induction h with
  | null => exact readsBack_null
  | bool b => exact readsBack_bool b
  | int fits => exact readsBack_int fits
  | str s => exact readsBack_str s
  | arr _ ih => exact readsBack_arr ih
  | obj _ ih => exact readsBack_obj ih

/-- The text of a value is read as the value. -/
theorem ofText?_text {v : Json} (h : Readable v) : ofText? v.text = some v := by
  have read := h.readsBack (2 * v.text.toList.length + 1) [] endsNumber_nil (by omega)
  rw [List.append_nil] at read
  refine (congrArg (Option.bind · _) read).trans ?_
  rfl

end ReplicaSeed.Json
