import Mathlib.Control.Basic
import Mathlib.Data.Option.Basic
import ReplicaSeed.Proofs.Text.Numeral
import ReplicaSeed.Proofs.Time.Calendar
import ReplicaSeed.Time.Instant

/-!
# Instants that are written are read

The text of an instant is read as the instant, in the years that are written with four digits and to
the nanosecond. A leap second is not among them: its text names a second that the clock does not
have.

## Main definitions

* `Instant.Ordinary`: the instants in question.

## Main statements

* `Instant.number_paddedDigits`: digits are read as the number that they were written for.
* `Instant.fraction_subsecondText`: so are nanoseconds, with any number of places.
* `Instant.ofText?_text`: so is an instant.
-/

namespace ReplicaSeed

namespace Span

theorem isDigit_paddedDigits (width n : Nat) : ∀ c ∈ paddedDigits width n, c.isDigit = true := by
  intro c member
  obtain zero | digit := List.mem_append.1 member
  · rw [List.eq_of_mem_replicate zero]
    rfl
  · exact Nat.isDigit_of_mem_toDigits (by decide) (by decide) digit

theorem paddedDigits_ne_nil (width n : Nat) : paddedDigits width n ≠ [] :=
  List.append_ne_nil_of_right_ne_nil _ Nat.toDigits_ne_nil

theorem paddedDigits_eq_cons (width n : Nat) :
    ∃ c cs, paddedDigits width n = c :: cs ∧ c.isDigit = true := by
  obtain ⟨c, cs, digits⟩ := List.exists_cons_of_ne_nil (paddedDigits_ne_nil width n)
  exact ⟨c, cs, digits, isDigit_paddedDigits width n c (by simp [digits])⟩

theorem length_paddedDigits {width n : Nat} (positive : 0 < width) (fits : n < 10 ^ width) :
    (paddedDigits width n).length = width := by
  have short := (Nat.length_toDigits_le_iff (b := 10) (by decide) positive).2 fits
  simp only [paddedDigits, List.length_append, List.length_replicate]
  omega

theorem ofDigitChars_paddedDigits (width n : Nat) :
    Nat.ofDigitChars 10 (paddedDigits width n) 0 = n := by
  rw [paddedDigits, Nat.ofDigitChars_append, Nat.ofDigitChars_replicate_zero, Nat.mul_zero,
    Nat.ofDigitChars_ten_toDigits]

end Span

namespace Instant

/-! ## The parts of an instant -/

theorem trimStart_paddedDigits (width n : Nat) (rest : List Char) :
    Text.trimStart (Span.paddedDigits width n ++ rest) = Span.paddedDigits width n ++ rest := by
  obtain ⟨c, cs, digits, digit⟩ := Span.paddedDigits_eq_cons width n
  rw [digits, Text.trimStart, List.cons_append,
    List.dropWhile_cons_of_neg (by simp [Text.not_isBlank_of_isDigit digit])]

section

variable {width n : Nat} (rest : List Char)

/-- Digits are read as the number that they were written for, whatever follows them. -/
theorem number_paddedDigits (positive : 0 < width) (fits : n < 10 ^ width)
    (small : n ≤ 9223372036854775807) :
    number (some width) (Span.paddedDigits width n ++ rest) = some (n, rest) := by
  have length := Span.length_paddedDigits positive fits
  have all := Span.isDigit_paddedDigits width n
  have value := Span.ofDigitChars_paddedDigits width n
  have nonempty := Span.paddedDigits_ne_nil width n
  generalize Span.paddedDigits width n = ds at *
  have run := Text.takeWhile_digits all rest
  have read := Text.readNat_eq 9223372036854775807 nonempty all (by omega)
  simp only [number, run, ← length, List.take_left, List.drop_left, read, value]
  simp [nonempty]

/-- A part of the date or of the time is read as it was written. -/
theorem field_paddedDigits {lo hi : Nat} (bounds : lo ≤ n ∧ n ≤ hi) (fits : n < 100) :
    field lo hi (Span.paddedDigits 2 n ++ rest) = some (n, rest) := by
  have trimmed := trimStart_paddedDigits 2 n rest
  have read := number_paddedDigits rest (by decide : 0 < 2) fits (by omega)
  simp [field, trimmed, read, bounds, guard]

theorem year_paddedDigits (fits : n < 10000) :
    year (Span.paddedDigits 4 n ++ rest) = some ((n : Int), rest) := by
  have trimmed := trimStart_paddedDigits 4 n rest
  have read := number_paddedDigits rest (by decide : 0 < 4) fits (by omega)
  obtain ⟨c, cs, digits, digit⟩ := Span.paddedDigits_eq_cons 4 n
  have unsigned : c ≠ '-' ∧ c ≠ '+' := by
    constructor <;> rintro rfl <;> exact absurd digit (by decide)
  rw [year, trimmed]
  rw [digits, List.cons_append] at read ⊢
  simp [unsigned, read]

theorem separator_cons {c : Char} (solid : Text.isBlank c = false) :
    separator c (c :: rest) = some rest := by
  have trimmed : Text.trimStart (c :: rest) = c :: rest := by
    rw [Text.trimStart, List.dropWhile_cons_of_neg (by simp [solid])]
  rw [separator, trimmed]
  exact Text.stripStart?_eq_some_iff.2 rfl

/-- The places of a fraction are read with their weight. -/
theorem fraction_paddedDigits (positive : 0 < width) (short : width ≤ 9) (fits : n < 10 ^ width)
    (ends : ∀ c ∈ rest.head?, c.isDigit = false) :
    fraction ('.' :: (Span.paddedDigits width n ++ rest)) = some (n * 10 ^ (9 - width), rest) := by
  have length := Span.length_paddedDigits positive fits
  have all := Span.isDigit_paddedDigits width n
  have value := Span.ofDigitChars_paddedDigits width n
  have nonempty := Span.paddedDigits_ne_nil width n
  generalize Span.paddedDigits width n = ds at *
  have run : (ds ++ rest).takeWhile (fun c => (Text.digit? c).isSome) = ds := by
    have stop : rest.takeWhile (fun c => (Text.digit? c).isSome) = [] := by
      cases rest with
      | nil => rfl
      | cons c rest =>
        have other := (Text.isSome_digit? c).trans (ends c rfl)
        rw [List.takeWhile_cons_of_neg (by simp [other])]
    rw [Text.takeWhile_digits all, stop, List.append_nil]
  have most : 10 ^ width ≤ 10 ^ 9 := Nat.pow_le_pow_right (by decide) short
  have read := Text.readNat_eq 1000000000 nonempty all (by omega)
  have nine : ds.take 9 = ds := List.take_of_length_le (by omega)
  simp [fraction, run, nine, nonempty, read, value, length, guard, Except.toOption]

/-- Nanoseconds are read from as many places as they need. -/
theorem fraction_places (positive : 0 < width) (short : width ≤ 9) (fits : n < 10 ^ 9)
    (exact : n % 10 ^ (9 - width) = 0) (ends : ∀ c ∈ rest.head?, c.isDigit = false) :
    fraction
        (("." ++ String.ofList (Span.paddedDigits width (n / 10 ^ (9 - width)))).toList ++ rest) =
      some (n, rest) := by
  have whole : n / 10 ^ (9 - width) * 10 ^ (9 - width) = n :=
    Nat.div_mul_cancel (Nat.dvd_of_mod_eq_zero exact)
  have few : n / 10 ^ (9 - width) < 10 ^ width := by
    refine Nat.div_lt_of_lt_mul ?_
    rwa [← pow_add, Nat.sub_add_cancel short]
  have read := fraction_paddedDigits rest positive short few ends
  rw [whole] at read
  simpa using read

/-- Nanoseconds are read as they were written, with as many places as it took. -/
theorem fraction_subsecondText (fits : n < 1000000000)
    (ends : ∀ c ∈ rest.head?, c.isDigit = false ∧ c ≠ '.') :
    fraction ((subsecondText n).toList ++ rest) = some (n, rest) := by
  have stops : ∀ c ∈ rest.head?, c.isDigit = false := fun c member => (ends c member).1
  unfold subsecondText
  split
  · rename_i none
    rw [none]
    cases rest with
    | nil => rfl
    | cons c rest => simp [fraction, (ends c rfl).2]
  split
  · rename_i millis
    exact fraction_places rest (by decide : 0 < 3) (by decide) fits millis stops
  split
  · rename_i micros
    exact fraction_places rest (by decide : 0 < 6) (by decide) fits micros stops
  · have read := fraction_places (n := n) rest (by decide : 0 < 9) (by decide) fits (Nat.mod_one n)
      stops
    rwa [pow_zero, Nat.div_one] at read

end

/-! ## Whole instants -/

theorem yearText_eq {year : Int} (range : 0 ≤ year ∧ year ≤ 9999) :
    yearText year = String.ofList (Span.paddedDigits 4 year.toNat) := by
  have same : year.natAbs = year.toNat := by omega
  simp only [yearText, if_pos range, same]

/-- A date and a time of day in universal time are read as they were written. -/
theorem ofText?_of_parts {secs year : Int} {month day hour minute second nanos : Nat}
    (years : 0 ≤ year ∧ year ≤ 9999) (months : 1 ≤ month ∧ month ≤ 12)
    (days : 1 ≤ day ∧ day ≤ Calendar.daysInMonth year month) (hours : hour ≤ 23)
    (minutes : minute ≤ 59) (seconds : second ≤ 59) (subseconds : nanos < 1000000000)
    (sum : secs = Calendar.dayNumber year month day * 86400 +
      (hour * 3600 + minute * 60 : Nat) + second)
    (within : yearRange (Calendar.civilDate (secs.fdiv 86400)).1 = true) :
    ofText? (yearText year ++ "-" ++ twoDigits month ++ "-" ++ twoDigits day ++ "T" ++
        twoDigits hour ++ ":" ++ twoDigits minute ++ ":" ++ twoDigits second ++
        subsecondText nanos ++ "Z") = some ⟨secs, nanos⟩ := by
  have short := Calendar.daysInMonth_le year month
  have readYear := fun rest => year_paddedDigits rest (n := year.toNat) (by omega)
  have readMonth := fun rest => field_paddedDigits rest months (by omega)
  have readDay := fun rest =>
    field_paddedDigits rest (⟨days.1, by omega⟩ : 1 ≤ day ∧ day ≤ 31) (by omega)
  have readHour := fun rest => field_paddedDigits rest ⟨Nat.zero_le hour, hours⟩ (by omega)
  have readMinute := fun rest => field_paddedDigits rest ⟨Nat.zero_le minute, minutes⟩ (by omega)
  have readSecond := fun rest =>
    field_paddedDigits rest (⟨by omega, by omega⟩ : 0 ≤ second ∧ second ≤ 60) (by omega)
  have readNanos := fraction_subsecondText ['Z'] subseconds (by rintro _ ⟨⟩; decide)
  have dash := fun rest => separator_cons rest (c := '-') rfl
  have colon := fun rest => separator_cons rest (c := ':') rfl
  have universal : zone (Text.trimStart ['Z']) = some (0, []) := by decide
  have positive : ((year.toNat : Nat) : Int) = year := by omega
  have known : yearRange year = true := by
    simp only [yearRange, Bool.and_eq_true, decide_eq_true_eq]
    omega
  have ordinary : second ≠ 60 := by omega
  rw [yearText_eq years]
  simp only [ofText?, twoDigits, String.toList_append, String.toList_ofList, List.append_assoc,
    show "-".toList = ['-'] from rfl, show ":".toList = [':'] from rfl,
    show "T".toList = ['T'] from rfl, show "Z".toList = ['Z'] from rfl, List.cons_append,
    List.nil_append]
  dsimp only [Option.bind_eq_bind]
  -- `simp` would look into the rest of the reader at every part that is read.
  rw [readYear, Option.bind_some, dash, Option.bind_some, readMonth, Option.bind_some, dash,
    Option.bind_some, readDay, Option.bind_some]
  change Option.bind (some _) _ = _
  rw [Option.bind_some, readHour, Option.bind_some, colon, Option.bind_some, readMinute,
    Option.bind_some, colon, Option.bind_some, readSecond, Option.bind_some, readNanos,
    Option.bind_some, universal, Option.bind_some]
  simp only [positive, if_neg ordinary, Int.sub_zero, ← sum]
  simp [guard, known, days.2, within, Text.trimStart]

/-- The year of an instant. -/
def civilYear (t : Instant) : Int := (Calendar.civilDate (t.secs.fdiv 86400)).1

/-- The instant lies in a year that is written with four digits, and not in a leap second. -/
structure Ordinary (t : Instant) : Prop where
  year_range : 0 ≤ t.civilYear ∧ t.civilYear ≤ 9999
  nanos_lt : t.nanos < 1000000000

/-- An instant is read as it was written. -/
theorem ofText?_text {t : Instant} (ordinary : t.Ordinary) : ofText? t.text = some t := by
  obtain ⟨secs, nanos⟩ := t
  obtain ⟨years, subseconds⟩ := ordinary
  have valid := Calendar.civilDate_valid (secs.fdiv 86400)
  have days := Calendar.dayNumber_civilDate (secs.fdiv 86400)
  have parts : (0 ≤ secs.fmod 86400 ∧ secs.fmod 86400 < 86400) ∧
      secs = secs.fdiv 86400 * 86400 + secs.fmod 86400 := by
    rw [Int.fmod_eq_emod_of_nonneg _ (by decide), Int.fdiv_eq_ediv_of_nonneg _ (by decide)]
    omega
  have noLeap : ¬ 1000000000 ≤ nanos := Nat.not_le.2 subseconds
  simp only [civilYear] at years
  have within : yearRange (Calendar.civilDate (secs.fdiv 86400)).1 = true := by
    simp only [yearRange, Bool.and_eq_true, decide_eq_true_eq]
    omega
  have hours : (secs.fmod 86400).toNat / 3600 ≤ 23 := by omega
  have minutes : (secs.fmod 86400).toNat / 60 % 60 ≤ 59 := by omega
  have seconds : (secs.fmod 86400).toNat % 60 ≤ 59 := by omega
  have read := ofText?_of_parts years valid.1 valid.2 hours minutes seconds subseconds
    (by omega : secs = _) within
  simpa [text, noLeap] using read

end Instant

end ReplicaSeed
