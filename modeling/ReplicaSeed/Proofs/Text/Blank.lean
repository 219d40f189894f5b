import Mathlib.Data.List.TakeWhile
import ReplicaSeed.Text.Blank
import ReplicaSeed.Text.Search

/-!
# Text without the blanks at its ends

Trimming stops at a character that is no blank, and blanks at the ends of a text are no part of what
is left of it. Line ends are such blanks.

## Main statements

* `trim_append_cons`: what is left on both sides of a character that is no blank.
* `trim_padded`: blanks around a text do not count.
* `trim_stripLineEnd`: nor does the end of a line.
-/

namespace ReplicaSeed.Text

variable {a b cs : List Char} {c : Char} {p : Char → Bool}

/-! ## Characters that stay -/

theorem dropEndWhile_append_cons (stays : p c = false) :
    dropEndWhile p (a ++ c :: b) = a ++ c :: dropEndWhile p b := by
  have back : (b.reverse ++ c :: a.reverse).dropWhile p =
      b.reverse.dropWhile p ++ c :: a.reverse := by
    induction b.reverse with
    | nil => simp [stays]
    | cons d ds ih => by_cases drops : p d <;> simp [drops, ih]
  simp [dropEndWhile, back]

theorem dropEndWhile_of_all (drops : ∀ c ∈ b, p c = true) (a : List Char) :
    dropEndWhile p (a ++ b) = dropEndWhile p a := by
  have back : ∀ c ∈ b.reverse, p c = true := by simpa using drops
  rw [dropEndWhile, List.reverse_append, List.dropWhile_append_of_pos back, dropEndWhile]

theorem trimStart_append_cons (stays : isBlank c = false) (a b : List Char) :
    trimStart (a ++ c :: b) = trimStart a ++ c :: b := by
  rw [trimStart, trimStart]
  induction a with
  | nil => simp [stays]
  | cons d a ih => by_cases drops : isBlank d <;> simp [drops, ih]

/-- Trimming stops at a character that is no blank. -/
theorem trim_append_cons (stays : isBlank c = false) (a b : List Char) :
    trim (a ++ c :: b) = trimStart a ++ c :: trimEnd b := by
  rw [trim, trimStart_append_cons stays, trimEnd, dropEndWhile_append_cons stays]
  rfl

/-! ## Blanks that go -/

theorem trimStart_of_blank (blank : ∀ c ∈ cs, isBlank c = true) : trimStart cs = [] :=
  List.dropWhile_eq_nil_iff.2 blank

@[simp] theorem trimEnd_nil : trimEnd [] = [] := rfl

theorem trimEnd_of_blank (blank : ∀ c ∈ cs, isBlank c = true) : trimEnd cs = [] :=
  dropEndWhile_of_all blank []

theorem trim_of_blank (blank : ∀ c ∈ cs, isBlank c = true) : trim cs = [] := by
  rw [trim, trimStart_of_blank blank, trimEnd_nil]

/-- A text has only blanks, or a character among others that is none. -/
theorem blank_or_append_cons (cs : List Char) :
    (∀ c ∈ cs, isBlank c = true) ∨ ∃ a c b, cs = a ++ c :: b ∧ isBlank c = false := by
  by_cases blank : ∀ c ∈ cs, isBlank c = true
  · exact .inl blank
  · simp only [not_forall, Bool.not_eq_true] at blank
    obtain ⟨c, member, stays⟩ := blank
    obtain ⟨a, b, rfl⟩ := List.append_of_mem member
    exact .inr ⟨a, c, b, rfl, stays⟩

/-- Blanks around a text do not count. -/
theorem trim_padded (before : ∀ c ∈ a, isBlank c = true) (after : ∀ c ∈ b, isBlank c = true)
    (cs : List Char) :
    trim (a ++ cs ++ b) = trim cs := by
  obtain blank | ⟨a', c, b', rfl, stays⟩ := blank_or_append_cons cs
  · rw [trim_of_blank blank, trim_of_blank]
    intro c member
    simp only [List.mem_append] at member
    obtain (member | member) | member := member
    · exact before c member
    · exact blank c member
    · exact after c member
  · have start : trimStart (a ++ a') = trimStart a' := List.dropWhile_append_of_pos before
    have ends : trimEnd (b' ++ b) = trimEnd b' := dropEndWhile_of_all after b'
    have whole : a ++ (a' ++ c :: b') ++ b = (a ++ a') ++ c :: (b' ++ b) := by simp
    rw [whole, trim_append_cons stays, trim_append_cons stays, start, ends]

theorem trim_append_of_blank (after : ∀ c ∈ b, isBlank c = true) (cs : List Char) :
    trim (cs ++ b) = trim cs :=
  trim_padded (a := []) nofun after cs

theorem append_trimEnd (cs : List Char) :
    ∃ b, cs = trimEnd cs ++ b ∧ ∀ c ∈ b, isBlank c = true := by
  refine ⟨(cs.reverse.takeWhile isBlank).reverse, ?_, fun c member => ?_⟩
  · rw [trimEnd, dropEndWhile, ← List.reverse_append, List.takeWhile_append_dropWhile,
      List.reverse_reverse]
  · exact List.mem_takeWhile_imp (List.mem_reverse.1 member)

theorem trim_trimEnd (cs : List Char) : trim (trimEnd cs) = trim cs := by
  obtain ⟨b, split, blank⟩ := append_trimEnd cs
  calc trim (trimEnd cs) = trim (trimEnd cs ++ b) := (trim_append_of_blank blank _).symm
    _ = trim cs := by rw [← split]

theorem mem_of_mem_trim (member : c ∈ trim cs) : c ∈ cs := by
  have start : c ∈ trimStart cs := by
    rw [trim, trimEnd, dropEndWhile, List.mem_reverse] at member
    exact List.mem_reverse.1 ((List.dropWhile_suffix _).subset member)
  exact (List.dropWhile_suffix _).subset start

theorem squeeze_of_blank (blank : ∀ c ∈ cs, isBlank c = true) : squeeze cs = [] := by
  simpa [squeeze] using blank

@[simp] theorem squeeze_trim (cs : List Char) : squeeze (trim cs) = squeeze cs := by
  obtain ⟨b, split, blank⟩ := append_trimEnd (trimStart cs)
  calc squeeze (trim cs) = squeeze (trimEnd (trimStart cs) ++ b) := by
        rw [squeeze_append, squeeze_of_blank blank, List.append_nil, trim]
    _ = squeeze (cs.takeWhile isBlank ++ cs.dropWhile isBlank) := by
        rw [← split, squeeze_append, squeeze_of_blank fun _ => List.mem_takeWhile_imp,
          List.nil_append, trimStart]
    _ = squeeze cs := by rw [List.takeWhile_append_dropWhile]

/-- Blanks that pieces are joined by do not count either. -/
theorem squeeze_intercalate (blank : isBlank c = true) (pieces : List (List Char)) :
    squeeze ([c].intercalate pieces) = squeeze pieces.flatten := by
  induction pieces with
  | nil => rfl
  | cons piece pieces ih =>
    by_cases alone : pieces = []
    · simp [alone]
    · have nothing : squeeze [c] = [] := squeeze_of_blank (by simpa using blank)
      rw [List.intercalate_cons_of_ne_nil alone, squeeze_append, squeeze_append, nothing, ih,
        List.flatten_cons, squeeze_append, List.append_nil]

/-! ## Line ends -/

/-- Only a line feed, and a carriage return before it, are cut off as the end of a line. -/
theorem append_stripLineEnd (cs : List Char) :
    ∃ ends, cs = stripLineEnd cs ++ ends ∧ ∀ c ∈ ends, c = '\r' ∨ c = '\n' := by
  unfold stripLineEnd
  split
  · rename_i rest ends
    exact ⟨['\r', '\n'], by rw [List.reverse_eq_iff.1 ends]; simp, by simp⟩
  · rename_i rest _ ends
    exact ⟨['\n'], by rw [List.reverse_eq_iff.1 ends]; simp, by simp⟩
  · exact ⟨[], (List.append_nil cs).symm, nofun⟩

/-- The end of a line is blank. -/
theorem trim_stripLineEnd (cs : List Char) : trim (stripLineEnd cs) = trim cs := by
  obtain ⟨ends, split, only⟩ := append_stripLineEnd cs
  have blank : ∀ c ∈ ends, isBlank c = true := by
    intro c member
    obtain rfl | rfl := only c member <;> rfl
  calc trim (stripLineEnd cs) = trim (stripLineEnd cs ++ ends) :=
        (trim_append_of_blank blank _).symm
    _ = trim cs := by rw [← split]

/-! ## Characters of a kind at both ends -/

theorem dropEndWhile_of_none (none : ∀ c ∈ cs, p c = false) : dropEndWhile p cs = cs := by
  obtain rfl | ⟨ds, d, rfl⟩ := List.eq_nil_or_concat cs
  · rfl
  · simp [dropEndWhile, none d (by simp)]

theorem dropWhile_of_none (none : ∀ c ∈ cs, p c = false) : cs.dropWhile p = cs := by
  cases cs with
  | nil => rfl
  | cons c cs => simp [none c (.head _)]

theorem trimMatches_of_none (none : ∀ c ∈ cs, p c = false) : trimMatches p cs = cs := by
  rw [trimMatches, dropWhile_of_none none, dropEndWhile_of_none none]

/-- What stands between two of the characters is left. -/
theorem trimMatches_enclosed (drops : p c = true) (none : ∀ c ∈ cs, p c = false) :
    trimMatches p (c :: cs ++ [c]) = cs := by
  have tail : ∀ ds, dropEndWhile p (ds ++ [c]) = dropEndWhile p ds :=
    dropEndWhile_of_all (by simpa using drops)
  rw [trimMatches, List.cons_append, List.dropWhile_cons_of_pos drops]
  cases cs with
  | nil => simp [drops, dropEndWhile]
  | cons d cs =>
    rw [List.cons_append, List.dropWhile_cons_of_neg (by simp [none d (.head _)]),
      ← List.cons_append, tail, dropEndWhile_of_none none]

end ReplicaSeed.Text
