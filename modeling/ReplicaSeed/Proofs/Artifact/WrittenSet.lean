import Mathlib.Data.List.Infix
import ReplicaSeed.Proofs.Text.Blank
import ReplicaSeed.Seed.Coordinates

/-!
# Transaction sets as they are written

A tool writes a transaction set with a comma between two members. Blanks around the members are no
part of them, and where there are many members the set is wrapped behind its commas.

## Main definitions

* `WrittenMember`: a member with the blanks around it.
* `setText`, `setNames`: a set as it is written, and the set itself.
* `WrappedSet`: a set on some lines.

## Main statements

* `squeeze_setText`: the set is what is left without the blanks.
* `WrappedSet.squeeze_lines`: so it is of the lines, each without the blanks around it.
-/

namespace ReplicaSeed

/-- A character that a member may have. Members are of letters, digits, hyphens and colons; nothing
that is read here depends on there being no others. -/
def isMemberChar (c : Char) : Bool :=
  !Text.isBlank c && c != ',' && c != ';' && c != '\'' && c != '/'

/-- A member of a set, with the blanks around it. -/
structure WrittenMember where
  before : List Char
  name : List Char
  after : List Char
  blank_before : ∀ c ∈ before, Text.isBlank c = true
  plain : ∀ c ∈ name, isMemberChar c = true
  blank_after : ∀ c ∈ after, Text.isBlank c = true

/-- A member as it is written. -/
def WrittenMember.text (m : WrittenMember) : List Char := m.before ++ m.name ++ m.after

/-- The texts of some members with a comma between two of them. -/
def joined (text : WrittenMember → List Char) (ms : List WrittenMember) : List Char :=
  [','].intercalate (ms.map text)

/-- A set as it is written. -/
def setText (ms : List WrittenMember) : List Char := joined WrittenMember.text ms

/-- A set without the blanks around its members. -/
def setNames (ms : List WrittenMember) : List Char := joined WrittenMember.name ms

section

variable {c : Char} {m : WrittenMember} {ms ms' : List WrittenMember}

theorem not_isBlank_of_isMemberChar (plain : isMemberChar c = true) : Text.isBlank c = false := by
  simp only [isMemberChar, Bool.and_eq_true, Bool.not_eq_true'] at plain
  exact plain.1.1.1.1

theorem ne_of_isMemberChar (plain : isMemberChar c = true) :
    c ≠ ',' ∧ c ≠ ';' ∧ c ≠ '\'' ∧ c ≠ '/' := by
  simp only [isMemberChar, Bool.and_eq_true, bne_iff_ne] at plain
  exact ⟨plain.1.1.1.2, plain.1.1.2, plain.1.2, plain.2⟩

theorem WrittenMember.squeeze_text (m : WrittenMember) : Text.squeeze m.text = m.name := by
  have stays : Text.squeeze m.name = m.name := by
    refine List.filter_eq_self.2 fun c member => ?_
    rw [not_isBlank_of_isMemberChar (m.plain c member), Bool.not_false]
  rw [text, Text.squeeze_append, Text.squeeze_append, Text.squeeze_of_blank m.blank_before, stays,
    Text.squeeze_of_blank m.blank_after, List.nil_append, List.append_nil]

@[simp] theorem joined_nil (text : WrittenMember → List Char) : joined text [] = [] := rfl

@[simp] theorem joined_singleton (text : WrittenMember → List Char) (m : WrittenMember) :
    joined text [m] = text m := by
  simp [joined]

@[simp] theorem joined_cons_cons (text : WrittenMember → List Char) (m m' : WrittenMember)
    (ms : List WrittenMember) :
    joined text (m :: m' :: ms) = text m ++ ',' :: joined text (m' :: ms) := by
  simp [joined, List.intercalate_cons_cons]

theorem joined_append (text : WrittenMember → List Char) (some_ : ms ≠ []) (some' : ms' ≠ []) :
    joined text (ms ++ ms') = joined text ms ++ ',' :: joined text ms' := by
  obtain ⟨m', rest, rfl⟩ := List.exists_cons_of_ne_nil some'
  induction ms with
  | nil => exact absurd rfl some_
  | cons m ms ih => cases ms <;> simp_all

/-- The set is what is left without the blanks. -/
theorem squeeze_setText (ms : List WrittenMember) : Text.squeeze (setText ms) = setNames ms := by
  rw [setText, setNames]
  induction ms with
  | nil => rfl
  | cons m ms ih =>
    cases ms with
    | nil => simp [m.squeeze_text]
    | cons m' ms =>
      rw [joined_cons_cons, joined_cons_cons, Text.squeeze_append, m.squeeze_text, ← ih]
      rfl

/-- Nothing is written of a set but its members, blanks and commas. -/
theorem isBlank_or_of_mem_setText (member : c ∈ setText ms) :
    Text.isBlank c = true ∨ isMemberChar c = true ∨ c = ',' := by
  have within (m : WrittenMember) (member : c ∈ m.text) :
      Text.isBlank c = true ∨ isMemberChar c = true := by
    simp only [WrittenMember.text, List.mem_append] at member
    obtain (member | member) | member := member
    · exact .inl (m.blank_before c member)
    · exact .inr (m.plain c member)
    · exact .inl (m.blank_after c member)
  rw [setText] at member
  induction ms with
  | nil => cases member
  | cons m ms ih =>
    cases ms with
    | nil => grind [joined_singleton]
    | cons m' ms => grind [joined_cons_cons]

/-- So the marks that end a statement or a text are not in it. -/
theorem not_mem_setText (mark : c = ';' ∨ c = '\'' ∨ c = '/') (ms : List WrittenMember) :
    c ∉ setText ms := by
  intro member
  obtain blank | plain | comma := isBlank_or_of_mem_setText member
  · obtain rfl | rfl | rfl := mark <;> cases blank
  · obtain rfl | rfl | rfl := mark <;> cases plain
  · obtain rfl | rfl | rfl := mark <;> cases comma

/-- A set with members that have names ends with a character of a member, but for blanks. -/
theorem exists_last_of_setText (named : ∀ m ∈ ms, m.name ≠ []) (some_ : ms ≠ []) :
    ∃ a c b, setText ms = a ++ c :: b ∧ isMemberChar c = true ∧
      ∀ d ∈ b, Text.isBlank d = true := by
  obtain rfl | ⟨ms, m, rfl⟩ := List.eq_nil_or_concat ms
  · exact absurd rfl some_
  rw [List.concat_eq_append] at named ⊢
  obtain empty | ⟨name, c, last⟩ := List.eq_nil_or_concat m.name
  · exact absurd empty (named m (by simp))
  have ends : m.text = (m.before ++ name) ++ c :: m.after := by
    simp [WrittenMember.text, last]
  have plain : isMemberChar c = true := m.plain c (by simp [last])
  by_cases alone : ms = []
  · exact ⟨m.before ++ name, c, m.after, by simp [alone, setText, ends], plain, m.blank_after⟩
  · refine ⟨setText ms ++ ',' :: (m.before ++ name), c, m.after, ?_, plain, m.blank_after⟩
    rw [setText, joined_append _ alone (List.cons_ne_nil m []), joined_singleton, ends]
    simp [setText]

end

/-! ## Wrapped sets -/

/-- A set on some lines. Each line but the last has members and ends with a comma. -/
structure WrappedSet where
  rows : List (List WrittenMember)
  last : List WrittenMember
  filled : ∀ row ∈ rows, row ≠ []
  ends : rows ≠ [] → last ≠ []
  named : ∀ row ∈ rows ++ [last], ∀ m ∈ row, m.name ≠ []

namespace WrappedSet

/-- The members of the set. -/
def members (s : WrappedSet) : List WrittenMember := s.rows.flatten ++ s.last

/-- A line that is not the last. -/
def rowText (row : List WrittenMember) : List Char := setText row ++ [',']

theorem trim_rowText (row : List WrittenMember) :
    Text.trim (rowText row) = Text.trimStart (setText row) ++ [','] :=
  Text.trim_append_cons rfl (setText row) []

/-- The lines of a set, each without the blanks around it, are the set but for the blanks between
its members. -/
theorem squeeze_lines (s : WrappedSet) :
    Text.squeeze ((s.rows.map fun row => Text.trim (rowText row)).flatten ++
      Text.trim (setText s.last)) = setNames s.members := by
  obtain ⟨rows, last, filled, ends, named⟩ := s
  simp only [members]
  clear named
  induction rows with
  | nil => simp [squeeze_setText]
  | cons row rows ih =>
    obtain ⟨some_, filled⟩ := List.forall_mem_cons.1 filled
    have rest : rows.flatten ++ last ≠ [] :=
      List.append_ne_nil_of_right_ne_nil _ (ends (List.cons_ne_nil row rows))
    have comma : Text.squeeze [','] = [','] := rfl
    rw [List.map_cons, List.flatten_cons, List.append_assoc, Text.squeeze_append, Text.squeeze_trim,
      rowText, Text.squeeze_append, squeeze_setText, comma,
      ih filled fun _ => ends (List.cons_ne_nil row rows), List.flatten_cons,
      List.append_assoc row, setNames, setNames, setNames, joined_append _ some_ rest]
    simp

/-- The last line does not go on. -/
theorem getLast?_trim_last (s : WrappedSet) : (Text.trim (setText s.last)).getLast? ≠ some ',' := by
  by_cases empty : s.last = []
  · rw [empty]
    decide
  · have named : ∀ m ∈ s.last, m.name ≠ [] := s.named s.last (by simp)
    obtain ⟨a, c, b, split, plain, blank⟩ := exists_last_of_setText named empty
    rw [split, Text.trim_append_cons (not_isBlank_of_isMemberChar plain),
      Text.trimEnd_of_blank blank]
    simpa using (ne_of_isMemberChar plain).1

end WrappedSet

end ReplicaSeed
