import ReplicaSeed.Proofs.Text.Search
import ReplicaSeed.Text.FilePath

/-!
# The last name of a path

A path that ends with a name may have more text behind it: slashes, and dots that stand for nothing.
Where it leads does not depend on them, but an extension is first cut off of the text and only then
set behind the stem of the last name. What comes of that is settled here for every path.

## Main definitions

* `Shape`: a path by its last name, with the entries before it and what stands behind it.
* `stem?`, `extension?`: the two parts of the last name.
* `EndsDotted`: the last name is lost with its extension.
* `Place`, `place`: where a path leads.

## Main statements

* `Shape.withExtension_cases`: the shape of a path with another extension.
* `parent?_withExtension`: its parent is the same.
* `place_withExtension_eq_iff`: when it leads to the same place.
* `place_withExtension_congr_iff`: when two of them lead to the same place.
-/

namespace ReplicaSeed.FilePath

open Text

/-! ## Entries -/

/-- The entry stands for nothing. -/
def IsVoid (entry : List Char) : Prop := entry = [] ∨ entry = ['.']

instance : DecidablePred IsVoid := fun entry =>
  inferInstanceAs (Decidable (entry = [] ∨ entry = ['.']))

section

variable {path x : String} {above below rest voids : List (List Char)} {name entry : List Char}

theorem dropVoid_append (void : ∀ v ∈ voids, IsVoid v) (some_ : ¬ IsVoid entry) :
    dropVoid (voids ++ entry :: rest) = entry :: rest := by
  induction voids with
  | nil =>
    rw [List.nil_append, dropVoid]
    · exact if_neg some_
    · rintro rfl
      simp [IsVoid] at some_
  | cons v voids ih =>
    obtain ⟨first, void⟩ := List.forall_mem_cons.1 void
    rw [List.cons_append, dropVoid]
    · exact (if_pos first).trans (ih void)
    · simp

/-- What is dropped stands for nothing. -/
theorem exists_dropVoid (entries : List (List Char)) :
    ∃ voids, (∀ v ∈ voids, IsVoid v) ∧ entries = voids ++ dropVoid entries := by
  fun_induction dropVoid entries with
  | case1 => exact ⟨[], by simp, rfl⟩
  | case2 => exact ⟨[], by simp, rfl⟩
  | case3 entry rest _ void ih =>
    obtain ⟨voids, all, same⟩ := ih
    exact ⟨entry :: voids, List.forall_mem_cons.2 ⟨void, all⟩, congrArg (entry :: ·) same⟩
  | case4 => exact ⟨[], by simp, rfl⟩

/-- What is kept begins with an entry that stands for something, unless it is a single dot. -/
theorem not_isVoid_of_dropVoid (h : dropVoid voids = entry :: rest) :
    ¬ IsVoid entry ∨ entry = ['.'] ∧ rest = [] := by
  fun_induction dropVoid voids with
  | case1 => cases h
  | case2 =>
    cases h
    exact .inr ⟨rfl, rfl⟩
  | case3 _ _ _ void ih => exact ih h
  | case4 _ _ _ some_ =>
    cases h
    exact .inl some_

/-! ## The text of entries -/

/-- The text of entries that stand before others, each with a slash behind it. -/
def leading (above : List (List Char)) : List Char := above.flatMap (· ++ ['/'])

/-- The text of entries that stand behind others, each with a slash before it. -/
def trailing (below : List (List Char)) : List Char := below.flatMap ('/' :: ·)

theorem intercalate_eq (above : List (List Char)) (name : List Char) (below : List (List Char)) :
    ['/'].intercalate (above ++ name :: below) = leading above ++ name ++ trailing below := by
  induction above generalizing name with
  | nil =>
    induction below generalizing name with
    | nil => simp [leading, trailing]
    | cons entry below ih =>
      rw [List.nil_append, List.intercalate_cons_cons]
      have rest := ih entry
      simp only [List.nil_append, leading, List.flatMap_nil] at rest
      simp [rest, leading, trailing]
  | cons entry above ih =>
    rw [List.cons_append, List.intercalate_cons_of_ne_nil (by simp), ih]
    simp [leading]

@[simp] theorem trailing_nil : trailing [] = [] := rfl

theorem trailing_eq_nil : trailing below = [] ↔ below = [] := by
  cases below <;> simp [trailing]

theorem trailing_cons (entry : List Char) (below : List (List Char)) :
    trailing (entry :: below) = '/' :: entry ++ trailing below := rfl

/-- A part of what stands behind a name stands for nothing as well. -/
theorem exists_take_trailing (void : ∀ v ∈ voids, IsVoid v) (n : ℕ) :
    ∃ less, (∀ v ∈ less, IsVoid v) ∧ (trailing voids).take n = trailing less := by
  induction voids generalizing n with
  | nil => exact ⟨[], by simp, by simp⟩
  | cons v voids ih =>
    obtain ⟨first, void⟩ := List.forall_mem_cons.1 void
    by_cases short : n < ('/' :: v).length
    · obtain rfl | ⟨rfl, rfl⟩ : n = 0 ∨ n = 1 ∧ v = ['.'] := by
        obtain rfl | rfl := first <;> simp at short ⊢ <;> omega
      · exact ⟨[], by simp, rfl⟩
      · exact ⟨[[]], by simp [IsVoid], rfl⟩
    · obtain ⟨less, all, same⟩ := ih void (n - ('/' :: v).length)
      refine ⟨v :: less, List.forall_mem_cons.2 ⟨first, all⟩, ?_⟩
      rw [trailing_cons, List.take_append, same, List.take_of_length_le (not_lt.1 short),
        trailing_cons]

/-! ## Paths with a last entry -/

/-- The text of a path up to its last entry that stands for something, that entry, and what stands
behind it. -/
structure Shape (path : String) (above : List (List Char)) (name : List Char)
    (below : List (List Char)) : Prop where
  text : path.toList = leading above ++ name ++ trailing below
  plain : ∀ entry ∈ above, '/' ∉ entry
  name_plain : '/' ∉ name
  stands : ¬ IsVoid name
  voids : ∀ entry ∈ below, IsVoid entry

theorem IsVoid.plain (void : IsVoid entry) : '/' ∉ entry := by
  obtain rfl | rfl := void <;> simp

theorem Shape.splitOn_eq (h : Shape path above name below) :
    splitOn '/' path.toList = above ++ name :: below := by
  refine splitOn_eq_iff.2 ⟨by simp, h.text.trans (intercalate_eq above name below).symm, ?_⟩
  intro entry member
  obtain member | rfl | member : entry ∈ above ∨ entry = name ∨ entry ∈ below := by
    simpa using member
  · exact h.plain entry member
  · exact h.name_plain
  · exact (h.voids entry member).plain

theorem Shape.entries_eq (h : Shape path above name below) :
    entries path = name :: above.reverse := by
  have regroup : (above ++ name :: below).reverse = below.reverse ++ name :: above.reverse := by
    simp
  rw [entries, h.splitOn_eq, regroup]
  exact dropVoid_append (fun v member => h.voids v (List.mem_reverse.1 member)) h.stands

theorem exists_shape (h : entries path = name :: rest) (named : name ≠ ['.']) :
    ∃ below, Shape path rest.reverse name below := by
  obtain ⟨voids, void, split⟩ := exists_dropVoid (splitOn '/' path.toList).reverse
  have kept : dropVoid (splitOn '/' path.toList).reverse = name :: rest := h
  have stands := (not_isVoid_of_dropVoid kept).resolve_right fun dot => named dot.1
  rw [kept, List.reverse_eq_iff] at split
  obtain ⟨-, text, plain⟩ := splitOn_eq_iff.1 split
  have regroup : (voids ++ name :: rest).reverse = rest.reverse ++ name :: voids.reverse := by
    simp
  rw [regroup] at text plain
  refine ⟨voids.reverse, text.trans (intercalate_eq ..), ?_, ?_, stands, ?_⟩
  · exact fun entry member => plain entry (List.mem_append_left _ member)
  · exact plain name (by simp)
  · exact fun entry member => void entry (List.mem_reverse.1 member)

theorem shape_ofEntries (plain : ∀ entry ∈ above, '/' ∉ entry) (name_plain : '/' ∉ name)
    (stands : ¬ IsVoid name) : Shape (ofEntries (name :: above.reverse)) above name [] where
  text := by
    rw [ofEntries, String.toList_ofList, List.reverse_cons, List.reverse_reverse]
    exact intercalate_eq above name []
  plain := plain
  name_plain := name_plain
  stands := stands
  voids := by simp

/-! ## Extensions -/

theorem splitName_append {stem ext : List Char} (some_ : stem ≠ []) (free : '.' ∉ ext) :
    splitName (stem ++ '.' :: ext) = (stem, some ext) := by
  obtain ⟨c, rest, reversed⟩ := List.exists_cons_of_ne_nil (mt List.reverse_eq_nil_iff.1 some_)
  have found : splitOnce? '.' (stem ++ '.' :: ext).reverse = some (ext.reverse, c :: rest) := by
    rw [splitOnce?_eq_some_iff, List.mem_reverse, ← reversed]
    exact ⟨free, by simp⟩
  rw [splitName, found]
  simp [← reversed]

/-- A name has no extension, or it is cut at its last dot. -/
theorem splitName_cases (name : List Char) :
    splitName name = (name, none) ∨
    ∃ stem ext, stem ≠ [] ∧ '.' ∉ ext ∧ name = stem ++ '.' :: ext := by
  unfold splitName
  split
  · rename_i ext c rest found
    obtain ⟨free, reversed⟩ := splitOnce?_eq_some_iff.1 found
    refine .inr ⟨(c :: rest).reverse, ext.reverse, by simp, by simpa using free, ?_⟩
    rw [List.reverse_eq_iff.1 reversed]
    simp
  · exact .inl rfl

theorem splitName_eq_some_iff {stem ext : List Char} :
    splitName name = (stem, some ext) ↔ stem ≠ [] ∧ '.' ∉ ext ∧ name = stem ++ '.' :: ext := by
  constructor
  · intro split
    obtain whole | ⟨stem', ext', some_, free, rfl⟩ := splitName_cases name
    · cases whole.symm.trans split
    · cases (splitName_append some_ free).symm.trans split
      exact ⟨some_, free, rfl⟩
  · rintro ⟨some_, free, rfl⟩
    exact splitName_append some_ free

theorem isName_append {stem ext : List Char} (some_ : stem ≠ []) :
    isName (stem ++ '.' :: ext) = true ↔ ¬ (stem = ['.'] ∧ ext = []) := by
  obtain ⟨c, rest, rfl⟩ := List.exists_cons_of_ne_nil some_
  cases rest <;> simp [isName, imp_iff_not_or]

/-- The stem of the name that a path ends with. -/
def stem? (path : String) : Option String :=
  (fileName? path).map fun name => String.ofList (splitName name.toList).1

/-- The extension of the name that a path ends with. -/
def extension? (path : String) : Option String :=
  (fileName? path).bind fun name => (splitName name.toList).2.map String.ofList

/-- The text of a path ends with two dots and an extension. Without the extension it would not end
with a name. -/
def EndsDotted (path : String) : Prop :=
  ∃ ext, ext ≠ [] ∧ '.' ∉ ext ∧ (splitOn '/' path.toList).getLast? = some ('.' :: '.' :: ext)

theorem Shape.fileName?_eq (h : Shape path above name below) (named : isName name = true) :
    fileName? path = some (String.ofList name) := by
  rw [fileName?, h.entries_eq]
  exact if_pos named

theorem Shape.extensionLength_eq (h : Shape path above name below) (named : isName name = true) :
    extensionLength path = ((splitName name).2.getD []).length := by
  rw [extensionLength, h.fileName?_eq named]
  simp

theorem Shape.endsDotted_iff (h : Shape path above name below) :
    EndsDotted path ↔ below = [] ∧ ∃ ext, ext ≠ [] ∧ splitName name = (['.'], some ext) := by
  rw [EndsDotted, h.splitOn_eq]
  obtain rfl | ⟨front, last, rfl⟩ := below.eq_nil_or_concat
  · simp [splitName_eq_some_iff]
  · have void := h.voids last (by simp)
    constructor
    · rintro ⟨ext, -, -, same⟩
      obtain rfl : last = '.' :: '.' :: ext := by
        simpa [List.getLast?_append, List.getLast?_cons] using same
      simp [IsVoid] at void
    · rintro ⟨none_, -⟩
      simp at none_

theorem Shape.setExtension_eq (h : Shape path above name below) (named : isName name = true) :
    setExtension x path = ofEntries (((splitName name).1 ++ '.' :: x.toList) :: above.reverse) := by
  rw [setExtension, h.entries_eq]
  exact if_pos named

/-- What is cut off behind the name leaves the name. -/
theorem Shape.exists_cut_trailing (h : Shape path above name below) {n : ℕ}
    (short : n ≤ (trailing below).length) :
    ∃ less, Shape (String.ofList (path.toList.take (path.toList.length - n))) above name less := by
  obtain ⟨less, void, same⟩ := exists_take_trailing h.voids ((trailing below).length - n)
  refine ⟨less, ?_, h.plain, h.name_plain, h.stands, void⟩
  rw [String.toList_ofList, h.text, ← same, ← List.take_length_add_append]
  congr 1
  rw [List.length_append]
  omega

/-- An extension that is longer than what stands behind it is cut short, down to its dot. -/
theorem Shape.cut_extension {stem ext : List Char} (h : Shape path above (stem ++ '.' :: ext) below)
    (some_ : stem ≠ []) (long : (trailing below).length < ext.length) :
    Shape (String.ofList (path.toList.take (path.toList.length - ext.length))) above
      (stem ++ '.' :: ext.take (trailing below).length) [] := by
  refine ⟨?_, h.plain, ?_, ?_, by simp⟩
  · have regroup : path.toList = leading above ++ stem ++ ['.'] ++ (ext ++ trailing below) := by
      rw [h.text]
      simp
    have kept : path.toList.length - ext.length =
        (leading above ++ stem ++ ['.']).length + (trailing below).length := by
      rw [regroup]
      simp only [List.length_append]
      omega
    rw [String.toList_ofList, kept, regroup, List.take_length_add_append,
      List.take_append_of_le_length long.le]
    simp
  · have plain := h.name_plain
    simp only [List.mem_append, List.mem_cons, not_or] at plain ⊢
    exact ⟨plain.1, plain.2.1, fun member => plain.2.2 (List.mem_of_mem_take member)⟩
  · rintro (empty | dot)
    · simp at empty
    · simp [List.append_eq_cons_iff, some_] at dot

/-- The text of a path without the extension of its name. -/
def withoutExtension (path : String) : String :=
  String.ofList (path.toList.take (path.toList.length - extensionLength path))

/-- A path without its extension ends with the same stem, unless it does not end with a name
anymore. -/
theorem Shape.withoutExtension_cases (h : Shape path above name below)
    (named : isName name = true) :
    (EndsDotted path ∧ Shape (withoutExtension path) above ['.', '.'] []) ∨
    ¬ EndsDotted path ∧ ∃ name' below', Shape (withoutExtension path) above name' below' ∧
      isName name' = true ∧ (splitName name').1 = (splitName name).1 := by
  rw [h.endsDotted_iff, withoutExtension, h.extensionLength_eq named]
  obtain whole | ⟨stem, ext, some_, free, rfl⟩ := splitName_cases name
  · obtain ⟨less, shape⟩ := h.exists_cut_trailing (Nat.zero_le _)
    rw [whole]
    exact .inr ⟨by simp, name, less, shape, named, by rw [whole]⟩
  have split := splitName_append some_ free
  rw [split, Option.getD_some]
  by_cases short : ext.length ≤ (trailing below).length
  · -- all that is cut off stands behind the name
    obtain ⟨less, shape⟩ := h.exists_cut_trailing short
    refine .inr ⟨?_, _, less, shape, named, by rw [split]⟩
    rintro ⟨rfl, ext', some_', same⟩
    cases same
    exact some_' (List.length_eq_zero_iff.1 (Nat.le_zero.1 short))
  · have shape := h.cut_extension some_ (not_le.1 short)
    have part : '.' ∉ ext.take (trailing below).length :=
      fun member => free (List.mem_of_mem_take member)
    by_cases dotted : stem = ['.'] ∧ below = []
    · obtain ⟨rfl, rfl⟩ := dotted
      refine .inl ⟨⟨rfl, ext, ?_, rfl⟩, shape⟩
      exact List.ne_nil_of_length_pos (not_le.1 short)
    · refine .inr ⟨?_, _, [], shape, ?_, by rw [splitName_append some_ part]⟩
      · rintro ⟨rfl, _, -, same⟩
        cases same
        exact dotted ⟨rfl, rfl⟩
      · refine (isName_append some_).2 fun ⟨dot, nothing⟩ => dotted ⟨dot, trailing_eq_nil.1 ?_⟩
        obtain none_ | none_ := List.take_eq_nil_iff.1 nothing
        · exact List.length_eq_zero_iff.1 none_
        · simp [none_] at short

theorem splitName_fst_isPrefix (name : List Char) : (splitName name).1 <+: name := by
  obtain whole | ⟨stem, ext, some_, free, rfl⟩ := splitName_cases name
  · rw [whole]
  · rw [splitName_append some_ free]
    exact List.prefix_append ..

theorem Shape.stem_ne_nil (h : Shape path above name below) : (splitName name).1 ≠ [] := by
  have stands := h.stands
  obtain whole | ⟨stem, ext, some_, free, rfl⟩ := splitName_cases name
  · rw [whole]
    exact fun empty => stands (.inl empty)
  · rwa [splitName_append some_ free]

/-- A path with another extension ends with the stem of its name and that extension, unless it does
not end with a name anymore when its own extension is gone. -/
theorem Shape.withExtension_cases (h : Shape path above name below) (named : isName name = true)
    (plain : '/' ∉ x.toList) :
    (EndsDotted path ∧ Shape (withExtension x path) above ['.', '.'] []) ∨
    ¬ EndsDotted path ∧
      Shape (withExtension x path) above ((splitName name).1 ++ '.' :: x.toList) [] := by
  have set : withExtension x path = setExtension x (withoutExtension path) := rfl
  rw [set]
  obtain ⟨dotted, cut⟩ | ⟨kept, name', below', cut, named', stem⟩ := h.withoutExtension_cases named
  · have unset : setExtension x (withoutExtension path) = withoutExtension path := by
      rw [setExtension, cut.entries_eq]
      rfl
    rw [unset]
    exact .inl ⟨dotted, cut⟩
  · rw [cut.setExtension_eq named', stem]
    have some_ := h.stem_ne_nil
    refine .inr ⟨kept, shape_ofEntries h.plain ?_ ?_⟩
    · simp only [List.mem_append, List.mem_cons, not_or]
      exact ⟨fun member => h.name_plain ((splitName_fst_isPrefix name).subset member), by decide,
        plain⟩
    · rintro (empty | dot)
      · simp at empty
      · simp [List.append_eq_cons_iff, some_] at dot

/-- The stem is kept whatever stands behind the name; a name that is lost is not set again. -/
example : withExtension "seed-old" "/data/my.sql/." = "/data/my.seed-old" ∧
    withExtension "seed-old" "/data/..sql" = "/data/.." := by
  decide +kernel

/-! ## Places -/

/-- Where a path leads, as far as its text tells: whether it begins at the root, and the entries on
the way that stand for something. -/
structure Place where
  absolute : Bool
  steps : List (List Char)
  deriving DecidableEq

/-- Where a path leads. -/
def place (path : String) : Place where
  absolute := path.toList.head? = some '/'
  steps := (splitOn '/' path.toList).filter fun entry => ¬ IsVoid entry

/-- The place one step before. -/
def Place.parent (p : Place) : Place := { p with steps := p.steps.dropLast }

theorem Shape.absolute_iff (h : Shape path above name below) :
    path.toList.head? = some '/' ↔ above.head? = some [] := by
  rw [h.text]
  have name_plain := h.name_plain
  have stands := h.stands
  cases above with
  | nil =>
    cases name with
    | nil => simp [IsVoid] at stands
    | cons c name =>
      have other : c ≠ '/' := fun same => name_plain (by simp [same])
      simp [leading, other]
  | cons entry above =>
    have plain := h.plain entry (by simp)
    cases entry with
    | nil => simp [leading]
    | cons c entry =>
      have other : c ≠ '/' := fun same => plain (by simp [same])
      simp [leading, other]

theorem Shape.place_eq (h : Shape path above name below) :
    place path = ⟨above.head? = some [], above.filter (¬ IsVoid ·) ++ [name]⟩ := by
  have steps : (above ++ name :: below).filter (¬ IsVoid ·) =
      above.filter (¬ IsVoid ·) ++ [name] := by
    have none_ : below.filter (¬ IsVoid ·) = [] := by simpa using h.voids
    rw [List.filter_append, List.filter_cons_of_pos (by simpa using h.stands), none_]
  rw [place, h.splitOn_eq, steps]
  simp only [h.absolute_iff]

theorem Shape.parent?_eq (h : Shape path above name below) :
    parent? path = some (if dropVoid above.reverse = [] then
      if above.head? = some [] then "/" else "" else ofEntries (dropVoid above.reverse)) := by
  rw [parent?, h.entries_eq]
  simp only [h.absolute_iff]
  cases dropVoid above.reverse <;> rfl

theorem Shape.parent_place (h : Shape path above name below) :
    (place path).parent = ⟨above.head? = some [], above.filter (¬ IsVoid ·)⟩ := by
  rw [h.place_eq, Place.parent, List.dropLast_concat]

/-- The parent of a path that ends with a name leads one step less far. -/
theorem Shape.map_place_parent? (h : Shape path above name below) :
    (parent? path).map place = some (place path).parent := by
  obtain ⟨voids, void, split⟩ := exists_dropVoid above.reverse
  rw [h.parent_place, h.parent?_eq, Option.map_some, Option.some_inj]
  cases kept : dropVoid above.reverse with
  | nil =>
    rw [kept, List.append_nil] at split
    have none_ : above.filter (¬ IsVoid ·) = [] := by
      have all : ∀ v ∈ above.reverse, IsVoid v := split ▸ void
      simpa using all
    rw [if_pos rfl, none_]
    split <;> rename_i root <;> simp only [root] <;> decide
  | cons entry more =>
    rw [kept, List.reverse_eq_iff] at split
    have above_eq : above = more.reverse ++ entry :: voids.reverse := by
      rw [split]
      simp
    have none_ : voids.reverse.filter (¬ IsVoid ·) = [] := by simpa using void
    rw [if_neg (List.cons_ne_nil _ _)]
    obtain stands | ⟨rfl, rfl⟩ := not_isVoid_of_dropVoid kept
    · have plain := above_eq ▸ h.plain
      have shape : Shape (ofEntries (entry :: more.reverse.reverse)) more.reverse entry [] :=
        shape_ofEntries (fun e member => plain e (List.mem_append_left _ member))
          (plain entry (by simp)) stands
      have root : (more.reverse ++ entry :: voids.reverse).head? = some [] ↔
          more.reverse.head? = some [] := by
        cases more.reverse with
        | nil => simpa using fun empty => stands (.inl empty)
        | cons => rfl
      rw [List.reverse_reverse] at shape
      rw [shape.place_eq, above_eq, List.filter_append, List.filter_cons_of_pos (by simpa), none_]
      simp only [root]
    · have alone : place (ofEntries [['.']]) = ⟨false, []⟩ := by decide
      rw [alone, above_eq, List.filter_append, List.filter_cons_of_neg (by simp [IsVoid]), none_]
      simp

/-! ## Where a path with another extension leads -/

theorem Shape.stem?_eq (h : Shape path above name below) (named : isName name = true) :
    stem? path = some (String.ofList (splitName name).1) := by
  rw [stem?, h.fileName?_eq named, Option.map_some, String.toList_ofList]

theorem Shape.extension?_eq (h : Shape path above name below) (named : isName name = true) :
    extension? path = (splitName name).2.map String.ofList := by
  rw [extension?, h.fileName?_eq named, Option.bind_some, String.toList_ofList]

theorem exists_shape_of_isSome (h : (fileName? path).isSome) :
    ∃ above name below, Shape path above name below ∧ isName name = true := by
  rw [fileName?] at h
  split at h
  · rename_i name rest ends
    split at h
    · rename_i named
      have other : name ≠ ['.'] := by
        rintro rfl
        cases named
      obtain ⟨below, shape⟩ := exists_shape ends other
      exact ⟨rest.reverse, name, below, shape, named⟩
    · cases h
  · cases h

/-- A path with another extension has the same parent. -/
theorem parent?_withExtension (named : (fileName? path).isSome) (plain : '/' ∉ x.toList) :
    parent? (withExtension x path) = parent? path := by
  obtain ⟨above, name, below, shape, named⟩ := exists_shape_of_isSome named
  obtain ⟨-, shape'⟩ | ⟨-, shape'⟩ := shape.withExtension_cases named plain <;>
    rw [shape'.parent?_eq, shape.parent?_eq]

/-- A path with another extension leads to the same place exactly if it has that extension. -/
theorem place_withExtension_eq_iff (named : (fileName? path).isSome) (plain : '/' ∉ x.toList)
    (free : '.' ∉ x.toList) :
    place (withExtension x path) = place path ↔ extension? path = some x ∧ ¬ EndsDotted path := by
  obtain ⟨above, name, below, shape, named⟩ := exists_shape_of_isSome named
  have some_ := shape.stem_ne_nil
  rw [shape.extension?_eq named]
  obtain ⟨dotted, shape'⟩ | ⟨kept, shape'⟩ := shape.withExtension_cases named plain
  · have other : ['.', '.'] ≠ name := by
      rintro rfl
      cases named
    simp [shape.place_eq, shape'.place_eq, dotted, other]
  · have same : (splitName name).1 ++ '.' :: x.toList = name ↔
        (splitName name).2.map String.ofList = some x := by
      constructor
      · intro same
        rw [splitName_eq_some_iff.2 ⟨some_, free, same.symm⟩, Option.map_some, String.ofList_toList]
      · intro same
        obtain ⟨ext, found, rfl⟩ := Option.map_eq_some_iff.1 same
        obtain ⟨-, -, split⟩ := splitName_eq_some_iff.1 (Prod.ext rfl found)
        rw [String.toList_ofList]
        exact split.symm
    simp [shape.place_eq, shape'.place_eq, kept, same]

/-- Two paths in one directory lead to the same place with another extension exactly if their names
have the same stem. -/
theorem place_withExtension_congr_iff {path' : String} (named : (fileName? path).isSome)
    (named' : (fileName? path').isSome) (plain : '/' ∉ x.toList) (some_ : x ≠ "")
    (siblings : (parent? path).map place = (parent? path').map place) :
    place (withExtension x path) = place (withExtension x path') ↔
      stem? path = stem? path' ∧ (EndsDotted path ↔ EndsDotted path') := by
  obtain ⟨above, name, below, shape, named⟩ := exists_shape_of_isSome named
  obtain ⟨above', name', below', shape', named'⟩ := exists_shape_of_isSome named'
  have same : (place path).parent = (place path').parent := by
    rw [shape.map_place_parent?, shape'.map_place_parent?] at siblings
    exact Option.some.inj siblings
  rw [shape.parent_place, shape'.parent_place, Place.mk.injEq] at same
  have longer {stem : List Char} (h : stem ≠ []) : stem ++ '.' :: x.toList ≠ ['.', '.'] := by
    intro dots
    have length := congrArg List.length dots
    have := List.length_pos_of_ne_nil h
    have := List.length_pos_of_ne_nil (String.toList_eq_nil_iff.not.2 some_)
    simp at length
    omega
  rw [shape.stem?_eq named, shape'.stem?_eq named', Option.some_inj, String.ofList_inj]
  obtain ⟨dotted, new⟩ | ⟨kept, new⟩ := shape.withExtension_cases named plain <;>
    obtain ⟨dotted', new'⟩ | ⟨kept', new'⟩ := shape'.withExtension_cases named' plain <;>
    rw [new.place_eq, new'.place_eq, same.1, same.2]
  · obtain ⟨-, ext, -, split⟩ := shape.endsDotted_iff.1 dotted
    obtain ⟨-, ext', -, split'⟩ := shape'.endsDotted_iff.1 dotted'
    simp [dotted, dotted', split, split']
  · simp [dotted, kept', (longer shape'.stem_ne_nil).symm]
  · simp [dotted', kept, longer shape.stem_ne_nil]
  · simp [kept, kept']

end

end ReplicaSeed.FilePath
