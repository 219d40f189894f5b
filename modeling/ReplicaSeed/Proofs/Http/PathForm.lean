import Mathlib.Data.List.TakeWhile
import ReplicaSeed.Http.Pattern
import ReplicaSeed.Proofs.Text.Search

/-!
# Paths and their forms

Which paths have a form, and when every path of one form lies in the reach of another.

## Main definitions

* `Pattern.Fits`: the paths of a form.
* `Pattern.Reads`: the form that some pieces are read as.
* `Pattern.Within`: a form that reaches into another one.

## Main statements

* `Pattern.Fits.of_parameters?`, `Pattern.Fits.parameters?`: the forms that have parameters for a
  path are those that it fits.
* `Pattern.reads_of_ofPieces?`: what a form is read from.
* `pieces_ofList`: every list of pieces is one of a path.
-/

namespace ReplicaSeed

namespace Http

/-- Every list of pieces is one of a path. -/
theorem pieces_ofList {xs : List (List Char)} (some : xs ≠ []) (free : ∀ x ∈ xs, '/' ∉ x) :
    pieces (String.ofList (['/'].intercalate xs)) = xs := by
  rw [pieces, String.toList_ofList, Text.splitOn_eq, List.splitOn_intercalate '/' free some]

/-- What a piece must begin with. -/
def Segment.lead : Segment → String
  | fixed text => text
  | parameter lead _ => lead
  | remainder _ => ""

/-- The name of what a piece can be, if it is not fixed. -/
def Segment.name : Segment → String
  | fixed _ => ""
  | parameter _ name => name
  | remainder name => name

namespace Pattern

/-! ## Forms of paths -/

/-- The pieces are those of a path of the form. -/
inductive Fits : Pattern → List (List Char) → Prop
  | nil : Fits [] []
  | fixed {p : Pattern} {rest : List (List Char)} (text : String) (h : Fits p rest) :
    Fits (.fixed text :: p) (text.toList :: rest)
  | parameter {p : Pattern} {rest : List (List Char)} (lead name : String) (value : List Char)
    (last : rest = [] → value ≠ []) (h : Fits p rest) :
    Fits (.parameter lead name :: p) ((lead.toList ++ value) :: rest)
  | remainder (name : String) (piece : List Char) (rest : List (List Char))
    (last : rest = [] → piece ≠ []) : Fits [.remainder name] (piece :: rest)

variable {p a : Pattern} {xs : List (List Char)}

theorem Fits.of_parameters? {ps : List (String × List Char)} (h : p.parameters? xs = some ps) :
    Fits p xs := by
  fun_induction parameters? p xs generalizing ps with
  | case1 => exact .nil
  | case2 text p rest ih => exact .fixed text (ih h)
  | case3 => cases h
  | case4 => cases h
  | case5 => cases h
  | case6 lead name p piece rest value found last ih =>
    obtain ⟨ps, tail, -⟩ := Option.map_eq_some_iff.1 h
    obtain rfl := Text.stripStart?_eq_some_iff.1 found
    exact .parameter lead name value (fun empty none => last ⟨empty, none⟩) (ih tail)
  | case7 => cases h
  | case8 name piece rest value =>
    rename_i some
    refine .remainder name piece rest fun empty none => some ?_
    subst empty none
    rfl
  | case9 => cases h

theorem Fits.parameters? (h : Fits p xs) : ∃ ps, p.parameters? xs = some ps := by
  induction h with
  | nil => exact ⟨[], rfl⟩
  | fixed text h ih =>
    obtain ⟨ps, ih⟩ := ih
    exact ⟨ps, by rw [Pattern.parameters?, if_pos rfl, ih]⟩
  | parameter lead name value last h ih =>
    obtain ⟨ps, ih⟩ := ih
    have found := Text.stripStart?_eq_some_iff.2 (rfl : lead.toList ++ value = lead.toList ++ value)
    refine ⟨(name, value) :: ps, ?_⟩
    rw [Pattern.parameters?, found]
    simp only
    rw [if_neg fun none => last none.1 none.2, ih, Option.map_some]
  | remainder name piece rest last =>
    refine ⟨[(name, ['/'].intercalate (piece :: rest))], ?_⟩
    rw [Pattern.parameters?]
    refine if_neg fun none => ?_
    cases rest with
    | nil => exact last rfl (by simpa using none)
    | cons y rest => simp [List.intercalate_cons_cons] at none

@[simp] theorem fits_nil_right : Fits p [] ↔ p = [] := by
  constructor
  · rintro ⟨⟩
    rfl
  · rintro rfl
    exact .nil

@[simp] theorem fits_nil_left : Fits [] xs ↔ xs = [] := by
  constructor
  · rintro ⟨⟩
    rfl
  · rintro rfl
    exact .nil

@[simp] theorem fits_fixed {text : String} {piece : List Char} :
    Fits (.fixed text :: p) (piece :: xs) ↔ piece = text.toList ∧ Fits p xs := by
  constructor
  · rintro ⟨⟩
    exact ⟨rfl, ‹_›⟩
  · rintro ⟨rfl, h⟩
    exact .fixed text h

@[simp] theorem fits_parameter {lead name : String} {piece : List Char} :
    Fits (.parameter lead name :: p) (piece :: xs) ↔
      ∃ value, piece = lead.toList ++ value ∧ (xs = [] → value ≠ []) ∧ Fits p xs := by
  constructor
  · rintro ⟨⟩
    exact ⟨_, rfl, ‹_›, ‹_›⟩
  · rintro ⟨value, rfl, last, h⟩
    exact .parameter lead name value last h

@[simp] theorem fits_remainder {name : String} {piece : List Char} :
    Fits [.remainder name] (piece :: xs) ↔ (xs = [] → piece ≠ []) := by
  constructor
  · rintro ⟨⟩
    assumption
  · exact .remainder name piece xs

/-! ## Forms that are read -/

/-- The form that some pieces are read as. A form that stands for the rest of a path ends there. -/
inductive Reads : List (List Char) → Pattern → Prop
  | nil : Reads [] []
  | fixed {xs : List (List Char)} {p : Pattern} (piece : List Char)
    (unmarked : ∀ c ∈ piece, marksParameter c = false) (h : Reads xs p) :
    Reads (piece :: xs) (.fixed (String.ofList piece) :: p)
  | parameter {xs : List (List Char)} {p : Pattern} (lead name : List Char) (h : Reads xs p) :
    Reads ((lead ++ ':' :: name) :: xs) (.parameter (String.ofList lead) (String.ofList name) :: p)
  | remainder (name : List Char) : Reads ['*' :: name] [.remainder (String.ofList name)]

/-- What one piece is read as. -/
theorem readPiece?_cases {last : Bool} {piece : List Char} {s : Segment}
    (h : readPiece? last piece = some s) :
    ((∀ c ∈ piece, marksParameter c = false) ∧ s = .fixed (String.ofList piece)) ∨
    (∃ lead name, piece = lead ++ ':' :: name ∧
      s = .parameter (String.ofList lead) (String.ofList name)) ∨
    last ∧ ∃ name, piece = '*' :: name ∧ s = .remainder (String.ofList name) := by
  have whole := List.takeWhile_append_dropWhile (p := fun c => !marksParameter c) (l := piece)
  unfold readPiece? at h
  split at h
  · rename_i unmarked
    refine .inl ⟨?_, (Option.some.inj h).symm⟩
    simpa using List.dropWhile_eq_nil_iff.1 unmarked
  · rename_i mark name marked
    rw [marked] at whole
    have marks : marksParameter mark := by
      have := List.head?_dropWhile_not (fun c => !marksParameter c) piece
      simpa [marked] using this
    simp only [Option.ite_none_left_eq_some] at h
    obtain ⟨-, h⟩ := h
    split at h
    · rename_i colon
      obtain rfl := Option.some.inj h
      exact .inr (.inl ⟨_, name, colon ▸ whole.symm, rfl⟩)
    · rename_i colon
      obtain ⟨⟨last, only⟩, h⟩ := Option.ite_none_right_eq_some.1 h
      obtain rfl := Option.some.inj h
      obtain rfl : mark = '*' := by simpa [marksParameter, colon] using marks
      exact .inr (.inr ⟨last, name, by rw [← whole, only, List.nil_append], rfl⟩)

/-- What a form is read from. -/
theorem reads_of_ofPieces? (h : ofPieces? xs = some p) : Reads xs p := by
  fun_induction ofPieces? xs generalizing p with
  | case1 =>
    obtain rfl := Option.some.inj h
    exact .nil
  | case2 piece =>
    obtain ⟨s, read, rfl⟩ := Option.map_eq_some_iff.1 h
    obtain ⟨unmarked, rfl⟩ | ⟨lead, name, rfl, rfl⟩ | ⟨-, name, rfl, rfl⟩ := readPiece?_cases read
    · exact .fixed piece unmarked .nil
    · exact .parameter lead name .nil
    · exact .remainder name
  | case3 piece rest some ih =>
    obtain ⟨s, read, p, tail, ⟨⟩⟩ : ∃ s, readPiece? false piece = Option.some s ∧
        ∃ q, ofPieces? rest = Option.some q ∧ s :: q = p := by
      simpa [Option.bind_eq_some_iff] using h
    obtain ⟨unmarked, rfl⟩ | ⟨lead, name, rfl, rfl⟩ | ⟨⟨⟩, -⟩ := readPiece?_cases read
    · exact .fixed piece unmarked (ih tail)
    · exact .parameter lead name (ih tail)

/-! ## The path of a target -/

/-- The character can stand in the path of a target. -/
def inPath (c : Char) : Bool := c != '?' && c != '#'

/-- The pieces up to the first character that ends the path of a target. -/
def cut : List (List Char) → List (List Char)
  | [] => []
  | piece :: rest =>
    if piece.all inPath then piece :: cut rest else [piece.takeWhile inPath]

theorem cut_of_inPath {piece : List Char} (whole : ∀ c ∈ piece, inPath c)
    (rest : List (List Char)) : cut (piece :: rest) = piece :: cut rest :=
  if_pos (List.all_eq_true.2 whole)

theorem cut_of_not_inPath {piece : List Char} (ends : ¬ ∀ c ∈ piece, inPath c)
    (rest : List (List Char)) : cut (piece :: rest) = [piece.takeWhile inPath] :=
  if_neg fun all => ends (List.all_eq_true.1 all)

theorem splitOn_takeWhile (cs : List Char) :
    Text.splitOn '/' (cs.takeWhile inPath) = cut (Text.splitOn '/' cs) := by
  induction cs with
  | nil => rfl
  | cons c cs ih =>
    by_cases within : inPath c = true
    · rw [List.takeWhile_cons_of_pos within]
      by_cases slash : c = '/'
      · simp [Text.splitOn, slash, ih, cut]
      · simp only [Text.splitOn, slash, if_false, ih]
        cases split : Text.splitOn '/' cs with
        | nil => simp [cut, within]
        | cons piece rest =>
          by_cases whole : piece.all inPath = true
          · simp [cut, within, whole]
          · simp [cut, within, whole]
    · rw [List.takeWhile_cons_of_neg within]
      have slash : c ≠ '/' := fun same => within (same ▸ rfl)
      simp only [Text.splitOn, slash, if_false]
      cases Text.splitOn '/' cs with
      | nil => simp [cut, within]
      | cons piece rest => simp [cut, within]

/-- A target with the text of the form has a path of the form: only the last name may have a
character that ends the path. -/
def Askable : Pattern → Prop
  | [] => True
  | s :: rest =>
    (∀ c ∈ s.lead.toList, inPath c) ∧ (rest = [] ∨ ∀ c ∈ s.name.toList, inPath c) ∧ Askable rest

/-- A piece that is cut off has no more of what it must begin with than before. -/
theorem inPath_of_takeWhile {lead rest value : List Char}
    (h : (lead ++ rest).takeWhile inPath = lead ++ value) : ∀ c ∈ lead, inPath c := by
  intro c member
  have kept : c ∈ (lead ++ rest).takeWhile inPath := h ▸ List.mem_append_left _ member
  exact List.mem_takeWhile_imp kept

/-- The target with the text of a form has a path of the form just if it can be asked for. -/
theorem fits_cut_iff (reads : Reads xs p) : Fits p (cut xs) ↔ p.Askable := by
  induction reads with
  | nil => simp [cut, Askable]
  | @fixed xs p piece unmarked reads ih =>
    by_cases whole : ∀ c ∈ piece, inPath c
    · rw [cut_of_inPath whole]
      simp [ih, Askable, Segment.lead, Segment.name, eq_true whole]
    · rw [cut_of_not_inPath whole]
      simp [Askable, Segment.lead, whole]
  | @parameter xs p lead name reads ih =>
    by_cases whole : ∀ c ∈ lead, inPath c
    · by_cases named : ∀ c ∈ name, inPath c
      · have all : ∀ c ∈ lead ++ ':' :: name, inPath c :=
          List.forall_mem_append.2 ⟨whole, List.forall_mem_cons.2 ⟨rfl, named⟩⟩
        rw [cut_of_inPath all]
        simp [ih, Askable, Segment.lead, Segment.name, eq_true whole, eq_true named]
      · have ends : ¬ ∀ c ∈ lead ++ ':' :: name, inPath c := fun all =>
          named (List.forall_mem_cons.1 (List.forall_mem_append.1 all).2).2
        have stopped : (lead ++ ':' :: name).takeWhile inPath =
            lead ++ ':' :: name.takeWhile inPath := List.takeWhile_append_of_pos whole
        have ended : p = [] → p.Askable := by
          rintro rfl
          trivial
        rw [cut_of_not_inPath ends, stopped]
        simpa [Askable, Segment.lead, Segment.name, eq_true whole, named] using ended
    · have ends : ¬ ∀ c ∈ lead ++ ':' :: name, inPath c := fun all =>
        whole (List.forall_mem_append.1 all).1
      rw [cut_of_not_inPath ends]
      simp only [fits_parameter, String.toList_ofList, Askable, Segment.lead, whole, false_and,
        iff_false, not_exists]
      exact fun value kept => whole (inPath_of_takeWhile kept.1)
  | remainder name =>
    have ask : Askable [.remainder (String.ofList name)] := by simp [Askable, Segment.lead]
    by_cases whole : ∀ c ∈ '*' :: name, inPath c
    · rw [cut_of_inPath whole]
      simp [cut, ask]
    · have first : inPath '*' = true := rfl
      rw [cut_of_not_inPath whole, List.takeWhile_cons_of_pos first]
      simp [ask]

/-! ## Forms that reach into others -/

/-- The form of fixed pieces, and then parameters without a lead. -/
def fixedThen (texts names : List String) : Pattern :=
  texts.map .fixed ++ names.map (.parameter "")

/-- The first form reaches into the second one: it asks for the same fixed pieces, and for anything
where the second one has parameters. -/
inductive Within : Pattern → Pattern → Prop
  | nil : Within [] []
  | fixed {p a : Pattern} (text : String) (h : Within p a) :
    Within (.fixed text :: p) (.fixed text :: a)
  | piece {p a : Pattern} (text name : String) (last : a = [] → text ≠ "") (h : Within p a) :
    Within (.fixed text :: p) (.parameter "" name :: a)
  | parameter {p a : Pattern} (lead other name : String) (h : Within p a) :
    Within (.parameter lead other :: p) (.parameter "" name :: a)
  | remainder {a : Pattern} (other name : String) :
    Within [.remainder other] (.parameter "" name :: a)

theorem within_parameters {names : List String} (fits : Fits p xs)
    (fits' : Fits (names.map (.parameter "")) xs) : Within p (names.map (.parameter "")) := by
  induction names generalizing p xs with
  | nil =>
    obtain rfl := fits_nil_left.1 fits'
    obtain rfl := fits_nil_right.1 fits
    exact .nil
  | cons name names ih =>
    cases fits' with
    | @parameter _ rest _ _ value last rest' =>
      have ended : names.map (Segment.parameter "") = [] → rest = [] := fun none => by
        rw [none] at rest'
        exact fits_nil_left.1 rest'
      generalize split : "".toList ++ value = piece at fits
      cases fits with
      | fixed text h =>
        refine .piece text name (fun none empty => last (ended none) ?_) (ih h rest')
        simpa [empty] using split
      | parameter lead other _ _ h => exact .parameter lead other name (ih h rest')
      | remainder other => exact .remainder other name

/-- Where a path has both forms, and the one with fixed pieces and parameters is not the closer one,
the other one reaches into it. -/
theorem within_of_not_isCloser {texts names : List String} (fits : Fits p xs)
    (fits' : Fits (fixedThen texts names) xs)
    (far : isCloser (fixedThen texts names) p = false) : Within p (fixedThen texts names) := by
  induction texts generalizing p xs with
  | nil => exact within_parameters fits fits'
  | cons text texts ih =>
    cases fits' with
    | fixed _ rest' =>
      generalize split : text.toList = piece at fits
      cases fits with
      | fixed other h =>
        obtain rfl := String.toList_inj.1 split
        exact .fixed text (ih h rest' (by simpa [fixedThen, isCloser, closeness] using far))
      | parameter => simp [fixedThen, isCloser, closeness] at far
      | remainder => simp [fixedThen, isCloser, closeness] at far

/-- A form is not closer than one that reaches into it, unless the two cannot be told apart. -/
theorem Within.not_isCloser (h : Within p a) (apart : p.clashes a = false) :
    a.isCloser p = false := by
  induction h with
  | nil => rfl
  | fixed text h ih => simpa [isCloser, closeness] using ih (by simpa [clashes] using apart)
  | piece text name last h ih => simp [isCloser, closeness]
  | parameter lead other name h ih =>
    by_cases empty : lead = ""
    · simpa [isCloser, closeness, empty] using ih (by simpa [clashes, empty] using apart)
    · have long : 0 ≠ lead.length := fun none => empty (String.length_eq_zero_iff.1 none.symm)
      simp [isCloser, closeness, long]
  | remainder other name => simp [clashes] at apart

/-- A form reaches into one that it cannot be told apart from. -/
theorem within_of_clashes {texts names : List String} (reads : Reads xs p)
    (clash : p.clashes (fixedThen texts names)) : Within p (fixedThen texts names) := by
  induction texts generalizing p xs with
  | nil =>
    induction names generalizing p xs with
    | nil =>
      cases reads with
      | nil => exact .nil
      | _ => simp [fixedThen, clashes] at clash
    | cons name names ih =>
      cases reads with
      | nil => simp [fixedThen, clashes] at clash
      | fixed => simp [fixedThen, clashes] at clash
      | parameter lead other reads =>
        obtain ⟨-, clash⟩ : String.ofList lead = "" ∧ clashes _ (fixedThen [] names) := by
          simpa [fixedThen, clashes] using clash
        exact .parameter _ _ name (ih reads clash)
      | remainder other => exact .remainder _ name
  | cons text texts ih =>
    cases reads with
    | fixed piece unmarked reads =>
      obtain ⟨rfl, rest⟩ : String.ofList piece = text ∧ clashes _ (fixedThen texts names) := by
        simpa [fixedThen, clashes] using clash
      exact .fixed _ (ih reads rest)
    | _ => simp [fixedThen, clashes] at clash

/-- Parameters can have any value. -/
theorem fits_filled (names : List String) :
    Fits (names.map (.parameter "")) (names.map fun _ => ['x']) := by
  induction names with
  | nil => exact .nil
  | cons name names ih => exact .parameter "" name ['x'] (fun _ => by simp) ih

theorem exists_fits_parameters {names : List String} (reads : Reads xs p)
    (free : ∀ x ∈ xs, '/' ∉ x) (h : Within p (names.map (.parameter ""))) :
    ∃ ys, (∀ y ∈ ys, '/' ∉ y) ∧ Fits p ys ∧ Fits (names.map (.parameter "")) ys := by
  induction names generalizing p xs with
  | nil =>
    cases h
    exact ⟨[], nofun, .nil, .nil⟩
  | cons name names ih =>
    cases h with
    | piece text _ last h =>
      cases reads with
      | fixed piece unmarked reads =>
        obtain ⟨clean, free⟩ := List.forall_mem_cons.1 free
        obtain ⟨ys, free', fits, fits'⟩ := ih reads free h
        refine ⟨piece :: ys, List.forall_mem_cons.2 ⟨clean, free'⟩, ?_, ?_⟩
        · exact fits_fixed.2 ⟨String.toList_ofList.symm, fits⟩
        · refine .parameter "" name piece (fun ended empty => last ?_ ?_) fits'
          · exact fits_nil_right.1 (ended ▸ fits')
          · rw [empty]
    | parameter lead other _ h =>
      cases reads with
      | parameter lead other reads =>
        obtain ⟨clean, free⟩ := List.forall_mem_cons.1 free
        obtain ⟨ys, free', fits, fits'⟩ := ih reads free h
        refine ⟨(lead ++ ['x']) :: ys, List.forall_mem_cons.2 ⟨?_, free'⟩, ?_, ?_⟩
        · simp only [List.mem_append, not_or] at clean
          simp [clean.1]
        · exact fits_parameter.2 ⟨['x'], by rw [String.toList_ofList], by simp, fits⟩
        · exact .parameter "" name (lead ++ ['x']) (fun _ => by simp) fits'
    | remainder other _ =>
      refine ⟨['x'] :: names.map fun _ => ['x'], ?_, ?_, ?_⟩
      · simp
      · exact .remainder other ['x'] _ fun _ => by simp
      · exact .parameter "" name ['x'] (fun _ => by simp) (fits_filled names)

/-- Where a form reaches into another one, there is a path that has both. -/
theorem Within.exists_fits {texts names : List String} (reads : Reads xs p)
    (free : ∀ x ∈ xs, '/' ∉ x) (h : Within p (fixedThen texts names)) :
    ∃ ys, (∀ y ∈ ys, '/' ∉ y) ∧ Fits p ys ∧ Fits (fixedThen texts names) ys := by
  induction texts generalizing p xs with
  | nil => exact exists_fits_parameters reads free h
  | cons text texts ih =>
    cases h with
    | fixed _ h =>
      cases reads with
      | fixed piece unmarked reads =>
        obtain ⟨clean, free⟩ := List.forall_mem_cons.1 free
        obtain ⟨ys, free', fits, fits'⟩ := ih reads free h
        have fixed {q : Pattern} (fits : Fits q ys) :
            Fits (.fixed (String.ofList piece) :: q) (piece :: ys) :=
          fits_fixed.2 ⟨String.toList_ofList.symm, fits⟩
        exact ⟨piece :: ys, List.forall_mem_cons.2 ⟨clean, free'⟩, fixed fits, fixed fits'⟩

/-- The first piece of a path of the form keeps the mark of a parameter. -/
theorem exists_marked {lead name : List Char} {q : Pattern} {other : String} {piece : List Char}
    {rest : List (List Char)} (first : cut ((lead ++ ':' :: name) :: xs) = piece :: rest)
    (fits : Fits (.parameter (String.ofList lead) other :: q) (piece :: rest)) :
    ∃ c ∈ piece, marksParameter c := by
  refine ⟨':', ?_, rfl⟩
  obtain ⟨value, begins, -, -⟩ := fits_parameter.1 fits
  rw [String.toList_ofList] at begins
  by_cases whole : ∀ c ∈ lead ++ ':' :: name, inPath c
  · rw [cut_of_inPath whole] at first
    simp [← (List.cons.inj first).1]
  · rw [cut_of_not_inPath whole] at first
    have cutOff := (List.cons.inj first).1
    have kept : (lead ++ ':' :: name).takeWhile inPath = lead ++ ':' :: name.takeWhile inPath :=
      List.takeWhile_append_of_pos (inPath_of_takeWhile (cutOff.trans begins))
    simp [← cutOff, kept]

/-- If the path of a target with the text of a form has another form as well, the first form reaches
into that one: a fixed piece is read as itself. -/
theorem within_of_fits_cut {texts names : List String}
    (unmarked : ∀ text ∈ texts, ∀ c ∈ text.toList, marksParameter c = false)
    (reads : Reads xs p) (fits : Fits p (cut xs)) (fits' : Fits (fixedThen texts names) (cut xs)) :
    Within p (fixedThen texts names) := by
  induction texts generalizing p xs with
  | nil => exact within_parameters fits fits'
  | cons text texts ih =>
    obtain ⟨clean, unmarked⟩ := List.forall_mem_cons.1 unmarked
    cases reads with
    | nil => cases fits'
    | @fixed xs p piece plain reads =>
      have whole : ∀ c ∈ piece, inPath c := by
        refine Classical.byContradiction fun ends => ?_
        rw [cut_of_not_inPath ends, fits_fixed, String.toList_ofList] at fits
        exact ends (List.takeWhile_eq_self_iff.1 fits.1)
      rw [cut_of_inPath whole] at fits fits'
      obtain ⟨rfl, others⟩ := fits_fixed.1 fits'
      rw [String.ofList_toList]
      exact .fixed text (ih unmarked reads (fits_fixed.1 fits).2 others)
    | parameter lead name reads =>
      generalize first : cut ((lead ++ ':' :: name) :: _) = ys at fits fits'
      cases fits' with
      | fixed _ rest =>
        obtain ⟨c, member, marks⟩ := exists_marked first fits
        simp [clean c member] at marks
    | remainder name =>
      have first : ∃ after rest, cut ['*' :: name] = ('*' :: after) :: rest := by
        by_cases whole : ∀ c ∈ '*' :: name, inPath c
        · exact ⟨name, [], cut_of_inPath whole []⟩
        · exact ⟨name.takeWhile inPath, [], cut_of_not_inPath whole []⟩
      obtain ⟨after, rest, first⟩ := first
      rw [first] at fits'
      have star := clean '*' ((fits_fixed.1 fits').1 ▸ .head _)
      cases star

end Pattern

end Http

end ReplicaSeed
