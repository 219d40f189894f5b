import Mathlib.Data.List.Infix
import Mathlib.Data.List.TakeWhile
import ReplicaSeed.Text.Search

/-!
# Where a piece of text stands

The searches in a text, by what they say about it: a piece that is found is an infix, and where it
is found first depends on nothing behind it. A character that a piece does not have is a wall that
the piece cannot stand across.

## Main statements

* `contains_iff`, `startsWith_iff`: a piece that is found is an infix, or a prefix.
* `isInfix_append_cons`: a piece without a character stands on one side of it.
* `cut?_first`: where a piece stands first.
* `cut?_concat`: a character behind the text changes nothing.
-/

namespace ReplicaSeed.Text

variable {p cs a b rest before after : List Char} {c d : Char}

/-! ## At the beginning -/

theorem stripStart?_append (long : p.length ≤ cs.length) (rest : List Char) :
    stripStart? p (cs ++ rest) = (stripStart? p cs).map (· ++ rest) := by
  induction p generalizing cs with
  | nil => rfl
  | cons a p ih =>
    cases cs with
    | nil => simp at long
    | cons c cs =>
      simp only [List.cons_append, stripStart?]
      split
      · exact ih (by simpa using long)
      · rfl

theorem startsWith_iff : startsWith p cs = true ↔ p <+: cs := by
  rw [startsWith, Option.isSome_iff_exists]
  exact exists_congr fun rest => stripStart?_eq_some_iff.trans eq_comm

theorem stripStart?_eq_none_iff : stripStart? p cs = none ↔ ¬ p <+: cs := by
  rw [← startsWith_iff, startsWith, Option.not_isSome_iff_eq_none]

/-! ## Anywhere -/

theorem cut?_append_self (p rest : List Char) : cut? p (p ++ rest) = some ([], rest) := by
  cases p with
  | nil => cases rest <;> rfl
  | cons a p =>
    have found : stripStart? (a :: p) (a :: p ++ rest) = some rest := stripStart?_eq_some_iff.2 rfl
    rw [List.cons_append] at found ⊢
    rw [cut?, found]

/-- Where a text occurs first is decided by the time that it occurs; what follows does not count. -/
theorem cut?_append (p a : List Char) :
    ∃ before, ∀ rest, ∃ after, cut? p (a ++ p ++ rest) = some (before, after) := by
  induction a with
  | nil => exact ⟨[], fun rest => ⟨rest, cut?_append_self p rest⟩⟩
  | cons c a ih =>
    obtain ⟨before, found⟩ := ih
    -- An occurrence at the head lies within `c :: (a ++ p)`, whatever the rest is.
    have long : p.length ≤ (c :: (a ++ p)).length := by
      simp only [List.length_cons, List.length_append]
      omega
    have strip (rest : List Char) := stripStart?_append long rest
    cases here : stripStart? p (c :: (a ++ p)) with
    | some after =>
      refine ⟨[], fun rest => ⟨after ++ rest, ?_⟩⟩
      have stripped := strip rest
      rw [here, List.cons_append] at stripped
      rw [List.cons_append, List.cons_append, cut?, stripped]
      rfl
    | none =>
      refine ⟨c :: before, fun rest => ?_⟩
      obtain ⟨after, later⟩ := found rest
      have stripped := strip rest
      rw [here, List.cons_append] at stripped
      refine ⟨after, ?_⟩
      rw [List.cons_append, List.cons_append, cut?, stripped, Option.map_none, later]
      rfl

theorem cut?_eq_none_iff : cut? p cs = none ↔ ¬ p <:+: cs := by
  induction cs with
  | nil => by_cases empty : p = [] <;> simp [cut?, empty]
  | cons c cs ih =>
    rw [cut?, List.infix_cons_iff, not_or, ← stripStart?_eq_none_iff]
    cases stripStart? p (c :: cs) with
    | some rest => simp
    | none => simp [ih]

theorem contains_iff : contains p cs = true ↔ p <:+: cs := by
  rw [contains, Option.isSome_iff_ne_none, ne_eq, cut?_eq_none_iff, Decidable.not_not]

/-- A piece that does not have a character stands before it or behind it. -/
theorem isInfix_append_cons (wall : d ∉ p) :
    p <:+: a ++ d :: b ↔ p <:+: a ∨ p <:+: b := by
  constructor
  · rintro ⟨before, after, split⟩
    rw [List.append_assoc, List.append_eq_append_iff] at split
    obtain ⟨more, rfl, split⟩ | ⟨more, rfl, split⟩ := split
    · rw [List.append_eq_append_iff] at split
      obtain ⟨more', rfl, -⟩ | ⟨more', rfl, split⟩ := split
      · exact .inl ⟨before, more', by simp⟩
      · cases more' with
        | nil => exact .inl ⟨before, [], by simp⟩
        | cons e more' =>
          obtain ⟨rfl, -⟩ := List.cons.inj split
          simp at wall
    · cases more with
      | nil => cases p <;> simp_all
      | cons e more =>
        obtain ⟨rfl, rfl⟩ := List.cons.inj split
        exact .inr ⟨more, after, by simp⟩
  · rintro (⟨before, after, rfl⟩ | ⟨before, after, rfl⟩)
    · exact ⟨before, after ++ d :: b, by simp⟩
    · exact ⟨a ++ d :: before, after, by simp⟩

/-- A piece with a character that the text does not have is not found. -/
theorem not_isInfix_of_not_mem (member : c ∈ p) (absent : c ∉ cs) : ¬ p <:+: cs :=
  fun found => absent (found.subset member)

/-- A piece stands first where it is not found before its last character. -/
theorem cut?_first (first : ¬ p <:+: a ++ p.dropLast) (rest : List Char) :
    cut? p (a ++ p ++ rest) = some (a, rest) := by
  induction a with
  | nil => exact cut?_append_self p rest
  | cons c a ih =>
    rw [List.cons_append, List.infix_cons_iff, not_or] at first
    have here : stripStart? p (c :: (a ++ p ++ rest)) = none := by
      rw [stripStart?_eq_none_iff]
      intro begins
      have shorter : c :: (a ++ p.dropLast) <+: c :: (a ++ p ++ rest) := by
        refine ⟨p.drop (p.length - 1) ++ rest, ?_⟩
        rw [List.dropLast_eq_take]
        simp only [List.cons_append, List.append_assoc]
        rw [← List.append_assoc (List.take _ _), List.take_append_drop]
      -- A piece that is not empty ends at least one character before the one behind the head.
      have fits : p.length ≤ (c :: (a ++ p.dropLast)).length := by
        simp
        omega
      exact first.1 (List.prefix_of_prefix_length_le begins shorter fits)
    rw [List.cons_append, List.cons_append, cut?, here, ih first.2]
    rfl

/-! ## Cutting at a character -/

/-- What `splitOnce?` splits was there. -/
theorem append_of_splitOnce? (found : splitOnce? d cs = some (before, after)) :
    cs = before ++ d :: after := by
  induction cs generalizing before with
  | nil => cases found
  | cons c cs ih =>
    rw [splitOnce?] at found
    split at found
    · rename_i here
      cases found
      rw [here]
      rfl
    · obtain ⟨⟨start, rest⟩, later, same⟩ := Option.map_eq_some_iff.1 found
      cases same
      rw [ih later]
      rfl

theorem splitOnce?_append (free : d ∉ a) (b : List Char) :
    splitOnce? d (a ++ b) = (splitOnce? d b).map fun (before, after) => (a ++ before, after) := by
  induction a with
  | nil => simp
  | cons c a ih =>
    rw [List.mem_cons, not_or] at free
    rw [List.cons_append, splitOnce?, if_neg (Ne.symm free.1), ih free.2, Option.map_map]
    rfl

theorem splitOnce?_append_cons (free : d ∉ a) (b : List Char) :
    splitOnce? d (a ++ d :: b) = some (a, b) := by
  simp [splitOnce?_append free, splitOnce?]

/-- A text is cut at the first place where the character stands. -/
theorem splitOnce?_eq_some_iff :
    splitOnce? d cs = some (before, after) ↔ d ∉ before ∧ cs = before ++ d :: after := by
  constructor
  · intro found
    refine ⟨?_, append_of_splitOnce? found⟩
    induction cs generalizing before with
    | nil => cases found
    | cons c cs ih =>
      rw [splitOnce?] at found
      split at found
      · cases found
        exact List.not_mem_nil
      · rename_i other
        obtain ⟨⟨start, rest⟩, later, same⟩ := Option.map_eq_some_iff.1 found
        cases same
        exact List.not_mem_cons_of_ne_of_not_mem (Ne.symm other) (ih later)
  · rintro ⟨free, rfl⟩
    exact splitOnce?_append_cons free after

/-- Text without the character is not cut. -/
theorem splitOnce?_eq_none_iff : splitOnce? d cs = none ↔ d ∉ cs := by
  constructor
  · intro whole member
    obtain ⟨before, after, rfl, free⟩ := List.eq_append_cons_of_mem member
    rw [splitOnce?_append_cons free] at whole
    cases whole
  · intro free
    cases found : splitOnce? d cs with
    | none => rfl
    | some parts =>
      obtain ⟨-, rfl⟩ := splitOnce?_eq_some_iff.1 found
      exact absurd (by simp) free

theorem splitOn_eq (d : Char) (cs : List Char) : splitOn d cs = cs.splitOn d := by
  rw [List.splitOn_eq_splitOnP]
  induction cs with
  | nil => rfl
  | cons c cs ih =>
    rw [splitOn, List.splitOnP_cons_eq_if_modifyHead, ih]
    simp only [beq_iff_eq]
    split
    · rfl
    · split
      · rename_i none
        exact absurd none (List.splitOnP_ne_nil _ cs)
      · rename_i split
        rw [split, List.modifyHead_cons]

/-- No piece has the character that the pieces are cut at. -/
theorem not_mem_of_mem_splitOn {piece : List Char} (member : piece ∈ splitOn d cs) :
    d ∉ piece := by
  induction cs generalizing piece with
  | nil =>
    obtain rfl := List.mem_singleton.1 member
    exact List.not_mem_nil
  | cons c cs ih =>
    rw [splitOn] at member
    split at member
    · obtain rfl | member := List.mem_cons.1 member
      · exact List.not_mem_nil
      · exact ih member
    · rename_i other
      split at member
      · obtain rfl := List.mem_singleton.1 member
        exact fun same => other (List.mem_singleton.1 same).symm
      · rename_i first rest split
        rw [split] at ih
        obtain rfl | member := List.mem_cons.1 member
        · exact List.not_mem_cons_of_ne_of_not_mem (fun same => other same.symm) (ih (.head _))
        · exact ih (.tail _ member)

/-- The pieces are those that give the text when the character is put between them. -/
theorem splitOn_eq_iff {pieces : List (List Char)} :
    splitOn d cs = pieces ↔
      pieces ≠ [] ∧ cs = [d].intercalate pieces ∧ ∀ piece ∈ pieces, d ∉ piece := by
  constructor
  · rintro rfl
    refine ⟨?_, ?_, fun piece => not_mem_of_mem_splitOn⟩
    · simp [splitOn_eq, List.splitOn_ne_nil]
    · rw [splitOn_eq, List.intercalate_splitOn]
  · rintro ⟨some_, rfl, without⟩
    rw [splitOn_eq, List.splitOn_intercalate d without some_]

/-! ## A character behind the text -/

theorem stripStart?_concat (strange : d ∉ p) (some : p ≠ []) (cs : List Char) :
    stripStart? p (cs ++ [d]) = (stripStart? p cs).map (· ++ [d]) := by
  fun_induction stripStart? p cs with
  | case1 cs => exact absurd rfl some
  | case2 a p => simp [stripStart?, Ne.symm (List.ne_of_not_mem_cons strange)]
  | case3 p a cs ih =>
    cases p with
    | nil => simp [stripStart?]
    | cons b p =>
      simpa [stripStart?] using ih (List.not_mem_of_not_mem_cons strange) (List.cons_ne_nil b p)
  | case4 a p c cs other => simp [stripStart?, other]

/-- A piece is found in the same place if a character is put behind the text that the piece does not
have. -/
theorem cut?_concat (strange : d ∉ p) (some : p ≠ []) (cs : List Char) :
    cut? p (cs ++ [d]) = (cut? p cs).map fun (before, after) => (before, after ++ [d]) := by
  induction cs with
  | nil =>
    have absent : ¬ p <:+: [d] := by
      obtain ⟨c, p, rfl⟩ := List.exists_cons_of_ne_nil some
      intro found
      obtain rfl : c = d := List.mem_singleton.1 (found.subset (.head p))
      exact strange (.head p)
    rw [List.nil_append, cut?_eq_none_iff.2 absent, cut?, if_neg some, Option.map_none]
  | cons c cs ih =>
    have strip := stripStart?_concat strange some (c :: cs)
    rw [List.cons_append] at strip ⊢
    rw [cut?, strip, cut?, ih]
    cases stripStart? p (c :: cs) <;> cases cut? p cs <;> rfl

theorem contains_concat (strange : d ∉ p) (some : p ≠ []) :
    contains p (cs ++ [d]) = contains p cs := by
  rw [contains, cut?_concat strange some, Option.isSome_map, contains]

theorem splitOnce?_concat (other : c ≠ d) :
    splitOnce? d (cs ++ [c]) =
      (splitOnce? d cs).map fun (before, after) => (before, after ++ [c]) := by
  induction cs with
  | nil => simp [splitOnce?, other]
  | cons e cs ih =>
    rw [List.cons_append, splitOnce?, splitOnce?, ih]
    split
    · rfl
    · cases splitOnce? d cs <;> rfl

end ReplicaSeed.Text
