import ReplicaSeed.Proofs.Text.Blank
import ReplicaSeed.Proofs.Text.Search

/-!
# Lines

A text is some lines with a line feed each, and what is left after the last line feed. Reading its
lines gives just these, without the carriage returns before the line feeds. What a line feed is does
not matter for that: the bytes of a file are cut in the same way as the characters of a text.

## Main definitions

* `linesAt`: the lines of a sequence, each with its line feed.
* `terminated`: the sequence of some lines, each with its line feed.
* `dropReturn`: a line without the carriage return that belongs to its end.
* `HasLines`: the lines of a text.

## Main statements

* `exists_terminated`, `linesAt_terminated_append`: every sequence is of that kind, and is cut so.
* `lines_terminated_append`: the lines that are read of a text.
* `lines_eq_iff`: reading gives the lines of a text.
* `splitOn_intercalate_append`: lines that were joined are cut where they were joined.
-/

namespace ReplicaSeed.Text

/-! ## The first of a kind -/

/-- The first element of a kind is the same for all who look for it, also where the kind depends on
the elements before. -/
theorem eq_of_first {α : Type} {kind : List α → α → Prop} {a a' b b' : List α} {x x' : α}
    (same : a ++ x :: b = a' ++ x' :: b') (holds : kind a x) (holds' : kind a' x')
    (first : ∀ earlier y more, a = earlier ++ y :: more → ¬ kind earlier y)
    (first' : ∀ earlier y more, a' = earlier ++ y :: more → ¬ kind earlier y) :
    a = a' ∧ x = x' ∧ b = b' := by
  obtain ⟨more, rfl, tail⟩ | ⟨more, rfl, tail⟩ := List.append_eq_append_iff.1 same
  all_goals
    cases more with
    | nil =>
      obtain ⟨rfl, rfl⟩ := List.cons.inj tail
      simp
    | cons y more =>
      obtain ⟨rfl, -⟩ := List.cons.inj tail
      first
      | exact absurd holds (first' _ _ _ rfl)
      | exact absurd holds' (first _ _ _ rfl)

/-! ## Cutting at line feeds -/

section

variable {α : Type} {feed : α} {line xs : List α} {ls : List (List α)}

/-- The sequence of some lines, each with its line feed. -/
def terminated (feed : α) (ls : List (List α)) : List α := ls.flatMap (· ++ [feed])

@[simp] theorem terminated_nil : terminated feed [] = [] := rfl

@[simp] theorem terminated_cons (line : List α) (ls : List (List α)) :
    terminated feed (line :: ls) = line ++ feed :: terminated feed ls := by
  simp [terminated]

@[simp] theorem terminated_append (ls ms : List (List α)) :
    terminated feed (ls ++ ms) = terminated feed ls ++ terminated feed ms := by
  simp [terminated]

variable [DecidableEq α]

/-- The lines of a sequence, each still with its line feed; only the last may lack one. -/
def linesAt (feed : α) : List α → List (List α)
  | [] => []
  | x :: xs =>
    if x = feed then [x] :: linesAt feed xs
    else
      match linesAt feed xs with
      | [] => [[x]]
      | line :: rest => (x :: line) :: rest

theorem rawLines_eq (cs : List Char) : rawLines cs = linesAt '\n' cs := by
  fun_induction rawLines cs <;> simp_all [linesAt]

/-- Every sequence is of some lines with their line feeds, and the rest after the last of them. -/
theorem exists_terminated (feed : α) (xs : List α) :
    ∃ ls last, xs = terminated feed ls ++ last ∧ (∀ line ∈ ls, feed ∉ line) ∧ feed ∉ last := by
  induction xs with
  | nil => exact ⟨[], [], rfl, nofun, List.not_mem_nil⟩
  | cons x xs ih =>
    obtain ⟨ls, last, rfl, within, unended⟩ := ih
    by_cases ends : x = feed
    · refine ⟨[] :: ls, last, by simp [ends], ?_, unended⟩
      exact List.forall_mem_cons.2 ⟨List.not_mem_nil, within⟩
    · cases ls with
      | nil => exact ⟨[], x :: last, by simp, nofun, by simp [unended, Ne.symm ends]⟩
      | cons line ls =>
        obtain ⟨first, within⟩ := List.forall_mem_cons.1 within
        refine ⟨(x :: line) :: ls, last, by simp, List.forall_mem_cons.2 ⟨?_, within⟩, unended⟩
        simp [first, Ne.symm ends]

theorem linesAt_append_cons (within : feed ∉ line) (rest : List α) :
    linesAt feed (line ++ feed :: rest) = (line ++ [feed]) :: linesAt feed rest := by
  induction line with
  | nil => simp [linesAt]
  | cons x line ih =>
    rw [List.mem_cons, not_or] at within
    rw [List.cons_append, linesAt, if_neg (Ne.symm within.1), ih within.2]
    rfl

/-- What is left after the last line feed is a line if it is not empty. -/
theorem linesAt_of_not_mem (within : feed ∉ xs) :
    linesAt feed xs = if xs = [] then [] else [xs] := by
  induction xs with
  | nil => rfl
  | cons x xs ih =>
    rw [List.mem_cons, not_or] at within
    rw [linesAt, if_neg (Ne.symm within.1), ih within.2]
    cases xs <;> rfl

/-- The lines of some lines with their line feeds, and of what is behind them. -/
theorem linesAt_terminated_append (within : ∀ line ∈ ls, feed ∉ line) (rest : List α) :
    linesAt feed (terminated feed ls ++ rest) = ls.map (· ++ [feed]) ++ linesAt feed rest := by
  induction ls with
  | nil => rfl
  | cons line ls ih =>
    obtain ⟨first, within⟩ := List.forall_mem_cons.1 within
    rw [terminated_cons, List.append_assoc, List.cons_append, linesAt_append_cons first, ih within]
    rfl

end

/-! ## Line ends -/

variable {line cs : List Char} {ls : List (List Char)}

/-- A line without the carriage return that belongs to its end. -/
def dropReturn (line : List Char) : List Char := stripLineEnd (line ++ ['\n'])

@[simp] theorem dropReturn_concat (line : List Char) : dropReturn (line ++ ['\r']) = line := by
  simp [dropReturn, stripLineEnd]

theorem dropReturn_of_ne (other : line.getLast? ≠ some '\r') : dropReturn line = line := by
  obtain rfl | ⟨ds, d, rfl⟩ := List.eq_nil_or_concat line
  · rfl
  · rw [List.concat_eq_append, List.getLast?_concat, ne_eq, Option.some.injEq] at other
    simp [dropReturn, stripLineEnd, other]

/-- A line differs from what is read of it at most in a carriage return. -/
theorem eq_dropReturn_or (line : List Char) :
    dropReturn line = line ∨ line = dropReturn line ++ ['\r'] := by
  by_cases ends : line.getLast? = some '\r'
  · obtain ⟨ds, rfl⟩ := List.getLast?_eq_some_iff.1 ends
    exact .inr (by rw [dropReturn_concat])
  · exact .inl (dropReturn_of_ne ends)

theorem dropReturn_isPrefix (line : List Char) : dropReturn line <+: line := by
  obtain same | same := eq_dropReturn_or line
  · rw [same]
  · exact ⟨['\r'], same.symm⟩

/-- Only the last character counts. -/
theorem dropReturn_append {before : List Char} (other : before.getLast? ≠ some '\r')
    (line : List Char) : dropReturn (before ++ line) = before ++ dropReturn line := by
  obtain rfl | ⟨ds, d, rfl⟩ := List.eq_nil_or_concat line
  · rw [List.append_nil, dropReturn_of_ne other]
    exact (List.append_nil before).symm
  · rw [List.concat_eq_append, ← List.append_assoc]
    by_cases ends : d = '\r'
    · rw [ends, dropReturn_concat, dropReturn_concat]
    · rw [dropReturn_of_ne (by simpa using ends), dropReturn_of_ne (by simpa using ends),
        List.append_assoc]

theorem trim_dropReturn (line : List Char) : trim (dropReturn line) = trim line := by
  rw [dropReturn, trim_stripLineEnd, trim_append_of_blank (by simp; rfl)]

theorem squeeze_dropReturn (line : List Char) : squeeze (dropReturn line) = squeeze line := by
  rw [← squeeze_trim, trim_dropReturn, squeeze_trim]

/-- The lines of a text, put together without their ends, are the text but for blanks. -/
theorem squeeze_flatten_dropReturn (ls : List (List Char)) :
    squeeze (ls.map dropReturn).flatten = squeeze (terminated '\n' ls) := by
  induction ls with
  | nil => rfl
  | cons line ls ih =>
    have feed : squeeze ['\n'] = [] := by decide
    rw [List.map_cons, List.flatten_cons, squeeze_append, squeeze_dropReturn, ih, terminated_cons,
      ← List.singleton_append, squeeze_append, squeeze_append, feed, List.nil_append]

theorem mem_terminated_of_mem_flatten {c : Char} (member : c ∈ (ls.map dropReturn).flatten) :
    c ∈ terminated '\n' ls := by
  simp only [List.mem_flatten, List.mem_map] at member
  obtain ⟨_, ⟨line, member, rfl⟩, within⟩ := member
  exact List.mem_flatMap.2
    ⟨line, member, List.mem_append_left _ ((dropReturn_isPrefix line).subset within)⟩

/-- The lines of some lines with their line feeds, and of the text behind them. -/
theorem lines_terminated_append (within : ∀ line ∈ ls, '\n' ∉ line) (rest : List Char) :
    lines (terminated '\n' ls ++ rest) = ls.map dropReturn ++ lines rest := by
  rw [lines, rawLines_eq, linesAt_terminated_append within, List.map_append, List.map_map, lines,
    rawLines_eq]
  rfl

/-! ## The lines of a text -/

variable {text : List Char}

/-- The lines of a text. A line ends with a line feed or with a carriage return and a line feed; the
last line may go without, if it is not empty. -/
inductive HasLines : List Char → List (List Char) → Prop
  | nil : HasLines [] []
  | last {line : List Char} (some_ : line ≠ []) (one : '\n' ∉ line) : HasLines line [line]
  | feed {line rest : List Char} {ls : List (List Char)} (one : '\n' ∉ line)
    (bare : line.getLast? ≠ some '\r') (more : HasLines rest ls) :
    HasLines (line ++ '\n' :: rest) (line :: ls)
  | returnFeed {line rest : List Char} {ls : List (List Char)} (one : '\n' ∉ line)
    (more : HasLines rest ls) : HasLines (line ++ '\r' :: '\n' :: rest) (line :: ls)

theorem stripLineEnd_of_not_mem (one : '\n' ∉ line) : stripLineEnd line = line := by
  obtain rfl | ⟨ds, d, rfl⟩ := List.eq_nil_or_concat line
  · rfl
  · rw [List.concat_eq_append] at one ⊢
    unfold stripLineEnd
    split <;> simp_all

theorem lines_of_not_mem (one : '\n' ∉ line) : lines line = if line = [] then [] else [line] := by
  rw [lines, rawLines_eq, linesAt_of_not_mem one]
  split
  · rfl
  · rw [List.map_singleton, stripLineEnd_of_not_mem one]

theorem lines_append_feed (one : '\n' ∉ line) (rest : List Char) :
    lines (line ++ '\n' :: rest) = dropReturn line :: lines rest := by
  simpa using lines_terminated_append (List.forall_mem_singleton.2 one) rest

theorem HasLines.lines_eq (h : HasLines text ls) : lines text = ls := by
  induction h with
  | nil => rfl
  | last some_ one => rw [lines_of_not_mem one, if_neg some_]
  | feed one bare more ih => rw [lines_append_feed one, dropReturn_of_ne bare, ih]
  | @returnFeed line rest ls one more ih =>
    have regroup : line ++ '\r' :: '\n' :: rest = (line ++ ['\r']) ++ '\n' :: rest := by simp
    rw [regroup, lines_append_feed (by simpa using one), dropReturn_concat, ih]

theorem hasLines_lines (text : List Char) : HasLines text (lines text) := by
  obtain ⟨ls, last, rfl, within, unended⟩ := exists_terminated '\n' text
  induction ls with
  | nil =>
    rw [terminated_nil, List.nil_append, lines_of_not_mem unended]
    split
    · rename_i empty
      exact empty ▸ .nil
    · rename_i some_
      exact .last some_ unended
  | cons line ls ih =>
    obtain ⟨one, others⟩ := List.forall_mem_cons.1 within
    rw [terminated_cons, List.append_assoc, List.cons_append, lines_append_feed one]
    by_cases ends : line.getLast? = some '\r'
    · obtain ⟨ds, rfl⟩ := List.getLast?_eq_some_iff.1 ends
      rw [dropReturn_concat, List.append_assoc]
      exact .returnFeed (fun member => one (by simp [member])) (ih others)
    · rw [dropReturn_of_ne ends]
      exact .feed one ends (ih others)

/-- Reading gives the lines of a text. -/
theorem lines_eq_iff : lines text = ls ↔ HasLines text ls :=
  ⟨fun same => same ▸ hasLines_lines text, HasLines.lines_eq⟩

theorem HasLines.squeeze_flatten (h : HasLines text ls) : squeeze ls.flatten = squeeze text := by
  induction h with
  | nil => rfl
  | last => simp
  | feed one bare more ih =>
    rw [List.flatten_cons, squeeze_append, ih, squeeze_append]
    rfl
  | returnFeed one more ih =>
    rw [List.flatten_cons, squeeze_append, ih, squeeze_append]
    rfl

/-- A text that begins in the middle of a line begins with that line. -/
theorem HasLines.prepend {rest : List Char} (h : HasLines rest ls) (some_ : line ≠ [])
    (one : '\n' ∉ line) (bare : line.getLast? ≠ some '\r') :
    ∃ more others, HasLines (line ++ rest) ((line ++ more) :: others) := by
  cases h with
  | nil => exact ⟨[], [], by simpa using .last some_ one⟩
  | @last rest _ one' => exact ⟨rest, [], .last (by simp [some_]) (by simp [one, one'])⟩
  | @feed more rest ls one' bare' others =>
    refine ⟨more, ls, ?_⟩
    rw [← List.append_assoc]
    refine .feed (by simp [one, one']) ?_ others
    cases more using List.reverseRecOn <;> simp_all
  | @returnFeed more rest ls one' others =>
    refine ⟨more, ls, ?_⟩
    rw [← List.append_assoc]
    exact .returnFeed (by simp [one, one']) others

/-! ## Joining with line feeds -/

/-- Lines that were joined are cut where they were joined, and what is joined to them is cut on its
own. -/
theorem splitOn_intercalate_append {rest : List (List Char)} (within : ∀ line ∈ ls, '\n' ∉ line)
    (some : rest ≠ []) :
    splitOn '\n' (['\n'].intercalate (ls ++ rest)) =
      ls ++ splitOn '\n' (['\n'].intercalate rest) := by
  induction ls with
  | nil => rfl
  | cons line ls ih =>
    obtain ⟨first, within⟩ := List.forall_mem_cons.1 within
    have cut (cs : List Char) : splitOn '\n' (line ++ '\n' :: cs) = line :: splitOn '\n' cs := by
      simp only [splitOn_eq]
      rw [List.splitOn_append_cons_self_of_not_mem first]
    rw [List.cons_append,
      List.intercalate_cons_of_ne_nil (List.append_ne_nil_of_right_ne_nil ls some),
      List.append_assoc, List.singleton_append, cut, ih within, List.cons_append]

theorem splitOn_intercalate (within : ∀ line ∈ ls, '\n' ∉ line) (some : ls ≠ []) :
    splitOn '\n' (['\n'].intercalate ls) = ls := by
  rw [splitOn_eq, List.splitOn_intercalate '\n' within some]

theorem splitOn_terminated_append {last : List Char} (within : ∀ line ∈ ls, '\n' ∉ line)
    (unended : '\n' ∉ last) : splitOn '\n' (terminated '\n' ls ++ last) = ls ++ [last] := by
  have joined : terminated '\n' ls ++ last = ['\n'].intercalate (ls ++ [last]) := by
    clear within
    induction ls with
    | nil => simp
    | cons line ls ih =>
      rw [List.cons_append, List.intercalate_cons_of_ne_nil (by simp), ← ih]
      simp
  rw [joined, splitOn_intercalate _ (by simp)]
  intro line member
  obtain member | member := List.mem_append.1 member
  · exact within line member
  · rwa [List.mem_singleton.1 member]

/-- Cutting at line feeds gives the lines, and nothing more than an empty piece at the end of a text
that ends with a line. -/
theorem splitOn_lines (cs : List Char) :
    ∃ last, (splitOn '\n' cs).map trim = (lines cs).map trim ++ last ∧
      (last = [] ∨ last = [[]]) := by
  obtain ⟨ls, last, rfl, within, unended⟩ := exists_terminated '\n' cs
  have same : ls.map (trim ∘ dropReturn) = ls.map trim :=
    List.map_congr_left fun line _ => trim_dropReturn line
  rw [splitOn_terminated_append within unended, lines_terminated_append within]
  by_cases empty : last = []
  · exact ⟨[[]], by simp [empty, lines, rawLines, same]; rfl, .inr rfl⟩
  · refine ⟨[], ?_, .inl rfl⟩
    simp [lines, rawLines_eq, linesAt_of_not_mem unended, empty, same, trim_stripLineEnd]

end ReplicaSeed.Text
