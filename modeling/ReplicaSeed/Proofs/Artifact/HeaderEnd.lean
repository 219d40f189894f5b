import ReplicaSeed.Proofs.Artifact.HeaderLines

/-!
# The header of a dump decides

A dump is read up to the first line that states the place in the log, begins a database or is no
text, unless an assignment of the transaction set goes on there. Nothing behind that line is looked
at: tables may hold whatever they like, lines with another place among them.

## Main definitions

* `EndsHeader`, `Header`: the lines of a header, and the one that ends it.

## Main statements

* `ofBytes_append`: nothing behind a header counts.
* `exists_place_of_ok`: coordinates are those of a line that ends the header, whatever follows it.
* `exists_fault_of_placeless`: a file whose header states no place is of no use.
-/

namespace ReplicaSeed.DumpHeader

/-! ## Headers -/

/-- Behind the lines before, the header ends with the line: it is no text, or the reader stops at
it. -/
inductive EndsHeader (isOpen : Bool) (before : List (Option (List Char))) :
    Option (List Char) → Prop
  | noText : EndsHeader isOpen before none
  | text {line : List Char} (stops : Stops (openBehind isOpen before) line) :
    EndsHeader isOpen before (some line)

theorem endsHeader_iff {isOpen : Bool} {before : List (Option (List Char))} {line : List Char} :
    EndsHeader isOpen before (some line) ↔ Stops (openBehind isOpen before) line :=
  ⟨fun | .text stops => stops, .text⟩

/-- The lines begin with a header that ends with the last line, and not before. -/
structure Header (isOpen : Bool) (lines before : List (Option (List Char)))
    (last : Option (List Char)) : Prop where
  split : ∃ rest, lines = before ++ last :: rest
  ends : EndsHeader isOpen before last
  first : ∀ earlier line more, before = earlier ++ line :: more → ¬ EndsHeader isOpen earlier line

section

variable {assignment : Option (List Char)} {isOpen : Bool} {line : List Char}
  {lines before rest : List (Option (List Char))} {last : Option (List Char)}

/-- A header goes on with a line that does not end it. -/
theorem Header.cons (goesOn : ¬ EndsHeader isOpen [] (some line))
    (header : Header (leavesOpen isOpen line) lines before last) :
    Header isOpen (some line :: lines) (some line :: before) last := by
  obtain ⟨⟨rest, rfl⟩, ends, first⟩ := header
  have shift {earlier : List (Option (List Char))} {next : Option (List Char)} :
      EndsHeader isOpen (some line :: earlier) next ↔
        EndsHeader (leavesOpen isOpen line) earlier next := by
    constructor
    all_goals
      rintro (_ | stops)
      · exact .noText
      · exact .text stops
  refine ⟨⟨rest, rfl⟩, shift.2 ends, fun earlier next more split => ?_⟩
  cases earlier with
  | nil =>
    obtain ⟨rfl, -⟩ := List.cons.inj split
    exact goesOn
  | cons head earlier =>
    obtain ⟨rfl, same⟩ := List.cons.inj split
    exact mt shift.1 (first earlier next more same)

/-- Lines have one header. -/
theorem Header.unique {before' : List (Option (List Char))} {last' : Option (List Char)}
    (h : Header isOpen lines before last) (h' : Header isOpen lines before' last') :
    before = before' ∧ last = last' := by
  obtain ⟨⟨rest, split⟩, ends, first⟩ := h
  obtain ⟨⟨rest', split'⟩, ends', first'⟩ := h'
  obtain ⟨rfl, rfl, -⟩ := Text.eq_of_first (split.symm.trans split') ends ends' first first'
  exact ⟨rfl, rfl⟩

/-- What ends a header settles the outcome. -/
theorem scan_of_ends (assignment : Option (List Char)) (ends : EndsHeader isOpen before last) :
    ∃ outcome, ∀ rest, scan assignment isOpen (before ++ last :: rest) = outcome := by
  obtain ⟨outcome, settled⟩ | ⟨assignment', goesOn⟩ := scan_append assignment isOpen before
  · exact ⟨outcome, fun rest => settled (last :: rest)⟩
  · simp only [goesOn]
    cases ends with
    | noText => exact ⟨.error .notText, fun _ => rfl⟩
    | @text line stops =>
      obtain ⟨passes, -⟩ | ⟨-, -, settled⟩ | ⟨-, -, settled⟩ :=
        scan_cases assignment' (openBehind isOpen before) line
      · exact absurd stops passes
      · exact ⟨_, settled⟩
      · exact ⟨_, settled⟩

/-- A place that was found is that of the line that ends the header, and the lines before do nothing
but to assign the set. -/
theorem exists_header_of_place {found : Found} {place : String × Int64}
    (read : scan assignment isOpen lines = .ok found) (placed : found.place = some place) :
    ∃ before line assignment', Header isOpen lines before (some line) ∧ statesPlace line = true ∧
      ((logPlace line).map fun place => { assignment := assignment', place := some place }) =
        .ok found ∧
      ∀ rest, scan assignment isOpen (before ++ rest) = scan assignment' false rest := by
  induction lines generalizing assignment isOpen with
  | nil =>
    cases read
    cases placed
  | cons first lines ih =>
    cases first with
    | none => cases read
    | some line =>
      obtain ⟨goesOn, assignment', passes⟩ | ⟨stops, states, settled⟩ | ⟨-, -, settled⟩ :=
        scan_cases assignment isOpen line
      · rw [passes] at read
        obtain ⟨before, last, assignment'', header, states, same, skipped⟩ := ih read
        refine ⟨some line :: before, last, assignment'', header.cons (mt endsHeader_iff.1 goesOn),
          states, same, fun rest => ?_⟩
        rw [List.cons_append, passes, skipped]
      · rw [settled] at read
        have closed : isOpen = false := stops.1
        subst closed
        exact ⟨[], line, assignment, ⟨⟨lines, rfl⟩, .text stops, by simp⟩, states, read,
          fun _ => rfl⟩
      · rw [settled] at read
        cases read
        cases placed

end

/-! ## The header of a file -/

section

variable {bytes h : List UInt8} {before : List (Option (List Char))} {text : List Char}
  {rest : List (Option (List Char))} {c : Coordinates}

/-- The bytes are some complete lines, read as the lines before, a line that is read as the text but
for its end, and what is behind it. -/
structure StandsAt (bytes : List UInt8) (before : List (Option (List Char))) (text : List Char)
    (ls : List (List UInt8)) (line after : List UInt8) : Prop where
  split : bytes = Text.terminated 10 ls ++ line ++ after
  within : ∀ line ∈ ls, 10 ∉ line
  unended : 10 ∉ line
  before_eq : before = ls.map lineText
  after_eq : after = [] ∨ after.head? = some 10
  decoded : ∃ cs, Text.decode? line = some cs ∧ placeTold text = placeTold cs

theorem standsAt_of_complete {ls : List (List UInt8)} (within : ∀ line ∈ ls, 10 ∉ line)
    (read : ls.map lineText = before ++ some text :: rest) (last : List UInt8) :
    ∃ ls' line after, StandsAt (Text.terminated 10 ls ++ last) before text ls' line after := by
  obtain ⟨ls, others, rfl, rfl, tail⟩ := List.map_eq_append_iff.1 read
  obtain ⟨line, behind, rfl, same, -⟩ := List.map_eq_cons_iff.1 tail
  obtain ⟨cs, decoded, rfl⟩ := Option.map_eq_some_iff.1 same
  simp only [List.forall_mem_append, List.forall_mem_cons] at within
  refine ⟨ls, line, 10 :: (Text.terminated 10 behind ++ last), ?_⟩
  exact ⟨by simp, within.1, within.2.1, rfl, .inr rfl, cs, decoded, placeTold_dropReturn cs⟩

/-- A line of a file is complete, or the last. -/
theorem exists_standsAt (read : fileLines bytes = before ++ some text :: rest) :
    ∃ ls line after, StandsAt bytes before text ls line after := by
  obtain ⟨ls, last, rfl, within, unended⟩ := Text.exists_terminated 10 bytes
  rw [fileLines_terminated_append within, fileLines_of_not_mem unended] at read
  by_cases empty : last = []
  · rw [if_pos empty, List.append_nil] at read
    exact standsAt_of_complete within read last
  · rw [if_neg empty] at read
    obtain rfl | ⟨rest', final, rfl⟩ := List.eq_nil_or_concat rest
    · obtain ⟨complete, same⟩ := List.append_inj' read rfl
      obtain ⟨cs, decoded, rfl⟩ := Option.map_eq_some_iff.1 (List.cons.inj same).1
      exact ⟨ls, last, [], by simp, within, unended, complete.symm, .inl rfl, cs, decoded,
        placeTold_stripLineEnd cs⟩
    · rw [List.concat_eq_append, ← List.cons_append, ← List.append_assoc] at read
      exact standsAt_of_complete within (List.append_inj' read rfl).1 last

/-- Whatever is behind a line that is not empty, something is read of it that tells the same of the
place. -/
theorem StandsAt.fileLines_eq {ls : List (List UInt8)} {line after : List UInt8}
    (stands : StandsAt bytes before text ls line after) (some_ : line ≠ []) {after' : List UInt8}
    (apart : after' = [] ∨ after'.head? = some 10) :
    ∃ text' rest',
      fileLines (Text.terminated 10 ls ++ line ++ after') = before ++ some text' :: rest' ∧
        placeTold text' = placeTold text := by
  obtain ⟨cs, decoded, told⟩ := stands.decoded
  rw [List.append_assoc, fileLines_terminated_append stands.within, stands.before_eq]
  obtain rfl | ends := apart
  · refine ⟨Text.stripLineEnd cs, [], ?_, by rw [told, placeTold_stripLineEnd]⟩
    rw [List.append_nil, fileLines_of_not_mem stands.unended, if_neg some_, decoded]
    rfl
  · obtain ⟨more, rfl⟩ := List.head?_eq_some_iff.1 ends
    refine ⟨Text.dropReturn cs, fileLines more, ?_, by rw [told, placeTold_dropReturn]⟩
    rw [fileLines_append_cons stands.unended, lineText, decoded]
    rfl

/-- Nothing behind a header counts. -/
theorem ofBytes_append {last : Option (List Char)} (complete : h.getLast? = some 10)
    (split : fileLines h = before ++ last :: rest) (ends : EndsHeader false before last)
    (body : List UInt8) : ofBytes (h ++ body) = ofBytes h := by
  obtain ⟨outcome, settled⟩ := scan_of_ends none ends
  have same : scan none false (fileLines (h ++ body)) = scan none false (fileLines h) := by
    rw [fileLines_append complete, split, List.append_assoc, List.cons_append, settled, settled]
  rw [ofBytes_eq, ofBytes_eq, parse, parse, same]

/-- Coordinates are those of a line that ends the header, whatever follows it. -/
theorem exists_place_of_ok (read : ofBytes bytes = .ok c) :
    ∃ ls line after text, StandsAt bytes (ls.map lineText) text ls line after ∧
      Header false (fileLines bytes) (ls.map lineText) (some text) ∧ statesPlace text = true ∧
      ∀ after', after' = [] ∨ after'.head? = some 10 →
        ofBytes (Text.terminated 10 ls ++ line ++ after') = .ok c := by
  rw [ofBytes_eq] at read
  obtain ⟨found, file, pos, scanned, placed, named, rfl⟩ := parse_eq_ok_iff.1 read
  obtain ⟨before, text, assignment, header, states, same, skipped⟩ :=
    exists_header_of_place scanned placed
  obtain ⟨rest, split⟩ := header.split
  obtain ⟨ls, line, after, stands⟩ := exists_standsAt split
  obtain rfl := stands.before_eq
  refine ⟨ls, line, after, text, stands, header, states, fun after' apart => ?_⟩
  have some_ : line ≠ [] := by
    rintro rfl
    obtain ⟨cs, decoded, told⟩ := stands.decoded
    obtain rfl : [] = cs := Option.some.inj decoded
    have silent : statesPlace text = statesPlace [] := congrArg (·.2.1) told
    rw [states] at silent
    cases silent
  obtain ⟨text', rest', lines, told⟩ := stands.fileLines_eq some_ apart
  obtain ⟨named', states', place'⟩ := by simpa only [placeTold, Prod.mk.injEq] using told
  have unnamed := (endsHeader_iff.1 header.ends).2.1
  rw [← Text.contains_iff, ← named', Text.contains_iff] at unnamed
  have scanned' : scan none false (ls.map lineText ++ some text' :: rest') = .ok found := by
    rw [skipped, scan_place unnamed (states'.trans states), place', same]
  rw [ofBytes_eq, lines]
  exact parse_eq_ok_iff.2 ⟨found, file, pos, scanned', placed, named, rfl⟩

/-- A file whose header states no place is of no use. -/
theorem exists_fault_of_placeless
    (placeless : ∀ before text, Header false (fileLines bytes) before (some text) →
      statesPlace text = false) : ∃ fault, ofBytes bytes = .error fault := by
  cases read : ofBytes bytes with
  | error fault => exact ⟨fault, rfl⟩
  | ok c =>
    obtain ⟨ls, line, after, text, -, header, states, -⟩ := exists_place_of_ok read
    rw [placeless _ _ header] at states
    cases states

/-- The header decides. Where some complete lines have one, whatever follows them leaves the outcome
as it is; coordinates are those of the line that ends the header, whatever follows that line; and
where the header states no place there are none, whatever is in the body. -/
theorem header_decides :
    (∀ h before last rest, h.getLast? = some 10 → fileLines h = before ++ last :: rest →
      EndsHeader false before last → ∀ body, ofBytes (h ++ body) = ofBytes h) ∧
    (∀ bytes c, ofBytes bytes = .ok c → ∃ ls line after text,
      bytes = Text.terminated 10 ls ++ line ++ after ∧ (∀ line ∈ ls, 10 ∉ line) ∧ 10 ∉ line ∧
      (after = [] ∨ after.head? = some 10) ∧
      Header false (fileLines bytes) (ls.map lineText) (some text) ∧ statesPlace text = true ∧
      ∀ after', after' = [] ∨ after'.head? = some 10 →
        ofBytes (Text.terminated 10 ls ++ line ++ after') = .ok c) ∧
    (∀ bytes, (∀ before text, Header false (fileLines bytes) before (some text) →
      statesPlace text = false) → ∃ fault, ofBytes bytes = .error fault) ∧
    (∀ h before last, h.getLast? = some 10 → Header false (fileLines h) before last →
      (∀ text, last = some text → statesPlace text = false) →
        ∀ body, ∃ fault, ofBytes (h ++ body) = .error fault) := by
  refine ⟨fun h before last rest complete split ends => ofBytes_append complete split ends, ?_,
    fun bytes => exists_fault_of_placeless, ?_⟩
  · intro bytes c read
    obtain ⟨ls, line, after, text, stands, header, states, whatever⟩ := exists_place_of_ok read
    exact ⟨ls, line, after, text, stands.split, stands.within, stands.unended, stands.after_eq,
      header, states, whatever⟩
  · intro h before last complete header placeless body
    obtain ⟨rest, split⟩ := header.split
    rw [ofBytes_append complete split header.ends]
    exact exists_fault_of_placeless fun before' text other =>
      placeless text (header.unique other).2

/-- The headers of a dump that begins a database and of one that tells its place. -/
theorem header_decides_samples :
    let h := Text.encode "-- Current Database: a\n".toList
    let bytes := Text.encode "CHANGE MASTER TO MASTER_LOG_FILE='a.1', MASTER_LOG_POS=4;".toList
    (∀ body, ofBytes (h ++ body) = ofBytes h) ∧ ofBytes bytes = .ok ⟨"a.1", 4, ""⟩ ∧
      (∃ before text, Header false (fileLines bytes) before (some text) ∧ statesPlace text = true) ∧
      (∃ fault, ofBytes h = .error fault) ∧
      ∀ body, ∃ fault, ofBytes (h ++ body) = .error fault := by
  intro h bytes
  have lines : fileLines h = [some "-- Current Database: a".toList] := by decide +kernel
  have ends : EndsHeader false [] (some "-- Current Database: a".toList) :=
    .text ⟨rfl, Text.cut?_eq_none_iff.1 rfl, .inr rfl⟩
  have header : Header false (fileLines h) [] (some "-- Current Database: a".toList) :=
    ⟨⟨[], lines⟩, ends, by simp⟩
  have complete : h.getLast? = some 10 := by decide +kernel
  have read : ofBytes bytes = .ok ⟨"a.1", 4, ""⟩ := by decide +kernel
  refine ⟨header_decides.1 h [] _ [] complete lines ends, read, ?_, ?_, ?_⟩
  · obtain ⟨ls, line, after, text, -, -, -, -, found, states, -⟩ := header_decides.2.1 bytes _ read
    exact ⟨_, text, found, states⟩
  · refine header_decides.2.2.1 h fun before text other => ?_
    obtain ⟨-, same⟩ := header.unique other
    cases same
    rfl
  · refine header_decides.2.2.2 h [] _ complete header fun text same => ?_
    cases same
    rfl

end

end ReplicaSeed.DumpHeader
