import ReplicaSeed.Artifact.DumpHeader
import ReplicaSeed.Proofs.Text.Lines
import ReplicaSeed.Proofs.Text.Utf8

/-!
# The lines of a dump

How the bytes of a dump are cut into lines, and what the lines that come first leave to those behind
them: either the outcome is settled, or all that counts is what was assigned so far and whether the
assignment goes on.

## Main definitions

* `fileLines`: the lines of a file, of which some may be no text.
* `openBehind`: whether an assignment is open behind some lines.

## Main statements

* `fileLines_append`: lines that are complete stay what they are, whatever comes behind them.
* `scan_cases`: what a line can do.
* `scan_append`: what some lines leave to those behind them.
-/

namespace ReplicaSeed.DumpHeader

/-! ## From bytes to lines -/

/-- The lines of a file; one that is no text is `none`. -/
def fileLines (bytes : List UInt8) : List (Option (List Char)) :=
  (rawByteLines bytes).map fun line => (Text.decode? line).map Text.stripLineEnd

theorem ofBytes_eq (bytes : List UInt8) : ofBytes bytes = parse (fileLines bytes) := rfl

/-- The text of a line that ends with a line feed. -/
def lineText (line : List UInt8) : Option (List Char) := (Text.decode? line).map Text.dropReturn

section

variable {ls : List (List UInt8)} {line bytes : List UInt8}

theorem rawByteLines_eq (bytes : List UInt8) : rawByteLines bytes = Text.linesAt 10 bytes := by
  fun_induction rawByteLines bytes <;> simp_all [Text.linesAt]

theorem lineText_eq (line : List UInt8) :
    lineText line = (Text.decode? (line ++ [10])).map Text.stripLineEnd := by
  rw [lineText, Text.decode?_concat (by decide), Option.map_map]
  rfl

theorem lineText_encode (cs : List Char) :
    lineText (Text.encode cs) = some (Text.dropReturn cs) := by
  rw [lineText, Text.decode?_encode]
  rfl

theorem fileLines_terminated_append (within : ∀ line ∈ ls, 10 ∉ line) (rest : List UInt8) :
    fileLines (Text.terminated 10 ls ++ rest) = ls.map lineText ++ fileLines rest := by
  rw [fileLines, rawByteLines_eq, Text.linesAt_terminated_append within, List.map_append,
    List.map_map, fileLines, rawByteLines_eq]
  congr 1
  exact List.map_congr_left fun line _ => (lineText_eq line).symm

theorem fileLines_append_cons (within : 10 ∉ line) (rest : List UInt8) :
    fileLines (line ++ 10 :: rest) = lineText line :: fileLines rest := by
  have one : ∀ line' ∈ [line], 10 ∉ line' := by simpa using within
  have lines := fileLines_terminated_append one rest
  rwa [Text.terminated_cons, Text.terminated_nil, List.append_assoc] at lines

theorem fileLines_of_not_mem (within : 10 ∉ line) :
    fileLines line =
      if line = [] then [] else [(Text.decode? line).map Text.stripLineEnd] := by
  rw [fileLines, rawByteLines_eq, Text.linesAt_of_not_mem within]
  split <;> rfl

/-- Complete lines are some lines with a line feed each. -/
theorem exists_terminated_of_complete (complete : bytes.getLast? = some 10) :
    ∃ ls, bytes = Text.terminated 10 ls ∧ ∀ line ∈ ls, 10 ∉ line := by
  obtain ⟨ls, last, rfl, within, unended⟩ := Text.exists_terminated 10 bytes
  cases last with
  | nil => exact ⟨ls, List.append_nil _, within⟩
  | cons b last =>
    rw [List.getLast?_append_cons] at complete
    exact absurd (List.mem_of_getLast? complete) unended

/-- Lines that are complete stay what they are, whatever comes behind them. -/
theorem fileLines_append (complete : bytes.getLast? = some 10) (body : List UInt8) :
    fileLines (bytes ++ body) = fileLines bytes ++ fileLines body := by
  obtain ⟨ls, rfl, within⟩ := exists_terminated_of_complete complete
  have alone := fileLines_terminated_append within []
  rw [List.append_nil] at alone
  rw [fileLines_terminated_append within, alone]
  simp [fileLines, rawByteLines]

end

/-! ## Line ends -/

section

variable {d : Char}

theorem statesPlace_concat (isEnd : d = '\r' ∨ d = '\n') (line : List Char) :
    statesPlace (line ++ [d]) = statesPlace line := by
  rw [statesPlace, Text.contains_concat (by obtain rfl | rfl := isEnd <;> decide) (by decide),
    Text.contains_concat (by obtain rfl | rfl := isEnd <;> decide) (by decide), statesPlace]

/-- A character of a line end is in no name that is looked for, and no digit. -/
theorem logPlace_concat (isEnd : d = '\r' ∨ d = '\n') (line : List Char) :
    logPlace (line ++ [d]) = logPlace line := by
  have digit : d.isDigit = false := by obtain rfl | rfl := isEnd <;> rfl
  have blank : Text.trim (line ++ [d]) = Text.trim line :=
    Text.trim_append_of_blank (by obtain rfl | rfl := isEnd <;> simp <;> rfl) line
  have quote : d ≠ '\'' := by obtain rfl | rfl := isEnd <;> decide
  have file := Text.cut?_concat (p := "LOG_FILE='".toList) (d := d)
    (by obtain rfl | rfl := isEnd <;> decide) (by decide) line
  have pos := Text.cut?_concat (p := "LOG_POS=".toList) (d := d)
    (by obtain rfl | rfl := isEnd <;> decide) (by decide) line
  have digits (cs : List Char) :
      (cs ++ [d]).takeWhile Char.isDigit = cs.takeWhile Char.isDigit := by
    induction cs with
    | nil => simp [digit]
    | cons c cs ih => simp [List.takeWhile_cons, ih]
  unfold logPlace
  rw [file, pos, blank]
  cases Text.cut? "LOG_FILE='".toList line with
  | none => rfl
  | some found =>
    simp only [Option.map_some, Text.splitOnce?_concat quote]
    cases Text.splitOnce? '\'' found.2 with
    | none => rfl
    | some file =>
      cases Text.cut? "LOG_POS=".toList line with
      | none => rfl
      | some found => simp only [Option.map_some, digits]

end

/-- What a line tells about the place: whether it names the set, whether it states the place, and
which. -/
def placeTold (line : List Char) : Bool × Bool × Except ArtifactFault (String × Int64) :=
  (Text.contains "GTID_PURGED".toList line, statesPlace line, logPlace line)

theorem placeTold_append {ends : List Char} (only : ∀ c ∈ ends, c = '\r' ∨ c = '\n')
    (line : List Char) : placeTold (line ++ ends) = placeTold line := by
  induction ends generalizing line with
  | nil => rw [List.append_nil]
  | cons d ends ih =>
    obtain ⟨isEnd, only⟩ := List.forall_mem_cons.1 only
    rw [← List.singleton_append, ← List.append_assoc, ih only, placeTold,
      Text.contains_concat (by obtain rfl | rfl := isEnd <;> decide) (by decide),
      statesPlace_concat isEnd, logPlace_concat isEnd, placeTold]

/-- The end of a line tells nothing about the place. -/
theorem placeTold_stripLineEnd (line : List Char) :
    placeTold (Text.stripLineEnd line) = placeTold line := by
  obtain ⟨ends, split, only⟩ := Text.append_stripLineEnd line
  calc placeTold (Text.stripLineEnd line) = placeTold (Text.stripLineEnd line ++ ends) :=
        (placeTold_append only _).symm
    _ = placeTold line := by rw [← split]

theorem placeTold_dropReturn (line : List Char) :
    placeTold (Text.dropReturn line) = placeTold line := by
  rw [Text.dropReturn, placeTold_stripLineEnd, placeTold_append (by simp)]

/-! ## What lines leave to those behind them -/

/-- Coordinates are made of the place that was found and of the assignment. -/
theorem parse_eq_ok_iff {lines : List (Option (List Char))} {c : Coordinates} :
    parse lines = .ok c ↔ ∃ found file pos, scan none false lines = .ok found ∧
      found.place = some (file, pos) ∧ file ≠ "" ∧
        c = ⟨file, pos, (found.assignment.map gtidSet).getD ""⟩ := by
  rw [parse]
  cases scan none false lines with
  | error fault => simp [bind, Except.bind]
  | ok found =>
    obtain ⟨assignment, place⟩ := found
    obtain _ | ⟨file, pos⟩ := place
    · simp [bind, Except.bind]
    · by_cases named : file = ""
      · simp [bind, Except.bind, named]
      · simp [bind, Except.bind, pure, Except.pure, named, eq_comm]

/-- Whether the assignment of the set goes on behind a line, if it does before. -/
def leavesOpen (isOpen : Bool) (line : List Char) : Bool :=
  if isOpen then !line.contains ';'
  else
    match Text.cut? "GTID_PURGED".toList line with
    | some (_, after) => !(((Text.splitOnce? '=' after).map (·.2)).getD []).contains ';'
    | none => false

/-- Whether the assignment of the set goes on behind some lines, if it does before. -/
def openBehind (isOpen : Bool) (lines : List (Option (List Char))) : Bool :=
  lines.foldl (fun isOpen line => line.elim isOpen (leavesOpen isOpen)) isOpen

variable {assignment : Option (List Char)} {isOpen : Bool} {line : List Char}
  {before rest : List (Option (List Char))}

/-- A line in an assignment that goes on belongs to it. -/
theorem scan_open :
    scan assignment true (some line :: rest) =
      scan (some (assignment.getD [] ++ line)) (leavesOpen true line) rest := rfl

/-- A line with the name of the set begins an assignment. -/
theorem scan_assign {start after : List Char}
    (named : Text.cut? "GTID_PURGED".toList line = some (start, after)) :
    scan assignment false (some line :: rest) =
      scan (some (((Text.splitOnce? '=' after).map (·.2)).getD [])) (leavesOpen false line)
        rest := by
  rw [scan, if_neg Bool.false_ne_true, named, leavesOpen, if_neg Bool.false_ne_true, named]

/-- A line with the place ends the header. -/
theorem scan_place (unnamed : ¬ "GTID_PURGED".toList <:+: line) (states : statesPlace line = true) :
    scan assignment false (some line :: rest) =
      (logPlace line).map fun place => { assignment, place := some place } := by
  rw [scan, if_neg Bool.false_ne_true, Text.cut?_eq_none_iff.2 unnamed]
  exact if_pos states

/-- So does a line that begins a database. -/
theorem scan_database (unnamed : ¬ "GTID_PURGED".toList <:+: line)
    (silent : statesPlace line = false)
    (database : Text.startsWith "-- Current Database:".toList line = true) :
    scan assignment false (some line :: rest) = .ok { assignment } := by
  rw [scan, if_neg Bool.false_ne_true, Text.cut?_eq_none_iff.2 unnamed]
  exact (if_neg (Bool.eq_false_iff.1 silent)).trans (if_pos database)

/-- Any other line is passed over. -/
theorem scan_other (unnamed : ¬ "GTID_PURGED".toList <:+: line) (silent : statesPlace line = false)
    (noDatabase : Text.startsWith "-- Current Database:".toList line = false) :
    scan assignment false (some line :: rest) = scan assignment (leavesOpen false line) rest := by
  rw [scan, if_neg Bool.false_ne_true, leavesOpen, if_neg Bool.false_ne_true,
    Text.cut?_eq_none_iff.2 unnamed]
  exact (if_neg (Bool.eq_false_iff.1 silent)).trans (if_neg (Bool.eq_false_iff.1 noDatabase))

/-- The line ends the lines that are read: it states the place or begins a database, where no
assignment goes on and none begins. -/
def Stops (isOpen : Bool) (line : List Char) : Prop :=
  isOpen = false ∧ ¬ "GTID_PURGED".toList <:+: line ∧
    (statesPlace line = true ∨ Text.startsWith "-- Current Database:".toList line = true)

/-- What a line can do: the lines behind it are read, or it states the place, or there is none. -/
theorem scan_cases (assignment : Option (List Char)) (isOpen : Bool) (line : List Char) :
    (¬ Stops isOpen line ∧ ∃ assignment', ∀ rest, scan assignment isOpen (some line :: rest) =
      scan assignment' (leavesOpen isOpen line) rest) ∨
    (Stops isOpen line ∧ statesPlace line = true ∧ ∀ rest,
      scan assignment isOpen (some line :: rest) =
        (logPlace line).map fun place => { assignment, place := some place }) ∨
    (Stops isOpen line ∧ statesPlace line = false ∧ ∀ rest,
      scan assignment isOpen (some line :: rest) = .ok { assignment }) := by
  cases isOpen with
  | true => exact .inl ⟨fun stops => Bool.noConfusion stops.1, _, fun _ => scan_open⟩
  | false =>
    by_cases named : "GTID_PURGED".toList <:+: line
    · obtain ⟨⟨start, after⟩, cut⟩ :=
        Option.ne_none_iff_exists'.1 (mt Text.cut?_eq_none_iff.1 (not_not_intro named))
      exact .inl ⟨fun stops => stops.2.1 named, _, fun _ => scan_assign cut⟩
    · cases states : statesPlace line with
      | true =>
        exact .inr (.inl ⟨⟨rfl, named, .inl states⟩, rfl, fun _ => scan_place named states⟩)
      | false =>
        cases database : Text.startsWith "-- Current Database:".toList line with
        | true =>
          exact .inr (.inr ⟨⟨rfl, named, .inr database⟩, rfl,
            fun _ => scan_database named states database⟩)
        | false =>
          refine .inl ⟨?_, _, fun _ => scan_other named states database⟩
          rw [Stops, states, database]
          simp

/-- Some lines settle the outcome, or they leave the assignment so far to the lines behind them, and
whether it goes on. -/
theorem scan_append (assignment : Option (List Char)) (isOpen : Bool)
    (before : List (Option (List Char))) :
    (∃ outcome, ∀ rest, scan assignment isOpen (before ++ rest) = outcome) ∨
      ∃ assignment', ∀ rest, scan assignment isOpen (before ++ rest) =
        scan assignment' (openBehind isOpen before) rest := by
  induction before generalizing assignment isOpen with
  | nil => exact .inr ⟨assignment, fun _ => rfl⟩
  | cons first before ih =>
    cases first with
    | none => exact .inl ⟨.error .notText, fun _ => rfl⟩
    | some line =>
      obtain ⟨-, assignment', passes⟩ | ⟨-, -, settled⟩ | ⟨-, -, settled⟩ :=
        scan_cases assignment isOpen line
      · simp only [List.cons_append, passes]
        exact ih assignment' (leavesOpen isOpen line)
      · exact .inl ⟨_, fun rest => settled (before ++ rest)⟩
      · exact .inl ⟨_, fun rest => settled (before ++ rest)⟩

end ReplicaSeed.DumpHeader
