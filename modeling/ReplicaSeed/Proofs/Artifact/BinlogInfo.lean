import ReplicaSeed.Artifact.BinlogInfo
import ReplicaSeed.Proofs.Text.Lines
import ReplicaSeed.Proofs.Text.Numeral

/-!
# The log information of a physical backup as it is written

A file of log information has a file, a position and a transaction set between tabs. A long set goes
on over further tabs and lines. Coordinates are read from a text just if its first line names a file
and a position, and whatever is behind these two belongs to the set.

## Main definitions

* `HasParts`: the fields and the lines of a text.
* `Tells`: the coordinates that the parts of a text tell.
* `written`: coordinates as they are written, with a set that is wrapped in any way.

## Main statements

* `parse_eq_ok_iff`: what is read is what the text tells.
* `exists_parts_written`: the parts of coordinates that are written.
* `told_coordinates_read`: both, and so what is written is read back.
-/

namespace ReplicaSeed.BinlogInfo

/-! ## Texts -/

/-- The parts of a text: a file, a position and more fields with tabs between them on the first
line, and more lines. -/
structure HasParts (text file pos : List Char) (fields others : List (List Char)) : Prop where
  lines : Text.HasLines text (['\t'].intercalate (file :: pos :: fields) :: others)
  whole : ∀ field ∈ file :: pos :: fields, '\t' ∉ field

/-- The text tells the coordinates. Blanks around the file and the position do not count, nor do
blanks anywhere in the set. -/
def Tells (text : List Char) (c : Coordinates) : Prop :=
  ∃ file pos fields others, HasParts text file pos fields others ∧ Text.trim file ≠ [] ∧
    Text.IsNumeral (Text.trim pos) c.logPos.toInt ∧
    c.logFile.toList = Text.trim file ∧
    c.gtidExecuted.toList = Text.squeeze (fields.flatten ++ others.flatten)

section

variable {text file pos : List Char} {fields others : List (List Char)} {c : Coordinates}

/-- What is read of the parts of a text. -/
theorem HasParts.parse_eq (h : HasParts text file pos fields others) :
    parse text =
      if Text.trim file = [] then .error .emptyBinlogInfo
      else
        match Text.readInt64 (Text.trim pos) with
        | .error cause => .error (.badPosition (Text.trim pos) cause)
        | .ok n => .ok
            ⟨String.ofList (Text.trim file), n,
              normalizeGtid (fields.flatten ++ others.flatten)⟩ := by
  have cut : Text.splitOn '\t' (['\t'].intercalate (file :: pos :: fields)) =
      file :: pos :: fields :=
    Text.splitOn_eq_iff.2 ⟨List.cons_ne_nil _ _, rfl, h.whole⟩
  simp only [parse, h.lines.lines_eq, List.headD_cons, List.tail_cons, cut]
  by_cases unnamed : Text.trim file = []
  · simp only [unnamed, if_true]
    rfl
  · simp only [unnamed, if_false]
    cases Text.readInt64 (Text.trim pos) <;> rfl

/-- A text that has no second field on its first line is not accepted. -/
theorem exists_parts_of_ok (read : parse text = .ok c) :
    ∃ file pos fields others, HasParts text file pos fields others := by
  cases lines : Text.lines text with
  | nil =>
    have refused : parse text = .error .emptyBinlogInfo := by
      rw [parse, lines]
      rfl
    simp [refused] at read
  | cons first others =>
    obtain ⟨some_, joined, whole⟩ := Text.splitOn_eq_iff.1 (rfl : Text.splitOn '\t' first = _)
    cases cut : Text.splitOn '\t' first with
    | nil => exact absurd cut some_
    | cons file rest =>
      cases rest with
      | nil =>
        by_cases unnamed : Text.trim file = [] <;>
          simp [parse, lines, cut, unnamed, bind, Except.bind, throw, throwThe,
            MonadExceptOf.throw] at read
      | cons pos fields =>
        rw [cut] at joined whole
        exact ⟨file, pos, fields, others, joined ▸ Text.lines_eq_iff.1 lines, whole⟩

/-- Coordinates are read from a text just if it tells them. -/
theorem parse_eq_ok_iff : parse text = .ok c ↔ Tells text c := by
  constructor
  · intro read
    obtain ⟨file, pos, fields, others, parts⟩ := exists_parts_of_ok read
    refine ⟨file, pos, fields, others, parts, ?_⟩
    rw [parts.parse_eq] at read
    split at read
    · cases read
    · rename_i named
      split at read
      · cases read
      · rename_i n number
        obtain rfl := Except.ok.inj read
        refine ⟨named, Text.readInt64_eq_ok_iff.1 number, ?_, ?_⟩ <;> simp [normalizeGtid]
  · rintro ⟨file, pos, fields, others, parts, named, number, sameFile, sameSet⟩
    rw [parts.parse_eq, if_neg named, Text.readInt64_eq_ok_iff.2 number, normalizeGtid, ← sameFile,
      ← sameSet, String.ofList_toList, String.ofList_toList]

/-- But for blanks, a text is its parts. -/
theorem HasParts.squeeze_eq (h : HasParts text file pos fields others) :
    Text.squeeze text = Text.squeeze file ++
      (Text.squeeze pos ++ Text.squeeze (fields.flatten ++ others.flatten)) := by
  rw [← h.lines.squeeze_flatten, List.flatten_cons, Text.squeeze_append,
    Text.squeeze_intercalate rfl]
  simp

end

/-! ## Coordinates as they are written -/

/-- What may stand between two pieces of a set. -/
inductive Break where
  | tab
  | feed
  | returnFeed
  deriving DecidableEq, Repr

/-- The text of a break. -/
def Break.text : Break → List Char
  | tab => ['\t']
  | feed => ['\n']
  | returnFeed => ['\r', '\n']

/-- The pieces of a set, each behind a break. -/
def wrapped (pieces : List (Break × List Char)) : List Char :=
  pieces.flatMap fun (gap, piece) => gap.text ++ piece

/-- Coordinates as they are written, with the set in pieces. -/
def written (file : String) (pos : Int64) (pieces : List (Break × List Char)) : List Char :=
  file.toList ++ '\t' :: ((Text.int64Text pos).toList ++ wrapped pieces)

theorem squeeze_wrapped (pieces : List (Break × List Char)) :
    Text.squeeze (wrapped pieces) = Text.squeeze (pieces.flatMap (·.2)) := by
  induction pieces with
  | nil => rfl
  | cons first pieces ih =>
    obtain ⟨gap, piece⟩ := first
    have nothing : Text.squeeze gap.text = [] := by cases gap <;> rfl
    simp only [wrapped, List.flatMap_cons, Text.squeeze_append, nothing, List.nil_append] at ih ⊢
    rw [ih]

/-- The first break after the beginning of a line ends the line or a field of it. -/
theorem exists_lines_wrapped {line : List Char} (some_ : line ≠ []) (one : '\n' ∉ line)
    (bare : line.getLast? ≠ some '\r') (pieces : List (Break × List Char)) :
    ∃ more others, Text.HasLines (line ++ wrapped pieces) ((line ++ more) :: others) ∧
      (more = [] ∨ ∃ rest, more = '\t' :: rest) := by
  match pieces with
  | [] => exact ⟨[], [], by simpa [wrapped] using .last some_ one, .inl rfl⟩
  | (.feed, piece) :: pieces =>
    have lines := Text.HasLines.feed one bare (Text.hasLines_lines (piece ++ wrapped pieces))
    exact ⟨[], _, by simpa [wrapped, Break.text] using lines, .inl rfl⟩
  | (.returnFeed, piece) :: pieces =>
    have lines := Text.HasLines.returnFeed one (Text.hasLines_lines (piece ++ wrapped pieces))
    exact ⟨[], _, by simpa [wrapped, Break.text] using lines, .inl rfl⟩
  | (.tab, piece) :: pieces =>
    have begun : line ++ ['\t'] ≠ [] := by simp
    have oneLine : '\n' ∉ line ++ ['\t'] := by simpa using one
    obtain ⟨more, others, lines⟩ :=
      (Text.hasLines_lines (piece ++ wrapped pieces)).prepend begun oneLine (by simp)
    exact ⟨'\t' :: more, others, by simpa [wrapped, Break.text] using lines, .inr ⟨more, rfl⟩⟩

section

variable {file : String} (pos : Int64) (pieces : List (Break × List Char))

/-- Whatever the set is broken by, file and position are the first two fields. -/
theorem exists_parts_written (tab : '\t' ∉ file.toList) (feed : '\n' ∉ file.toList) :
    ∃ fields others, HasParts (written file pos pieces) file.toList (Text.int64Text pos).toList
      fields others := by
  have absent {d : Char} (blank : Text.isBlank d = true) : d ∉ (Text.int64Text pos).toList := by
    intro member
    obtain digit | rfl := Text.isDigit_of_mem_int64Text member
    · simp [Text.not_isBlank_of_isDigit digit] at blank
    · cases blank
  have one : '\n' ∉ file.toList ++ '\t' :: (Text.int64Text pos).toList := by
    simp [feed, absent (d := '\n') rfl]
  have bare : (file.toList ++ '\t' :: (Text.int64Text pos).toList).getLast? ≠ some '\r' := by
    intro ends
    rw [List.getLast?_append_of_ne_nil _ (List.cons_ne_nil _ _)] at ends
    have member := List.mem_of_getLast? ends
    simp [absent (d := '\r') rfl] at member
  obtain ⟨more, others, lines, split⟩ := exists_lines_wrapped (by simp) one bare pieces
  have text : file.toList ++ '\t' :: (Text.int64Text pos).toList ++ wrapped pieces =
      written file pos pieces := by simp [written]
  rw [text] at lines
  obtain rfl | ⟨rest, rfl⟩ := split
  · exact ⟨[], others, by simpa using lines, by simp [tab, absent (d := '\t') rfl]⟩
  · obtain ⟨some_, joined, whole⟩ := Text.splitOn_eq_iff.1 (rfl : Text.splitOn '\t' rest = _)
    refine ⟨Text.splitOn '\t' rest, others, ?_, ?_⟩
    · rw [List.intercalate_cons_of_ne_nil (by simp), List.intercalate_cons_of_ne_nil some_,
        ← joined]
      simpa using lines
    · grind [absent (d := '\t') rfl]

/-- Coordinates that are written are read back if they name a file; without one they are refused. -/
theorem parse_written_eq (tab : '\t' ∉ file.toList) (feed : '\n' ∉ file.toList)
    (trimmed : Text.trim file.toList = file.toList) :
    parse (written file pos pieces) =
      if file = "" then .error .emptyBinlogInfo
      else .ok ⟨file, pos, normalizeGtid (pieces.flatMap (·.2))⟩ := by
  obtain ⟨fields, others, parts⟩ := exists_parts_written pos pieces tab feed
  have same : Text.squeeze (fields.flatten ++ others.flatten) =
      Text.squeeze (pieces.flatMap (·.2)) := by
    have whole := parts.squeeze_eq
    have blank : Text.squeeze ['\t'] = [] := rfl
    rw [written, Text.squeeze_append, ← List.singleton_append, Text.squeeze_append, blank,
      List.nil_append, Text.squeeze_append] at whole
    rw [← squeeze_wrapped]
    exact (List.append_cancel_left (List.append_cancel_left whole)).symm
  rw [parts.parse_eq, trimmed, Text.trim_int64Text, Text.readInt64_int64Text, normalizeGtid, same,
    String.ofList_toList]
  simp [normalizeGtid]

end

/-- Coordinates are read from a text just if it tells them, and so coordinates that are written are
read back, however their set is wrapped. There must be a log file for that. -/
theorem told_coordinates_read :
    (∀ text c, parse text = .ok c ↔ Tells text c) ∧
    ∀ (file : String) (pos : Int64) (set : String) (pieces : List (Break × List Char)),
      '\t' ∉ file.toList → '\n' ∉ file.toList → Text.trim file.toList = file.toList →
      (∀ c ∈ set.toList, Text.isBlank c = false) → pieces.flatMap (·.2) = set.toList →
        (parse (written file pos pieces) = .ok ⟨file, pos, set⟩ ↔ file ≠ "") := by
  refine ⟨fun text c => parse_eq_ok_iff, fun file pos set pieces tab feed trimmed dense same => ?_⟩
  have stays : normalizeGtid set.toList = set := by
    have kept : Text.squeeze set.toList = set.toList :=
      List.filter_eq_self.2 fun c member => by simp [dense c member]
    rw [normalizeGtid, kept, String.ofList_toList]
  rw [parse_written_eq pos pieces tab feed trimmed, same, stays]
  split <;> simp_all

/-- A set of two servers. -/
def sampleSet : String :=
  "956ddec0-33c0-11ea-8a71-3738749ebac9:1,5c2bd8fc-5ee3-11ea-adf4-5254008afee6:1-741"

/-- The set on two lines, with a tab within it. -/
def samplePieces : List (Break × List Char) :=
  [(.tab, "956ddec0-33c0-11ea-8a71-3738749ebac9:1,".toList),
    (.returnFeed, "5c2bd8fc-5ee3-11ea-adf4-5254008afee6:1".toList), (.tab, "-741".toList),
    (.feed, [])]

/-- What is written, and what is read of it. -/
theorem told_coordinates_read_wrapped :
    written "mysql-bin.000009" (-325) samplePieces =
        ("mysql-bin.000009\t-325\t956ddec0-33c0-11ea-8a71-3738749ebac9:1,\r\n".toList ++
          "5c2bd8fc-5ee3-11ea-adf4-5254008afee6:1\t-741\n".toList) ∧
      parse (written "mysql-bin.000009" (-325) samplePieces) =
        .ok ⟨"mysql-bin.000009", -325, sampleSet⟩ := by
  have none_ : (sampleSet.toList.all fun c => !Text.isBlank c) = true := by decide +kernel
  have dense : ∀ c ∈ sampleSet.toList, Text.isBlank c = false := by simpa using none_
  have same : samplePieces.flatMap (·.2) = sampleSet.toList := by decide +kernel
  have read := told_coordinates_read.2 "mysql-bin.000009" (-325) sampleSet samplePieces (by decide)
    (by decide) (by decide) dense same
  exact ⟨by decide +kernel, read.2 (by decide)⟩

end ReplicaSeed.BinlogInfo
