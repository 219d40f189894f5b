import ReplicaSeed.Proofs.Artifact.MetadataBlock
import ReplicaSeed.Proofs.Artifact.WrittenSet
import ReplicaSeed.Proofs.Text.Lines
import ReplicaSeed.Proofs.Text.Numeral

/-!
# Metadata files as they are written

A file that tells coordinates has them in a block of one of two styles: with a heading and colons,
or as a section of settings with equals signs. The marks of one style may occur in the values of the
other, and what stands around the block may look like it. The block is read back all the same.

## Main definitions

* `WrittenMetadata`: what a tool writes into the file.

## Main statements

* `standsIn_entryLine`: a line that is written is an entry.
* `exists_block_written`: the entries of a block.
-/

namespace ReplicaSeed.DumpMetadata

/-! ## What is written -/

/-- The two styles of a block. -/
inductive Style where
  | status
  | settings
  deriving DecidableEq, Repr

/-- The line begins a block of the style. -/
def Style.opens : Style → List Char → Bool
  | status, line =>
    Text.startsWith "SHOW MASTER STATUS".toList line ||
      Text.startsWith "SHOW BINARY LOG STATUS".toList line
  | settings, line => line == "[source]".toList || line == "[master]".toList

/-- The key of a field. -/
def Style.key : Style → Field → List Char
  | status, .file => "Log".toList
  | status, .position => "Pos".toList
  | status, .set => "GTID".toList
  | settings, .file => "File".toList
  | settings, .position => "Position".toList
  | settings, .set => "Executed_Gtid_Set".toList

/-- The character between key and value. -/
def Style.mark : Style → Char
  | status => ':'
  | settings => '='

/-- The blanks around the mark. -/
structure Gap where
  before : List Char
  after : List Char
  blank_before : ∀ c ∈ before, Text.isBlank c = true
  blank_after : ∀ c ∈ after, Text.isBlank c = true

/-- The line of an entry. -/
def entryLine (style : Style) (field : Field) (gap : Gap) (value : List Char) : List Char :=
  style.key field ++ gap.before ++ style.mark :: (gap.after ++ value)

/-- A value, perhaps in quotes. -/
def quoted (inQuotes : Bool) (value : List Char) : List Char :=
  if inQuotes then '\'' :: value ++ ['\''] else value

section

variable {style : Style} {field : Field} {gap : Gap} {value : List Char}

theorem opensBlock_of_opens {line : List Char} (opens : style.opens line = true) :
    opensBlock line = true := by
  cases style with
  | status =>
    rw [Style.opens] at opens
    rw [opensBlock, opens]
    rfl
  | settings =>
    rw [Style.opens] at opens
    rw [opensBlock, Bool.or_assoc, opens, Bool.or_true]

/-- Blanks are cut off a line only behind the mark. -/
theorem trim_entryLine :
    Text.trim (entryLine style field gap value) =
      style.key field ++ gap.before ++ style.mark :: Text.trimEnd (gap.after ++ value) := by
  have mark : Text.isBlank style.mark = false := by cases style <;> rfl
  have key : Text.trimStart (style.key field ++ gap.before) = style.key field ++ gap.before := by
    cases style <;> cases field <;> rfl
  rw [entryLine, Text.trim_append_cons mark, key]

theorem Style.mem_keys (style : Style) (field : Field) :
    String.ofList (Text.trim (style.key field)) ∈ field.keys := by
  cases style <;> cases field <;> decide

/-- Neither mark is taken for the other: a key has none of them. -/
theorem keyValue?_append_cons {key : List Char} (colon : ':' ∉ key) (equals : '=' ∉ key) :
    keyValue? (key ++ style.mark :: value) = some (key, value) := by
  cases style with
  | status =>
    rw [Style.mark, keyValue?, Text.splitOnce?_append_cons colon]
    simp [equals]
  | settings =>
    have cut := Text.splitOnce?_append_cons equals value
    have regroup : key ++ '=' :: value = (key ++ ['=']) ++ value := by simp
    rw [Style.mark, keyValue?, cut, regroup, Text.splitOnce?_append (by simpa using colon)]
    cases Text.splitOnce? ':' value <;> simp

/-- A line that is written is an entry. -/
theorem standsIn_entryLine (style : Style) (field : Field) (gap : Gap) (value : List Char) :
    Entry.StandsIn ⟨field, bareValue value⟩ (Text.trim (entryLine style field gap value)) := by
  have absent (d : Char) (mark : d = ':' ∨ d = '=') : d ∉ style.key field ++ gap.before := by
    have key : d ∉ style.key field := by
      obtain rfl | rfl := mark <;> cases style <;> cases field <;> decide
    have blank : d ∉ gap.before := fun member => by
      have blank := gap.blank_before d member
      obtain rfl | rfl := mark <;> cases blank
    simp [key, blank]
  have bare : bareValue value = bareValue (Text.trimEnd (gap.after ++ value)) := by
    have padded := Text.trim_padded gap.blank_after (b := []) (List.forall_mem_nil _) value
    rw [bareValue, bareValue, Text.trim_trimEnd, ← padded, List.append_nil]
  rw [trim_entryLine]
  refine ⟨style.key field ++ gap.before, Text.trimEnd (gap.after ++ value),
    keyValue?_append_cons (absent ':' (by simp)) (absent '=' (by simp)), ?_, bare⟩
  rw [Text.trim_append_of_blank gap.blank_before]
  exact style.mem_keys field

/-- It neither begins nor ends a block. -/
theorem entryLine_inside (style : Style) (field : Field) (gap : Gap) (value : List Char) :
    opensBlock (Text.trim (entryLine style field gap value)) = false ∧
      closesBlock (Text.trim (entryLine style field gap value)) = false := by
  rw [trim_entryLine]
  cases style <;> cases field <;> exact ⟨rfl, rfl⟩

/-! ## Values -/

theorem bareValue_of_plain (plain : '\'' ∉ value) : bareValue value = Text.trim value := by
  refine Text.trimMatches_of_none fun c member => beq_eq_false_iff_ne.2 ?_
  rintro rfl
  exact plain (Text.mem_of_mem_trim member)

theorem bareValue_enclosed (plain : '\'' ∉ value) : bareValue (quoted true value) = value := by
  have whole : Text.trim ('\'' :: value ++ ['\'']) = '\'' :: value ++ ['\''] :=
    Text.trim_append_cons rfl ('\'' :: value) []
  rw [quoted, if_pos rfl, bareValue, whole]
  refine Text.trimMatches_enclosed rfl fun c member => beq_eq_false_iff_ne.2 ?_
  rintro rfl
  exact plain member

/-- A value without blanks around it is read, with or without quotes. -/
theorem bareValue_quoted (inQuotes : Bool) (plain : '\'' ∉ value)
    (trimmed : Text.trim value = value) : bareValue (quoted inQuotes value) = value := by
  cases inQuotes with
  | true => exact bareValue_enclosed plain
  | false => exact (bareValue_of_plain plain).trans trimmed

end

/-- The last line of a set, with or without quotes. -/
theorem bareValue_last (s : WrappedSet) (inQuotes : Bool) :
    Text.squeeze (bareValue (quoted inQuotes (setText s.last))) = setNames s.last ∧
      (bareValue (quoted inQuotes (setText s.last))).getLast? ≠ some ',' := by
  have plain := not_mem_setText (c := '\'') (by simp) s.last
  have whole := s.getLast?_trim_last
  cases inQuotes with
  | false =>
    rw [quoted, if_neg Bool.false_ne_true, bareValue_of_plain plain, Text.squeeze_trim,
      squeeze_setText]
    exact ⟨rfl, whole⟩
  | true =>
    rw [bareValue_enclosed plain, squeeze_setText]
    refine ⟨rfl, fun comma => whole ?_⟩
    obtain ⟨a, split⟩ := List.getLast?_eq_some_iff.1 comma
    rw [split, Text.trim_append_cons rfl]
    simp

/-! ## Blocks -/

/-- What a tool tells in a block. A set on several lines is not in quotes, whatever is asked for. -/
structure WrittenBlock where
  style : Style
  file : List Char
  pos : Int64
  set : WrappedSet
  inQuotes : Field → Bool
  gap : Field → Gap
  named : file ≠ []
  plain : '\'' ∉ file
  trimmed : Text.trim file = file

namespace WrittenBlock

variable (w : WrittenBlock)

/-- The lines of the set. -/
def setLines : List (List Char) :=
  match w.set.rows with
  | [] => [entryLine w.style .set (w.gap .set) (quoted (w.inQuotes .set) (setText w.set.last))]
  | row :: rows =>
    entryLine w.style .set (w.gap .set) (WrappedSet.rowText row) ::
      (rows.map WrappedSet.rowText ++ [setText w.set.last])

/-- The lines of the block. -/
def lines : List (List Char) :=
  entryLine w.style .file (w.gap .file) (quoted (w.inQuotes .file) w.file) ::
    entryLine w.style .position (w.gap .position)
      (quoted (w.inQuotes .position) (Text.int64Text w.pos).toList) :: w.setLines

/-- The coordinates that are told. -/
def coordinates : Coordinates :=
  ⟨String.ofList w.file, w.pos, String.ofList (setNames w.set.members)⟩

end WrittenBlock

/-- A set goes on over lines that end with a comma, up to one that does not. -/
theorem goesOn_rows (rows : List (List WrittenMember)) {last : List Char}
    (complete : last.getLast? ≠ some ',') (rest : List (List Char)) :
    GoesOn ((rows.map fun row => Text.trim (WrappedSet.rowText row)) ++ last :: rest)
      ((rows.map fun row => Text.trim (WrappedSet.rowText row)).flatten ++ last) rest := by
  induction rows with
  | nil => exact .last complete
  | cons row rows ih =>
    rw [List.map_cons, List.cons_append, List.flatten_cons, List.append_assoc]
    exact .more (by simp [WrappedSet.trim_rowText]) ih

/-- The lines of a set are one entry. -/
theorem exists_block_set (w : WrittenBlock) {rest : List (List Char)} (block : Block rest []) :
    ∃ value, Block (w.setLines.map Text.trim ++ rest) [⟨.set, value⟩] ∧
      Text.squeeze value = setNames w.set.members := by
  -- A set on one line is an entry of its own; one on several lines goes on over the rows.
  cases rows : w.set.rows with
  | nil =>
    obtain ⟨same, complete⟩ := bareValue_last w.set (w.inQuotes .set)
    have inside := entryLine_inside w.style .set (w.gap .set)
      (quoted (w.inQuotes .set) (setText w.set.last))
    refine ⟨_, ?_, same.trans ?_⟩
    · rw [WrittenBlock.setLines, rows]
      exact .entry inside.1 inside.2 (standsIn_entryLine ..) (fun goesOn => complete goesOn.2) block
    · rw [WrappedSet.members, rows, List.flatten_nil, List.nil_append]
  | cons row rows' =>
    have inside := entryLine_inside w.style .set (w.gap .set) (WrappedSet.rowText row)
    have goesOn := goesOn_rows rows' w.set.getLast?_trim_last rest
    have bare : bareValue (WrappedSet.rowText row) = Text.trim (WrappedSet.rowText row) := by
      have plain := not_mem_setText (c := '\'') (by simp) row
      exact bareValue_of_plain (by simpa [WrappedSet.rowText] using plain)
    have begins : Entry.IsOpen ⟨.set, bareValue (WrappedSet.rowText row)⟩ :=
      ⟨rfl, by simp [bare, WrappedSet.trim_rowText]⟩
    have lines : w.setLines.map Text.trim ++ rest =
        Text.trim (entryLine w.style .set (w.gap .set) (WrappedSet.rowText row)) ::
          ((rows'.map fun row => Text.trim (WrappedSet.rowText row)) ++
            Text.trim (setText w.set.last) :: rest) := by
      simp [WrittenBlock.setLines, rows]
    rw [lines]
    refine ⟨_, .wrapped inside.1 inside.2 (standsIn_entryLine ..) begins goesOn block, ?_⟩
    rw [bare, ← w.set.squeeze_lines, rows, List.map_cons, List.flatten_cons, List.append_assoc]

/-- The entries of a block. -/
theorem exists_block_written (w : WrittenBlock) {rest : List (List Char)} (block : Block rest []) :
    ∃ value, Block (w.lines.map Text.trim ++ rest)
        [⟨.file, w.file⟩, ⟨.position, (Text.int64Text w.pos).toList⟩, ⟨.set, value⟩] ∧
      Text.squeeze value = setNames w.set.members := by
  obtain ⟨value, set, same⟩ := exists_block_set w block
  have file := bareValue_quoted (w.inQuotes .file) w.plain w.trimmed
  have stays {c : Char} (member : c ∈ (Text.int64Text w.pos).toList) :
      c ≠ '\'' ∧ Text.isBlank c = false := by
    obtain digit | rfl := Text.isDigit_of_mem_int64Text member
    · refine ⟨?_, Text.not_isBlank_of_isDigit digit⟩
      rintro rfl
      cases digit
    · decide
  have trimmed : Text.trim (Text.int64Text w.pos).toList = (Text.int64Text w.pos).toList :=
    Text.trimMatches_of_none fun c member => (stays member).2
  have pos := bareValue_quoted (w.inQuotes .position) (fun member => (stays member).1 rfl) trimmed
  have fileLine := standsIn_entryLine w.style .file (w.gap .file)
    (quoted (w.inQuotes .file) w.file)
  have posLine := standsIn_entryLine w.style .position (w.gap .position)
    (quoted (w.inQuotes .position) (Text.int64Text w.pos).toList)
  rw [file] at fileLine
  rw [pos] at posLine
  refine ⟨value, ?_, same⟩
  exact .entry (entryLine_inside ..).1 (entryLine_inside ..).2 fileLine (by simp [Entry.IsOpen])
    (.entry (entryLine_inside ..).1 (entryLine_inside ..).2 posLine (by simp [Entry.IsOpen]) set)

/-! ## Files -/

/-- A file with a block. The lines of the block may have blanks around them. Blank lines follow, and
then the end of the file or a line that ends the block, with any text behind it. -/
structure WrittenMetadata where
  before : List (List Char)
  opening : List Char
  told : WrittenBlock
  block : List (List Char)
  blank : List (List Char)
  after : List (List Char)
  oneLine : ∀ line ∈ before ++ opening :: (block ++ blank), '\n' ∉ line
  closed : ∀ line ∈ before, opensBlock (Text.trim line) = false
  opens : told.style.opens (Text.trim opening) = true
  block_eq : block.map Text.trim = told.lines.map Text.trim
  blank_eq : ∀ line ∈ blank, Text.trim line = []
  ends : after = [] ∨ ∃ closing rest, after = closing :: rest ∧ '\n' ∉ closing ∧
    opensBlock (Text.trim closing) = false ∧ closesBlock (Text.trim closing) = true

/-- The file as it is written. -/
def WrittenMetadata.text (w : WrittenMetadata) : List Char :=
  ['\n'].intercalate (w.before ++ w.opening :: (w.block ++ w.blank) ++ w.after)

section

variable {lines : List (List Char)} {place : Place} {found : Found}

/-- An empty line at the end does not count. -/
theorem scan_concat_nil : scan place found (lines ++ [[]]) = scan place found lines := by
  induction lines generalizing place found with
  | nil =>
    cases place with
    | inSet => simp [scan]
    | _ => rfl
  | cons line lines ih => simp only [List.cons_append, scan, ih]

/-- A file may be cut at its line feeds. -/
theorem parse_of_block {text : List Char} {before : List (List Char)} {opening : List Char}
    {es : List Entry}
    (split : (Text.splitOn '\n' text).map Text.trim = before ++ opening :: lines)
    (closed : ∀ line ∈ before, opensBlock line = false) (opens : opensBlock opening = true)
    (block : Block lines es) {found : Found} (told : es.foldlM Found.enter {} = .ok found)
    (named : found.file ≠ []) :
    parse text = .ok ⟨String.ofList found.file, found.pos, normalizeGtid found.set⟩ := by
  have whole : scan .before {} ((Text.splitOn '\n' text).map Text.trim) = .ok found := by
    rw [split, scan_before closed, scan, if_neg (by decide), opens, if_pos rfl, scan_of_block block,
      told]
  have scanned : scan .before {} ((Text.lines text).map Text.trim) = .ok found := by
    obtain ⟨last, cut, rfl | rfl⟩ := Text.splitOn_lines text
    · rwa [cut, List.append_nil] at whole
    · rwa [cut, scan_concat_nil] at whole
  rw [parse, scanned]
  exact if_neg named

/-- Blank lines tell nothing. -/
theorem block_blank (blank : List (List Char)) {rest : List (List Char)} (block : Block rest [])
    (empty : ∀ line ∈ blank, Text.trim line = []) : Block (blank.map Text.trim ++ rest) [] := by
  induction blank with
  | nil => exact block
  | cons line blank ih =>
    obtain ⟨first, empty⟩ := List.forall_mem_cons.1 empty
    rw [List.map_cons, first]
    refine .skip rfl rfl ?_ (ih empty)
    rintro e ⟨key, value, split, -⟩
    cases split

/-- What stands in the lines of a file that is written. -/
theorem exists_splitOn_text (w : WrittenMetadata) :
    ∃ rest, (Text.splitOn '\n' w.text).map Text.trim =
        w.before.map Text.trim ++ Text.trim w.opening ::
          (w.told.lines.map Text.trim ++ (w.blank.map Text.trim ++ rest)) ∧ Block rest [] := by
  have grouped (rest : List (List Char)) :
      (w.before ++ w.opening :: (w.block ++ w.blank) ++ rest).map Text.trim =
        w.before.map Text.trim ++ Text.trim w.opening ::
          (w.told.lines.map Text.trim ++ (w.blank.map Text.trim ++ rest.map Text.trim)) := by
    simp [← w.block_eq]
  obtain empty | ⟨closing, rest, split, one, opens, closes⟩ := w.ends
  · refine ⟨[], ?_, .nil⟩
    rw [WrittenMetadata.text, empty, List.append_nil, Text.splitOn_intercalate w.oneLine (by simp)]
    simpa using grouped []
  · obtain ⟨more, cut⟩ : ∃ more, Text.splitOn '\n' (['\n'].intercalate (closing :: rest)) =
        closing :: more := by
      by_cases alone : rest = []
      · exact ⟨[], by rw [alone, Text.splitOn_intercalate (by simpa using one) (by simp)]⟩
      · have one' : ∀ line ∈ [closing], '\n' ∉ line := by simpa using one
        exact ⟨_, Text.splitOn_intercalate_append one' alone⟩
    refine ⟨Text.trim closing :: more.map Text.trim, ?_, .close opens closes⟩
    rw [WrittenMetadata.text, split, Text.splitOn_intercalate_append w.oneLine (by simp), cut]
    exact grouped (closing :: more)

/-- A metadata file is read back. -/
theorem parse_written (w : WrittenMetadata) : parse w.text = .ok w.told.coordinates := by
  obtain ⟨rest, split, closing⟩ := exists_splitOn_text w
  have blank := block_blank w.blank closing w.blank_eq
  obtain ⟨value, block, same⟩ := exists_block_written w.told blank
  have entered : List.foldlM Found.enter {} [⟨.file, w.told.file⟩,
      ⟨.position, (Text.int64Text w.told.pos).toList⟩, ⟨.set, value⟩] =
        .ok ⟨w.told.file, w.told.pos, value⟩ := by
    simp [Found.enter, Text.readInt64_int64Text, bind, Except.bind, pure, Except.pure]
  have closed : ∀ line ∈ w.before.map Text.trim, opensBlock line = false := by
    simpa using w.closed
  rw [parse_of_block split closed (opensBlock_of_opens w.opens) block entered w.told.named,
    normalizeGtid, same]
  rfl

/-- A block with a set on two lines. -/
def sampleBlock : WrittenBlock where
  style := .status
  file := "mysql-bin.000022".toList
  pos := 194
  set :=
    { rows := [[⟨[], "70f9ba7b-5ee3-11ea-96a0-5254008afee6:1-9".toList, [], List.forall_mem_nil _,
        List.all_eq_true.1 rfl, List.forall_mem_nil _⟩]]
      last := [⟨[], "70f9ba7c-5ee3-11ea-96a0-5254008afee6:1".toList, [], List.forall_mem_nil _,
        List.all_eq_true.1 rfl, List.forall_mem_nil _⟩]
      filled := List.forall_mem_singleton.2 (List.cons_ne_nil _ _)
      ends := fun _ => List.cons_ne_nil _ _
      named := by decide }
  inQuotes := fun _ => false
  gap := fun _ => ⟨[], ['\t'], List.forall_mem_nil _, List.all_eq_true.1 rfl⟩
  named := by decide
  plain := by decide
  trimmed := by decide

/-- The block in a file that also tells of another server. -/
def sampleMetadata : WrittenMetadata where
  before := ["Started dump at: 2020-03-09 15:34:41".toList]
  opening := "SHOW MASTER STATUS:".toList
  told := sampleBlock
  block := ["  Log:\tmysql-bin.000022".toList, "  Pos:\t194".toList,
    "  GTID:\t70f9ba7b-5ee3-11ea-96a0-5254008afee6:1-9,".toList,
    "70f9ba7c-5ee3-11ea-96a0-5254008afee6:1".toList]
  blank := [[]]
  after := ["SHOW SLAVE STATUS:".toList, "\tLog: relay-bin.000001\n\tPos: 4\n".toList]
  oneLine := by decide +kernel
  closed := by decide +kernel
  opens := by decide +kernel
  block_eq := by decide +kernel
  blank_eq := by decide +kernel
  ends := .inr ⟨_, _, rfl, by decide +kernel, by decide +kernel, by decide +kernel⟩

/-- What the file looks like, and what is read of it. -/
theorem parse_sampleMetadata :
    sampleMetadata.text =
        "Started dump at: 2020-03-09 15:34:41\n".toList ++
          "SHOW MASTER STATUS:\n  Log:\tmysql-bin.000022\n  Pos:\t194\n".toList ++
          "  GTID:\t70f9ba7b-5ee3-11ea-96a0-5254008afee6:1-9,\n".toList ++
          "70f9ba7c-5ee3-11ea-96a0-5254008afee6:1\n\n".toList ++
          "SHOW SLAVE STATUS:\n\tLog: relay-bin.000001\n\tPos: 4\n".toList ∧
      parse sampleMetadata.text = .ok ⟨"mysql-bin.000022", 194,
        "70f9ba7b-5ee3-11ea-96a0-5254008afee6:1-9,70f9ba7c-5ee3-11ea-96a0-5254008afee6:1"⟩ := by
  refine ⟨by decide +kernel, (parse_written sampleMetadata).trans ?_⟩
  decide +kernel

end

end ReplicaSeed.DumpMetadata
