import ReplicaSeed.Proofs.Artifact.HeaderLines
import ReplicaSeed.Proofs.Artifact.WrittenSet
import ReplicaSeed.Proofs.Text.Numeral

/-!
# Headers as they are written

A dump begins with comments and settings. Among them stand the assignment of the transaction set,
which may go over many lines, and after it the line that states the place. Both have two forms.
However they are written, they are read back.

## Main definitions

* `WrittenHeader`: what a tool writes at the beginning of a dump.

## Main statements

* `exists_scan_assignment`: an assignment is read up to its end, with the set that it assigns.
* `logPlace_placeLine`: the place that a line states.
-/

namespace ReplicaSeed.DumpHeader

/-! ## What is written -/

/-- The two forms of the statement that states the place. -/
inductive Dialect where
  | master
  | source
  deriving DecidableEq, Repr

/-- The name of the statement. -/
def Dialect.statement : Dialect → List Char
  | master => "CHANGE MASTER TO".toList
  | source => "CHANGE REPLICATION SOURCE TO".toList

/-- What the names of its options begin with. -/
def Dialect.role : Dialect → List Char
  | master => "MASTER".toList
  | source => "SOURCE".toList

/-- The assignment of a transaction set. A server may be told to add the set to its own. -/
structure Assignment where
  adds : Bool
  members : List WrittenMember

/-- What an assignment begins with. -/
def Assignment.lead : List Char := "SET @@GLOBAL.GTID_PURGED=".toList

/-- What stands before the set. -/
def Assignment.sign (a : Assignment) : List Char :=
  (if a.adds then "/*!80000 '+'*/ ".toList else []) ++ ['\'']

/-- The statement that makes the assignment. -/
def Assignment.text (a : Assignment) : List Char :=
  lead ++ (a.sign ++ setText a.members ++ ['\'', ';'])

/-- A line that neither names the set, states the place nor begins a database. -/
structure IsQuiet (line : List Char) : Prop where
  one : '\n' ∉ line
  unnamed : ¬ "GTID_PURGED".toList <:+: line
  silent : statesPlace line = false
  noDatabase : Text.startsWith "-- Current Database:".toList line = false

/-- What a tool writes at the beginning of a dump: lines, the assignment if there is one, other
lines, and the place. The place may be stated in a comment. -/
structure WrittenHeader where
  before : List (List Char)
  assignment : Option Assignment
  between : List (List Char)
  dialect : Dialect
  commented : Bool
  file : List Char
  pos : Int64
  quiet_before : ∀ line ∈ before, IsQuiet line
  quiet_between : ∀ line ∈ between, IsQuiet line
  named : file ≠ []
  plain : '\'' ∉ file ∧ '\n' ∉ file ∧ '=' ∉ file ∧ ¬ "GTID_PURGED".toList <:+: file
  nonneg : 0 ≤ pos.toInt

namespace WrittenHeader

variable (w : WrittenHeader)

/-- The line up to the name of the file. -/
def lead : List Char :=
  (if w.commented then "-- ".toList else []) ++ w.dialect.statement ++ ' ' :: w.dialect.role ++
    "_".toList

/-- The line between the name of the file and the position. -/
def middle : List Char := ", ".toList ++ w.dialect.role ++ "_".toList

/-- The line that states the place. -/
def placeLine : List Char :=
  w.lead ++ "LOG_FILE='".toList ++ (w.file ++ '\'' :: (w.middle ++ "LOG_POS=".toList ++
    ((Text.int64Text w.pos).toList ++ [';'])))

/-- The header as it is written. -/
def text : List Char :=
  Text.terminated '\n' (w.before ++ (w.assignment.map Assignment.text).toList ++ w.between) ++
    w.placeLine

/-- The coordinates that are written. -/
def coordinates : Coordinates :=
  ⟨String.ofList w.file, w.pos,
    (w.assignment.map fun a => String.ofList (setNames a.members)).getD ""⟩

end WrittenHeader

/-! ## Lines of text -/

section

variable {ls : List (List Char)} {ds : List Char} {rest : List (Option (List Char))}

theorem encode_terminated (ls : List (List Char)) :
    Text.encode (Text.terminated '\n' ls) = Text.terminated 10 (ls.map Text.encode) := by
  induction ls with
  | nil => rw [Text.encode_eq]; rfl
  | cons l ls ih =>
    have feed : Text.encode ['\n'] = [10] := by decide +kernel
    rw [Text.terminated_cons, List.map_cons, Text.terminated_cons, ← List.singleton_append,
      Text.encode_append, Text.encode_append, feed, ih]
    rfl

theorem fileLines_encode_terminated (within : ∀ line ∈ ls, '\n' ∉ line) (rest : List UInt8) :
    fileLines (Text.encode (Text.terminated '\n' ls) ++ rest) =
      ls.map (some ∘ Text.dropReturn) ++ fileLines rest := by
  have within' : ∀ line ∈ ls.map Text.encode, 10 ∉ line := by
    simpa using fun line member => Text.feed_not_mem_encode (within line member)
  rw [encode_terminated, fileLines_terminated_append within', List.map_map]
  congr 1
  exact List.map_congr_left fun line _ => lineText_encode line

/-- A line that ends with a semicolon is read as it is, whether or not a line feed follows. -/
theorem exists_fileLines_encode (one : '\n' ∉ ds) {after : List UInt8}
    (apart : after = [] ∨ after.head? = some 10) :
    ∃ more, fileLines (Text.encode (ds ++ [';']) ++ after) = some (ds ++ [';']) :: more := by
  have free : 10 ∉ Text.encode (ds ++ [';']) := Text.feed_not_mem_encode (by simpa using one)
  obtain rfl | ends := apart
  · have some_ : Text.encode (ds ++ [';']) ≠ [] := by
      have semicolon : Text.encode [';'] = [59] := by decide +kernel
      simp [semicolon]
    have same : Text.stripLineEnd (ds ++ [';']) = ds ++ [';'] := by simp [Text.stripLineEnd]
    rw [List.append_nil, fileLines_of_not_mem free, if_neg some_, Text.decode?_encode,
      Option.map_some, same]
    exact ⟨[], rfl⟩
  · obtain ⟨more, rfl⟩ := List.head?_eq_some_iff.1 ends
    rw [fileLines_append_cons free, lineText_encode, Text.dropReturn_of_ne (by simp)]
    exact ⟨fileLines more, rfl⟩

/-- Quiet lines are passed over. -/
theorem scan_quiet (quiet : ∀ line ∈ ls, IsQuiet line) (assignment : Option (List Char)) :
    scan assignment false (ls.map (some ∘ Text.dropReturn) ++ rest) =
      scan assignment false rest := by
  induction ls with
  | nil => rfl
  | cons line ls ih =>
    obtain ⟨⟨-, unnamed, silent, noDatabase⟩, quiet⟩ := List.forall_mem_cons.1 quiet
    have shorter := Text.dropReturn_isPrefix line
    have unnamed' : ¬ "GTID_PURGED".toList <:+: Text.dropReturn line :=
      fun found => unnamed (found.trans shorter.isInfix)
    have silent' : statesPlace (Text.dropReturn line) = false :=
      (congrArg (·.2.1) (placeTold_dropReturn line)).trans silent
    have noDatabase' :
        Text.startsWith "-- Current Database:".toList (Text.dropReturn line) = false := by
      rw [Bool.eq_false_iff, ne_eq, Text.startsWith_iff] at noDatabase ⊢
      exact fun begins => noDatabase (begins.trans shorter)
    have closed : leavesOpen false (Text.dropReturn line) = false := by
      rw [leavesOpen, if_neg Bool.false_ne_true, Text.cut?_eq_none_iff.2 unnamed']
    rw [List.map_cons, List.cons_append, Function.comp_apply,
      scan_other unnamed' silent' noDatabase', closed]
    exact ih quiet

end

/-! ## The assignment -/

section

variable {cs u : List Char} {ls : List (List Char)} {rest : List (Option (List Char))}

theorem dropComments_of_not_mem (plain : '/' ∉ cs) : dropComments false cs = cs := by
  induction cs with
  | nil => rfl
  | cons c cs ih =>
    rw [List.mem_cons, not_or] at plain
    rw [dropComments, ih plain.2]
    · exact fun _ slash _ => plain.1 slash.symm
    · exact fun _ slash _ => plain.1 slash.symm

/-- The text between apostrophes is found, if there are none around them. -/
theorem quotedPart_enclosed {a b : List Char} (before : '\'' ∉ a) (after : '\'' ∉ b)
    (u : List Char) :
    quotedPart (a ++ '\'' :: (u ++ '\'' :: b)) = u := by
  have back : (u ++ '\'' :: b).reverse = b.reverse ++ '\'' :: u.reverse := by simp
  rw [quotedPart, Text.splitOnce?_append_cons before]
  simp only [back]
  rw [Text.splitOnce?_append_cons (by simpa using after)]
  simp

/-- What is assigned does not depend on whether it is added. -/
theorem gtidSet_sign (a : Assignment) (plain : '/' ∉ u) :
    gtidSet (a.sign ++ u ++ ['\'', ';']) = normalizeGtid u := by
  have rest : '/' ∉ '\'' :: (u ++ ['\'', ';']) := by simpa using plain
  have quoted : quotedPart (dropComments false (a.sign ++ u ++ ['\'', ';'])) = u := by
    rw [Assignment.sign]
    cases a.adds with
    | false =>
      have whole := dropComments_of_not_mem rest
      exact (congrArg quotedPart whole).trans
        (quotedPart_enclosed (a := []) (b := [';']) (by simp) (by decide) u)
    | true =>
      have whole := congrArg (' ' :: ·) (dropComments_of_not_mem rest)
      exact (congrArg quotedPart whole).trans
        (quotedPart_enclosed (a := [' ']) (b := [';']) (by decide) (by decide) u)
  rw [gtidSet, quoted]

/-- The line that begins an assignment. -/
theorem scan_begin (value : List Char) :
    scan none false (some (Assignment.lead ++ value) :: rest) =
      scan (some value) (!value.contains ';') rest := by
  have cut : Text.cut? "GTID_PURGED".toList (Assignment.lead ++ value) =
      some ("SET @@GLOBAL.".toList, '=' :: value) :=
    Text.cut?_first (a := "SET @@GLOBAL.".toList) (by decide) ('=' :: value)
  rw [scan_assign cut, leavesOpen, if_neg Bool.false_ne_true, cut]
  rfl

/-- Lines without a semicolon are gathered. -/
theorem scan_gather (free : ∀ line ∈ ls, ';' ∉ line) (value : List Char) :
    scan (some value) true (ls.map some ++ rest) = scan (some (value ++ ls.flatten)) true rest := by
  induction ls generalizing value with
  | nil => simp
  | cons line ls ih =>
    obtain ⟨first, free⟩ := List.forall_mem_cons.1 free
    have stays : leavesOpen true line = true := by simpa [leavesOpen] using first
    rw [List.map_cons, List.cons_append, scan_open, stays, Option.getD_some, ih free,
      List.flatten_cons, List.append_assoc]

/-- An assignment over several lines, up to the first semicolon. -/
theorem scan_wrapped {first last : List Char} (begins : ';' ∉ first)
    (free : ∀ line ∈ ls, ';' ∉ line) (ends : ';' ∈ last) (rest : List (Option (List Char))) :
    scan none false (some (Assignment.lead ++ first) :: (ls.map some ++ some last :: rest)) =
      scan (some (first ++ ls.flatten ++ last)) false rest := by
  have goesOn : (!first.contains ';') = true := by simpa using begins
  have stops : leavesOpen true last = false := by simpa [leavesOpen] using ends
  rw [scan_begin, goesOn, scan_gather free, scan_open, stops, Option.getD_some]

theorem sign_marks (a : Assignment) :
    '\n' ∉ a.sign ∧ ';' ∉ a.sign ∧ (Assignment.lead ++ a.sign).getLast? ≠ some '\r' := by
  rw [Assignment.sign]
  cases a.adds <;> decide

/-- The lines of a set. Without their ends they have no semicolon, and assign the set. -/
theorem exists_lines_of_set (a : Assignment) :
    ∃ ls last, setText a.members = Text.terminated '\n' ls ++ last ∧ (∀ line ∈ ls, '\n' ∉ line) ∧
      '\n' ∉ last ∧ ';' ∉ (ls.map Text.dropReturn).flatten ++ last ∧
      gtidSet (a.sign ++ ((ls.map Text.dropReturn).flatten ++ last) ++ ['\'', ';']) =
        String.ofList (setNames a.members) := by
  obtain ⟨ls, last, split, within, unended⟩ := Text.exists_terminated '\n' (setText a.members)
  have marks (c : Char) (mark : c = ';' ∨ c = '\'' ∨ c = '/') :
      c ∉ (ls.map Text.dropReturn).flatten ++ last := by
    have absent := not_mem_setText mark a.members
    rw [split, List.mem_append, not_or] at absent
    rw [List.mem_append, not_or]
    exact ⟨fun member => absent.1 (Text.mem_terminated_of_mem_flatten member), absent.2⟩
  refine ⟨ls, last, split, within, unended, marks ';' (by simp), ?_⟩
  rw [gtidSet_sign a (marks '/' (by simp)), normalizeGtid, Text.squeeze_append,
    Text.squeeze_flatten_dropReturn, ← Text.squeeze_append, ← split, squeeze_setText]

/-- An assignment is read up to its end, with the set that it assigns. -/
theorem exists_scan_assignment (a : Assignment) :
    ∃ ls value, Text.terminated '\n' ls = a.text ++ ['\n'] ∧ (∀ line ∈ ls, '\n' ∉ line) ∧
      gtidSet value = String.ofList (setNames a.members) ∧ ∀ rest,
        scan none false (ls.map (some ∘ Text.dropReturn) ++ rest) =
          scan (some value) false rest := by
  obtain ⟨ls, last, split, within, unended, open_, same⟩ := exists_lines_of_set a
  obtain ⟨sign, signOpen, signEnds⟩ := sign_marks a
  have lead : '\n' ∉ Assignment.lead := by decide
  have ends (cs : List Char) : Text.dropReturn (cs ++ ['\'', ';']) = cs ++ ['\'', ';'] :=
    Text.dropReturn_of_ne (by simp)
  -- Only the first line has the name, and only the last one the semicolon; they may be the same.
  cases ls with
  | nil =>
    refine ⟨[Assignment.lead ++ (a.sign ++ last ++ ['\'', ';'])], a.sign ++ last ++ ['\'', ';'],
      by simp [Assignment.text, split], by simp [lead, sign, unended], by simpa using same,
      fun rest => ?_⟩
    rw [List.map_singleton, List.singleton_append, Function.comp_apply, ← List.append_assoc, ends,
      List.append_assoc, scan_begin]
    simp
  | cons l ls =>
    obtain ⟨first, within⟩ := List.forall_mem_cons.1 within
    refine ⟨(Assignment.lead ++ (a.sign ++ l)) :: (ls ++ [last ++ ['\'', ';']]), _,
      by simp [Assignment.text, split], ?_, same, fun rest => ?_⟩
    · simp only [List.forall_mem_cons, List.forall_mem_append]
      exact ⟨by simp [lead, sign, first], within, by simpa using unended, nofun⟩
    · simp only [List.map_cons, List.flatten_cons, List.mem_append, not_or] at open_
      have read : Text.dropReturn (Assignment.lead ++ (a.sign ++ l)) =
          Assignment.lead ++ (a.sign ++ Text.dropReturn l) := by
        rw [← List.append_assoc, Text.dropReturn_append signEnds, List.append_assoc]
      have begins : ';' ∉ a.sign ++ Text.dropReturn l := by simp [signOpen, open_.1.1]
      have free : ∀ line ∈ ls.map Text.dropReturn, ';' ∉ line := by simpa using open_.1.2
      have ends' : ';' ∈ last ++ ['\'', ';'] := by simp
      have whole := scan_wrapped begins free ends' rest
      rw [List.map_cons, List.map_append, List.map_singleton, Function.comp_apply, read,
        Function.comp_apply, ends, ← List.map_map]
      simpa using whole

end

/-! ## The place -/

namespace WrittenHeader

variable (w : WrittenHeader)

/-- The fixed parts of the line have no mark that is looked for in it. -/
theorem lead_marks :
    '\n' ∉ w.lead ∧ ¬ "LOG_FILE='".toList <:+: w.lead ++ "LOG_FILE=".toList ∧
      ¬ "LOG_POS=".toList <:+: w.lead ++ "LOG_FILE=".toList ∧
      ¬ "GTID_PURGED".toList <:+: w.lead ++ "LOG_FILE=".toList ∧ statesPlace w.lead = true := by
  rw [lead]
  cases w.dialect <;> cases w.commented <;> decide

theorem middle_marks :
    '\n' ∉ w.middle ∧ '=' ∉ w.middle ∧
      ¬ "GTID_PURGED".toList <:+: w.middle ++ "LOG_POS".toList := by
  rw [middle]
  cases w.dialect <;> decide

/-- The line, cut at the marks around the name of the file. -/
theorem placeLine_eq :
    w.placeLine = (w.lead ++ "LOG_FILE=".toList) ++ '\'' :: (w.file ++ '\'' ::
      ((w.middle ++ "LOG_POS".toList) ++ '=' :: ((Text.int64Text w.pos).toList ++ [';']))) := by
  simp [placeLine]

theorem isDigit_of_mem_pos {c : Char} (member : c ∈ (Text.int64Text w.pos).toList) :
    c.isDigit = true :=
  Text.isDigit_of_mem_int64Text_of_nonneg w.nonneg member

/-- The line states the place that is written. -/
theorem logPlace_placeLine : logPlace w.placeLine = .ok (String.ofList w.file, w.pos) := by
  obtain ⟨-, file, noPos, -, -⟩ := w.lead_marks
  obtain ⟨-, middle, -⟩ := w.middle_marks
  have cutFile : Text.cut? "LOG_FILE='".toList w.placeLine = some (w.lead, w.file ++ '\'' ::
      (w.middle ++ "LOG_POS=".toList ++ ((Text.int64Text w.pos).toList ++ [';']))) :=
    Text.cut?_first file _
  have cutPos : Text.cut? "LOG_POS=".toList w.placeLine =
      some (w.lead ++ "LOG_FILE='".toList ++ (w.file ++ '\'' :: w.middle),
        (Text.int64Text w.pos).toList ++ [';']) := by
    have regroup : w.placeLine = w.lead ++ "LOG_FILE='".toList ++ (w.file ++ '\'' :: w.middle) ++
        "LOG_POS=".toList ++ ((Text.int64Text w.pos).toList ++ [';']) := by
      simp [placeLine]
    rw [regroup]
    refine Text.cut?_first ?_ _
    have split : w.lead ++ "LOG_FILE='".toList ++ (w.file ++ '\'' :: w.middle) ++
        "LOG_POS=".toList.dropLast = (w.lead ++ "LOG_FILE=".toList) ++ '\'' ::
          (w.file ++ '\'' :: (w.middle ++ "LOG_POS".toList)) := by
      simp
    rw [split, Text.isInfix_append_cons (by decide), not_or]
    refine ⟨noPos, Text.not_isInfix_of_not_mem (c := '=') (by decide) ?_⟩
    simp [w.plain.2.2.1, middle]
  have digits : ((Text.int64Text w.pos).toList ++ [';']).takeWhile Char.isDigit =
      (Text.int64Text w.pos).toList := by
    rw [List.takeWhile_append_of_pos fun c member => w.isDigit_of_mem_pos member]
    exact List.append_nil _
  rw [logPlace, cutFile, cutPos]
  simp only [Text.splitOnce?_append_cons w.plain.1, digits, pure_bind, Text.readInt64_int64Text]
  rfl

theorem placeLine_unnamed : ¬ "GTID_PURGED".toList <:+: w.placeLine := by
  obtain ⟨-, -, -, lead, -⟩ := w.lead_marks
  obtain ⟨-, -, middle⟩ := w.middle_marks
  have last : ¬ "GTID_PURGED".toList <:+: (Text.int64Text w.pos).toList ++ [';'] := by
    refine Text.not_isInfix_of_not_mem (c := 'G') (by decide) fun member => ?_
    obtain member | member := List.mem_append.1 member
    · cases w.isDigit_of_mem_pos member
    · cases List.mem_singleton.1 member
  rw [placeLine_eq, Text.isInfix_append_cons (by decide), Text.isInfix_append_cons (by decide),
    Text.isInfix_append_cons (by decide)]
  simp only [not_or]
  exact ⟨lead, w.plain.2.2.2, middle, last⟩

theorem statesPlace_placeLine : statesPlace w.placeLine = true := by
  obtain ⟨-, -, -, -, states⟩ := w.lead_marks
  have longer : w.lead <:+: w.placeLine := by
    rw [placeLine, List.append_assoc]
    exact (List.prefix_append _ _).isInfix
  simp only [statesPlace, Bool.or_eq_true, Text.contains_iff] at states ⊢
  exact states.imp (·.trans longer) (·.trans longer)

/-- The line is whole before its last character. -/
theorem exists_placeLine_concat : ∃ ds, w.placeLine = ds ++ [';'] ∧ '\n' ∉ ds := by
  obtain ⟨lead, -, -, -, -⟩ := w.lead_marks
  obtain ⟨middle, -, -⟩ := w.middle_marks
  have digits : '\n' ∉ (Text.int64Text w.pos).toList := by
    intro member
    cases w.isDigit_of_mem_pos member
  refine ⟨w.lead ++ "LOG_FILE='".toList ++ (w.file ++ '\'' :: (w.middle ++ "LOG_POS=".toList ++
    (Text.int64Text w.pos).toList)), by simp [placeLine], ?_⟩
  simp [lead, middle, digits, w.plain.2.1]

end WrittenHeader

/-! ## The whole -/

/-- The assignment, if there is one. -/
theorem exists_scan_assigned (assignment : Option Assignment) :
    ∃ ls value, Text.terminated '\n' ls = Text.terminated '\n' (assignment.map (·.text)).toList ∧
      (∀ line ∈ ls, '\n' ∉ line) ∧
      (value.map gtidSet).getD "" =
        (assignment.map fun a => String.ofList (setNames a.members)).getD "" ∧
      ∀ rest,
        scan none false (ls.map (some ∘ Text.dropReturn) ++ rest) = scan value false rest := by
  cases assignment with
  | none => exact ⟨[], none, rfl, nofun, rfl, fun _ => rfl⟩
  | some a =>
    obtain ⟨ls, value, text, within, set, read⟩ := exists_scan_assignment a
    exact ⟨ls, some value, by simpa using text, within, set, read⟩

/-- A header is read back, whatever follows its last line. -/
theorem ofBytes_written (w : WrittenHeader) {after : List UInt8}
    (apart : after = [] ∨ after.head? = some 10) :
    ofBytes (Text.encode w.text ++ after) = .ok w.coordinates := by
  obtain ⟨ls, value, text, within, set, read⟩ := exists_scan_assigned w.assignment
  have whole : w.text = Text.terminated '\n' (w.before ++ ls ++ w.between) ++ w.placeLine := by
    simp [WrittenHeader.text, text]
  have one : ∀ line ∈ w.before ++ ls ++ w.between, '\n' ∉ line := by
    simp only [List.forall_mem_append]
    exact ⟨⟨fun line member => (w.quiet_before line member).one, within⟩,
      fun line member => (w.quiet_between line member).one⟩
  obtain ⟨more, last⟩ : ∃ more, fileLines (Text.encode w.placeLine ++ after) =
      some w.placeLine :: more := by
    obtain ⟨ds, line, one⟩ := w.exists_placeLine_concat
    rw [line]
    exact exists_fileLines_encode one apart
  have found : scan none false (fileLines (Text.encode w.text ++ after)) =
      .ok { assignment := value, place := some (String.ofList w.file, w.pos) } := by
    rw [whole, Text.encode_append, List.append_assoc, fileLines_encode_terminated one, last,
      List.map_append, List.map_append, List.append_assoc, List.append_assoc,
      scan_quiet w.quiet_before, read, scan_quiet w.quiet_between,
      scan_place w.placeLine_unnamed w.statesPlace_placeLine, w.logPlace_placeLine]
    rfl
  have named : String.ofList w.file ≠ "" := fun empty =>
    w.named (String.toList_ofList.symm.trans (congrArg String.toList empty))
  rw [ofBytes_eq]
  refine parse_eq_ok_iff.2 ⟨_, _, _, found, rfl, named, ?_⟩
  rw [WrittenHeader.coordinates, set]

/-- A header with a set of two members on lines of their own, with a blank behind each. -/
def sampleHeader : WrittenHeader where
  before := ["-- MySQL dump 10.13  Distrib 8.0.19, for Linux (x86_64)".toList]
  assignment := some ⟨true,
    [⟨['\n'], "d400d115-6565-11ea-bb6f-5254008afee6:1".toList, [' '], List.all_eq_true.1 rfl,
        List.all_eq_true.1 rfl, List.all_eq_true.1 rfl⟩,
      ⟨['\n'], "5c2bd8fc-5ee3-11ea-adf4-5254008afee6:1-741".toList, [' '], List.all_eq_true.1 rfl,
        List.all_eq_true.1 rfl, List.all_eq_true.1 rfl⟩]⟩
  between := [[]]
  dialect := .master
  commented := true
  file := "mysql-bin.000001".toList
  pos := 520
  quiet_before := by
    intro line member
    cases List.mem_singleton.1 member
    exact ⟨by decide +kernel, by decide +kernel, by decide +kernel, by decide +kernel⟩
  quiet_between := by
    intro line member
    cases List.mem_singleton.1 member
    exact ⟨by decide +kernel, by decide +kernel, by decide +kernel, by decide +kernel⟩
  named := by decide +kernel
  plain := by decide +kernel
  nonneg := by decide +kernel

/-- What the header looks like, and that it is read in front of a body with another place. -/
theorem ofBytes_sampleHeader :
    sampleHeader.text =
        "-- MySQL dump 10.13  Distrib 8.0.19, for Linux (x86_64)\n".toList ++
          "SET @@GLOBAL.GTID_PURGED=/*!80000 '+'*/ '\n".toList ++
          "d400d115-6565-11ea-bb6f-5254008afee6:1 ,\n".toList ++
          "5c2bd8fc-5ee3-11ea-adf4-5254008afee6:1-741 ';\n\n".toList ++
          "-- CHANGE MASTER TO MASTER_LOG_FILE='mysql-bin.000001', MASTER_LOG_POS=520;".toList ∧
      ofBytes (Text.encode sampleHeader.text ++ Text.encode "\nCHANGE MASTER TO nothing".toList) =
        .ok ⟨"mysql-bin.000001", 520,
          "d400d115-6565-11ea-bb6f-5254008afee6:1,5c2bd8fc-5ee3-11ea-adf4-5254008afee6:1-741"⟩ := by
  refine ⟨by decide +kernel, (ofBytes_written sampleHeader (.inr (by decide +kernel))).trans ?_⟩
  decide +kernel

end ReplicaSeed.DumpHeader
