import ReplicaSeed.Artifact.DumpMetadata
import ReplicaSeed.Proofs.Text.Lines

/-!
# The block of a metadata file

What the file of a parallel dump says in its block, and what is read from it. A transaction set that
ends with a comma goes on over the next lines, whatever these look like. The coordinates are those
of the last entries of the block. It must name a log file. It need not tell a position: then the
position is zero, although nothing in the file says so.

## Main definitions

* `Entry`, `Entry.StandsIn`: the entries of a block.
* `Block`: the entries of some lines, up to the end of the block.
* `Lists`: the entries of the block of a text.
* `Tells`: the coordinates that some entries tell.

## Main statements

* `Lists.unique`: a text has one block.
* `parse_eq_ok_iff_tells`: what is read is what the entries tell.
-/

namespace ReplicaSeed.DumpMetadata

/-! ## Entries -/

/-- What an entry is about. -/
inductive Field where
  | file
  | position
  | set
  deriving DecidableEq, Repr

/-- The keys of a field: in a block of its own, and in a section. -/
def Field.keys : Field → List String
  | file => ["Log", "File"]
  | position => ["Pos", "Position"]
  | set => ["GTID", "Executed_Gtid_Set"]

/-- An entry of a block. -/
structure Entry where
  field : Field
  value : List Char
  deriving DecidableEq, Repr

/-- The line is the entry. -/
def Entry.StandsIn (e : Entry) (line : List Char) : Prop :=
  ∃ key value, keyValue? line = some (key, value) ∧
    String.ofList (Text.trim key) ∈ e.field.keys ∧ e.value = bareValue value

/-- The entry is a set that goes on. -/
def Entry.IsOpen (e : Entry) : Prop := e.field = .set ∧ e.value.getLast? = some ','

/-- The last value of a field. -/
def lastValue (field : Field) (es : List Entry) : Option (List Char) :=
  ((es.filter (·.field = field)).getLast?).map (·.value)

@[simp] theorem lastValue_nil (field : Field) : lastValue field [] = none := rfl

theorem lastValue_cons (field : Field) (e : Entry) (es : List Entry) :
    lastValue field (e :: es) =
      if e.field = field then some ((lastValue field es).getD e.value) else lastValue field es := by
  by_cases same : e.field = field
  · cases last : (es.filter (·.field = field)).getLast? <;>
      simp [lastValue, same, last, List.getLast?_cons]
  · simp [lastValue, same]

theorem Field.eq_of_mem_keys {field field' : Field} {key : String} (member : key ∈ field.keys)
    (member' : key ∈ field'.keys) : field = field' := by
  cases field <;> cases field' <;> grind [keys]

theorem Entry.StandsIn.unique {e e' : Entry} {line : List Char} (stands : e.StandsIn line)
    (stands' : e'.StandsIn line) : e = e' := by
  obtain ⟨key, value, split, member, same⟩ := stands
  obtain ⟨key', value', split', member', same'⟩ := stands'
  obtain ⟨rfl, rfl⟩ := Prod.mk.inj (Option.some.inj (split.symm.trans split'))
  obtain ⟨field, _⟩ := e
  obtain ⟨field', _⟩ := e'
  obtain rfl : field = field' := Field.eq_of_mem_keys member member'
  exact congrArg (Entry.mk field) (same.trans same'.symm)

/-! ## Blocks -/

/-- The lines over which an open set goes on, as one text, and the lines behind them. -/
inductive GoesOn : List (List Char) → List Char → List (List Char) → Prop
  | nil : GoesOn [] [] []
  | last {line : List Char} {rest : List (List Char)} (complete : line.getLast? ≠ some ',') :
    GoesOn (line :: rest) line rest
  | more {line text : List Char} {rest rest' : List (List Char)}
    (incomplete : line.getLast? = some ',') (goesOn : GoesOn rest text rest') :
    GoesOn (line :: rest) (line ++ text) rest'

/-- The lines, which are inside a block, have these entries up to its end. It ends with a line that
ends it, unless that line goes on with a set. A line that begins a block begins no other one. -/
inductive Block : List (List Char) → List Entry → Prop
  | nil : Block [] []
  | close {line : List Char} {rest : List (List Char)} (opens : opensBlock line = false)
    (closes : closesBlock line = true) : Block (line :: rest) []
  | reopen {line : List Char} {rest : List (List Char)} {es : List Entry}
    (opens : opensBlock line = true) (block : Block rest es) : Block (line :: rest) es
  | skip {line : List Char} {rest : List (List Char)} {es : List Entry}
    (opens : opensBlock line = false) (closes : closesBlock line = false)
    (other : ∀ e : Entry, ¬ e.StandsIn line) (block : Block rest es) : Block (line :: rest) es
  | entry {line : List Char} {rest : List (List Char)} {es : List Entry} {e : Entry}
    (opens : opensBlock line = false) (closes : closesBlock line = false)
    (stands : e.StandsIn line) (whole : ¬ e.IsOpen) (block : Block rest es) :
    Block (line :: rest) (e :: es)
  | wrapped {line text : List Char} {rest rest' : List (List Char)} {es : List Entry} {e : Entry}
    (opens : opensBlock line = false) (closes : closesBlock line = false)
    (stands : e.StandsIn line) (open_ : e.IsOpen) (goesOn : GoesOn rest text rest')
    (block : Block rest' es) : Block (line :: rest) (⟨e.field, e.value ++ text⟩ :: es)

section

variable {lines rest : List (List Char)} {es : List Entry} {text : List Char} {found : Found}

theorem exists_goesOn (lines : List (List Char)) :
    ∃ text rest, GoesOn lines text rest ∧ rest.length ≤ lines.length := by
  induction lines with
  | nil => exact ⟨[], [], .nil, Nat.le_refl 0⟩
  | cons line lines ih =>
    by_cases incomplete : line.getLast? = some ','
    · obtain ⟨text, rest, goesOn, short⟩ := ih
      exact ⟨line ++ text, rest, .more incomplete goesOn, Nat.le_succ_of_le short⟩
    · exact ⟨line, lines, .last incomplete, Nat.le_succ lines.length⟩

theorem GoesOn.unique {text' : List Char} {rest' : List (List Char)} (h : GoesOn lines text rest)
    (h' : GoesOn lines text' rest') : text = text' ∧ rest = rest' := by
  induction h generalizing text' with
  | nil =>
    cases h'
    exact ⟨rfl, rfl⟩
  | last complete =>
    cases h' with
    | last => exact ⟨rfl, rfl⟩
    | more incomplete => exact absurd incomplete complete
  | more incomplete goesOn ih =>
    cases h' with
    | last complete => exact absurd incomplete complete
    | more _ goesOn' =>
      obtain ⟨rfl, rfl⟩ := ih goesOn'
      exact ⟨rfl, rfl⟩

/-- Any lines are those of a block. -/
theorem exists_block (lines : List (List Char)) : ∃ es, Block lines es := by
  obtain ⟨n, size⟩ : ∃ n, lines.length = n := ⟨_, rfl⟩
  -- A set that goes on takes several lines at once.
  induction n using Nat.strongRecOn generalizing lines with
  | ind n ih =>
    cases lines with
    | nil => exact ⟨[], .nil⟩
    | cons line rest =>
      have shorter : rest.length < n := by simp [← size]
      obtain ⟨es, block⟩ := ih _ shorter rest rfl
      cases opens : opensBlock line with
      | true => exact ⟨es, .reopen opens block⟩
      | false =>
        cases closes : closesBlock line with
        | true => exact ⟨[], .close opens closes⟩
        | false =>
          by_cases stands : ∃ e : Entry, e.StandsIn line
          · obtain ⟨e, stands⟩ := stands
            by_cases open_ : e.IsOpen
            · obtain ⟨text, rest', goesOn, short⟩ := exists_goesOn rest
              obtain ⟨es', block'⟩ := ih _ (Nat.lt_of_le_of_lt short shorter) rest' rfl
              exact ⟨_, .wrapped opens closes stands open_ goesOn block'⟩
            · exact ⟨e :: es, .entry opens closes stands open_ block⟩
          · exact ⟨es, .skip opens closes (not_exists.1 stands) block⟩

/-- The lines of a block have one list of entries. -/
theorem Block.unique {es' : List Entry} (h : Block lines es) (h' : Block lines es') : es = es' := by
  induction h generalizing es' with
  | nil =>
    cases h'
    rfl
  | close opens closes => cases h' <;> simp_all
  | reopen opens block ih =>
    cases h' with
    | reopen _ block' => exact ih block'
    | _ => simp_all
  | skip opens closes other block ih =>
    cases h' with
    | skip _ _ _ block' => exact ih block'
    | entry _ _ stands => exact absurd stands (other _)
    | wrapped _ _ stands => exact absurd stands (other _)
    | _ => simp_all
  | entry opens closes stands whole block ih =>
    cases h' with
    | skip _ _ other => exact absurd stands (other _)
    | entry _ _ stands' _ block' => rw [stands.unique stands', ih block']
    | wrapped _ _ stands' open_ => exact absurd (stands'.unique stands ▸ open_) whole
    | _ => simp_all
  | wrapped opens closes stands open_ goesOn block ih =>
    cases h' with
    | skip _ _ other => exact absurd stands (other _)
    | entry _ _ stands' whole => exact absurd (stands.unique stands' ▸ open_) whole
    | wrapped _ _ stands' _ goesOn' block' =>
      obtain rfl := stands.unique stands'
      obtain ⟨rfl, rfl⟩ := goesOn.unique goesOn'
      rw [ih block']
    | _ => simp_all

/-! ## Reading a block -/

/-- What was read, with an entry. -/
def Found.enter (found : Found) (e : Entry) : Except ArtifactFault Found :=
  match e.field with
  | .file => .ok { found with file := e.value }
  | .position =>
    match Text.readInt64 e.value with
    | .error cause => .error (.badPosition e.value cause)
    | .ok pos => .ok { found with pos }
  | .set => .ok { found with set := e.value }

theorem Found.read_of_standsIn {e : Entry} {line : List Char} (stands : e.StandsIn line) :
    found.read line = (found.enter e).map fun found =>
      (if e.field = .set ∧ e.value.getLast? = some ',' then .inSet else .inside, found) := by
  obtain ⟨key, value, split, member, same⟩ := stands
  obtain ⟨field, bare⟩ := e
  subst same
  simp only [read, split, enter]
  cases field with
  | file =>
    obtain key | key : String.ofList (Text.trim key) = "Log" ∨ _ = "File" := by
      simpa [Field.keys] using member
    all_goals simp [key, Except.map]
  | position =>
    obtain key | key : String.ofList (Text.trim key) = "Pos" ∨ _ = "Position" := by
      simpa [Field.keys] using member
    all_goals
      simp only [key]
      cases Text.readInt64 (bareValue value) <;> simp [Except.map]
  | set =>
    obtain key | key : String.ofList (Text.trim key) = "GTID" ∨ _ = "Executed_Gtid_Set" := by
      simpa [Field.keys] using member
    all_goals simp [key, Except.map]

theorem Found.read_of_no_entry {line : List Char} (other : ∀ e : Entry, ¬ e.StandsIn line) :
    found.read line = .ok (.inside, found) := by
  unfold read
  split
  · rfl
  · rename_i key value split
    have strange (field : Field) : String.ofList (Text.trim key) ∉ field.keys :=
      fun member => other ⟨field, bareValue value⟩ ⟨key, value, split, member, rfl⟩
    have noFile := strange .file
    have noPosition := strange .position
    have noSet := strange .set
    simp only [Field.keys, List.mem_cons, List.not_mem_nil, or_false, not_or] at *
    split <;> simp_all

/-- An open set goes on, whatever its lines look like. -/
theorem scan_of_goesOn (goesOn : GoesOn lines text rest) :
    scan .inSet found lines = scan .inside { found with set := found.set ++ text } rest := by
  induction goesOn generalizing found with
  | nil => simp [scan]
  | last complete => simp [scan, complete]
  | more incomplete goesOn ih => simp [scan, incomplete, ih]

/-- The entries of a block are read one after the other. -/
theorem scan_of_block (block : Block lines es) :
    scan .inside found lines = es.foldlM Found.enter found := by
  induction block generalizing found with
  | nil => rfl
  | close opens closes => simp [scan, opens, closes]; rfl
  | reopen opens block ih => simp [scan, opens, ih]
  | skip opens closes other block ih => simp [scan, opens, closes, Found.read_of_no_entry other, ih]
  | @entry line rest es e opens closes stands whole block ih =>
    rw [Entry.IsOpen] at whole
    rw [scan, if_neg (by decide), opens, closes, Found.read_of_standsIn stands, if_neg whole,
      List.foldlM_cons]
    cases found.enter e with
    | error fault => rfl
    | ok next => exact ih
  | @wrapped line text rest rest' es e opens closes stands open_ goesOn block ih =>
    have goes : e.field = .set ∧ e.value.getLast? = some ',' := open_
    rw [scan, if_neg (by decide), opens, closes, Found.read_of_standsIn stands, if_pos goes,
      List.foldlM_cons]
    simp only [Found.enter, goes.1]
    exact (scan_of_goesOn goesOn).trans ih

/-! ## What entries tell -/

/-- What is read of some entries: of each field the last value, and of a field without an entry what
there was before. All positions must be numbers, also those that are not the last. -/
theorem foldlM_enter_eq_ok_iff {found' : Found} :
    es.foldlM Found.enter found = .ok found' ↔
      (∀ e ∈ es, e.field = .position → ∃ pos, Text.readInt64 e.value = .ok pos) ∧
        found'.file = (lastValue .file es).getD found.file ∧
        (∀ digits, lastValue .position es = some digits → Text.readInt64 digits = .ok found'.pos) ∧
        (lastValue .position es = none → found'.pos = found.pos) ∧
        found'.set = (lastValue .set es).getD found.set := by
  induction es generalizing found with
  | nil =>
    obtain ⟨file, pos, set⟩ := found
    obtain ⟨file', pos', set'⟩ := found'
    simp [pure, Except.pure, eq_comm]
  | cons e es ih =>
    rw [List.foldlM_cons]
    cases field : e.field with
    | file => simp [Found.enter, field, lastValue_cons, bind, Except.bind, ih]
    | set => simp [Found.enter, field, lastValue_cons, bind, Except.bind, ih]
    | position =>
      cases read : Text.readInt64 e.value with
      | error fault => simp [Found.enter, field, read, bind, Except.bind]
      | ok pos =>
        cases later : lastValue .position es <;>
          simp [Found.enter, field, read, bind, Except.bind, ih, lastValue_cons, later,
            eq_comm (a := pos)]

/-- The coordinates are those that the entries tell. -/
structure Tells (es : List Entry) (c : Coordinates) : Prop where
  file : lastValue .file es = some c.logFile.toList
  named : c.logFile ≠ ""
  readable : ∀ e ∈ es, e.field = .position → ∃ pos, Text.readInt64 e.value = .ok pos
  position : ∀ digits, lastValue .position es = some digits → Text.readInt64 digits = .ok c.logPos
  unplaced : lastValue .position es = none → c.logPos = 0
  set : c.gtidExecuted = normalizeGtid ((lastValue .set es).getD [])

end

/-! ## Texts -/

/-- The text has a block with these entries. It begins behind the first line that begins a block. -/
def Lists (text : List Char) (es : List Entry) : Prop :=
  ∃ before opening lines, (Text.lines text).map Text.trim = before ++ opening :: lines ∧
    (∀ line ∈ before, opensBlock line = false) ∧ opensBlock opening = true ∧ Block lines es

/-- Lines begin a block nowhere, or somewhere first. -/
theorem closed_or_opens (lines : List (List Char)) :
    (∀ line ∈ lines, opensBlock line = false) ∨ ∃ before opening rest,
      lines = before ++ opening :: rest ∧ (∀ line ∈ before, opensBlock line = false) ∧
        opensBlock opening = true := by
  induction lines with
  | nil => exact .inl nofun
  | cons line lines ih =>
    cases opens : opensBlock line with
    | true => exact .inr ⟨[], line, lines, rfl, nofun, opens⟩
    | false =>
      obtain none | ⟨before, opening, rest, rfl, none, opens'⟩ := ih
      · exact .inl (List.forall_mem_cons.2 ⟨opens, none⟩)
      · refine .inr ⟨line :: before, opening, rest, rfl, ?_, opens'⟩
        exact List.forall_mem_cons.2 ⟨opens, none⟩

theorem scan_before {before : List (List Char)} (none : ∀ line ∈ before, opensBlock line = false)
    (found : Found) (rest : List (List Char)) :
    scan .before found (before ++ rest) = scan .before found rest := by
  induction before with
  | nil => rfl
  | cons line before ih =>
    obtain ⟨closed, none⟩ := List.forall_mem_cons.1 none
    simp [scan, closed, ih none]

/-- The first line that begins a block is the same for all who look for it. -/
theorem Lists.unique {text : List Char} {es es' : List Entry} (h : Lists text es)
    (h' : Lists text es') : es = es' := by
  obtain ⟨before, opening, lines, split, none, opens, block⟩ := h
  obtain ⟨before', opening', lines', split', none', opens', block'⟩ := h'
  have first {lines : List (List Char)} (none : ∀ line ∈ lines, opensBlock line = false) :
      ∀ earlier line more, lines = earlier ++ line :: more → ¬ opensBlock line = true := by
    rintro earlier line more rfl
    simp [none line (by simp)]
  obtain ⟨-, -, rfl⟩ := Text.eq_of_first (split.symm.trans split') opens opens' (first none)
    (first none')
  exact block.unique block'

/-- What the block tells is read. -/
theorem parse_of_lists {text : List Char} {es : List Entry} (lists : Lists text es) :
    parse text = (do
      let found ← es.foldlM Found.enter {}
      if found.file = [] then throw .metadataWithoutCoordinates
      return ⟨String.ofList found.file, found.pos, normalizeGtid found.set⟩) := by
  obtain ⟨before, opening, lines, split, none, opens, block⟩ := lists
  have begins : scan .before {} (before ++ opening :: lines) = scan .inside {} lines := by
    rw [scan_before none, scan, if_neg (by decide), opens]
    rfl
  rw [parse, split, begins, scan_of_block block]

/-- A text without a block has no coordinates. -/
theorem parse_of_closed {text : List Char}
    (none : ∀ line ∈ (Text.lines text).map Text.trim, opensBlock line = false) :
    parse text = .error .metadataWithoutCoordinates := by
  have nothing : scan .before {} ((Text.lines text).map Text.trim) = .ok {} := by
    have whole := scan_before none {} []
    rwa [List.append_nil] at whole
  rw [parse, nothing]
  rfl

/-- What the entries tell is what reading them leaves, if it leaves a log file. -/
theorem tells_iff {es : List Entry} {c : Coordinates} :
    Tells es c ↔ ∃ found, es.foldlM Found.enter {} = .ok found ∧ found.file ≠ [] ∧
      c = ⟨String.ofList found.file, found.pos, normalizeGtid found.set⟩ := by
  constructor
  · rintro ⟨file, named, readable, position, unplaced, set⟩
    refine ⟨⟨c.logFile.toList, c.logPos, (lastValue .set es).getD []⟩,
      foldlM_enter_eq_ok_iff.2 ⟨readable, ?_, position, unplaced, rfl⟩, ?_, ?_⟩
    · rw [file]
      rfl
    · exact fun empty => named (String.toList_inj.1 empty)
    · rw [String.ofList_toList, ← set]
  · rintro ⟨found, read, named, rfl⟩
    obtain ⟨readable, file, position, unplaced, set⟩ := foldlM_enter_eq_ok_iff.1 read
    refine ⟨?_, fun empty => named ?_, readable, position, unplaced, by rw [← set]⟩
    · rw [String.toList_ofList, file]
      cases last : lastValue .file es with
      | none => exact absurd (by rw [file, last]; rfl) named
      | some value => rfl
    · exact String.toList_ofList.symm.trans (congrArg String.toList empty)

/-- Coordinates are read from a text just if its block tells them. -/
theorem parse_eq_ok_iff_tells {text : List Char} {c : Coordinates} :
    parse text = .ok c ↔ ∃ es, Lists text es ∧ Tells es c := by
  obtain none | ⟨before, opening, lines, split, none, opens⟩ :=
    closed_or_opens ((Text.lines text).map Text.trim)
  · rw [parse_of_closed none]
    simp only [reduceCtorEq, false_iff]
    rintro ⟨es, ⟨before, opening, lines, split, -, opens, -⟩, -⟩
    simp [none opening (by simp [split])] at opens
  · obtain ⟨es, block⟩ := exists_block lines
    have lists : Lists text es := ⟨before, opening, lines, split, none, opens, block⟩
    have one : (∃ es', Lists text es' ∧ Tells es' c) ↔ Tells es c :=
      ⟨fun ⟨_, lists', tells⟩ => lists.unique lists' ▸ tells, fun tells => ⟨es, lists, tells⟩⟩
    rw [one, tells_iff, parse_of_lists lists]
    cases es.foldlM Found.enter {} with
    | error fault => simp [bind, Except.bind]
    | ok found =>
      by_cases empty : found.file = []
      · simp [bind, Except.bind, empty, throw, throwThe, MonadExceptOf.throw]
      · simp [bind, Except.bind, empty, pure, Except.pure, eq_comm (b := c)]

/-- A block that was cut off behind its first entry. -/
def truncated : List Char := "SHOW MASTER STATUS:\n\tLog: mysql-bin.000022\n".toList

/-- The coordinates that are read from the block that was cut off have a position, although the
block has none. -/
theorem exists_position_untold :
    parse truncated = .ok ⟨"mysql-bin.000022", 0, ""⟩ ∧
      ∀ es, Lists truncated es → ∀ e ∈ es, e.field ≠ .position := by
  refine ⟨by decide, fun es lists => ?_⟩
  have line : (Text.lines truncated).map Text.trim =
      ["SHOW MASTER STATUS:".toList, "Log: mysql-bin.000022".toList] := by decide
  have stands : Entry.StandsIn ⟨.file, "mysql-bin.000022".toList⟩ "Log: mysql-bin.000022".toList :=
    ⟨"Log".toList, " mysql-bin.000022".toList, by decide, by decide, by decide⟩
  have alone : Lists truncated [⟨.file, "mysql-bin.000022".toList⟩] :=
    ⟨[], _, _, line, nofun, by decide,
      .entry (by decide) (by decide) stands (by simp [Entry.IsOpen]) .nil⟩
  rw [lists.unique alone]
  simp

end ReplicaSeed.DumpMetadata
