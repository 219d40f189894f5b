import Mathlib.Data.Option.Basic
import Mathlib.Tactic.Conv
import ReplicaSeed.Command.Template

/-!
# Reading what was written

A command line that is put together from quoted words and safe text is read back as exactly these
words, whatever they hold: a blank, a quote, a pipe or an empty word changes nothing about the
stages.

## Main definitions

* `Reads`: a text stands for a word, or for a part of one, whatever comes before and after it.
* `Template.isPlain`: a check of a template that does not look at its values.

## Main statements

* `reads_quoteChars`, `reads_safe`: quoted words and safe text.
* `WordTemplate.reads`: the words of a template.
* `parse_lineText`: a line of words that have a meaning is read as their meanings.
* `Template.parse_text`: a template is read as the pipeline that it stands for.
* `Template.wellFormed_of_isPlain`: the check is enough.
-/

namespace ReplicaSeed.Command

/-! ## One character -/

section

variable (w : Pending) (rest : List Char)

theorem scan_blank :
    scan .bare w (' ' :: rest) = (scan .bare none rest).map (w.flush ++ ·) := rfl

theorem scan_pipe :
    scan .bare none ('|' :: rest) = (scan .bare none rest).map (.pipe :: ·) := rfl

theorem scan_redirect :
    scan .bare none ('>' :: ' ' :: rest) =
      (scan .bare none (' ' :: rest)).map (.redirect false :: ·) := rfl

theorem scan_append :
    scan .bare none ('>' :: '>' :: ' ' :: rest) =
      (scan .bare none (' ' :: rest)).map (.redirect true :: ·) := rfl

theorem scan_open : scan .bare w ('\'' :: rest) = scan .single w.opened rest := rfl

theorem scan_close : scan .single w ('\'' :: rest) = scan .bare w rest := rfl

theorem scan_escaped (c : Char) :
    scan .bare w ('\\' :: c :: rest) = scan .bare (w.push c) rest := rfl

theorem scan_quoted {c : Char} (h : c ≠ '\'') :
    scan .single w (c :: rest) = scan .single (w.push c) rest := if_neg h

/-- A character without a meaning of its own is a part of its word. -/
theorem scan_plain {c : Char} (blank : Text.isBlank c = false) (single : c ≠ '\'')
    (double : c ≠ '"') (backslash : c ≠ '\\') (pipe : c ≠ '|') (redirect : c ≠ '>') :
    scan .bare w (c :: rest) = scan .bare (w.push c) rest := by
  conv_lhs => unfold scan
  split <;> simp_all

end

/-! ## Parts of a word -/

/-- The text is read as `word`, as a word or a part of one. -/
def Reads (text word : List Char) : Prop :=
  ∀ (w : Pending) (rest : List Char),
    scan .bare w (text ++ rest) = scan .bare (some (word.reverse ++ w.getD [])) rest

theorem Reads.append {text word text' word' : List Char} (h : Reads text word)
    (h' : Reads text' word') : Reads (text ++ text') (word ++ word') := by
  intro w rest
  rw [List.append_assoc, h, h', List.reverse_append, List.append_assoc]
  rfl

/-- A safe character is no blank and no operator, and it neither quotes nor escapes. -/
theorem plain_of_isSafe {c : Char} (safe : isSafe c = true) :
    Text.isBlank c = false ∧ c ≠ '\'' ∧ c ≠ '"' ∧ c ≠ '\\' ∧ c ≠ '|' ∧ c ≠ '>' := by
  simp only [isSafe, Bool.or_eq_true, List.contains_iff_mem] at safe
  obtain alphanum | member := safe
  · refine ⟨?_, ?_, ?_, ?_, ?_, ?_⟩
    · change (decide (65 ≤ c.val ∧ c.val ≤ 90) || (97 ≤ c.val && c.val ≤ 122) ||
        (48 ≤ c.val && c.val ≤ 57)) = true at alphanum
      simp only [Bool.or_eq_true, Bool.and_eq_true, decide_eq_true_eq, UInt32.le_iff_toNat_le,
        UInt32.reduceToNat] at alphanum
      have number : c.toNat = c.val.toNat := rfl
      simp only [Text.isBlank, number, Bool.or_eq_false_iff, Bool.and_eq_false_iff,
        decide_eq_false_iff_not, beq_eq_false_iff_ne]
      omega
    all_goals
      rintro rfl
      exact absurd alphanum (by decide)
  · simp only [List.mem_cons, List.not_mem_nil, or_false] at member
    obtain rfl | rfl | rfl | rfl | rfl | rfl | rfl | rfl | rfl | rfl := member <;> decide

theorem scan_safe {c : Char} (safe : isSafe c = true) (w : Pending) (rest : List Char) :
    scan .bare w (c :: rest) = scan .bare (w.push c) rest := by
  obtain ⟨blank, single, double, backslash, pipe, redirect⟩ := plain_of_isSafe safe
  exact scan_plain w rest blank single double backslash pipe redirect

/-- Safe text stands for itself. -/
theorem reads_safe {cs : List Char} (nonempty : cs ≠ []) (safe : cs.all isSafe = true) :
    Reads cs cs := by
  intro w rest
  induction cs generalizing w with
  | nil => exact absurd rfl nonempty
  | cons c cs ih =>
    rw [List.all_cons, Bool.and_eq_true] at safe
    rw [List.cons_append, scan_safe safe.1]
    cases cs with
    | nil => rfl
    | cons d cs =>
      rw [ih (List.cons_ne_nil d cs) safe.2]
      simp [Pending.push]

/-- Up to the closing quote everything stands for itself. -/
theorem scan_single (word p rest : List Char) :
    scan .single (some p) (word.flatMap quoteChar ++ '\'' :: rest) =
      scan .bare (some (word.reverse ++ p)) rest := by
  induction word generalizing p with
  | nil => exact scan_close _ rest
  | cons c word ih =>
    have next : scan .single (some p) (quoteChar c ++ (word.flatMap quoteChar ++ '\'' :: rest)) =
        scan .single (some (c :: p)) (word.flatMap quoteChar ++ '\'' :: rest) := by
      by_cases h : c = '\''
      · subst h
        -- The quotes are closed, and the apostrophe stands escaped between them and the next ones.
        simp only [quoteChar, if_true, List.cons_append, List.nil_append, scan_close,
          scan_escaped, scan_open]
        rfl
      · rw [quoteChar, if_neg h, List.singleton_append, scan_quoted _ _ h]
        rfl
    rw [List.flatMap_cons, List.append_assoc, next, ih, List.reverse_cons, List.append_assoc]
    rfl

/-- A quoted word stands for the word. -/
theorem reads_quoteChars (word : List Char) : Reads (quoteChars word) word := by
  unfold quoteChars
  split
  · rename_i plain
    exact reads_safe plain.1 plain.2
  · intro w rest
    simp only [singleQuoted, List.cons_append, List.append_assoc, List.nil_append, scan_open]
    exact scan_single word _ rest

/-! ## Words of a template -/

theorem quoteChars_ne_nil (word : List Char) : quoteChars word ≠ [] := by
  unfold quoteChars
  split
  · rename_i plain
    exact plain.1
  · simp [singleQuoted]

/-- A piece stands for what it means, unless it is nothing at all. -/
theorem Piece.reads {p : Piece} (wellFormed : p.WellFormed) (nonempty : p.text ≠ "") :
    Reads p.text.toList p.meaning.toList := by
  cases p with
  | fixed s =>
    exact reads_safe (by simpa [Piece.text] using nonempty) wellFormed
  | value s =>
    rw [Piece.text, quote, String.toList_ofList]
    exact reads_quoteChars s.toList

theorem Piece.meaning_of_text {p : Piece} (empty : p.text = "") : p.meaning = "" := by
  cases p with
  | fixed s => exact empty
  | value s =>
    have absent := congrArg String.toList empty
    rw [Piece.text, quote, String.toList_ofList] at absent
    exact absurd absent (quoteChars_ne_nil _)

theorem meaning_of_pieces {pieces : List Piece}
    (empty : String.join (pieces.map Piece.text) = "") :
    String.join (pieces.map Piece.meaning) = "" := by
  induction pieces with
  | nil => rfl
  | cons p pieces ih =>
    simp only [List.map_cons, String.join_cons, String.append_eq_empty_iff] at empty ⊢
    exact ⟨p.meaning_of_text empty.1, ih empty.2⟩

/-- Pieces stand for what they mean one after another. -/
theorem reads_pieces {pieces : List Piece} (wellFormed : ∀ p ∈ pieces, p.WellFormed)
    (nonempty : String.join (pieces.map Piece.text) ≠ "") :
    Reads (String.join (pieces.map Piece.text)).toList
      (String.join (pieces.map Piece.meaning)).toList := by
  induction pieces with
  | nil => exact absurd rfl nonempty
  | cons p pieces ih =>
    rw [List.forall_mem_cons] at wellFormed
    simp only [List.map_cons, String.join_cons, String.toList_append] at nonempty ⊢
    -- Text that is empty does not open a word, so it reads as nothing and not as an empty word.
    by_cases first : p.text = ""
    · rw [first, p.meaning_of_text first]
      exact ih wellFormed.2 (by simpa [first] using nonempty)
    · have reads := Piece.reads wellFormed.1 first
      by_cases others : String.join (pieces.map Piece.text) = ""
      · rw [others, meaning_of_pieces others]
        simpa using reads
      · exact reads.append (ih wellFormed.2 others)

theorem WordTemplate.reads {w : WordTemplate} (wellFormed : w.WellFormed) :
    Reads w.text.toList w.meaning.toList :=
  reads_pieces wellFormed.1 wellFormed.2

/-! ## Words of a line -/

/-- The rest of a line ends the word before it. -/
def EndsWord (rest : List Char) : Prop :=
  ∀ p, scan .bare (some p) rest = (scan .bare none rest).map (.word p.reverse :: ·)

theorem endsWord_nil : EndsWord [] := fun _ => rfl

theorem scan_blank_none (rest : List Char) :
    scan .bare none (' ' :: rest) = scan .bare none rest := by
  rw [scan_blank]
  cases scan .bare none rest <;> rfl

theorem endsWord_blank (rest : List Char) : EndsWord (' ' :: rest) := by
  intro p
  rw [scan_blank, scan_blank_none]
  rfl

/-- A text that stands for a word gives the token of that word. -/
theorem Reads.scan {text word rest : List Char} (h : Reads text word) (ends : EndsWord rest) :
    scan .bare none (text ++ rest) = (scan .bare none rest).map (.word word :: ·) := by
  rw [h, ends]
  simp

section

variable {α : Type} {text meaning : α → String}

/-- Words with blanks between them give the tokens of these words. -/
theorem scan_words {words : List α}
    (reads : ∀ w ∈ words, Reads (text w).toList (meaning w).toList)
    {rest : List Char} (ends : EndsWord rest) :
    scan .bare none ((" ".intercalate (words.map text)).toList ++ rest) =
      (scan .bare none rest).map (words.map (fun w => .word (meaning w).toList) ++ ·) := by
  induction words with
  | nil =>
    rw [show (" ".intercalate (List.map text [])).toList = [] from rfl, List.nil_append]
    cases scan .bare none rest <;> rfl
  | cons w words ih =>
    rw [List.forall_mem_cons] at reads
    cases words with
    | nil => simpa using reads.1.scan ends
    | cons v words =>
      have written : (" ".intercalate ((w :: v :: words).map text)).toList ++ rest =
          (text w).toList ++ ' ' :: ((" ".intercalate ((v :: words).map text)).toList ++ rest) := by
        simp [String.intercalate_cons_cons]
      rw [written, reads.1.scan (endsWord_blank _), scan_blank_none, ih reads.2]
      cases scan .bare none rest <;> rfl

/-! ## Pipelines -/

/-- A redirection at the end of a line: where to, and whether to append. -/
def redirectText (text : α → String) : Option (α × Bool) → String
  | none => ""
  | some (path, append) => (if append then " >> " else " > ") ++ text path

/-- The tokens of a redirection at the end of a line. -/
def redirectTokens (meaning : α → String) : Option (α × Bool) → List Token
  | none => []
  | some (path, append) => [.redirect append, .word (meaning path).toList]

/-- A line as it is written: blanks between the words, pipes between the stages, and a redirection
at the end. -/
def lineText (text : α → String) (stages : List (List α)) (output : Option (α × Bool)) : String :=
  " | ".intercalate (stages.map fun words => " ".intercalate (words.map text)) ++
    redirectText text output

/-- The pipeline of a line whose words have a meaning. -/
def lineMeaning (meaning : α → String) (stages : List (List α)) (output : Option (α × Bool)) :
    CommandLine where
  stages := stages.map fun words => words.map meaning
  redirect := output.map fun (path, append) => ⟨meaning path, append⟩
  elevated := false

theorem scan_redirectText {output : Option (α × Bool)}
    (reads : ∀ target ∈ output, Reads (text target.1).toList (meaning target.1).toList) :
    scan .bare none (redirectText text output).toList = .ok (redirectTokens meaning output) := by
  cases output with
  | none => rfl
  | some target =>
    obtain ⟨path, append⟩ := target
    have path_read := (reads (path, append) rfl).scan endsWord_nil
    rw [List.append_nil] at path_read
    cases append with
    | false =>
      have written : (redirectText text (some (path, false))).toList =
          ' ' :: '>' :: ' ' :: (text path).toList := by simp [redirectText]
      rw [written, scan_blank_none, scan_redirect, scan_blank_none, path_read]
      rfl
    | true =>
      have written : (redirectText text (some (path, true))).toList =
          ' ' :: '>' :: '>' :: ' ' :: (text path).toList := by simp [redirectText]
      rw [written, scan_blank_none, scan_append, scan_blank_none, path_read]
      rfl

theorem endsWord_redirectText (output : Option (α × Bool)) :
    EndsWord (redirectText text output).toList := by
  rcases output with _ | ⟨path, _ | _⟩
  · exact endsWord_nil
  · simpa [redirectText] using endsWord_blank ('>' :: ' ' :: (text path).toList)
  · simpa [redirectText] using endsWord_blank ('>' :: '>' :: ' ' :: (text path).toList)

/-- Words are collected into the stage that is open. -/
theorem assemble_words (collected words : List String) (rest : List Token) :
    assemble collected (words.map (fun w => .word w.toList) ++ rest) =
      assemble (collected ++ words) rest := by
  induction words generalizing collected with
  | nil => simp
  | cons w words ih => simp [assemble, ih]

theorem assemble_redirectTokens {words : List String} (nonempty : words ≠ [])
    (output : Option (α × Bool)) :
    assemble words (redirectTokens meaning output) =
      .ok ([words], output.map fun (path, append) => ⟨meaning path, append⟩) := by
  rcases output with _ | ⟨path, append⟩ <;> simp [redirectTokens, assemble, nonempty]

/-- The stages of a line are read one by one. -/
theorem scan_lineText {stages : List (List α)} (some_ : stages ≠ [])
    (filled : ∀ words ∈ stages, words ≠ [])
    (reads : ∀ words ∈ stages, ∀ w ∈ words, Reads (text w).toList (meaning w).toList)
    {output : Option (α × Bool)}
    (reads_path : ∀ target ∈ output, Reads (text target.1).toList (meaning target.1).toList) :
    ∃ ts, scan .bare none (lineText text stages output).toList = .ok ts ∧
      assemble [] ts =
        .ok ((lineMeaning meaning stages output).stages,
          (lineMeaning meaning stages output).redirect) := by
  induction stages with
  | nil => exact absurd rfl some_
  | cons words stages ih =>
    rw [List.forall_mem_cons] at filled reads
    have nonempty : words.map meaning ≠ [] := by simpa using filled.1
    have collect (rest : List Token) :
        assemble [] (words.map (fun w => .word (meaning w).toList) ++ rest) =
          assemble (words.map meaning) rest := by
      have collected := assemble_words [] (words.map meaning) rest
      rwa [List.map_map, List.nil_append] at collected
    cases stages with
    | nil =>
      refine ⟨_, ?_, (collect _).trans (assemble_redirectTokens nonempty output)⟩
      rw [lineText, List.map_singleton, String.intercalate_singleton, String.toList_append,
        scan_words reads.1 (endsWord_redirectText output), scan_redirectText reads_path]
      rfl
    | cons next stages =>
      obtain ⟨ts, scanned, assembled⟩ := ih (List.cons_ne_nil _ _) filled.2 reads.2
      refine ⟨_, ?_, (collect (.pipe :: ts)).trans ?_⟩
      · have written : (lineText text (words :: next :: stages) output).toList =
            (" ".intercalate (words.map text)).toList ++ ' ' :: '|' :: ' ' ::
              (lineText text (next :: stages) output).toList := by
          simp [lineText, String.intercalate_cons_cons]
        rw [written, scan_words reads.1 (endsWord_blank _), scan_blank_none, scan_pipe,
          scan_blank_none, scanned]
        rfl
      · rw [assemble, if_neg nonempty, assembled]
        rfl

/-- A line is read as the pipeline of what its words stand for. -/
theorem parse_lineText {stages : List (List α)} (some_ : stages ≠ [])
    (filled : ∀ words ∈ stages, words ≠ [])
    (reads : ∀ words ∈ stages, ∀ w ∈ words, Reads (text w).toList (meaning w).toList)
    {output : Option (α × Bool)}
    (reads_path : ∀ target ∈ output, Reads (text target.1).toList (meaning target.1).toList) :
    CommandLine.parse (lineText text stages output) = .ok (lineMeaning meaning stages output) := by
  obtain ⟨ts, scanned, assembled⟩ := scan_lineText some_ filled reads reads_path
  have tokens_some : ts ≠ [] := by
    rintro rfl
    simp [assemble] at assembled
  have tokens : tokens (lineText text stages output).toList = .ok ts := scanned
  simp only [CommandLine.parse, tokens, bind, Except.bind, if_neg tokens_some, assembled]
  rfl

end

theorem WordTemplate.wellFormed_value (s : String) : (WordTemplate.value s).WellFormed := by
  refine ⟨?_, ?_⟩
  · intro p member
    rw [List.mem_singleton.1 member]
    trivial
  · intro empty
    have chars := congrArg String.toList empty
    simp only [text, value, List.map_singleton, Piece.text, quote, String.toList_join] at chars
    exact quoteChars_ne_nil s.toList (by simpa using chars)

/-- The words of a template, with its output as a word of its own. -/
theorem Template.text_eq (t : Template) :
    t.text = lineText WordTemplate.text t.stages
      (t.output.map fun path => (.value path, false)) := by
  rw [Template.text, lineText]
  congr 1
  cases t.output <;> simp [redirectText, WordTemplate.text, WordTemplate.value, Piece.text]

/-- A template is read as the pipeline that it stands for, whatever its values are. -/
theorem Template.parse_text {t : Template} (wellFormed : t.WellFormed) :
    CommandLine.parse t.text = .ok t.commandLine := by
  have stands : t.commandLine = lineMeaning WordTemplate.meaning t.stages
      (t.output.map fun path => (.value path, false)) := by
    cases output : t.output <;> simp [commandLine, lineMeaning, output, WordTemplate.meaning,
      WordTemplate.value, Piece.meaning]
  rw [t.text_eq, stands]
  refine parse_lineText wellFormed.1 ?_ ?_ ?_
  · intro words member
    exact (wellFormed.2 words member).1
  · intro words member w part
    exact WordTemplate.reads ((wellFormed.2 words member).2 w part)
  · intro target member
    obtain ⟨path, -, rfl⟩ := Option.mem_map.1 member
    exact WordTemplate.reads (WordTemplate.wellFormed_value path)

/-! ## Checking a template without its values -/

/-- The fixed text of the piece needs no quotes. -/
def Piece.isPlain : Piece → Bool
  | fixed s => s.toList.all isSafe
  | value _ => true

/-- The piece is written with at least one character. -/
def Piece.isVisible : Piece → Bool
  | fixed s => s ≠ ""
  | value _ => true

/-- The word can be checked without its values. -/
def WordTemplate.isPlain (w : WordTemplate) : Bool :=
  w.pieces.all Piece.isPlain && w.pieces.any Piece.isVisible

theorem WordTemplate.wellFormed_of_isPlain {w : WordTemplate} (plain : w.isPlain = true) :
    w.WellFormed := by
  simp only [isPlain, Bool.and_eq_true, List.all_eq_true, List.any_eq_true] at plain
  obtain ⟨safe, p, member, visible⟩ := plain
  refine ⟨fun p member => ?_, fun empty => ?_⟩
  · cases p with
    | fixed s => exact safe _ member
    | value s => trivial
  · have silent : p.text = "" := by
      have chars : ∀ q ∈ w.pieces, q.text = "" := by
        simpa [text, String.toList_join] using congrArg String.toList empty
      exact chars p member
    cases p with
    | fixed s => exact absurd silent (of_decide_eq_true visible)
    | value s =>
      have chars := congrArg String.toList silent
      rw [Piece.text, quote, String.toList_ofList] at chars
      exact quoteChars_ne_nil _ chars

/-- The template can be checked without its values. -/
def Template.isPlain (t : Template) : Bool :=
  !t.stages.isEmpty && t.stages.all fun words => !words.isEmpty && words.all WordTemplate.isPlain

theorem Template.wellFormed_of_isPlain {t : Template} (plain : t.isPlain = true) :
    t.WellFormed := by
  simp only [isPlain, Bool.and_eq_true, Bool.not_eq_true', List.isEmpty_eq_false_iff,
    List.all_eq_true] at plain
  refine ⟨plain.1, fun words member => ⟨(plain.2 words member).1, fun w part => ?_⟩⟩
  exact WordTemplate.wellFormed_of_isPlain ((plain.2 words member).2 w part)

/-- The digits of a number need no quotes. -/
theorem Piece.isPlain_number (n : Nat) : Piece.isPlain (.fixed (toString n)) = true := by
  rw [Piece.isPlain, List.all_eq_true]
  intro c member
  rw [Nat.toString_eq_repr, Nat.toList_repr] at member
  simp [isSafe, Char.isAlphanum, Nat.isDigit_of_mem_toDigits (by decide) (by decide) member]

@[simp] theorem meaning_fixed (s : String) : WordTemplate.meaning ⟨[.fixed s]⟩ = s := by
  simp [WordTemplate.meaning, Piece.meaning]

@[simp] theorem meaning_value (s : String) : (WordTemplate.value s).meaning = s := by
  simp [WordTemplate.value, WordTemplate.meaning, Piece.meaning]

@[simp] theorem meaning_option (name value : String) :
    (WordTemplate.option name value).meaning = name ++ value := by
  simp [WordTemplate.option, WordTemplate.meaning, Piece.meaning]

@[simp] theorem meaning_numbered (name number : String) :
    WordTemplate.meaning ⟨[.fixed name, .fixed number]⟩ = name ++ number := by
  simp [WordTemplate.meaning, Piece.meaning]

end ReplicaSeed.Command
