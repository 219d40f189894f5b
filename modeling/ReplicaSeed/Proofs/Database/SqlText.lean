/-!
# Statements as a server reads them

A text that is given to a server is cut into words, literals and marks, and at its semicolons into
statements. In a literal a backslash escapes the character behind it, and a quote that is written
twice is a quote of the text. Comments and names in quotes are not read here, nor is anything else
outside of literals that is not a word, a blank or one of a few marks.

## Main definitions

* `Token`: a word, a literal or a mark.
* `run`: the tokens that a text adds, and how what follows it is read.
* `statements?`: the statements of a text.

## Main statements

* `Reads.append`: texts are read one after the other.
* `reads_doubled`: a text is read back from a literal if its backslashes and quotes are doubled.
-/

namespace ReplicaSeed.Sql

/-- A part of a statement. Keywords, names and numbers are words; a literal is its text. -/
inductive Token where
  | word (text : String)
  | literal (text : String)
  | mark (c : Char)
  deriving DecidableEq, Repr

/-- What a backslash stands for together with the character behind it. -/
def escaped : Char → List Char
  | '0' => ['\x00']
  | 'b' => ['\x08']
  | 'n' => ['\n']
  | 'r' => ['\r']
  | 't' => ['\t']
  | 'Z' => ['\x1a']
  | '%' => ['\\', '%']
  | '_' => ['\\', '_']
  | c => [c]

/-- A character that words are made of. -/
def isWordChar (c : Char) : Bool := c.isAlphanum || c == '_' || c == '$'

/-- A mark that is a token by itself. -/
def isMark (c : Char) : Bool := "=@:;,.()".toList.contains c

/-- How the next character is read. -/
inductive Mode where
  /-- Behind a part of a word, which may be empty. -/
  | bare (word : List Char)
  /-- In a literal, behind a part of its text. -/
  | quoted (quote : Char) (text : List Char)
  /-- In a literal, behind a backslash. -/
  | escaping (quote : Char) (text : List Char)
  /-- Behind a quote in a literal; it ends the literal unless there is a second one. -/
  | closing (quote : Char) (text : List Char)
  deriving DecidableEq, Repr

/-- The token of a word, if there is one. -/
def wordToken (word : List Char) : List Token :=
  if word = [] then [] else [.word (String.ofList word)]

/-- Reads a character outside of literals. -/
def bareStep (word : List Char) (c : Char) : Option (List Token × Mode) :=
  if isWordChar c then some ([], .bare (word ++ [c]))
  else if c.isWhitespace then some (wordToken word, .bare [])
  else if isMark c then some (wordToken word ++ [.mark c], .bare [])
  else if c = '\'' ∨ c = '"' then some (wordToken word, .quoted c [])
  else none

/-- Reads a character: the tokens that it completes, and how the next one is read. -/
def step : Mode → Char → Option (List Token × Mode)
  | .bare word, c => bareStep word c
  | .quoted quote text, c =>
    if c = '\\' then some ([], .escaping quote text)
    else if c = quote then some ([], .closing quote text)
    else some ([], .quoted quote (text ++ [c]))
  | .escaping quote text, c => some ([], .quoted quote (text ++ escaped c))
  | .closing quote text, c =>
    if c = quote then some ([], .quoted quote (text ++ [quote]))
    else (bareStep [] c).map fun (ts, mode) => (.literal (String.ofList text) :: ts, mode)

/-- The tokens that a text adds, and how what follows it is read. -/
def run (mode : Mode) : List Char → Option (List Token × Mode)
  | [] => some ([], mode)
  | c :: cs => do
    let (ts, mode) ← step mode c
    let (more, mode) ← run mode cs
    return (ts ++ more, mode)

/-- The last token of a text; a literal must have its end. -/
def finish? : Mode → Option (List Token)
  | .bare word => some (wordToken word)
  | .closing _ text => some [.literal (String.ofList text)]
  | .quoted _ _ => none
  | .escaping _ _ => none

/-- The tokens of a text. -/
def tokens? (text : List Char) : Option (List Token) := do
  let (ts, mode) ← run (.bare []) text
  let last ← finish? mode
  return ts ++ last

/-- The statements of a text. -/
def statements? (text : String) : Option (List (List Token)) :=
  (tokens? text.toList).map (List.splitOn (.mark ';'))

/-! ## Reading one text after the other -/

/-- The text is read as some tokens. -/
def Reads (mode : Mode) (text : List Char) (ts : List Token) (after : Mode) : Prop :=
  run mode text = some (ts, after)

section

variable {mode middle after : Mode} {a b text word : List Char} {ts us last : List Token} {c : Char}

theorem Reads.append (first : Reads mode a ts middle) (second : Reads middle b us after) :
    Reads mode (a ++ b) (ts ++ us) after := by
  induction a generalizing mode ts with
  | nil =>
    obtain ⟨rfl, rfl⟩ : [] = ts ∧ mode = middle := by simpa [Reads, run] using first
    exact second
  | cons c a ih =>
    obtain ⟨vs, next, stepped, more, last, read, same⟩ :
        ∃ vs next, step mode c = some (vs, next) ∧ ∃ more last, run next a = some (more, last) ∧
          (vs ++ more, last) = (ts, middle) := by
      simpa [Reads, run, Option.bind_eq_some_iff] using first
    obtain ⟨rfl, rfl⟩ := Prod.mk.inj same
    have rest := ih read
    simp only [Reads] at rest ⊢
    rw [List.cons_append, run, stepped]
    simp [rest]

theorem Reads.append_string {a b : String} (first : Reads mode a.toList ts middle)
    (second : Reads middle b.toList us after) : Reads mode (a ++ b).toList (ts ++ us) after := by
  rw [String.toList_append]
  exact first.append second

theorem Reads.cons (stepped : step mode c = some (ts, middle)) (rest : Reads middle a us after) :
    Reads mode (c :: a) (ts ++ us) after := by
  simp only [Reads] at rest ⊢
  simp [run, stepped, rest]

/-- A text that is read as some tokens is cut into statements at those that are semicolons. -/
theorem Reads.statements?_eq {text : String} (h : Reads (.bare []) text.toList ts mode)
    (ends : finish? mode = some last) :
    statements? text = some ((ts ++ last).splitOn (.mark ';')) := by
  simp only [Reads] at h
  simp [statements?, tokens?, h, ends]

/-- The characters of a word. -/
theorem reads_word (only : ∀ c ∈ text, isWordChar c = true) (word : List Char) :
    Reads (.bare word) text [] (.bare (word ++ text)) := by
  induction text generalizing word with
  | nil => simp [Reads, run]
  | cons c text ih =>
    obtain ⟨first, only⟩ := List.forall_mem_cons.1 only
    have stepped : step (.bare word) c = some ([], .bare (word ++ [c])) := if_pos first
    simpa using Reads.cons stepped (ih only (word ++ [c]))

/-- A blank ends a word. -/
theorem step_blank (some_ : word ≠ []) :
    step (.bare word) ' ' = some ([.word (String.ofList word)], .bare []) := by
  have blank : step (.bare word) ' ' = some (wordToken word, .bare []) := rfl
  rw [blank, wordToken, if_neg some_]

/-! ## Literals -/

/-- What needs no escape stands for itself in a literal. -/
theorem reads_plain {quote : Char} (noQuote : quote ∉ text) (noEscape : '\\' ∉ text)
    (before : List Char) :
    Reads (.quoted quote before) text [] (.quoted quote (before ++ text)) := by
  induction text generalizing before with
  | nil => simp [Reads, run]
  | cons c text ih =>
    rw [List.mem_cons, not_or] at noQuote noEscape
    have stepped : step (.quoted quote before) c = some ([], .quoted quote (before ++ [c])) := by
      rw [step, if_neg (Ne.symm noEscape.1), if_neg (Ne.symm noQuote.1)]
    simpa using Reads.cons stepped (ih noQuote.2 noEscape.2 (before ++ [c]))

/-- A text with its backslashes and apostrophes doubled. -/
def doubled (text : List Char) : List Char :=
  text.flatMap fun c => if c = '\\' ∨ c = '\'' then [c, c] else [c]

/-- A text is read back from a literal with doubled backslashes and apostrophes. -/
theorem reads_doubled (text before : List Char) :
    Reads (.quoted '\'' before) (doubled text) [] (.quoted '\'' (before ++ text)) := by
  induction text generalizing before with
  | nil => simp [Reads, run, doubled]
  | cons c text ih =>
    have first : Reads (.quoted '\'' before) (doubled [c]) [] (.quoted '\'' (before ++ [c])) := by
      by_cases back : c = '\\'
      · subst back
        rfl
      · by_cases quote : c = '\''
        · subst quote
          rfl
        · simp [Reads, run, doubled, step, back, quote]
    have both := first.append (ih (before ++ [c]))
    simpa [doubled] using both

/-- What stands between apostrophes is one literal, and nothing has ended yet that is not a part of
it. -/
theorem reads_literal (text : List Char) :
    Reads (.bare []) ('\'' :: (doubled text ++ ['\''])) [] (.closing '\'' text) := by
  have opened : step (.bare []) '\'' = some ([], .quoted '\'' []) := rfl
  have closed : Reads (.quoted '\'' text) ['\''] [] (.closing '\'' text) := rfl
  exact Reads.cons opened ((reads_doubled text []).append closed)

end

/-- A semicolon behind an escaped apostrophe is still in the literal; outside it ends
a statement. -/
example : statements? "SET x = 'a\\'; b'; DROP y" =
    some [[.word "SET", .word "x", .mark '=', .literal "a'; b"], [.word "DROP", .word "y"]] := by
  decide +kernel

end ReplicaSeed.Sql
