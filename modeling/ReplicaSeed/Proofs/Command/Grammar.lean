import Mathlib.Control.Monad.Basic
import Mathlib.Data.List.Induction
import Mathlib.Data.Nat.Init
import Mathlib.Logic.Function.Iterate
import ReplicaSeed.Execution.Pipeline
import ReplicaSeed.Proofs.Command.Reading

/-!
# The grammar of a command line

What a command line is, said as a grammar and without a reader: how a word is spelled, how a line
is cut into tokens, and how the tokens stand in stages.

```text
line     := pipeline [ (">" | ">>") word ]
pipeline := stage ( "|" stage )*
stage    := word+
```

The reader goes from left to right with a word that is not finished in hand; the grammar splits the
line at places that it does not have to find. The two agree because the grammar leaves no line out:
each is cut into tokens, or has a quote that is not closed or a backslash at its end
(`lexed_or_leftOpen`), and the reader follows the grammar in both cases.

## Main definitions

* `IsWord`: how a word is spelled, as plain characters, escaped ones and quoted text.
* `Lexed`: the tokens of a line.
* `LeftOpen`: a quote of the line is not closed, or a backslash ends it.
* `IsLine`: how the tokens stand in stages.

## Main statements

* `tokens_eq_ok_iff`, `tokens_eq_error_iff`: what the reader finds is what the grammar says.
* `assemble_eq_ok_iff`: so are the stages and the redirection.
* `parse_eq_ok_iff_grammar`: a line is accepted exactly if it belongs to the grammar, and no stage
  of an accepted line is empty.
-/

namespace ReplicaSeed.Command

/-! ## Spelling -/

/-- Text between double quotes, and what it stands for. A backslash escapes `"` and itself; before
any other character it stays. -/
inductive DoubleQuoted : List Char → List Char → Prop where
  | nil : DoubleQuoted [] []
  | escaped {c : Char} {cs w : List Char} (special : c = '"' ∨ c = '\\')
      (rest : DoubleQuoted cs w) : DoubleQuoted ('\\' :: c :: cs) (c :: w)
  | kept {c : Char} {cs w : List Char} (ordinary : c ≠ '"' ∧ c ≠ '\\') (rest : DoubleQuoted cs w) :
      DoubleQuoted ('\\' :: c :: cs) ('\\' :: c :: w)
  | plain {c : Char} {cs w : List Char} (ordinary : c ≠ '"' ∧ c ≠ '\\') (rest : DoubleQuoted cs w) :
      DoubleQuoted (c :: cs) (c :: w)

/-- A character that ends the word before it. -/
def IsDelimiter (c : Char) : Prop := Text.isBlank c = true ∨ c = '|' ∨ c = '>'

/-- A part of a word, and what it stands for. -/
inductive WordPart : List Char → List Char → Prop where
  | plain {c : Char} (inside : ¬ IsDelimiter c) (ordinary : c ≠ '\'' ∧ c ≠ '"' ∧ c ≠ '\\') :
      WordPart [c] [c]
  | escaped (c : Char) : WordPart ['\\', c] [c]
  | single {w : List Char} (literal : '\'' ∉ w) : WordPart ('\'' :: w ++ ['\'']) w
  | double {cs w : List Char} (quoted : DoubleQuoted cs w) : WordPart ('"' :: cs ++ ['"']) w

/-- A word: one part or more, right after one another. -/
inductive IsWord : List Char → List Char → Prop where
  | one {t w : List Char} (part : WordPart t w) : IsWord t w
  | cons {t w t' w' : List Char} (part : WordPart t w) (rest : IsWord t' w') :
      IsWord (t ++ t') (w ++ w')

/-- A word cannot go on here. -/
def Delimits (rest : List Char) : Prop := ∀ c ∈ rest.head?, IsDelimiter c

/-- The tokens of a line. A word is as long as it can be, and so is an operator. -/
inductive Lexed : List Char → List Token → Prop where
  | nil : Lexed [] []
  | blank {c : Char} {cs : List Char} {ts : List Token} (blank : Text.isBlank c = true)
      (rest : Lexed cs ts) : Lexed (c :: cs) ts
  | pipe {cs : List Char} {ts : List Token} (rest : Lexed cs ts) : Lexed ('|' :: cs) (.pipe :: ts)
  | append {cs : List Char} {ts : List Token} (rest : Lexed cs ts) :
      Lexed ('>' :: '>' :: cs) (.redirect true :: ts)
  | truncate {cs : List Char} {ts : List Token} (alone : cs.head? ≠ some '>') (rest : Lexed cs ts) :
      Lexed ('>' :: cs) (.redirect false :: ts)
  | word {t w cs : List Char} {ts : List Token} (word : IsWord t w) (ends : Delimits cs)
      (rest : Lexed cs ts) : Lexed (t ++ cs) (.word w :: ts)

/-- The end of a line in the middle of a word, and what is missing there. -/
inductive Unfinished : List Char → SyntaxFault → Prop where
  | single {w : List Char} (literal : '\'' ∉ w) : Unfinished ('\'' :: w) .openSingleQuote
  | double {cs w : List Char} (quoted : DoubleQuoted cs w) : Unfinished ('"' :: cs) .openDoubleQuote
  | doubleEscape {cs w : List Char} (quoted : DoubleQuoted cs w) :
      Unfinished ('"' :: cs ++ ['\\']) .openDoubleQuote
  | escape : Unfinished ['\\'] .trailingBackslash

/-- Behind tokens that are complete, a quote is not closed or a backslash ends the line. -/
def LeftOpen (cs : List Char) (fault : SyntaxFault) : Prop :=
  ∃ front ts tail, cs = front ++ tail ∧ Lexed front ts ∧ Unfinished tail fault

/-! ## Stages -/

/-- The words of a stage: one or more. -/
inductive IsStage : List Token → List String → Prop where
  | one (w : List Char) : IsStage [.word w] [String.ofList w]
  | cons (w : List Char) {ts : List Token} {words : List String} (rest : IsStage ts words) :
      IsStage (.word w :: ts) (String.ofList w :: words)

/-- The stages of a pipeline: one or more, with a pipe between them. -/
inductive IsPipeline : List Token → List (List String) → Prop where
  | one {ts : List Token} {words : List String} (stage : IsStage ts words) : IsPipeline ts [words]
  | cons {ts ts' : List Token} {words : List String} {stages : List (List String)}
      (stage : IsStage ts words) (rest : IsPipeline ts' stages) :
      IsPipeline (ts ++ .pipe :: ts') (words :: stages)

/-- A pipeline, and possibly a redirection to one word at its end. -/
inductive IsLine : List Token → List (List String) → Option Redirect → Prop where
  | plain {ts : List Token} {stages : List (List String)} (pipeline : IsPipeline ts stages) :
      IsLine ts stages none
  | redirected {ts : List Token} {stages : List (List String)} (pipeline : IsPipeline ts stages)
      (append : Bool) (path : List Char) :
      IsLine (ts ++ [.redirect append, .word path]) stages (some ⟨String.ofList path, append⟩)

/-! ## Reading a word -/

/-- Between single quotes everything is literal. -/
theorem scan_literal {word : List Char} (literal : '\'' ∉ word) (p rest : List Char) :
    scan .single (some p) (word ++ rest) = scan .single (some (word.reverse ++ p)) rest := by
  induction word generalizing p with
  | nil => rfl
  | cons c word ih =>
    rw [List.mem_cons, not_or] at literal
    rw [List.cons_append, scan_quoted _ _ (Ne.symm literal.1), List.reverse_cons, List.append_assoc]
    exact ih literal.2 (c :: p)

theorem DoubleQuoted.scan {cs word : List Char} (h : DoubleQuoted cs word) (p rest : List Char) :
    scan .double (some p) (cs ++ rest) = scan .double (some (word.reverse ++ p)) rest := by
  induction h generalizing p with
  | nil => rfl
  | @escaped c cs word special _ ih =>
    have step : Command.scan .double (some p) ('\\' :: c :: (cs ++ rest)) =
        Command.scan .double (some (c :: p)) (cs ++ rest) := if_pos special
    rw [List.cons_append, List.cons_append, step, ih, List.reverse_cons, List.append_assoc]
    rfl
  | @kept c cs word ordinary _ ih =>
    have step : Command.scan .double (some p) ('\\' :: c :: (cs ++ rest)) =
        Command.scan .double (some (c :: '\\' :: p)) (cs ++ rest) := if_neg (not_or.2 ordinary)
    rw [List.cons_append, List.cons_append, step, ih]
    simp
  | @plain c cs word ordinary _ ih =>
    have step : Command.scan .double (some p) (c :: (cs ++ rest)) =
        Command.scan .double (some (c :: p)) (cs ++ rest) := by
      conv_lhs => unfold Command.scan
      split <;> simp_all [Pending.push]
    rw [List.cons_append, step, ih, List.reverse_cons, List.append_assoc]
    rfl

theorem WordPart.reads {t word : List Char} (h : WordPart t word) : Reads t word := by
  intro w rest
  cases h with
  | @plain c inside ordinary =>
    simp only [IsDelimiter, not_or, Bool.not_eq_true] at inside
    exact scan_plain w rest inside.1 ordinary.1 ordinary.2.1 ordinary.2.2 inside.2.1 inside.2.2
  | escaped c => exact scan_escaped w rest c
  | single literal =>
    rw [List.cons_append, List.cons_append, List.append_assoc, scan_open, Pending.opened,
      scan_literal literal]
    exact scan_close _ rest
  | double quoted =>
    rw [List.cons_append, List.cons_append, List.append_assoc]
    exact quoted.scan (w.getD []) ('"' :: rest)

theorem IsWord.reads {t word : List Char} (h : IsWord t word) : Reads t word := by
  induction h with
  | one part => exact part.reads
  | cons part _ ih => exact part.reads.append ih

/-! ## Reading a line -/

section

variable (w : Pending) (rest : List Char)

theorem scan_isBlank {c : Char} (blank : Text.isBlank c = true) :
    scan .bare w (c :: rest) = (scan .bare none rest).map (w.flush ++ ·) := by
  conv_lhs => unfold scan
  split <;> simp_all +decide

theorem scan_pipe_after :
    scan .bare w ('|' :: rest) = (scan .bare none rest).map (w.flush ++ .pipe :: ·) := rfl

theorem scan_append_after : scan .bare w ('>' :: '>' :: rest) =
    (scan .bare none rest).map (w.flush ++ .redirect true :: ·) := rfl

theorem scan_truncate_after (alone : rest.head? ≠ some '>') : scan .bare w ('>' :: rest) =
    (scan .bare none rest).map (w.flush ++ .redirect false :: ·) := by
  conv_lhs => unfold scan
  split <;> grind

end

/-- What is read after the end of a word does not depend on the word. -/
theorem endsWord_of_flush {rest : List Char} {r : Except SyntaxFault (List Token)}
    {f : List Token → List Token}
    (h : ∀ w : Pending, scan .bare w rest = r.map fun ts => w.flush ++ f ts) : EndsWord rest := by
  intro p
  rw [h, h]
  cases r <;> rfl

theorem Delimits.endsWord {rest : List Char} (h : Delimits rest) : EndsWord rest := by
  cases rest with
  | nil => exact endsWord_nil
  | cons c rest =>
    obtain blank | rfl | rfl := h c rfl
    · exact endsWord_of_flush fun w => scan_isBlank w rest blank
    · exact endsWord_of_flush fun w => scan_pipe_after w rest
    · by_cases alone : rest.head? = some '>'
      · obtain ⟨rest, rfl⟩ : ∃ tail, rest = '>' :: tail := by
          cases rest with
          | nil => simp at alone
          | cons d tail => exact ⟨tail, by simpa using alone⟩
        exact endsWord_of_flush fun w => scan_append_after w rest
      · exact endsWord_of_flush fun w => scan_truncate_after w rest alone

/-- The reader cuts a line as the grammar does. -/
theorem Lexed.tokens {cs : List Char} {ts : List Token} (h : Lexed cs ts) : tokens cs = .ok ts := by
  unfold Command.tokens
  induction h with
  | nil => rfl
  | @blank c cs ts blank _ ih =>
    rw [scan_isBlank none cs blank, ih]
    rfl
  | @pipe cs ts _ ih =>
    rw [scan_pipe_after, ih]
    rfl
  | @append cs ts _ ih =>
    rw [scan_append_after, ih]
    rfl
  | @truncate cs ts alone _ ih =>
    rw [scan_truncate_after none cs alone, ih]
    rfl
  | word word ends _ ih =>
    rw [word.reads.scan ends.endsWord, ih]
    rfl

/-! ## Reading a line that is left open -/

theorem Unfinished.scan {tail : List Char} {fault : SyntaxFault} (h : Unfinished tail fault)
    (w : Pending) : scan .bare w tail = .error fault := by
  cases h with
  | single literal =>
    rename_i word
    have read := scan_literal literal (w.getD []) []
    rw [List.append_nil] at read
    rw [scan_open, Pending.opened, read]
    rfl
  | double quoted =>
    have read := quoted.scan (w.getD []) []
    rw [List.append_nil] at read
    exact read
  | doubleEscape quoted => exact quoted.scan (w.getD []) ['\\']
  | escape => rfl

theorem Unfinished.head {tail : List Char} {fault : SyntaxFault} (h : Unfinished tail fault) :
    tail.head? ≠ some '>' := by
  cases h <;> simp

theorem LeftOpen.tokens {cs : List Char} {fault : SyntaxFault} (h : LeftOpen cs fault) :
    tokens cs = .error fault := by
  obtain ⟨front, ts, tail, rfl, lexed, unfinished⟩ := h
  unfold Command.tokens
  induction lexed with
  | nil => exact unfinished.scan none
  | @blank c cs ts blank _ ih =>
    rw [List.cons_append, scan_isBlank none _ blank, ih]
    rfl
  | @pipe cs ts _ ih =>
    rw [List.cons_append, scan_pipe_after, ih]
    rfl
  | @append cs ts _ ih =>
    rw [List.cons_append, List.cons_append, scan_append_after, ih]
    rfl
  | @truncate cs ts alone _ ih =>
    have alone : (cs ++ tail).head? ≠ some '>' := by
      cases cs with
      | nil => exact unfinished.head
      | cons c cs => exact alone
    rw [List.cons_append, scan_truncate_after none _ alone, ih]
    rfl
  | @word t word cs ts spelled ends _ ih =>
    rw [List.append_assoc]
    cases cs with
    | nil =>
      -- The word goes on into what is not closed.
      rw [List.nil_append, spelled.reads]
      exact unfinished.scan _
    | cons c cs =>
      have ends : Delimits (c :: cs ++ tail) := ends
      rw [spelled.reads.scan ends.endsWord, ih]
      rfl

/-! ## No line is left out -/

theorem DoubleQuoted.escape {body w : List Char} (h : DoubleQuoted body w) (c : Char) :
    ∃ w', DoubleQuoted ('\\' :: c :: body) w' := by
  by_cases special : c = '"' ∨ c = '\\'
  · exact ⟨_, .escaped special h⟩
  · exact ⟨_, .kept (not_or.1 special) h⟩

/-- Text after a double quote goes on up to the next one, up to the end of the line, or up to a
backslash there. -/
theorem exists_doubleQuoted (cs : List Char) :
    ∃ body w rest, cs = body ++ rest ∧ DoubleQuoted body w ∧
      (rest = [] ∨ rest = ['\\'] ∨ ∃ tail, rest = '"' :: tail) := by
  induction cs using List.twoStepInduction with
  | nil => exact ⟨[], [], [], rfl, .nil, .inl rfl⟩
  | singleton c =>
    by_cases closes : c = '"'
    · exact ⟨[], [], [c], rfl, .nil, .inr (.inr ⟨[], by rw [closes]⟩)⟩
    by_cases escapes : c = '\\'
    · exact ⟨[], [], [c], rfl, .nil, .inr (.inl (by rw [escapes]))⟩
    exact ⟨[c], [c], [], rfl, .plain ⟨closes, escapes⟩ .nil, .inl rfl⟩
  | cons_cons c d cs ih ih' =>
    by_cases closes : c = '"'
    · exact ⟨[], [], c :: d :: cs, rfl, .nil, .inr (.inr ⟨d :: cs, by rw [closes]⟩)⟩
    by_cases escapes : c = '\\'
    · obtain ⟨body, w, rest, rfl, quoted, ends⟩ := ih
      obtain ⟨w', quoted⟩ := quoted.escape d
      exact ⟨'\\' :: d :: body, w', rest, by rw [escapes]; rfl, quoted, ends⟩
    · obtain ⟨body, w, rest, split, quoted, ends⟩ := ih' d
      exact ⟨c :: body, c :: w, rest, by rw [split]; rfl, .plain ⟨closes, escapes⟩ quoted, ends⟩

/-- Where a word may go on, it goes on with a part of it or ends unfinished. -/
theorem wordPart_or_unfinished {c : Char} (inside : ¬ IsDelimiter c) (cs : List Char) :
    (∃ t w rest, c :: cs = t ++ rest ∧ WordPart t w ∧ rest.length ≤ cs.length) ∨
      ∃ fault, Unfinished (c :: cs) fault := by
  by_cases single : c = '\''
  · subst single
    by_cases closed : '\'' ∈ cs
    · obtain ⟨body, rest, rfl, literal⟩ := List.eq_append_cons_of_mem closed
      refine .inl ⟨_, _, rest, ?_, .single literal, ?_⟩
      · simp
      · grind
    · exact .inr ⟨_, .single closed⟩
  by_cases double : c = '"'
  · subst double
    obtain ⟨body, w, rest, rfl, quoted, rfl | rfl | ⟨tail, rfl⟩⟩ := exists_doubleQuoted cs
    · rw [List.append_nil]
      exact .inr ⟨_, .double quoted⟩
    · exact .inr ⟨_, .doubleEscape quoted⟩
    · refine .inl ⟨_, _, tail, ?_, .double quoted, ?_⟩
      · simp
      · grind
  by_cases escapes : c = '\\'
  · subst escapes
    cases cs with
    | nil => exact .inr ⟨_, .escape⟩
    | cons d cs => exact .inl ⟨_, _, cs, rfl, .escaped d, by grind⟩
  exact .inl ⟨_, _, cs, rfl, .plain inside ⟨single, double, escapes⟩, Nat.le_refl _⟩

/-- A part of a word before a line goes into the first word of it, or is a word of its own. -/
theorem Lexed.glue {t w cs : List Char} {ts : List Token} (part : WordPart t w)
    (h : Lexed cs ts) : ∃ ts', Lexed (t ++ cs) ts' := by
  by_cases ends : Delimits cs
  · exact ⟨_, .word (.one part) ends h⟩
  · cases h with
    | nil => exact absurd (fun c member => nomatch member) ends
    | blank blank _ => exact absurd (fun _ head => Option.some.inj head ▸ .inl blank) ends
    | pipe _ => exact absurd (fun _ head => Option.some.inj head ▸ .inr (.inl rfl)) ends
    | append _ => exact absurd (fun _ head => Option.some.inj head ▸ .inr (.inr rfl)) ends
    | truncate _ _ => exact absurd (fun _ head => Option.some.inj head ▸ .inr (.inr rfl)) ends
    | word word stops rest =>
      rw [← List.append_assoc]
      exact ⟨_, .word (.cons part word) stops rest⟩

/-- What stands before a line and is complete changes nothing about how the line ends. -/
theorem lexed_or_leftOpen_prepend (before : List Char) {cs : List Char}
    (complete : ∀ front ts, front <+: cs → Lexed front ts → ∃ ts', Lexed (before ++ front) ts')
    (h : (∃ ts, Lexed cs ts) ∨ ∃ fault, LeftOpen cs fault) :
    (∃ ts, Lexed (before ++ cs) ts) ∨ ∃ fault, LeftOpen (before ++ cs) fault := by
  obtain ⟨ts, lexed⟩ | ⟨fault, front, ts, tail, rfl, lexed, unfinished⟩ := h
  · exact .inl (complete cs ts List.prefix_rfl lexed)
  · obtain ⟨ts', lexed⟩ := complete front ts (List.prefix_append front tail) lexed
    exact .inr ⟨fault, before ++ front, ts', tail, by rw [List.append_assoc], lexed, unfinished⟩

/-- Every line is cut into tokens, or is left open. -/
theorem lexed_or_leftOpen (cs : List Char) : (∃ ts, Lexed cs ts) ∨ ∃ fault, LeftOpen cs fault := by
  -- A word may take any number of characters, so the induction is on the length of what is left.
  induction length : cs.length using Nat.strong_induction_on generalizing cs with
  | _ n ih =>
    subst length
    cases cs with
    | nil => exact .inl ⟨[], .nil⟩
    | cons c cs =>
      by_cases delimiter : IsDelimiter c
      · obtain blank | rfl | rfl := delimiter
        · refine lexed_or_leftOpen_prepend [c] ?_ (ih _ (by simp) cs rfl)
          intro front ts _ lexed
          exact ⟨ts, .blank blank lexed⟩
        · refine lexed_or_leftOpen_prepend ['|'] ?_ (ih _ (by simp) cs rfl)
          intro front ts _ lexed
          exact ⟨_, .pipe lexed⟩
        · by_cases alone : cs.head? = some '>'
          · obtain ⟨cs, rfl⟩ := List.head?_eq_some_iff.1 alone
            have shorter : cs.length < ('>' :: '>' :: cs).length := by
              rw [List.length_cons, List.length_cons]
              omega
            refine lexed_or_leftOpen_prepend ['>', '>'] ?_ (ih _ shorter cs rfl)
            intro front ts _ lexed
            exact ⟨_, .append lexed⟩
          · refine lexed_or_leftOpen_prepend ['>'] ?_ (ih _ (by simp) cs rfl)
            intro front ts inside lexed
            refine ⟨_, .truncate ?_ lexed⟩
            intro head
            obtain ⟨tail, rfl⟩ := inside
            cases front with
            | nil => simp at head
            | cons d front => exact alone head
      · obtain ⟨t, w, rest, split, part, shorter⟩ | ⟨fault, unfinished⟩ :=
          wordPart_or_unfinished delimiter cs
        · rw [split]
          refine lexed_or_leftOpen_prepend t ?_ (ih _ (by grind) rest rfl)
          intro front ts _ lexed
          exact lexed.glue part
        · exact .inr ⟨fault, [], [], c :: cs, rfl, .nil, unfinished⟩

/-- The reader cuts a line into tokens exactly if the grammar does, and into the same ones. -/
theorem tokens_eq_ok_iff {cs : List Char} {ts : List Token} : tokens cs = .ok ts ↔ Lexed cs ts := by
  constructor
  · intro read
    obtain ⟨ts', lexed⟩ | ⟨fault, leftOpen⟩ := lexed_or_leftOpen cs
    · rw [lexed.tokens] at read
      exact Except.ok.inj read ▸ lexed
    · rw [leftOpen.tokens] at read
      cases read
  · exact Lexed.tokens

/-- The reader refuses to cut a line exactly if it is left open. -/
theorem tokens_eq_error_iff {cs : List Char} {fault : SyntaxFault} :
    tokens cs = .error fault ↔ LeftOpen cs fault := by
  constructor
  · intro read
    obtain ⟨ts, lexed⟩ | ⟨fault', leftOpen⟩ := lexed_or_leftOpen cs
    · rw [lexed.tokens] at read
      cases read
    · rw [leftOpen.tokens] at read
      exact Except.error.inj read ▸ leftOpen
  · exact LeftOpen.tokens

/-! ## Reading stages -/

/-- The tokens of words that are already collected. -/
def wordTokens (words : List String) : List Token := words.map fun w => .word w.toList

theorem isStage_wordTokens {words : List String} (nonempty : words ≠ []) :
    IsStage (wordTokens words) words := by
  induction words with
  | nil => exact absurd rfl nonempty
  | cons w words ih =>
    have single := IsStage.one w.toList
    cases words with
    | nil => simpa [wordTokens] using single
    | cons v words => simpa [wordTokens] using IsStage.cons w.toList (ih (List.cons_ne_nil v words))

theorem IsLine.cons {ts ts' : List Token} {words : List String} {stages : List (List String)}
    {redirect : Option Redirect} (stage : IsStage ts words) (rest : IsLine ts' stages redirect) :
    IsLine (ts ++ .pipe :: ts') (words :: stages) redirect := by
  cases rest with
  | plain pipeline => exact .plain (.cons stage pipeline)
  | redirected pipeline append path =>
    simpa using IsLine.redirected (.cons stage pipeline) append path

/-- Whatever is accepted after some words is a line of the grammar behind the tokens of these
words. -/
theorem isLine_of_assemble {words : List String} {ts : List Token} {stages : List (List String)}
    {redirect : Option Redirect} (accepted : assemble words ts = .ok (stages, redirect)) :
    IsLine (wordTokens words ++ ts) stages redirect := by
  fun_induction assemble words ts generalizing stages redirect with
  | case1 => cases accepted
  | case2 words nonempty =>
    cases accepted
    rw [List.append_nil]
    exact .plain (.one (isStage_wordTokens nonempty))
  | case3 words w ts ih => simpa [wordTokens] using ih accepted
  | case4 => cases accepted
  | case5 words ts nonempty ih =>
    cases others : assemble [] ts with
    | error fault =>
      rw [others] at accepted
      cases accepted
    | ok line =>
      rw [others] at accepted
      cases accepted
      exact (ih others).cons (isStage_wordTokens nonempty)
  | case6 => cases accepted
  | case7 words append path nonempty =>
    cases accepted
    exact .redirected (.one (isStage_wordTokens nonempty)) append path
  | case8 => cases accepted
  | case9 => cases accepted

theorem IsStage.assemble {ts : List Token} {words : List String} (h : IsStage ts words)
    (collected : List String) (rest : List Token) :
    assemble collected (ts ++ rest) = Command.assemble (collected ++ words) rest := by
  induction h generalizing collected with
  | one w => rfl
  | cons w _ ih =>
    rw [List.cons_append, Command.assemble, ih, List.append_assoc, List.singleton_append]

theorem IsStage.nonempty {ts : List Token} {words : List String} (h : IsStage ts words) :
    words ≠ [] := by
  cases h <;> simp

/-- The stages of a pipeline are read one by one, up to what stands behind the last one. -/
theorem IsPipeline.assemble {ts rest : List Token} {stages : List (List String)}
    {redirect : Option Redirect} (h : IsPipeline ts stages)
    (ends : ∀ words ≠ [], assemble words rest = .ok ([words], redirect)) :
    assemble [] (ts ++ rest) = .ok (stages, redirect) := by
  induction h with
  | one stage =>
    rw [stage.assemble]
    exact ends _ stage.nonempty
  | cons stage _ ih =>
    rw [List.append_assoc, stage.assemble, List.nil_append, List.cons_append, Command.assemble,
      if_neg stage.nonempty, ih]
    rfl

/-- The stages and the redirection are found exactly if the tokens are a line of the grammar. -/
theorem assemble_eq_ok_iff {ts : List Token} {stages : List (List String)}
    {redirect : Option Redirect} :
    assemble [] ts = .ok (stages, redirect) ↔ IsLine ts stages redirect := by
  constructor
  · exact isLine_of_assemble
  · intro line
    cases line with
    | plain pipeline =>
      rw [← List.append_nil ts]
      refine pipeline.assemble ?_
      intro words nonempty
      rw [assemble, if_neg nonempty]
    | redirected pipeline append path =>
      refine pipeline.assemble ?_
      intro words nonempty
      rw [assemble, if_neg nonempty]

theorem IsPipeline.filled {ts : List Token} {stages : List (List String)}
    (h : IsPipeline ts stages) : stages ≠ [] ∧ ∀ words ∈ stages, words ≠ [] := by
  induction h with
  | one stage => simpa using stage.nonempty
  | cons stage _ ih =>
    refine ⟨List.cons_ne_nil _ _, ?_⟩
    rw [List.forall_mem_cons]
    exact ⟨stage.nonempty, ih.2⟩

theorem IsLine.filled {ts : List Token} {stages : List (List String)} {redirect : Option Redirect}
    (h : IsLine ts stages redirect) : stages ≠ [] ∧ ∀ words ∈ stages, words ≠ [] := by
  cases h with
  | plain pipeline => exact pipeline.filled
  | redirected pipeline _ _ => exact pipeline.filled

/-! ## Elevated lines -/

/-- There is a stage, and each has a program. -/
def CommandLine.Filled (c : CommandLine) : Prop := c.stages ≠ [] ∧ ∀ words ∈ c.stages, words ≠ []

theorem CommandLine.Filled.elevate {c : CommandLine} (h : c.Filled) : c.elevate.Filled := by
  unfold CommandLine.elevate
  split
  · exact h
  · refine ⟨by simpa using h.1, ?_⟩
    intro words member
    obtain ⟨words, -, rfl⟩ := List.mem_map.1 member
    simp [elevation]

theorem CommandLine.Filled.iterate_elevate {c : CommandLine} (h : c.Filled) (n : ℕ) :
    (CommandLine.elevate^[n] c).Filled := by
  induction n with
  | zero => exact h
  | succ n ih =>
    rw [Function.iterate_succ_apply']
    exact ih.elevate

/-- A pipeline that is run has a first and a last stage, and each stage has a program. -/
theorem CommandLine.Filled.ofLine {c : CommandLine} (h : c.Filled) :
    (Pipeline.ofLine c).stages ≠ [] ∧ ∀ words ∈ (Pipeline.ofLine c).stages, words ≠ [] := by
  unfold Pipeline.ofLine
  split
  · exact h
  · split
    · refine ⟨by simp, ?_⟩
      intro words member
      obtain member | member := List.mem_append.1 member
      · exact h.2 words member
      · rw [List.mem_singleton.1 member]
        simp [Pipeline.teeStage, elevation]
    · exact h

/-! ## The accepted lines -/

/-- A line is accepted if it can be cut into tokens and these can be sorted into stages. -/
theorem parse_eq_ok_iff {line : String} {c : CommandLine} : CommandLine.parse line = .ok c ↔
    c.elevated = false ∧ ∃ ts, tokens line.toList = .ok ts ∧
      assemble [] ts = .ok (c.stages, c.redirect) := by
  obtain ⟨stages, redirect, elevated⟩ := c
  cases cut : tokens line.toList with
  | error fault => simp [CommandLine.parse, cut, bind, Except.bind]
  | ok ts =>
    by_cases empty : ts = []
    · simp [CommandLine.parse, cut, bind, Except.bind, empty, assemble, throw, throwThe,
        MonadExceptOf.throw]
    · cases sorted : assemble [] ts with
      | error fault =>
        simp [CommandLine.parse, cut, bind, Except.bind, empty, sorted]
      | ok line =>
        obtain ⟨stages', redirect'⟩ := line
        simp [CommandLine.parse, cut, bind, Except.bind, empty, sorted, pure, Except.pure]
        grind

/-- A line is accepted exactly if it belongs to the grammar, as the stages and the redirection that
the grammar gives it. What it lacks to be cut into tokens is a closing quote or a character behind
its last backslash. Elevated or not, no stage that is run for an accepted line is empty, and there
is a last one. -/
theorem parse_eq_ok_iff_grammar (line : String) :
    (∀ c : CommandLine, CommandLine.parse line = .ok c ↔
      c.elevated = false ∧ ∃ ts, Lexed line.toList ts ∧ IsLine ts c.stages c.redirect) ∧
    ((∃ ts, Lexed line.toList ts) ↔ ¬ ∃ fault, LeftOpen line.toList fault) ∧
    ∀ c : CommandLine, CommandLine.parse line = .ok c → ∀ n : ℕ,
      let e := CommandLine.elevate^[n] c
      (∀ words ∈ e.stages, words ≠ []) ∧
        (∀ words ∈ (Pipeline.ofLine e).stages, words ≠ []) ∧
        0 < (Pipeline.ofLine e).stages.length ∧
        e.elevate.elevate = e.elevate := by
  have accepted (c : CommandLine) : CommandLine.parse line = .ok c ↔
      c.elevated = false ∧ ∃ ts, Lexed line.toList ts ∧ IsLine ts c.stages c.redirect := by
    simp only [parse_eq_ok_iff, tokens_eq_ok_iff, assemble_eq_ok_iff]
  refine ⟨accepted, ?_, ?_⟩
  · constructor
    · rintro ⟨ts, lexed⟩ ⟨fault, leftOpen⟩
      have read := lexed.tokens
      rw [leftOpen.tokens] at read
      cases read
    · exact (lexed_or_leftOpen line.toList).resolve_right
  · intro c parsed n e
    obtain ⟨-, ts, -, isLine⟩ := (accepted c).1 parsed
    have filled : CommandLine.Filled c := isLine.filled
    have run := (filled.iterate_elevate n).ofLine
    exact ⟨(filled.iterate_elevate n).2, run.2, List.length_pos_iff.2 run.1,
      CommandLine.elevate_elevate e⟩

/-- An operator in quotes, quotes right behind an operator, and a word in two kinds of quotes. -/
theorem parse_eq_ok_iff_grammar_glued :
    let line := "a'|'b|\"c\\\\\"'>' >>\\ d"
    let c : CommandLine := ⟨[["a|b"], ["c\\>"]], some ⟨" d", true⟩, false⟩
    CommandLine.parse line = .ok c ∧
      (∃ ts, Lexed line.toList ts ∧ IsLine ts c.stages c.redirect) ∧
      ∀ words ∈ (Pipeline.ofLine (CommandLine.elevate^[2] c)).stages, words ≠ [] := by
  intro line c
  have parsed : CommandLine.parse line = .ok c := by decide +kernel
  have grammar := parse_eq_ok_iff_grammar line
  exact ⟨parsed, ((grammar.1 c).1 parsed).2, (grammar.2.2 c parsed 2).2.1⟩

end ReplicaSeed.Command
