import ReplicaSeed.Proofs.Command.Reading

/-!
# Round trips of quoted lines

A line whose words are all quoted is read back as exactly these words, in the same stages and with
the same redirection. Nothing is asked of the words: they may be empty, and they may hold quotes,
backslashes, operators, line breaks and blanks of any script. Safe text may stand right before or
right after a quoted word, and becomes a part of it.

## Main definitions

* `quotedLine`: a pipeline as it is written with every word quoted.
* `GluedWord`: a quoted word with safe text around it.

## Main statements

* `GluedWord.reads`: what a quoted word with text around it stands for.
* `parse_quotedLine`: a quoted line is read back.
-/

namespace ReplicaSeed.Command

/-! ## Text around a quoted word -/

/-- Safe text before a word becomes a part of it. -/
theorem Reads.after_safe {before text word : List Char} (safe : before.all isSafe = true)
    (h : Reads text word) : Reads (before ++ text) (before ++ word) := by
  by_cases empty : before = []
  · rwa [empty, List.nil_append, List.nil_append]
  · exact (reads_safe empty safe).append h

/-- Safe text after a word becomes a part of it. -/
theorem Reads.before_safe {after text word : List Char} (safe : after.all isSafe = true)
    (h : Reads text word) : Reads (text ++ after) (word ++ after) := by
  by_cases empty : after = []
  · rwa [empty, List.append_nil, List.append_nil]
  · exact h.append (reads_safe empty safe)

theorem reads_quote (word : String) : Reads (quote word).toList word.toList := by
  rw [quote, String.toList_ofList]
  exact reads_quoteChars word.toList

/-- A word that is written in quotes, with text right before and after it that needs none. -/
structure GluedWord where
  before : String
  word : String
  after : String
  before_safe : before.toList.all isSafe = true
  after_safe : after.toList.all isSafe = true

namespace GluedWord

variable (w : GluedWord)

/-- The word as it is written. -/
def text : String := w.before ++ quote w.word ++ w.after

/-- The word that is passed on. -/
def value : String := w.before ++ w.word ++ w.after

theorem reads : Reads w.text.toList w.value.toList := by
  have glued := ((reads_quote w.word).after_safe w.before_safe).before_safe w.after_safe
  simpa only [text, value, String.toList_append] using glued

end GluedWord

/-! ## Whole lines -/

/-- The line that is written for a pipeline: every word quoted, blanks between the words, pipes
between the stages, and the redirection at the end. -/
def quotedLine (stages : List (List String)) (redirect : Option Redirect) : String :=
  lineText quote stages (redirect.map fun target => (target.path, target.append))

/-- A quoted line is read back as it was, whatever its words are, and each quoted word in it may
have safe text around it. -/
theorem parse_quotedLine :
    (∀ (stages : List (List String)) (redirect : Option Redirect),
      stages ≠ [] → (∀ words ∈ stages, words ≠ []) →
        CommandLine.parse (quotedLine stages redirect) = .ok ⟨stages, redirect, false⟩) ∧
    ∀ (stages : List (List GluedWord)) (target : Option (GluedWord × Bool)),
      stages ≠ [] → (∀ words ∈ stages, words ≠ []) →
        CommandLine.parse (lineText GluedWord.text stages target) =
          .ok ⟨stages.map (List.map GluedWord.value),
            target.map fun (path, append) => ⟨path.value, append⟩, false⟩ := by
  constructor
  · intro stages redirect some_ filled
    have itself : lineMeaning id stages (redirect.map fun target => (target.path, target.append)) =
        ⟨stages, redirect, false⟩ := by
      cases redirect <;> simp [lineMeaning]
    rw [quotedLine, ← itself]
    refine parse_lineText some_ filled ?_ ?_
    · intro words _ w _
      exact reads_quote w
    · intro target _
      exact reads_quote target.1
  · intro stages target some_ filled
    refine parse_lineText some_ filled ?_ ?_
    · intro words _ w _
      exact w.reads
    · intro target _
      exact target.1.reads

/-- An empty word, an apostrophe, operators and a blank of another script; and a word with text on
both sides. -/
theorem parse_quotedLine_awkward :
    CommandLine.parse "'' 'it'\\''s' | '\u2003>>' >> '|'" =
      .ok ⟨[["", "it's"], ["\u2003>>"]], some ⟨"|", true⟩, false⟩ ∧
    CommandLine.parse "--where='a > b',x" = .ok ⟨[["--where=a > b,x"]], none, false⟩ := by
  have quoted : quotedLine [["", "it's"], ["\u2003>>"]] (some ⟨"|", true⟩) =
      "'' 'it'\\''s' | '\u2003>>' >> '|'" := by decide +kernel
  have glued : lineText GluedWord.text
      [[⟨"--where=", "a > b", ",x", by decide, by decide⟩]] none = "--where='a > b',x" := by
    decide +kernel
  rw [← quoted, ← glued]
  refine ⟨parse_quotedLine.1 _ _ (List.cons_ne_nil _ _) (by decide), ?_⟩
  have value : "--where=" ++ "a > b" ++ ",x" = "--where=a > b,x" := by decide +kernel
  exact (parse_quotedLine.2 _ none (List.cons_ne_nil _ _) (by simp)).trans
    (by simp only [List.map_cons, List.map_nil, Option.map_none, GluedWord.value, value])

end ReplicaSeed.Command
