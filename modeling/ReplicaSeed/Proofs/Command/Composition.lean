import ReplicaSeed.Command.Quoting
import ReplicaSeed.Proofs.Command.Grammar

/-!
# Putting command lines together

Lines are built by writing one text behind another. Whatever an accepted line ends with, a quote, an
escaped character or a word in several parts, nothing of it is left open behind it, so what follows
after a blank is read as if it stood alone: a pipe and another line add the stages of that line, and
a quoted word adds this word to the last stage.

## Main statements

* `Lexed.append_blank`: the tokens of two texts with a blank between them.
* `IsPipeline.append`, `IsPipeline.appendWord`: what another line and another word do to the stages.
* `parse_append`: both for lines as they are read.
-/

namespace ReplicaSeed.Command

/-! ## Tokens -/

/-- A text that can be cut into tokens ends before a blank, with all that it has begun: what stands
behind the blank is cut as if it stood alone. -/
theorem Lexed.append_blank {cs rest : List Char} {ts ts' : List Token} {c : Char}
    (h : Lexed cs ts) (blank : Text.isBlank c = true) (h' : Lexed rest ts') :
    Lexed (cs ++ c :: rest) (ts ++ ts') := by
  induction h with
  | nil => exact .blank blank h'
  | blank blank' _ ih => exact .blank blank' ih
  | pipe _ ih => exact .pipe ih
  | append _ ih => exact .append ih
  | @truncate cs ts alone _ ih =>
    refine .truncate ?_ ih
    cases cs with
    | nil =>
      -- A blank is no second sign of an operator.
      rintro ⟨⟩
      exact absurd blank (by decide)
    | cons d cs => exact alone
  | @word t w cs ts word ends _ ih =>
    rw [List.append_assoc]
    refine .word word ?_ ih
    cases cs with
    | nil => exact fun d head => Option.some.inj head ▸ .inl blank
    | cons d cs => exact ends

/-- A quoted word is one token. -/
theorem lexed_quoteChars (word : List Char) : Lexed (quoteChars word) [.word word] := by
  have read := (reads_quoteChars word).scan endsWord_nil
  rw [List.append_nil] at read
  exact tokens_eq_ok_iff.1 read

/-! ## Stages -/

/-- A pipe and a line behind a pipeline: the stages stand one after the other, and the redirection
is that of the line. -/
theorem IsPipeline.append {ts ts' : List Token} {stages stages' : List (List String)}
    {redirect : Option Redirect} (h : IsPipeline ts stages) (h' : IsLine ts' stages' redirect) :
    IsLine (ts ++ .pipe :: ts') (stages ++ stages') redirect := by
  induction h with
  | one stage => exact h'.cons stage
  | cons stage _ ih =>
    rw [List.append_assoc]
    exact ih.cons stage

theorem IsStage.appendWord {ts : List Token} {words : List String} (h : IsStage ts words)
    (w : List Char) : IsStage (ts ++ [.word w]) (words ++ [String.ofList w]) := by
  induction h with
  | one v => exact .cons v (.one w)
  | cons v _ ih => exact .cons v ih

/-- A word behind a pipeline belongs to the last stage. -/
theorem IsPipeline.appendWord {ts : List Token} {stages : List (List String)}
    (h : IsPipeline ts stages) (w : List Char) :
    ∃ front last, stages = front ++ [last] ∧
      IsPipeline (ts ++ [.word w]) (front ++ [last ++ [String.ofList w]]) := by
  induction h with
  | @one ts words stage => exact ⟨[], words, rfl, .one (stage.appendWord w)⟩
  | @cons ts ts' words stages stage _ ih =>
    obtain ⟨front, last, rfl, pipeline⟩ := ih
    refine ⟨words :: front, last, rfl, ?_⟩
    rw [List.append_assoc]
    exact .cons stage pipeline

/-! ## Lines -/

theorem isLine_none_iff {ts : List Token} {stages : List (List String)} :
    IsLine ts stages none ↔ IsPipeline ts stages := by
  constructor
  · rintro ⟨pipeline⟩
    exact pipeline
  · exact .plain

/-- A line is accepted as what its tokens are in the grammar. -/
theorem parse_eq_ok_iff_isLine {line : String} {c : CommandLine} :
    CommandLine.parse line = .ok c ↔
      c.elevated = false ∧ ∃ ts, Lexed line.toList ts ∧ IsLine ts c.stages c.redirect := by
  simp only [parse_eq_ok_iff, tokens_eq_ok_iff, assemble_eq_ok_iff]

/-- The tokens of an accepted line without a redirection are those of a pipeline. -/
theorem exists_pipeline {line : String} {c : CommandLine} (parsed : CommandLine.parse line = .ok c)
    (plain : c.redirect = none) : ∃ ts, Lexed line.toList ts ∧ IsPipeline ts c.stages := by
  obtain ⟨-, ts, lexed, isLine⟩ := parse_eq_ok_iff_isLine.1 parsed
  rw [plain] at isLine
  exact ⟨ts, lexed, isLine_none_iff.1 isLine⟩

/-- Behind an accepted line without a redirection, a pipe and another accepted line add the stages
of that line and its redirection; a blank and a quoted word, whatever it holds, add this word to the
last stage and nothing else. -/
theorem parse_append {a : String} {c : CommandLine} (parsed : CommandLine.parse a = .ok c)
    (plain : c.redirect = none) :
    (∀ (b : String) (d : CommandLine), CommandLine.parse b = .ok d →
      CommandLine.parse (a ++ " | " ++ b) = .ok ⟨c.stages ++ d.stages, d.redirect, false⟩) ∧
    ∀ (blank : Char) (x : String), Text.isBlank blank = true →
      ∃ front last, c.stages = front ++ [last] ∧
        CommandLine.parse (a ++ String.singleton blank ++ quote x) =
          .ok ⟨front ++ [last ++ [x]], none, false⟩ := by
  obtain ⟨ts, lexed, pipeline⟩ := exists_pipeline parsed plain
  constructor
  · intro b d parsed'
    obtain ⟨-, ts', lexed', isLine⟩ := parse_eq_ok_iff_isLine.1 parsed'
    refine parse_eq_ok_iff_isLine.2 ⟨rfl, ts ++ .pipe :: ts', ?_, pipeline.append isLine⟩
    have behind : Lexed ('|' :: ' ' :: b.toList) (.pipe :: ts') :=
      .pipe (.blank (by decide) lexed')
    simpa using lexed.append_blank (c := ' ') (by decide) behind
  · intro blank x isBlank
    obtain ⟨front, last, stages, longer⟩ := pipeline.appendWord x.toList
    rw [String.ofList_toList] at longer
    refine ⟨front, last, stages, parse_eq_ok_iff_isLine.2 ⟨rfl, _, ?_, .plain longer⟩⟩
    simpa [quote] using lexed.append_blank isBlank (lexed_quoteChars x.toList)

/-- The first line ends with an escaped pipe right behind a quote, the second is a redirection to a
quoted path, the blank is of another script, and the word is empty. -/
theorem parse_append_awkward :
    CommandLine.parse "'it' \"s\"\\| | tee>>'a b'" =
        .ok ⟨[["it", "s|"], ["tee"]], some ⟨"a b", true⟩, false⟩ ∧
      CommandLine.parse "'it' \"s\"\\|\u2003''" = .ok ⟨[["it", "s|", ""]], none, false⟩ := by
  have parsed : CommandLine.parse "'it' \"s\"\\|" = .ok ⟨[["it", "s|"]], none, false⟩ := by
    decide +kernel
  have composed := parse_append parsed rfl
  constructor
  · exact composed.1 "tee>>'a b'" ⟨[["tee"]], some ⟨"a b", true⟩, false⟩ (by decide +kernel)
  · obtain ⟨front, last, stages, longer⟩ := composed.2 '\u2003' "" (by decide)
    obtain ⟨rfl, rfl⟩ : front = [] ∧ last = ["it", "s|"] := by
      simpa [List.singleton_eq_append_iff] using stages
    exact longer

end ReplicaSeed.Command
