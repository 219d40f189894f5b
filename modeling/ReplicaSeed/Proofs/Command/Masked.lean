import ReplicaSeed.Command.Masking
import ReplicaSeed.Proofs.Text.Search

/-!
# What masks hide

What a message shows of a line does not depend on the passwords in it: whatever stands behind
`--password=`, or behind the first credential clause of a statement, leaves the masked word as it
is.

## Main definitions

* `CommandLine.face`: the programs and the masked words of a line, and its redirection.

## Main statements

* `maskWord_password`, `maskWord_credentials`: the value of an option and the end of a statement.
* `CommandLine.display_eq_of_face`: the face of a line decides about its text for messages.
* `CommandLine.face_elevate`: so it does when the line is elevated.
-/

namespace ReplicaSeed

namespace Command

/-! ## Words -/

/-- Nothing is left of the value of the option `--password`. -/
theorem maskWord_password (value : List Char) :
    maskWord ("--password=".toList ++ value) = "--password=****".toList := rfl

theorem maskOption?_eq_none {word : List Char} (noOption : word.head? ≠ some '-') :
    maskOption? word = none := by
  unfold maskOption?
  split
  · rename_i flag value found
    rw [Text.append_of_splitOnce? found] at noOption
    refine if_neg ?_
    rintro (rfl | rfl) <;> exact noOption rfl
  · rfl

theorem maskShortOption?_eq_none {word : List Char} (noOption : word.head? ≠ some '-') :
    maskShortOption? word = none := by
  unfold maskShortOption?
  split
  · exact absurd rfl noOption
  · rfl

/-- Nothing is left of what follows a credential clause in a word that is no option. -/
theorem maskWord_credentials {start : List Char} (noOption : start.head? ≠ some '-')
    (rest rest' : List Char) :
    maskWord (start ++ credentialClause ++ rest) =
      maskWord (start ++ credentialClause ++ rest') := by
  obtain ⟨before, found⟩ := Text.cut?_append credentialClause start
  have masked (rest : List Char) :
      maskWord (start ++ credentialClause ++ rest) = before ++ credentialClause ++ ' ' :: mask := by
    obtain ⟨after, clause⟩ := found rest
    have noOption : (start ++ credentialClause ++ rest).head? ≠ some '-' := by
      cases start with
      | nil => exact of_decide_eq_true rfl
      | cons c start => simpa using noOption
    rw [maskWord, maskOption?_eq_none noOption, maskShortOption?_eq_none noOption, maskClause?,
      clause]
    rfl
  rw [masked rest, masked rest']

/-! ## Lines -/

/-- A word as messages show it. -/
def masked (word : String) : String := String.ofList (maskWord word.toList)

theorem masked_password (value : String) :
    masked ("--password=" ++ value) = "--password=****" := by
  rw [masked, String.toList_append, maskWord_password, String.ofList_toList]

theorem toList_credentials (start rest : String) :
    (start ++ " IDENTIFIED BY " ++ rest).toList =
      (start.toList ++ [' ']) ++ credentialClause ++ ' ' :: rest.toList := by
  have clause : " IDENTIFIED BY ".toList = ' ' :: (credentialClause ++ [' ']) := rfl
  simp only [String.toList_append, clause, List.append_assoc, List.cons_append, List.nil_append]

theorem masked_credentials {start : String} (noOption : start.toList.head? ≠ some '-')
    (rest rest' : String) :
    masked (start ++ " IDENTIFIED BY " ++ rest) = masked (start ++ " IDENTIFIED BY " ++ rest') := by
  have plain : (start.toList ++ [' ']).head? ≠ some '-' := by
    cases chars : start.toList with
    | nil => simp
    | cons c cs => simpa [chars] using noOption
  simp only [masked, toList_credentials]
  exact congrArg String.ofList (maskWord_credentials plain _ _)

/-- The program of a stage, and its words as messages show them. -/
def stageFace (words : List String) : Option String × List String :=
  (words.head?, words.map masked)

/-- What messages show of a line, with its programs. -/
structure LineFace where
  stages : List (Option String × List String)
  redirect : Option Redirect
  elevated : Bool
  deriving DecidableEq, Repr

namespace CommandLine

/-- The face of a line. -/
def face (c : CommandLine) : LineFace := ⟨c.stages.map stageFace, c.redirect, c.elevated⟩

/-- What is told of each stage by its face alone is the same for lines of one face. -/
theorem map_stages_eq {β : Type} {c c' : CommandLine} (same : c.face = c'.face)
    {f : List String → β} (g : Option String × List String → β)
    (tells : ∀ words, f words = g (stageFace words)) : c.stages.map f = c'.stages.map f := by
  have stages : c.stages.map stageFace = c'.stages.map stageFace := congrArg LineFace.stages same
  have mapped := congrArg (List.map g) stages
  rw [List.map_map, List.map_map] at mapped
  have split : f = g ∘ stageFace := funext tells
  rw [split, mapped]

/-- The text of a line for messages is told by its face. -/
theorem display_eq_of_face {c c' : CommandLine} (same : c.face = c'.face) :
    c.display = c'.display := by
  have stages : c.stages.map stageText = c'.stages.map stageText :=
    map_stages_eq same (fun s => " ".intercalate s.2) fun _ => rfl
  have redirect : c.redirect = c'.redirect := congrArg LineFace.redirect same
  rw [display, display, stages, redirect]

/-- Elevated lines of one face have one face. -/
theorem face_elevate {c c' : CommandLine} (same : c.face = c'.face) :
    c.elevate.face = c'.elevate.face := by
  have elevated : c.elevated = c'.elevated := congrArg LineFace.elevated same
  have redirect : c.redirect = c'.redirect := congrArg LineFace.redirect same
  unfold elevate
  rw [← elevated]
  split
  · exact same
  · have stages : c.stages.map (fun words => stageFace (elevation ++ words)) =
        c'.stages.map (fun words => stageFace (elevation ++ words)) :=
      map_stages_eq same (fun s => (some "sudo", ["sudo", "-n"] ++ s.2)) fun _ => rfl
    simpa [face, redirect, Function.comp_def] using stages

end CommandLine

end Command

end ReplicaSeed
