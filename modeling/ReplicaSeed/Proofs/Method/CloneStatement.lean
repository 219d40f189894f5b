import ReplicaSeed.Proofs.Database.SqlText
import ReplicaSeed.Proofs.Method.Commands
import ReplicaSeed.Proofs.Method.Plan

/-!
# The statements of a clone

A target that clones its source gives its server two statements in one word of a command. Hosts,
accounts and passwords pass through two layers of quotes on the way there: they are literals of a
statement, and the statement is a word of a command line. None of them can end its literal or its
word early, and the server reads each of them as it is.

## Main definitions

* `ClonePlugin.cloneTokens`: the two statements that are meant.

## Main statements

* `ClonePlugin.reads_quotedLiteral`: a text is read back from its literal.
* `ClonePlugin.statements?_cloneStatement`: the server reads the two statements.
* `ClonePlugin.clone_statements_read`: so it does after the command line was read.
-/

namespace ReplicaSeed

open Command

namespace ClonePlugin

/-! ## Literals -/

/-- The text of a literal has its backslashes and apostrophes doubled. -/
theorem toList_literal (value : String) : (literal value).toList = Sql.doubled value.toList := by
  rw [literal, String.toList_ofList, Text.replaceChar, Text.replaceChar, List.flatMap_assoc,
    Sql.doubled]
  refine List.flatMap_congr fun c _ => ?_
  by_cases back : c = '\\'
  · subst back
    rfl
  · by_cases quote : c = '\''
    · subst quote
      rfl
    · simp [back, quote]

/-- A text is read back from its literal, whatever it holds. -/
theorem reads_quotedLiteral (value : String) :
    Sql.Reads (.bare []) (quotedLiteral value).toList [] (.closing '\'' value.toList) := by
  have chars : (quotedLiteral value).toList = '\'' :: (Sql.doubled value.toList ++ ['\'']) := by
    simp [quotedLiteral, toList_literal]
  rw [chars]
  exact Sql.reads_literal value.toList

/-- The digits of a port are one word. -/
theorem reads_portText (port : UInt16) :
    Sql.Reads (.bare []) (Site.portText port).toList [] (.bare (Site.portText port).toList) := by
  refine Sql.reads_word (fun c member => ?_) []
  rw [Site.portText_eq, Nat.toString_eq_repr, Nat.toList_repr] at member
  simp [Sql.isWordChar, Char.isAlphanum,
    Nat.isDigit_of_mem_toDigits (by decide) (by decide) member]

theorem toList_portText_ne_nil (port : UInt16) : (Site.portText port).toList ≠ [] := by
  rw [Site.portText_eq, Nat.toString_eq_repr, Nat.toList_repr]
  exact Nat.toDigits_ne_nil

/-! ## The two statements -/

variable (site : Site) (host : String) (port : UInt16)

/-- The statements that are meant: the source may be cloned from, and is. -/
def cloneTokens : List (List Sql.Token) :=
  [[.word "SET", .word "GLOBAL", .word "clone_valid_donor_list", .mark '=',
      .literal (host ++ ":" ++ toString port.toNat)],
    [.word "CLONE", .word "INSTANCE", .word "FROM", .literal site.mysql.seedUser, .mark '@',
      .literal host, .mark ':', .word (toString port.toNat), .word "IDENTIFIED", .word "BY",
      .literal site.mysql.seedPassword]]

/-- The server reads the two statements, whatever the values are. -/
theorem statements?_cloneStatement :
    Sql.statements? (cloneStatement site host port) = some (cloneTokens site host port) := by
  have donor : Sql.Reads (.bare []) "SET GLOBAL clone_valid_donor_list = ".toList
      [.word "SET", .word "GLOBAL", .word "clone_valid_donor_list", .mark '='] (.bare []) := rfl
  -- what follows on a value is no apostrophe, so that the one before it was the end of the value
  have user (value : List Char) : Sql.Reads (.closing '\'' value) "; CLONE INSTANCE FROM ".toList
      [.literal (.ofList value), .mark ';', .word "CLONE", .word "INSTANCE", .word "FROM"]
      (.bare []) := rfl
  have donorHost (value : List Char) : Sql.Reads (.closing '\'' value) "@".toList
      [.literal (.ofList value), .mark '@'] (.bare []) := rfl
  have donorPort (value : List Char) : Sql.Reads (.closing '\'' value) ":".toList
      [.literal (.ofList value), .mark ':'] (.bare []) := rfl
  have password : Sql.Reads (.bare (Site.portText port).toList) " IDENTIFIED BY ".toList
      [.word (String.ofList (Site.portText port).toList), .word "IDENTIFIED", .word "BY"]
      (.bare []) :=
    Sql.Reads.cons (Sql.step_blank (toList_portText_ne_nil port)) rfl
  have all : Sql.Reads (.bare []) (cloneStatement site host port).toList _ _ :=
    donor.append_string (reads_quotedLiteral _)
      |>.append_string (user _) |>.append_string (reads_quotedLiteral _)
      |>.append_string (donorHost _) |>.append_string (reads_quotedLiteral _)
      |>.append_string (donorPort _) |>.append_string (reads_portText port)
      |>.append_string password |>.append_string (reads_quotedLiteral _)
  rw [all.statements?_eq rfl]
  simp only [String.ofList_toList, Site.portText_eq]
  rfl

/-- An account that seems to end its literal and the statement, and a password that seems to escape
the end of its own. -/
example :
    let site : Site := { mysql := { seedUser := "';'", seedPassword := "\\" } }
    (Sql.statements? (cloneStatement site "db" 3306)).map List.length = some 2 := by
  decide +kernel

/-! ## The command -/

/-- A Backup of a target reports what it clones, runs one command, and is done. The last word of
that command is what the server is given, and it reads the two statements. -/
theorem clone_statements_read {σ : Type} (methods : Config.Methods)
    (w : Surroundings Interface.host σ) (s : σ) :
    ∃ words answer,
      ((methods.stage site .clonePlugin .target (.backup host port)).runIn w s).exchanges =
        [.noted ("Cloning from " ++ host ++ ":" ++ Site.portText port),
          site.ran (cloneLine site host port) answer] ∧
      CommandLine.parse (Line.text (cloneLine site host port)) = .ok (.single words) ∧
      words.getLast?.bind Sql.statements? = some (cloneTokens site host port) := by
  have path := Procedure.path_runIn w
    (methods.stage site .clonePlugin .target (.backup host port)) s
  obtain ⟨rest, exchanges, cloning⟩ := Work.path_note_bind path
  obtain ⟨answer, rfl, -⟩ := Site.path_exec cloning
  refine ⟨"mysql" :: site.localClientWords ++ ["-e"] ++ [cloneStatement site host port], answer,
    exchanges, ?_, ?_⟩
  · have wellFormed := Template.wellFormed_of_isPlain (isPlain_cloneLine site host port)
    have stands : (cloneLine site host port).commandLine = .single
        ("mysql" :: site.localClientWords ++ ["-e"] ++ [cloneStatement site host port]) := by
      simp [cloneLine, Template.commandLine_single, Site.meaning_localClientArgs]
    rw [← stands]
    exact Template.parse_text wellFormed
  · rw [List.getLast?_concat, Option.bind_some, statements?_cloneStatement]

end ClonePlugin

end ReplicaSeed
