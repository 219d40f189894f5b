import ReplicaSeed.Proofs.Database.SqlText
import ReplicaSeed.Proofs.Method.Plan

/-!
# The mode that is set back

A dump is loaded under a `sql_mode` of its own, which the server must not be left with. Whether the
load succeeds, fails, cannot be started or is cancelled, the mode that was read before is set back
after it; and nothing is loaded unless that mode is known and the one of the load is set.

## Main definitions

* `Mydumper.RestoreCourse`: everything that a Restore of a dump can do.
* `statements`: the statements that the server was given, with what it made of them.
* `Mydumper.SetBack`: what was set for the load is set back after it.

## Main statements

* `Mydumper.restoreCourse_of_path`: a Restore takes one of the courses, whatever the host answers.
* `Mydumper.statements?_setModeStatement`: the server reads the mode that it is given.
* `Mydumper.mode_set_back`: the mode is set back.
-/

namespace ReplicaSeed

open Command

/-! ## What a Restore can do -/

namespace Exchange

/-- The server tells its mode, or cannot. -/
def modeRead (answer : Except DatabaseError String) : Exchange Interface.host :=
  ⟨HostRequest.database .sqlMode, answer⟩

/-- The server is given a mode; it may fail to take it. -/
def modeSet (mode : String) (answer : Except DatabaseError Unit) : Exchange Interface.host :=
  ⟨HostRequest.database (.execute (Mydumper.setModeStatement mode)), answer⟩

@[simp] theorem asked_modeRead (answer : Except DatabaseError String) :
    (modeRead answer).asked = .database .sqlMode := rfl

@[simp] theorem asked_modeSet (mode : String) (answer : Except DatabaseError Unit) :
    (modeSet mode answer).asked = .database (.execute (Mydumper.setModeStatement mode)) := rfl

end Exchange

namespace Mydumper

/-- The mode that a dump is loaded under. -/
def loadMode : String := "NO_AUTO_VALUE_ON_ZERO"

section

variable (site : Site) (config : Config.Mydumper)

/-- Everything that a Restore can do, with what comes of it. Once the mode of the load is set there
is only one way to go on. -/
inductive RestoreCourse : List (Exchange Interface.host) → Except MethodError Unit → Prop
  | unread (e : DatabaseError) : RestoreCourse [.modeRead (.error e)] (.error (.database e))
  | unset (mode : String) (e : DatabaseError) :
    RestoreCourse [.modeRead (.ok mode), .modeSet loadMode (.error e)] (.error (.database e))
  | ended (mode : String) (loaded : Except ExecError Unit) (back : Except DatabaseError Unit) :
    RestoreCourse
      [.modeRead (.ok mode), .modeSet loadMode (.ok ()), .noted "Loading dump",
        site.ran (restoreLine site config) loaded, .modeSet mode back]
      ((loaded.mapError .exec).bind fun _ => back.mapError .database)

end

section

variable {site : Site} {config : Config.Mydumper} {exchanges : List (Exchange Interface.host)}
  {result : Except MethodError Unit}

/-- Whatever the server and the host answer, a Restore takes one of the courses. -/
theorem restoreCourse_of_path (path : (restore site config).Path exchanges result) :
    RestoreCourse site config exchanges result := by
  obtain ⟨e, rfl, rfl⟩ | ⟨mode, rest, rfl, known⟩ := Work.path_database_bind path
  · exact .unread e
  obtain ⟨e, rfl, rfl⟩ | ⟨⟨⟩, rest, rfl, set⟩ := Work.path_database_bind known
  · exact .unset mode e
  obtain ⟨rest, rfl, noted⟩ := Work.path_note_bind set
  obtain ⟨_, load, rest, rfl, loading, path⟩ := Procedure.path_attempt_bind_iff.1 noted
  obtain ⟨_, last, rest, rfl, setting, path⟩ := Procedure.path_attempt_bind_iff.1 path
  obtain ⟨loaded, rfl, rfl⟩ := Site.path_exec loading
  obtain ⟨back, rfl, rfl⟩ := Work.path_database setting
  have ended : RestoreCourse site config _ _ := .ended mode loaded back
  cases loaded with
  | error e =>
    obtain ⟨rfl, rfl⟩ := Procedure.path_fail_iff.1 path
    exact ended
  | ok =>
    cases back with
    | error e =>
      obtain ⟨rfl, rfl⟩ := Procedure.path_fail_iff.1 path
      exact ended
    | ok =>
      obtain ⟨rfl, rfl⟩ := Procedure.path_done_iff.1 path
      exact ended

end

end Mydumper

/-! ## Statements -/

/-- The statement that a request gives to the server, with what the server made of it. -/
def HostRequest.statement? :
    (q : HostRequest) → q.Answer → Option (String × Except DatabaseError Unit)
  | database (.execute statement), answer => some (statement, answer)
  | _, _ => none

/-- The statements that the server was given, with what it made of them. -/
def statements (exchanges : List (Exchange Interface.host)) :
    List (String × Except DatabaseError Unit) :=
  exchanges.filterMap fun x => HostRequest.statement? x.asked x.answer

@[simp] theorem statements_nil : statements [] = [] := rfl

section

variable (exchanges : List (Exchange Interface.host))

@[simp] theorem statements_noted (text : String) :
    statements (.noted text :: exchanges) = statements exchanges := rfl

@[simp] theorem statements_ran (site : Site) (line : Line) (answer : Except ExecError Unit) :
    statements (site.ran line answer :: exchanges) = statements exchanges := rfl

@[simp] theorem statements_modeRead (answer : Except DatabaseError String) :
    statements (.modeRead answer :: exchanges) = statements exchanges := rfl

@[simp] theorem statements_modeSet (mode : String) (answer : Except DatabaseError Unit) :
    statements (.modeSet mode answer :: exchanges) =
      (Mydumper.setModeStatement mode, answer) :: statements exchanges := rfl

end

namespace Mydumper

/-- A mode without apostrophes stands in its statement as it is. -/
theorem setModeStatement_eq {mode : String} (plain : '\'' ∉ mode.toList) :
    setModeStatement mode = "SET GLOBAL sql_mode = '" ++ mode ++ "'" := by
  have kept : Text.replaceChar '\'' [] mode.toList = mode.toList := by
    refine (List.flatMap_congr fun c member => if_neg ?_).trans (List.flatMap_singleton' _)
    rintro rfl
    exact plain member
  have same : String.ofList (Text.replaceChar '\'' [] mode.toList) = mode := by
    rw [kept, String.ofList_toList]
  exact congrArg (fun text => "SET GLOBAL sql_mode = '" ++ text ++ "'") same

/-- The server reads the mode that it is given. A mode is made of names with commas between them,
so that it has no backslashes. -/
theorem statements?_setModeStatement {mode : String} (plain : '\'' ∉ mode.toList)
    (names : '\\' ∉ mode.toList) :
    Sql.statements? (setModeStatement mode) =
      some [[.word "SET", .word "GLOBAL", .word "sql_mode", .mark '=', .literal mode]] := by
  have before : Sql.Reads (.bare []) "SET GLOBAL sql_mode = '".toList
      [.word "SET", .word "GLOBAL", .word "sql_mode", .mark '='] (.quoted '\'' []) := rfl
  have after : Sql.Reads (.quoted '\'' mode.toList) "'".toList [] (.closing '\'' mode.toList) := rfl
  have all := (before.append_string (Sql.reads_plain plain names [])).append_string after
  rw [← setModeStatement_eq plain] at all
  rw [all.statements?_eq rfl]
  simp only [String.ofList_toList]
  rfl

/-- What was set for the load is set back after it. -/
structure SetBack (site : Site) (config : Config.Mydumper)
    (exchanges : List (Exchange Interface.host)) (result : Except MethodError Unit) : Prop where
  /-- Once the mode of the load is set, the dump is loaded, and however that ends the mode that was
  read before is set back. A failed load is what is reported. -/
  back : (statements exchanges).head? = some (setModeStatement loadMode, .ok ()) →
    ∃ mode loaded back,
      exchanges = [.modeRead (.ok mode), .modeSet loadMode (.ok ()), .noted "Loading dump",
        site.ran (restoreLine site config) loaded, .modeSet mode back] ∧
      result = (loaded.mapError .exec).bind fun _ => back.mapError .database
  /-- Otherwise nothing is loaded, and there is nothing to be set back. -/
  unloaded : (statements exchanges).head? ≠ some (setModeStatement loadMode, .ok ()) →
    (∀ x ∈ exchanges, x.asked.command? = none) ∧
    (∀ st ∈ statements exchanges, st.1 = setModeStatement loadMode) ∧
    (statements exchanges).length ≤ 1 ∧
    ∃ e, exchanges.findSome? (·.failure?) = some (.database e) ∧ result = .error (.database e)

/-- In each course the mode is set back. -/
theorem RestoreCourse.setBack {site : Site} {config : Config.Mydumper}
    {exchanges : List (Exchange Interface.host)} {result : Except MethodError Unit}
    (h : RestoreCourse site config exchanges result) : SetBack site config exchanges result where
  back entered := by
    cases h with
    | unread e => simp at entered
    | unset mode e => simp at entered
    | ended mode loaded back => exact ⟨mode, loaded, back, rfl, rfl⟩
  unloaded refused := by
    cases h with
    | unread e => exact ⟨by simp [HostRequest.command?], by simp, by simp, e, rfl, rfl⟩
    | unset mode e => exact ⟨by simp [HostRequest.command?], by simp, by simp, e, rfl, rfl⟩
    | ended mode loaded back => simp at refused

/-- Whatever the server and the host answer, a Restore comes to an end where the mode is set back.
A mode without apostrophes stands in the statement as it was, and if it has no backslash either, the
server reads it as it was. With a backslash in it, only the text of the statement is told, and not
what the server makes of it. -/
theorem mode_set_back {σ : Type} (methods : Config.Methods) (site : Site) (side : Side)
    (w : Surroundings Interface.host σ) (s : σ) :
    SetBack site methods.mydumper
      ((methods.stage site .mydumper side .restore).runIn w s).exchanges
      ((methods.stage site .mydumper side .restore).runIn w s).result ∧
    ∀ mode, '\'' ∉ mode.toList →
      setModeStatement mode = "SET GLOBAL sql_mode = '" ++ mode ++ "'" ∧
      ('\\' ∉ mode.toList → Sql.statements? (setModeStatement mode) =
        some [[.word "SET", .word "GLOBAL", .word "sql_mode", .mark '=', .literal mode]]) := by
  have course := restoreCourse_of_path
    (Procedure.path_runIn w (methods.stage site .mydumper side .restore) s)
  exact ⟨course.setBack, fun mode plain =>
    ⟨setModeStatement_eq plain, statements?_setModeStatement plain⟩⟩

/-- The load is cancelled. The mode is set back all the same, and it is the load that is blamed. -/
theorem mode_set_back_cancelled :
    let w : Surroundings Interface.host Unit := .stateless fun
      | .database .sqlMode => .ok "STRICT_TRANS_TABLES"
      | .database (.execute _) => .ok ()
      | .exec .. => .error (.cancelled "myloader")
      | q => HostRequest.answerBy (fun _ => .ok ()) q
    let out := (({} : Config.Methods).stage {} .mydumper .target .restore).runIn w ()
    (∃ mode loaded back,
      out.exchanges = [.modeRead (.ok mode), .modeSet loadMode (.ok ()), .noted "Loading dump",
        Site.ran {} (restoreLine {} {}) loaded, .modeSet mode back] ∧
      out.result = (loaded.mapError .exec).bind fun _ => back.mapError .database) ∧
    out.result = .error (.exec (.cancelled "myloader")) ∧
    setModeStatement "STRICT_TRANS_TABLES" = "SET GLOBAL sql_mode = 'STRICT_TRANS_TABLES'" ∧
    Sql.statements? (setModeStatement "STRICT_TRANS_TABLES") =
      some [[.word "SET", .word "GLOBAL", .word "sql_mode", .mark '=',
        .literal "STRICT_TRANS_TABLES"]] := by
  intro w out
  have run := mode_set_back {} {} .target w ()
  have plain : '\'' ∉ "STRICT_TRANS_TABLES".toList := by decide
  have names : '\\' ∉ "STRICT_TRANS_TABLES".toList := by decide
  have text := run.2 "STRICT_TRANS_TABLES" plain
  exact ⟨run.1.back rfl, rfl, text.1.trans (by decide +kernel), text.2 names⟩

end Mydumper

end ReplicaSeed
