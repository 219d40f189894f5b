import ReplicaSeed.Proofs.Method.Following

/-!
# The exchanges of a stage

Single exchanges with a host, and what the paths through work begin with: where a request can fail,
it is answered by a failure, which ends the work, or the work goes on.

## Main definitions

* `Exchange.noted`, `Exchange.wrote`, `Site.ran`: exchanges.

## Main statements

* `Work.path_database_bind`, `Site.path_exec_bind`: what follows on a request that can fail.
-/

namespace ReplicaSeed

/-! ## Single exchanges -/

namespace Exchange

/-- A report of progress. -/
def noted (text : String) : Exchange Interface.host := ⟨HostRequest.note text, ()⟩

/-- A file is written, or cannot be. -/
def wrote (path content : String) (answer : Except FileFault Unit) : Exchange Interface.host :=
  ⟨HostRequest.writeFile path content, answer⟩

@[simp] theorem asked_noted (text : String) : (noted text).asked = .note text := rfl

@[simp] theorem asked_wrote (path content : String) (answer : Except FileFault Unit) :
    (wrote path content answer).asked = .writeFile path content := rfl

end Exchange

/-- A command of the stage, with how it has ended. -/
def Site.ran (site : Site) (line : Line) (answer : Except ExecError Unit) :
    Exchange Interface.host :=
  ⟨HostRequest.exec line site.execWithSudo, answer⟩

@[simp] theorem Site.asked_ran (site : Site) (line : Line) (answer : Except ExecError Unit) :
    (site.ran line answer).asked = .exec line site.execWithSudo := rfl

/-! ## What follows on them -/

section

variable {site : Site} {exchanges : List (Exchange Interface.host)}
  {result : Except MethodError Unit}

theorem Work.path_note_bind {text : String} {f : Unit → Work Unit}
    (path : (note text >>= f).Path exchanges result) :
    ∃ rest, exchanges = .noted text :: rest ∧ (f ()).Path rest result := by
  obtain ⟨⟨⟩, rest, rfl, after⟩ := Procedure.path_ask_iff.1 path
  exact ⟨rest, rfl, after⟩

theorem Work.path_writeFile_bind {file content : String} {f : Unit → Work Unit}
    (path : (writeFile file content >>= f).Path exchanges result) :
    (∃ fault, exchanges = [.wrote file content (.error fault)] ∧
      result = .error (.io file fault.message)) ∨
    ∃ rest, exchanges = .wrote file content (.ok ()) :: rest ∧ (f ()).Path rest result := by
  obtain ⟨answer, rest, rfl, after⟩ := Procedure.path_ask_iff.1 path
  cases answer with
  | error fault =>
    obtain ⟨rfl, rfl⟩ := Procedure.path_fail_iff.1 after
    exact .inl ⟨fault, rfl, rfl⟩
  | ok => exact .inr ⟨rest, rfl, after⟩

theorem Site.path_exec {line : Line} (path : (site.exec line).Path exchanges result) :
    ∃ answer, exchanges = [site.ran line answer] ∧ result = answer.mapError .exec := by
  obtain ⟨answer, rest, rfl, after⟩ := Procedure.path_ask_iff.1 path
  cases answer with
  | error e =>
    obtain ⟨rfl, rfl⟩ := Procedure.path_fail_iff.1 after
    exact ⟨.error e, rfl, rfl⟩
  | ok =>
    obtain ⟨rfl, rfl⟩ := Procedure.path_done_iff.1 after
    exact ⟨.ok (), rfl, rfl⟩

theorem Work.path_database {call : Database.Call} {result : Except MethodError call.Answer}
    (path : (database call).Path exchanges result) :
    ∃ answer, exchanges = [⟨HostRequest.database call, answer⟩] ∧
      result = answer.mapError .database := by
  obtain ⟨answer, rest, rfl, after⟩ := Procedure.path_ask_iff.1 path
  cases answer with
  | error e =>
    obtain ⟨rfl, rfl⟩ := Procedure.path_fail_iff.1 after
    exact ⟨.error e, rfl, rfl⟩
  | ok a =>
    obtain ⟨rfl, rfl⟩ := Procedure.path_done_iff.1 after
    exact ⟨.ok a, rfl, rfl⟩

/-- What follows on an answer of the server. -/
theorem Work.path_database_bind {call : Database.Call} {f : call.Answer → Work Unit}
    (path : (database call >>= f).Path exchanges result) :
    (∃ e, exchanges = [⟨HostRequest.database call, .error e⟩] ∧ result = .error (.database e)) ∨
    ∃ a rest, exchanges = ⟨HostRequest.database call, .ok a⟩ :: rest ∧ (f a).Path rest result := by
  obtain ⟨answer, rest, rfl, after⟩ := Procedure.path_ask_iff.1 path
  cases answer with
  | error e =>
    obtain ⟨rfl, rfl⟩ := Procedure.path_fail_iff.1 after
    exact .inl ⟨e, rfl, rfl⟩
  | ok a => exact .inr ⟨a, rest, rfl, after⟩

/-- What follows on a command of the stage. -/
theorem Site.path_exec_bind {line : Line} {f : Unit → Work Unit}
    (path : (site.exec line >>= f).Path exchanges result) :
    (∃ e, exchanges = [⟨HostRequest.exec line site.execWithSudo, .error e⟩] ∧
      result = .error (.exec e)) ∨
    ∃ rest, exchanges = ⟨HostRequest.exec line site.execWithSudo, .ok ()⟩ :: rest ∧
      (f ()).Path rest result := by
  obtain ⟨answer, rest, rfl, after⟩ := Procedure.path_ask_iff.1 path
  cases answer with
  | error e =>
    obtain ⟨rfl, rfl⟩ := Procedure.path_fail_iff.1 after
    exact .inl ⟨e, rfl, rfl⟩
  | ok => exact .inr ⟨rest, rfl, after⟩

end

end ReplicaSeed
