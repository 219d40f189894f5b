import ReplicaSeed.Execution.Runner

/-!
# How a command ends

A line of which not all stages can be started fails at once. When its stages have run, it fails if
it was to be cancelled, and else if one of them has failed: the first of those gives the exit code.

## Main definitions

* `Pipeline.Refuses`: why a line was not started.
* `Pipeline.Ends`: how the line of a started process ends.

## Main statements

* `Pipeline.settle_ok_iff`, `Pipeline.settle_of_failure`: when a pipeline fails, and with what.
* `Machine.track_result`: what becomes of a line whose process is reported.
-/

namespace ReplicaSeed

namespace Pipeline

/-- Why a line was not started: it is no command, its file cannot be opened, or a program cannot be
started. -/
inductive Refuses (line : String) (elevate : Bool) : ExecError → Prop
  | misread {e : ExecError} (read : Pipeline.read line elevate = .error e) : Refuses line elevate e
  | unopened {p : Pipeline} (read : Pipeline.read line elevate = .ok p) (cause : String) :
    Refuses line elevate (.io p.command cause)
  | unspawned {p : Pipeline} (read : Pipeline.read line elevate = .ok p) {words : List String}
      (stage : words ∈ p.stages) (cause : String) :
    Refuses line elevate (.spawn (words.headD "") cause)

/-- How a line ends whose stages were started, and whose process may have been cancelled. Each stage
has ended in some way. -/
def Ends (line : String) (elevate cancelled : Bool) (result : Except ExecError Unit) : Prop :=
  ∃ p runs, Pipeline.read line elevate = .ok p ∧ runs.length = p.stages.length ∧
    result = (p.settle cancelled runs).map fun _ => ()

variable {p : Pipeline} {line : String} {elevate cancelled : Bool} {runs : List StageRun}

theorem isCancelled_of_read {e : ExecError} (read : Pipeline.read line elevate = .error e) :
    e.isCancelled = false := by
  unfold Pipeline.read at read
  split at read
  · cases read
    rfl
  · cases read

/-- What is not started is not cancelled. -/
theorem Refuses.isCancelled {e : ExecError} (h : Refuses line elevate e) :
    e.isCancelled = false := by
  cases h with
  | misread read => exact isCancelled_of_read read
  | unopened => rfl
  | unspawned => rfl

theorem firstFailure?_eq_none :
    firstFailure? runs = none ↔ ∀ r ∈ runs, r.exit.isSuccess = true := by
  simp [firstFailure?]

/-- A pipeline succeeds exactly if it was not cancelled and all of its stages have succeeded. -/
theorem settle_ok_iff :
    (∃ output, p.settle cancelled runs = .ok output) ↔
      cancelled = false ∧ ∀ r ∈ runs, r.exit.isSuccess = true := by
  rw [← firstFailure?_eq_none]
  unfold settle
  cases cancelled <;> cases firstFailure? runs <;> simp

/-- The first stage that failed gives the exit code. -/
theorem settle_of_failure {before after : List StageRun} {r : StageRun}
    (fine : ∀ b ∈ before, b.exit.isSuccess = true) (failed : r.exit.isSuccess = false) :
    p.settle false (before ++ r :: after) =
      .error (.failed p.command r.exit.code? (errorText (errors (before ++ r :: after)))) := by
  have first : firstFailure? (before ++ r :: after) = some r := by
    rw [firstFailure?, List.find?_append, List.find?_eq_none.2 (by simpa using fine)]
    simp [failed]
  simp [settle, first]

theorem settle_cancelled : p.settle true runs = .error (.cancelled p.command) := rfl

/-- A line ends cancelled exactly if its process was. -/
theorem Ends.isCancelled_iff {result : Except ExecError Unit}
    (h : Ends line elevate cancelled result) :
    (∃ e, result = .error e ∧ e.isCancelled = true) ↔ cancelled = true := by
  obtain ⟨p, runs, -, -, rfl⟩ := h
  unfold settle
  cases cancelled with
  | true => simp [Except.map, ExecError.isCancelled]
  | false => cases firstFailure? runs <;> simp [Except.map, ExecError.isCancelled]

end Pipeline

namespace Machine

variable {σ : Type} (m : Machine σ)

theorem length_runStages (limit : Option Nat) (stages : List (List String)) (input : Flow) (s : σ) :
    (m.runStages limit stages input s).1.length = stages.length := by
  induction stages generalizing input s with
  | nil => rfl
  | cons words rest ih =>
    simp only [runStages]
    split <;> simp [ih]

/-- A launch is refused, or all stages run. -/
theorem launch_refuses {line : String} {elevate : Bool} {p : Pipeline}
    (read : Pipeline.read line elevate = .ok p) (limit : Option Nat) (s : σ) :
    (∃ e after, m.launch limit p s = (.error e, after) ∧ Pipeline.Refuses line elevate e) ∨
    ∃ runs after, m.launch limit p s = (.ok runs, after) ∧ runs.length = p.stages.length := by
  unfold launch
  cases opened : m.openSink p s with
  | error e =>
    refine .inl ⟨e, s, rfl, ?_⟩
    unfold openSink at opened
    split at opened
    · split at opened
      · cases opened
      · cases opened
        exact .unopened read _
    · cases opened
  | ok s' =>
    simp only
    cases refused : m.refusal p.stages s' with
    | some e =>
      refine .inl ⟨e, s', rfl, ?_⟩
      obtain ⟨words, stage, found⟩ := List.exists_of_findSome?_eq_some refused
      obtain ⟨cause, -, rfl⟩ := Option.map_eq_some_iff.1 found
      exact .unspawned read stage cause
    | none => exact .inr ⟨_, _, rfl, m.length_runStages ..⟩

/-- A line whose process is reported is refused, or it ends as its stages have ended; it is
cancelled if its watcher wants so. -/
theorem track_result (line : String) (elevate cancel : Bool) (s : σ) :
    ∃ result, (m.track (if cancel then .cancel else .wait) line elevate s).1.result = some result ∧
      ((∃ e, result = .error e ∧ Pipeline.Refuses line elevate e) ∨
        Pipeline.Ends line elevate cancel result) := by
  cases read : Pipeline.read line elevate with
  | error e => exact ⟨.error e, by simp [track, read], .inl ⟨e, rfl, .misread read⟩⟩
  | ok p =>
    obtain ⟨e, after, launched, refuses⟩ | ⟨runs, after, launched, length⟩ :=
      m.launch_refuses read none s
    · exact ⟨.error e, by simp [track, read, launched], .inl ⟨e, rfl, refuses⟩⟩
    · refine ⟨(p.settle cancel runs).map fun _ => (), ?_, .inr ⟨p, runs, read, length, rfl⟩⟩
      cases cancel <;> simp [track, read, launched, HostProcess.cancel]

end Machine

end ReplicaSeed
