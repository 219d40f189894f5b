import Mathlib.Data.List.Forall2
import ReplicaSeed.Method.ClonePlugin
import ReplicaSeed.Proofs.Method.Path

/-!
# Following a plan

What it means to follow a plan step by step: the steps are performed in their order, the first one
that fails ends the work with its failure, and then nothing is done but to undo what that step
stands under.

## Main definitions

* `HostRequest.answerBy`: a host that is told how its commands end.
* `PlannedStep`: a step, with what is done when it has failed.
* `HostRequest.failure?`: the failure that an answer stands for.
* `Follows`: exchanges and a result that follow a plan.
* `Carries`: work that follows a plan whatever the answers are.

## Main statements

* `Follows.ok_iff`, `Follows.result_eq`: the result is the failure of the first step that failed.
* `Follows.plain`: without anything to undo nothing comes after a failure.
* `Carries.bind`, `Carries.undoing`: work that is put together.
-/

namespace ReplicaSeed

/-! ## Hosts -/

/-- The answers of a host where a command ends as `run` says. Its server lets itself be locked, and
files can be written; apart from that there is nothing. -/
def HostRequest.answerBy (run : Line → Except ExecError Unit) : (q : HostRequest) → q.Answer
  | note _ => ()
  | exec line _ => run line
  | capture line _ => (run line).map fun _ => ⟨[], []⟩
  | probe .. => none
  | database .lock => .ok .zero
  | database .unlock => .ok ()
  | database _ => .error .disconnected
  | probeDatabase .. => none
  | readFile _ => .error .notFound
  | writeFile .. => .ok ()

/-- A host without a state of its own. -/
def Surroundings.stateless (answer : (q : HostRequest) → q.Answer) :
    Surroundings Interface.host Unit :=
  fun q u => (answer q, u)

/-! ## Steps -/

/-- The failure that an answer stands for. A plugin that is not active is as good as none. -/
def HostRequest.failure? : (q : HostRequest) → q.Answer → Option MethodError
  | exec .., .error e => some (.exec e)
  | capture .., .error e => some (.exec e)
  | database _, .error e => some (.database e)
  | database (.pluginStatus _), .ok status =>
    if ClonePlugin.isActive status then none else some (.config "clone plugin is not active")
  | readFile path, .error fault => some (.ofFileFault path fault)
  | writeFile path _, .error fault => some (.io path fault.message)
  | _, _ => none

/-- What was asked of the host. -/
def Exchange.asked (x : Exchange Interface.host) : HostRequest := x.request

/-- The failure of an exchange, if it has failed. -/
def Exchange.failure? (x : Exchange Interface.host) : Option MethodError :=
  HostRequest.failure? x.asked x.answer

/-- The request runs a command for its output. -/
def HostRequest.isCapture : HostRequest → Bool
  | capture .. => true
  | _ => false

/-- The command of a stage that the request runs. -/
def HostRequest.command? : HostRequest → Option Line
  | exec line _ => some line
  | _ => none

/-- A step of a plan. -/
structure PlannedStep where
  request : HostRequest
  /-- What is done when the step has failed. -/
  undo : Option HostRequest := none
  /-- The step only looks whether something is there, so that its failure is an answer as well. -/
  probes : Bool := false
  deriving DecidableEq, Repr

namespace PlannedStep

/-- A report of progress. -/
def note (text : String) : PlannedStep := { request := .note text }

/-- A call to the server. -/
def database (call : Database.Call) : PlannedStep := { request := .database call }

/-- A file is written. -/
def writeFile (path content : String) : PlannedStep := { request := .writeFile path content }

/-- A command of the stage. -/
def exec (site : Site) (line : Line) : PlannedStep :=
  { request := .exec line site.execWithSudo }

/-- A look whether something is there: it is if the command succeeds. -/
def look (site : Site) (line : Line) : PlannedStep :=
  { request := .capture line site.execWithSudo, probes := true }

/-- The step where `q` is done when it has failed. -/
def undoneBy (step : PlannedStep) (q : HostRequest) : PlannedStep := { step with undo := some q }

@[simp] theorem undo_undoneBy (step : PlannedStep) (q : HostRequest) :
    (step.undoneBy q).undo = some q := rfl

@[simp] theorem probes_undoneBy (step : PlannedStep) (q : HostRequest) :
    (step.undoneBy q).probes = step.probes := rfl

@[simp] theorem request_undoneBy (step : PlannedStep) (q : HostRequest) :
    (step.undoneBy q).request = step.request := rfl

/-- Nothing is to be undone, and a failure is a failure. -/
def Plain (step : PlannedStep) : Prop :=
  step.undo = none ∧ step.probes = false ∧ step.request.isCapture = false

@[simp] theorem plain_note (text : String) : (note text).Plain := ⟨rfl, rfl, rfl⟩

@[simp] theorem plain_database (call : Database.Call) : (database call).Plain := ⟨rfl, rfl, rfl⟩

@[simp] theorem plain_writeFile (path content : String) : (writeFile path content).Plain :=
  ⟨rfl, rfl, rfl⟩

@[simp] theorem plain_exec (site : Site) (line : Line) : (exec site line).Plain := ⟨rfl, rfl, rfl⟩

/-- The exchange is that of the step, and the plan goes on after it. -/
def Passes (step : PlannedStep) (x : Exchange Interface.host) : Prop :=
  x.asked = step.request ∧ (step.probes = true ∨ x.failure? = none)

end PlannedStep

/-- The exchanges and the result of work that follows a plan. -/
inductive Follows :
    List PlannedStep → List (Exchange Interface.host) → Except MethodError Unit → Prop
  | finished {steps : List PlannedStep} {exchanges : List (Exchange Interface.host)}
      (passed : List.Forall₂ PlannedStep.Passes steps exchanges) : Follows steps exchanges (.ok ())
  /-- A step has failed. The steps after it are not performed. -/
  | stopped {before rest : List PlannedStep} {step : PlannedStep}
      {exchanges undone : List (Exchange Interface.host)} {x : Exchange Interface.host}
      {e : MethodError} (passed : List.Forall₂ PlannedStep.Passes before exchanges)
      (asked : x.asked = step.request) (must : step.probes = false)
      (failed : x.failure? = some e) (undoes : undone.map (·.asked) = step.undo.toList) :
      Follows (before ++ step :: rest) (exchanges ++ x :: undone) (.error e)

/-- The failure of the first step that has failed, apart from those that only look. -/
def firstFailure? (steps : List PlannedStep) (exchanges : List (Exchange Interface.host)) :
    Option MethodError :=
  (steps.zip exchanges).findSome? fun (step, x) => if step.probes then none else x.failure?

theorem firstFailure?_of_passed {steps : List PlannedStep}
    {exchanges : List (Exchange Interface.host)}
    (passed : List.Forall₂ PlannedStep.Passes steps exchanges) :
    firstFailure? steps exchanges = none := by
  refine List.findSome?_eq_none_iff.2 ?_
  rintro ⟨step, x⟩ member
  obtain ⟨-, probes | fine⟩ := (List.forall₂_iff_zip.1 passed).2 member
  · simp [probes]
  · simp [fine]

namespace Follows

variable {steps more : List PlannedStep} {exchanges rest : List (Exchange Interface.host)}
  {step : PlannedStep} {x : Exchange Interface.host} {e : MethodError}
  {result : Except MethodError Unit}

/-- The result is the failure of the first step that has failed. -/
theorem result_eq (h : Follows steps exchanges result) :
    result = match firstFailure? steps exchanges with
      | some e => .error e
      | none => .ok () := by
  cases h with
  | finished passed => rw [firstFailure?_of_passed passed]
  | stopped passed asked must failed =>
    have first := firstFailure?_of_passed passed
    unfold firstFailure? at first ⊢
    rw [List.zip_append passed.length_eq, List.findSome?_append, first]
    simp [must, failed]

/-- The result is a success exactly if every step was performed and has succeeded. -/
theorem ok_iff (h : Follows steps exchanges result) :
    result = .ok () ↔ List.Forall₂ PlannedStep.Passes steps exchanges := by
  constructor
  · rintro rfl
    cases h with
    | finished passed => exact passed
  · intro passed
    rw [h.result_eq, firstFailure?_of_passed passed]

/-! ## Plans that are put together -/

theorem cons (h : Follows steps exchanges result) (passes : step.Passes x) :
    Follows (step :: steps) (x :: exchanges) result := by
  cases h with
  | finished passed => exact .finished (.cons passes passed)
  | stopped passed asked must failed undoes =>
    exact .stopped (.cons passes passed) asked must failed undoes

/-- The first step has failed, and nothing is undone. -/
theorem head (asked : x.asked = step.request) (must : step.probes = false)
    (plain : step.undo = none) (failed : x.failure? = some e) :
    Follows (step :: steps) [x] (.error e) :=
  .stopped .nil asked must failed (by simp [plain])

theorem append_of_error (h : Follows steps exchanges (.error e)) (more : List PlannedStep) :
    Follows (steps ++ more) exchanges (.error e) := by
  cases h with
  | stopped passed asked must failed undoes =>
    rw [List.append_assoc]
    exact .stopped passed asked must failed undoes

theorem append (h : Follows more rest result)
    (passed : List.Forall₂ PlannedStep.Passes steps exchanges) :
    Follows (steps ++ more) (exchanges ++ rest) result := by
  induction passed with
  | nil => exact h
  | cons passes _ ih => exact ih.cons passes

theorem asked_of_passed (passed : List.Forall₂ PlannedStep.Passes steps exchanges) :
    exchanges.map (·.asked) = steps.map (·.request) := by
  induction passed with
  | nil => rfl
  | cons passes _ ih => rw [List.map_cons, List.map_cons, passes.1, ih]

/-- Nothing is asked for but what a step is to do, and what is done when it has failed. -/
theorem asked_of_mem (h : Follows steps exchanges result) (member : x ∈ exchanges) :
    ∃ step ∈ steps, x.asked = step.request ∨ x.asked ∈ step.undo := by
  have performed {before : List PlannedStep} {done : List (Exchange Interface.host)}
      (passed : List.Forall₂ PlannedStep.Passes before done) (member : x ∈ done) :
      ∃ step ∈ before, x.asked = step.request := by
    have asked : x.asked ∈ done.map (·.asked) := List.mem_map_of_mem member
    rw [asked_of_passed passed] at asked
    obtain ⟨step, among, eq⟩ := List.mem_map.1 asked
    exact ⟨step, among, eq.symm⟩
  cases h with
  | finished passed =>
    obtain ⟨step, among, asked⟩ := performed passed member
    exact ⟨step, among, .inl asked⟩
  | @stopped before rest failing done undone last e passed asked must failed undoes =>
    obtain member | member := List.mem_append.1 member
    · obtain ⟨step, among, asked⟩ := performed passed member
      exact ⟨step, List.mem_append_left _ among, .inl asked⟩
    refine ⟨failing, by simp, ?_⟩
    obtain rfl | member := List.mem_cons.1 member
    · exact .inl asked
    · have undo : x.asked ∈ undone.map (·.asked) := List.mem_map_of_mem member
      rw [undoes] at undo
      exact .inr (Option.mem_toList.1 undo)

/-- In a plan where nothing is to be undone, what was performed is the beginning of the plan, and
all of it but the last step has succeeded. -/
theorem plain (h : Follows steps exchanges result)
    (plain : ∀ step ∈ steps, step.Plain) :
    exchanges.map (·.asked) <+: steps.map (·.request) ∧
      ∀ x ∈ exchanges.dropLast, x.failure? = none := by
  have fine {before : List PlannedStep} {exchanges : List (Exchange Interface.host)}
      (passed : List.Forall₂ PlannedStep.Passes before exchanges) (sub : before ⊆ steps) :
      ∀ x ∈ exchanges, x.failure? = none := by
    intro x member
    obtain ⟨i, hi, rfl⟩ := List.getElem_of_mem member
    have hi' : i < before.length := passed.length_eq ▸ hi
    have passes := passed.get hi' hi
    simpa [(plain _ (sub (List.getElem_mem hi'))).2.1] using passes.2
  cases h with
  | finished passed =>
    have all := fine passed (List.Subset.refl _)
    exact ⟨asked_of_passed passed ▸ List.prefix_rfl,
      fun x member => all x (List.dropLast_subset _ member)⟩
  | @stopped before rest step exchanges undone x e passed asked must failed undoes =>
    obtain rfl : undone = [] := by
      simpa [(plain step (by simp)).1] using undoes
    refine ⟨?_, ?_⟩
    · simp [asked_of_passed passed, asked]
    · rw [List.dropLast_concat]
      exact fine passed (List.subset_append_left ..)

end Follows

/-! ## Work that follows a plan -/

/-- Whatever the answers are, the work follows the plan. -/
structure Carries (work : Work Unit) (steps : List PlannedStep) : Prop where
  follows : ∀ {exchanges result}, work.Path exchanges result → Follows steps exchanges result

namespace Carries

open Procedure

variable {x y : Work Unit} {f : Unit → Work Unit} {steps more : List PlannedStep}
  {step : PlannedStep}

theorem done : Carries (.done ()) [] := by
  refine ⟨fun path => ?_⟩
  obtain ⟨rfl, rfl⟩ := path_done_iff.1 path
  exact .finished .nil

/-- A step, and then the rest unless it has failed. -/
theorem ask (step : PlannedStep) {next : step.request.Answer → Work Unit}
    (must : step.probes = false) (plain : step.undo = none)
    (rest : ∀ answer, match HostRequest.failure? step.request answer with
      | some e => next answer = .fail e
      | none => Carries (next answer) steps) :
    Carries (.ask step.request next) (step :: steps) := by
  refine ⟨fun {exchanges result} path => ?_⟩
  obtain ⟨answer, after, rfl, path'⟩ := path_ask_iff.1 path
  have rest := rest answer
  split at rest
  · rename_i e failed
    rw [rest] at path'
    obtain ⟨rfl, rfl⟩ := path_fail_iff.1 path'
    exact .head rfl must plain failed
  · rename_i fine
    exact (rest.follows path').cons ⟨rfl, .inr fine⟩

/-- One piece of work after the other. -/
theorem bind (first : Carries x steps) (second : Carries (f ()) more) :
    Carries (x >>= f) (steps ++ more) := by
  refine ⟨fun {exchanges result} path => ?_⟩
  obtain ⟨e, failed, rfl⟩ | ⟨⟨⟩, before, rest, rfl, passed, after⟩ := path_bind_iff.1 path
  · exact (first.follows failed).append_of_error more
  · exact (second.follows after).append ((first.follows passed).ok_iff.1 rfl)

theorem seq (first : Carries x steps) (second : Carries y more) :
    Carries (do x; y) (steps ++ more) :=
  first.bind second

/-- Work of one step, and then the rest. -/
theorem cons (first : Carries x [step]) (second : Carries (f ()) more) :
    Carries (x >>= f) (step :: more) :=
  first.bind second

theorem note (text : String) : Carries (Work.note text) [.note text] :=
  ask (.note text) rfl rfl fun _ => done

theorem exec (site : Site) (line : Line) : Carries (site.exec line) [.exec site line] := by
  refine ask (.exec site line) rfl rfl fun answer => ?_
  cases answer with
  | ok => exact done
  | error e => rfl

theorem execute (statement : String) :
    Carries (Work.database (.execute statement)) [.database (.execute statement)] := by
  refine ask (.database (.execute statement)) rfl rfl fun answer => ?_
  cases answer with
  | ok => exact done
  | error e => rfl

theorem unlock : Carries (Work.database .unlock) [.database .unlock] := by
  refine ask (.database .unlock) rfl rfl fun answer => ?_
  cases answer with
  | ok => exact done
  | error e => rfl

theorem writeFile (path content : String) :
    Carries (Work.writeFile path content) [.writeFile path content] := by
  refine ask (.writeFile path content) rfl rfl fun answer => ?_
  cases answer with
  | ok => exact done
  | error fault => rfl

/-- The work of one step makes one exchange, whether it fails or not. -/
theorem asked_of_single (single : Carries y [step]) (plain : step.undo = none)
    {exchanges : List (Exchange Interface.host)} {result : Except MethodError Unit}
    (path : y.Path exchanges result) : exchanges.map (·.asked) = [step.request] := by
  have follows := single.follows path
  generalize split : [step] = steps at follows
  cases follows with
  | finished passed => rw [Follows.asked_of_passed passed, ← split, List.map_singleton]
  | @stopped before rest failing done undone x e passed asked must failed undoes =>
    obtain ⟨rfl, rfl, rfl⟩ : before = [] ∧ failing = step ∧ rest = [] := by
      simpa [List.append_eq_singleton_iff] using split.symm
    obtain rfl := List.forall₂_nil_left_iff.1 passed
    rw [List.nil_append, List.map_cons, undoes, plain, asked, Option.toList_none]

/-- Work after which one more step is done in any case. Its failure is reported if it is the
first. -/
theorem undoing (first : Carries x steps) (plain : ∀ step ∈ steps, step.undo = none)
    (second : Carries y [step]) (last : step.undo = none) :
    Carries (do let a ← x.attempt; let b ← y.attempt; .ofExcept a; .ofExcept b)
      (steps.map (·.undoneBy step.request) ++ [step]) := by
  refine ⟨fun {exchanges result} path => ?_⟩
  obtain ⟨e, path, -⟩ | ⟨a, done, rest, rfl, pathx, path⟩ := path_bind_iff.1 path
  · simp [path_attempt_iff] at path
  obtain ⟨e, path, -⟩ | ⟨b, undone, rest, rfl, pathy, path⟩ := path_bind_iff.1 path
  · simp [path_attempt_iff] at path
  obtain ⟨_, ⟨⟩, pathx⟩ := path_attempt_iff.1 pathx
  obtain ⟨_, ⟨⟩, pathy⟩ := path_attempt_iff.1 pathy
  have passing {steps : List PlannedStep} {exchanges : List (Exchange Interface.host)}
      (passed : List.Forall₂ PlannedStep.Passes steps exchanges) :
      List.Forall₂ PlannedStep.Passes (steps.map (·.undoneBy step.request)) exchanges :=
    List.forall₂_map_left_iff.2 passed
  have follows := first.follows pathx
  cases a with
  | ok =>
    obtain ⟨rfl, rfl⟩ : rest = [] ∧ result = b := by
      cases b <;> simpa [Procedure.ofExcept, path_done_iff, path_fail_iff] using path
    rw [List.append_nil]
    exact (second.follows pathy).append (passing (follows.ok_iff.1 rfl))
  | error e =>
    obtain ⟨rfl, rfl⟩ : rest = [] ∧ result = .error e := by
      simpa [Procedure.ofExcept, path_fail_iff] using path
    cases follows with
    | @stopped before rest failing done undone' x e passed asked must failed undoes =>
      obtain rfl : undone' = [] := by
        simpa [plain failing (by simp)] using undoes
      have := asked_of_single second last pathy
      simp only [List.map_append, List.map_cons, List.append_assoc, List.cons_append,
        List.nil_append, List.append_nil]
      exact .stopped (passing passed) asked must failed this

end Carries

end ReplicaSeed
