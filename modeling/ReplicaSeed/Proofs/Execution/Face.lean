import ReplicaSeed.Execution.Runner
import ReplicaSeed.Proofs.Command.Masked

/-!
# What a run tells of its line

A line is seen from outside by its face: its masked text, its programs and the place of its output.
Whoever runs lines tells no more of them than that, neither in the failures nor in the processes
that are reported; and lines of one face are run alike as long as the tools do the same, up to what
the tools print.

## Main definitions

* `Face`: what is seen of a pipeline.
* `ExecError.Tells`: a failure tells of a line what its face shows.
* `Machine.course`: what the tools did, up to what they printed.
* `Indistinct`: no message tells two lines apart.

## Main statements

* `Machine.execute_tells`, `Machine.executeWithin_tells`, `Machine.track_tells`: every failure, and
  the process that is reported.
* `indistinct_of_face`: lines of one face cannot be told apart.
-/

namespace ReplicaSeed

open Command

/-- What is seen of a pipeline from outside. -/
structure Face where
  command : String
  programs : List String
  sink : Sink
  deriving DecidableEq, Repr

/-- The face of a pipeline. -/
def Pipeline.face (p : Pipeline) : Face where
  command := p.command
  programs := p.stages.map fun words => words.headD ""
  sink := p.sink

/-- The face of a line, or why it is none. -/
def Face.ofText (line : String) (elevate : Bool) : Except ExecError Face :=
  (Pipeline.read line elevate).map Pipeline.face

theorem Face.ofText_eq_ok_iff {line : String} {elevate : Bool} {f : Face} :
    ofText line elevate = .ok f ↔ ∃ p, Pipeline.read line elevate = .ok p ∧ p.face = f := by
  unfold ofText
  cases Pipeline.read line elevate <;> simp [Except.map]

theorem Face.read_of_ofText_eq {line line' : String} {elevate : Bool}
    (same : ofText line elevate = ofText line' elevate) :
    (∃ e, Pipeline.read line elevate = .error e ∧ Pipeline.read line' elevate = .error e) ∨
    ∃ p p', Pipeline.read line elevate = .ok p ∧ Pipeline.read line' elevate = .ok p' ∧
      p.face = p'.face := by
  unfold ofText at same
  cases read : Pipeline.read line elevate <;> cases read' : Pipeline.read line' elevate <;>
    rw [read, read'] at same
  case error.error e e' => exact .inl ⟨e, rfl, congrArg _ (Except.error.inj same).symm⟩
  case ok.ok p p' => exact .inr ⟨p, p', rfl, rfl, Except.ok.inj same⟩
  all_goals cases same

/-- The command of a pipeline is the text of its line for messages. -/
theorem Pipeline.command_ofLine (c : CommandLine) : (ofLine c).command = c.display := by
  unfold ofLine
  split
  · rfl
  · split <;> rfl

theorem Face.ofText_of_parse {line : String} {c : CommandLine}
    (parse : CommandLine.parse line = .ok c) (elevate : Bool) :
    ofText line elevate = .ok (Pipeline.ofLine (if elevate then c.elevate else c)).face := by
  simp only [ofText, Pipeline.read, parse, Except.map]

/-- Lines of one face are pipelines of one face. -/
theorem Pipeline.face_ofLine {c c' : CommandLine} (same : c.face = c'.face) :
    (ofLine c).face = (ofLine c').face := by
  have display := CommandLine.display_eq_of_face same
  have programs : c.stages.map (fun words => words.headD "") =
      c'.stages.map (fun words => words.headD "") :=
    CommandLine.map_stages_eq same (fun s => s.1.getD "") fun words => by cases words <;> rfl
  have redirect : c.redirect = c'.redirect := congrArg LineFace.redirect same
  have elevated : c.elevated = c'.elevated := congrArg LineFace.elevated same
  unfold ofLine
  rw [← redirect, ← elevated]
  cases c.redirect with
  | none => simp only [face, display, programs]
  | some target =>
    simp only
    split <;> simp only [face, display, List.map_append, programs]

/-- Texts that are read as lines of one face have one face. -/
theorem Face.ofText_eq_of_parse {line line' : String} {c c' : CommandLine}
    (parse : CommandLine.parse line = .ok c) (parse' : CommandLine.parse line' = .ok c')
    (same : c.face = c'.face) (elevate : Bool) : ofText line elevate = ofText line' elevate := by
  rw [ofText_of_parse parse, ofText_of_parse parse']
  cases elevate with
  | false => exact congrArg _ (Pipeline.face_ofLine same)
  | true => exact congrArg _ (Pipeline.face_ofLine (CommandLine.face_elevate same))

/-! ## Failures -/

namespace ExecError

/-- What the failure tells of the line is what its face shows. -/
def Tells (f : Face) : ExecError → Prop
  | spawn program _ => program ∈ f.programs
  | io command _ | failed command .. | cancelled command | timeout command _ =>
    command = f.command
  | invalidCommand _ | signal .. => False

/-- The text of a line that the failure holds. -/
def command? : ExecError → Option String
  | io command _ | failed command .. | cancelled command | timeout command _ => some command
  | _ => none

theorem Tells.command_eq {f : Face} {e : ExecError} (tells : e.Tells f) {command : String}
    (holds : command ∈ e.command?) : command = f.command := by
  cases e <;> cases holds <;> exact tells

end ExecError

namespace Pipeline

variable {p : Pipeline} {cancelled : Bool} {runs : List StageRun} {e : ExecError}

theorem settle_tells (failed : p.settle cancelled runs = .error e) : e.Tells p.face := by
  unfold settle at failed
  split at failed
  · cases failed
    rfl
  · split at failed <;> cases failed
    rfl

end Pipeline

namespace Machine

section

variable {σ : Type} {m : Machine σ} {p : Pipeline} {limit : Option Nat} {s : σ} {e : ExecError}

theorem refusal_tells (refused : m.refusal p.stages s = some e) : e.Tells p.face := by
  obtain ⟨words, member, refused⟩ := List.exists_of_findSome?_eq_some refused
  obtain ⟨cause, -, rfl⟩ := Option.map_eq_some_iff.1 refused
  exact List.mem_map_of_mem member

theorem openSink_tells (unopened : m.openSink p s = .error e) : e.Tells p.face := by
  unfold openSink at unopened
  split at unopened
  · split at unopened <;> cases unopened
    rfl
  · cases unopened

/-- A launch fails and tells no more than the face, or the stages run. -/
theorem launch_cases (m : Machine σ) (limit : Option Nat) (p : Pipeline) (s : σ) :
    (∃ e after, m.launch limit p s = (.error e, after) ∧ e.Tells p.face) ∨
    ∃ runs after, m.launch limit p s = (.ok runs, after) := by
  unfold launch
  cases opened : m.openSink p s with
  | error e => exact .inl ⟨e, s, rfl, openSink_tells opened⟩
  | ok s' =>
    simp only
    cases refused : m.refusal p.stages s' with
    | some e => exact .inl ⟨e, s', rfl, refusal_tells refused⟩
    | none => exact .inr ⟨_, _, rfl⟩

end

section

variable {σ : Type} (m : Machine σ) (s : σ) {line : String} {elevate : Bool} {f : Face}
  {e : ExecError}

theorem execute_tells (face : Face.ofText line elevate = .ok f)
    (failed : (m.execute line elevate s).1.result = .error e) : e.Tells f := by
  obtain ⟨p, read, rfl⟩ := Face.ofText_eq_ok_iff.1 face
  obtain ⟨e', after, launched, tells⟩ | ⟨runs, after, launched⟩ := m.launch_cases none p s
  · simp only [execute, read, launched] at failed
    cases failed
    exact tells
  · simp only [execute, read, launched] at failed
    exact Pipeline.settle_tells failed

theorem executeWithin_tells {limit : Nat} (face : Face.ofText line elevate = .ok f)
    (failed : (m.executeWithin limit line elevate s).1.result = .error e) : e.Tells f := by
  obtain ⟨p, read, rfl⟩ := Face.ofText_eq_ok_iff.1 face
  obtain ⟨e', after, launched, tells⟩ | ⟨runs, after, launched⟩ := m.launch_cases none p s
  · simp only [executeWithin, read, launched] at failed
    cases failed
    exact tells
  · simp only [executeWithin, read, launched] at failed
    split at failed
    · have settled : p.settle false runs = .error e := failed
      exact Pipeline.settle_tells settled
    · cases failed
      rfl

theorem track_tells {watch : Watch} (face : Face.ofText line elevate = .ok f) :
    (∀ e, (m.track watch line elevate s).1.result = some (.error e) → e.Tells f) ∧
    ∀ process ∈ (m.track watch line elevate s).1.process, process.command = f.command := by
  obtain ⟨p, read, rfl⟩ := Face.ofText_eq_ok_iff.1 face
  obtain ⟨e', after, launched, tells⟩ | ⟨runs, after, launched⟩ := m.launch_cases none p s
  · simp only [track, read, launched]
    refine ⟨?_, fun _ none => nomatch none⟩
    rintro _ ⟨⟩
    exact tells
  · have settled {cancelled : Bool} (e : ExecError)
        (failed : some ((p.settle cancelled runs).map fun _ => ()) = some (.error e)) :
        e.Tells p.face := by
      cases outcome : p.settle cancelled runs with
      | error e' =>
        rw [outcome] at failed
        cases failed
        exact Pipeline.settle_tells outcome
      | ok output =>
        rw [outcome] at failed
        cases failed
    simp only [track, read, launched]
    cases watch with
    | wait =>
      refine ⟨settled, ?_⟩
      rintro _ ⟨⟩
      rfl
    | cancel =>
      refine ⟨settled, ?_⟩
      rintro _ ⟨⟩
      rfl
    | abandon time =>
      simp only
      split
      · refine ⟨settled, ?_⟩
        rintro _ ⟨⟩
        rfl
      · refine ⟨?_, ?_⟩
        · rintro e ⟨⟩
        · rintro _ ⟨⟩
          split <;> rfl

end

end Machine

/-! ## Runs that differ in what the tools print -/

/-- The run without what the program printed. -/
def StageRun.silent (r : StageRun) : StageRun := { r with stdout := {}, stderr := [] }

namespace ExecError

/-- The failure without what the tools printed. -/
def silent : ExecError → ExecError
  | failed command code _ => failed command code ""
  | e => e

/-- The failure without the text of its line. -/
def unnamed : ExecError → ExecError
  | io _ cause => io "" cause
  | e => e

end ExecError

/-- Failures that tell of one face differ in more than the texts of their lines. -/
theorem ExecError.Tells.eq_of_unnamed {f : Face} {e e' : ExecError} (tells : e.Tells f)
    (tells' : e'.Tells f) (same : e.unnamed = e'.unnamed) : e = e' := by
  cases e <;> cases e' <;> simp_all [unnamed, Tells]

/-- A result without what the tools printed. -/
def silentResult {α : Type} (result : Except ExecError α) : Except ExecError Unit :=
  (result.map fun _ => ()).mapError ExecError.silent

theorem silentResult_map {α β : Type} (result : Except ExecError α) (f : α → β) :
    silentResult (result.map f) = silentResult result := by
  cases result <;> rfl

/-- What became of a line, without what the tools printed. -/
def Execution.silent {α : Type} (x : Execution α) : Execution Unit where
  result := silentResult x.result
  elapsed := x.elapsed

/-- What a watcher saw, without what the tools printed. -/
def Watched.silent (w : Watched) : Watched := { w with result := w.result.map silentResult }

namespace Pipeline

variable {p p' : Pipeline} {runs runs' : List StageRun}

theorem closes_silent (runs : List StageRun) : closes (runs.map StageRun.silent) = closes runs := by
  rw [closes, List.map_map]
  rfl

theorem ends_silent (runs : List StageRun) : ends (runs.map StageRun.silent) = ends runs := by
  rw [ends, List.map_map]
  rfl

/-- How a pipeline ends up is decided without what its tools print. -/
theorem silentResult_settle (cancelled : Bool) (command : p.command = p'.command)
    (runs_eq : runs.map StageRun.silent = runs'.map StageRun.silent) :
    silentResult (p.settle cancelled runs) = silentResult (p'.settle cancelled runs') := by
  have failure : (firstFailure? runs).map StageRun.silent =
      (firstFailure? runs').map StageRun.silent := by
    have found := congrArg firstFailure? runs_eq
    simp only [firstFailure?, List.find?_map] at found
    exact found
  unfold settle
  split
  · rw [command]
  · cases first : firstFailure? runs <;> cases first' : firstFailure? runs' <;>
      rw [first, first'] at failure
    · rfl
    · cases failure
    · cases failure
    · rename_i r r'
      rw [Option.map_some, Option.map_some, Option.some.injEq] at failure
      have exit : r.silent.exit = r'.silent.exit := congrArg StageRun.exit failure
      change r.exit = r'.exit at exit
      simp only [silentResult, Except.map, Except.mapError, ExecError.silent, command, exit]

end Pipeline

namespace Machine

theorem leaves_silent (runs : List StageRun) (time : Nat) :
    leaves (runs.map StageRun.silent) time = leaves runs time := by
  rw [leaves, List.any_map]
  rfl

/-- What the tools do in a launch, without what they print and without the text of the line. -/
def course {σ : Type} (m : Machine σ) (line : String) (elevate : Bool) (limit : Option Nat)
    (s : σ) : Except ExecError (List StageRun) := do
  let p ← Pipeline.read line elevate
  ((m.launch limit p s).1.map (·.map StageRun.silent)).mapError ExecError.unnamed

theorem launch_alike {σ σ' : Type} {m : Machine σ} {m' : Machine σ'} {line line' : String}
    {elevate : Bool} {p p' : Pipeline} {limit : Option Nat} {s : σ} {s' : σ'}
    (read : Pipeline.read line elevate = .ok p) (read' : Pipeline.read line' elevate = .ok p')
    (face : p.face = p'.face)
    (course : m.course line elevate limit s = m'.course line' elevate limit s') :
    (∃ e after after', m.launch limit p s = (.error e, after) ∧
      m'.launch limit p' s' = (.error e, after')) ∨
    ∃ runs runs' after after', m.launch limit p s = (.ok runs, after) ∧
      m'.launch limit p' s' = (.ok runs', after') ∧
      runs.map StageRun.silent = runs'.map StageRun.silent := by
  simp only [Machine.course, read, read', bind, Except.bind] at course
  obtain ⟨e, after, launched, tells⟩ | ⟨runs, after, launched⟩ := m.launch_cases limit p s <;>
    obtain ⟨e', after', launched', tells'⟩ | ⟨runs', after', launched'⟩ :=
      m'.launch_cases limit p' s' <;>
    simp only [launched, launched', Except.map, Except.mapError] at course
  · -- The course leaves out the texts of the lines; the faces bring them back.
    have same : e = e' := tells.eq_of_unnamed (face ▸ tells') (Except.error.inj course)
    exact .inl ⟨e, after, after', launched, same ▸ launched'⟩
  · cases course
  · cases course
  · exact .inr ⟨runs, runs', after, after', launched, launched', Except.ok.inj course⟩

/-- The tools do the same in runs of two lines, up to what they print. -/
def SameCourse {σ σ' : Type} (m : Machine σ) (m' : Machine σ') (line line' : String)
    (elevate : Bool) (s : σ) (s' : σ') : Prop :=
  ∀ limit, m.course line elevate limit s = m'.course line' elevate limit s'

section

variable {σ σ' : Type} {m : Machine σ} {m' : Machine σ'} {line line' : String} {elevate : Bool}
  {s : σ} {s' : σ'}

theorem execute_alike (face : Face.ofText line elevate = Face.ofText line' elevate)
    (course : SameCourse m m' line line' elevate s s') :
    (m.execute line elevate s).1.silent = (m'.execute line' elevate s').1.silent := by
  obtain ⟨e, read, read'⟩ | ⟨p, p', read, read', same⟩ := Face.read_of_ofText_eq face
  · simp only [execute, read, read']
  · have command : p.command = p'.command := congrArg Face.command same
    obtain ⟨e, _, _, failed, failed'⟩ | ⟨runs, runs', _, _, started, started', runs_eq⟩ :=
      launch_alike read read' same (course none)
    · simp only [execute, read, read', failed, failed']
    · have closes : Pipeline.closes runs = Pipeline.closes runs' := by
        rw [← Pipeline.closes_silent, runs_eq, Pipeline.closes_silent]
      have settle := Pipeline.silentResult_settle false command runs_eq
      simp only [execute, read, read', started, started', Execution.silent, settle, closes]

theorem executeWithin_alike (face : Face.ofText line elevate = Face.ofText line' elevate)
    (course : SameCourse m m' line line' elevate s s') (limit : Nat) :
    (m.executeWithin limit line elevate s).1.silent =
      (m'.executeWithin limit line' elevate s').1.silent := by
  obtain ⟨e, read, read'⟩ | ⟨p, p', read, read', same⟩ := Face.read_of_ofText_eq face
  · simp only [executeWithin, read, read']
  · have command : p.command = p'.command := congrArg Face.command same
    obtain ⟨e, _, _, failed, failed'⟩ | ⟨runs, runs', _, _, started, started', runs_eq⟩ :=
      launch_alike read read' same (course none)
    · simp only [executeWithin, read, read', failed, failed']
    · have closes : Pipeline.closes runs = Pipeline.closes runs' := by
        rw [← Pipeline.closes_silent, runs_eq, Pipeline.closes_silent]
      have settle := Pipeline.silentResult_settle false command runs_eq
      simp only [executeWithin, read, read', started, started', command, closes]
      split
      · simp only [Execution.silent, settle]
      · rfl

theorem track_alike (face : Face.ofText line elevate = Face.ofText line' elevate)
    (course : SameCourse m m' line line' elevate s s') (watch : Watch) :
    (m.track watch line elevate s).1.silent = (m'.track watch line' elevate s').1.silent := by
  obtain ⟨e, read, read'⟩ | ⟨p, p', read, read', same⟩ := Face.read_of_ofText_eq face
  · simp only [track, read, read']
  · have command : p.command = p'.command := congrArg Face.command same
    obtain ⟨e, _, _, failed, failed'⟩ | ⟨runs, runs', _, _, started, started', runs_eq⟩ :=
      launch_alike read read' same (course none)
    · simp only [track, read, read', failed, failed']
    · -- All that a watcher waits for is told by the runs without their output.
      have closes : Pipeline.closes runs = Pipeline.closes runs' := by
        rw [← Pipeline.closes_silent, runs_eq, Pipeline.closes_silent]
      have ends : Pipeline.ends runs = Pipeline.ends runs' := by
        rw [← Pipeline.ends_silent, runs_eq, Pipeline.ends_silent]
      have leaves (time : Nat) : leaves runs time = leaves runs' time := by
        rw [← leaves_silent, runs_eq, leaves_silent]
      have settle (cancelled : Bool) := Pipeline.silentResult_settle cancelled command runs_eq
      simp only [track, read, read', started, started', command, closes, ends, leaves]
      cases watch with
      | wait => simp only [Watched.silent, Option.map_some, silentResult_map, settle]
      | cancel => simp only [Watched.silent, Option.map_some, silentResult_map, settle]
      | abandon time =>
        simp only
        split
        · simp only [Watched.silent, Option.map_some, silentResult_map, settle]
        · rfl

end

/-- One of the ways to run the line fails like that. -/
def Fails {σ : Type} (m : Machine σ) (line : String) (elevate : Bool) (s : σ) (e : ExecError) :
    Prop :=
  (m.execute line elevate s).1.result = .error e ∨
  (∃ limit, (m.executeWithin limit line elevate s).1.result = .error e) ∨
  ∃ watch, (m.track watch line elevate s).1.result = some (.error e)

/-- A run of the line reports the process. -/
def Reports {σ : Type} (m : Machine σ) (line : String) (elevate : Bool) (s : σ)
    (process : HostProcess) : Prop :=
  ∃ watch, (m.track watch line elevate s).1.process = some process

variable {σ : Type} {m : Machine σ} {line : String} {elevate : Bool} {s : σ} {f : Face}

/-- What is told of a line is what its face shows, whatever the tools do. -/
theorem Fails.tells {e : ExecError} (fails : m.Fails line elevate s e)
    (face : Face.ofText line elevate = .ok f) : e.Tells f := by
  obtain failed | ⟨limit, failed⟩ | ⟨watch, failed⟩ := fails
  · exact m.execute_tells s face failed
  · exact m.executeWithin_tells s face failed
  · exact (m.track_tells s face).1 e failed

theorem Reports.command_eq {process : HostProcess} (reports : m.Reports line elevate s process)
    (face : Face.ofText line elevate = .ok f) : process.command = f.command := by
  obtain ⟨watch, reported⟩ := reports
  exact (m.track_tells s face).2 process reported

/-- A line that is no command is not told of. -/
theorem Fails.command?_eq_none {e cause : ExecError}
    (unread : Pipeline.read line elevate = .error cause) (fails : m.Fails line elevate s e) :
    e.command? = none := by
  have same : cause = e := by
    obtain failed | ⟨limit, failed⟩ | ⟨watch, failed⟩ := fails
    · simpa [execute, unread] using failed
    · simpa [executeWithin, unread] using failed
    · simpa [track, unread] using failed
  unfold Pipeline.read at unread
  split at unread <;> cases unread
  exact same ▸ rfl

theorem not_reports {process : HostProcess} {cause : ExecError}
    (unread : Pipeline.read line elevate = .error cause) :
    ¬m.Reports line elevate s process := by
  rintro ⟨watch, reported⟩
  simp [track, unread] at reported

end Machine

/-- No message tells the two lines apart. Their texts are the same; failures and processes hold the
same text for both, whatever the tools do; and the runs are the same if the tools do the same, up to
what they print. -/
structure Indistinct (line line' : String) (elevate : Bool) : Prop where
  display : ∀ c c' : CommandLine,
    CommandLine.parse line = .ok c → CommandLine.parse line' = .ok c' →
      (if elevate then c.elevate else c).display = (if elevate then c'.elevate else c').display
  failure : ∀ {σ σ' : Type} (m : Machine σ) (m' : Machine σ') (s : σ) (s' : σ') (e e' : ExecError),
    m.Fails line elevate s e → m'.Fails line' elevate s' e' →
      ∀ command ∈ e.command?, ∀ command' ∈ e'.command?, command = command'
  process : ∀ {σ σ' : Type} (m : Machine σ) (m' : Machine σ') (s : σ) (s' : σ')
    (process process' : HostProcess),
    m.Reports line elevate s process → m'.Reports line' elevate s' process' →
      process.command = process'.command
  course : ∀ {σ σ' : Type} (m : Machine σ) (m' : Machine σ') (s : σ) (s' : σ'),
    Machine.SameCourse m m' line line' elevate s s' →
      (m.execute line elevate s).1.silent = (m'.execute line' elevate s').1.silent ∧
      (∀ limit, (m.executeWithin limit line elevate s).1.silent =
        (m'.executeWithin limit line' elevate s').1.silent) ∧
      ∀ watch, (m.track watch line elevate s).1.silent = (m'.track watch line' elevate s').1.silent

/-- Lines of one face cannot be told apart. -/
theorem indistinct_of_face {line line' : String} {elevate : Bool}
    (face : Face.ofText line elevate = Face.ofText line' elevate) :
    Indistinct line line' elevate where
  display c c' parse parse' := by
    rw [Face.ofText_of_parse parse, Face.ofText_of_parse parse'] at face
    have command := congrArg Face.command (Except.ok.inj face)
    simpa only [Pipeline.face, Pipeline.command_ofLine] using command
  failure m m' s s' e e' fails fails' command holds command' holds' := by
    obtain ⟨cause, unread, -⟩ | ⟨p, p', read, read', -⟩ := Face.read_of_ofText_eq face
    · rw [fails.command?_eq_none unread] at holds
      cases holds
    · have ok : Face.ofText line elevate = .ok p.face := Face.ofText_eq_ok_iff.2 ⟨p, read, rfl⟩
      rw [(fails.tells ok).command_eq holds, (fails'.tells (face ▸ ok)).command_eq holds']
  process m m' s s' process process' reports reports' := by
    obtain ⟨cause, unread, -⟩ | ⟨p, p', read, read', -⟩ := Face.read_of_ofText_eq face
    · exact absurd reports (Machine.not_reports unread)
    · have ok : Face.ofText line elevate = .ok p.face := Face.ofText_eq_ok_iff.2 ⟨p, read, rfl⟩
      rw [reports.command_eq ok, reports'.command_eq (face ▸ ok)]
  course m m' s s' course :=
    ⟨Machine.execute_alike face course, Machine.executeWithin_alike face course,
      Machine.track_alike face course⟩

end ReplicaSeed
