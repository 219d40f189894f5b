import ReplicaSeed.Proofs.Toolbox.Job

/-!
# Destinations of redirections

The file that a line writes its output to, and what is taken for granted of the programs of a host
that have a part in it: `sudo` runs its arguments as they are, `tee` copies its input to the files
that it is given as operands, and the stages of a line neither look at the file nor change it. A
stage that does would be at odds with `tee`, which opens the file at some time while the stage runs.

## Main definitions

* `isOperand`: a word that is no option.
* `Toolbox.hostWith`: a host with files and programs of any kind.
* `Machine.Elevates`, `Machine.HasTee`, `Machine.Spares`: what the programs do.

## Main statements

* `Machine.runStages_related`: stages that cannot tell two states apart run alike from both.
* `Machine.runStages_concat`: one more stage that reads all of its input changes nothing for the
  others.
* `Toolbox.openFile_hostWith`, `Toolbox.store_hostWith`: a host's own writing to a destination.
-/

namespace ReplicaSeed

open Command

/-! ## Stages in a row -/

/-- The output behind the last stage of those that ran on an input. -/
def lastOutput (input : Flow) (runs : List StageRun) : Flow :=
  (runs.getLast?.map (·.stdout)).getD input

@[simp] theorem lastOutput_nil (input : Flow) : lastOutput input [] = input := rfl

@[simp] theorem lastOutput_cons (input : Flow) (r : StageRun) (runs : List StageRun) :
    lastOutput input (r :: runs) = lastOutput r.stdout runs := by
  simp only [lastOutput, List.getLast?_cons, Option.map_some, Option.getD_some]
  cases runs.getLast? <;> rfl

/-- A reader that reads everything lets its writer write everything. -/
theorem StageRun.lackedRoom?_concat {last : StageRun} (reads : last.consumed = none)
    (r : StageRun) (runs : List StageRun) :
    r.lackedRoom? (runs ++ [last]).head? = r.lackedRoom? runs.head? := by
  cases runs with
  | nil => simp [lackedRoom?, reads]
  | cons => rfl

namespace Machine

variable {σ : Type} {m : Machine σ} {limit : Option Nat} {stages : List (List String)} {s u : σ}

/-- The run of a stage and of those behind it, where there is so much room for its output. -/
def runFrom (m : Machine σ) (limit room : Option Nat) (words : List String)
    (rest : List (List String)) (input : Flow) (s : σ) : List StageRun × σ :=
  let first := m.run ⟨limit, room⟩ words input s
  let later := m.runStages limit rest first.1.stdout first.2
  (first.1 :: later.1, later.2)

theorem runStages_cons (m : Machine σ) (limit : Option Nat) (words : List String)
    (rest : List (List String)) (input : Flow) (s : σ) :
    m.runStages limit (words :: rest) input s =
      match (m.run ⟨limit, none⟩ words input s).1.lackedRoom?
        (m.runFrom limit none words rest input s).1.tail.head? with
      | none => m.runFrom limit none words rest input s
      | some room => m.runFrom limit (some room) words rest input s := rfl

/-- Stages that cannot tell two states apart run in the same way from both. -/
theorem runStages_related {R : σ → σ → Prop}
    (same : ∀ words ∈ stages, ∀ room input s u, R s u →
      (m.run ⟨limit, room⟩ words input s).1 = (m.run ⟨limit, room⟩ words input u).1 ∧
        R (m.run ⟨limit, room⟩ words input s).2 (m.run ⟨limit, room⟩ words input u).2)
    (input : Flow) (related : R s u) :
    (m.runStages limit stages input s).1 = (m.runStages limit stages input u).1 ∧
      R (m.runStages limit stages input s).2 (m.runStages limit stages input u).2 := by
  induction stages generalizing input s u with
  | nil => exact ⟨rfl, related⟩
  | cons words rest ih =>
    have from_ (room : Option Nat) :
        (m.runFrom limit room words rest input s).1 = (m.runFrom limit room words rest input u).1 ∧
          R (m.runFrom limit room words rest input s).2
            (m.runFrom limit room words rest input u).2 := by
      obtain ⟨run, next⟩ := same words (.head _) room input s u related
      have later := ih (fun words member => same words (.tail _ member))
        (m.run ⟨limit, room⟩ words input s).1.stdout next
      simp only [runFrom]
      rw [← run]
      exact ⟨by rw [later.1], later.2⟩
    rw [runStages_cons, runStages_cons, ← (from_ none).1,
      ← (same words (.head _) none input s u related).1]
    split <;> exact from_ _

/-- What every stage keeps is kept by all of them. -/
theorem runStages_keeps {P : σ → Prop}
    (kept : ∀ words ∈ stages, ∀ room input s, P s → P (m.run ⟨limit, room⟩ words input s).2)
    (input : Flow) (holds : P s) : P (m.runStages limit stages input s).2 := by
  refine (runStages_related (R := fun s u => s = u ∧ P s) ?_ input ⟨rfl, holds⟩).2.2
  rintro words member room input s u ⟨same, holds⟩
  subst same
  exact ⟨rfl, rfl, kept words member room input s holds⟩

/-- One more stage that reads all of its input changes nothing for the others. -/
theorem runStages_concat {P : σ → Prop} {words : List String}
    (kept : ∀ words ∈ stages, ∀ room input s, P s → P (m.run ⟨limit, room⟩ words input s).2)
    (reads : ∀ input s, P s → (m.run ⟨limit, none⟩ words input s).1.consumed = none)
    (input : Flow) (holds : P s) :
    m.runStages limit (stages ++ [words]) input s =
      let before := m.runStages limit stages input s
      let last := m.run ⟨limit, none⟩ words (lastOutput input before.1) before.2
      (before.1 ++ [last.1], last.2) := by
  induction stages generalizing input s with
  | nil => rfl
  | cons first rest ih =>
    have from_ (room : Option Nat) : m.runFrom limit room first (rest ++ [words]) input s =
        let before := m.runFrom limit room first rest input s
        let last := m.run ⟨limit, none⟩ words (lastOutput input before.1) before.2
        (before.1 ++ [last.1], last.2) := by
      have next := kept first (.head _) room input s holds
      have later := ih (fun words member => kept words (.tail _ member))
        (m.run ⟨limit, room⟩ first input s).1.stdout next
      simp [runFrom, later]
    have keeps : P (m.runFrom limit none first rest input s).2 :=
      runStages_keeps (fun words member => kept words (.tail _ member)) _
        (kept first (.head _) none input s holds)
    -- The new stage may be the reader of the first one, and then it lacks no room either.
    have room := StageRun.lackedRoom?_concat
      (reads (lastOutput input (m.runFrom limit none first rest input s).1) _ keeps)
      (m.run ⟨limit, none⟩ first input s).1 (m.runFrom limit none first rest input s).1.tail
    rw [List.cons_append, runStages_cons, runStages_cons, from_ none]
    have tail (last : StageRun) : ((m.runFrom limit none first rest input s).1 ++ [last]).tail =
        (m.runFrom limit none first rest input s).1.tail ++ [last] := rfl
    simp only [tail, room]
    split
    · rfl
    · exact from_ _

/-! ## What the programs do -/

/-- `sudo` can be started wherever the words can be, and then does what they do. -/
structure Elevates (m : Machine σ) (words : List String) : Prop where
  starts {s : σ} (u : σ) : m.refusal? words s = none →
    m.refusal? (CommandLine.elevation ++ words) u = none
  runs (bounds : Bounds) (input : Flow) (s : σ) :
    m.run bounds (CommandLine.elevation ++ words) input s = m.run bounds words input s

theorem runStages_elevated (elevates : ∀ words ∈ stages, m.Elevates words) (input : Flow) (s : σ) :
    m.runStages limit (stages.map (CommandLine.elevation ++ ·)) input s =
      m.runStages limit stages input s := by
  induction stages generalizing input s with
  | nil => rfl
  | cons words rest ih =>
    have later := ih fun words member => elevates words (.tail _ member)
    have runs := (elevates words (.head _)).runs
    simp only [List.map_cons, runStages, later, runs]

end Machine

/-- A word that a program with options takes for an operand. A dash alone is one. -/
def isOperand (word : String) : Bool :=
  match word.toList with
  | '-' :: _ :: _ => false
  | _ => true

/-- What `tee` is given to write the file of a redirection. -/
def teeArguments (r : Redirect) : List String := (if r.append then ["-a"] else []) ++ [r.path]

def teeWords (r : Redirect) : List String := "tee" :: teeArguments r

theorem Pipeline.teeStage_eq (r : Redirect) :
    Pipeline.teeStage r = CommandLine.elevation ++ teeWords r := by
  simp [teeStage, teeWords, teeArguments]

namespace Machine

variable {m : Machine FileTree} {dir : FilePlace} {path : String} {place : FilePlace}

/-- `tee` can be started with any path. It reads all of its input, and the file receives it that is
its operand. If the path is no operand, then no file is written. -/
structure HasTee (m : Machine FileTree) (dir : FilePlace) : Prop where
  starts (r : Redirect) (t : FileTree) : FileTree.checkPath r.path = .ok () →
    m.refusal? (teeWords r) t = none
  copies (r : Redirect) (input : Flow) (t u : FileTree) : isOperand r.path = true →
    t.received dir r input.bytes = .ok u →
      (m.run {} (teeWords r) input t).2 = u ∧ (m.run {} (teeWords r) input t).1.exit = .exited 0 ∧
        (m.run {} (teeWords r) input t).1.stderr = [] ∧
        (m.run {} (teeWords r) input t).1.consumed = none
  ignores (r : Redirect) (bounds : Bounds) (input : Flow) (t : FileTree) :
    isOperand r.path = false → (m.run bounds (teeWords r) input t).2 = t

/-- The words neither look at the file at a place nor change it. -/
structure Spares (m : Machine FileTree) (dir : FilePlace) (path : String) (place : FilePlace)
    (words : List String) : Prop where
  run {t u : FileTree} (bounds : Bounds) (input : Flow) : FileTree.Alike dir path place t u →
    (m.run bounds words input t).1 = (m.run bounds words input u).1
  alike {t u : FileTree} (bounds : Bounds) (input : Flow) : FileTree.Alike dir path place t u →
    FileTree.Alike dir path place (m.run bounds words input t).2 (m.run bounds words input u).2
  keeps {t : FileTree} (bounds : Bounds) (input : Flow) : t.Writable dir path place →
    (m.run bounds words input t).2.node? place = t.node? place

end Machine

namespace Toolbox

/-! ## A host's own writing -/

/-- A host with files, whose programs are of any kind. -/
def hostWith (dir : FilePlace) (refusal? : List String → FileTree → Option String)
    (run : Bounds → List String → Flow → FileTree → StageRun × FileTree) : Machine FileTree :=
  { host dir with refusal?, run }

theorem host_eq (dir : FilePlace) : host dir = hostWith dir (refusal? dir) (runStage dir) := rfl

variable {dir : FilePlace} {refusal? : List String → FileTree → Option String}
  {run : Bounds → List String → Flow → FileTree → StageRun × FileTree}

theorem openFile_hostWith (r : Redirect) (t : FileTree) :
    (hostWith dir refusal? run).openFile r t = t.received dir r [] := by
  have content : (fun old => if r.append = true then old else []) =
      fun old => r.content old [] := by simp [Redirect.content]
  simp only [hostWith, host, withFiles, JobM.openFile, JobM.changeFile_run, FileTree.received,
    content]
  by_cases null : r.path = "/dev/null"
  · simp [null]
  · cases t.update dir r.path fun old => r.content old [] <;> simp [null]

theorem store_hostWith (r : Redirect) (output : Flow) (t : FileTree) :
    (hostWith dir refusal? run).store none r output t =
      if output.bytes = [] then t
      else (t.received dir { r with append := true } output.bytes).toOption.getD t := by
  have everything : (output.chunks.filter fun c => (none : Option Nat).all (c.time < ·)).flatMap
      (·.bytes) = output.bytes := by simp [Flow.bytes]
  have content : (fun old => Redirect.content { r with append := true } old output.bytes) =
      fun old => old ++ output.bytes := by simp [Redirect.content]
  simp only [hostWith, host, withFiles, JobM.fillFile_run, everything, FileTree.received, content]
  by_cases silent : output.bytes = []
  · cases t.update dir r.path (· ++ output.bytes) <;> simp [silent]
  · by_cases null : r.path = "/dev/null" <;>
      cases t.update dir r.path (· ++ output.bytes) <;> simp [silent, null, Except.toOption]

end Toolbox

end ReplicaSeed
