import ReplicaSeed.Proofs.Execution.FilePlace
import ReplicaSeed.Toolbox.Host

/-!
# What jobs do

The file actions of a job without a limit of time, and what a job does not look at. Most of what a
program does has to do with its input and its outputs only: it would do the same with other files
and in another environment, and leave both as they are.

## Main definitions

* `Job.remake`: a job with another environment and other files.
* `JobM.Blind`: an action that does the same in them.

## Main statements

* `JobM.openFile_of_received`, `JobM.fillFile_of_received`: opening the file of a redirection and
  filling it.
* `JobM.Blind.bind`, `JobM.Blind.forIn`: actions one after the other.
-/

namespace ReplicaSeed.Toolbox

open Command

namespace JobM

variable {j : Job}

/-! ## Files -/

theorem changeFile_run (path : String) (change : List UInt8 → List UInt8) :
    (changeFile path change).run j =
      if path = "/dev/null" then (none, j)
      else
        match j.files.update j.dir path change with
        | .error fault => (some fault, j)
        | .ok files =>
          (none,
            if j.stopped = false ∧ j.bounds.time.all (j.clock < ·) = true then { j with files }
            else j) := by
  by_cases null : path = "/dev/null"
  · simp [changeFile, null]
    rfl
  · cases updated : j.files.update j.dir path change with
    | error fault =>
      simp [changeFile, null, updated]
      rfl
    | ok files =>
      by_cases timely : j.stopped = false ∧ j.bounds.time.all (j.clock < ·) = true <;>
      · simp [changeFile, inTime, null, updated, timely]
        rfl

theorem fillFile_run (path : String) (chunks : List Chunk) :
    (fillFile path chunks).run j =
      let bytes := (chunks.filter fun c => j.bounds.time.all (c.time < ·)).flatMap (·.bytes)
      ((),
        match j.files.update j.dir path (· ++ bytes) with
        | .ok files => if path ≠ "/dev/null" ∧ bytes ≠ [] then { j with files } else j
        | .error _ => j) := by
  generalize same :
    (chunks.filter fun c => j.bounds.time.all (c.time < ·)).flatMap (·.bytes) = bytes
  cases updated : j.files.update j.dir path (· ++ bytes) with
  | error fault =>
    simp [fillFile, same, updated]
    rfl
  | ok files =>
    by_cases takes : path ≠ "/dev/null" ∧ bytes ≠ [] <;>
    · simp [fillFile, same, updated, takes, -List.flatMap_eq_nil_iff]
      rfl

/-- Opening the file of a redirection. -/
theorem openFile_of_received {r : Redirect} {files : FileTree} (running : j.stopped = false)
    (endless : j.bounds.time = none) (received : j.files.received j.dir r [] = .ok files) :
    (openFile r.path r.append).run j = (none, { j with files }) := by
  have content : (fun old => if r.append = true then old else []) =
      fun old => r.content old [] := by simp [Redirect.content]
  unfold FileTree.received at received
  rw [openFile, changeFile_run, content]
  split at received
  · rename_i null
    cases received
    rw [if_pos null]
  · rename_i real
    rw [if_neg real, received]
    simp [running, endless]

/-- Filling the file of a redirection after it was opened. -/
theorem fillFile_of_received {r : Redirect} {files : FileTree} {chunks : List Chunk}
    {bytes : List UInt8} (endless : j.bounds.time = none) (whole : chunks.flatMap (·.bytes) = bytes)
    (received : j.files.received j.dir { r with append := true } bytes = .ok files) :
    (fillFile r.path chunks).run j = ((), if bytes = [] then j else { j with files }) := by
  have everything : (chunks.filter fun c => j.bounds.time.all (c.time < ·)).flatMap (·.bytes) =
      bytes := by simp [endless, whole]
  have content : (fun old => Redirect.content { r with append := true } old bytes) =
      fun old => old ++ bytes := by simp [Redirect.content]
  simp only [FileTree.received, content] at received
  simp only [fillFile_run, everything]
  split at received
  · rename_i null
    cases received
    cases j.files.update j.dir r.path (· ++ bytes) <;> simp [null]
  · rename_i real
    simp only [received]
    by_cases silent : bytes = [] <;> simp [real, silent]

end JobM

/-! ## What a job does not look at -/

/-- The job with another environment and other files. -/
def Job.remake (environment : List (String × String) → List (String × String))
    (files : FileTree → FileTree) (j : Job) : Job :=
  { j with environment := environment j.environment, files := files j.files }

namespace JobM

/-- What is done does not depend on a change of the job, and leaves it as it is. -/
def Blind {α : Type} (change : Job → Job) (action : JobM α) : Prop :=
  ∀ j, action.run (change j) = ((action.run j).1, change (action.run j).2)

namespace Blind

variable {α β : Type} {change : Job → Job}
  {environment : List (String × String) → List (String × String)} {files : FileTree → FileTree}

theorem pure (a : α) : Blind change (Pure.pure a : JobM α) := fun _ => rfl

theorem bind {action : JobM α} {next : α → JobM β} (blind : Blind change action)
    (later : ∀ a, Blind change (next a)) : Blind change (action >>= next) := by
  intro j
  rw [StateT.run_bind, StateT.run_bind, blind j]
  exact later _ _

theorem forM {γ : Type} {action : γ → JobM PUnit} (blind : ∀ c, Blind change (action c))
    (cs : List γ) : Blind change (cs.forM action) := by
  induction cs with
  | nil => exact pure _
  | cons c cs ih => exact (blind c).bind fun _ => ih

theorem forIn {γ : Type} {step : γ → β → JobM (ForInStep β)}
    (blind : ∀ c b, Blind change (step c b)) (cs : List γ) (b : β) :
    Blind change (ForIn.forIn cs b step) := by
  induction cs generalizing b with
  | nil => exact pure _
  | cons c cs ih =>
    rw [List.forIn_cons]
    refine (blind c b).bind fun
      | .done b => pure b
      | .yield b => ih b

theorem act {f : Job → Job} (same : ∀ j, f (change j) = change (f j))
    (stopped : ∀ j, (change j).stopped = j.stopped) : Blind change (JobM.act f) := by
  intro j
  show ((), if (change j).stopped then change j else f (change j)) =
    ((), change (if j.stopped then j else f j))
  rw [stopped, same]
  split <;> rfl

theorem emitAt (time : Nat) (port : Port) (bytes : List UInt8) :
    Blind (Job.remake environment files) (JobM.emitAt time port bytes) := by
  refine act (fun j => ?_) fun _ => rfl
  by_cases silent : bytes.isEmpty
  · simp only [silent, ↓reduceIte]
  · cases room : j.bounds.room with
    | none => cases port <;> simp [silent, Job.remake, room]
    | some n =>
      by_cases fits : bytes.length ≤ n <;> cases port <;> simp [silent, Job.remake, room, fits]

theorem emit (port : Port) (bytes : List UInt8) :
    Blind (Job.remake environment files) (JobM.emit port bytes) := by
  intro j
  exact emitAt j.clock port bytes j

theorem exitWith (code : Nat) : Blind (Job.remake environment files) (JobM.exitWith code) :=
  act (fun _ => rfl) fun _ => rfl

theorem complain (text : String) (code : Nat) :
    Blind (Job.remake environment files) (JobM.complain text code) :=
  (emit _ _).bind fun _ => exitWith code

theorem misuse (name text : String) (code : Nat) :
    Blind (Job.remake environment files) (JobM.misuse name text code) :=
  (emit _ _).bind fun _ => complain _ _

theorem readChunks : Blind (Job.remake environment files) JobM.readChunks := by
  rintro ⟨_, _, stopped⟩
  cases stopped <;> rfl

/-- Files are changed in the same way in each environment. -/
theorem openFile (path : String) (append : Bool) :
    Blind (Job.remake environment id) (JobM.openFile path append) := by
  intro j
  simp only [JobM.openFile, changeFile_run, Job.remake, id]
  split
  · rfl
  · split
    · rfl
    · split <;> rfl

theorem fillFile (path : String) (chunks : List Chunk) :
    Blind (Job.remake environment id) (JobM.fillFile path chunks) := by
  intro j
  simp only [fillFile_run, Job.remake, id]
  split
  · split <;> rfl
  · rfl

end Blind

end JobM

end ReplicaSeed.Toolbox
