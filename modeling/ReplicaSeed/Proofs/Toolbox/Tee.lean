import ReplicaSeed.Proofs.Execution.Destination

/-!
# `tee` and `echo` of the toolbox

The toolbox's `tee` takes a path that begins with a dash for an option, and writes each other one.
Like `echo` it does not look at its environment, so that `sudo` runs both as they are.

## Main statements

* `elevates_of_blind`, `spares_of_blind`: programs that look at nothing but their input.
* `OptionSet.readFrom_operand`, `OptionSet.readFrom_option`: what a word is taken for.
* `hasTee`: the toolbox has `tee`.
-/

namespace ReplicaSeed.Toolbox

open Command

variable {dir : FilePlace} {name : String} {words : List String} {tool : Tool}

/-! ## Programs -/

theorem programsWithin_tee (depth : Nat) : programsWithin depth "tee" = some tee := by
  cases depth <;> rfl

theorem programsWithin_echo (depth : Nat) : programsWithin depth "echo" = some echo := by
  cases depth <;> rfl

theorem programs_sudo : programs "sudo" = some (runElevated (programsWithin 31)) := rfl

/-- A program that there is can be started if no word has a zero character. -/
theorem refusal?_eq_none_iff (known : programs name = some tool) {t : FileTree} :
    (host dir).refusal? (name :: words) t = none ↔ ∀ w ∈ name :: words, '\x00' ∉ w.toList := by
  simp [host, refusal?, known]

/-- A program that does not look at its environment does under `sudo` what it always does. -/
theorem elevates_of_blind (found : ∀ depth, programsWithin depth name = some tool)
    (blind : ∀ environment, JobM.Blind (Job.remake environment id) (tool words)) :
    (host dir).Elevates (name :: words) where
  starts {s} u started := by
    have clean := (refusal?_eq_none_iff (found maxDepth)).1 started
    refine (refusal?_eq_none_iff programs_sudo).2 fun w member => ?_
    obtain rfl | member := List.mem_cons.1 member
    · decide
    · obtain rfl | member := List.mem_cons.1 member
      · decide
      · exact clean w member
  runs bounds input t := by
    have there : programs name = some tool := found maxDepth
    have run : (runElevated (programsWithin 31) ("-n" :: name :: words)).run
        { dir, bounds, input, files := t } =
        (tool words).run
          (Job.remake (("SEED_SUDO", "1") :: ·) id { dir, bounds, input, files := t }) := by
      simp only [runElevated, found]
      rfl
    have elevated := blind (("SEED_SUDO", "1") :: ·) { dir, bounds, input, files := t }
    simp only [host, CommandLine.elevation, runStage, List.cons_append, List.nil_append,
      programs_sudo, there, Option.getD_some, run, elevated]
    rfl

/-- A program that does not look at files does the same with all of them. -/
theorem run_of_blind (found : programs name = some tool)
    (blind : ∀ files, JobM.Blind (Job.remake id files) (tool words)) (bounds : Bounds)
    (input : Flow) (t : FileTree) : (host dir).run bounds (name :: words) input t =
      (((host dir).run bounds (name :: words) input {}).1, t) := by
  have other : (tool words).run { dir, bounds, input, files := t } = _ :=
    blind (fun _ => t) { dir, bounds, input, files := {} }
  simp only [host, runStage, found, Option.getD_some, other]
  rfl

theorem spares_of_blind (found : programs name = some tool)
    (blind : ∀ files, JobM.Blind (Job.remake id files) (tool words)) (path : String)
    (place : FilePlace) : (host dir).Spares dir path place (name :: words) where
  run {t u} bounds input _ := by
    rw [run_of_blind found blind bounds input t, run_of_blind found blind bounds input u]
  alike {t u} bounds input alike := by
    rw [run_of_blind found blind bounds input t, run_of_blind found blind bounds input u]
    exact alike
  keeps {t} bounds input _ := by rw [run_of_blind found blind bounds input t]

theorem echo_blind {environment : List (String × String) → List (String × String)}
    {files : FileTree → FileTree} (words : List String) :
    JobM.Blind (Job.remake environment files) (echo words) := .emit _ _

/-! ## Options and operands -/

namespace OptionSet

variable {set : OptionSet} {word : String}

theorem readFrom_operand (operand : isOperand word = true) :
    set.readFrom none [word] = .ok { operands := [word] } := by
  unfold isOperand at operand
  simp only [readFrom]
  split <;> simp_all [Except.map]

/-- No option in one word wants a value if there is none that has one. -/
theorem readCluster_none (flags : set.valued = []) {cs : List Char}
    {options : List GivenOption} {wanted : Option Char}
    (read : set.readCluster cs = .ok (options, wanted)) : wanted = none := by
  induction cs generalizing options wanted with
  | nil =>
    cases read
    rfl
  | cons c cs ih =>
    simp only [readCluster, flags] at read
    split at read
    · cases rest : set.readCluster cs with
      | error text => simp [rest, Except.map] at read
      | ok given =>
        simp [rest, Except.map] at read
        exact read.2 ▸ ih rest
    · simp at read

theorem readLong_none (flags : set.valued = []) (long : set.longValued = [])
    {options : List GivenOption} {wanted : Option Char}
    (read : set.readLong word = .ok (options, wanted)) : wanted = none := by
  simp only [readLong, readLong.wantsValue, flags, long, List.contains_nil,
    Bool.or_self, Bool.false_eq_true, ↓reduceIte] at read
  split at read
  · cases read
  · cases read
  · cases read
    rfl

theorem readFrom_option (flags : set.valued = []) (long : set.longValued = [])
    (option : isOperand word = false) :
    (∃ text, set.readFrom none [word] = .error text) ∨
      ∃ options, set.readFrom none [word] = .ok { options } := by
  unfold isOperand at option
  simp only [readFrom]
  split
  · exact .inr ⟨[], rfl⟩
  · cases read : set.readLong _ with
    | error text => exact .inl ⟨text, rfl⟩
    | ok given =>
      obtain ⟨options, wanted⟩ := given
      obtain rfl := readLong_none flags long read
      exact .inr ⟨_, rfl⟩
  · cases read : set.readCluster _ with
    | error text => exact .inl ⟨text, rfl⟩
    | ok given =>
      obtain ⟨options, wanted⟩ := given
      obtain rfl := readCluster_none flags read
      exact .inr ⟨_, rfl⟩
  · simp_all

end OptionSet

/-- The options of `tee`. -/
def teeOptions : OptionSet :=
  { flags := ['a', 'i', 'p'], long := [("append", 'a'), ("ignore-interrupts", 'i')] }

theorem readFrom_append (words : List String) : teeOptions.readFrom none ("-a" :: words) =
    (teeOptions.readFrom none words).map fun g => { g with options := ⟨'a', ""⟩ :: g.options } :=
  rfl

theorem read_of_operand {r : Redirect} (operand : isOperand r.path = true) :
    teeOptions.read (teeArguments r) = .ok ⟨if r.append then [⟨'a', ""⟩] else [], [r.path]⟩ := by
  have path : teeOptions.readFrom none [r.path] = _ := OptionSet.readFrom_operand operand
  cases append : r.append with
  | false => simpa [teeArguments, append, OptionSet.read] using path
  | true => simp [teeArguments, append, OptionSet.read, readFrom_append, path, Except.map]

theorem read_of_option {r : Redirect} (option : isOperand r.path = false) :
    (∃ text, teeOptions.read (teeArguments r) = .error text) ∨
      ∃ options, teeOptions.read (teeArguments r) = .ok { options } := by
  have path : (∃ text, teeOptions.readFrom none [r.path] = .error text) ∨
      ∃ options, teeOptions.readFrom none [r.path] = .ok { options } :=
    OptionSet.readFrom_option rfl rfl option
  cases append : r.append with
  | false => simpa [teeArguments, append, OptionSet.read] using path
  | true =>
    obtain ⟨text, path⟩ | ⟨options, path⟩ := path
    · refine .inl ⟨text, ?_⟩
      simp [teeArguments, append, OptionSet.read, readFrom_append, path, Except.map]
    · refine .inr ⟨⟨'a', ""⟩ :: options, ?_⟩
      simp [teeArguments, append, OptionSet.read, readFrom_append, path, Except.map]

/-! ## Copying -/

namespace JobM

variable {j : Job}

theorem emitAt_run (running : j.stopped = false) (unbounded : j.bounds.room = none) (time : Nat)
    (port : Port) (bytes : List UInt8) : ∃ written, (∀ e ∈ written, e.port = port) ∧
      (emitAt time port bytes).run j = ((), { j with emissions := j.emissions ++ written }) := by
  obtain ⟨dir, bounds, stopped⟩ := j
  obtain rfl : stopped = false := running
  by_cases silent : bytes.isEmpty
  · refine ⟨[], by simp, ?_⟩
    simp [emitAt, act, silent]
    rfl
  · refine ⟨[⟨time, port, bytes⟩], by simp, ?_⟩
    cases port <;>
    · simp only at unbounded
      simp [emitAt, act, unbounded, silent]
      rfl

/-- Copying writes to the output only. -/
theorem copyChunks_run (running : j.stopped = false) (unbounded : j.bounds.room = none)
    (chunks : List Chunk) : ∃ written, (∀ e ∈ written, e.port = .output) ∧
      (copyChunks chunks).run j = ((), { j with emissions := j.emissions ++ written }) := by
  induction chunks generalizing j with
  | nil => exact ⟨[], by simp, by simp [copyChunks]; rfl⟩
  | cons c chunks ih =>
    obtain ⟨written, output, first⟩ := emitAt_run running unbounded c.time .output c.bytes
    obtain ⟨written', output', rest⟩ :=
      @ih { j with emissions := j.emissions ++ written } running unbounded
    refine ⟨written ++ written', ?_, ?_⟩
    · simpa [or_imp, forall_and] using ⟨output, output'⟩
    · have next : (copyChunks (c :: chunks)).run j =
          (copyChunks chunks).run ((emitAt c.time .output c.bytes).run j).2 := rfl
      rw [next, first, rest]
      simp

theorem readChunks_run (running : j.stopped = false) : ∃ clock chunks,
    readChunks.run j = (chunks, { j with clock, input := ⟨[], clock⟩, consumed := none }) ∧
      chunks.flatMap (·.bytes) = j.input.bytes := by
  refine ⟨max j.clock j.input.ends,
    j.input.chunks.map fun c => { c with time := max j.clock c.time }, ?_, ?_⟩
  · simp [readChunks, running]
    rfl
  · simp [List.flatMap_map, Flow.bytes]

end JobM

/-! ## Forking a flow -/

theorem tee_blind {environment : List (String × String) → List (String × String)}
    (words : List String) : JobM.Blind (Job.remake environment id) (tee words) := by
  unfold tee withOptions
  split
  · exact .misuse _ _ _
  · refine .bind (.forIn (fun path opened => .bind (.openFile _ _) fun fault? => ?_) _ _)
      fun opened => .bind .readChunks fun chunks =>
        .bind (.forM (fun c => .emitAt _ _ _) _) fun _ =>
          .bind (.forIn (fun path _ => .bind (.fillFile _ _) fun _ => .pure _) _ _) fun _ => .pure _
    cases fault? with
    | none => exact .pure _
    | some fault => exact .bind (.complain _ _) fun _ => .pure _

/-- With an operand that can be opened, `tee` opens it, copies its input and fills the file. -/
theorem tee_run {r : Redirect} {j opened read copied filled : Job} {chunks : List Chunk}
    (operand : isOperand r.path = true)
    (opens : (JobM.openFile r.path r.append).run j = (none, opened))
    (reads : JobM.readChunks.run opened = (chunks, read))
    (copies : (copyChunks chunks).run read = ((), copied))
    (fills : (JobM.fillFile r.path chunks).run copied = ((), filled)) :
    (tee (teeArguments r)).run j = ((), filled) := by
  have words : OptionSet.read _ (teeArguments r) = _ := read_of_operand operand
  have has : GivenWords.has ⟨if r.append then [⟨'a', ""⟩] else [], [r.path]⟩ 'a' = r.append := by
    cases r.append <;> rfl
  simp only [tee, withOptions, teeOptions] at words ⊢
  rw [words]
  -- As values of the monad, the jobs are handed on by `pure_bind`.
  replace opens : (JobM.openFile r.path r.append).run j = pure (none, opened) := opens
  replace reads : JobM.readChunks.run opened = pure (chunks, read) := reads
  replace copies : (copyChunks chunks).run read = pure ((), copied) := copies
  replace fills : (JobM.fillFile r.path chunks).run copied = pure ((), filled) := fills
  simp [has, opens, reads, copies, fills]
  rfl

theorem tee_run_of_received {r : Redirect} {j : Job} {files : FileTree}
    (operand : isOperand r.path = true) (running : j.stopped = false) (unbounded : j.bounds = {})
    (received : j.files.received j.dir r j.input.bytes = .ok files) :
    ∃ clock written, (∀ e ∈ written, e.port = .output) ∧
      (tee (teeArguments r)).run j = ((), { j with
        clock
        input := ⟨[], clock⟩
        files
        consumed := none
        emissions := j.emissions ++ written }) := by
  have endless : j.bounds.time = none := by rw [unbounded]
  obtain ⟨empty, opened⟩ := FileTree.exists_received received []
  have opens := JobM.openFile_of_received running endless opened
  obtain ⟨clock, chunks, reads, whole⟩ :=
    JobM.readChunks_run (j := { j with files := empty }) running
  obtain ⟨written, output, copies⟩ := JobM.copyChunks_run
    (j := { j with files := empty, clock, input := ⟨[], clock⟩, consumed := none }) running
    (by rw [unbounded]) chunks
  have fills := JobM.fillFile_of_received
    (j := { j with
      files := empty, clock, input := ⟨[], clock⟩, consumed := none
      emissions := j.emissions ++ written })
    endless whole ((FileTree.received_append opened _).trans received)
  refine ⟨clock, written, output, (tee_run operand opens reads copies fills).trans ?_⟩
  by_cases silent : j.input.bytes = []
  · obtain rfl : empty = files := Except.ok.inj (opened.symm.trans (silent ▸ received))
    simp [silent]
  · simp [silent]

/-- Without an operand `tee` leaves all files as they are. -/
theorem tee_blind_of_option {r : Redirect} {change : FileTree → FileTree}
    (option : isOperand r.path = false) :
    JobM.Blind (Job.remake id change) (tee (teeArguments r)) := by
  obtain ⟨text, read⟩ | ⟨options, read⟩ := read_of_option option
  · simp only [tee, withOptions, teeOptions] at read ⊢
    rw [read]
    exact .misuse _ _ _
  · simp only [tee, withOptions, teeOptions] at read ⊢
    rw [read]
    simp only [List.forIn_nil, pure_bind]
    exact .bind .readChunks fun chunks => .bind (.forM (fun c => .emitAt _ _ _) _) fun _ => .pure _

/-- The toolbox has `tee`. -/
theorem hasTee (dir : FilePlace) : (host dir).HasTee dir where
  starts r t good := by
    refine (refusal?_eq_none_iff (programsWithin_tee maxDepth)).2 fun w member => ?_
    have path : '\x00' ∉ r.path.toList := FileTree.zero_not_mem_of_checkPath good
    cases append : r.append <;> simp [teeArguments, append] at member
    · obtain rfl | rfl := member
      · decide
      · exact path
    · obtain rfl | rfl | rfl := member
      · decide
      · decide
      · exact path
  copies r input t u operand received := by
    obtain ⟨clock, written, output, run⟩ := tee_run_of_received
      (j := { dir, bounds := {}, input, files := t }) operand rfl rfl received
    have errors : written.filter (·.port = .errors) = [] := by
      rw [List.filter_eq_nil_iff]
      intro e member
      simp [output e member]
    have found : programs "tee" = some tee := programsWithin_tee maxDepth
    have stage : (host dir).run {} (teeWords r) input t = _ :=
      show runStage dir {} ("tee" :: teeArguments r) input t = _ by
        simp only [runStage, found, Option.getD_some, run]
        rfl
    rw [stage]
    refine ⟨rfl, rfl, ?_, rfl⟩
    simp [Job.stageRun, chunksOf, errors]
  ignores r bounds input t option := by
    have found : programs "tee" = some tee := programsWithin_tee maxDepth
    exact congrArg Prod.snd
      (run_of_blind found (fun _ => tee_blind_of_option option) bounds input t)

/-! ## Lines of `echo` -/

theorem elevates_echo (dir : FilePlace) (words : List String) (target : Redirect) :
    ∀ stage ∈ ["echo" :: words] ++ [teeWords target], (host dir).Elevates stage := by
  intro stage member
  obtain member | member := List.mem_append.1 member
  · rw [List.mem_singleton.1 member]
    exact elevates_of_blind programsWithin_echo fun _ => echo_blind _
  · rw [List.mem_singleton.1 member]
    exact elevates_of_blind programsWithin_tee fun _ => tee_blind _

theorem spares_echo (dir : FilePlace) (words : List String) (path : String) (place : FilePlace) :
    ∀ stage ∈ ["echo" :: words], (host dir).Spares dir path place stage := by
  intro stage member
  rw [List.mem_singleton.1 member]
  exact spares_of_blind (programsWithin_echo maxDepth) (fun _ => echo_blind _) path place

end ReplicaSeed.Toolbox
