import ReplicaSeed.Proofs.Command.Grammar
import ReplicaSeed.Proofs.Execution.Ending
import ReplicaSeed.Proofs.Toolbox.Tee

/-!
# Elevated and plain redirections

A line that ends with a redirection writes the output of its last stage to a file. A plain line has
the agent open the file, and the last stage writes to it. An elevated line has `tee` do that as one
more stage, as the agent itself may not be able to. Both come to the same if the path is an operand
for `tee`. A path that begins with a dash is taken for an option, and what the line writes is lost.

## Main statements

* `Machine.execute_plain`, `Machine.execute_elevated`: what the two kinds of lines run.
* `execute_plain_of_writable`: a plain line writes what its stages write with the file as it was.
* `elevation_keeps_redirection`: an elevated line leaves the same files, if the path is an operand.
* `exists_redirection_lost`: a path that is none.
-/

namespace ReplicaSeed

open Command

theorem Command.filled_of_parse {line : String} {c : CommandLine}
    (parsed : CommandLine.parse line = .ok c) : c.Filled := by
  obtain ⟨-, ts, -, assembled⟩ := parse_eq_ok_iff.1 parsed
  exact (assemble_eq_ok_iff.1 assembled).filled

namespace Pipeline

variable {line : String} {c : CommandLine} {target : Redirect} {p : Pipeline} {runs : List StageRun}
  {out : Output}

theorem read_plain (parsed : CommandLine.parse line = .ok c)
    (redirected : c.redirect = some target) :
    Pipeline.read line false = .ok ⟨c.display, c.stages, .file target⟩ := by
  simp [Pipeline.read, parsed, ofLine, redirected, (parse_eq_ok_iff.1 parsed).1]

theorem read_elevated (parsed : CommandLine.parse line = .ok c)
    (redirected : c.redirect = some target) : Pipeline.read line true =
      .ok ⟨c.elevate.display, (c.stages ++ [teeWords target]).map (CommandLine.elevation ++ ·),
        .discard⟩ := by
  simp [Pipeline.read, parsed, ofLine, CommandLine.elevate, redirected,
    (parse_eq_ok_iff.1 parsed).1, teeStage_eq]

/-- What a pipeline gives that keeps no output. -/
theorem settle_eq_ok_iff (uncaptured : p.sink ≠ .capture) : p.settle false runs = .ok out ↔
    (∀ r ∈ runs, r.exit.isSuccess = true) ∧ out = ⟨[], errors runs⟩ := by
  have nothing : p.captured runs = [] := by
    unfold captured
    split
    · exact absurd ‹_› uncaptured
    · rfl
  rw [← firstFailure?_eq_none]
  unfold settle
  cases firstFailure? runs <;> simp [nothing, eq_comm]

end Pipeline

namespace Machine

variable {σ : Type} {m : Machine σ} {line : String} {c : CommandLine} {target : Redirect} {s : σ}
  {out : Output}

theorem refusal_eq_none_iff {stages : List (List String)} :
    m.refusal stages s = none ↔ ∀ words ∈ stages, m.refusal? words s = none := by
  simp [refusal]

/-- A plain line that succeeds has opened its file, and all of its stages have succeeded. -/
theorem execute_plain (parsed : CommandLine.parse line = .ok c)
    (redirected : c.redirect = some target) (ok : (m.execute line false s).1.result = .ok out) :
    ∃ opened, m.openFile target s = .ok opened ∧ m.refusal c.stages opened = none ∧
      let done := m.runStages none c.stages {} opened
      (∀ r ∈ done.1, r.exit.isSuccess = true) ∧ out = ⟨[], Pipeline.errors done.1⟩ ∧
        (m.execute line false s).2 = m.store none target (lastOutput {} done.1) done.2 := by
  simp only [execute, Pipeline.read_plain parsed redirected, launch, openSink] at ok ⊢
  cases opening : m.openFile target s with
  | error fault => simp [opening] at ok
  | ok opened =>
    cases refused : m.refusal c.stages opened with
    | some e => simp [opening, refused] at ok
    | none =>
      simp only [opening, refused] at ok ⊢
      obtain ⟨fine, rfl⟩ := (Pipeline.settle_eq_ok_iff (by simp)).1 ok
      refine ⟨opened, rfl, refused, fine, rfl, ?_⟩
      have some_ : (m.runStages none c.stages {} opened).1 ≠ [] := by
        rw [← List.length_pos_iff, length_runStages, List.length_pos_iff]
        exact (filled_of_parse parsed).1
      simp only [fillSink, lastOutput, List.getLast?_eq_some_getLast some_, Option.map_some,
        Option.getD_some]

/-- An elevated line that can be started runs its stages and one more that writes the file. -/
theorem execute_elevated (parsed : CommandLine.parse line = .ok c)
    (redirected : c.redirect = some target)
    (elevates : ∀ words ∈ c.stages ++ [teeWords target], m.Elevates words)
    (starts : ∀ words ∈ c.stages ++ [teeWords target], ∃ s, m.refusal? words s = none) :
    let done := m.runStages none (c.stages ++ [teeWords target]) {} s
    (m.execute line true s).2 = done.2 ∧
      ((∀ r ∈ done.1, r.exit.isSuccess = true) →
        (m.execute line true s).1.result = .ok ⟨[], Pipeline.errors done.1⟩) := by
  have started :
      m.refusal ((c.stages ++ [teeWords target]).map (CommandLine.elevation ++ ·)) s = none := by
    rw [refusal_eq_none_iff, List.forall_mem_map]
    intro words member
    obtain ⟨u, starts⟩ := starts words member
    exact (elevates words member).starts s starts
  simp only [execute, Pipeline.read_elevated parsed redirected, launch, openSink, started,
    runStages_elevated elevates, fillSink]
  exact ⟨trivial, fun fine => (Pipeline.settle_eq_ok_iff (by simp)).2 ⟨fine, rfl⟩⟩

end Machine

section Files

open Toolbox (hostWith)

variable {dir place : FilePlace} {refusal? : List String → FileTree → Option String}
  {run : Bounds → List String → Flow → FileTree → StageRun × FileTree} {line : String}
  {c : CommandLine} {target : Redirect} {t : FileTree} {out : Output}

/-- An elevated line writes the output of its last stage to a file that may be written all the
time. -/
theorem execute_elevated_of_operand {m : Machine FileTree} {P : FileTree → Prop}
    (parsed : CommandLine.parse line = .ok c) (redirected : c.redirect = some target)
    (elevates : ∀ words ∈ c.stages ++ [teeWords target], m.Elevates words) (tee : m.HasTee dir)
    (starts : ∀ words ∈ c.stages ++ [teeWords target], ∃ s, m.refusal? words s = none)
    (operand : isOperand target.path = true)
    (kept : ∀ words ∈ c.stages, ∀ room input s, P s → P (m.run ⟨none, room⟩ words input s).2)
    (written : ∀ s, P s → ∀ bytes, ∃ u, s.received dir target bytes = .ok u) (holds : P t) :
    let done := m.runStages none c.stages {} t
    done.2.received dir target (lastOutput {} done.1).bytes = .ok (m.execute line true t).2 ∧
      ((∀ r ∈ done.1, r.exit.isSuccess = true) →
        (m.execute line true t).1.result = .ok ⟨[], Pipeline.errors done.1⟩) := by
  intro done
  obtain ⟨tree, result⟩ := Machine.execute_elevated (s := t) parsed redirected elevates starts
  -- A stage may be run once more if its reader stops early. `tee` never does, as the file may be
  -- written in whatever state the stages leave.
  have reads (input : Flow) (s : FileTree) (holds : P s) :
      (m.run {} (teeWords target) input s).1.consumed = none := by
    obtain ⟨u, received⟩ := written s holds input.bytes
    exact (tee.copies target input s u operand received).2.2.2
  have whole := Machine.runStages_concat kept reads {} holds
  obtain ⟨u, received⟩ := written done.2 (Machine.runStages_keeps kept {} holds)
    (lastOutput {} done.1).bytes
  obtain ⟨copied, exit, quiet, -⟩ := tee.copies target _ _ u operand received
  refine ⟨?_, fun fine => ?_⟩
  · rw [received, tree, whole]
    exact congrArg Except.ok copied.symm
  · rw [result]
    · rw [whole]
      simp [Pipeline.errors, quiet, done]
    · rw [whole]
      simp only [List.mem_append, List.mem_singleton]
      rintro r (member | rfl)
      · exact fine r member
      · rw [exit]
        rfl

/-- What a plain line that succeeds has found. -/
theorem found_of_execute_plain (parsed : CommandLine.parse line = .ok c)
    (redirected : c.redirect = some target)
    (ok : ((hostWith dir refusal? run).execute line false t).1.result = .ok out) :
    ∃ opened, t.received dir target [] = .ok opened ∧
      (∀ words ∈ c.stages, refusal? words opened = none) ∧
      let done := (hostWith dir refusal? run).runStages none c.stages {} opened
      (∀ r ∈ done.1, r.exit.isSuccess = true) ∧ out = ⟨[], Pipeline.errors done.1⟩ ∧
        ((hostWith dir refusal? run).execute line false t).2 =
          if (lastOutput {} done.1).bytes = [] then done.2
          else (done.2.received dir { target with append := true }
            (lastOutput {} done.1).bytes).toOption.getD done.2 := by
  obtain ⟨opened, opening, starts, fine, same, tree⟩ := Machine.execute_plain parsed redirected ok
  rw [Toolbox.openFile_hostWith] at opening
  rw [Toolbox.store_hostWith] at tree
  exact ⟨opened, opening, Machine.refusal_eq_none_iff.1 starts, fine, same, tree⟩

/-- A plain line writes to a file what its stages would write with the file as it was. -/
theorem execute_plain_of_writable (parsed : CommandLine.parse line = .ok c)
    (redirected : c.redirect = some target) (real : target.path ≠ "/dev/null")
    (writable : t.Writable dir target.path place)
    (spares : ∀ words ∈ c.stages, (hostWith dir refusal? run).Spares dir target.path place words)
    (ok : ((hostWith dir refusal? run).execute line false t).1.result = .ok out) :
    let done := (hostWith dir refusal? run).runStages none c.stages {} t
    (∀ r ∈ done.1, r.exit.isSuccess = true) ∧ out = ⟨[], Pipeline.errors done.1⟩ ∧
      done.2.node? place = t.node? place ∧
      ∃ u, FileTree.Alike dir target.path place done.2 u ∧
        ∀ other, ((hostWith dir refusal? run).execute line false t).2.node? other = (u.put place
          (.file (target.content (t.bytesAt place) (lastOutput {} done.1).bytes))).node? other := by
  intro done
  obtain ⟨opened, opening, -, fine, rfl, tree⟩ := found_of_execute_plain parsed redirected ok
  rw [writable.received real] at opening
  obtain rfl := Except.ok.inj opening
  -- With the file opened the stages do what they do with it as it was.
  obtain ⟨same, alike, kept, kept'⟩ := Machine.runStages_related
    (R := fun s u => FileTree.Alike dir target.path place s u ∧ s.node? place = t.node? place ∧
      u.node? place = some (.file (target.content (t.bytesAt place) [])))
    (fun words member room input s u ⟨alike, kept, kept'⟩ =>
      ⟨(spares words member).run _ _ alike, (spares words member).alike _ _ alike,
        ((spares words member).keeps _ _ alike.left).trans kept,
        ((spares words member).keeps _ _ alike.right).trans kept'⟩)
    {} ⟨writable.alike_put _, rfl, FileTree.node?_put_self writable.deep⟩
  rw [← same] at fine tree ⊢
  refine ⟨fine, rfl, kept, _, alike, fun other => ?_⟩
  rw [tree]
  by_cases silent : (lastOutput {} done.1).bytes = []
  · rw [if_pos silent, silent, FileTree.node?_put_of_eq kept' writable.deep]
  · have opened := FileTree.bytesAt_of_file kept'
    rw [if_neg silent,
      FileTree.Writable.received (r := { target with append := true }) alike.right real, opened,
      Redirect.content_content]
    rfl

/-- An elevated line does not change a file whose path is no operand. -/
theorem execute_elevated_of_option {m : Machine FileTree} (parsed : CommandLine.parse line = .ok c)
    (redirected : c.redirect = some target)
    (elevates : ∀ words ∈ c.stages ++ [teeWords target], m.Elevates words) (tee : m.HasTee dir)
    (starts : ∀ words ∈ c.stages ++ [teeWords target], ∃ s, m.refusal? words s = none)
    (option : isOperand target.path = false) (writable : t.Writable dir target.path place)
    (spares : ∀ words ∈ c.stages, m.Spares dir target.path place words) :
    (m.execute line true t).2.read dir target.path = t.read dir target.path := by
  obtain ⟨tree, -⟩ := Machine.execute_elevated (s := t) parsed redirected elevates starts
  obtain ⟨writable', kept⟩ : (m.execute line true t).2.Writable dir target.path place ∧
      (m.execute line true t).2.node? place = t.node? place := by
    rw [tree]
    refine Machine.runStages_keeps
      (P := fun s : FileTree => s.Writable dir target.path place ∧ s.node? place = t.node? place)
      ?_ {} ⟨writable, rfl⟩
    rintro words member room input s ⟨writable, kept⟩
    obtain member | member := List.mem_append.1 member
    · exact ⟨((spares words member).alike _ input writable.alike_self).left,
        ((spares words member).keeps _ input writable).trans kept⟩
    · rw [List.mem_singleton.1 member, tee.ignores target _ input s option]
      exact ⟨writable, kept⟩
  rw [writable'.read_eq, writable.read_eq, FileTree.content, kept, FileTree.content]

/-- With the null device for a file, an elevated line leaves the same tree as a plain one. -/
theorem execute_of_null (parsed : CommandLine.parse line = .ok c)
    (redirected : c.redirect = some target) (null : target.path = "/dev/null")
    (elevates : ∀ words ∈ c.stages ++ [teeWords target], (hostWith dir refusal? run).Elevates words)
    (tee : (hostWith dir refusal? run).HasTee dir)
    (starts : ∀ words ∈ c.stages ++ [teeWords target], ∃ s, refusal? words s = none)
    (ok : ((hostWith dir refusal? run).execute line false t).1.result = .ok out) :
    out.stdout = [] ∧ ((hostWith dir refusal? run).execute line true t).1.result = .ok out ∧
      ((hostWith dir refusal? run).execute line true t).2 =
        ((hostWith dir refusal? run).execute line false t).2 := by
  obtain ⟨opened, opening, -, fine, rfl, tree⟩ := found_of_execute_plain parsed redirected ok
  obtain rfl := Except.ok.inj ((FileTree.received_null null).symm.trans opening)
  obtain ⟨copied, result⟩ := execute_elevated_of_operand (P := fun _ => True) (t := t) parsed
    redirected elevates tee starts (null ▸ rfl) (fun _ _ _ _ _ _ => trivial)
    (fun s _ _ => ⟨s, FileTree.received_null null⟩) trivial
  rw [FileTree.received_null null] at copied
  rw [FileTree.received_null (r := { target with append := true }) null] at tree
  refine ⟨rfl, result fine, (Except.ok.inj copied).symm.trans (Eq.trans ?_ tree.symm)⟩
  split <;> rfl

/-- With a file that may be written and whose path is an operand, an elevated line leaves the same
files as a plain one. -/
theorem execute_of_operand (parsed : CommandLine.parse line = .ok c)
    (redirected : c.redirect = some target) (real : target.path ≠ "/dev/null")
    (operand : isOperand target.path = true) (writable : t.Writable dir target.path place)
    (elevates : ∀ words ∈ c.stages ++ [teeWords target], (hostWith dir refusal? run).Elevates words)
    (tee : (hostWith dir refusal? run).HasTee dir)
    (starts : ∀ words ∈ c.stages ++ [teeWords target], ∃ s, refusal? words s = none)
    (spares : ∀ words ∈ c.stages, (hostWith dir refusal? run).Spares dir target.path place words)
    (ok : ((hostWith dir refusal? run).execute line false t).1.result = .ok out) :
    ((hostWith dir refusal? run).execute line true t).1.result = .ok out ∧
      ((hostWith dir refusal? run).execute line true t).2.Writable dir target.path place ∧
      ∀ other, ((hostWith dir refusal? run).execute line true t).2.node? other =
        ((hostWith dir refusal? run).execute line false t).2.node? other := by
  obtain ⟨fine, rfl, kept, u, alike, tree⟩ :=
    execute_plain_of_writable parsed redirected real writable spares ok
  obtain ⟨copied, result⟩ := execute_elevated_of_operand
    (P := fun s => s.Writable dir target.path place) parsed redirected elevates tee starts operand
    (fun words member room input s writable =>
      ((spares words member).alike _ input writable.alike_self).left)
    (fun s writable bytes => ⟨_, writable.received real bytes⟩) writable
  rw [alike.left.received real, FileTree.bytesAt_congr kept] at copied
  have tree' := (Except.ok.inj copied).symm
  refine ⟨result fine, ?_, fun other => ?_⟩
  · rw [tree']
    exact alike.left.put _
  · rw [tree', tree]
    exact alike.put _ other

/-- A plain line with a redirection that succeeds keeps no output, and the file of the redirection
holds what the stages write, behind what it held if it is appended to. The elevated line then
succeeds in the same way and leaves the same files, if `tee` takes the path for an operand;
otherwise it leaves the file as it was. This is so on every host where `sudo` runs its arguments as
they are, `tee` is there, and the stages neither look at the file nor change it. -/
theorem elevation_keeps_redirection (parsed : CommandLine.parse line = .ok c)
    (redirected : c.redirect = some target)
    (elevates : ∀ words ∈ c.stages ++ [teeWords target], (hostWith dir refusal? run).Elevates words)
    (tee : (hostWith dir refusal? run).HasTee dir)
    (spares : ∀ place, t.Writable dir target.path place → ∀ words ∈ c.stages,
      (hostWith dir refusal? run).Spares dir target.path place words)
    (ok : ((hostWith dir refusal? run).execute line false t).1.result = .ok out) :
    let plain := (hostWith dir refusal? run).execute line false t
    let elevated := (hostWith dir refusal? run).execute line true t
    let runs := ((hostWith dir refusal? run).runStages none c.stages {} t).1
    out.stdout = [] ∧
    (target.path ≠ "/dev/null" → plain.2.read dir target.path =
      .ok (target.content ((t.read dir target.path).toOption.getD []) (lastOutput {} runs).bytes)) ∧
    (isOperand target.path = true → elevated.1.result = .ok out ∧
      elevated.2.read dir target.path = plain.2.read dir target.path ∧
      ∀ place, elevated.2.node? place = plain.2.node? place) ∧
    (isOperand target.path = false →
      elevated.2.read dir target.path = t.read dir target.path) := by
  intro plain elevated runs
  obtain ⟨opened, opening, started, -⟩ := found_of_execute_plain parsed redirected ok
  have starts : ∀ words ∈ c.stages ++ [teeWords target], ∃ s, refusal? words s = none := by
    intro words member
    obtain member | member := List.mem_append.1 member
    · exact ⟨opened, started words member⟩
    · rw [List.mem_singleton.1 member]
      exact ⟨t, tee.starts target t (FileTree.checkPath_of_received opening)⟩
  by_cases null : target.path = "/dev/null"
  · obtain ⟨quiet, result, same⟩ := execute_of_null parsed redirected null elevates tee starts ok
    have operand : isOperand target.path = true := null ▸ rfl
    exact ⟨quiet, fun real => absurd null real,
      fun _ => ⟨result, by rw [same], fun _ => by rw [same]⟩,
      fun option => absurd (operand.symm.trans option) (by decide)⟩
  · obtain ⟨place, writable, -⟩ := (FileTree.received_eq_ok_iff null).1 opening
    have spared := spares place writable
    obtain ⟨-, silent, -, u, alike, tree⟩ :=
      execute_plain_of_writable parsed redirected null writable spared ok
    refine ⟨by rw [silent], fun _ => ?_, fun operand => ?_, fun option =>
      execute_elevated_of_option parsed redirected elevates tee starts option writable spared⟩
    · rw [writable.bytes_eq]
      exact FileTree.read_of_file ((alike.right.put _).congr fun other => (tree other).symm)
        ((tree place).trans (FileTree.node?_put_self writable.deep))
    · obtain ⟨result, writable', same⟩ := execute_of_operand parsed redirected null operand writable
        elevates tee starts spared ok
      refine ⟨result, ?_, same⟩
      rw [writable'.read_eq, (writable'.congr same).read_eq, FileTree.content, same place,
        FileTree.content]

open Toolbox (host)

/-- A line of the toolbox is appended to a file that is there. -/
theorem elevation_keeps_redirection_appending :
    let t : FileTree := ⟨[(["log"], .file [111, 10])]⟩
    let plain := (host []).execute "echo hi >> log" false t
    let elevated := (host []).execute "echo hi >> log" true t
    plain.1.result = .ok {} ∧ plain.2.read [] "log" = .ok [111, 10, 104, 105, 10] ∧
      elevated.1.result = .ok {} ∧ elevated.2.read [] "log" = plain.2.read [] "log" := by
  have parsed : CommandLine.parse "echo hi >> log" =
      .ok ⟨[["echo", "hi"]], some ⟨"log", true⟩, false⟩ := by decide +kernel
  have ok : ((host []).execute "echo hi >> log" false ⟨[(["log"], .file [111, 10])]⟩).1.result =
      .ok {} := by decide +kernel
  have read : ((host []).execute "echo hi >> log" false ⟨[(["log"], .file [111, 10])]⟩).2.read []
      "log" = .ok [111, 10, 104, 105, 10] := by decide +kernel
  have elevates := Toolbox.elevates_echo [] ["hi"] ⟨"log", true⟩
  have tee := Toolbox.hasTee []
  have spares := Toolbox.spares_echo [] ["hi"] "log"
  rw [Toolbox.host_eq] at elevates tee spares ok read ⊢
  obtain ⟨-, -, same, -⟩ := elevation_keeps_redirection parsed rfl elevates tee
    (fun place _ => spares place) ok
  obtain ⟨result, same, -⟩ := same (by decide)
  exact ⟨ok, read, result, same⟩

/-- A path that `tee` takes for an option: the plain line writes the file, and the elevated one
succeeds as well but writes none. -/
theorem exists_redirection_lost :
    (∀ words ∈ [["echo", "hi"]] ++ [teeWords ⟨"-a", false⟩], (host []).Elevates words) ∧
    (host []).HasTee [] ∧
    (∀ place, ∀ words ∈ [["echo", "hi"]], (host []).Spares [] "-a" place words) ∧
      let plain := (host []).execute "echo hi > -a" false {}
      let elevated := (host []).execute "echo hi > -a" true {}
      plain.1.result = .ok {} ∧ plain.2.read [] "-a" = .ok [104, 105, 10] ∧
        elevated.1.result = .ok {} ∧ elevated.2.read [] "-a" = .error .notFound :=
  ⟨Toolbox.elevates_echo [] ["hi"] ⟨"-a", false⟩, Toolbox.hasTee [],
    Toolbox.spares_echo [] ["hi"] "-a", by decide +kernel, by decide +kernel, by decide +kernel,
    by decide +kernel⟩

end Files

end ReplicaSeed
