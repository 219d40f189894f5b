import ReplicaSeed.Proofs.Method.Commands
import ReplicaSeed.Proofs.Method.Plan

/-!
# The outline of a stage

In which order a stage runs its lines, and of which shape they are, is decided by flags and by the
answers on the way. Two configurations that agree in the flags go on in step as long as they get the
same answers, whatever values they and their requests hold.

## Main definitions

* `Line.outline`: a line without its values.
* `Procedure.InStep`: two procedures that go on in step.
* `StageFlags`: what decides about the order of the lines and about their shapes.
* `outlines`: the lines that were run, without their values.

## Main statements

* `Procedure.InStep.path`: what one procedure does tells what the other does.
* `Config.Methods.inStep`: configurations with the same flags are in step.
* `Config.Methods.outlines_of_stageFlags`: they run lines of the same shapes in the same order.
-/

namespace ReplicaSeed

open Command

/-! ## Procedures in step -/

/-- A line without its values: the shape in which it is read. Of a line that the operator has given
nothing is said. -/
def Line.outline : Line → Option (Except SyntaxFault (List (Option String × Nat) × Bool))
  | .built t => some ((CommandLine.parse t.text).map CommandLine.shape)
  | .given _ => none

/-- Two requests ask for the same with lines of one outline. What is answered to the first can be
answered to the second. -/
inductive HostRequest.InStep : (q q' : HostRequest) → (q.Answer → q'.Answer) → Prop
  | note (text text' : String) : InStep (note text) (note text') id
  | exec {line line' : Line} (same : line.outline = line'.outline) (elevate elevate' : Bool) :
    InStep (exec line elevate) (exec line' elevate') id
  | capture {line line' : Line} (same : line.outline = line'.outline) (elevate elevate' : Bool) :
    InStep (capture line elevate) (capture line' elevate') id
  | probe {line line' : Line} (same : line.outline = line'.outline) (elevate elevate' : Bool)
      (limit limit' : Span) :
    InStep (probe line elevate limit) (probe line' elevate' limit') id
  | database (call : Database.Call) : InStep (database call) (database call) id
  | probeDatabase (call : Database.Call) (limit limit' : Span) :
    InStep (probeDatabase call limit) (probeDatabase call limit') id
  | readFile (path path' : String) : InStep (readFile path) (readFile path') id
  | writeFile (path path' content content' : String) :
    InStep (writeFile path content) (writeFile path' content') id

/-- Two exchanges with requests in step and the same answer. -/
def Exchange.InStep (x y : Exchange Interface.host) : Prop :=
  ∃ carry, x.asked.InStep y.asked carry ∧ y.answer = carry x.answer

/-- The outlines of the lines that were run, in their order. -/
def outlines (exchanges : List (Exchange Interface.host)) :
    List (Option (Except SyntaxFault (List (Option String × Nat) × Bool))) :=
  exchanges.filterMap fun x => x.asked.line?.map Line.outline

theorem HostRequest.InStep.outline {q q' : HostRequest} {carry : q.Answer → q'.Answer}
    (h : q.InStep q' carry) : q.line?.map Line.outline = q'.line?.map Line.outline := by
  cases h with
  | exec same => exact congrArg some same
  | capture same => exact congrArg some same
  | probe same => exact congrArg some same
  | _ => rfl

theorem outlines_eq {exchanges exchanges' : List (Exchange Interface.host)}
    (h : List.Forall₂ Exchange.InStep exchanges exchanges') :
    outlines exchanges = outlines exchanges' := by
  induction h with
  | nil => rfl
  | cons step _ ih =>
    obtain ⟨carry, asks, -⟩ := step
    rw [outlines, List.filterMap_cons, asks.outline, ← outlines, ih, outlines, outlines,
      List.filterMap_cons]

namespace Procedure

/-- Two results are related values, or both are failures. -/
inductive Agree {α β : Type} (R : α → β → Prop) :
    Except MethodError α → Except MethodError β → Prop
  | ok {a : α} {b : β} (h : R a b) : Agree R (.ok a) (.ok b)
  | error (e e' : MethodError) : Agree R (.error e) (.error e')

/-- As long as they get the same answers, two procedures make requests in step, and they end with
related results. -/
inductive InStep {α β : Type} (R : α → β → Prop) : Work α → Work β → Prop
  | done {a : α} {b : β} (h : R a b) : InStep R (.done a) (.done b)
  | fail (e e' : MethodError) : InStep R (.fail e) (.fail e')
  | ask {q q' : HostRequest} {carry : q.Answer → q'.Answer} {next : q.Answer → Work α}
      {next' : q'.Answer → Work β} (asks : q.InStep q' carry)
      (rest : ∀ answer, InStep R (next answer) (next' (carry answer))) :
    InStep R (.ask q next) (.ask q' next')

namespace InStep

variable {α β γ δ : Type} {R : α → β → Prop} {S : γ → δ → Prop} {x : Work α} {y : Work β}
  {f : α → Work γ} {g : β → Work δ}

theorem bind (first : InStep R x y) (rest : ∀ a b, R a b → InStep S (f a) (g b)) :
    InStep S (x >>= f) (y >>= g) := by
  induction first with
  | done h => exact rest _ _ h
  | fail e e' => exact .fail e e'
  | ask asks _ ih => exact .ask asks ih

/-- After the same value both go on with it. -/
theorem next {x y : Work α} {f : α → Work γ} {g : α → Work δ} (first : InStep Eq x y)
    (rest : ∀ a, InStep S (f a) (g a)) : InStep S (x >>= f) (y >>= g) := by
  refine first.bind ?_
  rintro a _ rfl
  exact rest a

theorem attempt (h : InStep R x y) : InStep (Agree R) x.attempt y.attempt := by
  induction h with
  | done h => exact .done (.ok h)
  | fail e e' => exact .done (.error e e')
  | ask asks _ ih => exact .ask asks ih

theorem ofExcept {r : Except MethodError α} {r' : Except MethodError β} (h : Agree R r r') :
    InStep R (.ofExcept r) (.ofExcept r') := by
  cases h with
  | ok h => exact .done h
  | error e e' => exact .fail e e'

/-- Where one procedure goes, the other goes in step. -/
theorem path {exchanges : List (Exchange Interface.host)} {result : Except MethodError α}
    (h : InStep R x y) (path : x.Path exchanges result) :
    ∃ exchanges' result', y.Path exchanges' result' ∧
      List.Forall₂ Exchange.InStep exchanges exchanges' ∧ Agree R result result' := by
  induction h generalizing exchanges with
  | done h =>
    obtain ⟨rfl, rfl⟩ := path_done_iff.1 path
    exact ⟨_, _, .done _, .nil, .ok h⟩
  | fail e e' =>
    obtain ⟨rfl, rfl⟩ := path_fail_iff.1 path
    exact ⟨_, _, .fail _, .nil, .error e e'⟩
  | @ask q q' carry next next' asks rest ih =>
    obtain ⟨answer, later, rfl, after⟩ := path_ask_iff.1 path
    obtain ⟨later', result', path', inStep, agree⟩ := ih answer after
    exact ⟨_, result', .ask (carry answer) path', .cons ⟨carry, asks, rfl⟩ inStep, agree⟩

end InStep

end Procedure

open Procedure (InStep)

/-! ## What the methods share -/

/-- Templates of one shape that can be checked without their values have one outline. -/
theorem Command.Template.outline_eq {t t' : Template} (plain : t.isPlain = true)
    (plain' : t'.isPlain = true) (shape : t.commandLine.shape = t'.commandLine.shape) :
    (Line.built t).outline = (Line.built t').outline := by
  rw [Line.outline, Line.outline, t.parse_text (t.wellFormed_of_isPlain plain),
    t'.parse_text (t'.wellFormed_of_isPlain plain'), Except.map, Except.map, shape]

/-- The shape of a line can be read off its template. -/
theorem Command.Template.shape_commandLine (t : Template) :
    t.commandLine.shape =
      (t.stages.map fun words => (words.head?.map WordTemplate.meaning, words.length),
        t.output.isSome) := by
  simp [Template.commandLine, CommandLine.shape, Function.comp_def]

/-- Lines of one program with the same number of words have one outline. -/
theorem Command.Template.outline_single {program : WordTemplate} {words words' : List WordTemplate}
    (plain : (single (program :: words)).isPlain = true)
    (plain' : (single (program :: words')).isPlain = true)
    (count : words.length = words'.length) :
    (Line.built (single (program :: words))).outline =
      (Line.built (single (program :: words'))).outline := by
  refine outline_eq plain plain' ?_
  simp [shape_commandLine, single, count]

namespace Work

theorem inStep_note (text text' : String) : InStep Eq (note text) (note text') :=
  .ask (.note text text') fun _ => .done rfl

theorem inStep_database (call : Database.Call) : InStep Eq (database call) (database call) :=
  .ask (.database call) fun | .ok _ => .done rfl | .error _ => .fail _ _

theorem inStep_writeFile (path path' content content' : String) :
    InStep Eq (writeFile path content) (writeFile path' content') :=
  .ask (.writeFile path path' content content') fun | .ok () => .done rfl | .error _ => .fail _ _

theorem inStep_readText (path path' : String) : InStep Eq (readText path) (readText path') := by
  refine .next (.ask (.readFile path path') fun | .ok _ => .done rfl | .error _ => .fail _ _) ?_
  intro bytes
  split
  · exact .done rfl
  · exact .fail _ _

theorem inStep_artifact (path path' : String) (parsed : Except ArtifactFault Coordinates) :
    InStep Eq (artifact path parsed) (artifact path' parsed) := by
  cases parsed with
  | ok c => exact .done rfl
  | error fault => exact .fail _ _

end Work

namespace Site

variable (site site' : Site) {line line' : Line}

theorem inStep_exec (same : line.outline = line'.outline) :
    InStep Eq (site.exec line) (site'.exec line') :=
  .ask (.exec same _ _) fun | .ok () => .done rfl | .error _ => .fail _ _

theorem inStep_probeOutput (same : line.outline = line'.outline) :
    InStep Eq (site.probeOutput line) (site'.probeOutput line') :=
  .ask (.probe same _ _ _ _) fun _ => .done rfl

theorem inStep_probe (same : line.outline = line'.outline) :
    InStep Eq (site.probe line) (site'.probe line') :=
  .next (site.inStep_probeOutput site' same) fun _ => .done rfl

theorem inStep_succeeds (same : line.outline = line'.outline) :
    InStep Eq (site.succeeds line) (site'.succeeds line') := by
  refine .bind (.attempt (R := Eq)
    (.ask (.capture same _ _) fun | .ok _ => .done rfl | .error _ => .fail _ _)) ?_
  rintro _ _ (h | _)
  · exact .done rfl
  · exact .done rfl

theorem inStep_stopService : InStep Eq site.stopService site'.stopService :=
  .next (Work.inStep_note _ _) fun _ => site.inStep_exec site' rfl

theorem inStep_startService : InStep Eq site.startService site'.startService :=
  .next (Work.inStep_note _ _) fun _ => site.inStep_exec site' rfl

theorem inStep_removePath (path path' : String) :
    InStep Eq (site.removePath path) (site'.removePath path') :=
  site.inStep_exec site' (Template.outline_single rfl rfl rfl)

theorem inStep_makeDirectory (path path' : String) :
    InStep Eq (site.makeDirectory path) (site'.makeDirectory path') :=
  site.inStep_exec site' (Template.outline_single rfl rfl rfl)

theorem inStep_chownDatadir : InStep Eq site.chownDatadir site'.chownDatadir :=
  site.inStep_exec site' (Template.outline_single rfl rfl rfl)

theorem inStep_clearDatadir (aside : site.backupOldDatadir = site'.backupOldDatadir) :
    InStep Eq site.clearDatadir site'.clearDatadir := by
  unfold clearDatadir
  rw [aside]
  split
  · refine .next (Work.inStep_note _ _) fun _ => .next (site.inStep_removePath site' _ _) fun _ =>
      .next (site.inStep_exec site' ?_) fun _ => .next (site.inStep_makeDirectory site' _ _)
        fun _ => site.inStep_chownDatadir site'
    exact Template.outline_single rfl rfl (by simp)
  · refine .next (Work.inStep_note _ _) fun _ => site.inStep_exec site' ?_
    exact Template.outline_single rfl rfl (by simp)

theorem length_clientArgs (host : String) (port : UInt16) :
    (site.clientArgs host port).length = 4 := rfl

theorem length_localClientArgs : site.localClientArgs.length = 4 := rfl

end Site

/-! ## Each method -/

/-- The parts of two methods go on in step, whatever the other server is. -/
structure SeedMethod.InStep (m m' : SeedMethod Interface.host) : Prop where
  intoDatadir : m.intoDatadir = m'.intoDatadir
  probe : ∀ version, Procedure.InStep Eq (m.probe version) (m'.probe version)
  prepare : ∀ side, Procedure.InStep Eq (m.prepare side) (m'.prepare side)
  backup : ∀ side host host' port port',
    Procedure.InStep Eq (m.backup ⟨side, host, port⟩) (m'.backup ⟨side, host', port'⟩)
  restore : Procedure.InStep Eq m.restore m'.restore
  coordinates : Procedure.InStep Eq m.coordinates m'.coordinates
  cleanup : ∀ side, Procedure.InStep Eq (m.cleanup side) (m'.cleanup side)

section

variable (site site' : Site)

theorem Mysqldump.inStep {config config' : Config.Mysqldump}
    (compress : config.compress = config'.compress) :
    (method site config).InStep (method site' config') where
  intoDatadir := rfl
  probe _ :=
    .next (site.inStep_probe site' (Template.outline_single rfl rfl rfl)) fun _ => .done rfl
  prepare := by
    rintro (_ | _)
    · exact .done rfl
    · exact .next (site.inStep_makeDirectory site' _ _) fun _ => site.inStep_removePath site' _ _
  backup := by
    rintro (_ | _) host host' port port'
    · exact Work.inStep_note _ _
    · refine .next (Work.inStep_note _ _) fun _ => site.inStep_exec site' ?_
      refine Template.outline_eq (isPlain_backupLine ..) (isPlain_backupLine ..) ?_
      simp [Template.shape_commandLine, backupLine, Site.length_clientArgs, compress]
  restore := by
    refine .next (Work.inStep_database (.execute "RESET MASTER")) fun _ =>
      .next (Work.inStep_note _ _) fun _ => site.inStep_exec site' ?_
    refine Template.outline_eq (isPlain_restoreLine _) (isPlain_restoreLine _) ?_
    simp [Template.shape_commandLine, restoreLine, Site.length_localClientArgs]
  coordinates := by
    refine .ask (.readFile _ _) ?_
    rintro (⟨fault⟩ | bytes)
    · cases fault <;> exact .fail _ _
    · exact Work.inStep_artifact _ _ _
  cleanup := by
    rintro (_ | _)
    · exact .done rfl
    · exact site.inStep_removePath site' _ _

theorem Mydumper.inStep {config config' : Config.Mydumper}
    (compress : config.compress = config'.compress)
    (cuts : config.rowsChunkSize ≠ 0 ↔ config'.rowsChunkSize ≠ 0) :
    (method site config).InStep (method site' config') where
  intoDatadir := rfl
  probe _ := by
    refine .next (.next (site.inStep_probe site' (Template.outline_single rfl rfl rfl)) ?_)
      fun _ => .done rfl
    rintro (_ | _)
    · exact .done rfl
    · exact site.inStep_probe site' (Template.outline_single rfl rfl rfl)
  prepare := by
    rintro (_ | _)
    · exact .done rfl
    · exact .next (site.inStep_removePath site' _ _) fun _ => site.inStep_makeDirectory site' _ _
  backup := by
    rintro (_ | _) host host' port port'
    · exact Work.inStep_note _ _
    · refine .next (Work.inStep_note _ _) fun _ => site.inStep_exec site' ?_
      refine Template.outline_eq (isPlain_backupLine ..) (isPlain_backupLine ..) ?_
      simp [Template.shape_commandLine, Template.single, backupLine, Site.length_clientArgs,
        compress, cuts]
      split <;> rfl
  restore := by
    refine .next (Work.inStep_database .sqlMode) fun mode =>
      .next (Work.inStep_database (.execute _)) fun _ => .next (Work.inStep_note _ _) fun _ =>
        .bind (.attempt (site.inStep_exec site' ?_)) fun loaded loaded' same =>
          .bind (.attempt (Work.inStep_database (.execute _))) fun restored restored' same' =>
            .next (.ofExcept same) fun _ => .ofExcept same'
    refine Template.outline_eq (isPlain_restoreLine ..) (isPlain_restoreLine ..) ?_
    simp [Template.shape_commandLine, Template.single, restoreLine, Site.length_localClientArgs]
  coordinates := .next (Work.inStep_readText _ _) fun _ => Work.inStep_artifact _ _ _
  cleanup := by
    rintro (_ | _)
    · exact .done rfl
    · exact site.inStep_removePath site' _ _

theorem Xtrabackup.inStep {config config' : Config.Xtrabackup}
    (compress : config.compress = config'.compress)
    (aside : site.backupOldDatadir = site'.backupOldDatadir) :
    (method site config).InStep (method site' config') where
  intoDatadir := rfl
  probe := by
    rintro (_ | version)
    · refine .next (site.inStep_probeOutput site' (Template.outline_single rfl rfl rfl)) ?_
      rintro (_ | output)
      · exact .done rfl
      · exact .done rfl
    · exact .done rfl
  prepare := by
    rintro (_ | _)
    · exact .next (site.inStep_removePath site' _ _) fun _ => site.inStep_makeDirectory site' _ _
    · exact .next (site.inStep_stopService site') fun _ => site.inStep_clearDatadir site' aside
  backup := by
    rintro (_ | _) host host' port port'
    · refine .next (Work.inStep_note _ _) fun _ => site.inStep_exec site' ?_
      refine Template.outline_eq (isPlain_sendLine ..) (isPlain_sendLine ..) ?_
      simp [Template.shape_commandLine, sendLine, Site.length_localClientArgs, Site.streamSender,
        compress]
    · refine .next (Work.inStep_note _ _) fun _ => site.inStep_exec site' ?_
      refine Template.outline_eq (isPlain_receiveLine ..) (isPlain_receiveLine ..) ?_
      simp [Template.shape_commandLine, receiveLine, Site.streamReceiver]
  restore := by
    -- What follows the decompression is done with and without it.
    have applied : Procedure.InStep Eq
        (do
          Work.note "Applying redo log"
          site.exec (applyLine site)
          site.chownDatadir
          site.startService)
        (do
          Work.note "Applying redo log"
          site'.exec (applyLine site')
          site'.chownDatadir
          site'.startService) :=
      .next (Work.inStep_note _ _) fun _ =>
        .next (site.inStep_exec site' (Template.outline_single rfl rfl rfl)) fun _ =>
          .next (site.inStep_chownDatadir site') fun _ => site.inStep_startService site'
    change Procedure.InStep Eq (restore site config) (restore site' config')
    unfold restore
    rw [compress]
    split
    · refine .next (Work.inStep_note _ _) fun _ => .next (site.inStep_exec site' ?_) fun _ =>
        applied
      refine Template.outline_eq (isPlain_decompressLine ..) (isPlain_decompressLine ..) ?_
      simp [Template.shape_commandLine, Template.single, decompressLine]
    · exact applied
  coordinates := .next (Work.inStep_readText _ _) fun _ => Work.inStep_artifact _ _ _
  cleanup := by
    rintro (_ | _)
    · exact site.inStep_removePath site' _ _
    · exact .done rfl

theorem Lvm.outline_createLine {config config' : Config.Lvm}
    (own : config.createSnapshotCommand = "" ↔ config'.createSnapshotCommand = "") :
    (createLine config).outline = (createLine config').outline := by
  unfold createLine
  by_cases h : config.createSnapshotCommand = ""
  · rw [if_pos h, if_pos (own.1 h)]
    exact Template.outline_single rfl rfl rfl
  · rw [if_neg h, if_neg (mt own.2 h)]
    rfl

theorem Lvm.outline_mountLine {config config' : Config.Lvm}
    (options : config.mountOptions = "" ↔ config'.mountOptions = "") :
    (Line.built (mountLine config)).outline = (Line.built (mountLine config')).outline := by
  refine Template.outline_eq (isPlain_mountLine config) (isPlain_mountLine config') ?_
  simp [Template.shape_commandLine, Template.single, mountLine, options]
  split <;> rfl

theorem Lvm.inStep {config config' : Config.Lvm}
    (volume : config.logicalVolume = "" ↔ config'.logicalVolume = "")
    (own : config.createSnapshotCommand = "" ↔ config'.createSnapshotCommand = "")
    (options : config.mountOptions = "" ↔ config'.mountOptions = "")
    (aside : site.backupOldDatadir = site'.backupOldDatadir) :
    (method site config).InStep (method site' config') where
  intoDatadir := rfl
  probe _ := by
    refine .next ?_ fun _ => .done rfl
    unfold probe
    simp only [volume]
    split
    · exact .done rfl
    · exact site.inStep_probe site' (Template.outline_single rfl rfl rfl)
  prepare side := by
    change Procedure.InStep Eq (prepare site config side) (prepare site' config' side)
    unfold prepare
    simp only [volume]
    split
    · exact .fail _ _
    · cases side with
      | source => exact site.inStep_makeDirectory site' _ _
      | target =>
        exact .next (site.inStep_stopService site') fun _ => site.inStep_clearDatadir site' aside
  backup := by
    rintro (_ | _) host host' port port'
    · have taken : Procedure.InStep Eq (snapshot site config) (snapshot site' config') := by
        refine .next (Work.inStep_database .lock) fun c => .bind (.attempt ?_)
          fun created created' same => .bind (.attempt (Work.inStep_database .unlock))
            fun released released' same' => .next (.ofExcept same) fun _ => .ofExcept same'
        exact .next (Work.inStep_writeFile _ _ _ _) fun _ => .next (Work.inStep_note _ _) fun _ =>
          site.inStep_exec site' (outline_createLine own)
      refine .next taken fun _ => .next (Work.inStep_note _ _) fun _ =>
        .next (site.inStep_exec site' (outline_mountLine options)) fun _ =>
          .next (Work.inStep_note _ _) fun _ => site.inStep_exec site' ?_
      refine Template.outline_eq (isPlain_sendLine ..) (isPlain_sendLine ..) ?_
      simp [Template.shape_commandLine, sendLine, Site.streamSender]
    · refine .next (Work.inStep_note _ _) fun _ => site.inStep_exec site' ?_
      refine Template.outline_eq (isPlain_receiveLine _) (isPlain_receiveLine _) ?_
      simp [Template.shape_commandLine, receiveLine, Site.streamReceiver]
  restore := by
    refine .next (site.inStep_exec site' ?_) fun _ => .next (site.inStep_chownDatadir site')
      fun _ => site.inStep_startService site'
    exact Template.outline_single rfl rfl (by simp)
  coordinates := .next (Work.inStep_readText _ _) fun _ => Work.inStep_artifact _ _ _
  cleanup := by
    rintro (_ | _)
    · have released : Procedure.InStep Eq
          (do
            if ← site.succeeds (Template.single ["lvs", .value (snapshotDevice config)]) then
              Work.note "Removing snapshot"
              site.exec (Template.single ["lvremove", "--force", .value (snapshotDevice config)])
            site.removePath (sidecarFile site))
          (do
            if ← site'.succeeds (Template.single ["lvs", .value (snapshotDevice config')]) then
              Work.note "Removing snapshot"
              site'.exec (Template.single ["lvremove", "--force", .value (snapshotDevice config')])
            site'.removePath (sidecarFile site')) := by
        refine .next (site.inStep_succeeds site' (Template.outline_single rfl rfl (by simp))) ?_
        rintro (_ | _)
        · exact site.inStep_removePath site' _ _
        · refine .next (Work.inStep_note _ _) fun _ => .next (site.inStep_exec site' ?_) fun _ =>
            site.inStep_removePath site' _ _
          exact Template.outline_single rfl rfl (by simp)
      refine .next (site.inStep_succeeds site' (Template.outline_single rfl rfl rfl)) ?_
      rintro (_ | _)
      · exact released
      · refine .next (Work.inStep_note _ _) fun _ => .next (site.inStep_exec site' ?_) fun _ =>
          released
        exact Template.outline_single rfl rfl rfl
    · exact .done rfl

theorem ClonePlugin.inStep : (method site).InStep (method site') where
  intoDatadir := rfl
  probe _ := by
    refine .next ?_ fun _ => .done rfl
    refine .next (.ask (.probeDatabase (.pluginStatus plugin) _ _) fun _ => .done rfl) ?_
    exact fun _ => .done rfl
  prepare _ := by
    refine .next (Work.inStep_database (.pluginStatus plugin)) fun status => ?_
    split
    · exact Work.inStep_note _ _
    · exact .fail _ _
  backup := by
    rintro (_ | _) host host' port port'
    · exact Work.inStep_note _ _
    · refine .next (Work.inStep_note _ _) fun _ => site.inStep_exec site' ?_
      refine Template.outline_eq (isPlain_cloneLine ..) (isPlain_cloneLine ..) ?_
      simp [Template.shape_commandLine, Template.single, cloneLine, Site.length_localClientArgs]
  restore := site.inStep_startService site'
  coordinates := by
    refine .next (Work.inStep_database .cloneStatus) fun status => ?_
    split
    · split
      · exact .fail _ _
      · exact .done rfl
    · exact .fail _ _
  cleanup _ := .done rfl

end

/-! ## All methods -/

/-- What decides about the order of the lines and about their shapes. -/
structure StageFlags where
  commands : CommandFlags
  keepsOldData : Bool
  namesVolume : Bool
  takesSnapshot : Bool
  deriving DecidableEq, Repr

/-- The flags of a configuration. -/
def Config.Methods.stageFlags (methods : Config.Methods) (site : Site) : StageFlags where
  commands := methods.commandFlags
  keepsOldData := site.backupOldDatadir
  namesVolume := methods.lvm.logicalVolume ≠ ""
  takesSnapshot := methods.lvm.createSnapshotCommand = ""

theorem Config.Methods.inStep {methods methods' : Config.Methods} {site site' : Site}
    (flags : methods.stageFlags site = methods'.stageFlags site') (kind : Method) :
    (methods.method site kind).InStep (methods'.method site' kind) := by
  simp only [stageFlags, commandFlags, StageFlags.mk.injEq, CommandFlags.mk.injEq,
    decide_eq_decide] at flags
  obtain ⟨⟨mysqldump, mydumper, cuts, xtrabackup, options⟩, aside, volume, own⟩ := flags
  cases kind with
  | mysqldump => exact Mysqldump.inStep site site' mysqldump
  | mydumper => exact Mydumper.inStep site site' mydumper cuts
  | xtrabackup => exact Xtrabackup.inStep site site' xtrabackup aside
  | lvm =>
    exact Lvm.inStep site site' (Decidable.not_iff_not.1 volume) own
      (Decidable.not_iff_not.1 options) aside
  | clonePlugin => exact ClonePlugin.inStep site site'

/-- The stages of two methods in step are in step, whatever the other server is. -/
theorem SeedMethod.InStep.stage {m m' : SeedMethod Interface.host} (h : m.InStep m')
    {stop stop' : Work Unit} (stops : Procedure.InStep Eq stop stop') (side : Side)
    {request request' : StageRequest} (same : request.withoutPeer = request'.withoutPeer) :
    Procedure.InStep Eq (m.stage stop side request) (m'.stage stop' side request') := by
  cases request <;> cases request' <;> cases same
  case prepare.prepare.refl requested => exact h.prepare requested
  case backup.backup.refl host port host' port' => exact h.backup side host host' port port'
  case restore.restore.refl =>
    simp only [SeedMethod.stage, h.intoDatadir]
    split
    · exact .next stops fun _ => h.restore
    · exact h.restore
  case cleanup.cleanup.refl requested => exact h.cleanup requested

/-- Whatever values two configurations hold: with the same flags, and as long as a stage gets the
same answers, the lines are run in the same order and each is of the same shape. The stage ends in
the same way. -/
theorem Config.Methods.outlines_of_stageFlags {methods methods' : Config.Methods}
    {site site' : Site} (flags : methods.stageFlags site = methods'.stageFlags site')
    (kind : Method) (side : Side) {request request' : StageRequest}
    (same : request.withoutPeer = request'.withoutPeer)
    {exchanges : List (Exchange Interface.host)} {result : Except MethodError Unit}
    (path : (methods.stage site kind side request).Path exchanges result) :
    ∃ exchanges' result', (methods'.stage site' kind side request').Path exchanges' result' ∧
      List.Forall₂ Exchange.InStep exchanges exchanges' ∧
      outlines exchanges' = outlines exchanges ∧ result'.isOk = result.isOk := by
  have inStep := (methods.inStep flags kind).stage (site.inStep_stopService site') side same
  obtain ⟨exchanges', result', path', steps, agree⟩ := inStep.path path
  refine ⟨exchanges', result', path', steps, (outlines_eq steps).symm, ?_⟩
  cases agree <;> rfl

end ReplicaSeed
