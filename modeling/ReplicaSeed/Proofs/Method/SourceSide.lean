import ReplicaSeed.Proofs.Method.Commands
import ReplicaSeed.Proofs.Method.Plan

/-!
# What happens to the source

The host that the data come from keeps its server running and its files in place. Where its data
directory is, which account it belongs to, whether its old content is to be kept and by which
commands the service is stopped and started matters only to a target: two sources that differ in
nothing else do the same things in the same order, whatever their hosts answer.

## Main definitions

* `TargetSettings`: what only a target looks at.
* `StageRequest.OnSource`: the stages on the side of the source.
* `Site.upheavals`: the lines by which a target is turned upside down.
* `Config.Methods.sourceValues`: what a line on the source can name.

## Main statements

* `Config.stage_withTarget`: a stage on the source does not look at what is the target's.
* `Config.source_undisturbed`: two sources cannot be told apart, and neither is disturbed.
-/

namespace ReplicaSeed

open Command

/-- The settings that only a target looks at. -/
structure TargetSettings where
  datadir : String
  osUser : String
  backupOldDatadir : Bool
  serviceStartCommand : String
  serviceStopCommand : String
  deriving DecidableEq, Repr

/-- The configuration with other settings for a target. -/
def Config.withTarget (config : Config) (t : TargetSettings) : Config :=
  { config with
    common := { config.common with backupOldDatadir := t.backupOldDatadir }
    mysql :=
      { config.mysql with
        datadir := t.datadir
        osUser := t.osUser
        serviceStartCommand := t.serviceStartCommand
        serviceStopCommand := t.serviceStopCommand } }

/-- The stage is performed on the source: a Prepare or a Cleanup of that side, or a Backup of an
operation on it. -/
def StageRequest.OnSource (side : Side) : StageRequest → Prop
  | .prepare requested => requested = .source
  | .backup .. => side = .source
  | .restore => False
  | .cleanup requested => requested = .source

/-- The host that a Backup names. -/
def StageRequest.peer : StageRequest → String
  | .backup host _ => host
  | _ => ""

/-- The lines by which a method empties the data directory, gives it to an account, or stops or
starts the database service. -/
def Site.upheavals (site : Site) : List Line :=
  [.given site.mysql.serviceStopCommand, .given site.mysql.serviceStartCommand,
    Template.single ["mv", .value site.mysql.datadir, .value site.asidePath],
    Template.single ["find", .value site.mysql.datadir, "-mindepth", "1", "-delete"],
    site.chownLine]

/-! ## The values in a line -/

namespace Command

/-- The value of a piece, if it is one. -/
def Piece.value? : Piece → Option String
  | .fixed _ => none
  | .value s => some s

/-- The values of a word. -/
def WordTemplate.values (w : WordTemplate) : List String := w.pieces.filterMap Piece.value?

@[simp] theorem WordTemplate.values_fixed (s : String) :
    WordTemplate.values ⟨[.fixed s]⟩ = [] := rfl

@[simp] theorem WordTemplate.values_value (s : String) : (WordTemplate.value s).values = [s] := rfl

@[simp] theorem WordTemplate.values_option (name s : String) :
    (WordTemplate.option name s).values = [s] := rfl

/-- The values of a template. -/
def Template.values (t : Template) : List String :=
  (t.stages.flatMap fun words => words.flatMap WordTemplate.values) ++ t.output.toList

@[simp] theorem Template.values_single (words : List WordTemplate) :
    (Template.single words).values = words.flatMap WordTemplate.values := by
  simp [values, single]

end Command

/-- The values that the agent has put into a line. -/
def Line.values : Line → List String
  | .built t => t.values
  | .given _ => []

/-- The values that a line on the source can name: the directories and files of the agent's own,
the volume with its snapshot, the account for seeds, and the host that the data are sent to. -/
def Config.Methods.sourceValues (methods : Config.Methods) (site : Site) (peer : String) :
    Method → List String
  | .xtrabackup =>
    [Xtrabackup.scratchDir site, site.mysql.host, site.mysql.seedUser, site.mysql.seedPassword,
      peer]
  | .lvm =>
    [site.backupDir, Lvm.sidecarFile site, methods.lvm.logicalVolume, methods.lvm.snapshotSize,
      methods.lvm.snapshotName, Lvm.snapshotDevice methods.lvm, methods.lvm.snapshotMountPoint,
      methods.lvm.mountOptions, peer]
  | _ => []

/-- The line names no other value, and it is none that disturbs a source. Only the operator can have
a snapshot taken by such a line. -/
def Line.Spares (methods : Config.Methods) (site : Site) (values : List String) (line : Line) :
    Prop :=
  line.values ⊆ values ∧
    (line ∈ site.upheavals → line = .given methods.lvm.createSnapshotCommand)

/-- The request runs no line but one that spares the source. -/
def HostRequest.Spares (methods : Config.Methods) (site : Site) (values : List String)
    (q : HostRequest) : Prop :=
  ∀ line ∈ q.line?, line.Spares methods site values

section

variable {methods : Config.Methods} {site : Site} {values : List String} {q : HostRequest}

theorem HostRequest.spares_of_noLine (noLine : q.line? = none) : q.Spares methods site values := by
  intro line member
  rw [noLine] at member
  cases member

theorem HostRequest.spares_of_line {line : Line} (runs : q.line? = some line)
    (spares : line.Spares methods site values) : q.Spares methods site values := by
  intro other member
  rw [runs] at member
  cases member
  exact spares

/-- A line spares the source if its first program is none of those that disturb one. -/
theorem Command.Template.spares {t : Template} {program : String} {words : List WordTemplate}
    {more : List (List WordTemplate)}
    (stages : t.stages = ((program : WordTemplate) :: words) :: more)
    (other : program ∉ ["mv", "find", "chown"]) (named : t.values ⊆ values) :
    (Line.built t).Spares methods site values := by
  refine ⟨named, fun member => absurd member ?_⟩
  obtain ⟨_, output⟩ := t
  obtain rfl := stages
  simp only [List.mem_cons, List.not_mem_nil, or_false, not_or] at other
  simp [Site.upheavals, Site.chownLine, Template.single, other]

end

/-! ## Each method -/

section

variable (methods : Config.Methods) (site : Site) {side : Side} {request : StageRequest}

theorem PlannedStep.spares_exec {values : List String} {line : Line}
    (spares : line.Spares methods site values) :
    (PlannedStep.exec site line).request.Spares methods site values :=
  HostRequest.spares_of_line rfl spares

/-- Nothing is run on the source of a dump. -/
theorem Mysqldump.spares_of_source (config : Config.Mysqldump) (values : List String)
    (source : request.OnSource side) :
    ∀ step ∈ plan site config side request, step.request.Spares methods site values := by
  rcases request with _ | ⟨host, port⟩ | _ | _ <;> cases source
  · exact List.forall_mem_nil _
  · simpa [plan] using HostRequest.spares_of_noLine rfl
  · exact List.forall_mem_nil _

theorem Mydumper.spares_of_source (config : Config.Mydumper) (told : Told) (values : List String)
    (source : request.OnSource side) :
    ∀ step ∈ plan site config side told request, step.request.Spares methods site values := by
  rcases request with _ | ⟨host, port⟩ | _ | _ <;> cases source
  · exact List.forall_mem_nil _
  · simpa [plan] using HostRequest.spares_of_noLine rfl
  · exact List.forall_mem_nil _

theorem ClonePlugin.spares_of_source (values : List String) (source : request.OnSource side) :
    ∀ step ∈ plan site side request, step.request.Spares methods site values := by
  rcases request with _ | ⟨host, port⟩ | _ | _ <;> cases source
  · simpa [plan] using ⟨HostRequest.spares_of_noLine rfl, HostRequest.spares_of_noLine rfl⟩
  · simpa [plan] using HostRequest.spares_of_noLine rfl
  · exact List.forall_mem_nil _

/-- The words of a client name a host and an account. -/
theorem Site.values_clientArgs (host : String) (port : UInt16) :
    (site.clientArgs host port).flatMap WordTemplate.values =
      [host, site.mysql.seedUser, site.mysql.seedPassword] := rfl

theorem Site.values_streamSender (peer : String) :
    (site.streamSender peer).flatMap WordTemplate.values = [peer] := rfl

theorem Xtrabackup.values_sendLine (config : Config.Xtrabackup) (peer : String) :
    (sendLine site config peer).values =
      [site.mysql.host, site.mysql.seedUser, site.mysql.seedPassword, scratchDir site, peer] := by
  have threads : (parallelWord config).values = [] := rfl
  cases h : config.compress <;>
    simp [sendLine, Template.values, Site.localClientArgs, Site.values_clientArgs,
      Site.values_streamSender, threads, h]

theorem Lvm.values_mountLine (config : Config.Lvm) :
    (mountLine config).values ⊆
      [config.mountOptions, snapshotDevice config, config.snapshotMountPoint] := by
  by_cases h : config.mountOptions = "" <;> simp [mountLine, h]

theorem Lvm.values_sendLine (config : Config.Lvm) (peer : String) :
    (sendLine site config peer).values = [config.snapshotMountPoint, site.backupDir, peer] := by
  simp [sendLine, Template.values, Site.values_streamSender]

theorem Xtrabackup.spares_of_source (source : request.OnSource side) :
    ∀ step ∈ plan site methods.xtrabackup side request,
      step.request.Spares methods site (methods.sourceValues site request.peer .xtrabackup) := by
  have remove : (Line.built (Site.removeLine (scratchDir site))).Spares methods site
      (methods.sourceValues site request.peer .xtrabackup) :=
    Template.spares rfl (by simp) (by simp [Site.removeLine, Config.Methods.sourceValues])
  have make : (Line.built (Site.makeDirectoryLine (scratchDir site))).Spares methods site
      (methods.sourceValues site request.peer .xtrabackup) :=
    Template.spares rfl (by simp) (by simp [Site.makeDirectoryLine, Config.Methods.sourceValues])
  have send : (Line.built (sendLine site methods.xtrabackup request.peer)).Spares methods site
      (methods.sourceValues site request.peer .xtrabackup) :=
    Template.spares rfl (by simp) (by simp [values_sendLine, Config.Methods.sourceValues])
  rcases request with _ | ⟨host, port⟩ | _ | _ <;> cases source
  · simpa [plan] using
      ⟨PlannedStep.spares_exec methods site remove, PlannedStep.spares_exec methods site make⟩
  · simpa [plan] using
      ⟨HostRequest.spares_of_noLine rfl, PlannedStep.spares_exec methods site send⟩
  · simpa [plan] using PlannedStep.spares_exec methods site remove

/-- Neither is the snapshot taken by such a line, unless the operator has given one. -/
theorem Lvm.spares_createLine (peer : String) :
    (createLine methods.lvm).Spares methods site (methods.sourceValues site peer .lvm) := by
  unfold createLine
  split
  · exact Template.spares rfl (by simp) (by simp [Config.Methods.sourceValues])
  · exact ⟨List.nil_subset _, fun _ => rfl⟩

/-- Steps that depend on an answer spare the source if they do when they are performed. -/
theorem PlannedStep.spares_optional {c : Prop} [Decidable c] {steps : List PlannedStep}
    {values : List String} (spare : ∀ step ∈ steps, step.request.Spares methods site values) :
    ∀ step ∈ if c then steps else [], step.request.Spares methods site values := by
  split
  · exact spare
  · exact List.forall_mem_nil _

theorem Lvm.spares_cleanup (told : Told) :
    ∀ step ∈ plan site methods.lvm side told (.cleanup .source),
      step.request.Spares methods site (methods.sourceValues site "" .lvm) := by
  have mounted : (Line.built (mountedLine methods.lvm)).Spares methods site
      (methods.sourceValues site "" .lvm) :=
    Template.spares rfl (by simp) (by simp [mountedLine, Config.Methods.sourceValues])
  have present : (Line.built (presentLine methods.lvm)).Spares methods site
      (methods.sourceValues site "" .lvm) :=
    Template.spares rfl (by simp) (by simp [presentLine, Config.Methods.sourceValues])
  have unmount : (Line.built (.single ["umount", .value methods.lvm.snapshotMountPoint])).Spares
      methods site (methods.sourceValues site "" .lvm) :=
    Template.spares rfl (by simp) (by simp [Config.Methods.sourceValues])
  have drop : (Line.built
      (.single ["lvremove", "--force", .value (snapshotDevice methods.lvm)])).Spares
      methods site (methods.sourceValues site "" .lvm) :=
    Template.spares rfl (by simp) (by simp [Config.Methods.sourceValues])
  have remove : (Line.built (Site.removeLine (sidecarFile site))).Spares methods site
      (methods.sourceValues site "" .lvm) :=
    Template.spares rfl (by simp) (by simp [Site.removeLine, Config.Methods.sourceValues])
  simp only [plan, List.cons_append, List.forall_mem_cons, List.forall_mem_append]
  refine ⟨HostRequest.spares_of_line rfl mounted,
    ⟨PlannedStep.spares_optional methods site ?_, HostRequest.spares_of_line rfl present,
      PlannedStep.spares_optional methods site ?_⟩, PlannedStep.spares_exec methods site remove,
    List.forall_mem_nil _⟩
  · exact List.forall_mem_cons.2 ⟨HostRequest.spares_of_noLine rfl,
      List.forall_mem_singleton.2 (PlannedStep.spares_exec methods site unmount)⟩
  · exact List.forall_mem_cons.2 ⟨HostRequest.spares_of_noLine rfl,
      List.forall_mem_singleton.2 (PlannedStep.spares_exec methods site drop)⟩

theorem Lvm.spares_backup (told : Told) (host : String) (port : UInt16) :
    ∀ step ∈ plan site methods.lvm .source told (.backup host port),
      step.request.Spares methods site (methods.sourceValues site host .lvm) := by
  have create := Lvm.spares_createLine methods site host
  have mount : (Line.built (mountLine methods.lvm)).Spares methods site
      (methods.sourceValues site host .lvm) :=
    Template.spares rfl (by simp)
      (List.Subset.trans (values_mountLine methods.lvm) (by simp [Config.Methods.sourceValues]))
  have send : (Line.built (sendLine site methods.lvm host)).Spares methods site
      (methods.sourceValues site host .lvm) :=
    Template.spares rfl (by simp) (by simp [values_sendLine, Config.Methods.sourceValues])
  have noLine {q : HostRequest} (h : q.line? = none) :
      q.Spares methods site (methods.sourceValues site host .lvm) :=
    HostRequest.spares_of_noLine h
  simp only [plan, List.map_cons, List.map_nil, List.cons_append, List.nil_append,
    List.forall_mem_cons, PlannedStep.request_undoneBy]
  exact ⟨noLine rfl, noLine rfl, noLine rfl, PlannedStep.spares_exec methods site create,
    noLine rfl, noLine rfl, PlannedStep.spares_exec methods site mount, noLine rfl,
    PlannedStep.spares_exec methods site send, List.forall_mem_nil _⟩

theorem Lvm.spares_of_source (told : Told) (source : request.OnSource side) :
    ∀ step ∈ plan site methods.lvm side told request,
      step.request.Spares methods site (methods.sourceValues site request.peer .lvm) := by
  rcases request with _ | ⟨host, port⟩ | _ | _ <;> cases source
  · have make : (Line.built (Site.makeDirectoryLine methods.lvm.snapshotMountPoint)).Spares methods
        site (methods.sourceValues site "" .lvm) :=
      Template.spares rfl (by simp)
        (by simp [Site.makeDirectoryLine, Config.Methods.sourceValues])
    exact List.forall_mem_singleton.2 (PlannedStep.spares_exec methods site make)
  · exact Lvm.spares_backup methods site told host port
  · exact Lvm.spares_cleanup methods site told

end

namespace Config.Methods

variable (methods : Config.Methods) (site : Site) (kind : Method) {side : Side}
  {request : StageRequest} {told : Told} {steps : List PlannedStep}

theorem spares_of_plan (source : request.OnSource side)
    (planned : methods.plan site kind side request told = .ok steps) :
    ∀ step ∈ steps,
      step.request.Spares methods site (methods.sourceValues site request.peer kind) := by
  cases kind with
  | mysqldump =>
    obtain rfl := Except.ok.inj planned
    exact Mysqldump.spares_of_source methods site methods.mysqldump _ source
  | mydumper =>
    obtain rfl := Except.ok.inj planned
    exact Mydumper.spares_of_source methods site methods.mydumper told _ source
  | xtrabackup =>
    obtain rfl := Except.ok.inj planned
    exact Xtrabackup.spares_of_source methods site source
  | lvm =>
    simp only [plan] at planned
    split at planned
    · cases planned
    · obtain rfl := Except.ok.inj planned
      exact Lvm.spares_of_source methods site told source
  | clonePlugin =>
    obtain rfl := Except.ok.inj planned
    exact ClonePlugin.spares_of_source methods site _ source

/-- Whatever the host answers, a stage on the source asks for nothing that disturbs it. -/
theorem spares_of_path (source : request.OnSource side)
    {exchanges : List (Exchange Interface.host)} {result : Except MethodError Unit}
    (path : (methods.stage site kind side request).Path exchanges result) :
    ∀ x ∈ exchanges,
      x.asked.Spares methods site (methods.sourceValues site request.peer kind) := by
  intro x member
  have followed := Config.Methods.followed _ _ path
  cases planned : methods.plan site kind side request (.of exchanges) with
  | error e =>
    rw [planned] at followed
    obtain ⟨rfl, -⟩ := followed
    cases member
  | ok steps =>
    rw [planned] at followed
    obtain ⟨step, among, asked | undo⟩ := followed.asked_of_mem member
    · rw [asked]
      exact spares_of_plan methods site kind source planned step among
    -- What is undone is a lock or a mode, and both are given back by the server.
    · obtain ⟨-, -, -, asked⟩ | ⟨-, -, asked⟩ := undo_of_mem planned among undo
      · exact HostRequest.spares_of_noLine (by rw [asked]; rfl)
      · exact HostRequest.spares_of_noLine (by rw [asked]; rfl)

end Config.Methods

namespace Config

variable (config : Config) (kind : Method) {side : Side} {request : StageRequest}

/-- A stage on the source does not look at what is the target's. -/
theorem stage_withTarget (t t' : TargetSettings) (source : request.OnSource side) :
    config.methods.stage (config.withTarget t).site kind side request =
      config.methods.stage (config.withTarget t').site kind side request := by
  rcases request with _ | ⟨host, port⟩ | _ | _ <;> cases source <;> cases kind <;> rfl

/-- Two sources that differ only in what is a target's do the same, step by step, in any
surroundings, and come to the same result. They run no line that names a value other than those of a
source, and none that empties the data directory, gives it to an account, or stops or starts the
service; only the line that the operator has given for taking a snapshot is as it is. -/
theorem source_undisturbed (source : request.OnSource side) (t t' : TargetSettings) {σ : Type}
    (w : Surroundings Interface.host σ) (s : σ) :
    let stage (c : Config) := c.methods.stage c.site kind side request
    (stage (config.withTarget t)).runIn w s = (stage (config.withTarget t')).runIn w s ∧
    ∀ x ∈ ((stage (config.withTarget t)).runIn w s).exchanges,
      x.asked.Spares config.methods (config.withTarget t).site
        (config.methods.sourceValues config.site request.peer kind) := by
  have same := stage_withTarget config kind t t' source
  refine ⟨congrArg (fun work : Work Unit => work.runIn w s) same, ?_⟩
  have values : config.methods.sourceValues (config.withTarget t).site request.peer kind =
      config.methods.sourceValues config.site request.peer kind := by
    cases kind <;> rfl
  rw [← values]
  exact Methods.spares_of_path config.methods _ kind source (Procedure.path_runIn w _ s)

/-- A Backup by snapshot goes on to its end, wherever the data directory is. -/
theorem source_undisturbed_by_snapshot :
    let config : Config := { methods := { lvm := { logicalVolume := "/dev/vg0/mysql" } } }
    let there : TargetSettings := ⟨"/data", "dba", true, "service db start", "service db stop"⟩
    let here : TargetSettings := ⟨"/var/lib/mysql", "mysql", false, "true", "mv /data /old"⟩
    let stage (c : Config) := c.methods.stage c.site .lvm .source (.backup "db-target" 3306)
    let run (c : Config) := (stage c).runIn
      (.stateless (HostRequest.answerBy fun _ => .ok ())) ()
    (StageRequest.backup "db-target" 3306).OnSource .source ∧
    (run (config.withTarget there)).exchanges.length = 9 ∧
    run (config.withTarget there) = run (config.withTarget here) ∧
    ∀ x ∈ (run (config.withTarget there)).exchanges,
      x.asked.Spares config.methods (config.withTarget there).site
        (config.methods.sourceValues config.site "db-target" .lvm) := by
  intro config there here stage run
  have onSource : (StageRequest.backup "db-target" 3306).OnSource .source := rfl
  have undisturbed := source_undisturbed config .lvm onSource there here
    (.stateless (HostRequest.answerBy fun _ => .ok ())) ()
  exact ⟨onSource, rfl, undisturbed.1, undisturbed.2⟩

end Config

end ReplicaSeed
