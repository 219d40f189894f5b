import ReplicaSeed.Proofs.Method.Exchanges
import ReplicaSeed.Proofs.Method.Registered

/-!
# The plans of the seed methods

What each stage of each method is to do, step by step. A plan can depend on what the host has told
on the way: on the `sql_mode` that is set back, on the coordinates that are written beside a
snapshot, and on whether there is a snapshot to be removed.

## Main definitions

* `Told`: what the host has told.
* `Config.Methods.plan`: the plan of a stage.

## Main statements

* `Config.Methods.followed`: every stage follows its plan.
* `Config.Methods.undo_of_mem`, `Config.Methods.probes_of_mem`: the steps that are undone, and those
  that only look.
* `Config.Methods.refusal_of_plan`: the stages that are refused.
* `Config.Methods.plan_restore`: when a Restore starts the service.
-/

namespace ReplicaSeed

open Command

/-! ## What the host has told -/

/-- The `sql_mode` that an answer tells. -/
def HostRequest.mode? : (q : HostRequest) → q.Answer → Option String
  | database .sqlMode, .ok mode => some mode
  | _, _ => none

/-- The coordinates that an answer tells under a lock. -/
def HostRequest.locked? : (q : HostRequest) → q.Answer → Option Coordinates
  | database .lock, .ok c => some c
  | _, _ => none

/-- Whether a line that only looks has succeeded, as an answer tells. -/
def HostRequest.succeeds? (line : Line) : (q : HostRequest) → q.Answer → Option Bool
  | capture looked _, answer => if looked = line then some answer.isOk else none
  | _, _ => none

/-- What the host has told on the way. -/
structure Told where
  mode : String
  locked : Coordinates
  succeeds : Line → Bool

/-- What exchanges have told first. -/
def Told.of (exchanges : List (Exchange Interface.host)) : Told where
  mode := (exchanges.findSome? fun x => HostRequest.mode? x.asked x.answer).getD ""
  locked := (exchanges.findSome? fun x => HostRequest.locked? x.asked x.answer).getD .zero
  succeeds line :=
    (exchanges.findSome? fun x => HostRequest.succeeds? line x.asked x.answer).getD false

theorem Told.succeeds_look (line : Line) (elevate : Bool)
    (answer : (HostRequest.capture line elevate).Answer) (rest : List (Exchange Interface.host)) :
    (Told.of (⟨HostRequest.capture line elevate, answer⟩ :: rest)).succeeds line = answer.isOk := by
  simp [Told.of, Exchange.asked, HostRequest.succeeds?]

theorem Told.succeeds_cons {line : Line} {x : Exchange Interface.host}
    {rest : List (Exchange Interface.host)}
    (other : HostRequest.succeeds? line x.asked x.answer = none) :
    (Told.of (x :: rest)).succeeds line = (Told.of rest).succeeds line := by
  simp [Told.of, other]

/-! ## Plans -/

/-- The steps of a stage, or why it is refused at once. -/
abbrev Plan := Except MethodError (List PlannedStep)

/-- The exchanges and the result of a stage that follows its plan. -/
def Plan.Followed (exchanges : List (Exchange Interface.host)) (result : Except MethodError Unit) :
    Plan → Prop
  | .error e => exchanges = [] ∧ result = .error e
  | .ok steps => Follows steps exchanges result

namespace Site

variable (site : Site)

/-- The database service is stopped. -/
def stopping : List PlannedStep :=
  [.note "Stopping database service", .exec site (.given site.mysql.serviceStopCommand)]

/-- The database service is started. -/
def starting : List PlannedStep :=
  [.note "Starting database service", .exec site (.given site.mysql.serviceStartCommand)]

/-- The data directory is emptied, or moved aside. -/
def emptying : List PlannedStep :=
  let datadir := site.mysql.datadir
  if site.backupOldDatadir then
    [.note ("Moving " ++ datadir ++ " aside"), .exec site (removeLine site.asidePath),
      .exec site (Template.single ["mv", .value datadir, .value site.asidePath]),
      .exec site (makeDirectoryLine datadir), .exec site site.chownLine]
  else
    [.note ("Clearing " ++ datadir),
      .exec site (Template.single ["find", .value datadir, "-mindepth", "1", "-delete"])]

end Site

/-- The plans of a method that loads what `mysqldump` has written. -/
def Mysqldump.plan (site : Site) (config : Config.Mysqldump) (side : Side) :
    StageRequest → List PlannedStep
  | .prepare .source => []
  | .prepare .target =>
    [.exec site (Site.makeDirectoryLine site.backupDir),
      .exec site (Site.removeLine (dumpFile site))]
  | .backup host port =>
    match side with
    | .source => [.note "Dump is pulled by the target"]
    | .target =>
      [.note ("Dumping " ++ host ++ ":" ++ Site.portText port),
        .exec site (backupLine site config host port)]
  | .restore =>
    [.database (.execute "RESET MASTER"), .note "Loading dump", .exec site (restoreLine site)]
  | .cleanup .source => []
  | .cleanup .target => [.exec site (Site.removeLine (dumpFile site))]

/-- The plans of `mydumper`. The mode is set back even if the load has failed. -/
def Mydumper.plan (site : Site) (config : Config.Mydumper) (side : Side) (told : Told) :
    StageRequest → List PlannedStep
  | .prepare .source => []
  | .prepare .target =>
    [.exec site (Site.removeLine (dumpDir site)),
      .exec site (Site.makeDirectoryLine (dumpDir site))]
  | .backup host port =>
    match side with
    | .source => [.note "Dump is pulled by the target"]
    | .target =>
      [.note ("Dumping " ++ host ++ ":" ++ Site.portText port),
        .exec site (backupLine site config host port)]
  | .restore =>
    let back : PlannedStep := .database (.execute (setModeStatement told.mode))
    [.database .sqlMode, .database (.execute (setModeStatement "NO_AUTO_VALUE_ON_ZERO")),
      .note "Loading dump", (PlannedStep.exec site (restoreLine site config)).undoneBy back.request,
      back]
  | .cleanup .source => []
  | .cleanup .target => [.exec site (Site.removeLine (dumpDir site))]

/-- The plans of `xtrabackup`. -/
def Xtrabackup.plan (site : Site) (config : Config.Xtrabackup) (side : Side) :
    StageRequest → List PlannedStep
  | .prepare .source =>
    [.exec site (Site.removeLine (scratchDir site)),
      .exec site (Site.makeDirectoryLine (scratchDir site))]
  | .prepare .target => site.stopping ++ site.emptying
  | .backup host _ =>
    match side with
    | .source =>
      [.note ("Streaming backup to " ++ host), .exec site (sendLine site config host)]
    | .target =>
      [.note ("Receiving backup on port " ++ Site.portText site.seedPort),
        .exec site (receiveLine site config)]
  | .restore =>
    site.stopping ++
      ((if config.compress then
          [.note "Decompressing backup", .exec site (decompressLine site config)]
        else []) ++
        [.note "Applying redo log", .exec site (applyLine site), .exec site site.chownLine]) ++
      site.starting
  | .cleanup .source => [.exec site (Site.removeLine (scratchDir site))]
  | .cleanup .target => []

namespace Lvm

variable (site : Site) (config : Config.Lvm)

/-- The line that looks whether the snapshot is mounted. -/
def mountedLine : Template :=
  .single ["mountpoint", "-q", .value config.snapshotMountPoint]

/-- The line that looks whether there is a snapshot. -/
def presentLine : Template := .single ["lvs", .value (snapshotDevice config)]

/-- The plans of the method by snapshots, where a volume is set. The lock is given back even if no
snapshot was taken. -/
def plan (side : Side) (told : Told) : StageRequest → List PlannedStep
  | .prepare .source => [.exec site (Site.makeDirectoryLine config.snapshotMountPoint)]
  | .prepare .target => site.stopping ++ site.emptying
  | .backup host _ =>
    match side with
    | .source =>
      let locked : List PlannedStep :=
        [.writeFile (sidecarFile site) (Sidecar.text told.locked),
          .note ("Creating snapshot " ++ config.snapshotName), .exec site (createLine config)]
      .database .lock :: locked.map (·.undoneBy (.database .unlock)) ++
        [.database .unlock, .note "Mounting snapshot", .exec site (mountLine config),
          .note ("Streaming snapshot to " ++ host), .exec site (sendLine site config host)]
    | .target =>
      [.note ("Receiving snapshot on port " ++ Site.portText site.seedPort),
        .exec site (receiveLine site)]
  | .restore =>
    site.stopping ++
      [.exec site
          (Template.single ["rm", "-f", .value (FilePath.join site.mysql.datadir "auto.cnf")]),
        .exec site site.chownLine] ++
      site.starting
  | .cleanup .target => []
  | .cleanup .source =>
    .look site (mountedLine config) ::
      (if told.succeeds (mountedLine config) then
          [.note "Unmounting snapshot",
            .exec site (Template.single ["umount", .value config.snapshotMountPoint])]
        else []) ++
      .look site (presentLine config) ::
      (if told.succeeds (presentLine config) then
          [.note "Removing snapshot",
            .exec site (Template.single ["lvremove", "--force", .value (snapshotDevice config)])]
        else []) ++
      [.exec site (Site.removeLine (sidecarFile site))]

end Lvm

/-- The plans of the clone plugin. -/
def ClonePlugin.plan (site : Site) (side : Side) : StageRequest → List PlannedStep
  | .prepare _ => [.database (.pluginStatus plugin), .note "Clone plugin active"]
  | .backup host port =>
    match side with
    | .source => [.note "Clone is pulled by the recipient"]
    | .target =>
      [.note ("Cloning from " ++ host ++ ":" ++ Site.portText port),
        .exec site (cloneLine site host port)]
  | .restore => site.stopping ++ site.starting
  | .cleanup _ => []

namespace Config.Methods

variable (methods : Config.Methods) (site : Site) (kind : Method) (side : Side)
  (request : StageRequest)

/-- The work of a stage. -/
def stage : Work Unit := (methods.method site kind).stage site.stopService side request

/-- The plan of a stage. Without a volume there is nothing to prepare a snapshot of. -/
def plan (told : Told) : Plan :=
  match kind with
  | .mysqldump => .ok (Mysqldump.plan site methods.mysqldump side request)
  | .mydumper => .ok (Mydumper.plan site methods.mydumper side told request)
  | .xtrabackup => .ok (Xtrabackup.plan site methods.xtrabackup side request)
  | .lvm =>
    if methods.lvm.logicalVolume = "" ∧ request.stage = .prepare then
      .error (.config "lvm.logical-volume is not set")
    else .ok (Lvm.plan site methods.lvm side told request)
  | .clonePlugin => .ok (ClonePlugin.plan site side request)

end Config.Methods

/-! ## Stages that follow their plans -/

namespace Site

variable (site : Site)

theorem carries_stopService : Carries site.stopService site.stopping :=
  .cons (.note _) (.exec site _)

theorem carries_startService : Carries site.startService site.starting :=
  .cons (.note _) (.exec site _)

theorem carries_clearDatadir : Carries site.clearDatadir site.emptying := by
  unfold clearDatadir emptying
  split
  · exact .cons (.note _) (.cons (.exec site _) (.cons (.exec site _) (.cons (.exec site _)
      (.exec site _))))
  · exact .cons (.note _) (.exec site _)

end Site

section

variable (site : Site) (side : Side) (request : StageRequest)

theorem Mysqldump.carries (config : Config.Mysqldump) :
    Carries ((method site config).stage site.stopService side request)
      (plan site config side request) := by
  cases request with
  | prepare requested =>
    cases requested with
    | source => exact .done
    | target => exact .cons (.exec site _) (.exec site _)
  | backup host port =>
    cases side with
    | source => exact .note _
    | target => exact .cons (.note _) (.exec site _)
  | restore => exact .cons (.execute _) (.cons (.note _) (.exec site _))
  | cleanup requested =>
    cases requested with
    | source => exact .done
    | target => exact .exec site _

theorem Xtrabackup.carries (config : Config.Xtrabackup) :
    Carries ((method site config).stage site.stopService side request)
      (plan site config side request) := by
  cases request with
  | prepare requested =>
    cases requested with
    | source => exact .cons (.exec site _) (.exec site _)
    | target => exact .bind site.carries_stopService site.carries_clearDatadir
  | backup host port => cases side <;> exact .cons (.note _) (.exec site _)
  | restore =>
    have applied : Carries (do
        Work.note "Applying redo log"
        site.exec (applyLine site)
        site.chownDatadir
        site.startService)
        (.note "Applying redo log" :: .exec site (applyLine site) :: .exec site site.chownLine ::
          site.starting) :=
      .cons (.note _) (.cons (.exec site _) (.cons (.exec site _) site.carries_startService))
    simp only [plan, List.append_assoc]
    refine .bind site.carries_stopService ?_
    change Carries (restore site config) _
    unfold restore
    split
    · exact .cons (.note _) (.cons (.exec site _) applied)
    · exact applied
  | cleanup requested =>
    cases requested with
    | source => exact .exec site _
    | target => exact .done

theorem ClonePlugin.carries :
    Carries ((method site).stage site.stopService side request) (plan site side request) := by
  cases request with
  | prepare requested =>
    refine .ask (.database (.pluginStatus plugin)) rfl rfl fun answer => ?_
    cases answer with
    | error e => rfl
    | ok status =>
      dsimp only [PlannedStep.database, HostRequest.failure?, Procedure.bind]
      cases isActive status with
      | true => exact .note _
      | false => rfl
  | backup host port =>
    cases side with
    | source => exact .note _
    | target => exact .cons (.note _) (.exec site _)
  | restore => exact .bind site.carries_stopService site.carries_startService
  | cleanup requested => exact .done

variable {site} {exchanges : List (Exchange Interface.host)} {result : Except MethodError Unit}

/-- What follows on a look whether something is there. -/
theorem Site.path_succeeds_bind (line : Line) {f : Bool → Work Unit}
    (path : (site.succeeds line >>= f).Path exchanges result) :
    ∃ (answer : (HostRequest.capture line site.execWithSudo).Answer) (rest : _),
      exchanges = ⟨HostRequest.capture line site.execWithSudo, answer⟩ :: rest ∧
        (f answer.isOk).Path rest result := by
  obtain ⟨answer, rest, rfl, after⟩ := Procedure.path_ask_iff.1 path
  cases answer with
  | error e => exact ⟨_, rest, rfl, after⟩
  | ok output => exact ⟨_, rest, rfl, after⟩

theorem Mydumper.follows {config : Config.Mydumper}
    (path : ((method site config).stage site.stopService side request).Path exchanges result) :
    Follows (plan site config side (.of exchanges) request) exchanges result := by
  cases request with
  | prepare requested =>
    cases requested with
    | source => exact Carries.done.follows path
    | target => exact (Carries.cons (.exec site _) (.exec site _)).follows path
  | backup host port =>
    cases side with
    | source => exact (Carries.note _).follows path
    | target => exact (Carries.cons (.note _) (.exec site _)).follows path
  | restore =>
    obtain ⟨e, rfl, rfl⟩ | ⟨mode, rest, rfl, after⟩ := Work.path_database_bind path
    · exact .head rfl rfl rfl rfl
    · refine Follows.cons (Carries.follows ?_ after) ⟨rfl, .inr rfl⟩
      refine .cons (.execute _) (.cons (.note _) ?_)
      exact .undoing (.exec site _) (by simp [PlannedStep.exec]) (.execute _) rfl
  | cleanup requested =>
    cases requested with
    | source => exact Carries.done.follows path
    | target => exact (Carries.exec site _).follows path

theorem Lvm.follows_backup_source {config : Config.Lvm} {host : String} {port : UInt16}
    (path : (backup site config ⟨.source, host, port⟩).Path exchanges result) :
    Follows (plan site config .source (.of exchanges) (.backup host port)) exchanges result := by
  simp only [backup, snapshot, bind_assoc] at path
  obtain ⟨e, rfl, rfl⟩ | ⟨c, rest, rfl, after⟩ := Work.path_database_bind path
  · exact .head rfl rfl rfl rfl
  have under : Carries (do
      Work.writeFile (sidecarFile site) (Sidecar.text c)
      Work.note ("Creating snapshot " ++ config.snapshotName)
      site.exec (createLine config))
      [.writeFile (sidecarFile site) (Sidecar.text c),
        .note ("Creating snapshot " ++ config.snapshotName), .exec site (createLine config)] :=
    .cons (.writeFile _ _) (.cons (.note _) (.exec site _))
  have sent : Carries (do
      Work.note "Mounting snapshot"
      site.exec (mountLine config)
      Work.note ("Streaming snapshot to " ++ host)
      site.exec (sendLine site config host))
      [.note "Mounting snapshot", .exec site (mountLine config),
        .note ("Streaming snapshot to " ++ host), .exec site (sendLine site config host)] :=
    .cons (.note _) (.cons (.exec site _) (.cons (.note _) (.exec site _)))
  have taken := (under.undoing (by simp [PlannedStep.exec, PlannedStep.note, PlannedStep.writeFile])
    .unlock rfl).seq sent
  simp only [bind_assoc] at taken
  exact (taken.follows after).cons ⟨rfl, .inr rfl⟩

/-- The snapshot is removed if there is one. -/
theorem Lvm.follows_removal {config : Config.Lvm}
    (path : Procedure.Path (I := Interface.host) (do
      if ← site.succeeds (presentLine config) then
        Work.note "Removing snapshot"
        site.exec (Template.single ["lvremove", "--force", .value (snapshotDevice config)])
      site.removePath (sidecarFile site)) exchanges result) :
    Follows
      (.look site (presentLine config) ::
        (if (Told.of exchanges).succeeds (presentLine config) then
            [.note "Removing snapshot",
              .exec site (Template.single ["lvremove", "--force", .value (snapshotDevice config)])]
          else []) ++
        [.exec site (Site.removeLine (sidecarFile site))]) exchanges result := by
  obtain ⟨answer, rest, rfl, after⟩ := Site.path_succeeds_bind (presentLine config) path
  rw [Told.succeeds_look]
  refine Follows.cons (Carries.follows ?_ after) ⟨rfl, .inl rfl⟩
  cases answer.isOk with
  | true => exact .cons (.note _) (.cons (.exec site _) (.exec site _))
  | false => exact .exec site _

theorem Lvm.follows_cleanup_source {config : Config.Lvm}
    (path : (cleanup site config .source).Path exchanges result) :
    Follows (plan site config side (.of exchanges) (.cleanup .source)) exchanges result := by
  obtain ⟨answer, rest, rfl, after⟩ := Site.path_succeeds_bind (mountedLine config) path
  have lines_ne : (mountedLine config : Line) ≠ presentLine config := by
    simp [mountedLine, presentLine, Template.single]
  have looked : PlannedStep.Passes (.look site (mountedLine config))
      ⟨HostRequest.capture (mountedLine config) site.execWithSudo, answer⟩ := ⟨rfl, .inl rfl⟩
  have other : HostRequest.succeeds? (presentLine config)
      (.capture (mountedLine config) site.execWithSudo) answer = none := by
    simp [HostRequest.succeeds?, lines_ne]
  rw [plan, Told.succeeds_look, Told.succeeds_cons other]
  cases found : answer.isOk with
  | false =>
    rw [found] at after
    exact (follows_removal after).cons looked
  | true =>
    rw [found] at after
    obtain ⟨⟨⟩, rest, rfl, noted⟩ := Procedure.path_ask_iff.1 after
    rw [Told.succeeds_cons rfl]
    obtain ⟨e, rfl, rfl⟩ | ⟨rest, rfl, unmounted⟩ := Site.path_exec_bind noted
    · exact ((Follows.head rfl rfl rfl rfl).cons ⟨rfl, .inr rfl⟩).cons looked
    · rw [Told.succeeds_cons rfl]
      exact (((follows_removal unmounted).cons ⟨rfl, .inr rfl⟩).cons ⟨rfl, .inr rfl⟩).cons looked

theorem Lvm.follows {config : Config.Lvm}
    (path : ((method site config).stage site.stopService side request).Path exchanges result) :
    if config.logicalVolume = "" ∧ request.stage = .prepare then
      exchanges = [] ∧ result = .error (.config "lvm.logical-volume is not set")
    else Follows (plan site config side (.of exchanges) request) exchanges result := by
  cases request with
  | prepare requested =>
    change (prepare site config requested).Path exchanges result at path
    unfold prepare at path
    split at path
    · rename_i unset
      simpa [unset, StageRequest.stage] using Procedure.path_fail_iff.1 path
    · rename_i set
      rw [if_neg fun refused => set refused.1]
      cases requested with
      | source => exact (Carries.exec site _).follows path
      | target => exact (site.carries_stopService.bind site.carries_clearDatadir).follows path
  | backup host port =>
    rw [if_neg fun refused => nomatch refused.2]
    cases side with
    | source => exact follows_backup_source path
    | target => exact (Carries.cons (.note _) (.exec site _)).follows path
  | restore =>
    rw [if_neg fun refused => nomatch refused.2]
    have restored : Carries (restore site) _ :=
      .cons (.exec site _) (.cons (.exec site _) site.carries_startService)
    simpa [plan] using (site.carries_stopService.seq restored).follows path
  | cleanup requested =>
    rw [if_neg fun refused => nomatch refused.2]
    cases requested with
    | source => exact follows_cleanup_source side path
    | target => exact Carries.done.follows path

/-- Whatever the host answers, a stage follows its plan. -/
theorem Config.Methods.followed {methods : Config.Methods} {kind : Method}
    (path : (methods.stage site kind side request).Path exchanges result) :
    (methods.plan site kind side request (.of exchanges)).Followed exchanges result := by
  cases kind with
  | mysqldump => exact (Mysqldump.carries site side request methods.mysqldump).follows path
  | mydumper => exact Mydumper.follows side request path
  | xtrabackup => exact (Xtrabackup.carries site side request methods.xtrabackup).follows path
  | lvm =>
    have follows := Lvm.follows side request path
    split at follows
    · rename_i refused
      simp only [plan, if_pos refused]
      exact follows
    · rename_i admitted
      simp only [plan, if_neg admitted]
      exact follows
  | clonePlugin => exact (ClonePlugin.carries site side request).follows path

end

/-! ## What is special about a step -/

section

variable (site : Site) (side : Side) (request : StageRequest) (told : Told)

theorem Site.plain_stopping : ∀ step ∈ site.stopping, step.Plain := by simp [stopping]

theorem Site.plain_starting : ∀ step ∈ site.starting, step.Plain := by simp [starting]

theorem Site.plain_emptying : ∀ step ∈ site.emptying, step.Plain := by
  unfold emptying
  split <;> simp

theorem Mysqldump.plain (config : Config.Mysqldump) :
    ∀ step ∈ plan site config side request, step.Plain := by
  rcases request with (_ | _) | ⟨host, port⟩ | _ | (_ | _) <;> cases side <;> simp [plan]

theorem Xtrabackup.plain (config : Config.Xtrabackup) :
    ∀ step ∈ plan site config side request, step.Plain := by
  rcases request with (_ | _) | ⟨host, port⟩ | _ | (_ | _)
  · simp [plan]
  · exact List.forall_mem_append.2 ⟨site.plain_stopping, site.plain_emptying⟩
  · cases side <;> simp [plan]
  · cases h : config.compress <;> simp [plan, Site.stopping, Site.starting, h]
  · simp [plan]
  · simp [plan]

theorem ClonePlugin.plain : ∀ step ∈ plan site side request, step.Plain := by
  rcases request with _ | ⟨host, port⟩ | _ | _
  · simp [plan]
  · cases side <;> simp [plan]
  · exact List.forall_mem_append.2 ⟨site.plain_stopping, site.plain_starting⟩
  · simp [plan]

/-- Only the load of a dump stands under a mode that is to be set back. -/
theorem Mydumper.plain_or (config : Config.Mydumper) :
    ∀ step ∈ plan site config side told request, step.Plain ∨
      request = .restore ∧ step.probes = false ∧ step.request.isCapture = false ∧
        step.undo = some (.database (.execute (setModeStatement told.mode))) := by
  rcases request with (_ | _) | ⟨host, port⟩ | _ | (_ | _)
  case restore =>
    have loaded := (PlannedStep.plain_exec site (restoreLine site config)).2
    simpa [plan, loaded] using .inr rfl
  all_goals cases side <;> simp [plan]

/-- Only what stands under the lock is undone, by giving the lock back, and only what looks for a
snapshot may fail. -/
theorem Lvm.plain_or (config : Config.Lvm) :
    ∀ step ∈ plan site config side told request, step.Plain ∨
      (side = .source ∧ (∃ host port, request = .backup host port) ∧ step.probes = false ∧
        step.request.isCapture = false ∧ step.undo = some (.database .unlock)) ∨
      (request = .cleanup .source ∧
        (step = .look site (mountedLine config) ∨ step = .look site (presentLine config))) := by
  rcases request with (_ | _) | ⟨host, port⟩ | _ | (_ | _)
  · simp [plan]
  · exact fun step member => .inl
      (List.forall_mem_append.2 ⟨site.plain_stopping, site.plain_emptying⟩ step member)
  · cases side with
    | target => simp [plan]
    | source => simp [plan, (PlannedStep.plain_note _).2, (PlannedStep.plain_writeFile _ _).2,
        (PlannedStep.plain_exec _ _).2]
  · simp [plan, Site.stopping, Site.starting]
  · cases mounted : told.succeeds (mountedLine config) <;>
      cases present : told.succeeds (presentLine config) <;>
        simp [plan, PlannedStep.look, mounted, present]
  · simp [plan]

end

namespace Config.Methods

variable {methods : Config.Methods} {site : Site} {kind : Method} {side : Side}
  {request : StageRequest} {told : Told} {steps : List PlannedStep} {step : PlannedStep}

/-- A step is plain, or it is a load of `mydumper`, it stands under the lock of a snapshot, or it
looks for one. -/
theorem plain_or (planned : methods.plan site kind side request told = .ok steps)
    (member : step ∈ steps) :
    step.Plain ∨
    (kind = .mydumper ∧ request = .restore ∧ step.probes = false ∧
      step.request.isCapture = false ∧
      step.undo = some (.database (.execute (Mydumper.setModeStatement told.mode)))) ∨
    (kind = .lvm ∧ side = .source ∧ (∃ host port, request = .backup host port) ∧
      step.probes = false ∧ step.request.isCapture = false ∧
      step.undo = some (.database .unlock)) ∨
    (kind = .lvm ∧ request = .cleanup .source ∧
      (step = .look site (Lvm.mountedLine methods.lvm) ∨
        step = .look site (Lvm.presentLine methods.lvm))) := by
  cases kind with
  | mysqldump =>
    obtain rfl := Except.ok.inj planned
    exact .inl (Mysqldump.plain site side request methods.mysqldump step member)
  | mydumper =>
    obtain rfl := Except.ok.inj planned
    obtain plain | load := Mydumper.plain_or site side request told methods.mydumper step member
    · exact .inl plain
    · exact .inr (.inl ⟨rfl, load⟩)
  | xtrabackup =>
    obtain rfl := Except.ok.inj planned
    exact .inl (Xtrabackup.plain site side request methods.xtrabackup step member)
  | lvm =>
    simp only [plan] at planned
    split at planned
    · cases planned
    · obtain rfl := Except.ok.inj planned
      obtain plain | locked | looks :=
        Lvm.plain_or site side request told methods.lvm step member
      · exact .inl plain
      · exact .inr (.inr (.inl ⟨rfl, locked⟩))
      · exact .inr (.inr (.inr ⟨rfl, looks⟩))
  | clonePlugin =>
    obtain rfl := Except.ok.inj planned
    exact .inl (ClonePlugin.plain site side request step member)

/-- What is undone when a step has failed: the lock of a snapshot, or the mode of a load. -/
theorem undo_of_mem (planned : methods.plan site kind side request told = .ok steps)
    (member : step ∈ steps) {q : HostRequest} (undo : q ∈ step.undo) :
    (kind = .lvm ∧ side = .source ∧ (∃ host port, request = .backup host port) ∧
      q = .database .unlock) ∨
    (kind = .mydumper ∧ request = .restore ∧
      q = .database (.execute (Mydumper.setModeStatement told.mode))) := by
  obtain plain | ⟨kind, request, -, -, undo'⟩ | ⟨kind, side, request, -, -, undo'⟩ |
    ⟨-, -, rfl | rfl⟩ := plain_or planned member
  · simp [plain.1] at undo
  · exact .inr ⟨kind, request, Option.some.inj (undo.symm.trans undo')⟩
  · exact .inl ⟨kind, side, request, Option.some.inj (undo.symm.trans undo')⟩
  · simp [PlannedStep.look] at undo
  · simp [PlannedStep.look] at undo

/-- Only what looks for a snapshot may fail. -/
theorem probes_of_mem (planned : methods.plan site kind side request told = .ok steps)
    (member : step ∈ steps) (probes : step.probes = true) :
    kind = .lvm ∧ request = .cleanup .source ∧
      (step = .look site (Lvm.mountedLine methods.lvm) ∨
        step = .look site (Lvm.presentLine methods.lvm)) := by
  obtain plain | ⟨-, -, must, -⟩ | ⟨-, -, -, must, -⟩ | looks := plain_or planned member
  · simp [plain.2.1] at probes
  · simp [must] at probes
  · simp [must] at probes
  · exact looks

/-- Only a Prepare without a volume is refused. -/
theorem refusal_of_plan {e : MethodError}
    (planned : methods.plan site kind side request told = .error e) :
    kind = .lvm ∧ methods.lvm.logicalVolume = "" ∧ request.stage = .prepare ∧
      e = .config "lvm.logical-volume is not set" := by
  cases kind with
  | lvm =>
    simp only [plan] at planned
    split at planned
    · rename_i refused
      cases planned
      exact ⟨rfl, refused.1, refused.2, rfl⟩
    · cases planned
  | _ => cases planned

/-- Where the backup lands in the data directory, Restore begins by stopping the service and ends by
starting it. -/
theorem plan_restore (side : Side) (told : Told)
    (into : (methods.method site kind).intoDatadir = true) :
    ∃ middle, methods.plan site kind side .restore told =
      .ok (site.stopping ++ middle ++ site.starting) ∧
      ∀ step ∈ site.stopping ++ middle ++ site.starting, step.Plain := by
  have planned : ∃ middle, methods.plan site kind side .restore told =
      .ok (site.stopping ++ middle ++ site.starting) := by
    cases kind with
    | mysqldump => cases into
    | mydumper => cases into
    | xtrabackup => exact ⟨_, rfl⟩
    | lvm => exact ⟨_, if_neg fun refused => nomatch refused.2⟩
    | clonePlugin => exact ⟨[], by rw [List.append_nil]; rfl⟩
  obtain ⟨middle, planned⟩ := planned
  refine ⟨middle, planned, fun step member => ?_⟩
  obtain plain | ⟨rfl, -⟩ | ⟨-, -, ⟨_, _, other⟩, -⟩ | ⟨-, other, -⟩ := plain_or planned member
  · exact plain
  · cases into
  · cases other
  · cases other

end Config.Methods

end ReplicaSeed
