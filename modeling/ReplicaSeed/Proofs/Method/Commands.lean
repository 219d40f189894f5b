import ReplicaSeed.Proofs.Command.Reading
import ReplicaSeed.Proofs.Method.Catalogue

/-!
# What the seed methods run

Whatever the answers to its requests are, a seed method runs no command lines but those that the
operator has given and those that are read as lines of its catalogue.

## Main definitions

* `Procedure.Uses`: a procedure asks for nothing but what is allowed.
* `HostRequest.Among`: a request runs no line but certain ones.

## Main statements

* `Config.Methods.commands_catalogued`: no value changes what a method runs.
-/

namespace ReplicaSeed

open Command

/-! ## What a procedure asks for -/

namespace Procedure

variable {I : Interface} {α β : Type} {P : I.Request → Prop}

/-- Whatever the answers are, the procedure asks for nothing but what `P` allows. -/
def Uses (P : I.Request → Prop) : Procedure I α → Prop
  | done _ => True
  | fail _ => True
  | ask q next => P q ∧ ∀ answer, (next answer).Uses P

namespace Uses

theorem pure (a : α) : (Pure.pure a : Procedure I α).Uses P := trivial

theorem ask {q : I.Request} {next : I.Answer q → Procedure I α} (allowed : P q)
    (rest : ∀ answer, (next answer).Uses P) : (Procedure.ask q next).Uses P :=
  ⟨allowed, rest⟩

theorem bind {x : Procedure I α} {f : α → Procedure I β} (first : x.Uses P)
    (rest : ∀ a, (f a).Uses P) : (x >>= f).Uses P := by
  induction x with
  | done a => exact rest a
  | fail e => trivial
  | ask q next ih => exact ⟨first.1, fun answer => ih answer (first.2 answer)⟩

theorem attempt {x : Procedure I α} (h : x.Uses P) : x.attempt.Uses P := by
  induction x with
  | done a => trivial
  | fail e => trivial
  | ask q next ih => exact ⟨h.1, fun answer => ih answer (h.2 answer)⟩

theorem ofExcept (result : Except MethodError α) :
    (Procedure.ofExcept result : Procedure I α).Uses P := by
  cases result <;> trivial

theorem ite {c : Prop} [Decidable c] {x y : Procedure I α} (h : x.Uses P) (h' : y.Uses P) :
    (if c then x else y).Uses P := by
  split
  · exact h
  · exact h'

end Uses

end Procedure

/-! ## Lines -/

/-- The command line that a request runs. -/
def HostRequest.line? : HostRequest → Option Line
  | exec line _ => some line
  | capture line _ => some line
  | probe line _ _ => some line
  | _ => none

/-- The line is one that the operator has given, or it is read as one of `lines`. -/
def Line.Among (given : List String) (lines : List CommandLine) : Line → Prop
  | .given text => text ∈ given
  | .built t => ∃ c ∈ lines, CommandLine.parse t.text = .ok c

/-- The request runs no line but those that the operator has given and those of `lines`. -/
def HostRequest.Among (given : List String) (lines : List CommandLine) (q : HostRequest) : Prop :=
  ∀ line ∈ q.line?, line.Among given lines

theorem HostRequest.among_of_noLine {given : List String} {lines : List CommandLine}
    {q : HostRequest} (noLine : q.line? = none) : q.Among given lines := by
  intro line member
  rw [noLine] at member
  cases member

namespace Command

theorem Template.commandLine_single (words : List WordTemplate) :
    (Template.single words).commandLine = .single (words.map WordTemplate.meaning) := rfl

/-- A template that can be checked without its values is read as what it stands for. -/
theorem Template.among {given : List String} {lines : List CommandLine} {t : Template}
    (plain : t.isPlain = true) (member : t.commandLine ∈ lines) :
    Line.Among given lines (.built t) :=
  ⟨t.commandLine, member, t.parse_text (t.wellFormed_of_isPlain plain)⟩

end Command

/-! ## What the methods share -/

section

variable {given : List String} {lines : List CommandLine} (site : Site) {line : Line}

namespace Work

theorem uses_note (text : String) : (note text).Uses (HostRequest.Among given lines) :=
  .ask (HostRequest.among_of_noLine rfl) fun _ => trivial

theorem uses_database (call : Database.Call) :
    (database call).Uses (HostRequest.Among given lines) :=
  .ask (HostRequest.among_of_noLine rfl) fun | .ok _ => trivial | .error _ => trivial

theorem uses_writeFile (path content : String) :
    (writeFile path content).Uses (HostRequest.Among given lines) :=
  .ask (HostRequest.among_of_noLine rfl) fun | .ok () => trivial | .error _ => trivial

theorem uses_readFile (path : String) : (readFile path).Uses (HostRequest.Among given lines) :=
  .ask (HostRequest.among_of_noLine rfl) fun | .ok _ => trivial | .error _ => trivial

theorem uses_readText (path : String) : (readText path).Uses (HostRequest.Among given lines) := by
  refine .bind (uses_readFile path) fun bytes => ?_
  split <;> trivial

theorem uses_artifact (path : String) (parsed : Except ArtifactFault Coordinates) :
    (artifact path parsed).Uses (HostRequest.Among given lines) := by
  cases parsed <;> trivial

end Work

namespace Site

theorem uses_exec (among : line.Among given lines) :
    (site.exec line).Uses (HostRequest.Among given lines) := by
  refine .ask ?_ fun | .ok () => trivial | .error _ => trivial
  rintro _ ⟨⟩
  exact among

theorem uses_probe (among : line.Among given lines) :
    (site.probe line).Uses (HostRequest.Among given lines) := by
  refine .bind (.ask ?_ fun _ => trivial) fun _ => trivial
  rintro _ ⟨⟩
  exact among

theorem uses_succeeds (among : line.Among given lines) :
    (site.succeeds line).Uses (HostRequest.Among given lines) := by
  refine .bind (.attempt (.ask ?_ fun | .ok _ => trivial | .error _ => trivial)) fun _ => trivial
  rintro _ ⟨⟩
  exact among

theorem uses_stopService (member : site.mysql.serviceStopCommand ∈ given) :
    site.stopService.Uses (HostRequest.Among given lines) :=
  .bind (Work.uses_note _) fun _ => site.uses_exec member

theorem uses_startService (member : site.mysql.serviceStartCommand ∈ given) :
    site.startService.Uses (HostRequest.Among given lines) :=
  .bind (Work.uses_note _) fun _ => site.uses_exec member

theorem commandLine_removeLine (path : String) :
    (removeLine path).commandLine = removing path := by
  simp [removeLine, removing, Template.commandLine_single]

theorem commandLine_makeDirectoryLine (path : String) :
    (makeDirectoryLine path).commandLine = making path := by
  simp [makeDirectoryLine, making, Template.commandLine_single]

theorem commandLine_chownLine : site.chownLine.commandLine = site.owning := by
  simp [chownLine, owning, Template.commandLine_single]

theorem uses_removePath {path : String} (member : removing path ∈ lines) :
    (site.removePath path).Uses (HostRequest.Among given lines) :=
  site.uses_exec (Template.among rfl (commandLine_removeLine path ▸ member))

theorem uses_makeDirectory {path : String} (member : making path ∈ lines) :
    (site.makeDirectory path).Uses (HostRequest.Among given lines) :=
  site.uses_exec (Template.among rfl (commandLine_makeDirectoryLine path ▸ member))

theorem uses_chownDatadir (member : site.owning ∈ lines) :
    site.chownDatadir.Uses (HostRequest.Among given lines) :=
  site.uses_exec (Template.among rfl (site.commandLine_chownLine ▸ member))

theorem uses_clearDatadir : site.clearDatadir.Uses (HostRequest.Among given site.clearing) := by
  unfold clearDatadir
  refine .ite ?_ ?_
  · refine .bind (Work.uses_note _) fun _ => .bind (site.uses_removePath ?_) fun _ =>
      .bind (site.uses_exec (Template.among rfl ?_)) fun _ =>
        .bind (site.uses_makeDirectory ?_) fun _ => site.uses_chownDatadir ?_
    all_goals simp [clearing, Template.commandLine_single]
  · refine .bind (Work.uses_note _) fun _ => site.uses_exec (Template.among rfl ?_)
    simp [clearing, Template.commandLine_single]

/-- The number of a port is written in decimal. -/
theorem portText_eq (port : UInt16) : portText port = toString port.toNat := rfl

/-- The words of a client can be checked without the values. -/
theorem isPlain_clientArgs (host : String) (port : UInt16) :
    (site.clientArgs host port).all WordTemplate.isPlain = true := by
  simp only [clientArgs, WordTemplate.isPlain, WordTemplate.option, List.all_cons, List.any_cons,
    portText_eq, Piece.isPlain_number]
  rfl

theorem meaning_clientArgs (host : String) (port : UInt16) :
    (site.clientArgs host port).map WordTemplate.meaning = site.clientWords host port := by
  simp [clientArgs, clientWords, portText_eq]

theorem isPlain_localClientArgs : site.localClientArgs.all WordTemplate.isPlain = true :=
  site.isPlain_clientArgs _ _

theorem meaning_localClientArgs :
    site.localClientArgs.map WordTemplate.meaning = site.localClientWords :=
  site.meaning_clientArgs _ _

theorem isPlain_streamReceiver : site.streamReceiver.all WordTemplate.isPlain = true := by
  simp only [streamReceiver, WordTemplate.isPlain, List.all_cons, List.any_cons, portText_eq,
    Piece.isPlain_number]
  rfl

theorem meaning_streamReceiver :
    site.streamReceiver.map WordTemplate.meaning = site.receiverWords := by
  simp [streamReceiver, receiverWords, portText_eq, WordTemplate.meaning, Piece.meaning,
    String.append_assoc]

theorem isPlain_streamSender (peer : String) :
    (site.streamSender peer).all WordTemplate.isPlain = true := by
  simp only [streamSender, WordTemplate.isPlain, List.all_cons, List.any_cons, portText_eq,
    Piece.isPlain_number]
  rfl

theorem meaning_streamSender (peer : String) :
    (site.streamSender peer).map WordTemplate.meaning = site.senderWords peer := by
  simp [streamSender, senderWords, portText_eq, WordTemplate.meaning, Piece.meaning,
    String.append_assoc]

end Site

end

/-! ## Each method -/

/-- Each part of a method runs no lines but those of a catalogue. For its stages there are lines
that the operator has given as well. -/
structure SeedMethod.Runs (m : SeedMethod Interface.host) (given : List String)
    (c : Catalogue) : Prop where
  probe : ∀ version, (m.probe version).Uses (HostRequest.Among [] c.probe)
  prepare : ∀ side, (m.prepare side).Uses (HostRequest.Among given (c.prepare side))
  backup : ∀ request, (m.backup request).Uses (HostRequest.Among given (c.backup request))
  restore : m.restore.Uses (HostRequest.Among given c.restore)
  coordinates : m.coordinates.Uses (HostRequest.Among [] [])
  cleanup : ∀ side, (m.cleanup side).Uses (HostRequest.Among given (c.cleanup side))

theorem SeedMethod.Runs.stage {m : SeedMethod Interface.host} {given : List String} {c : Catalogue}
    (h : m.Runs given c) {site : Site} (stop : site.mysql.serviceStopCommand ∈ given) (side : Side)
    (request : StageRequest) :
    (m.stage site.stopService side request).Uses
      (HostRequest.Among given (c.stage side request)) := by
  cases request with
  | prepare requested => exact h.prepare requested
  | backup host port => exact h.backup ⟨side, host, port⟩
  | restore => exact .ite (.bind (site.uses_stopService stop) fun _ => h.restore) h.restore
  | cleanup requested => exact h.cleanup requested

section

variable {given : List String} (site : Site)

theorem Mysqldump.isPlain_backupLine (config : Config.Mysqldump) (host : String) (port : UInt16) :
    (backupLine site config host port).isPlain = true := by
  simp only [backupLine, Template.isPlain, List.isEmpty_cons, List.all_cons, List.flatten_cons,
    List.flatten_nil, List.all_append, Site.isPlain_clientArgs]
  cases config.compress <;> rfl

theorem Mysqldump.isPlain_restoreLine : (restoreLine site).isPlain = true := by
  simp only [restoreLine, Template.isPlain, List.isEmpty_cons, List.all_cons,
    Site.isPlain_localClientArgs]
  rfl

theorem Mysqldump.runs (config : Config.Mysqldump) :
    (method site config).Runs given (catalogue site config) where
  probe _ := by
    refine .bind (site.uses_probe (Template.among rfl ?_)) fun _ => trivial
    simp [catalogue, Template.commandLine_single]
  prepare := by
    rintro (_ | _)
    · trivial
    · refine .bind (site.uses_makeDirectory ?_) fun _ => site.uses_removePath ?_
      all_goals simp [catalogue]
  backup := by
    rintro ⟨_ | _, host, port⟩
    · exact Work.uses_note _
    · refine .bind (Work.uses_note _) fun _ => site.uses_exec (Template.among ?_ ?_)
      · exact isPlain_backupLine site config host port
      · cases h : config.compress <;>
          simp [backupLine, catalogue, Template.commandLine, Site.meaning_clientArgs, h]
  restore := by
    refine .bind (Work.uses_database _) fun _ => .bind (Work.uses_note _) fun _ =>
      site.uses_exec (Template.among ?_ ?_)
    · exact isPlain_restoreLine site
    · simp [restoreLine, catalogue, Template.commandLine, Site.meaning_localClientArgs]
  coordinates := by
    refine .ask (HostRequest.among_of_noLine rfl) ?_
    rintro (⟨fault⟩ | bytes)
    · cases fault <;> trivial
    · exact Work.uses_artifact _ _
  cleanup := by
    rintro (_ | _)
    · trivial
    · exact site.uses_removePath (by simp [catalogue])

theorem Mydumper.isPlain_backupLine (config : Config.Mydumper) (host : String) (port : UInt16) :
    (backupLine site config host port).isPlain = true := by
  simp only [backupLine, Template.isPlain, Template.single, List.isEmpty_cons, List.all_cons,
    List.flatten_cons, List.flatten_nil, List.all_append, Site.isPlain_clientArgs, threadsWord,
    WordTemplate.isPlain, Piece.isPlain_number]
  by_cases h : config.rowsChunkSize = 0
  · simp only [h, ne_eq, not_true, if_false]
    cases config.compress <;> rfl
  · simp only [h, ne_eq, not_false_eq_true, if_true, List.all_cons, WordTemplate.isPlain,
      Piece.isPlain_number]
    cases config.compress <;> rfl

theorem Mydumper.isPlain_restoreLine (config : Config.Mydumper) :
    (restoreLine site config).isPlain = true := by
  simp only [restoreLine, Template.isPlain, Template.single, List.isEmpty_cons, List.all_cons,
    List.flatten_cons, List.flatten_nil, List.all_append, Site.isPlain_localClientArgs,
    threadsWord, WordTemplate.isPlain, Piece.isPlain_number]
  rfl

theorem Mydumper.runs (config : Config.Mydumper) :
    (method site config).Runs given (catalogue site config) where
  probe _ := by
    refine .bind (.bind (site.uses_probe (Template.among rfl ?_)) fun found => .ite ?_ trivial)
      fun _ => trivial
    · simp [catalogue, Template.commandLine_single]
    · refine site.uses_probe (Template.among rfl ?_)
      simp [catalogue, Template.commandLine_single]
  prepare := by
    rintro (_ | _)
    · trivial
    · refine .bind (site.uses_removePath ?_) fun _ => site.uses_makeDirectory ?_
      all_goals simp [catalogue]
  backup := by
    rintro ⟨_ | _, host, port⟩
    · exact Work.uses_note _
    · refine .bind (Work.uses_note _) fun _ => site.uses_exec (Template.among ?_ ?_)
      · exact isPlain_backupLine site config host port
      · by_cases h : config.rowsChunkSize = 0 <;> cases h' : config.compress <;>
          simp [backupLine, catalogue, Template.commandLine_single, Site.meaning_clientArgs,
            threadsWord, threads, h, h']
  restore := by
    refine .bind (Work.uses_database _) fun mode => .bind (Work.uses_database _) fun _ =>
      .bind (Work.uses_note _) fun _ => .bind (.attempt (site.uses_exec (Template.among ?_ ?_)))
        fun loaded => .bind (.attempt (Work.uses_database _)) fun restored =>
          .bind (.ofExcept loaded) fun _ => .ofExcept restored
    · exact isPlain_restoreLine site config
    · simp [restoreLine, catalogue, Template.commandLine_single, Site.meaning_localClientArgs,
        threadsWord, threads]
  coordinates := .bind (Work.uses_readText _) fun _ => Work.uses_artifact _ _
  cleanup := by
    rintro (_ | _)
    · trivial
    · exact site.uses_removePath (by simp [catalogue])

theorem Xtrabackup.isPlain_sendLine (config : Config.Xtrabackup) (peer : String) :
    (sendLine site config peer).isPlain = true := by
  simp only [sendLine, Template.isPlain, List.isEmpty_cons, List.all_cons, List.flatten_cons,
    List.flatten_nil, List.all_append, Site.isPlain_localClientArgs, Site.isPlain_streamSender,
    parallelWord, WordTemplate.isPlain, Piece.isPlain_number]
  cases config.compress <;> rfl

theorem Xtrabackup.isPlain_receiveLine (config : Config.Xtrabackup) :
    (receiveLine site config).isPlain = true := by
  simp only [receiveLine, Template.isPlain, List.isEmpty_cons, List.all_cons,
    Site.isPlain_streamReceiver, parallelWord, WordTemplate.isPlain, Piece.isPlain_number]
  rfl

theorem Xtrabackup.isPlain_decompressLine (config : Config.Xtrabackup) :
    (decompressLine site config).isPlain = true := by
  simp only [decompressLine, Template.isPlain, Template.single, List.isEmpty_cons,
    List.all_cons, parallelWord, WordTemplate.isPlain, Piece.isPlain_number]
  rfl

theorem Xtrabackup.runs (config : Config.Xtrabackup)
    (stop : site.mysql.serviceStopCommand ∈ given)
    (start : site.mysql.serviceStartCommand ∈ given) :
    (method site config).Runs given (catalogue site config) where
  probe := by
    rintro (_ | version)
    · refine .bind (.ask ?_ fun _ => trivial) fun output => ?_
      · rintro _ ⟨⟩
        refine Template.among rfl ?_
        simp [catalogue, Template.commandLine_single]
      · cases output <;> trivial
    · trivial
  prepare := by
    rintro (_ | _)
    · refine .bind (site.uses_removePath ?_) fun _ => site.uses_makeDirectory ?_
      all_goals simp [catalogue]
    · exact .bind (site.uses_stopService stop) fun _ => site.uses_clearDatadir
  backup := by
    rintro ⟨_ | _, host, port⟩
    · refine .bind (Work.uses_note _) fun _ => site.uses_exec (Template.among ?_ ?_)
      · exact isPlain_sendLine site config host
      · cases h : config.compress <;>
          simp [sendLine, catalogue, Template.commandLine, Site.meaning_localClientArgs,
            Site.meaning_streamSender, parallelWord, parallel, h]
    · refine .bind (Work.uses_note _) fun _ => site.uses_exec (Template.among ?_ ?_)
      · exact isPlain_receiveLine site config
      · simp [receiveLine, catalogue, Template.commandLine, Site.meaning_streamReceiver,
          parallelWord, parallel]
  restore := by
    -- What follows the decompression is done with and without it.
    have apply_ : (do
        Work.note "Applying redo log"
        site.exec (applyLine site)
        site.chownDatadir
        site.startService : Work Unit).Uses
          (HostRequest.Among given (catalogue site config).restore) := by
      refine .bind (Work.uses_note _) fun _ => .bind (site.uses_exec (Template.among rfl ?_))
        fun _ => .bind (site.uses_chownDatadir ?_) fun _ => site.uses_startService start
      · simp [applyLine, catalogue, Template.commandLine_single]
      · simp [catalogue]
    refine .ite (.bind (Work.uses_note _) fun _ => .bind (site.uses_exec (Template.among ?_ ?_))
      fun _ => apply_) apply_
    · exact isPlain_decompressLine site config
    · simp [decompressLine, catalogue, Template.commandLine_single, parallelWord, parallel]
  coordinates := .bind (Work.uses_readText _) fun _ => Work.uses_artifact _ _
  cleanup := by
    rintro (_ | _)
    · exact site.uses_removePath (by simp [catalogue])
    · trivial

theorem Lvm.among_createLine {config : Config.Lvm}
    (create : config.createSnapshotCommand ≠ "" → config.createSnapshotCommand ∈ given)
    (peer : String) (port : UInt16) :
    (createLine config).Among given ((catalogue site config).backup ⟨.source, peer, port⟩) := by
  unfold createLine
  split
  · refine Template.among rfl ?_
    simp [catalogue, Template.commandLine_single]
  · rename_i custom
    exact create custom

theorem Lvm.isPlain_mountLine (config : Config.Lvm) : (mountLine config).isPlain = true := by
  unfold mountLine
  split <;> rfl

theorem Lvm.isPlain_receiveLine : (receiveLine site).isPlain = true := by
  simp only [receiveLine, Template.isPlain, List.isEmpty_cons, List.all_cons,
    Site.isPlain_streamReceiver]
  rfl

theorem Lvm.isPlain_sendLine (config : Config.Lvm) (peer : String) :
    (sendLine site config peer).isPlain = true := by
  simp only [sendLine, Template.isPlain, List.isEmpty_cons, List.all_cons,
    Site.isPlain_streamSender]
  rfl

theorem Lvm.runs (config : Config.Lvm)
    (stop : site.mysql.serviceStopCommand ∈ given)
    (start : site.mysql.serviceStartCommand ∈ given)
    (create : config.createSnapshotCommand ≠ "" → config.createSnapshotCommand ∈ given) :
    (method site config).Runs given (catalogue site config) where
  probe _ := by
    refine .bind (.ite trivial (site.uses_probe (Template.among rfl ?_))) fun _ => trivial
    simp [catalogue, Template.commandLine_single]
  prepare side := by
    refine .ite trivial ?_
    cases side with
    | source => exact site.uses_makeDirectory (by simp [catalogue])
    | target => exact .bind (site.uses_stopService stop) fun _ => site.uses_clearDatadir
  backup := by
    rintro ⟨_ | _, peer, port⟩
    · refine .bind ?_ fun _ => .bind (Work.uses_note _) fun _ =>
        .bind (site.uses_exec (Template.among ?_ ?_)) fun _ => .bind (Work.uses_note _) fun _ =>
          site.uses_exec (Template.among ?_ ?_)
      · refine .bind (Work.uses_database _) fun c => .bind (.attempt ?_) fun created =>
          .bind (.attempt (Work.uses_database _)) fun released => .bind (.ofExcept created) fun _ =>
            .ofExcept released
        exact .bind (Work.uses_writeFile _ _) fun _ => .bind (Work.uses_note _) fun _ =>
          site.uses_exec (among_createLine site create peer port)
      · exact isPlain_mountLine config
      · by_cases h : config.mountOptions = "" <;>
          simp [mountLine, catalogue, Template.commandLine_single, h]
      · exact isPlain_sendLine site config peer
      · simp [sendLine, catalogue, Template.commandLine, Site.meaning_streamSender]
    · refine .bind (Work.uses_note _) fun _ => site.uses_exec (Template.among ?_ ?_)
      · exact isPlain_receiveLine site
      · simp [receiveLine, catalogue, Template.commandLine, Site.meaning_streamReceiver]
  restore := by
    refine .bind (site.uses_exec (Template.among rfl ?_)) fun _ =>
      .bind (site.uses_chownDatadir ?_) fun _ => site.uses_startService start
    all_goals simp [catalogue, Template.commandLine_single]
  coordinates := .bind (Work.uses_readText _) fun _ => Work.uses_artifact _ _
  cleanup := by
    rintro (_ | _)
    · have remove : (site.removePath (sidecarFile site)).Uses
          (HostRequest.Among given ((catalogue site config).cleanup .source)) :=
        site.uses_removePath (by simp [catalogue])
      have release : (do
          if ← site.succeeds (Template.single ["lvs", .value (snapshotDevice config)]) then
            Work.note "Removing snapshot"
            site.exec (Template.single ["lvremove", "--force", .value (snapshotDevice config)])
          site.removePath (sidecarFile site) : Work Unit).Uses
            (HostRequest.Among given ((catalogue site config).cleanup .source)) := by
        refine .bind (site.uses_succeeds (Template.among rfl ?_)) fun there =>
          .ite (.bind (Work.uses_note _) fun _ => .bind (site.uses_exec (Template.among rfl ?_))
            fun _ => remove) remove
        all_goals simp [catalogue, Template.commandLine_single]
      refine .bind (site.uses_succeeds (Template.among rfl ?_)) fun there =>
          .ite (.bind (Work.uses_note _) fun _ => .bind (site.uses_exec (Template.among rfl ?_))
            fun _ => release) release
      all_goals simp [catalogue, Template.commandLine_single]
    · trivial

theorem ClonePlugin.isPlain_cloneLine (host : String) (port : UInt16) :
    (cloneLine site host port).isPlain = true := by
  simp only [cloneLine, Template.isPlain, Template.single, List.isEmpty_cons, List.all_cons,
    List.flatten_cons, List.flatten_nil, List.all_append, Site.isPlain_localClientArgs]
  rfl

theorem ClonePlugin.runs (start : site.mysql.serviceStartCommand ∈ given) :
    (method site).Runs given (catalogue site) where
  probe _ := by
    refine .bind (.bind (.ask ?_ fun _ => trivial) fun _ => trivial) fun _ => trivial
    exact HostRequest.among_of_noLine rfl
  prepare _ := .bind (Work.uses_database _) fun _ => .ite (Work.uses_note _) trivial
  backup := by
    rintro ⟨_ | _, host, port⟩
    · exact Work.uses_note _
    · refine .bind (Work.uses_note _) fun _ => site.uses_exec (Template.among ?_ ?_)
      · exact isPlain_cloneLine site host port
      · simp [cloneLine, catalogue, Template.commandLine_single, Site.meaning_localClientArgs]
  restore := site.uses_startService start
  coordinates := by
    refine .bind (Work.uses_database _) fun status => ?_
    cases status with
    | none => trivial
    | some c => exact .ite trivial trivial
  cleanup _ := trivial

end

/-- A method runs no lines but those of its catalogue and those that the operator has given. -/
theorem Config.Methods.runs (methods : Config.Methods) (site : Site) (kind : Method) :
    (methods.method site kind).Runs (methods.givenLines site) (methods.catalogue site kind) := by
  have stop : site.mysql.serviceStopCommand ∈ methods.givenLines site := by simp [givenLines]
  have start : site.mysql.serviceStartCommand ∈ methods.givenLines site := by simp [givenLines]
  cases kind with
  | mysqldump => exact Mysqldump.runs site methods.mysqldump
  | mydumper => exact Mydumper.runs site methods.mydumper
  | xtrabackup => exact Xtrabackup.runs site methods.xtrabackup stop start
  | lvm =>
    exact Lvm.runs site methods.lvm stop start fun custom => by simp [givenLines, if_neg custom]
  | clonePlugin => exact ClonePlugin.runs site start

/-- Whatever a configuration and a request hold, each line that a method puts together is read as a
line of its catalogue, with every value unaltered in its place. Only flags decide about the shapes
of these lines. -/
theorem Config.Methods.commands_catalogued (methods : Config.Methods) (site : Site)
    (kind : Method) :
    (∀ side request,
      ((methods.method site kind).stage site.stopService side request).Uses
        (HostRequest.Among (methods.givenLines site)
          ((methods.catalogue site kind).stage side request))) ∧
    (∀ version,
      ((methods.method site kind).probe version).Uses
        (HostRequest.Among [] (methods.catalogue site kind).probe)) ∧
    (methods.method site kind).coordinates.Uses (HostRequest.Among [] []) ∧
    ∀ (methods' : Config.Methods) (site' : Site), methods.commandFlags = methods'.commandFlags →
      (methods.catalogue site kind).Alike (methods'.catalogue site' kind) := by
  have runs := methods.runs site kind
  have stop : site.mysql.serviceStopCommand ∈ methods.givenLines site := by simp [givenLines]
  exact ⟨runs.stage stop, runs.probe, runs.coordinates,
    fun _ site' flags => alike_catalogue site site' flags kind⟩

/-- Names and a peer that look like commands leave the lines of a Backup in shape. -/
theorem Config.Methods.commands_catalogued_awkward :
    let plain : Config.Methods := { lvm := { mountOptions := "ro" } }
    let awkward : Config.Methods :=
      { lvm :=
          { snapshotName := "a | b", logicalVolume := "", mountOptions := "' > /dev/sda \\\n" } }
    let site : Site := { backupDir := "", mysql := { osUser := "'; rm -rf / #" } }
    plain.commandFlags = awkward.commandFlags ∧
      (((awkward.catalogue site .lvm).stage .source (.backup "$(reboot) | sh" 0)).map
          CommandLine.shape =
        [([(some "lvcreate", 7)], false), ([(some "mount", 5)], false),
          ([(some "tar", 9), (some "socat", 4)], false)]) := by
  intro plain awkward site
  have flags : awkward.commandFlags = plain.commandFlags := by decide
  refine ⟨flags.symm, ?_⟩
  have alike := (commands_catalogued awkward site .lvm).2.2.2 plain {} flags
  exact alike.1 .source (.backup "$(reboot) | sh" 0) (.backup "" 0) rfl

end ReplicaSeed
