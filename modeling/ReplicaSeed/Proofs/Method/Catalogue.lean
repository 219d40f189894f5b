import ReplicaSeed.Proofs.Method.Registered

/-!
# The commands of the seed methods

The command lines that each seed method puts together, read as pipelines. A value stands unaltered
in its one place, and what it holds decides neither about the programs, nor about the number of
their words, nor about a redirection.

## Main definitions

* `Catalogue`: the lines of a method.
* `Config.Methods.catalogue`: the catalogue of each method.
* `CommandLine.shape`: the programs, the number of words and the redirection of a line.
* `CommandFlags`: what decides about the shapes of all lines.
* `Catalogue.Alike`: the lines of two catalogues have the same shapes.

## Main statements

* `Config.Methods.alike_catalogue`: the flags decide about the shapes.
-/

namespace ReplicaSeed

open Command

namespace Command

/-- The program and the number of words of each stage, and whether there is a redirection. -/
def CommandLine.shape (c : CommandLine) : List (Option String × Nat) × Bool :=
  (c.stages.map fun words => (words.head?, words.length), c.redirect.isSome)

/-- The line of one program with its arguments. -/
def CommandLine.single (words : List String) : CommandLine := ⟨[words], none, false⟩

end Command

/-- The lines that a method puts together, read as pipelines. A stage runs those that are called
for. -/
structure Catalogue where
  probe : List CommandLine := []
  prepare : Side → List CommandLine := fun _ => []
  backup : BackupRequest → List CommandLine := fun _ => []
  restore : List CommandLine := []
  cleanup : Side → List CommandLine := fun _ => []

/-- The lines for a requested stage of an operation on `side`. -/
def Catalogue.stage (c : Catalogue) (side : Side) : StageRequest → List CommandLine
  | .prepare requested => c.prepare requested
  | .backup host port => c.backup ⟨side, host, port⟩
  | .restore => c.restore
  | .cleanup requested => c.cleanup requested

namespace Site

variable (site : Site)

/-- The words by which a client connects to `host` and `port`. -/
def clientWords (host : String) (port : UInt16) : List String :=
  ["--host=" ++ host, "--port=" ++ toString port.toNat, "--user=" ++ site.mysql.seedUser,
    "--password=" ++ site.mysql.seedPassword]

/-- The words by which a client connects to the server on this host. -/
def localClientWords : List String := site.clientWords site.mysql.host site.mysql.port

/-- The words of the program that receives a stream. -/
def receiverWords : List String :=
  ["socat", "-u", "TCP-LISTEN:" ++ toString site.seedPort.toNat ++ ",reuseaddr", "stdio"]

/-- The words of the program that sends a stream. -/
def senderWords (peer : String) : List String :=
  ["socat", "-u", "stdio", "TCP:" ++ peer ++ ":" ++ toString site.seedPort.toNat]

/-- Removes a file or a directory. -/
def removing (path : String) : CommandLine := .single ["rm", "-rf", path]

/-- Makes a directory. -/
def making (path : String) : CommandLine := .single ["mkdir", "-p", path]

/-- Gives the data directory to the account of the server. -/
def owning : CommandLine :=
  .single ["chown", "-R", site.mysql.osUser ++ ":" ++ site.mysql.osUser, site.mysql.datadir]

/-- Empties the data directory, or moves it aside. -/
def clearing : List CommandLine :=
  [removing site.asidePath, .single ["mv", site.mysql.datadir, site.asidePath],
    making site.mysql.datadir, site.owning,
    .single ["find", site.mysql.datadir, "-mindepth", "1", "-delete"]]

end Site

namespace Mysqldump

variable (site : Site) (config : Config.Mysqldump)

def catalogue : Catalogue where
  probe := [.single ["mysqldump", "--version"]]
  prepare
    | .source => []
    | .target => [Site.making site.backupDir, Site.removing (dumpFile site)]
  backup request :=
    [{ stages :=
        [["mysqldump"] ++ site.clientWords request.host request.port ++
          ["--single-transaction", "--default-character-set=utf8mb4", "--master-data=2",
            "--routines", "--events", "--triggers", "--all-databases"] ++
          if config.compress then ["-C"] else []]
       redirect := some ⟨dumpFile site, false⟩
       elevated := false }]
  restore :=
    [{ stages := [["cat", dumpFile site], "mysql" :: site.localClientWords]
       redirect := none
       elevated := false }]
  cleanup
    | .source => []
    | .target => [Site.removing (dumpFile site)]

end Mysqldump

namespace Mydumper

variable (site : Site) (config : Config.Mydumper)

/-- The word for the number of threads. -/
def threads : String := "--threads=" ++ toString config.parallelThreads.toNat

def catalogue : Catalogue where
  probe := [.single ["mydumper", "--version"], .single ["myloader", "--version"]]
  prepare
    | .source => []
    | .target => [Site.removing (dumpDir site), Site.making (dumpDir site)]
  backup request :=
    [.single
      (["mydumper"] ++ site.clientWords request.host request.port ++
        [threads config, "--outputdir=" ++ dumpDir site, "--triggers", "--events", "--routines"] ++
        (if config.compress then ["--compress"] else []) ++
        if config.rowsChunkSize ≠ 0 then ["--rows=" ++ toString config.rowsChunkSize.toNat]
        else [])]
  restore :=
    [.single
      (["myloader"] ++ site.localClientWords ++
        ["--overwrite-tables", threads config, "--directory=" ++ dumpDir site])]
  cleanup
    | .source => []
    | .target => [Site.removing (dumpDir site)]

end Mydumper

namespace Xtrabackup

variable (site : Site) (config : Config.Xtrabackup)

/-- The word for the number of threads. -/
def parallel : String := "--parallel=" ++ toString config.parallelThreads.toNat

def catalogue : Catalogue where
  probe := [.single ["xtrabackup", "--version"]]
  prepare
    | .source => [Site.removing (scratchDir site), Site.making (scratchDir site)]
    | .target => site.clearing
  backup request :=
    match request.side with
    | .source =>
      [{ stages :=
          [["xtrabackup", "--backup", "--stream=xbstream"] ++ site.localClientWords ++
              [parallel config, "--target-dir=" ++ scratchDir site] ++
              (if config.compress then ["--compress"] else []),
            site.senderWords request.host]
         redirect := none
         elevated := false }]
    | .target =>
      [{ stages :=
          [site.receiverWords, ["xbstream", "-x", parallel config, "-C", site.mysql.datadir]]
         redirect := none
         elevated := false }]
  restore :=
    [.single
        ["xtrabackup", "--decompress", "--remove-original", parallel config,
          "--target-dir=" ++ site.mysql.datadir],
      .single ["xtrabackup", "--prepare", "--target-dir=" ++ site.mysql.datadir],
      site.owning]
  cleanup
    | .source => [Site.removing (scratchDir site)]
    | .target => []

end Xtrabackup

namespace Lvm

variable (site : Site) (config : Config.Lvm)

def catalogue : Catalogue where
  probe :=
    [.single
      ["lvs", "--noheading", "-o", "lv_name,vg_name,lv_path,snap_percent,time", "--sort", "-time",
        config.snapshotVolumesFilter]]
  prepare
    | .source => [Site.making config.snapshotMountPoint]
    | .target => site.clearing
  backup request :=
    match request.side with
    | .source =>
      [.single
          ["lvcreate", "--snapshot", "--size", config.snapshotSize, "--name", config.snapshotName,
            config.logicalVolume],
        .single
          (["mount"] ++ (if config.mountOptions = "" then [] else ["-o", config.mountOptions]) ++
            [snapshotDevice config, config.snapshotMountPoint]),
        { stages :=
            [["tar", "cf", "-", "-C", config.snapshotMountPoint, ".", "-C", site.backupDir,
                Sidecar.fileName],
              site.senderWords request.host]
          redirect := none
          elevated := false }]
    | .target =>
      [{ stages := [site.receiverWords, ["tar", "xf", "-", "-C", site.mysql.datadir]]
         redirect := none
         elevated := false }]
  restore :=
    [.single ["rm", "-f", FilePath.join site.mysql.datadir "auto.cnf"], site.owning]
  cleanup
    | .source =>
      [.single ["mountpoint", "-q", config.snapshotMountPoint],
        .single ["umount", config.snapshotMountPoint],
        .single ["lvs", snapshotDevice config],
        .single ["lvremove", "--force", snapshotDevice config],
        Site.removing (sidecarFile site)]
    | .target => []

end Lvm

namespace ClonePlugin

variable (site : Site)

def catalogue : Catalogue where
  backup request :=
    [.single
      (["mysql"] ++ site.localClientWords ++
        ["-e", cloneStatement site request.host request.port])]

end ClonePlugin

/-- The lines of the method of a kind. -/
def Config.Methods.catalogue (methods : Config.Methods) (site : Site) : Method → Catalogue
  | .mysqldump => Mysqldump.catalogue site methods.mysqldump
  | .mydumper => Mydumper.catalogue site methods.mydumper
  | .xtrabackup => Xtrabackup.catalogue site methods.xtrabackup
  | .lvm => Lvm.catalogue site methods.lvm
  | .clonePlugin => ClonePlugin.catalogue site

/-- The lines that the operator writes. -/
def Config.Methods.givenLines (methods : Config.Methods) (site : Site) : List String :=
  [site.mysql.serviceStopCommand, site.mysql.serviceStartCommand] ++
    if methods.lvm.createSnapshotCommand = "" then [] else [methods.lvm.createSnapshotCommand]

/-! ## Shapes -/

/-- The flags that decide about the words of commands. -/
structure CommandFlags where
  mysqldumpCompresses : Bool
  mydumperCompresses : Bool
  mydumperCutsRows : Bool
  xtrabackupCompresses : Bool
  mountsWithOptions : Bool
  deriving DecidableEq, Repr

/-- The flags of a configuration. -/
def Config.Methods.commandFlags (methods : Config.Methods) : CommandFlags where
  mysqldumpCompresses := methods.mysqldump.compress
  mydumperCompresses := methods.mydumper.compress
  mydumperCutsRows := methods.mydumper.rowsChunkSize ≠ 0
  xtrabackupCompresses := methods.xtrabackup.compress
  mountsWithOptions := methods.lvm.mountOptions ≠ ""

/-- The request without the host and the port of the other server. -/
def StageRequest.withoutPeer : StageRequest → StageRequest
  | .backup .. => .backup "" 0
  | request => request

/-- The shapes of the lines of all stages are the same, whatever the other server is. -/
def Catalogue.Alike (c c' : Catalogue) : Prop :=
  (∀ side request request', request.withoutPeer = request'.withoutPeer →
    (c.stage side request).map CommandLine.shape = (c'.stage side request').map CommandLine.shape) ∧
  c.probe.map CommandLine.shape = c'.probe.map CommandLine.shape

theorem Catalogue.Alike.of_parts {c c' : Catalogue}
    (probe : c.probe.map CommandLine.shape = c'.probe.map CommandLine.shape)
    (prepare : ∀ side,
      (c.prepare side).map CommandLine.shape = (c'.prepare side).map CommandLine.shape)
    (backup : ∀ side host host' port port',
      (c.backup ⟨side, host, port⟩).map CommandLine.shape =
        (c'.backup ⟨side, host', port'⟩).map CommandLine.shape)
    (restore : c.restore.map CommandLine.shape = c'.restore.map CommandLine.shape)
    (cleanup : ∀ side,
      (c.cleanup side).map CommandLine.shape = (c'.cleanup side).map CommandLine.shape) :
    c.Alike c' := by
  refine ⟨fun side request request' same => ?_, probe⟩
  cases request <;> cases request' <;> cases same
  case prepare.prepare.refl requested => exact prepare requested
  case backup.backup.refl host port host' port' => exact backup side host host' port port'
  case restore.restore.refl => exact restore
  case cleanup.cleanup.refl requested => exact cleanup requested

namespace Site

theorem shapes_clearing (site : Site) :
    site.clearing.map CommandLine.shape =
      [([(some "rm", 3)], false), ([(some "mv", 3)], false), ([(some "mkdir", 3)], false),
        ([(some "chown", 4)], false), ([(some "find", 5)], false)] := rfl

theorem length_clientWords (site : Site) (host : String) (port : UInt16) :
    (site.clientWords host port).length = 4 := rfl

end Site

theorem Mysqldump.alike_catalogue (site site' : Site) {config config' : Config.Mysqldump}
    (compress : config.compress = config'.compress) :
    (catalogue site config).Alike (catalogue site' config') := by
  refine .of_parts rfl ?_ ?_ rfl ?_
  · rintro (_ | _) <;> rfl
  · intro side host host' port port'
    simp [catalogue, CommandLine.shape, Site.length_clientWords, compress]
  · rintro (_ | _) <;> rfl

theorem Mydumper.alike_catalogue (site site' : Site) {config config' : Config.Mydumper}
    (compress : config.compress = config'.compress)
    (cuts : config.rowsChunkSize ≠ 0 ↔ config'.rowsChunkSize ≠ 0) :
    (catalogue site config).Alike (catalogue site' config') := by
  refine .of_parts rfl ?_ ?_ rfl ?_
  · rintro (_ | _) <;> rfl
  · intro side host host' port port'
    simp [catalogue, CommandLine.shape, CommandLine.single, Site.length_clientWords, compress,
      cuts]
    split <;> rfl
  · rintro (_ | _) <;> rfl

theorem Xtrabackup.alike_catalogue (site site' : Site) {config config' : Config.Xtrabackup}
    (compress : config.compress = config'.compress) :
    (catalogue site config).Alike (catalogue site' config') := by
  refine .of_parts rfl ?_ ?_ rfl ?_
  · rintro (_ | _)
    · rfl
    · exact (Site.shapes_clearing site).trans (Site.shapes_clearing site').symm
  · rintro (_ | _) host host' port port'
    · simp [catalogue, CommandLine.shape, Site.senderWords, Site.localClientWords,
        Site.length_clientWords, compress]
    · rfl
  · rintro (_ | _) <;> rfl

theorem Lvm.alike_catalogue (site site' : Site) {config config' : Config.Lvm}
    (options : config.mountOptions = "" ↔ config'.mountOptions = "") :
    (catalogue site config).Alike (catalogue site' config') := by
  refine .of_parts rfl ?_ ?_ rfl ?_
  · rintro (_ | _)
    · rfl
    · exact (Site.shapes_clearing site).trans (Site.shapes_clearing site').symm
  · rintro (_ | _) host host' port port'
    · simp [catalogue, CommandLine.shape, CommandLine.single, Site.senderWords, options]
      split <;> rfl
    · rfl
  · rintro (_ | _) <;> rfl

theorem ClonePlugin.alike_catalogue (site site' : Site) :
    (catalogue site).Alike (catalogue site') := by
  refine .of_parts rfl (fun _ => rfl) ?_ rfl (fun _ => rfl)
  intro side host host' port port'
  simp [catalogue, CommandLine.shape, CommandLine.single, Site.localClientWords,
    Site.length_clientWords]

/-- The flags of a configuration decide about the shapes of all lines. -/
theorem Config.Methods.alike_catalogue {methods methods' : Config.Methods} (site site' : Site)
    (flags : methods.commandFlags = methods'.commandFlags) (kind : Method) :
    (methods.catalogue site kind).Alike (methods'.catalogue site' kind) := by
  simp only [commandFlags, CommandFlags.mk.injEq, decide_eq_decide] at flags
  obtain ⟨mysqldump, mydumper, cuts, xtrabackup, options⟩ := flags
  cases kind with
  | mysqldump => exact Mysqldump.alike_catalogue site site' mysqldump
  | mydumper => exact Mydumper.alike_catalogue site site' mydumper cuts
  | xtrabackup => exact Xtrabackup.alike_catalogue site site' xtrabackup
  | lvm => exact Lvm.alike_catalogue site site' (Decidable.not_iff_not.1 options)
  | clonePlugin => exact ClonePlugin.alike_catalogue site site'

end ReplicaSeed
