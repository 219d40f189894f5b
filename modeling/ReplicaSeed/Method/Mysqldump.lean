import ReplicaSeed.Artifact.DumpHeader
import ReplicaSeed.Method.SeedMethod

/-!
# Seeding by `mysqldump`

A logical dump that the target takes from the source and loads into its own server.
-/

namespace ReplicaSeed.Mysqldump

open Command

variable (site : Site) (config : Config.Mysqldump)

/-- The file of the dump. -/
def dumpFile : String := FilePath.join site.backupDir "mysqldump.sql"

/-- Dumps the server at `host` and `port` into the file. -/
def backupLine (host : String) (port : UInt16) : Template where
  stages :=
    [List.flatten
      [["mysqldump"], site.clientArgs host port,
        ["--single-transaction", "--default-character-set=utf8mb4", "--master-data=2",
          "--routines", "--events", "--triggers", "--all-databases"],
        if config.compress then ["-C"] else []]]
  output := some (dumpFile site)

/-- Loads the file into the server on this host. -/
def restoreLine : Template where
  stages := [["cat", .value (dumpFile site)], "mysql" :: site.localClientArgs]

def prepare : Side → Work Unit
  | .source => pure ()
  | .target => do
    site.makeDirectory site.backupDir
    site.removePath (dumpFile site)

def backup (request : BackupRequest) : Work Unit :=
  match request.side with
  | .source => Work.note "Dump is pulled by the target"
  | .target => do
    Work.note ("Dumping " ++ request.host ++ ":" ++ Site.portText request.port)
    site.exec (backupLine site config request.host request.port)

/-- The transaction set of a dump can be set only while the server has executed none. -/
def restore : Work Unit := do
  Work.database (.execute "RESET MASTER")
  Work.note "Loading dump"
  site.exec (restoreLine site)

/-- The coordinates in the header of the dump; a directory in its place is a malformed dump. -/
def coordinates : Work Coordinates :=
  let path := dumpFile site
  .ask (HostRequest.readFile path) fun
    | .ok bytes => Work.artifact path (DumpHeader.ofBytes bytes)
    | .error .isDirectory => .fail (.malformedArtifact path FileFault.isDirectory.message)
    | .error fault => .fail (.ofFileFault path fault)

def cleanup : Side → Work Unit
  | .source => pure ()
  | .target => site.removePath (dumpFile site)

/-- The engines that a logical dump carries over. -/
def engines : EngineSet := .ofList Engine.all

/-- The method. -/
def method : SeedMethod Interface.host where
  kind := .mysqldump
  engines := fun _ => engines
  intoDatadir := false
  probe := fun _ => do return ⟨← site.probe (Template.single ["mysqldump", "--version"]), none⟩
  prepare := prepare site
  backup := backup site config
  restore := restore site
  coordinates := coordinates site
  cleanup := cleanup site

end ReplicaSeed.Mysqldump
