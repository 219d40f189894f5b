import ReplicaSeed.Artifact.DumpMetadata
import ReplicaSeed.Method.Mysqldump

/-!
# Seeding by `mydumper`

A logical dump in parallel that the target takes from the source and loads by `myloader`.
-/

namespace ReplicaSeed.Mydumper

open Command

variable (site : Site) (config : Config.Mydumper)

/-- The directory of the dump. -/
def dumpDir : String := FilePath.join site.backupDir "mydumper"

/-- The file with the coordinates of the dump. -/
def metadataFile : String := FilePath.join (dumpDir site) "metadata"

/-- The word for the number of threads. -/
def threadsWord : WordTemplate := ⟨["--threads=", toString config.parallelThreads.toNat]⟩

/-- Dumps the server at `host` and `port` into the directory. -/
def backupLine (host : String) (port : UInt16) : Template :=
  .single
    (List.flatten
      [["mydumper"], site.clientArgs host port,
        [threadsWord config, .option "--outputdir=" (dumpDir site), "--triggers", "--events",
          "--routines"],
        if config.compress then ["--compress"] else [],
        if config.rowsChunkSize ≠ 0 then [⟨["--rows=", toString config.rowsChunkSize.toNat]⟩]
        else []])

/-- Loads the directory into the server on this host. -/
def restoreLine : Template :=
  .single
    (List.flatten
      [["myloader"], site.localClientArgs,
        ["--overwrite-tables", threadsWord config, .option "--directory=" (dumpDir site)]])

def prepare : Side → Work Unit
  | .source => pure ()
  | .target => do
    site.removePath (dumpDir site)
    site.makeDirectory (dumpDir site)

def backup (request : BackupRequest) : Work Unit :=
  match request.side with
  | .source => Work.note "Dump is pulled by the target"
  | .target => do
    Work.note ("Dumping " ++ request.host ++ ":" ++ Site.portText request.port)
    site.exec (backupLine site config request.host request.port)

/-- Sets the global `sql_mode`; a mode has no apostrophe of its own. -/
def setModeStatement (mode : String) : String :=
  "SET GLOBAL sql_mode = '" ++
    String.ofList (Text.replaceChar '\'' [] mode.toList) ++ "'"

/-- While the dump is loaded a zero must stay a value and not become the next number of a sequence.
The mode is set back in any case; a failed load is reported before a failure of that. -/
def restore : Work Unit := do
  let mode ← Work.database .sqlMode
  Work.database (.execute (setModeStatement "NO_AUTO_VALUE_ON_ZERO"))
  Work.note "Loading dump"
  let loaded ← (site.exec (restoreLine site config)).attempt
  let restored ← (Work.database (.execute (setModeStatement mode))).attempt
  .ofExcept loaded
  .ofExcept restored

def coordinates : Work Coordinates := do
  let path := metadataFile site
  Work.artifact path (DumpMetadata.parse (← Work.readText path))

def cleanup : Side → Work Unit
  | .source => pure ()
  | .target => site.removePath (dumpDir site)

/-- Both the tool that dumps and the tool that loads are there. -/
def probe : Work Bool := do
  if ← site.probe (Template.single ["mydumper", "--version"]) then
    site.probe (Template.single ["myloader", "--version"])
  else pure false

/-- The method. -/
def method : SeedMethod Interface.host where
  kind := .mydumper
  engines := fun _ => Mysqldump.engines
  intoDatadir := false
  probe := fun _ => do return ⟨← probe site, none⟩
  prepare := prepare site
  backup := backup site config
  restore := restore site config
  coordinates := coordinates site
  cleanup := cleanup site

end ReplicaSeed.Mydumper
