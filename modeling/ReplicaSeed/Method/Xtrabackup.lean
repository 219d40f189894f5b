import ReplicaSeed.Artifact.BinlogInfo
import ReplicaSeed.Method.SeedMethod

/-!
# Seeding by `xtrabackup`

A physical backup that the source streams while its server runs. The target unpacks it into its data
directory and then applies the log that came with it.
-/

namespace ReplicaSeed.Xtrabackup

open Command

variable (site : Site) (config : Config.Xtrabackup)

/-- The directory for what the sender writes on its own host. -/
def scratchDir : String := FilePath.join site.backupDir "xtrabackup"

/-- The file with the coordinates of the backup. -/
def infoFile : String := FilePath.join site.mysql.datadir "xtrabackup_binlog_info"

/-- The word for the number of threads. -/
def parallelWord : WordTemplate := ⟨["--parallel=", toString config.parallelThreads.toNat]⟩

/-- Backs the server on this host up and sends the backup to a peer. -/
def sendLine (peer : String) : Template where
  stages :=
    [List.flatten
        [["xtrabackup", "--backup", "--stream=xbstream"], site.localClientArgs,
          [parallelWord config, .option "--target-dir=" (scratchDir site)],
          if config.compress then ["--compress"] else []],
      site.streamSender peer]

/-- Receives a backup into the data directory. -/
def receiveLine : Template where
  stages :=
    [site.streamReceiver,
      ["xbstream", "-x", parallelWord config, "-C", .value site.mysql.datadir]]

/-- Decompresses the backup in the data directory. -/
def decompressLine : Template :=
  .single
    ["xtrabackup", "--decompress", "--remove-original", parallelWord config,
      .option "--target-dir=" site.mysql.datadir]

/-- Applies the log to the backup in the data directory. -/
def applyLine : Template :=
  .single ["xtrabackup", "--prepare", .option "--target-dir=" site.mysql.datadir]

def prepare : Side → Work Unit
  | .source => do
    site.removePath (scratchDir site)
    site.makeDirectory (scratchDir site)
  | .target => do
    site.stopService
    site.clearDatadir

def backup (request : BackupRequest) : Work Unit :=
  match request.side with
  | .source => do
    Work.note ("Streaming backup to " ++ request.host)
    site.exec (sendLine site config request.host)
  | .target => do
    Work.note ("Receiving backup on port " ++ Site.portText site.seedPort)
    site.exec (receiveLine site config)

def restore : Work Unit := do
  if config.compress then
    Work.note "Decompressing backup"
    site.exec (decompressLine site config)
  Work.note "Applying redo log"
  site.exec (applyLine site)
  site.chownDatadir
  site.startService

def coordinates : Work Coordinates := do
  let path := infoFile site
  Work.artifact path (BinlogInfo.parse (← Work.readText path))

def cleanup : Side → Work Unit
  | .source => site.removePath (scratchDir site)
  | .target => pure ()

/-- The major version in the text that the tool shows: what stands between the first `version` and
the next dot. -/
def majorVersion? (banner : List Char) : Option UInt32 := do
  let (_, rest) ← Text.cut? "version ".toList banner
  match Text.readUInt32 (Text.trim (rest.takeWhile (· != '.'))) with
  | .ok version => some version
  | .error _ => none

/-- The tool is there if it shows its version. A version that is known is not asked for again. -/
def probe : ToolVersion → Work Finding
  | some version => pure ⟨true, some version⟩
  | none => do
    match ← site.probeOutput (Template.single ["xtrabackup", "--version"]) with
    | none => pure ⟨false, none⟩
    | some output =>
      let version := majorVersion? output.combinedText.toList
      pure ⟨version.isSome, version⟩

/-- From version 8 on the tool carries RocksDB over as well. -/
def engines (version : ToolVersion) : EngineSet :=
  let always : EngineSet :=
    .ofList [.innoDb, .myIsam, .mrgMyIsam, .csv, .archive, .memory, .blackhole]
  match version with
  | some major => if 8 ≤ major then always.insert .rocksDb else always
  | none => always

/-- The method. -/
def method : SeedMethod Interface.host where
  kind := .xtrabackup
  engines := engines
  intoDatadir := true
  probe := probe site
  prepare := prepare site
  backup := backup site config
  restore := restore site config
  coordinates := coordinates site
  cleanup := cleanup site

end ReplicaSeed.Xtrabackup
