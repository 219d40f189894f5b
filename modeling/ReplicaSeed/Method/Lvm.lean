import ReplicaSeed.Artifact.Sidecar
import ReplicaSeed.Method.SeedMethod

/-!
# Seeding by a snapshot of the volume

The source locks its server for as long as it takes to note the coordinates and to take a snapshot
of the volume that holds the data; then it mounts the snapshot and streams the files. The target
receives them into its data directory.
-/

namespace ReplicaSeed.Lvm

open Command

variable (site : Site) (config : Config.Lvm)

/-- The device of the snapshot, beside that of the volume. -/
def snapshotDevice : String :=
  FilePath.join ((FilePath.parent? config.logicalVolume).getD "/dev") config.snapshotName

/-- The file with the coordinates of the snapshot on the source. -/
def sidecarFile : String := FilePath.join site.backupDir Sidecar.fileName

/-- Takes the snapshot. -/
def createLine : Line :=
  if config.createSnapshotCommand = "" then
    Template.single
      ["lvcreate", "--snapshot", "--size", .value config.snapshotSize, "--name",
        .value config.snapshotName, .value config.logicalVolume]
  else .given config.createSnapshotCommand

/-- Mounts the snapshot. -/
def mountLine : Template :=
  .single
    (List.flatten
      [["mount"], if config.mountOptions = "" then [] else ["-o", .value config.mountOptions],
        [.value (snapshotDevice config), .value config.snapshotMountPoint]])

/-- Sends the files of the snapshot and the coordinates to a peer. -/
def sendLine (peer : String) : Template where
  stages :=
    [["tar", "cf", "-", "-C", .value config.snapshotMountPoint, ".", "-C", .value site.backupDir,
        Sidecar.fileName],
      site.streamSender peer]

/-- Receives the files into the data directory. -/
def receiveLine : Template where
  stages := [site.streamReceiver, ["tar", "xf", "-", "-C", .value site.mysql.datadir]]

/-- Takes the snapshot under a lock, with its coordinates in the sidecar. The lock is given back in
any case; what failed first is reported. -/
def snapshot : Work Unit := do
  let c ← Work.database .lock
  let created ← Procedure.attempt do
    Work.writeFile (sidecarFile site) (Sidecar.text c)
    Work.note ("Creating snapshot " ++ config.snapshotName)
    site.exec (createLine config)
  let released ← (Work.database .unlock).attempt
  .ofExcept created
  .ofExcept released

def prepare (side : Side) : Work Unit :=
  if config.logicalVolume = "" then .fail (.config "lvm.logical-volume is not set")
  else
    match side with
    | .source => site.makeDirectory config.snapshotMountPoint
    | .target => do
      site.stopService
      site.clearDatadir

def backup (request : BackupRequest) : Work Unit :=
  match request.side with
  | .source => do
    snapshot site config
    Work.note "Mounting snapshot"
    site.exec (mountLine config)
    Work.note ("Streaming snapshot to " ++ request.host)
    site.exec (sendLine site config request.host)
  | .target => do
    Work.note ("Receiving snapshot on port " ++ Site.portText site.seedPort)
    site.exec (receiveLine site)

/-- The identity of the server that the files came with is not used again. -/
def restore : Work Unit := do
  site.exec (Template.single ["rm", "-f", .value (FilePath.join site.mysql.datadir "auto.cnf")])
  site.chownDatadir
  site.startService

/-- The coordinates, in the sidecar that came with the files. -/
def coordinates : Work Coordinates := do
  let path := FilePath.join site.mysql.datadir Sidecar.fileName
  Work.artifact path (Sidecar.parse (String.ofList (← Work.readText path)))

/-- Undoes what Backup did on the source, as far as it is there. -/
def cleanup : Side → Work Unit
  | .target => pure ()
  | .source => do
    if ← site.succeeds (Template.single ["mountpoint", "-q", .value config.snapshotMountPoint]) then
      Work.note "Unmounting snapshot"
      site.exec (Template.single ["umount", .value config.snapshotMountPoint])
    if ← site.succeeds (Template.single ["lvs", .value (snapshotDevice config)]) then
      Work.note "Removing snapshot"
      site.exec (Template.single ["lvremove", "--force", .value (snapshotDevice config)])
    site.removePath (sidecarFile site)

/-- A volume is set, and the volumes can be listed. -/
def probe : Work Bool :=
  if config.logicalVolume = "" then pure false
  else
    site.probe
      (Template.single
        ["lvs", "--noheading", "-o", "lv_name,vg_name,lv_path,snap_percent,time", "--sort", "-time",
          .value config.snapshotVolumesFilter])

/-- The method. -/
def method : SeedMethod Interface.host where
  kind := .lvm
  engines := fun _ => .ofList [.innoDb, .myIsam, .rocksDb, .tokuDb]
  intoDatadir := true
  probe := fun _ => do return ⟨← probe site config, none⟩
  prepare := prepare site config
  backup := backup site config
  restore := restore site
  coordinates := coordinates site
  cleanup := cleanup site config

end ReplicaSeed.Lvm
