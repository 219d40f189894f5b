import ReplicaSeed.Config.Basic

/-!
# Sound configurations

What a configuration must satisfy beyond the types of its values.

## Main definitions

* `ConfigFault`: what is wrong with a configuration.
* `Config.check`: the first fault.
-/

namespace ReplicaSeed

/-- What is wrong with a configuration whose values all have the right type. -/
inductive ConfigFault where
  | portIsZero
  | seedPortIsZero
  /-- The period under a key is zero. -/
  | notPositive (key : String)
  /-- The path of the status endpoint does not begin with a slash. -/
  | relativeStatusEndpoint (path : String)
  | noBackupDir
  | noLogicalVolume
  deriving DecidableEq, Repr

/-- The text of a fault. -/
def ConfigFault.message : ConfigFault → String
  | .portIsZero => "common.port must not be 0"
  | .seedPortIsZero => "common.seed-port must not be 0"
  | .notPositive key => key ++ " must be positive"
  | .relativeStatusEndpoint path => "common.status-endpoint must start with '/': " ++ path
  | .noBackupDir => "common.backup-dir is required when a dump method is enabled"
  | .noLogicalVolume => "lvm.logical-volume is required when lvm is enabled"

namespace Config

/-- The periods that must not be zero, with their keys. -/
def periods (c : Common) : List (String × UInt64) :=
  [("common.poll-interval", c.pollInterval),
    ("common.resubmit-interval", c.resubmitInterval),
    ("common.http-timeout", c.httpTimeout),
    ("common.status-bad-seconds", c.statusBadSeconds)]

/-- A method that writes files into the backup directory is enabled. -/
def Methods.writeBackups (m : Methods) : Bool :=
  m.mysqldump.enabled || m.mydumper.enabled || m.xtrabackup.enabled

/-- The first fault of a configuration, in the order of its keys. -/
def check (c : Config) : Except ConfigFault Unit := do
  if c.common.port = 0 then throw .portIsZero
  if c.common.seedPort = 0 then throw .seedPortIsZero
  match (periods c.common).find? fun (_, n) => n == 0 with
  | some (key, _) => throw (.notPositive key)
  | none => pure ()
  if c.common.statusEndpoint.toList.head? ≠ some '/' then
    throw (.relativeStatusEndpoint c.common.statusEndpoint)
  if c.methods.writeBackups ∧ c.common.backupDir = "" then throw .noBackupDir
  if c.methods.lvm.enabled ∧ c.methods.lvm.logicalVolume = "" then throw .noLogicalVolume

end Config

end ReplicaSeed
