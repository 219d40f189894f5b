import ReplicaSeed.Config.Check
import ReplicaSeed.Json.Decode
import ReplicaSeed.Text.Lossy
import ReplicaSeed.Toml.Document

/-!
# Reading configurations

A configuration is a document with a table for each part of the agent. Keys that the agent does not
know do not matter, and what is missing has its default. A table may also be given as a list of its
values in order.

## Main definitions

* `Config.ofDocument?`: the configuration of a document.
* `Config.parse`, `Config.ofFile`: the configuration of a text and of a file.
-/

namespace ReplicaSeed

namespace Config

/-- Values behind the last key of a table that is given as a list: a text in TOML may have them, a
value that was read before may not. -/
inductive Surplus where
  | ignored
  | refused
  deriving DecidableEq, Repr

/-- The values of a table, in the order of its keys. -/
def values? (surplus : Surplus) (keys : List String) (v : Json) : Option (List (Option Json)) :=
  match surplus, v with
  | .ignored, .arr items => (Json.arr (items.take keys.length)).fields? keys
  | _, v => v.fields? keys

/-- A value, or its default if it is missing. -/
def orElse {α : Type} (default : α) (read : Json → Option α) : Option Json → Option α
  | none => some default
  | some v => read v

/-- A table of the document, or its defaults if it is missing. -/
def part {α : Type} (default : α) (read : Json → Option α) (key : String)
    (members : List (String × Json)) : Option α :=
  match Json.membersNamed members key with
  | [] => some default
  | [v] => read v
  | _ => none

def uint16? (v : Json) : Option UInt16 := (v.intIn? 0 65535).map fun n => UInt16.ofNat n.toNat

def uint32? (v : Json) : Option UInt32 := (v.intIn? 0 4294967295).map fun n => UInt32.ofNat n.toNat

def uint64? (v : Json) : Option UInt64 :=
  (v.intIn? 0 18446744073709551615).map fun n => UInt64.ofNat n.toNat

/-- A string that may be null. -/
def optionalText? : Json → Option (Option String)
  | .null => some none
  | v => v.str?.map some

namespace Common

def keys : List String :=
  ["bind-address", "port", "seed-port", "poll-interval", "resubmit-interval", "http-timeout",
    "probe-timeout", "status-bad-seconds", "exec-with-sudo", "backup-dir", "backup-old-datadir",
    "token-http-header", "token-hint-file", "status-endpoint"]

def read? (surplus : Surplus) (v : Json) : Option Common := do
  let d : Common := {}
  match ← values? surplus keys v with
  | [bindAddress, port, seedPort, pollInterval, resubmitInterval, httpTimeout, probeTimeout,
      statusBadSeconds, execWithSudo, backupDir, backupOldDatadir, tokenHttpHeader, tokenHintFile,
      statusEndpoint] =>
    return {
      bindAddress := ← orElse d.bindAddress Json.str? bindAddress
      port := ← orElse d.port uint16? port
      seedPort := ← orElse d.seedPort uint16? seedPort
      pollInterval := ← orElse d.pollInterval uint64? pollInterval
      resubmitInterval := ← orElse d.resubmitInterval uint64? resubmitInterval
      httpTimeout := ← orElse d.httpTimeout uint64? httpTimeout
      probeTimeout := ← orElse d.probeTimeout uint64? probeTimeout
      statusBadSeconds := ← orElse d.statusBadSeconds uint64? statusBadSeconds
      execWithSudo := ← orElse d.execWithSudo Json.bool? execWithSudo
      backupDir := ← orElse d.backupDir Json.str? backupDir
      backupOldDatadir := ← orElse d.backupOldDatadir Json.bool? backupOldDatadir
      tokenHttpHeader := ← orElse d.tokenHttpHeader Json.str? tokenHttpHeader
      tokenHintFile := ← orElse d.tokenHintFile optionalText? tokenHintFile
      statusEndpoint := ← orElse d.statusEndpoint Json.str? statusEndpoint }
  | _ => none

end Common

namespace ControlPlane

def keys : List String := ["url", "agents-port"]

def read? (surplus : Surplus) (v : Json) : Option ControlPlane := do
  let d : ControlPlane := {}
  match ← values? surplus keys v with
  | [url, agentsPort] =>
    return { url := ← orElse d.url Json.str? url
             agentsPort := ← orElse d.agentsPort uint16? agentsPort }
  | _ => none

end ControlPlane

namespace Logging

def keys : List String := ["level"]

def read? (surplus : Surplus) (v : Json) : Option Logging := do
  let d : Logging := {}
  match ← values? surplus keys v with
  | [level] => return { level := ← orElse d.level Json.str? level }
  | _ => none

end Logging

namespace Mysql

def keys : List String :=
  ["host", "port", "datadir", "os-user", "seed-user", "seed-password", "replication-user",
    "replication-password", "service-start-command", "service-stop-command"]

def read? (surplus : Surplus) (v : Json) : Option Mysql := do
  let d : Mysql := {}
  match ← values? surplus keys v with
  | [host, port, datadir, osUser, seedUser, seedPassword, replicationUser, replicationPassword,
      startCommand, stopCommand] =>
    return {
      host := ← orElse d.host Json.str? host
      port := ← orElse d.port uint16? port
      datadir := ← orElse d.datadir Json.str? datadir
      osUser := ← orElse d.osUser Json.str? osUser
      seedUser := ← orElse d.seedUser Json.str? seedUser
      seedPassword := ← orElse d.seedPassword Json.str? seedPassword
      replicationUser := ← orElse d.replicationUser Json.str? replicationUser
      replicationPassword := ← orElse d.replicationPassword Json.str? replicationPassword
      serviceStartCommand := ← orElse d.serviceStartCommand Json.str? startCommand
      serviceStopCommand := ← orElse d.serviceStopCommand Json.str? stopCommand }
  | _ => none

end Mysql

namespace Mysqldump

def keys : List String := ["enabled", "compress"]

def read? (v : Json) : Option Mysqldump := do
  let d : Mysqldump := {}
  match ← v.fields? keys with
  | [enabled, compress] =>
    return { enabled := ← orElse d.enabled Json.bool? enabled
             compress := ← orElse d.compress Json.bool? compress }
  | _ => none

end Mysqldump

namespace Mydumper

def keys : List String := ["enabled", "parallel-threads", "rows-chunk-size", "compress"]

def read? (v : Json) : Option Mydumper := do
  let d : Mydumper := {}
  match ← v.fields? keys with
  | [enabled, threads, rows, compress] =>
    return { enabled := ← orElse d.enabled Json.bool? enabled
             parallelThreads := ← orElse d.parallelThreads uint32? threads
             rowsChunkSize := ← orElse d.rowsChunkSize uint64? rows
             compress := ← orElse d.compress Json.bool? compress }
  | _ => none

end Mydumper

namespace Xtrabackup

def keys : List String := ["enabled", "parallel-threads", "compress"]

def read? (v : Json) : Option Xtrabackup := do
  let d : Xtrabackup := {}
  match ← v.fields? keys with
  | [enabled, threads, compress] =>
    return { enabled := ← orElse d.enabled Json.bool? enabled
             parallelThreads := ← orElse d.parallelThreads uint32? threads
             compress := ← orElse d.compress Json.bool? compress }
  | _ => none

end Xtrabackup

namespace Lvm

def keys : List String :=
  ["enabled", "logical-volume", "snapshot-volumes-filter", "snapshot-size", "snapshot-name",
    "snapshot-mount-point", "mount-options", "create-snapshot-command"]

def read? (v : Json) : Option Lvm := do
  let d : Lvm := {}
  match ← v.fields? keys with
  | [enabled, volume, filter, size, name, mountPoint, options, command] =>
    return {
      enabled := ← orElse d.enabled Json.bool? enabled
      logicalVolume := ← orElse d.logicalVolume Json.str? volume
      snapshotVolumesFilter := ← orElse d.snapshotVolumesFilter Json.str? filter
      snapshotSize := ← orElse d.snapshotSize Json.str? size
      snapshotName := ← orElse d.snapshotName Json.str? name
      snapshotMountPoint := ← orElse d.snapshotMountPoint Json.str? mountPoint
      mountOptions := ← orElse d.mountOptions Json.str? options
      createSnapshotCommand := ← orElse d.createSnapshotCommand Json.str? command }
  | _ => none

end Lvm

namespace ClonePlugin

def keys : List String := ["enabled"]

def read? (v : Json) : Option ClonePlugin := do
  let d : ClonePlugin := {}
  match ← v.fields? keys with
  | [enabled] => return { enabled := ← orElse d.enabled Json.bool? enabled }
  | _ => none

end ClonePlugin

/-- The tables of the seed methods in a document. -/
def Methods.read? (members : List (String × Json)) : Option Methods := do
  return {
    mysqldump := ← part {} Mysqldump.read? "mysqldump" members
    mydumper := ← part {} Mydumper.read? "mydumper" members
    xtrabackup := ← part {} Xtrabackup.read? "xtrabackup" members
    lvm := ← part {} Lvm.read? "lvm" members
    clonePlugin := ← part {} ClonePlugin.read? "clone-plugin" members }

mutual

/-- Every integer in a value fits into 64 bits. -/
def fitsWords : Json → Bool
  | .int n => -9223372036854775808 ≤ n && n ≤ 18446744073709551615
  | .arr items => fitWords items
  | .obj members => membersFitWords members
  | _ => true

/-- Every integer in the items fits into 64 bits. -/
def fitWords : List Json → Bool
  | [] => true
  | v :: vs => fitsWords v && fitWords vs

/-- Every integer in the members fits into 64 bits. -/
def membersFitWords : List (String × Json) → Bool
  | [] => true
  | (_, v) :: vs => fitsWords v && membersFitWords vs

end

/-- The tables that do not belong to a seed method. -/
def sections : List String := ["common", "control-plane", "logging", "mysql"]

/-- The configuration of a document. Outside of `sections` all integers must fit into 64 bits, also
under keys that do not matter. -/
def ofDocument? (surplus : Surplus) : Json → Option Config
  | .obj members => do
    let rest := members.filter fun (key, _) => !sections.contains key
    guard (membersFitWords rest)
    return {
      common := ← part {} (Common.read? surplus) "common" members
      controlPlane := ← part {} (ControlPlane.read? surplus) "control-plane" members
      logging := ← part {} (Logging.read? surplus) "logging" members
      mysql := ← part {} (Mysql.read? surplus) "mysql" members
      methods := ← Methods.read? rest }
  | _ => none

/-- The configuration of a JSON value. -/
def ofJson? : Json → Option Config := ofDocument? .refused

end Config

/-- Why there is no configuration. -/
inductive ConfigError where
  | io (path cause : String)
  | parse
  | invalid (fault : ConfigFault)
  deriving DecidableEq, Repr

/-- The text of an error; for a text that cannot be read it has no details. -/
def ConfigError.message : ConfigError → String
  | .io path cause => "failed to read " ++ path ++ ": " ++ cause
  | .parse => "failed to parse config"
  | .invalid fault => "invalid config: " ++ fault.message

namespace Config

/-- A configuration that passes all checks. -/
def checked (c : Config) : Except ConfigError Config :=
  match c.check with
  | .ok () => .ok c
  | .error fault => .error (.invalid fault)

/-- The configuration of a text in TOML. -/
def parse (text : String) : Except ConfigError Config :=
  match (Toml.ofText? text).bind (ofDocument? .ignored) with
  | none => .error .parse
  | some c => c.checked

/-- The configuration of a file, given its content or the reason why it has none. -/
def ofFile (path : String) : Except String (List UInt8) → Except ConfigError Config
  | .error cause => .error (.io path cause)
  | .ok bytes =>
    match Text.decode? bytes with
    | none => .error (.io path "stream did not contain valid UTF-8")
    | some text => parse (String.ofList text)

end Config

end ReplicaSeed
