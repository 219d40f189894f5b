import ReplicaSeed.Time.Span

/-!
# The agent's configuration

The tables of the configuration file with their defaults, and what parts of the agent take from
them.

## Main definitions

* `Config`: the whole file.
* `Site`: what every seed method is told.
* `HeartbeatPeriods`, `ApiSettings`: what the heartbeat and the HTTP side are told.
-/

namespace ReplicaSeed

namespace Config

/-- The table `common`. Periods are in seconds. -/
structure Common where
  bindAddress : String := "0.0.0.0"
  port : UInt16 := 3002
  /-- The port that streaming methods listen on and connect to. -/
  seedPort : UInt16 := 21234
  pollInterval : UInt64 := 60
  resubmitInterval : UInt64 := 3600
  httpTimeout : UInt64 := 10
  probeTimeout : UInt64 := 5
  statusBadSeconds : UInt64 := 300
  execWithSudo : Bool := false
  backupDir : String := "/var/lib/seed-agent/backup"
  /-- The old data directory is moved aside and not emptied. -/
  backupOldDatadir : Bool := false
  /-- The header that carries the token; empty if only the query does. -/
  tokenHttpHeader : String := ""
  tokenHintFile : Option String := none
  statusEndpoint : String := "/api/status"
  deriving DecidableEq, Repr

/-- The table `control-plane`. -/
structure ControlPlane where
  /-- The address without a port; empty if there is no control plane. -/
  url : String := ""
  agentsPort : UInt16 := 3001
  deriving DecidableEq, Repr

/-- The table `logging`. -/
structure Logging where
  level : String := "info,seed_agent=debug"
  deriving DecidableEq, Repr

/-- The table `mysql`: the server on this host. -/
structure Mysql where
  host : String := "127.0.0.1"
  port : UInt16 := 3306
  datadir : String := "/var/lib/mysql"
  osUser : String := "mysql"
  seedUser : String := ""
  seedPassword : String := ""
  replicationUser : String := ""
  replicationPassword : String := ""
  serviceStartCommand : String := "systemctl start mysql"
  serviceStopCommand : String := "systemctl stop mysql"
  deriving DecidableEq, Repr

/-- The table `mysqldump`. -/
structure Mysqldump where
  enabled : Bool := true
  compress : Bool := true
  deriving DecidableEq, Repr

/-- The table `mydumper`. -/
structure Mydumper where
  enabled : Bool := false
  parallelThreads : UInt32 := 1
  /-- Rows in a chunk; zero for no chunks. -/
  rowsChunkSize : UInt64 := 0
  compress : Bool := false
  deriving DecidableEq, Repr

/-- The table `xtrabackup`. -/
structure Xtrabackup where
  enabled : Bool := false
  parallelThreads : UInt32 := 1
  compress : Bool := false
  deriving DecidableEq, Repr

/-- The table `lvm`. -/
structure Lvm where
  enabled : Bool := false
  logicalVolume : String := ""
  snapshotVolumesFilter : String := ""
  snapshotSize : String := "10G"
  snapshotName : String := "seed_snapshot"
  snapshotMountPoint : String := "/mnt/seed-snapshot"
  mountOptions : String := ""
  /-- Takes the place of the built-in command if it is not empty. -/
  createSnapshotCommand : String := ""
  deriving DecidableEq, Repr

/-- The table `clone-plugin`. -/
structure ClonePlugin where
  enabled : Bool := false
  deriving DecidableEq, Repr

/-- The tables of the seed methods. -/
structure Methods where
  mysqldump : Mysqldump := {}
  mydumper : Mydumper := {}
  xtrabackup : Xtrabackup := {}
  lvm : Lvm := {}
  clonePlugin : ClonePlugin := {}
  deriving DecidableEq, Repr

end Config

open Config in
/-- The configuration of an agent. -/
structure Config where
  common : Common := {}
  controlPlane : ControlPlane := {}
  logging : Logging := {}
  mysql : Mysql := {}
  methods : Methods := {}
  deriving DecidableEq, Repr

/-- What every seed method is told about its host. -/
structure Site where
  execWithSudo : Bool := false
  backupDir : String := "/var/lib/seed-agent/backup"
  seedPort : UInt16 := 21234
  backupOldDatadir : Bool := false
  /-- The longest time that a probe may take. -/
  probeTimeout : Span := .seconds 5
  mysql : Config.Mysql := {}
  deriving DecidableEq, Repr

/-- How often the agent talks to the control plane. -/
structure HeartbeatPeriods where
  poll : Span := .seconds 60
  resubmit : Span := .seconds 3600
  deriving DecidableEq, Repr

/-- What the HTTP side is told. -/
structure ApiSettings where
  tokenHttpHeader : String
  statusEndpoint : String
  /-- Seconds without contact after which the agent is unwell. -/
  statusBadSeconds : UInt64
  deriving DecidableEq, Repr

namespace Config

/-- What the seed methods take from the configuration. -/
def site (c : Config) : Site where
  execWithSudo := c.common.execWithSudo
  backupDir := c.common.backupDir
  seedPort := c.common.seedPort
  backupOldDatadir := c.common.backupOldDatadir
  probeTimeout := .seconds c.common.probeTimeout.toNat
  mysql := c.mysql

/-- What the heartbeat takes from the configuration. -/
def heartbeatPeriods (c : Config) : HeartbeatPeriods where
  poll := .seconds c.common.pollInterval.toNat
  resubmit := .seconds c.common.resubmitInterval.toNat

/-- What the HTTP side takes from the configuration. -/
def apiSettings (c : Config) : ApiSettings where
  tokenHttpHeader := c.common.tokenHttpHeader
  statusEndpoint := c.common.statusEndpoint
  statusBadSeconds := c.common.statusBadSeconds

end Config

/-- The length of time without contact after which the agent is unwell. -/
def ApiSettings.statusBadAfter (s : ApiSettings) : Span := .seconds s.statusBadSeconds.toNat

end ReplicaSeed
