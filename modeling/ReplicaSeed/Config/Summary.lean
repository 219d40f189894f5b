import ReplicaSeed.Config.Basic
import ReplicaSeed.Json.Basic

/-!
# Summaries of configurations

The settings of an agent as JSON, for people who want to see what a configuration amounts to.
Passwords are not masked in it.
-/

namespace ReplicaSeed

/-- What the seed methods take. -/
def Site.summary (s : Site) : Json :=
  .obj [("exec_with_sudo", s.execWithSudo), ("backup_dir", s.backupDir),
    ("seed_port", s.seedPort), ("backup_old_datadir", s.backupOldDatadir),
    ("probe_timeout_secs", s.probeTimeout.wholeSeconds), ("mysql_port", s.mysql.port)]

/-- What the HTTP side takes. -/
def ApiSettings.summary (a : ApiSettings) : Json :=
  .obj [("token_http_header", a.tokenHttpHeader), ("status_endpoint", a.statusEndpoint),
    ("status_bad_secs", a.statusBadSeconds)]

/-- All settings, and what is taken from them. -/
def Config.summary (c : Config) : Json :=
  .obj [
    ("common", .obj [("bind_address", c.common.bindAddress), ("port", c.common.port),
      ("seed_port", c.common.seedPort), ("poll_interval", c.common.pollInterval),
      ("resubmit_interval", c.common.resubmitInterval),
      ("http_timeout", c.common.httpTimeout),
      ("probe_timeout", c.common.probeTimeout),
      ("status_bad_seconds", c.common.statusBadSeconds),
      ("exec_with_sudo", c.common.execWithSudo), ("backup_dir", c.common.backupDir),
      ("backup_old_datadir", c.common.backupOldDatadir),
      ("token_http_header", c.common.tokenHttpHeader),
      ("token_hint_file", Json.optional .str c.common.tokenHintFile),
      ("status_endpoint", c.common.statusEndpoint)]),
    ("control_plane", .obj [("url", c.controlPlane.url),
      ("agents_port", c.controlPlane.agentsPort)]),
    ("logging", .obj [("level", c.logging.level)]),
    ("mysql", .obj [("host", c.mysql.host), ("port", c.mysql.port),
      ("datadir", c.mysql.datadir), ("os_user", c.mysql.osUser), ("seed_user", c.mysql.seedUser),
      ("seed_password", c.mysql.seedPassword), ("replication_user", c.mysql.replicationUser),
      ("replication_password", c.mysql.replicationPassword),
      ("service_start_command", c.mysql.serviceStartCommand),
      ("service_stop_command", c.mysql.serviceStopCommand)]),
    ("mysqldump", .obj [("enabled", c.methods.mysqldump.enabled),
      ("compress", c.methods.mysqldump.compress)]),
    ("mydumper", .obj [("enabled", c.methods.mydumper.enabled),
      ("parallel_threads", c.methods.mydumper.parallelThreads),
      ("rows_chunk_size", c.methods.mydumper.rowsChunkSize),
      ("compress", c.methods.mydumper.compress)]),
    ("xtrabackup", .obj [("enabled", c.methods.xtrabackup.enabled),
      ("parallel_threads", c.methods.xtrabackup.parallelThreads),
      ("compress", c.methods.xtrabackup.compress)]),
    ("lvm", .obj [("enabled", c.methods.lvm.enabled),
      ("logical_volume", c.methods.lvm.logicalVolume),
      ("snapshot_volumes_filter", c.methods.lvm.snapshotVolumesFilter),
      ("snapshot_size", c.methods.lvm.snapshotSize), ("snapshot_name", c.methods.lvm.snapshotName),
      ("snapshot_mount_point", c.methods.lvm.snapshotMountPoint),
      ("mount_options", c.methods.lvm.mountOptions),
      ("create_snapshot_command", c.methods.lvm.createSnapshotCommand)]),
    ("clone_plugin", .obj [("enabled", c.methods.clonePlugin.enabled)]),
    ("derived", .obj [("base", c.site.summary),
      ("heartbeat", .obj [("poll_secs", c.heartbeatPeriods.poll.wholeSeconds),
        ("resubmit_secs", c.heartbeatPeriods.resubmit.wholeSeconds)]),
      ("api", c.apiSettings.summary)])]

end ReplicaSeed
