import ReplicaSeed.Config.Check
import ReplicaSeed.Proofs.Method.Registered

/-!
# Configurations that an agent can work with

What the parts of an agent need of its configuration, beside what the check of a configuration asks
for. The check asks for nothing that is not needed. It overlooks two ports, and the directory that
the method by snapshots writes its coordinates into.

## Main definitions

* `Config.Sound`: the configuration has all that the parts of the agent need.
* `Config.Passable`: what the check asks for.

## Main statements

* `Config.check_eq_ok_iff`: the check lets pass what is passable, and nothing else.
* `Config.sound_iff`: what is to be looked at beside the check.
-/

namespace ReplicaSeed

/-- The method puts files into the backup directory: a dump, what a sender leaves on its own host,
or the coordinates beside a snapshot. -/
def Method.writesBackups : Method → Bool
  | .mysqldump | .mydumper | .xtrabackup | .lvm => true
  | .clonePlugin => false

/-- The site with another directory for backups. -/
def Site.withBackupDir (site : Site) (dir : String) : Site := { site with backupDir := dir }

/-- A method that puts nothing into the backup directory does not look at it. -/
theorem Config.Methods.method_withBackupDir (methods : Config.Methods) (site : Site) (dir : String)
    {kind : Method} (none : kind.writesBackups = false) :
    methods.method (site.withBackupDir dir) kind = methods.method site kind := by
  cases kind with
  | clonePlugin => rfl
  | _ => cases none

namespace Config

variable (c : Config)

/-- The ports that the agent listens on or connects to. -/
def ports : List UInt16 :=
  [c.common.port, c.common.seedPort, c.controlPlane.agentsPort, c.mysql.port]

/-- The configuration has all that the parts of an agent need. -/
structure Sound : Prop where
  ports : ∀ port ∈ c.ports, port ≠ 0
  pollInterval : 0 < c.common.pollInterval
  resubmitInterval : 0 < c.common.resubmitInterval
  httpTimeout : 0 < c.common.httpTimeout
  statusBadSeconds : 0 < c.common.statusBadSeconds
  statusEndpoint : c.common.statusEndpoint.toList.head? = some '/'
  backupDir : ∀ kind : Method, kind.writesBackups = true → c.methods.enabled kind = true →
    c.common.backupDir ≠ ""
  logicalVolume : c.methods.enabled .lvm = true → c.methods.lvm.logicalVolume ≠ ""

/-- The configuration has what the check asks for. -/
structure Passable : Prop where
  port : c.common.port ≠ 0
  seedPort : c.common.seedPort ≠ 0
  periods : ∀ period ∈ periods c.common, period.2 ≠ 0
  statusEndpoint : c.common.statusEndpoint.toList.head? = some '/'
  backupDir : c.methods.writeBackups = true → c.common.backupDir ≠ ""
  logicalVolume : c.methods.lvm.enabled = true → c.methods.lvm.logicalVolume ≠ ""

variable {c}

theorem periods_iff :
    (∀ period ∈ periods c.common, period.2 ≠ 0) ↔
      0 < c.common.pollInterval ∧ 0 < c.common.resubmitInterval ∧ 0 < c.common.httpTimeout ∧
        0 < c.common.statusBadSeconds := by
  simp only [periods, List.forall_mem_cons, List.not_mem_nil, false_implies, implies_true,
    and_true, UInt64.pos_iff_ne_zero]

/-- Whether a method that writes files into the backup directory is enabled, as the check sees it
and as it is. -/
theorem backupDir_iff {P : Prop} :
    (∀ kind : Method, kind.writesBackups = true → c.methods.enabled kind = true → P) ↔
      (c.methods.writeBackups = true → P) ∧ (c.methods.lvm.enabled = true → P) := by
  simp only [Methods.writeBackups, Bool.or_eq_true]
  constructor
  · intro h
    refine ⟨?_, h .lvm rfl⟩
    rintro ((on | on) | on)
    · exact h .mysqldump rfl on
    · exact h .mydumper rfl on
    · exact h .xtrabackup rfl on
  · rintro ⟨dumps, snapshots⟩ kind writes on
    cases kind with
    | mysqldump => exact dumps (.inl (.inl on))
    | mydumper => exact dumps (.inl (.inr on))
    | xtrabackup => exact dumps (.inr on)
    | lvm => exact snapshots on
    | clonePlugin => cases writes

/-- A check that is in order goes on to the next. -/
theorem refuse_eq_ok_iff {p : Prop} [Decidable p] {e : ConfigFault}
    {next : Except ConfigFault Unit} :
    (if p then .error e else next) = .ok () ↔ ¬ p ∧ next = .ok () := by
  split
  · next refused => simp [refused]
  · next passes => simp [passes]

/-- The check lets a configuration pass if it has what is asked for, and not otherwise. -/
theorem check_eq_ok_iff : c.check = .ok () ↔ c.Passable := by
  unfold check
  simp only [bind, pure, throw, throwThe, MonadExceptOf.throw, Except.bind, Except.pure,
    refuse_eq_ok_iff]
  cases found : (periods c.common).find? fun x => x.2 == 0 with
  | some period =>
    have zero : period.2 = 0 := by simpa using List.find?_some found
    simp only [reduceCtorEq, and_false, false_iff]
    exact fun h => h.periods period (List.mem_of_find?_eq_some found) zero
  | none =>
    have positive : ∀ period ∈ periods c.common, period.2 ≠ 0 := by simpa using found
    simp only [refuse_eq_ok_iff, ne_eq, Decidable.not_not, not_and, and_true]
    constructor
    · rintro ⟨port, seedPort, statusEndpoint, backupDir, logicalVolume⟩
      exact { port, seedPort, periods := positive, statusEndpoint, backupDir, logicalVolume }
    · rintro h
      exact ⟨h.port, h.seedPort, h.statusEndpoint, h.backupDir, h.logicalVolume⟩

/-- What the agent needs is what the check asks for, and beside that a port of the control plane, a
port of the database, and a directory for the coordinates of snapshots. -/
theorem sound_iff :
    c.Sound ↔ c.check = .ok () ∧ c.controlPlane.agentsPort ≠ 0 ∧ c.mysql.port ≠ 0 ∧
      (c.methods.lvm.enabled = true → c.common.backupDir ≠ "") := by
  rw [check_eq_ok_iff]
  constructor
  · intro h
    have ports := h.ports
    simp only [Config.ports, List.forall_mem_cons] at ports
    obtain ⟨port, seedPort, agentsPort, databasePort, -⟩ := ports
    obtain ⟨dumps, snapshots⟩ := backupDir_iff.1 h.backupDir
    have positive := periods_iff.2
      ⟨h.pollInterval, h.resubmitInterval, h.httpTimeout, h.statusBadSeconds⟩
    exact ⟨⟨port, seedPort, positive, h.statusEndpoint, dumps, h.logicalVolume⟩, agentsPort,
      databasePort, snapshots⟩
  · rintro ⟨passable, agentsPort, databasePort, snapshots⟩
    obtain ⟨poll, resubmit, timeout, bad⟩ := periods_iff.1 passable.periods
    have ports : ∀ port ∈ c.ports, port ≠ 0 := by
      simp only [Config.ports, List.forall_mem_cons]
      exact ⟨passable.port, passable.seedPort, agentsPort, databasePort, nofun⟩
    exact ⟨ports, poll, resubmit, timeout, bad, passable.statusEndpoint,
      backupDir_iff.2 ⟨passable.backupDir, snapshots⟩, passable.logicalVolume⟩

/-- A configuration that passes and has no port of the control plane. -/
def unannounced : Config := { controlPlane := { url := "http://orchestrator", agentsPort := 0 } }

/-- A configuration that passes and has no port of the database. -/
def unreachable : Config := { mysql := { port := 0 } }

/-- A configuration that passes and has no directory for the coordinates of its snapshots. -/
def unrecorded : Config where
  common := { backupDir := "" }
  methods :=
    { mysqldump := { enabled := false }
      lvm := { enabled := true, logicalVolume := "/dev/vg0/mysql" } }

/-- Configurations pass that an agent cannot work with. -/
theorem exists_unsound_passing :
    (unannounced.check = .ok () ∧ ¬ unannounced.Sound) ∧
      (unreachable.check = .ok () ∧ ¬ unreachable.Sound) ∧
      (unrecorded.check = .ok () ∧ ¬ unrecorded.Sound) := by
  refine ⟨⟨rfl, fun h => ?_⟩, ⟨rfl, fun h => ?_⟩, rfl, fun h => ?_⟩
  · exact h.ports unannounced.controlPlane.agentsPort (by simp [Config.ports]) rfl
  · exact h.ports unreachable.mysql.port (by simp [Config.ports]) rfl
  · exact h.backupDir .lvm rfl rfl rfl

end Config

end ReplicaSeed
