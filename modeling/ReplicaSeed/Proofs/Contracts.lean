import ReplicaSeed.Proofs.Method.SidecarRecovery
import ReplicaSeed.Proofs.Operation.Wire

/-!
# The contracts in JSON

What the agent writes for others in JSON is read as it was written: coordinates from the sidecar of
a directory, and operations, their records and the descriptors of the methods from their text. All
strings may hold any characters.

## Main definitions

* `Sidecar.write`, `Sidecar.read`: coordinates in a directory.

## Main statements

* `Sidecar.result_read`: what is read from the sidecar that was written last.
* `contracts_round_trip`: all of it.
-/

namespace ReplicaSeed

namespace Sidecar

/-- The sidecar of a directory. -/
def file (dir : String) : String := FilePath.join dir fileName

/-- Writes coordinates to the sidecar of a directory. -/
def write (dir : String) (c : Coordinates) : Work Unit := Work.writeFile (file dir) (text c)

/-- Reads coordinates from the sidecar of a directory. -/
def read (dir : String) : Work Coordinates := do
  Work.artifact (file dir) (parse (String.ofList (← Work.readText (file dir))))

/-- A snapshot comes with the sidecar of its directory. -/
theorem snapshot_eq (site : Site) (config : Config.Lvm) :
    Lvm.snapshot site config = (do
      let c ← Work.database .lock
      let created ← Procedure.attempt do
        write site.backupDir c
        Work.note ("Creating snapshot " ++ config.snapshotName)
        site.exec (Lvm.createLine config)
      let released ← (Work.database .unlock).attempt
      .ofExcept created
      .ofExcept released) := rfl

/-- The receiver reads the sidecar of its data directory. -/
theorem coordinates_eq (site : Site) : Lvm.coordinates site = read site.mysql.datadir := rfl

variable {σ : Type} {w : Surroundings Interface.host σ} {content : σ → Option (List UInt8)}
  {dir : String} {c : Coordinates} {s : σ}

/-- What is read from the sidecar that was written last. -/
theorem result_read (behaves : w.Behaves ((fileBehaviour (file dir)).seen content))
    (written : content s = some (Text.encode (text c).toList)) :
    ((read dir).runIn w s).result =
      if c.isEmpty then .error (.malformedArtifact (file dir) "sidecar has no log file")
      else .ok c := by
  let receiver : Site := { mysql := { datadir := dir } }
  have same : read dir = Lvm.coordinates receiver := (coordinates_eq receiver).symm
  rw [same]
  exact Lvm.result_coordinates behaves written

/-- The sidecar is there once it is written. -/
theorem runIn_write (behaves : w.Behaves ((fileBehaviour (file dir)).seen content))
    (writes : (w (.writeFile (file dir) (text c)) s).1 = .ok ()) :
    ((write dir c).runIn w s).result = .ok () ∧
      content ((write dir c).runIn w s).final = some (Text.encode (text c).toList) := by
  have step : content (w (.writeFile (file dir) (text c)) s).2 =
      some (Text.encode (text c).toList) :=
    (if_pos rfl).mp (behaves (.writeFile (file dir) (text c)) s) writes
  simp only [write, Work.writeFile, Procedure.runIn]
  rw [writes]
  exact ⟨rfl, step⟩

end Sidecar

/-- What is written for others is read as it was written, but for the process of a record and the
number of its dispatch, which are not. Coordinates without a log file are written, and not read. -/
theorem contracts_round_trip :
    (∀ {σ : Type} {w : Surroundings Interface.host σ} {content : σ → Option (List UInt8)}
      (dir : String) (c : Coordinates) (s : σ),
      w.Behaves ((fileBehaviour (Sidecar.file dir)).seen content) →
      (w (.writeFile (Sidecar.file dir) (Sidecar.text c)) s).1 = .ok () →
      ((Sidecar.write dir c).runIn w s).result = .ok () ∧
        ((Sidecar.read dir).runIn w ((Sidecar.write dir c).runIn w s).final).result =
          if c.logFile = "" then
            .error (.malformedArtifact (Sidecar.file dir) "sidecar has no log file")
          else .ok c) ∧
    (∀ r : StageRecord, r.Ordinary →
      (Json.ofText? r.toJson.text).bind StageRecord.ofJson? = some r.asWritten) ∧
    (∀ op : Operation, op.Ordinary →
      (Json.ofText? op.toJson.text).bind Operation.ofJson? = some op.asWritten) ∧
    ∀ d : Descriptor, (Json.ofText? d.toJson.text).bind Descriptor.ofJson? = some d := by
  refine ⟨fun dir c s behaves writes => ?_, fun r ordinary => ?_, fun op ordinary => ?_,
    fun d => ?_⟩
  · obtain ⟨wrote, written⟩ := Sidecar.runIn_write behaves writes
    refine ⟨wrote, (Sidecar.result_read behaves written).trans ?_⟩
    simp only [Coordinates.isEmpty, beq_iff_eq]
  · exact (StageRecord.carries_toJson ordinary).read_text
  · exact (Operation.carries_toJson ordinary).read_text
  · exact d.carries_toJson.read_text

/-- Names of many scripts, a position at its limit, and the last nanosecond of a century. -/
theorem contracts_round_trip_abroad :
    let c : Coordinates := ⟨"binlog.000001", 9223372036854775807, "3e11fa47:1-5,\n4f22:1"⟩
    let dir := "/var/lib/mysql"
    let host := Lvm.fileHost .zero (Sidecar.file dir)
    let wrote := (Sidecar.write dir c).runIn host none
    let bare := (Sidecar.write dir .zero).runIn host none
    let r : StageRecord := {
      seedId := ⟨7⟩, stage := .restore, side := .target, method := .clonePlugin,
      hostname := "göteborg-数据库", startedAt := ⟨946684799, 999999999⟩, updatedAt := ⟨946684800, 0⟩,
      status := .running, details := "Restore started\t…", process := some 4711, generation := 3 }
    let kept : StageRecord := { r with process := none, generation := 0 }
    let op : Operation :=
      ⟨⟨7⟩, .restore, .target, .clonePlugin, .running, .insert .empty .restore r⟩
    let d : Descriptor := ⟨.clonePlugin, .ofList [.rocksDb, .innoDb], true, false⟩
    (wrote.result = .ok () ∧ ((Sidecar.read dir).runIn host wrote.final).result = .ok c) ∧
      (bare.result = .ok () ∧ ((Sidecar.read dir).runIn host bare.final).result =
        .error (.malformedArtifact (Sidecar.file dir) "sidecar has no log file")) ∧
      (Json.ofText? r.toJson.text).bind StageRecord.ofJson? = some kept ∧
      (Json.ofText? op.toJson.text).bind Operation.ofJson? =
        some { op with records := .insert .empty .restore kept } ∧
      (Json.ofText? d.toJson.text).bind Descriptor.ofJson? = some d := by
  intro c dir host wrote bare r kept op d
  have behaves := Lvm.fileHost_behaves .zero (Sidecar.file dir)
  have dated : r.Ordinary := ⟨⟨by decide, by decide⟩, ⟨by decide, by decide⟩⟩
  obtain ⟨sidecar, record, operation, descriptor⟩ := contracts_round_trip
  refine ⟨sidecar dir c none behaves rfl, sidecar dir .zero none behaves rfl, record r dated,
    operation op ?_, descriptor d⟩
  intro stage r' present
  cases stage <;> cases present
  exact dated

end ReplicaSeed
