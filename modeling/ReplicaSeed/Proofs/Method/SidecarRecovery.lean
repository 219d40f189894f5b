import ReplicaSeed.Proofs.Artifact.Sidecar
import ReplicaSeed.Proofs.Method.Behaviour
import ReplicaSeed.Proofs.Method.SnapshotLock
import ReplicaSeed.Proofs.Text.Utf8

/-!
# The coordinates that come with a snapshot

A source writes the coordinates of its lock to a sidecar, which is sent with the files; the receiver
reads it from its data directory. The writer takes any coordinates. The reader wants a log file,
which a server without a binary log does not name: then the Backup succeeds, and its coordinates are
lost.

## Main definitions

* `fileBehaviour`: how a file behaves that only the agent writes.
* `Lvm.receivedFile`: where a receiver looks for the sidecar.

## Main statements

* `Lvm.sidecar_of_backup`: a Backup that succeeds leaves the coordinates of its lock.
* `Lvm.result_coordinates`: what a receiver makes of them.
* `Lvm.coordinates_recovered`: both of it.
-/

namespace ReplicaSeed

/-! ## A file -/

/-- How the file at a path behaves that only the agent writes. A failed attempt to write it may
leave anything there. -/
def fileBehaviour (file : String) : Behaviour Interface.host (Option (List UInt8))
  | .writeFile path content, answer, s, s' =>
    if path = file then answer = .ok () → s' = some (Text.encode content.toList) else s' = s
  | .readFile path, answer, s, s' =>
    s' = s ∧ (path = file → answer = match s with
      | some bytes => .ok bytes
      | none => .error .notFound)
  | _, _, s, s' => s' = s

section

variable {file : String} {s s' : Option (List UInt8)} {x : Exchange Interface.host}
  {exchanges : List (Exchange Interface.host)}

/-- A file is left alone by what neither writes nor reads a file. -/
theorem fileBehaviour_same (untouched : ∀ path content, x.asked ≠ .writeFile path content)
    (does : fileBehaviour file x.request x.answer s s') : s' = s := by
  obtain ⟨request, answer⟩ := x
  cases request with
  | writeFile path content => exact absurd rfl (untouched path content)
  | readFile path => exact does.1
  | _ => exact does

theorem leads_same (untouched : ∀ x ∈ exchanges, ∀ path content, x.asked ≠ .writeFile path content)
    (leads : (fileBehaviour file).Leads s exchanges s') : s' = s := by
  induction leads with
  | nil s => rfl
  | cons step leads ih =>
    rw [ih fun x member => untouched x (.tail _ member),
      fileBehaviour_same (untouched _ (.head _)) step]

/-- What was written last is there. -/
theorem leads_written {content : String}
    (untouched : ∀ x ∈ exchanges, ∀ path content, x.asked ≠ .writeFile path content)
    (leads : (fileBehaviour file).Leads s (.wrote file content (.ok ()) :: exchanges) s') :
    s' = some (Text.encode content.toList) := by
  obtain ⟨middle, step, rest⟩ := Behaviour.leads_cons_iff.1 leads
  rw [leads_same untouched rest]
  exact (if_pos rfl).mp step rfl

end

/-- A text is read as it was written. -/
theorem Work.result_readText_bind {σ α : Type} {w : Surroundings Interface.host σ} {s : σ}
    {path : String} {text : List Char} (f : List Char → Work α)
    (answer : (w (.readFile path) s).1 = .ok (Text.encode text)) :
    ((readText path >>= f).runIn w s).result =
      ((f text).runIn w (w (.readFile path) s).2).result := by
  refine (Procedure.result_ask w (HostRequest.readFile path) _ s).trans ?_
  rw [answer]
  simp only [Procedure.bind, Text.decode?_encode]

/-! ## The sidecar -/

namespace Lvm

/-- Where a receiver looks for the sidecar. -/
def receivedFile (site : Site) : String := FilePath.join site.mysql.datadir Sidecar.fileName

variable {site : Site} {config : Config.Lvm} {host : String} {port : UInt16}

/-- A Backup that succeeds has pinned coordinates once, and leaves them in the sidecar. -/
theorem sidecar_of_backup {exchanges : List (Exchange Interface.host)}
    {s s' : Option (List UInt8)}
    (path : (backup site config ⟨.source, host, port⟩).Path exchanges (.ok ()))
    (leads : (fileBehaviour (sidecarFile site)).Leads s exchanges s') :
    ∃ c, exchanges.filterMap (·.locked?) = [c] ∧
      s' = some (Text.encode (Sidecar.text c).toList) := by
  have course := course_of_path path
  generalize done : (Except.ok () : Except MethodError Unit) = result at course
  cases course with
  | sent c answer =>
    obtain ⟨middle, locked, rest⟩ := Behaviour.leads_cons_iff.1 leads
    exact ⟨c, by simp [List.filterMap_cons], leads_written (by simp) rest⟩
  | _ => cases done

/-- What a receiver makes of a sidecar that a source has written. -/
theorem result_coordinates {σ : Type} {w : Surroundings Interface.host σ}
    {file : σ → Option (List UInt8)} {s : σ} {c : Coordinates}
    (behaves : w.Behaves ((fileBehaviour (receivedFile site)).seen file))
    (written : file s = some (Text.encode (Sidecar.text c).toList)) :
    ((coordinates site).runIn w s).result =
      if c.isEmpty then
        .error (.malformedArtifact (receivedFile site) "sidecar has no log file")
      else .ok c := by
  have answer : (w (.readFile (receivedFile site)) s).1 =
      .ok (Text.encode (Sidecar.text c).toList) := by
    have reads := (behaves (.readFile (receivedFile site)) s).2 rfl
    rwa [written] at reads
  refine (Work.result_readText_bind _ answer).trans ?_
  rw [String.ofList_toList, Sidecar.parse_text]
  split <;> rfl

/-- Whatever the server and the tools do, a Backup that succeeds has pinned coordinates once and
leaves them in the sidecar. A receiver that finds that sidecar in its data directory, or the source
in its own directory, reads exactly these coordinates, provided that they name a log file. -/
theorem coordinates_recovered {σ : Type} {w : Surroundings Interface.host σ}
    {file : σ → Option (List UInt8)} {s : σ}
    (behaves : w.Behaves ((fileBehaviour (sidecarFile site)).seen file))
    (succeeds : ((backup site config ⟨.source, host, port⟩).runIn w s).result = .ok ()) :
    ∃ c, ((backup site config ⟨.source, host, port⟩).runIn w s).exchanges.filterMap (·.locked?) =
        [c] ∧
      ∀ {τ : Type} {receiver : Site} {w' : Surroundings Interface.host τ}
        {file' : τ → Option (List UInt8)} {s' : τ},
        w'.Behaves ((fileBehaviour (receivedFile receiver)).seen file') →
        file' s' = file ((backup site config ⟨.source, host, port⟩).runIn w s).final →
        ((coordinates receiver).runIn w' s').result =
          if c.isEmpty then
            .error (.malformedArtifact (receivedFile receiver) "sidecar has no log file")
          else .ok c := by
  have path := Procedure.path_runIn w (backup site config ⟨.source, host, port⟩) s
  rw [succeeds] at path
  obtain ⟨c, pinned, written⟩ :=
    sidecar_of_backup path (Behaviour.leads_runIn behaves _ s).of_seen
  exact ⟨c, pinned, fun behaves' sent => result_coordinates behaves' (sent.trans written)⟩

/-- A host that does what it is asked, with a file. Its server is at these coordinates. -/
def fileHost (c : Coordinates) (file : String) :
    Surroundings Interface.host (Option (List UInt8))
  | .writeFile path content, s =>
    (.ok (), if path = file then some (Text.encode content.toList) else s)
  | .readFile path, s =>
    (match if path = file then s else none with
      | some bytes => .ok bytes
      | none => .error .notFound, s)
  | .database .lock, s => (.ok c, s)
  | q, s => (HostRequest.answerBy (fun _ => .ok ()) q, s)

theorem fileHost_behaves (c : Coordinates) (file : String) :
    (fileHost c file).Behaves ((fileBehaviour file).seen id) := by
  intro q s
  cases q with
  | writeFile path content =>
    by_cases same : path = file <;> simp [Behaviour.seen, fileBehaviour, fileHost, same]
  | readFile path => exact ⟨rfl, fun same => by simp only [fileHost, if_pos same]; rfl⟩
  | database call => cases call <;> rfl
  | _ => rfl

/-- The coordinates of a server with a binary log come to the receiver. -/
theorem coordinates_recovered_named :
    let c : Coordinates := ⟨"binlog.000001", 154, ""⟩
    let sent := (backup {} {} ⟨.source, "db-target", 3306⟩).runIn (fileHost c (sidecarFile {})) none
    sent.result = .ok () ∧
      ((coordinates {}).runIn (fileHost .zero (receivedFile {})) sent.final).result = .ok c := by
  intro c sent
  have succeeds : sent.result = .ok () := rfl
  obtain ⟨pinned, once, recovered⟩ :=
    coordinates_recovered (fileHost_behaves c (sidecarFile {})) succeeds
  obtain rfl : c = pinned := (List.cons.inj once).1
  exact ⟨succeeds, recovered (fileHost_behaves .zero (receivedFile {})) rfl⟩

/-- A server without a binary log pins the zero coordinates. The Backup succeeds, and the sidecar
that it has written cannot be read, not even where it was written. -/
theorem zero_coordinates_lost :
    let source := fileHost .zero (sidecarFile {})
    let sent := (backup {} {} ⟨.source, "db-target", 3306⟩).runIn source none
    let beside : Site := { mysql := { datadir := ({} : Site).backupDir } }
    sent.result = .ok () ∧ sent.exchanges.filterMap (·.locked?) = [.zero] ∧
      receivedFile beside = sidecarFile {} ∧
      ((coordinates beside).runIn source sent.final).result =
        .error (.malformedArtifact (sidecarFile {}) "sidecar has no log file") := by
  intro source sent beside
  refine ⟨rfl, rfl, rfl, ?_⟩
  have behaves := fileHost_behaves .zero (sidecarFile {})
  have path := Procedure.path_runIn source (backup {} {} ⟨.source, "db-target", 3306⟩) none
  obtain ⟨pinned, once, written⟩ :=
    sidecar_of_backup path (Behaviour.leads_runIn behaves _ none).of_seen
  obtain rfl : .zero = pinned := (List.cons.inj once).1
  exact result_coordinates (fileHost_behaves .zero (receivedFile beside)) written

end Lvm

end ReplicaSeed
