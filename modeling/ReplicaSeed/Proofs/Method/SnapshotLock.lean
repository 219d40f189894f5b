import ReplicaSeed.Proofs.Artifact.Sidecar
import ReplicaSeed.Proofs.Method.Plan

/-!
# The lock of a snapshot

A source locks its server for a snapshot, and must not leave it locked: whatever fails under the
lock, it is given back before the work ends. What the snapshot is good for is decided under the lock
as well: its coordinates are on file before it is taken.

## Main definitions

* `Lvm.Course`: everything that a Backup by snapshot can do on a source.
* `heldLock?`: the lock that is held after some exchanges.
* `Lvm.OnFile`: a file beside the snapshot tells its coordinates.
* `Lvm.Disciplined`: the lock is taken once and given back, and what needs it is done under it.

## Main statements

* `Lvm.course_of_path`: a Backup takes one of the courses, whatever the host answers.
* `Lvm.lock_disciplined`: it keeps to the discipline.
-/

namespace ReplicaSeed

open Command

/-! ## Exchanges -/

namespace Exchange

/-- The server is locked, or cannot be. -/
def lock (answer : Except DatabaseError Coordinates) : Exchange Interface.host :=
  ⟨HostRequest.database .lock, answer⟩

/-- The lock is given back; the server may have failed to do so. -/
def unlock (answer : Except DatabaseError Unit) : Exchange Interface.host :=
  ⟨HostRequest.database .unlock, answer⟩

/-- The coordinates of the lock that is taken in an exchange. -/
def locked? (x : Exchange Interface.host) : Option Coordinates :=
  HostRequest.locked? x.asked x.answer

@[simp] theorem asked_lock (answer : Except DatabaseError Coordinates) :
    (lock answer).asked = .database .lock := rfl

@[simp] theorem asked_unlock (answer : Except DatabaseError Unit) :
    (unlock answer).asked = .database .unlock := rfl

end Exchange

/-! ## What a Backup can do -/

namespace Lvm

variable (site : Site) (config : Config.Lvm)

/-- Everything that a Backup can do on a source, with what comes of it: it goes on to its end, or
one of its steps fails. -/
inductive Course (host : String) :
    List (Exchange Interface.host) → Except MethodError Unit → Prop
  | unlocked (e : DatabaseError) :
    Course host [.lock (.error e)] (.error (.database e))
  | unwritten (c : Coordinates) (fault : FileFault) (released : Except DatabaseError Unit) :
    Course host
      [.lock (.ok c), .wrote (sidecarFile site) (Sidecar.text c) (.error fault),
        .unlock released]
      (.error (.io (sidecarFile site) fault.message))
  | untaken (c : Coordinates) (e : ExecError) (released : Except DatabaseError Unit) :
    Course host
      [.lock (.ok c), .wrote (sidecarFile site) (Sidecar.text c) (.ok ()),
        .noted ("Creating snapshot " ++ config.snapshotName),
        site.ran (createLine config) (.error e), .unlock released]
      (.error (.exec e))
  | unreleased (c : Coordinates) (e : DatabaseError) :
    Course host
      [.lock (.ok c), .wrote (sidecarFile site) (Sidecar.text c) (.ok ()),
        .noted ("Creating snapshot " ++ config.snapshotName),
        site.ran (createLine config) (.ok ()), .unlock (.error e)]
      (.error (.database e))
  | unmounted (c : Coordinates) (e : ExecError) :
    Course host
      [.lock (.ok c), .wrote (sidecarFile site) (Sidecar.text c) (.ok ()),
        .noted ("Creating snapshot " ++ config.snapshotName),
        site.ran (createLine config) (.ok ()), .unlock (.ok ()),
        .noted "Mounting snapshot", site.ran (mountLine config) (.error e)]
      (.error (.exec e))
  | sent (c : Coordinates) (answer : Except ExecError Unit) :
    Course host
      [.lock (.ok c), .wrote (sidecarFile site) (Sidecar.text c) (.ok ()),
        .noted ("Creating snapshot " ++ config.snapshotName),
        site.ran (createLine config) (.ok ()), .unlock (.ok ()),
        .noted "Mounting snapshot", site.ran (mountLine config) (.ok ()),
        .noted ("Streaming snapshot to " ++ host), site.ran (sendLine site config host) answer]
      (answer.mapError .exec)

end Lvm

section

variable {site : Site} {config : Config.Lvm} {host : String} {port : UInt16}
  {exchanges : List (Exchange Interface.host)} {result : Except MethodError Unit}

namespace Lvm

/-- Whatever the host answers, a Backup on a source takes one of the courses. -/
theorem course_of_path
    (path : (backup site config ⟨.source, host, port⟩).Path exchanges result) :
    Course site config host exchanges result := by
  simp only [backup, snapshot, bind_assoc] at path
  obtain ⟨e, rfl, rfl⟩ | ⟨c, rest, rfl, locked⟩ := Work.path_database_bind path
  · exact .unlocked e
  obtain ⟨created, under, rest, rfl, covered, path⟩ := Procedure.path_attempt_bind_iff.1 locked
  obtain ⟨_, given, rest, rfl, unlocked, path⟩ := Procedure.path_attempt_bind_iff.1 path
  obtain ⟨released, rfl, rfl⟩ := Work.path_database unlocked
  obtain ⟨fault, rfl, rfl⟩ | ⟨under, rfl, written⟩ := Work.path_writeFile_bind covered
  · obtain ⟨rfl, rfl⟩ := Procedure.path_fail_iff.1 path
    exact .unwritten c fault released
  obtain ⟨under, rfl, creating⟩ := Work.path_note_bind written
  obtain ⟨taken, rfl, rfl⟩ := Site.path_exec creating
  cases taken with
  | error e =>
    obtain ⟨rfl, rfl⟩ := Procedure.path_fail_iff.1 path
    exact .untaken c e released
  | ok =>
    cases released with
    | error e =>
      obtain ⟨rfl, rfl⟩ := Procedure.path_fail_iff.1 path
      exact .unreleased c e
    | ok =>
      obtain ⟨rest, rfl, mounting⟩ := Work.path_note_bind path
      obtain ⟨e, rfl, rfl⟩ | ⟨rest, rfl, mounted⟩ := Site.path_exec_bind mounting
      · exact .unmounted c e
      obtain ⟨rest, rfl, sending⟩ := Work.path_note_bind mounted
      obtain ⟨sent, rfl, rfl⟩ := Site.path_exec sending
      exact .sent c sent

end Lvm

end

/-! ## The discipline -/

/-- Every exchange stands to those before it as `P` says. -/
def Throughout (P : List (Exchange Interface.host) → Exchange Interface.host → Prop)
    (exchanges : List (Exchange Interface.host)) : Prop :=
  ∀ before x after, exchanges = before ++ x :: after → P before x

/-- The lock that is held after an exchange. It is given back as soon as the server is told so. -/
def lockAfter (held : Option Coordinates) (x : Exchange Interface.host) : Option Coordinates :=
  if x.asked = .database .unlock then none else x.locked?.or held

/-- The lock that is held after some exchanges, with the coordinates that it was taken at. -/
def heldLock? (exchanges : List (Exchange Interface.host)) : Option Coordinates :=
  exchanges.foldl lockAfter none

section

variable (held : Option Coordinates) (text path content : String) (site : Site) (line : Line)
  (c : Coordinates) (e : DatabaseError)

@[simp] theorem lockAfter_noted : lockAfter held (.noted text) = held := rfl

@[simp] theorem lockAfter_wrote (answer : Except FileFault Unit) :
    lockAfter held (.wrote path content answer) = held := rfl

@[simp] theorem lockAfter_ran (answer : Except ExecError Unit) :
    lockAfter held (site.ran line answer) = held := rfl

@[simp] theorem lockAfter_lock : lockAfter held (.lock (.ok c)) = some c := rfl

@[simp] theorem lockAfter_lock_error : lockAfter held (.lock (.error e)) = held := rfl

@[simp] theorem lockAfter_unlock (answer : Except DatabaseError Unit) :
    lockAfter held (.unlock answer) = none := rfl

@[simp] theorem Exchange.locked?_noted : (noted text).locked? = none := rfl

@[simp] theorem Exchange.locked?_wrote (answer : Except FileFault Unit) :
    (wrote path content answer).locked? = none := rfl

@[simp] theorem Site.locked?_ran (answer : Except ExecError Unit) :
    (site.ran line answer).locked? = none := rfl

@[simp] theorem Exchange.locked?_lock : (lock (.ok c)).locked? = some c := rfl

@[simp] theorem Exchange.locked?_lock_error : (lock (.error e)).locked? = none := rfl

@[simp] theorem Exchange.locked?_unlock (answer : Except DatabaseError Unit) :
    (unlock answer).locked? = none := rfl

end

namespace Throughout

variable {P : List (Exchange Interface.host) → Exchange Interface.host → Prop}
  {x : Exchange Interface.host} {exchanges : List (Exchange Interface.host)}

@[simp] theorem nil : Throughout P [] := by
  rintro before x after split
  simp at split

@[simp] theorem cons_iff :
    Throughout P (x :: exchanges) ↔
      P [] x ∧ Throughout (fun before => P (x :: before)) exchanges := by
  constructor
  · intro h
    exact ⟨h [] x exchanges rfl, fun before y after split => h _ y after (by rw [split]; rfl)⟩
  · rintro ⟨first, rest⟩ (_ | ⟨_, before⟩) y after split
    · obtain ⟨rfl, rfl⟩ := List.cons.inj split
      exact first
    · obtain ⟨rfl, tail⟩ := List.cons.inj split
      exact rest before y after tail

end Throughout

namespace Lvm

/-- The coordinates were written to the sidecar. -/
def OnFile (site : Site) (c : Coordinates) (exchanges : List (Exchange Interface.host)) : Prop :=
  ∃ content, Sidecar.Tells content c ∧ .wrote (sidecarFile site) content (.ok ()) ∈ exchanges

/-- Everything that is done under a lock was done, in its order and without a failure. -/
def Pinned (site : Site) (config : Config.Lvm) (exchanges : List (Exchange Interface.host)) :
    Prop :=
  ∃ c content, Sidecar.Tells content c ∧ List.Sublist
    [.lock (.ok c), .wrote (sidecarFile site) content (.ok ()),
      site.ran (createLine config) (.ok ()), .unlock (.ok ())] exchanges

/-- The lock is taken once and given back, and what needs it is done under it. -/
structure Disciplined (site : Site) (config : Config.Lvm)
    (exchanges : List (Exchange Interface.host)) (result : Except MethodError Unit) : Prop where
  once : exchanges.countP (·.asked = .database .lock) ≤ 1
  /-- Each lock that was taken is given back once. -/
  returned : exchanges.countP (·.asked = .database .unlock) =
    exchanges.countP (·.locked?.isSome)
  free : heldLock? exchanges = none
  /-- What is written are the coordinates of the lock that is held, before any command is run. -/
  written : Throughout (fun before x => ∀ path content, x.asked = .writeFile path content →
    (∃ c, heldLock? before = some c ∧ path = sidecarFile site ∧ Sidecar.Tells content c) ∧
      ∀ y ∈ before, y.asked.command? = none) exchanges
  /-- The snapshot is taken while the lock is held, and its coordinates are on file. -/
  taken : Throughout (fun before x => x.asked.command? = some (createLine config) →
    ∃ c, heldLock? before = some c ∧ OnFile site c before) exchanges
  /-- Any other command, to mount the snapshot or to send it, comes after all that. -/
  sent : Throughout (fun before x => ∀ line, x.asked.command? = some line →
    line ≠ createLine config → heldLock? before = none ∧ Pinned site config before) exchanges
  /-- What failed first is reported. -/
  told : result = match exchanges.findSome? (·.failure?) with
    | some e => .error e
    | none => .ok ()
  /-- Nothing is left out of a Backup that succeeds. -/
  complete : result = .ok () → Pinned site config exchanges

variable {site : Site} {config : Config.Lvm} {host : String}
  {exchanges : List (Exchange Interface.host)} {result : Except MethodError Unit}

theorem mountLine_ne_createLine : (mountLine config : Line) ≠ createLine config := by
  unfold createLine
  split
  · simp [mountLine, Template.single]
  · simp

theorem sendLine_ne_createLine : (sendLine site config host : Line) ≠ createLine config := by
  unfold createLine
  split
  · simp [sendLine, Template.single]
  · simp

@[simp] theorem onFile_of_prefix (c : Coordinates) (x : Exchange Interface.host)
    (rest : List (Exchange Interface.host)) :
    OnFile site c (x :: .wrote (sidecarFile site) (Sidecar.text c) (.ok ()) :: rest) :=
  ⟨_, Sidecar.tells_text c, by simp⟩

@[simp] theorem pinned_of_prefix (c : Coordinates) (text : String)
    (rest : List (Exchange Interface.host)) :
    Pinned site config
      (.lock (.ok c) :: .wrote (sidecarFile site) (Sidecar.text c) (.ok ()) :: .noted text ::
        site.ran (createLine config) (.ok ()) :: .unlock (.ok ()) :: rest) :=
  ⟨c, _, Sidecar.tells_text c,
    .cons_cons _ (.cons_cons _ (.cons _ (.cons_cons _ (.cons_cons _ (List.nil_sublist rest)))))⟩

/-- Each course keeps to the discipline. -/
theorem Course.disciplined (h : Course site config host exchanges result) :
    Disciplined site config exchanges result where
  once := by cases h <;> simp
  returned := by cases h <;> simp [List.countP_cons]
  free := by cases h <;> simp [heldLock?]
  written := by cases h <;> simp [heldLock?, HostRequest.command?, Sidecar.tells_text]
  taken := by
    cases h <;>
      simp [heldLock?, HostRequest.command?, mountLine_ne_createLine, sendLine_ne_createLine]
  sent := by cases h <;> simp [heldLock?, HostRequest.command?]
  told := by
    cases h with
    | sent c answer => cases answer <;> rfl
    | _ => rfl
  complete := by cases h <;> simp

/-- Whatever the server and the host answer, a Backup on a source comes to an end, and keeps to the
discipline of the lock until then. -/
theorem lock_disciplined {σ : Type} (site : Site) (config : Config.Lvm) (host : String)
    (port : UInt16) (w : Surroundings Interface.host σ) (s : σ) :
    Disciplined site config ((backup site config ⟨.source, host, port⟩).runIn w s).exchanges
      ((backup site config ⟨.source, host, port⟩).runIn w s).result :=
  (course_of_path (Procedure.path_runIn w _ s)).disciplined

/-- A server that can be locked at some coordinates, on a host where everything else succeeds. -/
def lockable (c : Coordinates) : Surroundings Interface.host Unit := .stateless fun
  | .database .lock => .ok c
  | q => HostRequest.answerBy (fun _ => .ok ()) q

/-- The coordinates of the lock stand in the file that is written next. -/
theorem lock_disciplined_sent :
    let site : Site := { backupDir := "/var/backups" }
    let c : Coordinates := ⟨"binlog.000042", 1337, "3e11:1-5"⟩
    let content :=
      "\x7b\"LogFile\":\"binlog.000042\",\"LogPos\":1337,\"GtidExecuted\":\"3e11:1-5\"\x7d"
    let out := (backup site {} ⟨.source, "db-target", 3306⟩).runIn (lockable c) ()
    out.result = .ok () ∧ out.exchanges.length = 9 ∧
      out.exchanges[1]? = some (.wrote "/var/backups/binlog_info.json" content (.ok ())) ∧
      Sidecar.Tells content c ∧ Pinned site {} out.exchanges := by
  intro site c content out
  have discipline := lock_disciplined site {} "db-target" 3306 (lockable c) ()
  have file : sidecarFile site = "/var/backups/binlog_info.json" := by decide +kernel
  have text : Sidecar.text c = content := by decide +kernel
  obtain ⟨⟨c', held, -, tells⟩, -⟩ := discipline.written [.lock (.ok c)] _ _ rfl _ _ rfl
  obtain rfl : c = c' := Option.some.inj held
  exact ⟨rfl, rfl, by rw [← file, ← text]; rfl, text ▸ tells, discipline.complete rfl⟩

/-- The snapshot fails, and so does the attempt to give the lock back: it is the snapshot that is
blamed. -/
example :
    ((backup {} {} ⟨.source, "db-target", 3306⟩).runIn
      (.stateless fun
        | .exec .. => .error (.cancelled "lvcreate")
        | .database .unlock => .error .disconnected
        | q => HostRequest.answerBy (fun _ => .ok ()) q) ()).result =
      .error (.exec (.cancelled "lvcreate")) :=
  rfl

end Lvm

end ReplicaSeed
