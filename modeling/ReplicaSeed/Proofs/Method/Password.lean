import ReplicaSeed.Proofs.Execution.Face
import ReplicaSeed.Proofs.Method.Commands

/-!
# The password for seeds is not seen

Two agents whose configurations differ in nothing but the password of the account for seeds make
requests that look the same: instead of a command line one sees its face. And since no run tells
more of a line than its face, the password does not get into a message.

## Main definitions

* `Site.withPassword`: the site with another password.
* `Procedure.seen`: a procedure as it is seen from outside.

## Main statements

* `Config.Methods.password_unseen`: two passwords cannot be told apart.
-/

namespace ReplicaSeed

open Command

/-! ## What is seen of a procedure -/

/-- What is seen of a request to the host: of a command line its face. -/
inductive Glimpse where
  | exec (face : Except ExecError Face) (elevate : Bool)
  | capture (face : Except ExecError Face) (elevate : Bool)
  | probe (face : Except ExecError Face) (elevate : Bool) (limit : Span)
  | other (request : HostRequest)

/-- The type of the answer to a request that is seen. -/
def Glimpse.Answer : Glimpse → Type
  | exec .. => Except ExecError Unit
  | capture .. => Except ExecError Output
  | probe .. => Option Output
  | other request => request.Answer

/-- The requests as they are seen. -/
def Interface.glimpsed : Interface := ⟨Glimpse, Glimpse.Answer⟩

/-- The face of a line that may be elevated. -/
def Line.face (line : Line) (elevate : Bool) : Except ExecError Face :=
  Face.ofText line.text elevate

namespace Procedure

variable {α β : Type}

/-- The procedure as it is seen from outside. -/
def seen : Work α → Procedure Interface.glimpsed α
  | .done a => .done a
  | .fail e => .fail e
  | .ask (.exec line elevate) next =>
    .ask (Glimpse.exec (line.face elevate) elevate) fun answer => (next answer).seen
  | .ask (.capture line elevate) next =>
    .ask (Glimpse.capture (line.face elevate) elevate) fun answer => (next answer).seen
  | .ask (.probe line elevate limit) next =>
    .ask (Glimpse.probe (line.face elevate) elevate limit) fun answer => (next answer).seen
  | .ask request next => .ask (Glimpse.other request) fun answer => (next answer).seen

theorem seen_bind (x : Work α) (f : α → Work β) :
    (x >>= f).seen = x.seen >>= fun a => (f a).seen := by
  induction x with
  | done a => rfl
  | fail e => rfl
  | ask request next ih =>
    cases request <;> exact congrArg (Procedure.ask _) (funext ih)

theorem seen_attempt (x : Work α) : x.attempt.seen = x.seen.attempt := by
  induction x with
  | done a => rfl
  | fail e => rfl
  | ask request next ih =>
    cases request <;> exact congrArg (Procedure.ask _) (funext ih)

/-- Procedures look alike if their parts do. -/
theorem seen_bind_congr {x y : Work α} {f g : α → Work β} (first : x.seen = y.seen)
    (rest : ∀ a, (f a).seen = (g a).seen) : (x >>= f).seen = (y >>= g).seen := by
  rw [seen_bind, seen_bind, first, funext rest]

theorem seen_attempt_congr {x y : Work α} (same : x.seen = y.seen) :
    x.attempt.seen = y.attempt.seen := by
  rw [seen_attempt, seen_attempt, same]

end Procedure

open Procedure (seen_bind_congr seen_attempt_congr)

/-- Templates of one face look alike. -/
theorem Command.Template.face_eq {t t' : Template} (plain : t.isPlain = true)
    (plain' : t'.isPlain = true) (same : t.commandLine.face = t'.commandLine.face)
    (elevate : Bool) : (Line.built t).face elevate = (Line.built t').face elevate :=
  Face.ofText_eq_of_parse (t.parse_text (t.wellFormed_of_isPlain plain))
    (t'.parse_text (t'.wellFormed_of_isPlain plain')) same elevate

/-- The site with another password of the account for seeds. -/
def Site.withPassword (site : Site) (password : String) : Site :=
  { site with mysql := { site.mysql with seedPassword := password } }

section

variable (site : Site) (password password' : String)

namespace Site

/-- The words of a client look alike. -/
theorem masked_clientWords (host : String) (port : UInt16) :
    ((site.withPassword password).clientWords host port).map masked =
      ((site.withPassword password').clientWords host port).map masked := by
  simp [clientWords, withPassword, masked_password]

theorem masked_localClientWords :
    (site.withPassword password).localClientWords.map masked =
      (site.withPassword password').localClientWords.map masked :=
  masked_clientWords site password password' site.mysql.host site.mysql.port

/-- Requests to run lines of one face look alike. -/
theorem seen_exec {line line' : Line}
    (face : line.face site.execWithSudo = line'.face site.execWithSudo) :
    ((site.withPassword password).exec line).seen =
      ((site.withPassword password').exec line').seen := by
  -- The type of what follows a request depends on it, so the face is made a variable first.
  have seen (line : Line) (f : Except ExecError Face) (same : line.face site.execWithSudo = f) :
      (Work.exec site.execWithSudo line).seen =
        .ask (Glimpse.exec f site.execWithSudo) fun
          | .ok () => .done ()
          | .error e => .fail (.exec e) := by
    subst same
    refine congrArg (Procedure.ask _) (funext ?_)
    rintro (e | ⟨⟨⟩⟩) <;> rfl
  exact (seen line _ rfl).trans (seen line' _ face.symm).symm

end Site

/-! ## Each method -/

theorem Mysqldump.face_backupLine (config : Config.Mysqldump) (host : String) (port : UInt16) :
    (backupLine (site.withPassword password) config host port).commandLine.face =
      (backupLine (site.withPassword password') config host port).commandLine.face := by
  have file : dumpFile (site.withPassword password) = dumpFile (site.withPassword password') := rfl
  simp [backupLine, Template.commandLine, CommandLine.face, stageFace, Site.meaning_clientArgs,
    site.masked_clientWords password password', file]

theorem Mysqldump.face_restoreLine :
    (restoreLine (site.withPassword password)).commandLine.face =
      (restoreLine (site.withPassword password')).commandLine.face := by
  have file : dumpFile (site.withPassword password) = dumpFile (site.withPassword password') := rfl
  simp [restoreLine, Template.commandLine, CommandLine.face, stageFace,
    Site.meaning_localClientArgs, site.masked_localClientWords password password', file]

theorem Mydumper.face_backupLine (config : Config.Mydumper) (host : String) (port : UInt16) :
    (backupLine (site.withPassword password) config host port).commandLine.face =
      (backupLine (site.withPassword password') config host port).commandLine.face := by
  have dir : dumpDir (site.withPassword password) = dumpDir (site.withPassword password') := rfl
  simp [backupLine, Template.commandLine_single, CommandLine.single, CommandLine.face, stageFace,
    Site.meaning_clientArgs, site.masked_clientWords password password', dir]

theorem Mydumper.face_restoreLine (config : Config.Mydumper) :
    (restoreLine (site.withPassword password) config).commandLine.face =
      (restoreLine (site.withPassword password') config).commandLine.face := by
  have dir : dumpDir (site.withPassword password) = dumpDir (site.withPassword password') := rfl
  simp [restoreLine, Template.commandLine_single, CommandLine.single, CommandLine.face, stageFace,
    Site.meaning_localClientArgs, site.masked_localClientWords password password', dir]

theorem Xtrabackup.face_sendLine (config : Config.Xtrabackup) (peer : String) :
    (sendLine (site.withPassword password) config peer).commandLine.face =
      (sendLine (site.withPassword password') config peer).commandLine.face := by
  have dir : scratchDir (site.withPassword password) = scratchDir (site.withPassword password') :=
    rfl
  have sender : (site.withPassword password).senderWords peer =
      (site.withPassword password').senderWords peer := rfl
  simp [sendLine, Template.commandLine, CommandLine.face, stageFace, Site.meaning_localClientArgs,
    Site.meaning_streamSender, site.masked_localClientWords password password', dir, sender]

/-- The statement ends with the password, behind a credential clause. -/
theorem ClonePlugin.masked_cloneStatement (host : String) (port : UInt16) :
    masked (cloneStatement (site.withPassword password) host port) =
      masked (cloneStatement (site.withPassword password') host port) := by
  refine masked_credentials ?_ _ _
  -- Only the first character counts: it is no dash, so the word is no option.
  simp only [String.append_assoc]
  simp only [String.toList_append]
  simp

theorem ClonePlugin.face_cloneLine (host : String) (port : UInt16) :
    (cloneLine (site.withPassword password) host port).commandLine.face =
      (cloneLine (site.withPassword password') host port).commandLine.face := by
  simp [cloneLine, Template.commandLine_single, CommandLine.single, CommandLine.face, stageFace,
    Site.meaning_localClientArgs, site.masked_localClientWords password password',
    masked_cloneStatement site password password']

/-- The parts of two methods look alike. -/
structure SeedMethod.SeenAlike (m m' : SeedMethod Interface.host) : Prop where
  intoDatadir : m.intoDatadir = m'.intoDatadir
  probe : ∀ version, (m.probe version).seen = (m'.probe version).seen
  prepare : ∀ side, (m.prepare side).seen = (m'.prepare side).seen
  backup : ∀ request, (m.backup request).seen = (m'.backup request).seen
  restore : m.restore.seen = m'.restore.seen
  coordinates : m.coordinates.seen = m'.coordinates.seen
  cleanup : ∀ side, (m.cleanup side).seen = (m'.cleanup side).seen

theorem SeedMethod.SeenAlike.stage {m m' : SeedMethod Interface.host} (h : m.SeenAlike m')
    {stop stop' : Work Unit} (stops : stop.seen = stop'.seen) (side : Side)
    (request : StageRequest) :
    (m.stage stop side request).seen = (m'.stage stop' side request).seen := by
  cases request with
  | prepare requested => exact h.prepare requested
  | backup host port => exact h.backup ⟨side, host, port⟩
  | restore =>
    simp only [SeedMethod.stage, h.intoDatadir]
    split
    · exact seen_bind_congr stops fun _ => h.restore
    · exact h.restore
  | cleanup requested => exact h.cleanup requested

theorem Mysqldump.seenAlike (config : Config.Mysqldump) :
    (method (site.withPassword password) config).SeenAlike
      (method (site.withPassword password') config) where
  intoDatadir := rfl
  probe _ := rfl
  prepare _ := rfl
  backup := by
    rintro ⟨_ | _, host, port⟩
    · rfl
    · refine seen_bind_congr rfl fun _ => site.seen_exec password password' ?_
      exact Template.face_eq (isPlain_backupLine ..) (isPlain_backupLine ..)
        (face_backupLine site password password' config host port) _
  restore := by
    refine seen_bind_congr rfl fun _ => seen_bind_congr rfl fun _ =>
      site.seen_exec password password' ?_
    exact Template.face_eq (isPlain_restoreLine _) (isPlain_restoreLine _)
      (face_restoreLine site password password') _
  coordinates := rfl
  cleanup _ := rfl

theorem Mydumper.seenAlike (config : Config.Mydumper) :
    (method (site.withPassword password) config).SeenAlike
      (method (site.withPassword password') config) where
  intoDatadir := rfl
  probe _ := rfl
  prepare _ := rfl
  backup := by
    rintro ⟨_ | _, host, port⟩
    · rfl
    · refine seen_bind_congr rfl fun _ => site.seen_exec password password' ?_
      exact Template.face_eq (isPlain_backupLine ..) (isPlain_backupLine ..)
        (face_backupLine site password password' config host port) _
  restore := by
    refine seen_bind_congr rfl fun mode => seen_bind_congr rfl fun _ => seen_bind_congr rfl fun _ =>
      seen_bind_congr (seen_attempt_congr (site.seen_exec password password' ?_)) fun _ => rfl
    exact Template.face_eq (isPlain_restoreLine ..) (isPlain_restoreLine ..)
      (face_restoreLine site password password' config) _
  coordinates := rfl
  cleanup _ := rfl

theorem Xtrabackup.seenAlike (config : Config.Xtrabackup) :
    (method (site.withPassword password) config).SeenAlike
      (method (site.withPassword password') config) where
  intoDatadir := rfl
  probe _ := rfl
  prepare _ := rfl
  backup := by
    rintro ⟨_ | _, host, port⟩
    · refine seen_bind_congr rfl fun _ => site.seen_exec password password' ?_
      exact Template.face_eq (isPlain_sendLine ..) (isPlain_sendLine ..)
        (face_sendLine site password password' config host) _
    · rfl
  restore := rfl
  coordinates := rfl
  cleanup _ := rfl

/-- No line of this method holds the password. -/
theorem Lvm.seenAlike (config : Config.Lvm) :
    (method (site.withPassword password) config).SeenAlike
      (method (site.withPassword password') config) where
  intoDatadir := rfl
  probe _ := rfl
  prepare _ := rfl
  backup _ := rfl
  restore := rfl
  coordinates := rfl
  cleanup _ := rfl

theorem ClonePlugin.seenAlike :
    (method (site.withPassword password)).SeenAlike (method (site.withPassword password')) where
  intoDatadir := rfl
  probe _ := rfl
  prepare _ := rfl
  backup := by
    rintro ⟨_ | _, host, port⟩
    · rfl
    · refine seen_bind_congr rfl fun _ => site.seen_exec password password' ?_
      exact Template.face_eq (isPlain_cloneLine ..) (isPlain_cloneLine ..)
        (face_cloneLine site password password' host port) _
  restore := rfl
  coordinates := rfl
  cleanup _ := rfl

theorem Config.Methods.seenAlike (methods : Config.Methods) (kind : Method) :
    (methods.method (site.withPassword password) kind).SeenAlike
      (methods.method (site.withPassword password') kind) := by
  cases kind with
  | mysqldump => exact Mysqldump.seenAlike site password password' methods.mysqldump
  | mydumper => exact Mydumper.seenAlike site password password' methods.mydumper
  | xtrabackup => exact Xtrabackup.seenAlike site password password' methods.xtrabackup
  | lvm => exact Lvm.seenAlike site password password' methods.lvm
  | clonePlugin => exact ClonePlugin.seenAlike site password password'

/-- Whatever the two passwords are, the requests of a method look the same, with lines of the same
face in the same places; and no message tells lines of one face apart. -/
theorem Config.Methods.password_unseen (methods : Config.Methods) (kind : Method) :
    (∀ side request,
      ((methods.method (site.withPassword password) kind).stage
          (site.withPassword password).stopService side request).seen =
        ((methods.method (site.withPassword password') kind).stage
          (site.withPassword password').stopService side request).seen) ∧
    (∀ version,
      ((methods.method (site.withPassword password) kind).probe version).seen =
        ((methods.method (site.withPassword password') kind).probe version).seen) ∧
    (methods.method (site.withPassword password) kind).coordinates.seen =
      (methods.method (site.withPassword password') kind).coordinates.seen ∧
    ∀ (line line' : String) (elevate : Bool),
      Face.ofText line elevate = Face.ofText line' elevate → Indistinct line line' elevate := by
  have alike := methods.seenAlike site password password' kind
  exact ⟨alike.stage rfl, alike.probe, alike.coordinates, fun _ _ _ => indistinct_of_face⟩

end

/-- A clone looks the same with a password that seems to end the statement and to open another
option. -/
theorem Config.Methods.password_unseen_clone :
    let plain : Site := Site.withPassword {} "secret"
    let awkward : Site := Site.withPassword {} "' -p= IDENTIFIED BY | sh"
    ((({} : Config.Methods).method plain .clonePlugin).stage plain.stopService .target
        (.backup "donor" 3306)).seen =
      ((({} : Config.Methods).method awkward .clonePlugin).stage awkward.stopService .target
        (.backup "donor" 3306)).seen ∧
    Face.ofText "mysql --password=secret" true =
      Face.ofText "mysql --password=''\\'' -p= | sh'" true ∧
    Indistinct "mysql --password=secret" "mysql --password=''\\'' -p= | sh'" true := by
  have face : Face.ofText "mysql --password=secret" true =
      Face.ofText "mysql --password=''\\'' -p= | sh'" true := by decide +kernel
  have unseen := password_unseen {} "secret" "' -p= IDENTIFIED BY | sh" {} .clonePlugin
  exact ⟨unseen.1 .target (.backup "donor" 3306), face, unseen.2.2.2 _ _ _ face⟩

end ReplicaSeed
