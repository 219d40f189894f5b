import Mathlib.Logic.Function.Basic
import ReplicaSeed.Proofs.Method.Behaviour
import ReplicaSeed.Proofs.Method.Commands
import ReplicaSeed.Proofs.Method.Following

/-!
# What the tools do to the storage of a host

The volumes of a host, what is mounted where, and the files that the agent writes, as the tools that
it runs change and report them. A tool that reports success has done its work. One that has failed,
or was stopped, may have done it nevertheless.

## Main definitions

* `Storage`: volumes, mounts and files.
* `Tools`: how the tools understand names.
* `Tools.after?`, `Tools.finds?`: what a line does, and what it reports.
* `Tools.behaviour`: how the host behaves.
* `Tools.host`: a host that behaves in this way, where some commands fail.

## Main statements

* `Tools.host_behaves`: it does.
* `Site.ensures_exec`, `Site.ensures_succeeds`: what the requests of a stage ensure.
-/

namespace ReplicaSeed

open Command

/-! ## Storage -/

/-- The storage of a host, where places are of type `π` and volumes of type `δ`. -/
structure Storage (π δ : Type) where
  /-- What is mounted at a place, the last one first. -/
  mounts : π → List δ
  volumes : δ → Bool
  files : π → Bool

/-- How the tools understand what they are given. -/
structure Tools (π δ : Type) where
  /-- The place that a path leads to. -/
  place : String → π
  /-- The volume that a device stands for. -/
  device : String → δ
  /-- The volume that a snapshot with this name becomes, if it is taken of this volume. -/
  snapshot : (name volume : String) → δ

variable {π δ : Type} [DecidableEq π] [DecidableEq δ]

namespace Storage

variable (s : Storage π δ)

def addVolume (d : δ) : Storage π δ := { s with volumes := Function.update s.volumes d true }

def removeVolume (d : δ) : Storage π δ := { s with volumes := Function.update s.volumes d false }

def setMounts (p : π) (mounted : List δ) : Storage π δ :=
  { s with mounts := Function.update s.mounts p mounted }

def addFile (p : π) : Storage π δ := { s with files := Function.update s.files p true }

def removeFile (p : π) : Storage π δ := { s with files := Function.update s.files p false }

end Storage

/-! ## Tools -/

/-- The words of a line that runs a single program and leaves its output alone. -/
def Line.words? (line : Line) : Option (List String) :=
  match CommandLine.parse line.text with
  | .ok ⟨[words], none, _⟩ => some words
  | _ => none

theorem Line.words?_built {t : Template} {words : List String} (plain : t.isPlain = true)
    (reads : t.commandLine = .single words) : (Line.built t).words? = some words := by
  have parsed := t.parse_text (t.wellFormed_of_isPlain plain)
  simp only [words?, Line.text, parsed, reads]
  rfl

namespace Tools

variable (t : Tools π δ)

/-- What a device is mounted to, if there is one. -/
def mount (s : Storage π δ) (device path : String) : Option (Storage π δ) :=
  if s.volumes (t.device device) then
    some (s.setMounts (t.place path) (t.device device :: s.mounts (t.place path)))
  else none

/-- What a tool does, unless it cannot do its work. Any other program leaves the storage alone. -/
def tool? (s : Storage π δ) : List String → Option (Storage π δ)
  | ["lvcreate", "--snapshot", "--size", _, "--name", name, volume] =>
    if s.volumes (t.snapshot name volume) then none else some (s.addVolume (t.snapshot name volume))
  | ["lvremove", "--force", device] =>
    if s.volumes (t.device device) then some (s.removeVolume (t.device device)) else none
  | ["mount", device, path] => t.mount s device path
  | ["mount", "-o", _, device, path] => t.mount s device path
  | ["umount", path] =>
    if (s.mounts (t.place path)).isEmpty then none
    else some (s.setMounts (t.place path) (s.mounts (t.place path)).tail)
  | ["rm", "-rf", path] => some (s.removeFile (t.place path))
  | _ => some s

/-- What a line does, unless it fails. -/
def after? (s : Storage π δ) (line : Line) : Option (Storage π δ) :=
  match line.words? with
  | some words => t.tool? s words
  | none => some s

/-- What a line that looks for something is to report, where it is known. -/
def finds? (s : Storage π δ) (line : Line) : Option Bool :=
  match line.words? with
  | some ["mountpoint", "-q", path] => some !(s.mounts (t.place path)).isEmpty
  | some ["lvs", device] => some (s.volumes (t.device device))
  | _ => none

/-- What a request does to the storage. -/
def Does (t : Tools π δ) : (q : HostRequest) → q.Answer → Storage π δ → Storage π δ → Prop
  | .exec line _, .ok (), s, s' => t.after? s line = some s'
  | .exec line _, .error _, s, s' => s' = s ∨ t.after? s line = some s'
  | .capture line _, answer, s, s' => s' = s ∧ ∀ found ∈ t.finds? s line, answer.isOk = found
  | .writeFile path _, .ok (), s, s' => s' = s.addFile (t.place path)
  | .writeFile path _, .error _, s, s' => s' = s ∨ s' = s.addFile (t.place path)
  | _, _, s, s' => s' = s

/-- How a host with these tools behaves. -/
def behaviour : Behaviour Interface.host (Storage π δ) := t.Does

/-- A host with these tools, where a command fails as `fails` says, and has done nothing then. -/
def host (fails : Line → Option ExecError) : Surroundings Interface.host (Storage π δ)
  | .exec line _, s =>
    match fails line, t.after? s line with
    | none, some s' => (.ok (), s')
    | some e, _ => (.error e, s)
    | none, none => (.error (.failed line.text (some 1) ""), s)
  | .capture line _, s =>
    match t.finds? s line with
    | some false => (.error (.failed line.text (some 1) ""), s)
    | _ => (.ok ⟨[], []⟩, s)
  | .writeFile path _, s => (.ok (), s.addFile (t.place path))
  | q, s => (HostRequest.answerBy (fun _ => .ok ()) q, s)

theorem host_behaves (fails : Line → Option ExecError) : (t.host fails).Behaves t.behaviour := by
  intro q s
  cases q with
  | exec line elevate =>
    cases failed : fails line <;> cases after : t.after? s line <;>
      simp [behaviour, Does, host, failed, after]
  | capture line elevate =>
    rcases found : t.finds? s line with _ | _ | _ <;>
      simp [behaviour, Does, host, found, Except.isOk, Except.toBool]
  | _ => rfl

end Tools

/-! ## A host where no command fails of itself -/

section

variable {α : Type} {t : Tools π δ} {s s' : Storage π δ} {site : Site} {line : Line}

theorem Work.result_note_bind (text : String) (f : Unit → Work α) :
    ((note text >>= f).runIn (t.host fun _ => none) s).result =
      ((f ()).runIn (t.host fun _ => none) s).result := rfl

theorem Site.result_exec (after : t.after? s line = some s') :
    ((site.exec line).runIn (t.host fun _ => none) s).result = .ok () := by
  have answer : t.host (fun _ => none) (.exec line site.execWithSudo) s = (.ok (), s') := by
    simp [Tools.host, after]
  exact (Procedure.result_ask ..).trans (by rw [answer]; rfl)

theorem Site.result_exec_bind (f : Unit → Work α) (after : t.after? s line = some s') :
    ((site.exec line >>= f).runIn (t.host fun _ => none) s).result =
      ((f ()).runIn (t.host fun _ => none) s').result := by
  have answer : t.host (fun _ => none) (.exec line site.execWithSudo) s = (.ok (), s') := by
    simp [Tools.host, after]
  exact (Procedure.result_ask ..).trans (by rw [answer]; rfl)

theorem Site.result_succeeds_bind {found : Bool} (f : Bool → Work α)
    (finds : t.finds? s line = some found) :
    ((site.succeeds line >>= f).runIn (t.host fun _ => none) s).result =
      ((f found).runIn (t.host fun _ => none) s).result := by
  cases found with
  | false =>
    have answer : t.host (fun _ => none) (.capture line site.execWithSudo) s =
        (.error (.failed line.text (some 1) ""), s) := by
      simp [Tools.host, finds]
    exact (Procedure.result_ask ..).trans (by rw [answer]; rfl)
  | true =>
    have answer : t.host (fun _ => none) (.capture line site.execWithSudo) s =
        (.ok ⟨[], []⟩, s) := by
      simp [Tools.host, finds]
    exact (Procedure.result_ask ..).trans (by rw [answer]; rfl)

end

/-! ## What the requests of a stage ensure -/

section

variable {t : Tools π δ} {P : Storage π δ → Prop} {s : Storage π δ} {site : Site}

theorem Work.ensures_note (text : String) (holds : P s) :
    (note text).Ensures t.behaviour P (fun r s' => r = .ok () ∧ s' = s) s := by
  refine ⟨holds, fun answer s' same => ?_⟩
  obtain rfl : s' = s := same
  exact ⟨holds, rfl, rfl⟩

theorem Work.ensures_database (call : Database.Call) (holds : P s) :
    (database call).Ensures t.behaviour P (fun _ s' => s' = s) s := by
  refine ⟨holds, fun answer s' same => ?_⟩
  obtain rfl : s' = s := same
  cases answer <;> exact ⟨holds, rfl⟩

/-- A file that is written is there, and one that cannot be written may be there as well. -/
theorem Work.ensures_writeFile (path content : String) (holds : P s)
    (written : P (s.addFile (t.place path))) :
    (writeFile path content).Ensures t.behaviour P
      (fun r s' => r ≠ .ok () ∧ s' = s ∨ s' = s.addFile (t.place path)) s := by
  refine ⟨holds, fun answer s' does => ?_⟩
  cases answer with
  | ok =>
    obtain rfl : s' = s.addFile (t.place path) := does
    exact ⟨written, .inr rfl⟩
  | error fault =>
    obtain rfl | rfl : s' = s ∨ s' = s.addFile (t.place path) := does
    · exact ⟨holds, .inl ⟨nofun, rfl⟩⟩
    · exact ⟨written, .inr rfl⟩

/-- A command that succeeds has done its work, and one that fails may have done it. -/
theorem Site.ensures_exec (line : Line) (holds : P s) (done : ∀ s' ∈ t.after? s line, P s') :
    (site.exec line).Ensures t.behaviour P
      (fun r s' => r ≠ .ok () ∧ s' = s ∨ t.after? s line = some s') s := by
  refine ⟨holds, fun answer s' does => ?_⟩
  cases answer with
  | ok =>
    have after : t.after? s line = some s' := does
    exact ⟨done s' after, .inr after⟩
  | error e =>
    obtain rfl | after : s' = s ∨ t.after? s line = some s' := does
    · exact ⟨holds, .inl ⟨nofun, rfl⟩⟩
    · exact ⟨done s' after, .inr after⟩

/-- A look changes nothing and reports what is there. -/
theorem Site.ensures_succeeds {line : Line} {found : Bool} (holds : P s)
    (finds : t.finds? s line = some found) :
    (site.succeeds line).Ensures t.behaviour P (fun r s' => r = .ok found ∧ s' = s) s := by
  refine ⟨holds, fun answer s' ⟨same, tells⟩ => ?_⟩
  obtain rfl : s' = s := same
  have told : answer.isOk = found := tells found finds
  cases answer <;> exact ⟨holds, congrArg Except.ok told, rfl⟩

end

end ReplicaSeed
