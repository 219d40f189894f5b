import Mathlib.Logic.Function.Basic
import ReplicaSeed.Proofs.Method.Commands
import ReplicaSeed.Proofs.Method.Plan

/-!
# What becomes of the old data

A target that keeps its old data moves its data directory aside before a backup lands in it. That
takes four commands. The work can stop at each of them, and it can be asked for again: then it
begins with removing what is at the place aside, and that may be what an earlier attempt has moved
there.

Nothing is assumed about how an attempt ends. It may fail at any command, be aborted, or not come to
an end at all; a command that has failed has left the directories as they were.

## Main definitions

* `Disk.after?`: what the commands make of the directories.
* `Site.Attempt`: an attempt to empty the data directory of a target, as far as it has come.
* `Site.Removes`, `Site.Moves`: what is at the place aside is removed; the data is moved there.

## Main statements

* `Site.Attempt.left`: what one attempt does to the directories.
* `Site.oldData_kept_iff`: the old data is there until an attempt removes what an earlier one moved.
* `exists_oldData_lost`: a second attempt can remove it, and succeed.
-/

namespace ReplicaSeed

open Command

/-! ## Directories -/

/-- Directories by their place, each with its entries. -/
abbrev Disk (π α : Type) := π → Option (List α)

namespace Disk

variable {π α : Type} [DecidableEq π] (place : String → π)

/-- What a tool makes of the directories, unless it cannot do its work. A directory is moved only to
a place where there is none. -/
def tool? (disk : Disk π α) : List String → Option (Disk π α)
  | ["rm", "-rf", path] => some (Function.update disk (place path) none)
  | ["mv", path, target] =>
    match disk (place path), disk (place target) with
    | some held, none =>
      some (Function.update (Function.update disk (place target) (some held)) (place path) none)
    | _, _ => none
  | ["mkdir", "-p", path] =>
    some (if (disk (place path)).isSome then disk else Function.update disk (place path) (some []))
  | ["chown", "-R", _, _] => some disk
  | _ => none

/-- What a line makes of the directories. The lines that the operator gives start and stop the
service, and leave them as they are. -/
def after? (disk : Disk π α) : Line → Option (Disk π α)
  | .given _ => some disk
  | .built t =>
    match CommandLine.parse t.text with
    | .ok ⟨[words], none, _⟩ => disk.tool? place words
    | _ => none

/-- What lines that are run one after the other make of the directories. -/
def afterAll? (disk : Disk π α) (lines : List Line) : Option (Disk π α) :=
  lines.foldlM (after? place) disk

variable {place} {disk : Disk π α}

@[simp] theorem afterAll?_nil : disk.afterAll? place [] = some disk := rfl

theorem afterAll?_cons (line : Line) (lines : List Line) :
    disk.afterAll? place (line :: lines) =
      (disk.after? place line).bind fun d => d.afterAll? place lines :=
  List.foldlM_cons

theorem afterAll?_append (lines more : List Line) :
    disk.afterAll? place (lines ++ more) =
      (disk.afterAll? place lines).bind fun d => d.afterAll? place more :=
  List.foldlM_append

/-- A template is run as the words that it stands for. -/
theorem after?_built {t : Template} {words : List String} (plain : t.isPlain = true)
    (reads : t.commandLine = .single words) :
    disk.after? place (.built t) = disk.tool? place words := by
  simp only [after?, t.parse_text (t.wellFormed_of_isPlain plain), reads]
  rfl

@[simp] theorem after?_given (text : String) : disk.after? place (.given text) = some disk := rfl

@[simp] theorem after?_remove (path : String) :
    disk.after? place (Site.removeLine path) = some (Function.update disk (place path) none) :=
  after?_built rfl (Site.commandLine_removeLine path)

@[simp] theorem after?_make (path : String) :
    disk.after? place (Site.makeDirectoryLine path) =
      some (if (disk (place path)).isSome then disk
        else Function.update disk (place path) (some [])) :=
  after?_built rfl (Site.commandLine_makeDirectoryLine path)

@[simp] theorem after?_own (site : Site) : disk.after? place site.chownLine = some disk :=
  after?_built rfl site.commandLine_chownLine

end Disk

namespace Site

variable (site : Site)

/-- Moves the data directory aside. -/
def moveLine : Template := .single ["mv", .value site.mysql.datadir, .value site.asidePath]

theorem after?_move {π α : Type} [DecidableEq π] {place : String → π} {disk : Disk π α} :
    disk.after? place site.moveLine =
      match disk (place site.mysql.datadir), disk (place site.asidePath) with
      | some held, none =>
        some (Function.update (Function.update disk (place site.asidePath) (some held))
          (place site.mysql.datadir) none)
      | _, _ => none :=
  have reads : site.moveLine.commandLine = .single ["mv", site.mysql.datadir, site.asidePath] := by
    simp [moveLine, Template.commandLine_single]
  Disk.after?_built rfl reads

end Site

/-! ## Commands that took effect -/

/-- The command of a stage that was run and did not fail. -/
def HostRequest.effect? : (q : HostRequest) → q.Answer → Option Line
  | exec line _, .ok () => some line
  | _, _ => none

/-- The command of a stage that took effect in the exchange. -/
def Exchange.effect? (x : Exchange Interface.host) : Option Line :=
  HostRequest.effect? x.asked x.answer

theorem Exchange.effect?_of_fine {x : Exchange Interface.host} (fine : x.failure? = none) :
    x.effect? = x.asked.command? := by
  obtain ⟨q, answer⟩ := x
  cases q with
  | exec line elevate =>
    cases answer with
    | ok => rfl
    | error e => cases fine
  | _ => rfl

theorem Exchange.effect?_eq_or (x : Exchange Interface.host) :
    x.effect? = none ∨ x.effect? = x.asked.command? := by
  obtain ⟨q, answer⟩ := x
  cases q with
  | exec line elevate =>
    cases answer with
    | ok => exact .inr rfl
    | error e => exact .inl rfl
  | _ => exact .inl rfl

/-- The commands that took effect, in their order. -/
def effects (run : List (Exchange Interface.host)) : List Line := run.filterMap (·.effect?)

/-- Where all has succeeded but the last, the commands that took effect are the first ones of those
that were to be run. -/
theorem effects_prefix {run : List (Exchange Interface.host)} {asked : List HostRequest}
    (performed : run.map (·.asked) <+: asked) (fine : ∀ x ∈ run.dropLast, x.failure? = none) :
    effects run <+: asked.filterMap (·.command?) := by
  obtain rfl | ⟨done, x, rfl⟩ := run.eq_nil_or_concat
  · exact List.nil_prefix
  rw [List.concat_eq_append] at performed fine ⊢
  rw [List.dropLast_concat] at fine
  have passed : effects done = (done.map (·.asked)).filterMap (·.command?) := by
    rw [effects, List.filterMap_map]
    exact List.filterMap_congr fun y member => y.effect?_of_fine (fine y member)
  have all := performed.filterMap (·.command?)
  rw [List.map_append, List.filterMap_append, ← passed] at all
  rw [effects, List.filterMap_append]
  obtain none_ | same := x.effect?_eq_or
  · rw [List.filterMap_cons_none none_, List.filterMap_nil, List.append_nil]
    exact (List.prefix_append ..).trans all
  · have last : [x].filterMap (·.effect?) = ([x].map (·.asked)).filterMap (·.command?) := by
      rw [List.filterMap_map]
      exact List.filterMap_congr (List.forall_mem_singleton.2 same)
    rwa [last]

/-! ## Attempts -/

namespace Site

variable (site : Site)

/-- The work of a target that empties the data directory, by itself or as a part of Prepare. -/
inductive Clears : Work Unit → Prop
  | alone : Clears site.clearDatadir
  | xtrabackup (config : Config.Xtrabackup) :
    Clears ((Xtrabackup.method site config).prepare .target)
  | lvm (config : Config.Lvm) : Clears ((Lvm.method site config).prepare .target)

/-- An attempt to empty the data directory, as far as it has come. -/
def Attempt (run : List (Exchange Interface.host)) : Prop :=
  ∃ work exchanges result, site.Clears work ∧ work.Path exchanges result ∧ run <+: exchanges

/-- What is at the place aside is removed. -/
def Removes (lines : List Line) : Prop := (removeLine site.asidePath : Line) ∈ lines

/-- The data directory is moved aside. -/
def Moves (lines : List Line) : Prop := (site.moveLine : Line) ∈ lines

/-- The commands that keep the old data. -/
def keeping : List Line :=
  [removeLine site.asidePath, site.moveLine, makeDirectoryLine site.mysql.datadir, site.chownLine]

variable {site} {run : List (Exchange Interface.host)}

theorem Clears.follows {work : Work Unit} {exchanges : List (Exchange Interface.host)}
    {result : Except MethodError Unit} (h : site.Clears work) (path : work.Path exchanges result) :
    exchanges = [] ∨ Follows site.emptying exchanges result ∨
      Follows (site.stopping ++ site.emptying) exchanges result := by
  cases h with
  | alone => exact .inr (.inl (site.carries_clearDatadir.follows path))
  | xtrabackup config =>
    exact .inr (.inr ((site.carries_stopService.seq site.carries_clearDatadir).follows path))
  | lvm config =>
    change (Lvm.prepare site config .target).Path exchanges result at path
    unfold Lvm.prepare at path
    split at path
    · exact .inl (Procedure.path_fail_iff.1 path).1
    · exact .inr (.inr ((site.carries_stopService.seq site.carries_clearDatadir).follows path))

/-- The commands of an attempt that took effect, apart from that which stops the service, are the
first ones of those that keep the old data. -/
theorem Attempt.effects_prefix (h : site.Attempt run) (keeps : site.backupOldDatadir = true) :
    ∃ lead, (lead = [] ∨ lead = [.given site.mysql.serviceStopCommand]) ∧
      effects run <+: lead ++ site.keeping := by
  obtain ⟨work, exchanges, result, clears, path, begins⟩ := h
  have commands : (site.emptying.map (·.request)).filterMap (·.command?) = site.keeping := by
    rw [emptying, if_pos keeps]
    rfl
  have first {steps : List PlannedStep} (follows : Follows steps exchanges result)
      (plain : ∀ step ∈ steps, step.Plain) :
      effects run <+: (steps.map (·.request)).filterMap (·.command?) := by
    obtain ⟨performed, fine⟩ := follows.plain plain
    refine ReplicaSeed.effects_prefix ((begins.map _).trans performed) fun x member => fine x ?_
    obtain ⟨later, rfl⟩ := begins
    rw [List.dropLast_append]
    split
    · exact member
    · exact List.mem_append_left _ (List.dropLast_subset _ member)
  obtain rfl | follows | follows := clears.follows path
  · obtain rfl := List.prefix_nil.1 begins
    exact ⟨[], .inl rfl, List.nil_prefix⟩
  · exact ⟨[], .inl rfl, commands ▸ first follows site.plain_emptying⟩
  · refine ⟨[.given site.mysql.serviceStopCommand], .inr rfl, ?_⟩
    have plain := List.forall_mem_append.2 ⟨site.plain_stopping, site.plain_emptying⟩
    have begun := first follows plain
    rwa [List.map_append, List.filterMap_append, commands] at begun

/-! ## What one attempt does -/

section

variable {π α : Type} [DecidableEq π] {place : String → π} {disk disk' : Disk π α}
  {lines : List Line}

/-- There is nothing, or a directory without entries. -/
def Vacant (content : Option (List α)) : Prop := ∀ held ∈ content, held = []

variable (site) in
/-- What an attempt does to the directories, by the commands of it that took effect. -/
inductive Left (place : String → π) (lines : List Line) (disk disk' : Disk π α) : Prop
  | same (removes : ¬ site.Removes lines) (moves : ¬ site.Moves lines) (same : disk' = disk)
  | removed (removes : site.Removes lines) (moves : ¬ site.Moves lines)
      (aside : disk' (place site.asidePath) = none)
      (datadir : disk' (place site.mysql.datadir) = disk (place site.mysql.datadir))
  | moved {held : List α} (removes : site.Removes lines) (moves : site.Moves lines)
      (found : disk (place site.mysql.datadir) = some held)
      (aside : disk' (place site.asidePath) = some held)
      (vacant : Vacant (disk' (place site.mysql.datadir)))

/-- Once the data directory is gone, what is left to do makes a new one. -/
theorem vacant_of_prefix (apart : place site.asidePath ≠ place site.mysql.datadir)
    (begins : lines <+: [makeDirectoryLine site.mysql.datadir, site.chownLine])
    (gone : disk (place site.mysql.datadir) = none)
    (reached : disk.afterAll? place lines = some disk') :
    disk' (place site.asidePath) = disk (place site.asidePath) ∧
      Vacant (disk' (place site.mysql.datadir)) := by
  obtain rfl | ⟨rest, rfl, owning⟩ := List.prefix_cons_iff.1 begins
  · obtain rfl := Option.some.inj reached
    exact ⟨rfl, by simp [Vacant, gone]⟩
  · have owned : disk' = Function.update disk (place site.mysql.datadir) (some []) := by
      obtain rfl | ⟨last, rfl, none_⟩ := List.prefix_cons_iff.1 owning
      · simpa [Disk.afterAll?_cons, gone] using reached.symm
      · obtain rfl := List.prefix_nil.1 none_
        simpa [Disk.afterAll?_cons, gone] using reached.symm
    subst owned
    exact ⟨Function.update_of_ne apart .., by simp [Vacant]⟩

theorem left_of_prefix (apart : place site.asidePath ≠ place site.mysql.datadir)
    (begins : lines <+: site.keeping) (reached : disk.afterAll? place lines = some disk') :
    site.Left place lines disk disk' := by
  obtain rfl | ⟨rest, rfl, moving⟩ := List.prefix_cons_iff.1 begins
  · exact .same List.not_mem_nil List.not_mem_nil (Option.some.inj reached).symm
  have removes : site.Removes (removeLine site.asidePath :: rest) := List.mem_cons_self
  rw [Disk.afterAll?_cons, Disk.after?_remove, Option.bind_some] at reached
  obtain rfl | ⟨rest, rfl, making⟩ := List.prefix_cons_iff.1 moving
  · obtain rfl := Option.some.inj reached
    refine .removed removes ?_ (Function.update_self ..) (Function.update_of_ne apart.symm ..)
    simp [Moves, moveLine, removeLine, Template.single]
  have moves : site.Moves (removeLine site.asidePath :: site.moveLine :: rest) := by simp [Moves]
  rw [Disk.afterAll?_cons, after?_move, Function.update_self, Function.update_of_ne apart.symm]
    at reached
  cases found : disk (place site.mysql.datadir) with
  | none => simp [found] at reached
  | some held =>
    simp only [found, Option.bind_some] at reached
    obtain ⟨aside, vacant⟩ := vacant_of_prefix apart making (Function.update_self ..) reached
    refine .moved removes moves found (aside.trans ?_) vacant
    rw [Function.update_of_ne apart, Function.update_self]

/-- Apart from the command that stops the service, an attempt runs the first ones of the commands
that keep the old data. -/
theorem Attempt.exists_begun (h : site.Attempt run) (keeps : site.backupOldDatadir = true)
    (place : String → π) (disk : Disk π α) :
    ∃ lines, lines <+: site.keeping ∧
      disk.afterAll? place (effects run) = disk.afterAll? place lines ∧
      (site.Removes (effects run) ↔ site.Removes lines) ∧
      (site.Moves (effects run) ↔ site.Moves lines) := by
  obtain ⟨lead, rfl | rfl, begins⟩ := h.effects_prefix keeps
  · exact ⟨effects run, begins, rfl, .rfl, .rfl⟩
  obtain none_ | ⟨lines, split, begins⟩ := List.prefix_cons_iff.1 begins
  · exact ⟨[], List.nil_prefix, by rw [none_], by rw [none_], by rw [none_]⟩
  · refine ⟨lines, begins, ?_, ?_, ?_⟩
    · rw [split, Disk.afterAll?_cons, Disk.after?_given, Option.bind_some]
    · simp [split, Removes]
    · simp [split, Moves]

/-- What an attempt does to the directories. -/
theorem Attempt.left (h : site.Attempt run) (keeps : site.backupOldDatadir = true)
    (apart : place site.asidePath ≠ place site.mysql.datadir)
    (reached : disk.afterAll? place (effects run) = some disk') :
    site.Left place (effects run) disk disk' := by
  obtain ⟨lines, begins, same, removes, moves⟩ := h.exists_begun keeps place disk
  rw [same] at reached
  cases left_of_prefix apart begins reached with
  | same spares stays same => exact .same (mt removes.1 spares) (mt moves.1 stays) same
  | removed gone stays aside datadir =>
    exact .removed (removes.2 gone) (mt moves.1 stays) aside datadir
  | moved gone moved found aside vacant =>
    exact .moved (removes.2 gone) (moves.2 moved) found aside vacant

/-! ## One attempt after the other -/

variable (site) in
/-- The data is in its place, or aside. -/
def Kept (place : String → π) (held : List α) (disk : Disk π α) : Prop :=
  disk (place site.mysql.datadir) = some held ∨ disk (place site.asidePath) = some held

variable {held : List α} {runs : List (List (Exchange Interface.host))}

/-- The first of several attempts, and the others. -/
theorem left_of_cons {run : List (Exchange Interface.host)} (keeps : site.backupOldDatadir = true)
    (apart : place site.asidePath ≠ place site.mysql.datadir)
    (begun : ∀ r ∈ run :: runs, site.Attempt r)
    (reached : disk.afterAll? place ((run :: runs).flatMap effects) = some disk') :
    ∃ d, site.Left place (effects run) disk d ∧ (∀ r ∈ runs, site.Attempt r) ∧
      d.afterAll? place (runs.flatMap effects) = some disk' := by
  obtain ⟨first, others⟩ := List.forall_mem_cons.1 begun
  rw [List.flatMap_cons, Disk.afterAll?_append] at reached
  obtain ⟨d, attempted, later⟩ := Option.bind_eq_some_iff.1 reached
  exact ⟨d, first.left keeps apart attempted, others, later⟩

/-- Data that is lost does not come back. -/
theorem not_kept_of_vacant (keeps : site.backupOldDatadir = true)
    (apart : place site.asidePath ≠ place site.mysql.datadir) (some_ : held ≠ [])
    (begun : ∀ run ∈ runs, site.Attempt run)
    (datadir : Vacant (disk (place site.mysql.datadir)))
    (aside : Vacant (disk (place site.asidePath)))
    (reached : disk.afterAll? place (runs.flatMap effects) = some disk') :
    ¬ site.Kept place held disk' := by
  induction runs generalizing disk with
  | nil =>
    obtain rfl := Option.some.inj reached
    rintro (kept | kept)
    · exact some_ (datadir held kept)
    · exact some_ (aside held kept)
  | cons run runs ih =>
    obtain ⟨d, left, others, later⟩ := left_of_cons keeps apart begun reached
    cases left with
    | same _ _ same => exact ih others (same ▸ datadir) (same ▸ aside) later
    | removed _ _ aside' datadir' =>
      exact ih others (datadir' ▸ datadir) (by simp [Vacant, aside']) later
    | moved _ _ found aside' vacant =>
      exact ih others vacant (aside' ▸ found ▸ datadir) later

/-- Data that is aside is kept as long as no attempt removes it. -/
theorem kept_of_aside (keeps : site.backupOldDatadir = true)
    (apart : place site.asidePath ≠ place site.mysql.datadir)
    (begun : ∀ run ∈ runs, site.Attempt run) (aside : disk (place site.asidePath) = some held)
    (spared : ∀ run ∈ runs, ¬ site.Removes (effects run))
    (reached : disk.afterAll? place (runs.flatMap effects) = some disk') :
    site.Kept place held disk' := by
  induction runs generalizing disk with
  | nil =>
    obtain rfl := Option.some.inj reached
    exact .inr aside
  | cons run runs ih =>
    obtain ⟨now, spared⟩ := List.forall_mem_cons.1 spared
    obtain ⟨d, left, others, later⟩ := left_of_cons keeps apart begun reached
    cases left with
    | same _ _ same => exact ih others (same ▸ aside) spared later
    | removed removes => exact absurd removes now
    | moved removes => exact absurd removes now

/-- Data that is aside is lost once an attempt removes it. -/
theorem not_kept_of_aside (keeps : site.backupOldDatadir = true)
    (apart : place site.asidePath ≠ place site.mysql.datadir) (some_ : held ≠ [])
    (begun : ∀ run ∈ runs, site.Attempt run)
    (datadir : Vacant (disk (place site.mysql.datadir)))
    (aside : disk (place site.asidePath) = some held)
    (removes : ¬ ∀ run ∈ runs, ¬ site.Removes (effects run))
    (reached : disk.afterAll? place (runs.flatMap effects) = some disk') :
    ¬ site.Kept place held disk' := by
  induction runs generalizing disk with
  | nil => simp at removes
  | cons run runs ih =>
    obtain ⟨d, left, others, later⟩ := left_of_cons keeps apart begun reached
    cases left with
    | same spares _ same =>
      exact ih others (same ▸ datadir) (same ▸ aside)
        (fun none_ => removes (List.forall_mem_cons.2 ⟨spares, none_⟩)) later
    | removed _ _ aside' datadir' =>
      exact not_kept_of_vacant keeps apart some_ others (datadir' ▸ datadir)
        (by simp [Vacant, aside']) later
    | moved _ _ found aside' vacant =>
      exact not_kept_of_vacant keeps apart some_ others vacant (aside' ▸ found ▸ datadir) later

/-- As long as no attempt removes what is aside after an earlier one has moved the data there, the
old data is kept, in its place or aside. Once one does, there is nothing left of it. -/
theorem oldData_kept_until_removed (keeps : site.backupOldDatadir = true)
    (apart : place site.asidePath ≠ place site.mysql.datadir)
    (found : disk (place site.mysql.datadir) = some held)
    (begun : ∀ run ∈ runs, site.Attempt run)
    (reached : disk.afterAll? place (runs.flatMap effects) = some disk') :
    let spared := runs.Pairwise fun earlier later =>
      ¬ (site.Moves (effects earlier) ∧ site.Removes (effects later))
    (spared → site.Kept place held disk') ∧
      (held ≠ [] → ¬ spared → ¬ site.Kept place held disk') := by
  induction runs generalizing disk with
  | nil =>
    obtain rfl := Option.some.inj reached
    exact ⟨fun _ => .inl found, fun _ lost => absurd .nil lost⟩
  | cons run runs ih =>
    obtain ⟨d, left, others, later⟩ := left_of_cons keeps apart begun reached
    have harmless (moves : ¬ site.Moves (effects run)) :
        ∀ r ∈ runs, ¬ (site.Moves (effects run) ∧ site.Removes (effects r)) :=
      fun _ _ both => moves both.1
    rw [List.pairwise_cons]
    cases left with
    | same _ moves same =>
      rw [and_iff_right (harmless moves)]
      exact ih (same ▸ found) others later
    | removed _ moves _ same =>
      rw [and_iff_right (harmless moves)]
      exact ih (same.trans found) others later
    | @moved held' _ moves found' aside vacant =>
      obtain rfl : held = held' := Option.some.inj (found.symm.trans found')
      refine ⟨fun all => ?_, fun some_ all => ?_⟩
      · exact kept_of_aside keeps apart others aside
          (fun r member removes => all.1 r member ⟨moves, removes⟩) later
      · refine not_kept_of_aside keeps apart some_ others vacant aside (fun spares => all ?_) later
        exact ⟨fun r member both => spares r member both.2,
          List.pairwise_of_forall_mem_list fun _ _ r member both => spares r member both.2⟩

end

/-! ## Two attempts -/

theorem Clears.attempt {σ : Type} {work : Work Unit} (h : site.Clears work)
    (w : Surroundings Interface.host σ) (u : σ) : site.Attempt (work.runIn w u).exchanges :=
  ⟨work, _, _, h, Procedure.path_runIn w work u, List.prefix_rfl⟩

/-- A target that keeps its old data. -/
def keepingOld : Site := { backupOldDatadir := true }

/-- A host where one line fails and the others do not. -/
def failingAt (line : Line) : Surroundings Interface.host Unit :=
  .stateless (HostRequest.answerBy fun l =>
    if l = line then .error (.failed line.text (some 1) "") else .ok ())

/-- A host where all commands succeed. -/
def fineHost : Surroundings Interface.host Unit :=
  .stateless (HostRequest.answerBy fun _ => .ok ())

/-- The Prepare of a target. -/
def prepareTarget : Work Unit := (Xtrabackup.method keepingOld {}).prepare .target

/-- There is data in the data directory, and nothing elsewhere. -/
def dataInPlace : Disk String String :=
  fun path => if path = keepingOld.mysql.datadir then some ["ibdata1"] else none

/-- Where the first attempt cannot move the data, the second does, and the data is kept aside. -/
theorem oldData_kept_until_removed_retried :
    let first := (prepareTarget.runIn (failingAt keepingOld.moveLine) ()).exchanges
    let second := (prepareTarget.runIn fineHost ()).exchanges
    ∃ disk, dataInPlace.afterAll? id ([first, second].flatMap effects) = some disk ∧
      keepingOld.Kept id ["ibdata1"] disk := by
  intro first second
  have begun : ∀ run ∈ [first, second], keepingOld.Attempt run :=
    List.forall_mem_cons.2 ⟨Clears.attempt (.xtrabackup {}) _ _,
      List.forall_mem_singleton.2 (Clears.attempt (.xtrabackup {}) _ _)⟩
  have keeps : keepingOld.backupOldDatadir = true := rfl
  have apart : id keepingOld.asidePath ≠ id keepingOld.mysql.datadir := by decide +kernel
  obtain ⟨disk, reached⟩ : ∃ disk,
      dataInPlace.afterAll? id ([first, second].flatMap effects) = some disk :=
    Option.isSome_iff_exists.1 (by decide +kernel)
  have found : dataInPlace (id keepingOld.mysql.datadir) = some ["ibdata1"] := if_pos rfl
  have unmoved : ¬ keepingOld.Moves (effects first) := by
    unfold Moves
    decide +kernel
  obtain ⟨kept, -⟩ := oldData_kept_until_removed keeps apart found begun reached
  exact ⟨disk, reached, kept (List.pairwise_pair.2 fun both => unmoved both.1)⟩

/-- Where the first attempt has moved the data and then fails, the second succeeds, and the data is
lost. -/
theorem exists_oldData_lost :
    let first := prepareTarget.runIn (failingAt keepingOld.chownLine) ()
    let second := prepareTarget.runIn fineHost ()
    keepingOld.asidePath ≠ keepingOld.mysql.datadir ∧
    (∃ e, first.result = .error e) ∧ second.result = .ok () ∧
    ∃ disk, dataInPlace.afterAll? id ([first.exchanges, second.exchanges].flatMap effects) =
        some disk ∧
      disk keepingOld.mysql.datadir = some [] ∧ disk keepingOld.asidePath = some [] := by
  intro first second
  refine ⟨by decide, ⟨_, rfl⟩, rfl, ?_⟩
  have reached : (dataInPlace.afterAll? id
      ([first.exchanges, second.exchanges].flatMap effects)).map
        (fun disk => (disk keepingOld.mysql.datadir, disk keepingOld.asidePath)) =
      some (some [], some []) := by decide +kernel
  obtain ⟨disk, reached, same⟩ := Option.map_eq_some_iff.1 reached
  exact ⟨disk, reached, congrArg Prod.fst same, congrArg Prod.snd same⟩

end Site

end ReplicaSeed
