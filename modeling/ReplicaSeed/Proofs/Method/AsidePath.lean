import ReplicaSeed.Proofs.Method.OldData
import ReplicaSeed.Proofs.Text.FilePath

/-!
# The place of the old data

The place that a target moves its old data to is its data directory with another extension. That is
a place in the same directory, but not always one of its own: a data directory that has the
extension already is at the place itself, and two of them with the same stem share it. What is at
the place is removed before anything is moved there.

## Main statements

* `Site.Attempt.elsewhere`: an attempt leaves all other places as they are.
* `Site.aside_apart_iff`: when the place is one of its own, and what becomes of the data.
* `Site.exists_datadir_removed`: a data directory that is removed with its data.
-/

namespace ReplicaSeed.Site

open FilePath

section

variable {site : Site} {run : List (Exchange Interface.host)} {π α : Type} [DecidableEq π]
  {place : String → π} {disk disk' : Disk π α} {lines : List Line} {p : π}

/-- A command that keeps the old data leaves all other places as they are. -/
theorem elsewhere_of_mem_keeping {line : Line} (member : line ∈ site.keeping)
    (aside : p ≠ place site.asidePath) (datadir : p ≠ place site.mysql.datadir)
    (reached : disk.after? place line = some disk') : disk' p = disk p := by
  simp only [keeping, List.mem_cons, List.not_mem_nil, or_false] at member
  obtain rfl | rfl | rfl | rfl := member
  · obtain rfl : Function.update disk (place site.asidePath) none = disk' := by
      simpa using reached
    exact Function.update_of_ne aside ..
  · rw [after?_move] at reached
    split at reached
    · obtain rfl := Option.some.inj reached
      rw [Function.update_of_ne datadir, Function.update_of_ne aside]
    · cases reached
  · rw [Disk.after?_make] at reached
    obtain rfl := Option.some.inj reached
    split
    · rfl
    · exact Function.update_of_ne datadir ..
  · obtain rfl : disk = disk' := by simpa using reached
    rfl

theorem elsewhere_of_subset_keeping (among : lines ⊆ site.keeping)
    (aside : p ≠ place site.asidePath) (datadir : p ≠ place site.mysql.datadir)
    (reached : disk.afterAll? place lines = some disk') : disk' p = disk p := by
  induction lines generalizing disk with
  | nil =>
    obtain rfl := Option.some.inj reached
    rfl
  | cons line lines ih =>
    obtain ⟨first, among⟩ := List.cons_subset.1 among
    rw [Disk.afterAll?_cons] at reached
    obtain ⟨d, stepped, later⟩ := Option.bind_eq_some_iff.1 reached
    exact (ih among later).trans (elsewhere_of_mem_keeping first aside datadir stepped)

/-- An attempt leaves all places as they are but the data directory and the one aside. -/
theorem Attempt.elsewhere (h : site.Attempt run) (keeps : site.backupOldDatadir = true)
    (aside : p ≠ place site.asidePath) (datadir : p ≠ place site.mysql.datadir)
    (reached : disk.afterAll? place (effects run) = some disk') : disk' p = disk p := by
  obtain ⟨lines, begins, same, -⟩ := h.exists_begun keeps place disk
  exact elsewhere_of_subset_keeping begins.subset aside datadir (same ▸ reached)

/-- An attempt keeps the data if the place aside is one of its own. -/
theorem Attempt.kept (h : site.Attempt run) (keeps : site.backupOldDatadir = true)
    (apart : place site.asidePath ≠ place site.mysql.datadir)
    (reached : disk.afterAll? place (effects run) = some disk') {held : List α}
    (found : disk (place site.mysql.datadir) = some held) : site.Kept place held disk' := by
  cases h.left keeps apart reached with
  | same _ _ same => exact .inl (same ▸ found)
  | removed _ _ _ datadir => exact .inl (datadir.trans found)
  | moved _ _ found' aside _ =>
    obtain rfl := Option.some.inj (found.symm.trans found')
    exact .inr aside

/-- Where the place aside is the data directory, what is removed is the data. -/
theorem Attempt.gone (h : site.Attempt run) (keeps : site.backupOldDatadir = true)
    (shared : place site.asidePath = place site.mysql.datadir)
    (removes : site.Removes (effects run))
    (reached : disk.afterAll? place (effects run) = some disk') :
    disk' (place site.mysql.datadir) = none := by
  obtain ⟨lines, begins, same, removed, -⟩ := h.exists_begun keeps place disk
  rw [same] at reached
  obtain rfl | ⟨rest, rfl, moving⟩ := List.prefix_cons_iff.1 begins
  · cases removed.1 removes
  rw [Disk.afterAll?_cons, Disk.after?_remove, Option.bind_some, shared] at reached
  obtain rfl | ⟨rest, rfl, -⟩ := List.prefix_cons_iff.1 moving
  · obtain rfl := Option.some.inj reached
    exact Function.update_self ..
  · -- there is nothing left to be moved
    rw [Disk.afterAll?_cons, after?_move, Function.update_self] at reached
    cases reached

end

/-- The place aside is always in the same directory. It is the data directory itself exactly if that
has the extension already, and it is shared with a neighbour exactly if both names have the same
stem. A name of two dots and an extension is lost with the extension; such names share the two dots.
An attempt changes nothing elsewhere. It keeps the data if the place aside is one of its own, and
removes it otherwise. -/
theorem aside_apart_iff (site : Site) (named : (fileName? site.mysql.datadir).isSome) :
    parent? site.asidePath = parent? site.mysql.datadir ∧
    (place site.asidePath = place site.mysql.datadir ↔
      extension? site.mysql.datadir = some "seed-old" ∧ ¬ EndsDotted site.mysql.datadir) ∧
    (∀ other : Site, (fileName? other.mysql.datadir).isSome →
      (parent? site.mysql.datadir).map place = (parent? other.mysql.datadir).map place →
      (place site.asidePath = place other.asidePath ↔
        stem? site.mysql.datadir = stem? other.mysql.datadir ∧
          (EndsDotted site.mysql.datadir ↔ EndsDotted other.mysql.datadir))) ∧
    ∀ {α : Type} {run : List (Exchange Interface.host)} {disk disk' : Disk Place α},
      site.backupOldDatadir = true → site.Attempt run →
      disk.afterAll? place (effects run) = some disk' →
      (∀ p, p ≠ place site.asidePath → p ≠ place site.mysql.datadir → disk' p = disk p) ∧
      (place site.asidePath ≠ place site.mysql.datadir →
        ∀ held, disk (place site.mysql.datadir) = some held → site.Kept place held disk') ∧
      (place site.asidePath = place site.mysql.datadir → site.Removes (effects run) →
        disk' (place site.mysql.datadir) = none) := by
  have plain : '/' ∉ "seed-old".toList := by decide
  have free : '.' ∉ "seed-old".toList := by decide
  have some_ : "seed-old" ≠ "" := by decide
  refine ⟨parent?_withExtension named plain, place_withExtension_eq_iff named plain free, ?_, ?_⟩
  · intro other named' siblings
    exact place_withExtension_congr_iff named named' plain some_ siblings
  · intro α run disk disk' keeps attempt reached
    exact ⟨fun p aside datadir => attempt.elsewhere keeps aside datadir reached,
      fun apart held found => attempt.kept keeps apart reached found,
      fun shared removes => attempt.gone keeps shared removes reached⟩

/-! ## Data directories with and without an extension -/

/-- A target that keeps its old data, with its data directory at a path. -/
def keepingAt (datadir : String) : Site := { keepingOld with mysql := { datadir } }

/-- There is data in the data directory, and nothing elsewhere. -/
def dataAt (datadir : String) : Disk Place String :=
  fun p => if p = place datadir then some ["ibdata1"] else none

/-- A data directory without an extension has a place aside that is not that of a neighbour, and its
data is there after a Prepare. -/
theorem aside_apart_iff_plain :
    let site := keepingAt "/data/mysql"
    let run := (((Xtrabackup.method site {}).prepare .target).runIn fineHost ()).exchanges
    place site.asidePath ≠ place site.mysql.datadir ∧
    place site.asidePath ≠ place (keepingAt "/data/my.sql/.").asidePath ∧
    ∃ disk, (dataAt site.mysql.datadir).afterAll? place (effects run) = some disk ∧
      site.Kept place ["ibdata1"] disk := by
  intro site run
  have named : (fileName? site.mysql.datadir).isSome := by decide +kernel
  obtain ⟨-, itself, others, attempts⟩ := aside_apart_iff site named
  have apart : place site.asidePath ≠ place site.mysql.datadir := by
    rw [ne_eq, itself, not_and_or]
    exact .inl (by decide +kernel)
  have alone : place site.asidePath ≠ place (keepingAt "/data/my.sql/.").asidePath := by
    have shared := others (keepingAt "/data/my.sql/.") (by decide +kernel) (by decide +kernel)
    rw [ne_eq, shared, not_and_or]
    exact .inl (by decide +kernel)
  obtain ⟨disk, reached⟩ : ∃ disk,
      (dataAt site.mysql.datadir).afterAll? place (effects run) = some disk :=
    Option.isSome_iff_exists.1 (by decide +kernel)
  have attempt : site.Attempt run := Clears.attempt (.xtrabackup {}) fineHost ()
  exact ⟨apart, alone, disk, reached, (attempts rfl attempt reached).2.1 apart _ (if_pos rfl)⟩

/-- A data directory with the extension of the place aside is removed before it can be moved. Two
data directories that differ in their extensions share the place aside. -/
theorem exists_datadir_removed :
    let site := keepingAt "/data/mysql.seed-old"
    let run := (((Xtrabackup.method site {}).prepare .target).runIn (failingAt site.moveLine)
      ()).exchanges
    site.asidePath = site.mysql.datadir ∧
    (∃ disk, (dataAt site.mysql.datadir).afterAll? place (effects run) = some disk ∧
      disk (place site.mysql.datadir) = none) ∧
    place "/data/mysql.1" ≠ place "/data/mysql.2" ∧
    (keepingAt "/data/mysql.1").asidePath = (keepingAt "/data/mysql.2").asidePath := by
  intro site run
  have removed : ((dataAt site.mysql.datadir).afterAll? place (effects run)).map
      (fun disk => disk (place site.mysql.datadir)) = some none := by decide +kernel
  obtain ⟨disk, reached, gone⟩ := Option.map_eq_some_iff.1 removed
  exact ⟨by decide +kernel, ⟨disk, reached, gone⟩, by decide +kernel, by decide +kernel⟩

end ReplicaSeed.Site
