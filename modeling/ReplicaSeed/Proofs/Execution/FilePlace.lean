import ReplicaSeed.Command.Line
import ReplicaSeed.Execution.FileTree
import ReplicaSeed.Proofs.Text.Search

/-!
# Places of files

How a change at one place of a tree is seen from paths. The way to a place goes over directories
only, so that what becomes of a file changes no way to any other place, and none to its own.

## Main definitions

* `FileTree.bytesAt`: the bytes of the file at a place.
* `FileTree.Writable`: a path leads to a place where a file is, or may be made.
* `Redirect.content`, `FileTree.received`: what a file becomes that receives an output.
* `FileTree.Alike`: trees that differ in one file at most.

## Main statements

* `FileTree.node?_put_self`, `FileTree.node?_put_of_ne`: what stands where after a change.
* `FileTree.locateNew_of_directories`: a path leads to the same place as long as its directories
  stay.
* `FileTree.update_eq_ok_iff`: what becomes of a tree in which a file is changed.
* `FileTree.read_of_file`: a file is read where it was written.
-/

namespace ReplicaSeed

open Command

theorem Text.getLast?_splitOn_ne {d : Char} {cs : List Char} (some_ : cs ≠ [])
    (open_ : cs.getLast? ≠ some d) : (splitOn d cs).getLast? ≠ some [] := by
  induction cs with
  | nil => exact absurd rfl some_
  | cons c cs ih =>
    by_cases more : cs = []
    · subst more
      have other : c ≠ d := by simpa using open_
      simp [splitOn, other]
    · have rest := ih more (by rwa [List.getLast?_cons_of_ne_nil more] at open_)
      have pieces : splitOn d cs ≠ [] := by simp [splitOn_eq, List.splitOn_ne_nil]
      rw [splitOn]
      split
      · rwa [List.getLast?_cons_of_ne_nil pieces]
      · split
        · simp
        · rename_i piece later cut
          rw [cut] at rest
          cases later with
          | nil => simp
          | cons => simpa [List.getLast?_cons_cons] using rest

namespace FileTree

variable {t u : FileTree} {place other : FilePlace} {node : FileNode} {dir : FilePlace}
  {path name : String}

/-! ## Places -/

@[simp] theorem node?_root : t.node? [] = some .directory := rfl

theorem node?_put_self (deep : place ≠ []) : (t.put place node).node? place = some node := by
  simp [node?, put, deep]

theorem node?_put_of_ne (apart : other ≠ place) :
    (t.put place node).node? other = t.node? other := by
  have filtered (nodes : List (FilePlace × FileNode)) :
      (nodes.filter fun n => n.1 != place).lookup other = nodes.lookup other := by
    induction nodes with
    | nil => rfl
    | cons n nodes ih =>
      obtain ⟨here, node⟩ := n
      by_cases same : here = place
      · simpa [same, List.lookup_cons, beq_false_of_ne apart] using ih
      · simp [same, List.lookup_cons, ih]
  simp [node?, put, List.lookup_cons, filtered, beq_false_of_ne apart]

theorem node?_put_of_eq (there : t.node? place = some node) (deep : place ≠ []) :
    (t.put place node).node? other = t.node? other := by
  by_cases here : other = place
  · rw [here, node?_put_self deep, there]
  · exact node?_put_of_ne here

/-- The bytes of the file at a place. -/
def bytesAt (t : FileTree) (place : FilePlace) : List UInt8 :=
  match t.node? place with
  | some (.file bytes) => bytes
  | _ => []

/-! ## The way to a place -/

theorem directory_of_step (stepped : t.step place name = .ok other) :
    t.node? place = some .directory := by
  unfold step at stepped
  split at stepped
  · cases stepped
  · cases stepped
  · assumption

theorem step_of_directory (stepped : t.step place name = .ok other)
    (kept : u.node? place = some .directory) : u.step place name = .ok other := by
  have there := directory_of_step stepped
  simp only [step, there] at stepped
  simpa only [step, kept] using stepped

/-- A walk over directories does not change as long as they stay. -/
theorem walk_of_directories
    (kept : ∀ place, t.node? place = some .directory → u.node? place = some .directory)
    {names : List String} (walked : names.foldlM t.step place = .ok other) :
    names.foldlM u.step place = .ok other := by
  induction names generalizing place with
  | nil => exact walked
  | cons name names ih =>
    rw [List.foldlM_cons] at walked ⊢
    cases stepped : t.step place name with
    | error fault => simp [stepped, bind, Except.bind] at walked
    | ok next =>
      rw [step_of_directory stepped (kept _ (directory_of_step stepped))]
      rw [stepped] at walked
      exact ih walked

/-- Where a file may be made: the last name of the path is one, and the others lead to a
directory. -/
theorem locateNew_eq_ok_iff : t.locateNew dir path = .ok place ↔
    checkPath path = .ok () ∧ ∃ name above,
      (names path).reverse.dropWhile (· == "") = name :: above ∧
      ¬(path.toList.getLast? = some '/' ∨ name = "." ∨ name = "..") ∧
      ∃ parent, above.reverse.foldlM t.step (origin dir path) = .ok parent ∧
        t.step parent name = .ok place := by
  unfold locateNew
  cases checkPath path with
  | error fault => simp [bind, Except.bind]
  | ok =>
    cases found : (names path).reverse.dropWhile (· == "") with
    | nil => simp [bind, Except.bind]
    | cons name above =>
      cases walked : above.reverse.foldlM t.step (origin dir path) with
      | error fault => simp [walked, bind, Except.bind, -List.foldlM_reverse]
      | ok parent =>
        cases stepped : t.step parent name with
        | error fault => simp [walked, stepped, bind, Except.bind, -List.foldlM_reverse]
        | ok next =>
          by_cases closed : path.toList.getLast? = some '/' ∨ name = "." ∨ name = ".."
          · simp [walked, stepped, closed, bind, Except.bind, -not_or, -List.foldlM_reverse]
          · simp [walked, stepped, closed, bind, Except.bind, -not_or, -List.foldlM_reverse]

theorem locateNew_of_directories
    (kept : ∀ place, t.node? place = some .directory → u.node? place = some .directory)
    (located : t.locateNew dir path = .ok place) : u.locateNew dir path = .ok place := by
  obtain ⟨good, name, above, last, open_, parent, walked, stepped⟩ := locateNew_eq_ok_iff.1 located
  exact locateNew_eq_ok_iff.2 ⟨good, name, above, last, open_, parent,
    walk_of_directories kept walked,
    step_of_directory stepped (kept _ (directory_of_step stepped))⟩

theorem ne_empty_of_checkPath (good : checkPath path = .ok ()) : path ≠ "" := by
  rintro rfl
  simp [checkPath] at good

theorem zero_not_mem_of_checkPath (good : checkPath path = .ok ()) : '\x00' ∉ path.toList := by
  intro zero
  simp [checkPath, zero] at good

/-- Where a file may be made under a path, it is found under that path. -/
theorem locate_of_locateNew (located : t.locateNew dir path = .ok place) :
    t.locate dir path = .ok place := by
  obtain ⟨good, name, above, last, open_, parent, walked, stepped⟩ := locateNew_eq_ok_iff.1 located
  have all : names path = above.reverse ++ [name] := by
    have ended : (names path).getLast? ≠ some "" := by
      intro empty
      refine Text.getLast?_splitOn_ne (d := '/') (by simpa using ne_empty_of_checkPath good)
        (fun slash => open_ (.inl slash)) ?_
      rw [names, List.getLast?_map, Option.map_eq_some_iff] at empty
      obtain ⟨piece, isLast, empty⟩ := empty
      rw [isLast, show piece = [] by simpa using congrArg String.toList empty]
    have whole : (names path).reverse = name :: above := by
      rw [← last]
      cases backwards : (names path).reverse with
      | nil => rfl
      | cons first rest =>
        have isLast : (names path).getLast? = some first := by
          rw [← List.head?_reverse, backwards, List.head?_cons]
        have named : first ≠ "" := fun empty => ended (empty ▸ isLast)
        simp [named]
    simpa using congrArg List.reverse whole
  simp [locate, good, all, walked, stepped, bind, Except.bind, pure, Except.pure,
    -List.foldlM_reverse]

/-! ## Files -/

/-- The path leads to the place, and a file is there or may be made there. -/
structure Writable (t : FileTree) (dir : FilePlace) (path : String) (place : FilePlace) : Prop where
  leads : t.locateNew dir path = .ok place
  free : t.node? place ≠ some .directory

theorem Writable.deep (writable : t.Writable dir path place) : place ≠ [] := by
  rintro rfl
  exact writable.free node?_root

/-- A file is changed if its path leads to a place that is no directory. -/
theorem update_eq_ok_iff {f : List UInt8 → List UInt8} : t.update dir path f = .ok u ↔
    ∃ place, t.Writable dir path place ∧ u = t.put place (.file (f (t.bytesAt place))) := by
  constructor
  · intro updated
    cases located : t.locateNew dir path with
    | error fault => simp [update, located, bind, Except.bind] at updated
    | ok place =>
      cases standing : t.node? place with
      | none =>
        simp [update, located, standing, bind, Except.bind] at updated
        exact ⟨place, ⟨located, by simp [standing]⟩, by simp [← updated, bytesAt, standing]⟩
      | some node =>
        cases node with
        | directory => simp [update, located, standing, bind, Except.bind] at updated
        | file bytes =>
          simp [update, located, standing, bind, Except.bind] at updated
          exact ⟨place, ⟨located, by simp [standing]⟩, by simp [← updated, bytesAt, standing]⟩
  · rintro ⟨place, ⟨located, free⟩, rfl⟩
    rcases standing : t.node? place with _ | (bytes | _)
    · simp [update, located, standing, bytesAt, bind, Except.bind]
    · simp [update, located, standing, bytesAt, bind, Except.bind]
    · exact absurd standing free

/-- A change of a file leaves the way to it as it is. -/
theorem Writable.put (writable : t.Writable dir path place) (bytes : List UInt8) :
    (t.put place (.file bytes)).Writable dir path place where
  leads := by
    refine locateNew_of_directories (fun place' directory => ?_) writable.leads
    rwa [node?_put_of_ne]
    rintro rfl
    exact writable.free directory
  free := by
    rw [node?_put_self writable.deep]
    simp

@[simp] theorem bytesAt_put_self (deep : place ≠ []) (bytes : List UInt8) :
    (t.put place (.file bytes)).bytesAt place = bytes := by
  simp [bytesAt, node?_put_self deep]

theorem bytesAt_of_file {bytes : List UInt8} (file : t.node? place = some (.file bytes)) :
    t.bytesAt place = bytes := by
  simp [bytesAt, file]

theorem bytesAt_congr (same : t.node? place = u.node? place) :
    t.bytesAt place = u.bytesAt place := by
  rw [bytesAt, same, bytesAt]

theorem read_of_file {bytes : List UInt8} (writable : t.Writable dir path place)
    (file : t.node? place = some (.file bytes)) : t.read dir path = .ok bytes := by
  simp [read, locate_of_locateNew writable.leads, content, file, bind, Except.bind]

theorem Writable.congr (same : ∀ other, t.node? other = u.node? other)
    (writable : t.Writable dir path place) : u.Writable dir path place where
  leads := locateNew_of_directories (fun other directory => same other ▸ directory) writable.leads
  free := same place ▸ writable.free

/-- What is read under a path that may be written to. -/
theorem Writable.read_eq (writable : t.Writable dir path place) :
    t.read dir path = t.content place := by
  simp [read, locate_of_locateNew writable.leads, bind, Except.bind]

theorem Writable.bytes_eq (writable : t.Writable dir path place) :
    (t.read dir path).toOption.getD [] = t.bytesAt place := by
  rw [writable.read_eq, content, bytesAt]
  rcases t.node? place with _ | (_ | _) <;> rfl

end FileTree

/-! ## Files that receive an output -/

/-- What becomes of the bytes of a file. -/
def Command.Redirect.content (r : Redirect) (old written : List UInt8) : List UInt8 :=
  (if r.append then old else []) ++ written

/-- A file that was opened gets the same by appending. -/
@[simp] theorem Command.Redirect.content_content (r : Redirect) (old written : List UInt8) :
    Redirect.content { r with append := true } (r.content old []) written =
      r.content old written := by
  simp [content]

namespace FileTree

/-- The tree where the file of a redirection has received bytes. The null device keeps none. -/
def received (t : FileTree) (dir : FilePlace) (r : Redirect) (bytes : List UInt8) :
    Except FileFault FileTree :=
  if r.path = "/dev/null" then .ok t else t.update dir r.path fun old => r.content old bytes

variable {t u : FileTree} {dir place : FilePlace} {path : String} {r : Redirect}
  {bytes : List UInt8}

theorem received_null (null : r.path = "/dev/null") : t.received dir r bytes = .ok t :=
  if_pos null

theorem received_eq_ok_iff (real : r.path ≠ "/dev/null") : t.received dir r bytes = .ok u ↔
    ∃ place, t.Writable dir r.path place ∧
      u = t.put place (.file (r.content (t.bytesAt place) bytes)) := by
  rw [received, if_neg real, update_eq_ok_iff]

theorem put_put (place : FilePlace) (node node' : FileNode) :
    (t.put place node).put place node' = t.put place node' := by
  simp [put]

theorem Writable.received (writable : t.Writable dir r.path place) (real : r.path ≠ "/dev/null")
    (bytes : List UInt8) : t.received dir r bytes =
      .ok (t.put place (.file (r.content (t.bytesAt place) bytes))) :=
  (received_eq_ok_iff real).2 ⟨place, writable, rfl⟩

theorem checkPath_of_received (received : t.received dir r bytes = .ok u) :
    checkPath r.path = .ok () := by
  by_cases null : r.path = "/dev/null"
  · rw [null]
    decide
  · obtain ⟨place, writable, -⟩ := (received_eq_ok_iff null).1 received
    exact (locateNew_eq_ok_iff.1 writable.leads).1

/-- A file that may receive some bytes may receive others. -/
theorem exists_received (received : t.received dir r bytes = .ok u) (bytes' : List UInt8) :
    ∃ u', t.received dir r bytes' = .ok u' := by
  by_cases null : r.path = "/dev/null"
  · exact ⟨t, received_null null⟩
  · obtain ⟨place, writable, -⟩ := (received_eq_ok_iff null).1 received
    exact ⟨_, writable.received null bytes'⟩

/-- What a file receives it may receive in two steps: it is opened, and filled. -/
theorem received_append (opened : t.received dir r [] = .ok u) (bytes : List UInt8) :
    u.received dir { r with append := true } bytes = t.received dir r bytes := by
  by_cases null : r.path = "/dev/null"
  · obtain rfl := Except.ok.inj ((received_null null).symm.trans opened)
    rw [received_null null]
    exact received_null null
  · obtain ⟨place, writable, rfl⟩ := (received_eq_ok_iff null).1 opened
    rw [writable.received null]
    have opened := writable.put (r.content (t.bytesAt place) [])
    rw [Writable.received (r := { r with append := true }) opened null, put_put,
      bytesAt_put_self writable.deep, Redirect.content_content]

/-- The trees have the place that a path leads to, and differ there at most. -/
structure Alike (dir : FilePlace) (path : String) (place : FilePlace) (t u : FileTree) : Prop where
  left : t.Writable dir path place
  right : u.Writable dir path place
  elsewhere (other : FilePlace) : other ≠ place → t.node? other = u.node? other

theorem Writable.alike_self (writable : t.Writable dir path place) : Alike dir path place t t :=
  ⟨writable, writable, fun _ _ => rfl⟩

/-- What the file receives makes no difference elsewhere. -/
theorem Writable.alike_put (writable : t.Writable dir path place) (bytes : List UInt8) :
    Alike dir path place t (t.put place (.file bytes)) where
  left := writable
  right := writable.put bytes
  elsewhere _ apart := (node?_put_of_ne apart).symm

/-- Trees that are alike are the same with the same file at the place. -/
theorem Alike.put (alike : Alike dir path place t u) (bytes : List UInt8) (other : FilePlace) :
    (t.put place (.file bytes)).node? other = (u.put place (.file bytes)).node? other := by
  by_cases here : other = place
  · rw [here, node?_put_self alike.left.deep, node?_put_self alike.right.deep]
  · rw [node?_put_of_ne here, node?_put_of_ne here, alike.elsewhere other here]

end FileTree

end ReplicaSeed
