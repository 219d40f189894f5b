import ReplicaSeed.Proofs.Method.SnapshotLock
import ReplicaSeed.Proofs.Method.Storage

/-!
# What is left of a snapshot

A Backup by snapshot makes a volume, mounts it and writes a file beside it. It can fail or be
stopped at each of its steps, and it can be asked for again and meet what the attempts before it
have left. Cleanup is to remove all of it, whatever it is, and can be stopped and asked for again as
well.

What makes this possible is that a volume is not made twice: so it is mounted at most once, and what
is mounted is there.

## Main definitions

* `Tools.Bare`: nothing is left of a snapshot.
* `Tools.AtMostSnapshot`: nothing is mounted but the snapshot, once.
* `Lvm.Attempt`: an attempt of a source to perform a stage, as far as it has come.

## Main statements

* `Lvm.ensures_snapshot`: a snapshot that was taken is not mounted.
* `Lvm.ensures_backup`, `Lvm.ensures_cleanup`: what the stages keep at each of their steps.
* `Lvm.cleanup_releases`: whatever attempts have left, Cleanup removes it.
-/

namespace ReplicaSeed

open Command

variable {π δ : Type}

namespace Tools

variable (t : Tools π δ) (site : Site) (config : Config.Lvm) (s : Storage π δ)

/-- Where the snapshot is mounted. -/
abbrev mountPoint : π := t.place config.snapshotMountPoint

/-- The volume of the snapshot. -/
abbrev snapshotVolume : δ := t.device (Lvm.snapshotDevice config)

/-- Nothing is left of a snapshot: no mount, no volume and no coordinates. -/
structure Bare : Prop where
  mounts : s.mounts (t.mountPoint config) = []
  volume : s.volumes (t.snapshotVolume config) = false
  sidecar : s.files (t.place (Lvm.sidecarFile site)) = false

/-- Nothing is mounted but the snapshot, once; and then there is one. -/
def AtMostSnapshot : Prop :=
  s.mounts (t.mountPoint config) = [] ∨
    s.mounts (t.mountPoint config) = [t.snapshotVolume config] ∧
      s.volumes (t.snapshotVolume config) = true

/-- There is a snapshot that is not mounted. -/
structure Fresh : Prop where
  mounts : s.mounts (t.mountPoint config) = []
  volume : s.volumes (t.snapshotVolume config) = true

variable {t config s}

theorem AtMostSnapshot.unmounted (h : t.AtMostSnapshot config s)
    (absent : s.volumes (t.snapshotVolume config) = false) :
    s.mounts (t.mountPoint config) = [] := by
  obtain unmounted | ⟨-, present⟩ := h
  · exact unmounted
  · simp [present] at absent

end Tools

/-! ## What the lines do -/

namespace Lvm

variable (t : Tools π δ) (site : Site) (config : Config.Lvm) (s : Storage π δ)

/-- The line that takes the snapshot off its mount point. -/
def unmountLine : Template := .single ["umount", .value config.snapshotMountPoint]

/-- The line that removes the snapshot. -/
def discardLine : Template := .single ["lvremove", "--force", .value (snapshotDevice config)]

/-- The second half of a Cleanup: the volume is removed if there is one, and the coordinates are. -/
def removal : Work Unit := do
  if ← site.succeeds (presentLine config) then
    Work.note "Removing snapshot"
    site.exec (discardLine config)
  site.removePath (sidecarFile site)

theorem cleanup_source :
    cleanup site config .source = (do
      if ← site.succeeds (mountedLine config) then
        Work.note "Unmounting snapshot"
        site.exec (unmountLine config)
      removal site config) := rfl

theorem finds?_mountedLine :
    t.finds? s (mountedLine config) = some !(s.mounts (t.mountPoint config)).isEmpty := by
  unfold Tools.finds? mountedLine
  rw [Line.words?_built rfl (Template.commandLine_single _)]
  simp

theorem finds?_presentLine :
    t.finds? s (presentLine config) = some (s.volumes (t.snapshotVolume config)) := by
  unfold Tools.finds? presentLine
  rw [Line.words?_built rfl (Template.commandLine_single _)]
  simp

theorem words?_removeLine (path : String) :
    (Site.removeLine path : Line).words? = some ["rm", "-rf", path] :=
  Line.words?_built rfl (Site.commandLine_removeLine path)

/-- What is sent goes through a pipeline. -/
theorem words?_sendLine (host : String) : (sendLine site config host : Line).words? = none := by
  have parsed := (sendLine site config host).parse_text
    ((sendLine site config host).wellFormed_of_isPlain (isPlain_sendLine site config host))
  simp only [Line.words?, Line.text, parsed]
  rfl

variable [DecidableEq π] [DecidableEq δ]

theorem after?_createLine (builtIn : config.createSnapshotCommand = "") :
    t.after? s (createLine config) =
      if s.volumes (t.snapshot config.snapshotName config.logicalVolume) then none
      else some (s.addVolume (t.snapshot config.snapshotName config.logicalVolume)) := by
  simp only [Tools.after?, createLine, if_pos builtIn]
  rw [Line.words?_built rfl (Template.commandLine_single _)]
  simp [Tools.tool?]

theorem after?_mountLine :
    t.after? s (mountLine config) =
      t.mount s (snapshotDevice config) config.snapshotMountPoint := by
  unfold Tools.after? mountLine
  by_cases plain : config.mountOptions = ""
  all_goals
    simp only [plain, if_true, if_false]
    rw [Line.words?_built rfl (Template.commandLine_single _)]
    simp [Tools.tool?]

theorem after?_unmountLine :
    t.after? s (unmountLine config) =
      if (s.mounts (t.mountPoint config)).isEmpty then none
      else some (s.setMounts (t.mountPoint config) (s.mounts (t.mountPoint config)).tail) := by
  unfold Tools.after? unmountLine
  rw [Line.words?_built rfl (Template.commandLine_single _)]
  simp [Tools.tool?]

theorem after?_discardLine :
    t.after? s (discardLine config) =
      if s.volumes (t.snapshotVolume config) then some (s.removeVolume (t.snapshotVolume config))
      else none := by
  unfold Tools.after? discardLine
  rw [Line.words?_built rfl (Template.commandLine_single _)]
  simp [Tools.tool?]

theorem after?_removeLine (path : String) :
    t.after? s (Site.removeLine path) = some (s.removeFile (t.place path)) := by
  simp [Tools.after?, words?_removeLine, Tools.tool?]

theorem after?_sendLine (host : String) : t.after? s (sendLine site config host) = some s := by
  simp [Tools.after?, words?_sendLine]

end Lvm

/-! ## What the stages keep -/

namespace Lvm

variable [DecidableEq π] [DecidableEq δ] {t : Tools π δ} {site : Site} {config : Config.Lvm}
  {s : Storage π δ}

/-- A snapshot is taken only where there is none. -/
theorem fresh_of_created (builtIn : config.createSnapshotCommand = "")
    (names : t.snapshot config.snapshotName config.logicalVolume = t.snapshotVolume config)
    (h : t.AtMostSnapshot config s) : ∀ s' ∈ t.after? s (createLine config), t.Fresh config s' := by
  intro s' created
  rw [after?_createLine t config s builtIn, names] at created
  split at created
  · cases created
  · rename_i absent
    obtain rfl := Option.some.inj created
    exact ⟨h.unmounted (by simpa using absent), by simp [Storage.addVolume]⟩

/-- What is mounted is there. -/
theorem atMostSnapshot_of_mounted (h : t.Fresh config s) :
    ∀ s' ∈ t.after? s (mountLine config), t.AtMostSnapshot config s' := by
  intro s' mounted
  rw [after?_mountLine, Tools.mount, if_pos h.volume] at mounted
  obtain rfl := Option.some.inj mounted
  exact .inr ⟨by simp [Storage.setMounts, h.mounts], h.volume⟩

/-- The snapshot is there if it was taken without a failure. -/
theorem ensures_create (builtIn : config.createSnapshotCommand = "")
    (names : t.snapshot config.snapshotName config.logicalVolume = t.snapshotVolume config)
    (h : t.AtMostSnapshot config s) :
    (site.exec (createLine config)).Ensures t.behaviour (t.AtMostSnapshot config)
      (fun r s' => r = .ok () → t.Fresh config s') s := by
  have fresh := fresh_of_created builtIn names h
  refine (Site.ensures_exec _ h fun s' created => .inl (fresh s' created).mounts).mono ?_
  rintro r s' - (⟨failed, -⟩ | created) ok
  · exact absurd ok failed
  · exact fresh s' created

/-- A snapshot that was taken is not mounted: an earlier attempt cannot have mounted it, for then it
would have been there already. -/
theorem ensures_snapshot (builtIn : config.createSnapshotCommand = "")
    (names : t.snapshot config.snapshotName config.logicalVolume = t.snapshotVolume config)
    (h : t.AtMostSnapshot config s) :
    (snapshot site config).Ensures t.behaviour (t.AtMostSnapshot config)
      (fun r s' => r = .ok () → t.Fresh config s') s := by
  unfold snapshot
  refine (Work.ensures_database .lock h).bind (fun c s₁ h _ => ?_)
    fun _ _ _ _ ok => absurd ok (by simp)
  have under := (Work.ensures_writeFile (t := t) (sidecarFile site) (Sidecar.text c) h h).bind
    (f := fun _ => do
      Work.note ("Creating snapshot " ++ config.snapshotName)
      site.exec (createLine config))
    (R := fun r s' => r = .ok () → t.Fresh config s')
    (fun _ s₂ h _ => (Work.ensures_note _ h).bind
      (fun _ s₃ h _ => ensures_create builtIn names h) fun _ _ _ _ ok => absurd ok (by simp))
    fun _ _ _ _ ok => absurd ok (by simp)
  refine under.attempt.bind (fun created s₂ h tried => ?_) fun _ _ _ _ ok => absurd ok (by simp)
  refine (Work.ensures_database .unlock h).attempt.bind (fun released s₃ h unlocked => ?_)
    fun _ _ _ _ ok => absurd ok (by simp)
  obtain ⟨_, same, fresh⟩ := tried
  obtain rfl := Except.ok.inj same
  obtain ⟨_, _, rfl⟩ := unlocked
  refine (Procedure.Ensures.ofExcept (Q := fun r s' => r = created ∧ s' = s₃) h ⟨rfl, rfl⟩).bind
    (fun _ s₄ h passed => ?_) fun _ _ _ _ ok => absurd ok (by simp)
  obtain ⟨ok, rfl⟩ := passed
  exact Procedure.Ensures.ofExcept h fun _ => fresh ok.symm

theorem ensures_backup (builtIn : config.createSnapshotCommand = "")
    (names : t.snapshot config.snapshotName config.logicalVolume = t.snapshotVolume config)
    (host : String) (port : UInt16) (h : t.AtMostSnapshot config s) :
    (backup site config ⟨.source, host, port⟩).Ensures t.behaviour (t.AtMostSnapshot config)
      (fun _ _ => True) s := by
  refine (ensures_snapshot builtIn names h).bind (fun _ s₁ h fresh => ?_) fun _ _ _ _ => trivial
  refine (Work.ensures_note _ h).bind (fun _ s₂ h noted => ?_) fun _ _ _ _ => trivial
  obtain rfl := noted.2
  have mounted := atMostSnapshot_of_mounted (fresh rfl)
  refine (Site.ensures_exec _ h mounted).bind (fun _ s₃ h _ => ?_) fun _ _ _ _ => trivial
  refine (Work.ensures_note _ h).bind (fun _ s₄ h _ => ?_) fun _ _ _ _ => trivial
  refine (Site.ensures_exec _ h fun s' sent => ?_).mono fun _ _ _ _ => trivial
  rw [after?_sendLine] at sent
  exact Option.some.inj sent ▸ h

/-- What is removed is not mounted any more. -/
theorem ensures_removal (h : t.AtMostSnapshot config s)
    (unmounted : s.mounts (t.mountPoint config) = []) :
    (removal site config).Ensures t.behaviour (t.AtMostSnapshot config)
      (fun r s' => r = .ok () → t.Bare site config s') s := by
  have removed : ∀ s, s.mounts (t.mountPoint config) = [] →
      s.volumes (t.snapshotVolume config) = false →
      (site.removePath (sidecarFile site)).Ensures t.behaviour (t.AtMostSnapshot config)
        (fun r s' => r = .ok () → t.Bare site config s') s := by
    intro s unmounted absent
    have bare : ∀ s' ∈ t.after? s (Site.removeLine (sidecarFile site)), t.Bare site config s' := by
      intro s' gone
      rw [after?_removeLine] at gone
      obtain rfl := Option.some.inj gone
      exact ⟨unmounted, absent, by simp [Storage.removeFile]⟩
    refine (Site.ensures_exec _ (.inl unmounted) fun s' gone => .inl (bare s' gone).mounts).mono ?_
    rintro r s' - (⟨failed, -⟩ | gone) ok
    · exact absurd ok failed
    · exact bare s' gone
  refine (Site.ensures_succeeds h (finds?_presentLine t config s)).bind
    (fun found s₁ h ⟨told, same⟩ => ?_) fun _ _ _ ⟨told, _⟩ => nomatch told
  obtain rfl := same
  obtain rfl := Except.ok.inj told
  cases present : s₁.volumes (t.snapshotVolume config) with
  | false => exact removed s₁ unmounted present
  | true =>
    refine (Work.ensures_note _ h).bind (fun _ s₂ h ⟨_, same⟩ => ?_)
      fun _ _ _ ⟨told, _⟩ => nomatch told
    obtain rfl := same
    have discarded : ∀ s' ∈ t.after? s₂ (discardLine config),
        s'.mounts (t.mountPoint config) = [] ∧ s'.volumes (t.snapshotVolume config) = false := by
      intro s' gone
      rw [after?_discardLine, if_pos present] at gone
      obtain rfl := Option.some.inj gone
      exact ⟨unmounted, by simp [Storage.removeVolume]⟩
    refine (Site.ensures_exec _ h fun s' gone => .inl (discarded s' gone).1).bind ?_ ?_
    · rintro _ s₃ h (⟨failed, -⟩ | gone)
      · exact absurd rfl failed
      · exact removed s₃ (discarded s₃ gone).1 (discarded s₃ gone).2
    · exact fun _ _ _ _ => nofun

theorem ensures_cleanup (h : t.AtMostSnapshot config s) :
    (cleanup site config .source).Ensures t.behaviour (t.AtMostSnapshot config)
      (fun r s' => r = .ok () → t.Bare site config s') s := by
  refine (Site.ensures_succeeds h (finds?_mountedLine t config s)).bind
    (fun found s₁ h ⟨told, same⟩ => ?_) fun _ _ _ ⟨told, _⟩ => nomatch told
  obtain rfl := same
  obtain rfl := Except.ok.inj told
  obtain unmounted | ⟨mounted, present⟩ := h
  · simp only [unmounted, List.isEmpty_nil, Bool.not_true]
    exact ensures_removal (.inl unmounted) unmounted
  · simp only [mounted, List.isEmpty_cons, Bool.not_false]
    refine (Work.ensures_note _ (.inr ⟨mounted, present⟩)).bind (fun _ s₂ h ⟨_, same⟩ => ?_)
      fun _ _ _ ⟨told, _⟩ => nomatch told
    obtain rfl := same
    have unmounted : ∀ s' ∈ t.after? s₂ (unmountLine config),
        s'.mounts (t.mountPoint config) = [] := by
      intro s' gone
      rw [after?_unmountLine, mounted] at gone
      obtain rfl := Option.some.inj gone
      simp [Storage.setMounts]
    refine (Site.ensures_exec _ h fun s' gone => .inl (unmounted s' gone)).bind ?_ ?_
    · rintro _ s₃ h (⟨failed, -⟩ | gone)
      · exact absurd rfl failed
      · exact ensures_removal h (unmounted s₃ gone)
    · exact fun _ _ _ _ => nofun

/-! ## Attempts -/

section

variable {exchanges run : List (Exchange Interface.host)} {result : Except MethodError Unit}
  {runs : List (List (Exchange Interface.host))}

/-- Every command of the stage has succeeded. -/
def CommandsSucceed (exchanges : List (Exchange Interface.host)) : Prop :=
  ∀ x ∈ exchanges, ∀ line ∈ x.asked.command?, x.failure? = none

/-- The work fails exactly if one of its commands does. -/
def FailsByCommands {α : Type} (work : Work α) : Prop :=
  ∀ exchanges result, work.Path exchanges result →
    ((∃ a, result = .ok a) ↔ CommandsSucceed exchanges)

namespace FailsByCommands

variable {α β : Type} {work : Work α} {f : α → Work β}

theorem note (text : String) : FailsByCommands (Work.note text) := by
  intro exchanges result path
  obtain ⟨answer, rest, rfl, after⟩ := Procedure.path_ask_iff.1 path
  obtain ⟨rfl, rfl⟩ := Procedure.path_done_iff.1 after
  simpa [CommandsSucceed, Exchange.asked, HostRequest.command?] using ⟨answer, rfl⟩

theorem exec (line : Line) : FailsByCommands (site.exec line) := by
  intro exchanges result path
  obtain ⟨answer, rfl, rfl⟩ := Site.path_exec path
  cases answer <;>
    simp [CommandsSucceed, HostRequest.command?, Exchange.failure?, Site.ran, Exchange.asked,
      HostRequest.failure?, Except.mapError]

theorem succeeds (line : Line) : FailsByCommands (site.succeeds line) := by
  intro exchanges result path
  obtain ⟨answer, rest, rfl, after⟩ := Procedure.path_ask_iff.1 path
  cases answer <;> obtain ⟨rfl, rfl⟩ := Procedure.path_done_iff.1 after <;>
    simp [CommandsSucceed, Exchange.asked, HostRequest.command?]

theorem bind (first : FailsByCommands work) (rest : ∀ a, FailsByCommands (f a)) :
    FailsByCommands (work >>= f) := by
  intro exchanges result path
  obtain ⟨e, failed, rfl⟩ | ⟨a, before, after, rfl, ended, more⟩ := Procedure.path_bind_iff.1 path
  · simpa using first _ _ failed
  · have done := (first _ _ ended).1 ⟨a, rfl⟩
    rw [rest a _ _ more]
    exact ⟨fun succeed => List.forall_mem_append.2 ⟨done, succeed⟩,
      fun succeed => (List.forall_mem_append.1 succeed).2⟩

end FailsByCommands

/-- A Cleanup fails exactly if one of its commands does, whatever its looks for a snapshot tell. -/
theorem failsByCommands_cleanup : FailsByCommands (cleanup site config .source) := by
  have removed : FailsByCommands (removal site config) := by
    refine .bind (.succeeds _) fun found => ?_
    cases found with
    | false => exact .exec _
    | true => exact .bind (.note _) fun _ => .bind (.exec _) fun _ => .exec _
  rw [cleanup_source]
  refine .bind (.succeeds _) fun found => ?_
  cases found with
  | false => exact removed
  | true => exact .bind (.note _) fun _ => .bind (.exec _) fun _ => removed

/-- Where there is nothing of a snapshot, nothing is run but the removal of the coordinates. -/
theorem commands_of_cleanup_bare (unmounted : s.mounts (t.mountPoint config) = [])
    (absent : s.volumes (t.snapshotVolume config) = false)
    (path : (cleanup site config .source).Path exchanges result) {s' : Storage π δ}
    (leads : t.behaviour.Leads s exchanges s') :
    ∀ x ∈ exchanges, ∀ line ∈ x.asked.command?,
      line.words? = some ["rm", "-rf", sidecarFile site] := by
  obtain ⟨answer, rest, rfl, after⟩ := Site.path_succeeds_bind (mountedLine config) path
  obtain ⟨s₁, ⟨same, tells⟩, leads₁⟩ := Behaviour.leads_cons_iff.1 leads
  obtain rfl : s₁ = s := same
  have mounted : answer.isOk = false := by
    simpa [unmounted] using tells _ (finds?_mountedLine t config s₁)
  simp only [mounted, Bool.false_eq_true, if_false] at after
  obtain ⟨answer', rest', rfl, last⟩ := Site.path_succeeds_bind (presentLine config) after
  obtain ⟨s₂, ⟨-, tells'⟩, -⟩ := Behaviour.leads_cons_iff.1 leads₁
  have present : answer'.isOk = false := by
    simpa [absent] using tells' _ (finds?_presentLine t config s₁)
  simp only [present, Bool.false_eq_true, if_false] at last
  obtain ⟨removed, rfl, rfl⟩ := Site.path_exec last
  simp [Exchange.asked, HostRequest.command?, Site.ran, words?_removeLine]

/-- What a source does about a snapshot, and may be stopped at and asked for again. -/
inductive Stage (site : Site) (config : Config.Lvm) : Work Unit → Prop
  | backup (host : String) (port : UInt16) :
    Stage site config (backup site config ⟨.source, host, port⟩)
  | cleanup : Stage site config (cleanup site config .source)

/-- The exchanges of an attempt at such a stage, which may be stopped before any of its steps. -/
def Attempt (site : Site) (config : Config.Lvm) (run : List (Exchange Interface.host)) : Prop :=
  ∃ work exchanges result, Stage site config work ∧ work.Path exchanges result ∧ run <+: exchanges

theorem Attempt.keeps (builtIn : config.createSnapshotCommand = "")
    (names : t.snapshot config.snapshotName config.logicalVolume = t.snapshotVolume config)
    (attempt : Attempt site config run) (h : t.AtMostSnapshot config s) {s' : Storage π δ}
    (leads : t.behaviour.Leads s run s') : t.AtMostSnapshot config s' := by
  obtain ⟨work, exchanges, result, stage, path, stopped⟩ := attempt
  cases stage with
  | backup host port => exact (ensures_backup builtIn names host port h).on_way path stopped leads
  | cleanup => exact (ensures_cleanup h).on_way path stopped leads

theorem result_removal (s : Storage π δ) :
    ((removal site config).runIn (t.host fun _ => none) s).result = .ok () := by
  have removed : ∀ s, ((site.removePath (sidecarFile site)).runIn (t.host fun _ => none) s).result =
      .ok () := fun s => Site.result_exec (after?_removeLine t s (sidecarFile site))
  refine (Site.result_succeeds_bind _ (finds?_presentLine t config s)).trans ?_
  cases present : s.volumes (t.snapshotVolume config) with
  | false => exact removed s
  | true =>
    have discarded : t.after? s (discardLine config) =
        some (s.removeVolume (t.snapshotVolume config)) := by
      rw [after?_discardLine, if_pos present]
    exact (Work.result_note_bind _ _).trans ((Site.result_exec_bind _ discarded).trans (removed _))

/-- Where the tools do their work, a Cleanup succeeds. -/
theorem result_cleanup (s : Storage π δ) :
    ((cleanup site config .source).runIn (t.host fun _ => none) s).result = .ok () := by
  refine (Site.result_succeeds_bind _ (finds?_mountedLine t config s)).trans ?_
  cases unmounted : (s.mounts (t.mountPoint config)).isEmpty with
  | true => exact result_removal s
  | false =>
    have taken : t.after? s (unmountLine config) =
        some (s.setMounts (t.mountPoint config) (s.mounts (t.mountPoint config)).tail) := by
      rw [after?_unmountLine, unmounted]
      rfl
    exact (Work.result_note_bind _ _).trans
      ((Site.result_exec_bind _ taken).trans (result_removal _))

/-- Whatever attempts of a source have left of its snapshots, a Cleanup removes all of it if its
commands succeed, and it can be asked for until they do. Where there is nothing, it leaves mounts
and volumes alone. -/
theorem cleanup_releases (builtIn : config.createSnapshotCommand = "")
    (names : t.snapshot config.snapshotName config.logicalVolume = t.snapshotVolume config)
    (bare : t.Bare site config s) (attempts : ∀ run ∈ runs, Attempt site config run)
    {s' : Storage π δ} (reached : t.behaviour.Leads s runs.flatten s') :
    (∀ exchanges result s'', (cleanup site config .source).Path exchanges result →
      t.behaviour.Leads s' exchanges s'' → CommandsSucceed exchanges →
        result = .ok () ∧ t.Bare site config s'') ∧
    (∃ exchanges s'', (cleanup site config .source).Path exchanges (.ok ()) ∧
      t.behaviour.Leads s' exchanges s'' ∧ CommandsSucceed exchanges) ∧
    (s'.mounts (t.mountPoint config) = [] → s'.volumes (t.snapshotVolume config) = false →
      ∀ exchanges result s'', (cleanup site config .source).Path exchanges result →
        t.behaviour.Leads s' exchanges s'' → ∀ x ∈ exchanges, ∀ line ∈ x.asked.command?,
          line.words? = some ["rm", "-rf", sidecarFile site]) := by
  have kept : t.AtMostSnapshot config s' :=
    Behaviour.keeps_flatten (fun run member _ _ h leads =>
      (attempts run member).keeps builtIn names h leads) (.inl bare.mounts) reached
  refine ⟨fun exchanges result s'' path leads succeed => ?_, ?_,
    fun unmounted absent exchanges result s'' path leads =>
      commands_of_cleanup_bare unmounted absent path leads⟩
  · obtain ⟨⟨⟩, rfl⟩ := (failsByCommands_cleanup exchanges result path).2 succeed
    exact ⟨rfl, (ensures_cleanup kept).at_end path leads rfl⟩
  · have path := Procedure.path_runIn (t.host fun _ => none) (cleanup site config .source) s'
    rw [result_cleanup s'] at path
    exact ⟨_, _, path, Behaviour.leads_runIn (t.host_behaves _) _ _,
      (failsByCommands_cleanup _ _ path).1 ⟨(), rfl⟩⟩

end

/-! ## A source that is stopped three times -/

/-- Tools that take names as they are. -/
def plainTools : Tools String String where
  place := id
  device := id
  snapshot name volume := FilePath.join ((FilePath.parent? volume).getD "/dev") name

/-- A source with one volume and nothing else. -/
def oneVolume : Storage String String where
  mounts _ := []
  volumes d := d = "/dev/vg0/mysql"
  files _ := false

/-- The command `line` is stopped. -/
def stoppedAt (line : Line) (l : Line) : Option ExecError :=
  if l = line then some (.cancelled l.text) else none

/-- A Backup is stopped while it sends, a second one meets the snapshot of the first, and a Cleanup
is stopped before it has removed the volume. The next Cleanup removes what is left. -/
theorem cleanup_releases_stopped :
    let config : Config.Lvm := { logicalVolume := "/dev/vg0/mysql" }
    let work := backup {} config ⟨.source, "db-target", 3306⟩
    let sending :=
      work.runIn (plainTools.host (stoppedAt (sendLine {} config "db-target"))) oneVolume
    let again := work.runIn (plainTools.host fun _ => none) sending.final
    let removing := (cleanup {} config .source).runIn
      (plainTools.host (stoppedAt (discardLine config))) again.final
    let last := (cleanup {} config .source).runIn (plainTools.host fun _ => none) removing.final
    plainTools.Bare {} config oneVolume ∧ last.result = .ok () ∧
      plainTools.Bare {} config last.final := by
  intro config work sending again removing last
  have bare : plainTools.Bare {} config oneVolume := ⟨rfl, by decide, rfl⟩
  have attempts : ∀ run ∈ [sending.exchanges, again.exchanges, removing.exchanges],
      Attempt {} config run := by
    simp only [List.forall_mem_cons]
    refine ⟨⟨_, _, _, .backup _ _, Procedure.path_runIn .., List.prefix_rfl⟩,
      ⟨_, _, _, .backup _ _, Procedure.path_runIn .., List.prefix_rfl⟩,
      ⟨_, _, _, .cleanup, Procedure.path_runIn .., List.prefix_rfl⟩, nofun⟩
  have reached : plainTools.behaviour.Leads oneVolume
      [sending.exchanges, again.exchanges, removing.exchanges].flatten removing.final := by
    refine Behaviour.leads_flatten_cons_iff.2 ⟨sending.final, ?_, ?_⟩
    · exact Behaviour.leads_runIn (plainTools.host_behaves _) work oneVolume
    refine Behaviour.leads_flatten_cons_iff.2 ⟨again.final, ?_, ?_⟩
    · exact Behaviour.leads_runIn (plainTools.host_behaves _) work sending.final
    refine Behaviour.leads_flatten_cons_iff.2 ⟨removing.final, ?_, .nil _⟩
    exact Behaviour.leads_runIn (plainTools.host_behaves _) _ again.final
  have path := Procedure.path_runIn (plainTools.host fun _ => none) (cleanup {} config .source)
    removing.final
  have succeed : CommandsSucceed last.exchanges :=
    (failsByCommands_cleanup _ _ path).1 ⟨(), result_cleanup _⟩
  exact ⟨bare, (cleanup_releases rfl rfl bare attempts reached).1 _ _ _ path
    (Behaviour.leads_runIn (plainTools.host_behaves _) _ _) succeed⟩

end Lvm

end ReplicaSeed
