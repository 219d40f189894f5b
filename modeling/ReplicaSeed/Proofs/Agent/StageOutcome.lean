import ReplicaSeed.Proofs.Agent.Performance
import ReplicaSeed.Proofs.Method.Plan

/-!
# How a stage ends

A stage performs the steps of its plan in their order and stops at the first one that fails; what
that step tells is what the record of the stage says in the end.

## Main definitions

* `Plan.failure?`, `Plan.Performed`: what failed first, or that all steps have succeeded.

## Main statements

* `Follows.any_isCancelled`: a command was cancelled exactly if this is what failed first.
* `Scene.open_of_begun`: the record of a dispatch that has just begun is open.
* `Config.Methods.stops_at_failure`: no failure is swallowed, and nothing runs past one.
-/

namespace ReplicaSeed

/-! ## Failures of a plan -/

namespace Plan

/-- What failed first in a stage. -/
def failure? (exchanges : List (Exchange Interface.host)) : Plan → Option MethodError
  | .error e => some e
  | .ok steps => firstFailure? steps exchanges

/-- All steps were performed, and have succeeded if they must. -/
def Performed (plan : Plan) (exchanges : List (Exchange Interface.host)) : Prop :=
  ∃ steps, plan = .ok steps ∧ List.Forall₂ PlannedStep.Passes steps exchanges

variable {plan : Plan} {exchanges : List (Exchange Interface.host)}
  {result : Except MethodError Unit}

theorem Followed.result_eq (h : plan.Followed exchanges result) :
    result = match plan.failure? exchanges with
      | some e => .error e
      | none => .ok () := by
  cases plan with
  | error e => exact h.2
  | ok steps => exact Follows.result_eq h

theorem Followed.ok_iff (h : plan.Followed exchanges result) :
    result = .ok () ↔ plan.Performed exchanges := by
  cases plan with
  | error e => simp [h.2, Performed]
  | ok steps => simpa [Performed] using Follows.ok_iff h

end Plan

/-! ## Commands that were cancelled -/

/-- Apart from a look whether something is there, an exchange is cancelled if its failure tells
so. -/
theorem Exchange.isCancelled_eq {x : Exchange Interface.host} (must : x.asked.isCapture = false) :
    x.isCancelled = x.failure?.any (·.isCancelled) := by
  obtain ⟨q, answer⟩ := x
  cases q with
  | capture => cases must
  | exec line elevate => cases answer <;> rfl
  | database call =>
    cases answer with
    | error e => rfl
    | ok a =>
      cases call with
      | pluginStatus plugin =>
        simp only [failure?, asked, HostRequest.failure?]
        split <;> rfl
      | _ => rfl
  | readFile path =>
    cases answer with
    | error fault => cases fault <;> rfl
    | ok bytes => rfl
  | writeFile path content => cases answer <;> rfl
  | _ => rfl

/-- The request runs a command of the stage. -/
def HostRequest.isCommand : HostRequest → Bool
  | exec .. => true
  | _ => false

theorem HostRequest.isCommand_of_isCapture {q : HostRequest} (h : q.isCapture = true) :
    q.isCommand = false := by
  cases q with
  | capture => rfl
  | _ => cases h

/-- Only a command of the stage can be cancelled. -/
theorem Exchange.isCancelled_of_not_command {x : Exchange Interface.host}
    (other : x.asked.isCommand = false) : x.isCancelled = false := by
  obtain ⟨q, answer⟩ := x
  cases q with
  | exec => cases other
  | _ => rfl

/-- Only a look whether something is there may fail, and no command undoes a step. -/
structure PlannedStep.Regular (step : PlannedStep) : Prop where
  probes : step.probes = step.request.isCapture
  undo : ∀ q ∈ step.undo, q.isCommand = false

theorem Config.Methods.regular_of_mem {methods : Config.Methods} {site : Site} {kind : Method}
    {side : Side} {request : StageRequest} {told : Told} {steps : List PlannedStep}
    (planned : methods.plan site kind side request told = .ok steps) :
    ∀ step ∈ steps, step.Regular := by
  intro step member
  obtain plain | ⟨-, -, must, command, undo⟩ | ⟨-, -, -, must, command, undo⟩ | ⟨-, -, rfl | rfl⟩ :=
    plain_or planned member
  · exact ⟨plain.2.1.trans plain.2.2.symm, by simp [plain.1]⟩
  · exact ⟨must.trans command.symm, by simp [undo, HostRequest.isCommand]⟩
  · exact ⟨must.trans command.symm, by simp [undo, HostRequest.isCommand]⟩
  · exact ⟨rfl, by simp [PlannedStep.look]⟩
  · exact ⟨rfl, by simp [PlannedStep.look]⟩

theorem Follows.any_isCancelled {steps : List PlannedStep}
    {exchanges : List (Exchange Interface.host)} {result : Except MethodError Unit}
    (h : Follows steps exchanges result) (regular : ∀ step ∈ steps, step.Regular) :
    exchanges.any Exchange.isCancelled = true ↔ ∃ e, result = .error e ∧ e.isCancelled = true := by
  have passing {before : List PlannedStep} {exchanges : List (Exchange Interface.host)}
      (passed : List.Forall₂ PlannedStep.Passes before exchanges) (sub : before ⊆ steps) :
      exchanges.any Exchange.isCancelled = false := by
    induction passed with
    | nil => rfl
    | @cons step x before exchanges passes _ ih =>
      obtain ⟨member, sub⟩ := List.cons_subset.1 sub
      rw [List.any_cons, ih sub, Bool.or_false]
      cases looks : x.asked.isCapture with
      | true => exact Exchange.isCancelled_of_not_command (HostRequest.isCommand_of_isCapture looks)
      | false =>
        have must : step.probes = false := by rw [(regular step member).probes, ← passes.1, looks]
        rw [Exchange.isCancelled_eq looks, passes.2.resolve_left (by simp [must]), Option.any_none]
  cases h with
  | finished passed => simp [passing passed (List.Subset.refl _)]
  | @stopped before rest step exchanges undone x e passed asked must failed undoes =>
    have looks : x.asked.isCapture = false := by
      rw [asked, ← (regular step (by simp)).probes, must]
    have after : undone.any Exchange.isCancelled = false := by
      refine List.any_eq_false.2 fun y member => ?_
      have undo : y.asked ∈ step.undo.toList := undoes ▸ List.mem_map_of_mem member
      have other := (regular step (by simp)).undo _ (Option.mem_toList.1 undo)
      simp [Exchange.isCancelled_of_not_command other]
    rw [List.any_append, passing passed (List.subset_append_left ..), List.any_cons, after,
      Exchange.isCancelled_eq looks, failed]
    simp

/-- The first failure of a stage tells whether a command was cancelled. -/
theorem Config.Methods.any_isCancelled {methods : Config.Methods} {site : Site} {kind : Method}
    {side : Side} {request : StageRequest} {told : Told}
    {exchanges : List (Exchange Interface.host)} {result : Except MethodError Unit}
    (h : (methods.plan site kind side request told).Followed exchanges result) :
    exchanges.any Exchange.isCancelled =
      ((methods.plan site kind side request told).failure? exchanges).any (·.isCancelled) := by
  have result_eq := h.result_eq
  cases planned : methods.plan site kind side request told with
  | error e =>
    rw [planned] at h
    obtain ⟨-, -, -, rfl⟩ := refusal_of_plan planned
    rw [h.1]
    rfl
  | ok steps =>
    rw [planned] at h result_eq
    have cancelled := Follows.any_isCancelled h (regular_of_mem planned)
    rw [Bool.eq_iff_iff, cancelled, result_eq]
    cases Plan.failure? exchanges (.ok steps) <;> simp

/-! ## The record of a stage -/

namespace Scene

variable {I : Interface} {s : Scene} {d : Dispatch} {request : StageRequest} {turn : Nat}
  {now : Instant}

/-- The record of a dispatch that has just begun is open. -/
theorem open_of_begun (consistent : s.Consistent)
    (begun : (s.after (.serve turn now : Event I)).dispatches[s.dispatches.length]? = some d)
    (task : d.task = .stage request) :
    (s.after (.serve turn now : Event I)).Open s.dispatches.length d.key ∧
      d.key.stage = request.stage := by
  have step := s.step_after (.serve turn now : Event I)
  generalize s.after (.serve turn now : Event I) = t at step begun ⊢
  cases step with
  | idle => simp at begun
  | leave => simp [leave] at begun
  | @start _ _ w request' op waits task' concerns free allowed =>
    have begins := begins_start consistent concerns free turn now
    obtain rfl := Option.some.inj (List.getElem?_concat_length.symm.trans begun)
    obtain rfl : request' = request := Task.stage.inj (task'.symm.trans task)
    refine ⟨⟨underWay_dispatch.2 (.inr ⟨rfl, rfl⟩), _, ?_, begins.running, ?_⟩, rfl⟩
    · rw [begins.records, if_pos rfl]
    · simp [Coordinator.firstRecord, StageRecord.running]
  | fetch waits task' =>
    obtain rfl := Option.some.inj (List.getElem?_concat_length.symm.trans begun)
    cases task'.symm.trans task
  | settle ends => cases ends
  | conclude ends => cases ends

end Scene

/-- The record of a stage ends as what failed first says. -/
theorem Config.Methods.recordOf_stageEnded {methods : Config.Methods} {site : Site} {kind : Method}
    {side : Side} {request : StageRequest} {told : Told}
    {exchanges : List (Exchange Interface.host)} {result : Except MethodError Unit} {I : Interface}
    {s : Scene} {events : List (Event I)} {i : Nat} {key : DispatchKey}
    (followed : (methods.plan site kind side request told).Followed exchanges result)
    (opened : s.Open i key) (keyed : s.Keyed) (distinct : (s.run events).keys.Nodup)
    (forward : key.stage ≠ .metadataFetch)
    (accompanies : Scene.Accompanies i exchanges s events) (now : Instant) :
    let t := (s.run events).after (.stageEnded i (.result result) now : Event I)
    match (methods.plan site kind side request told).failure? exchanges with
    | none => ∃ r, t.recordOf key = some r ∧ r.status = .completed ∧
        r.details = key.stage.name ++ " completed"
    | some e =>
      if e.isCancelled then
        (∃ r ∈ t.published, r.key = key ∧ r.status = .cancelled) ∧
          ∀ r, t.recordOf key = some r → r.status = .cancelled
      else ∃ r, t.recordOf key = some r ∧ r.status = .error ∧ r.details = e.message := by
  have keyed' := keyed.run events distinct
  have last := accompanies.open_or_shut opened keyed distinct forward
  rw [any_isCancelled followed] at last
  have result_eq := followed.result_eq
  cases failure : (methods.plan site kind side request told).failure? exchanges with
  | none =>
    simp only [failure, Option.any_none, Bool.false_eq_true, if_false] at last result_eq
    subst result_eq
    exact last.recordOf_stageEnded keyed'.consistent forward _ now
  | some e =>
    simp only [failure, Option.any_some] at last result_eq
    subst result_eq
    cases cancelled : e.isCancelled with
    | true =>
      rw [cancelled, if_pos rfl] at last
      simp only [cancelled, if_true]
      exact last.recordOf_stageEnded keyed' _ now
    | false =>
      simp only [cancelled, Bool.false_eq_true, if_false] at last
      obtain ⟨r, stored, status, details⟩ :=
        last.recordOf_stageEnded keyed'.consistent forward (.result (.error e)) now
      simp only [cancelled, Bool.false_eq_true, if_false]
      exact ⟨r, stored, by simp [status, StageEnd.status, cancelled], details⟩

/-- Whatever the host answers, a stage performs the steps of its plan in their order and stops at
the first one that fails, with its failure. After a failure nothing is done but to give the lock of
a snapshot back or to set `sql_mode` back, and the only failures that do not count are those of the
two looks for a snapshot; so a Restore into the data directory starts the service only when all is
done. However its events are interleaved with others, the record of the stage ends as its first
failure says. Below, a pipeline fails if one of its stages has failed, with the exit code of the
first. -/
theorem Config.Methods.stops_at_failure (methods : Config.Methods) (site : Site) (kind : Method)
    (side : Side) (request : StageRequest) {σ : Type} (w : Surroundings Interface.host σ) (u : σ) :
    let out := (methods.stage site kind side request).runIn w u
    let told := Told.of out.exchanges
    let plan := methods.plan site kind side request told
    plan.Followed out.exchanges out.result ∧
    (out.result = .ok () ↔ plan.Performed out.exchanges) ∧
    (∀ e, plan = .error e → kind = .lvm ∧ methods.lvm.logicalVolume = "" ∧
      request.stage = .prepare ∧ e = .config "lvm.logical-volume is not set") ∧
    (∀ steps, plan = .ok steps → ∀ step ∈ steps,
      (∀ q ∈ step.undo,
        (kind = .lvm ∧ side = .source ∧ (∃ host port, request = .backup host port) ∧
          q = .database .unlock) ∨
        (kind = .mydumper ∧ request = .restore ∧
          q = .database (.execute (Mydumper.setModeStatement told.mode)))) ∧
      (step.probes = true → kind = .lvm ∧ request = .cleanup .source ∧
        (step = .look site (Lvm.mountedLine methods.lvm) ∨
          step = .look site (Lvm.presentLine methods.lvm)))) ∧
    ((methods.method site kind).intoDatadir = true → request = .restore →
      ∃ middle, plan = .ok (site.stopping ++ middle ++ site.starting) ∧
        out.exchanges.map (·.asked) <+:
          (site.stopping ++ middle ++ site.starting).map (·.request) ∧
        ∀ x ∈ out.exchanges.dropLast, x.failure? = none) ∧
    (∀ (hostname : String) (before events : List (Event Interface.host)) (turn : Nat)
      (begins ends : Instant) (d : Dispatch),
      let s := (Scene.initial hostname).run before
      let t := s.after (.serve turn begins : Event Interface.host)
      t.dispatches[s.dispatches.length]? = some d →
      d.method = kind → d.side = side → d.task = .stage request →
      Scene.Accompanies s.dispatches.length out.exchanges t events → (t.run events).keys.Nodup →
      let v := (t.run events).after
        (.stageEnded s.dispatches.length (.result out.result) ends : Event Interface.host)
      match plan.failure? out.exchanges with
      | none => ∃ r, v.recordOf d.key = some r ∧ r.status = .completed ∧
          r.details = request.stage.name ++ " completed"
      | some e =>
        if e.isCancelled then
          (∃ r ∈ v.published, r.key = d.key ∧ r.status = .cancelled) ∧
            ∀ r, v.recordOf d.key = some r → r.status = .cancelled
        else ∃ r, v.recordOf d.key = some r ∧ r.status = .error ∧ r.details = e.message) ∧
    (∀ (p : Pipeline) (cancelled : Bool) (runs : List StageRun),
      ((∃ output, p.settle cancelled runs = .ok output) ↔
        cancelled = false ∧ ∀ r ∈ runs, r.exit.isSuccess = true) ∧
      (cancelled = true → p.settle cancelled runs = .error (.cancelled p.command)) ∧
      ∀ before r after, runs = before ++ r :: after → cancelled = false →
        (∀ b ∈ before, b.exit.isSuccess = true) → r.exit.isSuccess = false →
        p.settle cancelled runs = .error
          (.failed p.command r.exit.code? (Pipeline.errorText (Pipeline.errors runs)))) ∧
    ∀ {τ : Type} (m : Machine τ) (line : String) (elevate cancel : Bool) (v : τ),
      ∃ result,
        (m.track (if cancel then .cancel else .wait) line elevate v).1.result = some result ∧
        ((∃ e, result = .error e ∧ Pipeline.Refuses line elevate e) ∨
          Pipeline.Ends line elevate cancel result) := by
  intro out told plan
  have followed : plan.Followed out.exchanges out.result :=
    followed side request (Procedure.path_runIn w _ u)
  refine ⟨followed, followed.ok_iff, fun e planned => refusal_of_plan planned,
    fun steps planned step member =>
      ⟨fun q undo => undo_of_mem planned member undo, probes_of_mem planned member⟩,
    fun into restore => ?_, ?_, fun p cancelled runs => ⟨Pipeline.settle_ok_iff, ?_, ?_⟩,
    fun m line elevate cancel v => m.track_result line elevate cancel v⟩
  · subst restore
    obtain ⟨middle, planned, plain⟩ := plan_restore side told into
    change plan = _ at planned
    rw [planned] at followed
    exact ⟨middle, planned, Follows.plain followed plain⟩
  · intro hostname before events turn begins ends d s t begun _ _ task accompanies distinct v
    have now : t.keys.Nodup := Scene.nodup_keys_of_run distinct
    have first : s.keys.Nodup := (s.step_after _).nodup_keys now
    have keyed : s.Keyed := (Scene.keyed_initial hostname).run before first
    obtain ⟨opened, stage⟩ := Scene.open_of_begun keyed.consistent begun task
    have settled := recordOf_stageEnded followed opened (keyed.after now) distinct
      (stage ▸ request.stage_ne_metadataFetch) accompanies ends
    rwa [stage] at settled
  · rintro rfl
    exact Pipeline.settle_cancelled
  · rintro before r after rfl rfl fine failed
    exact Pipeline.settle_of_failure fine failed

/-! ## A snapshot that is aborted -/

/-- The command that takes a snapshot of the volume. -/
def Lvm.createText : String := "lvcreate --snapshot --size 10G --name seed_snapshot /dev/vg/mysql"

/-- A host where every command is cancelled. -/
def cancellingHost : Surroundings Interface.host Unit :=
  .stateless (HostRequest.answerBy fun _ => .error (.cancelled Lvm.createText))

/-- A volume is set. -/
def Config.Methods.ofVolume : Config.Methods :=
  { lvm := { enabled := true, logicalVolume := "/dev/vg/mysql" } }

/-- The registry of a source with a volume, once a probe has found the tools. -/
def Registry.ofVolume : Registry Interface.host :=
  (ofConfig {} .ofVolume).publish .lvm ⟨true, none⟩

namespace Scene

/-- The source is prepared, and a backup is asked for. -/
def backupAwaited : List (Event Interface.host) :=
  [.ask .ofVolume ⟨1⟩ "lvm" (.stage (.prepare .source)), .serve 0 .epoch,
    .stageEnded 0 (.result (.ok ())) .epoch,
    .ask .ofVolume ⟨1⟩ "lvm" (.stage (.backup "db2" 3306))]

/-- The backup is aborted while the snapshot is taken. -/
def snapshotAborted : List (Event Interface.host) :=
  [.progress 1 "Creating snapshot seed_snapshot" .epoch,
    .processStarted 1 Lvm.createText .epoch, .abort ⟨1⟩ .backup .epoch, .processExited 0]

end Scene

/-- A source where taking the snapshot is cancelled gives the lock back, reports the cancelled
command and ends with a cancelled record. -/
theorem Config.Methods.stops_at_failure_aborted :
    let out := (ofVolume.stage {} .lvm .source (.backup "db2" 3306)).runIn cancellingHost ()
    let v := ((Scene.initial "db1").run
      (Scene.backupAwaited ++ .serve 0 .epoch :: Scene.snapshotAborted)).after
      (.stageEnded 1 (.result out.result) .epoch : Event Interface.host)
    out.result = .error (.exec (.cancelled Lvm.createText)) ∧
    out.exchanges.getLast?.map (·.asked) = some (.database .unlock) ∧
    ∃ r ∈ v.published, r.key = ⟨⟨1⟩, .backup, 2⟩ ∧ r.status = .cancelled := by
  intro out v
  obtain ⟨-, -, -, -, -, recorded, -⟩ := stops_at_failure ofVolume {} .lvm .source
    (.backup "db2" 3306) cancellingHost ()
  have settled := recorded "db1" Scene.backupAwaited Scene.snapshotAborted 0 .epoch .epoch
    ⟨2, ⟨⟨1⟩, .backup, 2⟩, .lvm, .stage (.backup "db2" 3306), .source, [], none⟩
    rfl rfl rfl rfl ?_ (by decide)
  · exact ⟨rfl, rfl, settled.1⟩
  · have ends : Pipeline.Ends Lvm.createText false true (.error (.cancelled Lvm.createText)) :=
      ⟨⟨Lvm.createText, [["lvcreate", "--snapshot", "--size", "10G", "--name", "seed_snapshot",
        "/dev/vg/mysql"]], .capture⟩, [{ exit := .killed 15, ends := 0, closes := 0 }],
        by decide +kernel, rfl, rfl⟩
    have others : ∀ e ∈ [(.abort ⟨1⟩ .backup .epoch : Event Interface.host)],
        e.reportOf ≠ some 1 ∧ e.exited? ≠ some 0 := by
      simp [Event.reportOf, Event.exited?]
    refine .silent rfl (.silent rfl (.noted ?_))
    change Scene.Accompanies 1 _ _
      (_ :: ([.abort ⟨1⟩ .backup .epoch] ++ .processExited 0 :: []))
    exact .ran others rfl ends (.silent rfl .done)

end ReplicaSeed
