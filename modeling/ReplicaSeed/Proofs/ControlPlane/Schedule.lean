import Mathlib.Logic.Basic
import ReplicaSeed.Proofs.ControlPlane.Logbook

/-!
# When the agent registers

A tick pings once, and registers right after that if no registration was ever begun or the latest
one was begun at least a period before the ping ended. Nothing else counts: not whether a call was
accepted, and not how long it took. In a run this makes a course of calls that starts with a
registration, and in which each later one stands right behind the first ping that ended a period or
more after the one before it had begun.

## Main definitions

* `latestAttempt`, `Due`: the latest registration among calls, and whether it is time for another.
* `Heartbeat.Recorded`: the heartbeat remembers the latest registration of its logbook.
* `Course`: the calls of a run.
* `Schedule`: what these calls keep to.

## Main statements

* `Heartbeat.Recorded.tick`: the calls of one tick.
* `Course.schedule`: a course of calls keeps to the schedule.
* `Heartbeat.registrations_scheduled`: every tick decides by the calls before it, and every run
  keeps to the schedule.
-/

namespace ReplicaSeed

namespace ControlPlane

/-! ## Calls -/

/-- The latest registration among calls, successful or not. -/
def latestAttempt (calls : List Call) : Option Call :=
  (calls.filter fun c => c.announcement = .submit).getLast?

/-- It is time to register: no registration was ever begun, or the latest one long enough ago. -/
def Due (interval : Span) (calls : List Call) (time : Span) : Prop :=
  ∀ last ∈ latestAttempt calls, last.begins.nanos + interval.nanos ≤ time.nanos

section

variable {calls : List Call} {c : Call}

theorem latestAttempt_append_ping (ping : c.announcement = .ping) :
    latestAttempt (calls ++ [c]) = latestAttempt calls := by
  simp [latestAttempt, ping]

theorem latestAttempt_append_submit (submit : c.announcement = .submit) :
    latestAttempt (calls ++ [c]) = some c := by
  simp [latestAttempt, submit]

/-- A call is a registration or a ping. -/
theorem announcement_eq_submit_iff : c.announcement = .submit ↔ c.announcement ≠ .ping := by
  cases c.announcement <;> simp

end

end ControlPlane

open ControlPlane

namespace Heartbeat

/-! ## What the heartbeat remembers -/

@[simp] theorem pinged_lastSubmit (h : Heartbeat) (accepted : Bool) (now : Instant) :
    (h.pinged accepted now).lastSubmit = h.lastSubmit := by
  cases accepted <;> rfl

@[simp] theorem pinged_periods (h : Heartbeat) (accepted : Bool) (now : Instant) :
    (h.pinged accepted now).periods = h.periods := by
  cases accepted <;> rfl

/-- A ping makes no difference to when a registration is due. -/
theorem registrationDue_pinged (h : Heartbeat) (accepted : Bool) (now : Instant) (time : Span) :
    (h.pinged accepted now).registrationDue time = h.registrationDue time := by
  simp [registrationDue]

variable {σ : Type} {link : Link σ} {h : Heartbeat} {s : Logbook σ}

/-- The heartbeat remembers when the latest registration of its logbook was begun, which is past. -/
structure Recorded (link : Link σ) (h : Heartbeat) (s : Logbook σ) : Prop where
  attempt : h.lastSubmit = (latestAttempt s.calls).map (·.begins)
  past : ∀ last ∈ latestAttempt s.calls, last.begins ≤ link.elapsed s.state

namespace Recorded

/-- A heartbeat that has done nothing remembers nothing. -/
theorem fresh (identity : Identity) (periods : HeartbeatPeriods) (s : σ) :
    Recorded link { identity, periods } { state := s } :=
  ⟨rfl, fun _ latest => nomatch latest⟩

/-- What the heartbeat finds due is what its logbook shows to be due, as long as the clock has not
gone back. -/
theorem registrationDue_iff (recorded : Recorded link h s) {time : Span}
    (later : link.elapsed s.state ≤ time) :
    h.registrationDue time = true ↔ Due h.periods.resubmit s.calls time := by
  rw [registrationDue, recorded.attempt]
  cases latest : latestAttempt s.calls with
  | none => simp [Due, latest]
  | some last =>
    have past : last.begins.nanos ≤ time.nanos := Nat.le_trans (recorded.past last latest) later
    simp only [Option.map_some, decide_eq_true_eq, Due, latest, Option.mem_some_iff, forall_eq']
    omega

theorem wait (steady : link.Steady) (recorded : Recorded link h s) (time : Span) :
    Recorded link h (link.logged.waitUntil time s).1 :=
  ⟨recorded.attempt,
    fun last latest => Nat.le_trans (recorded.past last latest) (steady.waitUntil time s.state)⟩

/-- A ping is no registration, however it went. -/
theorem ping (steady : link.Steady) (recorded : Recorded link h s) :
    Recorded link h (link.note .ping s) := by
  have same : latestAttempt (link.note .ping s).calls = latestAttempt s.calls :=
    latestAttempt_append_ping rfl
  refine ⟨same ▸ recorded.attempt, ?_⟩
  intro last latest
  exact Nat.le_trans (recorded.past last (same ▸ latest)) (steady.announce .ping s.state)

theorem pinged (recorded : Recorded link h s) (accepted : Bool) (now : Instant) :
    Recorded link (h.pinged accepted now) s :=
  ⟨(pinged_lastSubmit h accepted now).trans recorded.attempt, recorded.past⟩

/-- A registration is remembered from when it is begun. -/
theorem submit (steady : link.Steady) (h : Heartbeat) (s : Logbook σ) :
    Recorded link (h.submit link.logged s).1 (h.submit link.logged s).2.1 := by
  have latest : latestAttempt (link.note .submit s).calls = some (link.call .submit s.state) :=
    latestAttempt_append_submit rfl
  refine ⟨congrArg (Option.map fun c : Call => c.begins) latest.symm, ?_⟩
  intro last isLatest
  obtain rfl := Option.some.inj (latest.symm.trans isLatest)
  exact steady.announce .submit s.state

end Recorded

/-! ## One tick -/

/-- The calls of a tick: one ping, and behind it a registration exactly if the ping has ended and it
was time then. -/
theorem Recorded.tick (steady : link.Steady) (recorded : Recorded link h s) :
    let ping := link.call .ping s.state
    let after := h.tick link.logged s
    Recorded link after.1 after.2.1 ∧
      (ping.accepted ≠ none ∧ Due h.periods.resubmit s.calls ping.ends →
        after.2.1.calls = s.calls ++ [ping, link.call .submit (link.announce .ping s.state).1]) ∧
      (¬ (ping.accepted ≠ none ∧ Due h.periods.resubmit s.calls ping.ends) →
        after.2.1.calls = s.calls ++ [ping]) := by
  intro ping after
  have same : (link.logged.announce .ping s).2 = ping.accepted := rfl
  have recorded' := recorded.ping steady
  cases ended : ping.accepted with
  | none =>
    have tick : after = (h, link.note .ping s, none) := tick_of_none (same.trans ended)
    rw [tick]
    exact ⟨recorded', fun due => absurd rfl due.1, fun _ => rfl⟩
  | some accepted =>
    have tick := tick_of_some (h := h) (same.trans ended)
    have isDue := recorded.registrationDue_iff (steady.announce .ping s.state)
    by_cases due : h.registrationDue ping.ends = true
    · have tick : after = _ :=
        tick.trans (if_pos ((registrationDue_pinged h accepted _ _).trans due))
      rw [tick]
      refine ⟨Recorded.submit steady _ _, fun _ => ?_, fun undue => ?_⟩
      · exact List.append_assoc _ _ _
      · exact absurd ⟨Option.some_ne_none accepted, isDue.1 due⟩ undue
    · have tick : after = _ :=
        tick.trans (if_neg (ne_of_eq_of_ne (registrationDue_pinged h accepted _ _) due))
      rw [tick]
      exact ⟨recorded'.pinged accepted _, fun due' => absurd (isDue.2 due'.2) due, fun _ => rfl⟩

@[simp] theorem periods_submit (h : Heartbeat) (s : σ) : (h.submit link s).1.periods = h.periods :=
  rfl

@[simp] theorem periods_tick (h : Heartbeat) (s : σ) : (h.tick link s).1.periods = h.periods := by
  cases ended : (link.announce .ping s).2 with
  | none => rw [tick_of_none ended]
  | some accepted =>
    rw [tick_of_some ended]
    dsimp only
    split <;> simp

/-- Whatever a heartbeat is asked to do, it remembers its latest registration and keeps
its periods. -/
theorem Recorded.perform (steady : link.Steady) (steps : List Step) (recorded : Recorded link h s) :
    Recorded link (perform link.logged steps h s).1 (perform link.logged steps h s).2 ∧
      (perform link.logged steps h s).1.periods = h.periods := by
  induction steps generalizing h s with
  | nil => exact ⟨recorded, rfl⟩
  | cons step steps ih =>
    cases step with
    | submit => exact ih (Recorded.submit steady h s)
    | tick =>
      have same : (h.tick link.logged s).1.periods = h.periods := periods_tick h s
      exact same ▸ ih (recorded.tick steady).1
    | wait time => exact ih (recorded.wait steady time)

end Heartbeat

namespace ControlPlane

/-! ## A course of calls -/

/-- The calls of a run: a registration, and then pings, where a registration stands right behind a
ping exactly if it was time when the ping ended. -/
inductive Course (interval : Span) : List Call → Prop where
  | registered {c : Call} (submit : c.announcement = .submit) : Course interval [c]
  | pinged {calls : List Call} {ping : Call} (before : Course interval calls)
      (isPing : ping.announcement = .ping)
      (undue : ¬ (ping.accepted ≠ none ∧ Due interval calls ping.ends)) :
      Course interval (calls ++ [ping])
  | renewed {calls : List Call} {ping c : Call} (before : Course interval calls)
      (isPing : ping.announcement = .ping) (ended : ping.accepted ≠ none)
      (due : Due interval calls ping.ends) (submit : c.announcement = .submit)
      (atOnce : c.begins = ping.ends) : Course interval (calls ++ [ping, c])

/-- What the calls of a run keep to. -/
structure Schedule (interval : Span) (calls : List Call) : Prop where
  /-- One registration comes before the first ping. -/
  opened : ∃ first later, calls = first :: later ∧ first.announcement = .submit ∧
    ∀ next ∈ later.head?, next.announcement = .ping
  /-- Registrations are begun a period after one another at least. -/
  apart : (calls.filter fun c => c.announcement = .submit).Pairwise
    fun a b => a.begins.nanos + interval.nanos ≤ b.begins.nanos
  /-- What stands behind a ping is a registration exactly if the ping has ended and it was time. -/
  decided (front : List Call) (ping : Call) (back : List Call) : calls = front ++ ping :: back →
    ping.announcement = .ping →
      ((∃ c ∈ back.head?, c.announcement = .submit) ↔
        ping.accepted ≠ none ∧ Due interval front ping.ends)
  /-- A registration, successful or not, is followed by nothing but pings up to the first one that
  ends a period or more after it began, and then by another registration at once. -/
  retried (front : List Call) (c : Call) (middle : List Call) (ping : Call) (back : List Call) :
    calls = front ++ c :: middle ++ ping :: back → c.announcement = .submit →
      ping.announcement = .ping → ping.accepted ≠ none →
        c.begins.nanos + interval.nanos ≤ ping.ends.nanos →
          (∀ earlier ∈ middle, earlier.announcement = .ping → earlier.accepted ≠ none →
            earlier.ends.nanos < c.begins.nanos + interval.nanos) →
          (∀ earlier ∈ middle, earlier.announcement = .ping) ∧
            ∃ again ∈ back.head?, again.announcement = .submit ∧ again.begins = ping.ends

/-- A place in a list with one more entry is that entry, or a place in the list. -/
theorem split_concat {α : Type} {xs front back : List α} {x y : α}
    (h : xs ++ [y] = front ++ x :: back) :
    (front = xs ∧ x = y ∧ back = []) ∨ ∃ back', back = back' ++ [y] ∧ xs = front ++ x :: back' := by
  obtain rfl | ⟨back', z, rfl⟩ := List.eq_nil_or_concat back
  · obtain ⟨rfl, same⟩ := List.append_inj' h rfl
    exact .inl ⟨rfl, (List.singleton_inj.1 same).symm, rfl⟩
  · have h : xs ++ [y] = (front ++ x :: back') ++ [z] := by simpa using h
    obtain ⟨rfl, same⟩ := List.append_inj' h rfl
    obtain rfl := List.singleton_inj.1 same
    exact .inr ⟨back', by simp, rfl⟩

namespace Course

variable {interval : Span} {calls : List Call}

theorem opened (course : Course interval calls) : ∃ first later, calls = first :: later ∧
    first.announcement = .submit ∧ ∀ next ∈ later.head?, next.announcement = .ping := by
  have longer {ping : Call} {later : List Call} (rest : List Call)
      (isPing : ping.announcement = .ping)
      (next : ∀ next ∈ later.head?, next.announcement = .ping) :
      ∀ next ∈ (later ++ ping :: rest).head?, next.announcement = .ping := by
    cases later with
    | nil => simpa using isPing
    | cons second later => exact next
  induction course with
  | @registered c submit => exact ⟨c, [], rfl, submit, by simp⟩
  | @pinged calls ping _ isPing _ ih =>
    obtain ⟨first, later, rfl, submit, next⟩ := ih
    exact ⟨first, later ++ [ping], rfl, submit, longer [] isPing next⟩
  | @renewed calls ping c _ isPing _ _ _ _ ih =>
    obtain ⟨first, later, rfl, submit, next⟩ := ih
    exact ⟨first, later ++ [ping, c], rfl, submit, longer [c] isPing next⟩

/-- A registration that is due is begun a period after all registrations before it. -/
theorem le_of_due {a : Call} {time : Span}
    (apart : (calls.filter fun c => c.announcement = .submit).Pairwise
      fun a b => a.begins.nanos + interval.nanos ≤ b.begins.nanos)
    (due : Due interval calls time) (earlier : a ∈ calls.filter fun c => c.announcement = .submit) :
    a.begins.nanos + interval.nanos ≤ time.nanos := by
  obtain ⟨last, latest⟩ : ∃ last, latestAttempt calls = some last :=
    ⟨_, List.getLast?_eq_some_getLast (List.ne_nil_of_mem earlier)⟩
  have bound := due last latest
  obtain ⟨front, split⟩ := List.getLast?_eq_some_iff.1 latest
  rw [split] at apart earlier
  obtain inFront | isLast := List.mem_append.1 earlier
  · have before := (List.pairwise_append.1 apart).2.2 a inFront last (List.mem_singleton_self last)
    omega
  · rwa [List.mem_singleton.1 isLast]

theorem apart (course : Course interval calls) :
    (calls.filter fun c => c.announcement = .submit).Pairwise
      fun a b => a.begins.nanos + interval.nanos ≤ b.begins.nanos := by
  induction course with
  | @registered c submit => simp [submit]
  | @pinged calls ping _ isPing _ ih => simpa [isPing] using ih
  | @renewed calls ping c _ isPing _ due submit atOnce ih =>
    have registrations : (calls ++ [ping, c]).filter (fun c => c.announcement = .submit) =
        calls.filter (fun c => c.announcement = .submit) ++ [c] := by
      simp [isPing, submit]
    rw [registrations]
    refine List.pairwise_append.2 ⟨ih, List.pairwise_singleton _ _, ?_⟩
    intro a earlier b isLast
    rw [List.mem_singleton.1 isLast, atOnce]
    exact le_of_due ih due earlier

theorem decided (course : Course interval calls) {front back : List Call} {ping : Call}
    (split : calls = front ++ ping :: back) (isPing : ping.announcement = .ping) :
    (∃ c ∈ back.head?, c.announcement = .submit) ↔
      ping.accepted ≠ none ∧ Due interval front ping.ends := by
  -- What stands behind a ping does not change if the calls go on behind that.
  have longer {back : List Call} {next : Call} (rest : List Call)
      (isPing : next.announcement = .ping) :
      (∃ c ∈ (back ++ next :: rest).head?, c.announcement = .submit) ↔
        ∃ c ∈ back.head?, c.announcement = .submit := by
    cases back with
    | nil => simp [isPing]
    | cons => simp
  induction course generalizing back with
  | @registered c submit =>
    have split : [] ++ [c] = front ++ ping :: back := split
    obtain ⟨-, rfl, -⟩ | ⟨back', -, nothing⟩ := split_concat split
    · exact absurd (submit.symm.trans isPing) (by decide)
    · simp at nothing
  | @pinged calls last _ isPing' undue ih =>
    obtain ⟨rfl, rfl, rfl⟩ | ⟨back', rfl, before⟩ := split_concat split
    · simpa using undue
    · exact (longer [] isPing').trans (ih before)
  | @renewed calls last c _ isPing' ended due submit _ ih =>
    have split : (calls ++ [last]) ++ [c] = front ++ ping :: back := by simpa using split
    obtain ⟨-, rfl, -⟩ | ⟨back', rfl, before⟩ := split_concat split
    · exact absurd (submit.symm.trans isPing) (by decide)
    · obtain ⟨rfl, rfl, rfl⟩ | ⟨back'', rfl, before'⟩ := split_concat before
      · simp [submit, ended, due]
      · rw [List.append_assoc]
        exact (longer [c] isPing').trans (ih before')

/-- Each registration but the first stands right behind a ping after which it was due. -/
theorem preceded (course : Course interval calls) {front back : List Call} {c : Call}
    (split : calls = front ++ c :: back) (submit : c.announcement = .submit) (later : front ≠ []) :
    ∃ front' ping, front = front' ++ [ping] ∧ ping.announcement = .ping ∧ ping.accepted ≠ none ∧
      c.begins = ping.ends := by
  induction course generalizing back with
  | @registered c' _ =>
    have split : [] ++ [c'] = front ++ c :: back := split
    obtain ⟨rfl, -, -⟩ | ⟨back', -, nothing⟩ := split_concat split
    · exact absurd rfl later
    · simp at nothing
  | @pinged calls last _ isPing _ ih =>
    obtain ⟨-, rfl, -⟩ | ⟨back', -, before⟩ := split_concat split
    · exact absurd (submit.symm.trans isPing) (by decide)
    · exact ih before
  | @renewed calls last c' _ isPing ended _ _ atOnce ih =>
    have split : (calls ++ [last]) ++ [c'] = front ++ c :: back := by simpa using split
    obtain ⟨rfl, rfl, -⟩ | ⟨back', -, before⟩ := split_concat split
    · exact ⟨calls, last, rfl, isPing, ended, atOnce⟩
    · obtain ⟨-, rfl, -⟩ | ⟨back'', -, before⟩ := split_concat before
      · exact absurd (submit.symm.trans isPing) (by decide)
      · exact ih before

theorem retried (course : Course interval calls) {front middle back : List Call} {c ping : Call}
    (split : calls = front ++ c :: middle ++ ping :: back) (submit : c.announcement = .submit)
    (isPing : ping.announcement = .ping) (ended : ping.accepted ≠ none)
    (late : c.begins.nanos + interval.nanos ≤ ping.ends.nanos)
    (first : ∀ earlier ∈ middle, earlier.announcement = .ping → earlier.accepted ≠ none →
      earlier.ends.nanos < c.begins.nanos + interval.nanos) :
    (∀ earlier ∈ middle, earlier.announcement = .ping) ∧
      ∃ again ∈ back.head?, again.announcement = .submit ∧ again.begins = ping.ends := by
  have pings : ∀ earlier ∈ middle, earlier.announcement = .ping := by
    intro earlier member
    refine Classical.byContradiction fun other => ?_
    -- It would be a registration, and the ping in front of it would be the first one.
    obtain ⟨before, after, rfl⟩ := List.append_of_mem member
    have submit' := announcement_eq_submit_iff.2 other
    have there : calls = (front ++ c :: before) ++ earlier :: (after ++ ping :: back) := by
      simpa using split
    obtain ⟨front', last, front_eq, isPing', ended', -⟩ := course.preceded there submit' (by simp)
    obtain ⟨-, rfl, -⟩ | ⟨before', rfl, rfl⟩ := split_concat front_eq.symm
    · exact absurd (submit.symm.trans isPing') (by decide)
    · have whole :
          calls = (front ++ c :: before') ++ last :: (earlier :: after ++ ping :: back) := by
        simpa using split
      have due := ((course.decided whole isPing').1 ⟨earlier, rfl, submit'⟩).2
      have apart := course.apart.sublist
        ((whole ▸ List.sublist_append_left (front ++ c :: before') _).filter _)
      have bound := le_of_due (a := c) apart due (by simp [submit])
      have early := first last (by simp) isPing' ended'
      omega
  have due : Due interval (front ++ c :: middle) ping.ends := by
    have latest : latestAttempt (front ++ c :: middle) = some c := by
      have none : middle.filter (fun c => c.announcement = .submit) = [] := by
        simpa [List.filter_eq_nil_iff, announcement_eq_submit_iff] using pings
      simp [latestAttempt, submit, none]
    intro last isLatest
    rwa [← Option.some.inj (latest.symm.trans isLatest)]
  obtain ⟨again, next, submit'⟩ := (course.decided split isPing).2 ⟨ended, due⟩
  obtain ⟨back, rfl⟩ := List.head?_eq_some_iff.1 next
  have there : calls = (front ++ c :: middle ++ [ping]) ++ again :: back := by simpa using split
  obtain ⟨front', last, front_eq, -, -, atOnce⟩ := course.preceded there submit' (by simp)
  obtain ⟨-, same⟩ := List.append_inj' front_eq rfl
  obtain rfl := List.singleton_inj.1 same
  exact ⟨pings, again, rfl, submit', atOnce⟩

/-- A course of calls keeps to the schedule. -/
theorem schedule (course : Course interval calls) : Schedule interval calls where
  opened := course.opened
  apart := course.apart
  decided _ _ _ := course.decided
  retried _ _ _ _ _ := course.retried

end Course

end ControlPlane

/-! ## Runs -/

namespace Heartbeat

variable {σ : Type} {link : Link σ} {h : Heartbeat} {s : Logbook σ}

/-- A tick goes on with the course of calls. -/
theorem Recorded.course_tick (steady : link.Steady) (recorded : Recorded link h s)
    (course : Course h.periods.resubmit s.calls) :
    Course h.periods.resubmit (h.tick link.logged s).2.1.calls := by
  obtain ⟨-, due, undue⟩ := recorded.tick steady
  by_cases isDue : (link.call .ping s.state).accepted ≠ none ∧
      Due h.periods.resubmit s.calls (link.call .ping s.state).ends
  · rw [due isDue]
    exact .renewed course rfl isDue.1 isDue.2 rfl rfl
  · rw [undue isDue]
    exact .pinged course rfl isDue

theorem Recorded.course_ticks (steady : link.Steady) (count : Nat) (due : Span)
    (recorded : Recorded link h s) (course : Course h.periods.resubmit s.calls) :
    Course h.periods.resubmit (ticks link.logged count due h s).2.calls := by
  induction count generalizing due h s with
  | zero => exact course
  | succ count ih =>
    have waiting := recorded.wait steady due
    have next := waiting.course_tick steady course
    cases waited : (link.logged.waitUntil due s).2 with
    | none =>
      rw [ticks_of_stopped waited]
      exact course
    | some =>
      cases done : (h.tick link.logged (link.logged.waitUntil due s).1).2.2 with
      | none =>
        rw [ticks_of_cut waited done]
        exact next
      | some =>
        rw [ticks_of_done waited done]
        have same : (h.tick link.logged (link.logged.waitUntil due s).1).1.periods = h.periods :=
          periods_tick h (link.logged.waitUntil due s).1
        exact same ▸ ih _ (waiting.tick steady).1 (same.symm ▸ next)

/-- A run makes a course of calls. -/
theorem course_run (steady : link.Steady) (count : Nat) (h : Heartbeat) (s : σ) :
    Course h.periods.resubmit (h.run link.logged count { state := s }).2.calls := by
  have first : Course h.periods.resubmit (link.note .submit { state := s }).calls :=
    .registered rfl
  cases ended : (link.logged.announce .submit { state := s }).2 with
  | none =>
    rw [run_of_none ended]
    exact first
  | some accepted =>
    rw [run_of_some ended]
    exact (Recorded.submit steady h { state := s }).course_ticks steady count _ first

/-! ## Pings go on -/

/-- How many of the calls are pings. -/
def pings (calls : List Call) : Nat := calls.countP fun c => c.announcement = .ping

/-- A tick pings exactly once. -/
theorem Recorded.pings_tick (steady : link.Steady) (recorded : Recorded link h s) :
    pings (h.tick link.logged s).2.1.calls = pings s.calls + 1 := by
  obtain ⟨-, due, undue⟩ := recorded.tick steady
  by_cases isDue : (link.call .ping s.state).accepted ≠ none ∧
      Due h.periods.resubmit s.calls (link.call .ping s.state).ends
  · rw [due isDue]
    simp [pings, Link.call]
  · rw [undue isDue]
    simp [pings, Link.call]

/-- A tick is cut short only if the agent is stopped. -/
theorem stopped_tick (cut : (h.tick link.logged s).2.2 = none) :
    (h.tick link.logged s).2.1.stopped = true := by
  cases ended : (link.logged.announce .ping s).2 with
  | none =>
    rw [tick_of_none ended]
    have isNone : (link.announce .ping s.state).2 = none := ended
    simp [Link.logged, Link.note, isNone]
  | some accepted =>
    rw [tick_of_some ended] at cut ⊢
    dsimp only at cut ⊢
    split at cut
    · rename_i due
      rw [if_pos due]
      have isNone : (link.announce .submit (link.announce .ping s.state).1).2 = none :=
        Option.map_eq_none_iff.1 cut
      simp [submit, Link.logged, Link.note, isNone]
    · cases cut

/-- Whatever comes of the calls, there is one ping for each tick, unless the agent is stopped. -/
theorem Recorded.pings_ticks (steady : link.Steady) (count : Nat) (due : Span)
    (recorded : Recorded link h s) (goesOn : (ticks link.logged count due h s).2.stopped = false) :
    pings (ticks link.logged count due h s).2.calls = pings s.calls + count := by
  induction count generalizing due h s with
  | zero => rfl
  | succ count ih =>
    have waiting := recorded.wait steady due
    cases waited : (link.logged.waitUntil due s).2 with
    | none =>
      rw [ticks_of_stopped waited] at goesOn
      have isNone : (link.waitUntil due s.state).2 = none := waited
      simp [Link.logged, isNone] at goesOn
    | some =>
      cases done : (h.tick link.logged (link.logged.waitUntil due s).1).2.2 with
      | none =>
        rw [ticks_of_cut waited done] at goesOn
        exact absurd ((stopped_tick done).symm.trans goesOn) (by decide)
      | some =>
        rw [ticks_of_done waited done] at goesOn ⊢
        rw [ih _ (waiting.tick steady).1 goesOn, waiting.pings_tick steady]
        exact Nat.add_right_comm _ _ _

theorem pings_run (steady : link.Steady) (count : Nat) (h : Heartbeat) (s : σ)
    (goesOn : (h.run link.logged count { state := s }).2.stopped = false) :
    pings (h.run link.logged count { state := s }).2.calls = count := by
  cases ended : (link.logged.announce .submit { state := s }).2 with
  | none =>
    rw [run_of_none ended] at goesOn
    have isNone : (link.announce .submit s).2 = none := ended
    simp [Link.logged, Link.note, isNone] at goesOn
  | some accepted =>
    rw [run_of_some ended] at goesOn ⊢
    have ticked := (Recorded.submit steady h { state := s }).pings_ticks steady count _ goesOn
    exact ticked.trans (by simp [pings, submit, Link.logged, Link.note, Link.call])

/-! ## The schedule -/

/-- Whatever has been asked of the heartbeat before, whatever came of the calls and however long
they took, a tick pings exactly once, and registers at once exactly if the ping has ended and no
registration was ever begun or the latest one was begun at least a period before. Every run, of
which the logbook is but a record, keeps to the schedule, and it pings as often as it ticks unless
the agent is stopped. -/
theorem registrations_scheduled (link : Link σ) (steady : link.Steady) (identity : Identity)
    (periods : HeartbeatPeriods) (s : σ) :
    (∀ steps : List Step,
      let before := perform link.logged steps { identity, periods } { state := s }
      let after := before.1.tick link.logged before.2
      ∃ ping later, after.2.1.calls = before.2.calls ++ ping :: later ∧
        ping.announcement = .ping ∧
        (ping.accepted ≠ none ∧ Due periods.resubmit before.2.calls ping.ends →
          ∃ c, later = [c] ∧ c.announcement = .submit ∧ c.begins = ping.ends) ∧
        (¬ (ping.accepted ≠ none ∧ Due periods.resubmit before.2.calls ping.ends) → later = [])) ∧
    ∀ count : Nat,
      let book := (run { identity, periods } link.logged count { state := s }).2
      book.state = (run { identity, periods } link count s).2 ∧
        Schedule periods.resubmit book.calls ∧
          (book.stopped = false → pings book.calls = count) := by
  constructor
  · intro steps before after
    obtain ⟨recorded, same⟩ := (Recorded.fresh identity periods s).perform steady steps
    obtain ⟨-, due, undue⟩ := recorded.tick steady
    rw [same] at due undue
    by_cases isDue : (link.call .ping before.2.state).accepted ≠ none ∧
        Due periods.resubmit before.2.calls (link.call .ping before.2.state).ends
    · exact ⟨_, _, due isDue, rfl, fun _ => ⟨_, rfl, rfl, rfl⟩, fun undue => absurd isDue undue⟩
    · exact ⟨_, _, undue isDue, rfl, fun due => absurd due isDue, fun _ => rfl⟩
  · intro count book
    exact ⟨(run_logged link count _ _).2,
      (course_run steady count { identity, periods } s).schedule,
      pings_run steady count _ s⟩

/-- A control plane that takes the same time for each call and accepts nothing but pings. Its state
is the time. -/
def refusing (latency : Nat) : Link Nat where
  elapsed time := ⟨time⟩
  now _ := .epoch
  announce a time := (time + latency, some (a = .ping))
  waitUntil due time := (max time due.nanos, some ())

theorem steady_refusing (latency : Nat) : (refusing latency).Steady where
  announce _ time := Nat.le_add_right time latency
  waitUntil due time := Nat.le_max_left time due.nanos

/-- Every call takes longer than the agent waits between pings, and every registration fails: the
first is begun at 0, and the next one behind the ping that ends at 9. The pings that end at 6 and at
15 come too early for another. -/
theorem registrations_scheduled_refused :
    (refusing 3).Steady ∧
      let book := (run { identity := ⟨"db-1", 3002, ⟨"t"⟩, none⟩, periods := ⟨⟨1⟩, ⟨7⟩⟩ }
        (refusing 3).logged 3 { state := 0 }).2
      book.calls.map (fun c => (c.announcement, c.begins.nanos)) =
        [(.submit, 0), (.ping, 3), (.ping, 6), (.submit, 9), (.ping, 12)] ∧
      Schedule ⟨7⟩ book.calls ∧ pings book.calls = 3 := by
  have scheduled := registrations_scheduled (refusing 3) (steady_refusing 3)
    ⟨"db-1", 3002, ⟨"t"⟩, none⟩ ⟨⟨1⟩, ⟨7⟩⟩ 0
  exact ⟨steady_refusing 3, by decide, (scheduled.2 3).2.1, (scheduled.2 3).2.2 (by decide)⟩

end Heartbeat

end ReplicaSeed
