import ReplicaSeed.Proofs.ControlPlane.Logbook
import ReplicaSeed.Rehearsal.Heartbeat

/-!
# Contact with the control plane

The heartbeat keeps the time of day at which the latest ping was accepted, and nothing else counts
as contact. The health at a point in time is read off it with exact arithmetic: it is good as long
as no more than the limit has gone by since.

Time that goes on makes no health better, and neither does a shorter limit. A leap second is the
exception to the former: on the clock it is a second of its own, but in the distance to an instant
outside it the seconds before and after it are next to each other.

## Main definitions

* `lastAnswer`: the date of the latest ping among calls that was accepted.
* `Link.Unanswering`: a control plane that accepts no ping.
* `Instant.NoLater`: the order of instants.

## Main statements

* `Heartbeat.Informed.perform`: the heartbeat keeps the latest answer and changes nothing else.
* `Identity.healthAt_eq_ok_iff`: when the health is good.
* `Heartbeat.contact_tracked`: both, and what follows from them.
* `Identity.exists_health_regained`: a leap second ends, and with it a bad state of health.
-/

namespace ReplicaSeed

namespace ControlPlane

/-- The ping was accepted. -/
def Call.isAnswer (c : Call) : Bool := c.announcement = .ping && c.accepted = some true

/-- The time of day at which the latest ping among calls that was accepted had its answer. -/
def lastAnswer (calls : List Call) : Option Instant :=
  ((calls.filter Call.isAnswer).getLast?).map (·.date)

theorem lastAnswer_append_answer {calls : List Call} {c : Call} (answer : c.isAnswer = true) :
    lastAnswer (calls ++ [c]) = some c.date := by
  simp [lastAnswer, answer]

theorem lastAnswer_append_other {calls : List Call} {c : Call} (other : c.isAnswer = false) :
    lastAnswer (calls ++ [c]) = lastAnswer calls := by
  simp [lastAnswer, other]

end ControlPlane

open ControlPlane

/-- No ping is ever accepted. -/
def Link.Unanswering {σ : Type} (link : Link σ) : Prop :=
  ∀ s, (link.announce .ping s).2 ≠ some true

/-- Without a control plane there is no answer. -/
theorem Rehearsal.Scene.unanswering_nobody : Scene.nobody.Unanswering := by
  intro s answered
  cases answered

/-! ## Instants -/

namespace Instant

/-- `t` is no later than `u`. -/
def NoLater (t u : Instant) : Prop := t.secs < u.secs ∨ t.secs = u.secs ∧ t.nanos ≤ u.nanos

instance (t u : Instant) : Decidable (NoLater t u) := inferInstanceAs (Decidable (_ ∨ _))

/-- The nanoseconds since the beginning of 1970. -/
def sinceEpoch (t : Instant) : Int := t.secs * 1000000000 + t.nanos

variable {t u : Instant}

/-- Outside of leap seconds the distance is the difference of the nanoseconds. -/
theorem nanosUntil_eq_sub (ht : t.isLeap = false) (hu : u.isLeap = false) :
    t.nanosUntil u = u.sinceEpoch - t.sinceEpoch := by
  have between : leapBetween t u = 0 := by simp [leapBetween, ht, hu]
  rw [nanosUntil, between, sinceEpoch, sinceEpoch]
  omega

/-- Outside of leap seconds a later instant has more nanoseconds behind it. -/
theorem sinceEpoch_le_of_noLater (ht : t.isLeap = false) (h : t.NoLater u) :
    t.sinceEpoch ≤ u.sinceEpoch := by
  have within : t.nanos < 1000000000 := by simpa [isLeap] using ht
  rw [sinceEpoch, sinceEpoch]
  obtain earlier | ⟨same, earlier⟩ := h <;> omega

end Instant

/-! ## Health -/

namespace Identity

variable {identity : Identity} {now : Instant} {limit : Span}

/-- The health is good exactly if there was contact and no more than the limit has gone by since;
contact in the future counts as contact right now. -/
theorem healthAt_eq_ok_iff : identity.healthAt now limit = .ok ↔
    ∃ last, identity.lastContact = some last ∧
      max 0 (last.nanosUntil now) ≤ (limit.nanos : Int) := by
  rw [healthAt]
  cases identity.lastContact with
  | none => simp
  | some last =>
    have positive : (0 : Int) ≤ limit.nanos := Int.natCast_nonneg _
    simp only [Option.some.injEq, exists_eq_left']
    split <;> simp <;> omega

theorem healthAt_eq_bad_iff : identity.healthAt now limit = .bad ↔
    ∀ last ∈ identity.lastContact, (limit.nanos : Int) < last.nanosUntil now := by
  rw [healthAt]
  cases identity.lastContact with
  | none => simp
  | some last => simp

end Identity

/-! ## What the heartbeat keeps -/

namespace Heartbeat

variable {σ : Type} {link : Link σ} {h : Heartbeat} {s : Logbook σ} {base : Identity}

/-- The identity is the one that the heartbeat began with, but for contact: that is the latest
answer among the calls. -/
def Informed (base : Identity) (h : Heartbeat) (calls : List Call) : Prop :=
  h.identity = { base with lastContact := lastAnswer calls }

namespace Informed

/-- A registration is no contact, however it goes. -/
theorem submit (informed : Informed base h s.calls) :
    Informed base (h.submit link.logged s).1 (h.submit link.logged s).2.1.calls :=
  informed.trans (congrArg (fun last => { base with lastContact := last })
    (lastAnswer_append_other rfl).symm)

/-- Nor is a ping that is cut short. -/
theorem cut (informed : Informed base h s.calls) (cut : (link.announce .ping s.state).2 = none) :
    Informed base h (link.note .ping s).calls := by
  have other : (link.call .ping s.state).isAnswer = false := by simp [Call.isAnswer, Link.call, cut]
  exact informed.trans (congrArg (fun last => { base with lastContact := last })
    (lastAnswer_append_other other).symm)

/-- A ping that has ended is contact if it was accepted, at the time of day when it ended. -/
theorem pinged (informed : Informed base h s.calls) {accepted : Bool}
    (ended : (link.announce .ping s.state).2 = some accepted) :
    Informed base (h.pinged accepted (link.now (link.announce .ping s.state).1))
      (link.note .ping s).calls := by
  cases accepted with
  | false =>
    have other : (link.call .ping s.state).isAnswer = false := by
      simp [Call.isAnswer, Link.call, ended]
    exact informed.trans (congrArg (fun last => { base with lastContact := last })
      (lastAnswer_append_other other).symm)
  | true =>
    have answer : (link.call .ping s.state).isAnswer = true := by
      simp [Call.isAnswer, Link.call, ended]
    have last : lastAnswer (link.note .ping s).calls = some (link.call .ping s.state).date :=
      lastAnswer_append_answer answer
    rw [Informed, last]
    exact congrArg (fun i => i.contacted (link.call .ping s.state).date) informed

theorem tick (informed : Informed base h s.calls) :
    Informed base (h.tick link.logged s).1 (h.tick link.logged s).2.1.calls := by
  cases ended : (link.logged.announce .ping s).2 with
  | none =>
    rw [tick_of_none ended]
    exact informed.cut ended
  | some accepted =>
    have pinged := informed.pinged ended
    rw [tick_of_some ended]
    dsimp only
    split
    · exact pinged.submit
    · exact pinged

/-- Whatever is asked of the heartbeat, it keeps the latest answer and nothing else. -/
theorem perform (steps : List Step) (informed : Informed base h s.calls) :
    Informed base (perform link.logged steps h s).1 (perform link.logged steps h s).2.calls := by
  induction steps generalizing h s with
  | nil => exact informed
  | cons step steps ih =>
    cases step with
    | submit => exact ih informed.submit
    | tick => exact ih informed.tick
    | wait time => exact ih informed

end Informed

/-- Without an answer to a ping nothing about the identity changes. -/
theorem identity_tick (unanswering : link.Unanswering) (h : Heartbeat) (s : σ) :
    (h.tick link s).1.identity = h.identity := by
  cases ended : (link.announce .ping s).2 with
  | none => rw [tick_of_none ended]
  | some accepted =>
    obtain rfl : accepted = false := by
      simpa [ended] using unanswering s
    rw [tick_of_some ended]
    dsimp only
    split <;> rfl

theorem identity_perform (unanswering : link.Unanswering) (steps : List Step) (h : Heartbeat)
    (s : σ) : (Heartbeat.perform link steps h s).1.identity = h.identity := by
  induction steps generalizing h s with
  | nil => rfl
  | cons step steps ih =>
    cases step with
    | submit => exact ih _ _
    | tick => exact (ih _ _).trans (identity_tick unanswering h s)
    | wait time => exact ih _ _

/-! ## Contact and health -/

/-- A heartbeat that begins without contact has contact from the latest ping that was accepted, at
the time of day when it ended, whatever is asked of it and whatever comes of it; where no ping is
ever accepted, as without a control plane, the health is bad at any time and with any limit. The
health is good exactly if there was contact and no more than the limit has gone by since, to the
nanosecond. At a fixed contact a shorter limit does not make it good again, and neither does a later
time, if none of the three instants lies in a leap second. -/
theorem contact_tracked :
    (∀ {σ : Type} (link : Link σ) (h : Heartbeat) (s : σ) (steps : List Step),
      h.identity.lastContact = none →
        (Heartbeat.perform link steps h s).1.identity = { h.identity with
          lastContact := lastAnswer (perform link.logged steps h { state := s }).2.calls }) ∧
    (∀ {σ : Type} (link : Link σ) (h : Heartbeat) (s : σ) (steps : List Step) (now : Instant)
      (limit : Span), link.Unanswering → h.identity.lastContact = none →
        (Heartbeat.perform link steps h s).1.identity.healthAt now limit = .bad) ∧
    Rehearsal.Scene.nobody.Unanswering ∧
    (∀ (identity : Identity) (now : Instant) (limit : Span), identity.healthAt now limit = .ok ↔
      ∃ last, identity.lastContact = some last ∧
        max 0 (last.nanosUntil now) ≤ (limit.nanos : Int)) ∧
    (∀ last now : Instant, last.isLeap = false → now.isLeap = false →
      last.nanosUntil now = now.sinceEpoch - last.sinceEpoch) ∧
    (∀ (identity : Identity) (now : Instant) (shorter limit : Span), shorter ≤ limit →
      identity.healthAt now limit = .bad → identity.healthAt now shorter = .bad) ∧
    ∀ (identity : Identity) (now later : Instant) (limit : Span),
      (∀ last ∈ identity.lastContact, last.isLeap = false) → now.isLeap = false →
        later.isLeap = false → now.NoLater later →
          identity.healthAt now limit = .bad → identity.healthAt later limit = .bad := by
  refine ⟨?_, ?_, Rehearsal.Scene.unanswering_nobody, ?_, ?_, ?_, ?_⟩
  · intro σ link h s steps fresh
    rw [← (perform_logged link steps h { state := s }).1]
    have informed : Informed h.identity h [] := by
      rw [Informed]
      cases identity : h.identity
      simp_all [lastAnswer]
    exact informed.perform (s := { state := s }) steps
  · intro σ link h s steps now limit unanswering fresh
    rw [identity_perform unanswering, Identity.healthAt, fresh]
  · intro identity now limit
    exact Identity.healthAt_eq_ok_iff
  · intro last now
    exact Instant.nanosUntil_eq_sub
  · intro identity now shorter limit short bad
    rw [Identity.healthAt_eq_bad_iff] at bad ⊢
    intro last contact
    have bound := bad last contact
    have short : shorter.nanos ≤ limit.nanos := short
    omega
  · intro identity now later limit contact ordinary ordinary' order bad
    rw [Identity.healthAt_eq_bad_iff] at bad ⊢
    intro last isLast
    have bound := bad last isLast
    rw [Instant.nanosUntil_eq_sub (contact last isLast) ordinary] at bound
    rw [Instant.nanosUntil_eq_sub (contact last isLast) ordinary']
    have ahead := Instant.sinceEpoch_le_of_noLater ordinary order
    omega

/-- A control plane that takes three seconds for each call and accepts those pings that it gets in
an even second. Its state is the time in seconds. -/
def wavering : Link Nat where
  elapsed time := .seconds time
  now time := ⟨time, 0⟩
  announce a time := (time + 3, some (a = .ping && time % 2 = 0))
  waitUntil due time := (max time due.wholeSeconds, some ())

/-- The first ping is accepted and ends after three seconds; the registrations and the second ping
are not. The health is good until five minutes after that, and bad from the next nanosecond on. -/
theorem contact_tracked_wavering :
    let h : Heartbeat := { identity := ⟨"db-1", 3002, ⟨"t"⟩, none⟩ }
    let after := (perform wavering [.tick, .submit, .tick] h 0).1.identity
    h.identity.lastContact = none ∧ after.lastContact = some ⟨3, 0⟩ ∧
      after.healthAt ⟨303, 0⟩ (.seconds 300) = .ok ∧ after.healthAt ⟨303, 1⟩ (.seconds 300) = .bad ∧
      after.healthAt ⟨303, 1⟩ (.seconds 299) = .bad ∧
      after.healthAt ⟨400, 0⟩ (.seconds 300) = .bad := by
  intro h after
  obtain ⟨kept, -, -, good, -, shorter, later⟩ := contact_tracked
  have contact : after.lastContact = some ⟨3, 0⟩ :=
    (congrArg Identity.lastContact (kept wavering h 0 [.tick, .submit, .tick] rfl)).trans
      (by decide)
  have bad : after.healthAt ⟨303, 1⟩ (.seconds 300) = .bad := by
    rw [Identity.healthAt, contact]
    decide
  refine ⟨rfl, contact, (good _ _ _).2 ⟨⟨3, 0⟩, contact, by decide⟩, bad,
    shorter _ _ (.seconds 299) (.seconds 300) (by decide) bad, ?_⟩
  refine later after ⟨303, 1⟩ ⟨400, 0⟩ (.seconds 300) ?_ (by decide) (by decide) (by decide) bad
  intro last isLast
  obtain rfl := Option.some.inj (contact.symm.trans isLast)
  decide

end Heartbeat

/-- In a leap second the clock is further from an earlier contact than at the beginning of the next
second: health that was bad becomes good by mere waiting. -/
theorem Identity.exists_health_regained :
    ¬ ∀ (identity : Identity) (now later : Instant) (limit : Span), now.NoLater later →
      identity.healthAt now limit = .bad → identity.healthAt later limit = .bad := by
  intro claimed
  exact absurd (claimed ⟨"db-1", 3002, ⟨""⟩, some .epoch⟩ ⟨59, 1500000000⟩ ⟨60, 0⟩ ⟨60200000000⟩
    (by decide) (by decide)) (by decide)

end ReplicaSeed
