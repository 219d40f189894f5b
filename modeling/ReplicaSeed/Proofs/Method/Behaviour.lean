import Mathlib.Data.List.Basic
import ReplicaSeed.Proofs.Method.Path

/-!
# Procedures among things that behave

What surrounds a procedure need not be known to say how it behaves: what an answer to a request can
have done to it. It is open which of these things happens, and a procedure may be stopped before any
of its requests. So what is to be true of the surroundings afterwards has to be true all the way.

## Main definitions

* `Behaviour`: what the requests do to the surroundings.
* `Behaviour.Leads`: the states that exchanges lead to.
* `Behaviour.seen`: the behaviour of a part of the surroundings.
* `Procedure.Ensures`: a condition that holds all the way, and one that holds at the end.

## Main statements

* `Procedure.Ensures.bind`, `Procedure.Ensures.attempt`: procedures that are put together.
* `Procedure.Ensures.on_way`, `Procedure.Ensures.at_end`: what is ensured comes true.
-/

namespace ReplicaSeed

/-- How surroundings behave: the states that a request with its answer can lead to from a state. -/
abbrev Behaviour (I : Interface) (σ : Type) := (q : I.Request) → I.Answer q → σ → σ → Prop

/-- The surroundings behave in this way. -/
def Surroundings.Behaves {I : Interface} {σ : Type} (w : Surroundings I σ) (b : Behaviour I σ) :
    Prop :=
  ∀ q s, b q (w q s).1 s (w q s).2

namespace Behaviour

variable {I : Interface} {σ : Type} {b : Behaviour I σ} {s s' : σ} {x : Exchange I}
  {exchanges more : List (Exchange I)}

/-- Exchanges lead from a state to another. -/
inductive Leads (b : Behaviour I σ) : σ → List (Exchange I) → σ → Prop
  | nil (s : σ) : Leads b s [] s
  | cons {s middle s' : σ} {x : Exchange I} {rest : List (Exchange I)}
      (step : b x.request x.answer s middle) (leads : Leads b middle rest s') :
      Leads b s (x :: rest) s'

@[simp] theorem leads_nil_iff : b.Leads s [] s' ↔ s' = s := by
  constructor
  · rintro ⟨⟩
    rfl
  · rintro rfl
    exact .nil _

theorem leads_cons_iff :
    b.Leads s (x :: exchanges) s' ↔
      ∃ middle, b x.request x.answer s middle ∧ b.Leads middle exchanges s' := by
  constructor
  · rintro ⟨⟩
    exact ⟨_, ‹_›, ‹_›⟩
  · rintro ⟨middle, step, leads⟩
    exact .cons step leads

theorem leads_append_iff :
    b.Leads s (exchanges ++ more) s' ↔
      ∃ middle, b.Leads s exchanges middle ∧ b.Leads middle more s' := by
  induction exchanges generalizing s with
  | nil => simp
  | cons x exchanges ih =>
    simp only [List.cons_append, leads_cons_iff, ih]
    constructor
    · rintro ⟨first, step, middle, leads, rest⟩
      exact ⟨middle, ⟨first, step, leads⟩, rest⟩
    · rintro ⟨middle, ⟨first, step, leads⟩, rest⟩
      exact ⟨first, step, middle, leads, rest⟩

section

variable {runs : List (List (Exchange I))}

/-- One attempt after the other. -/
theorem leads_flatten_cons_iff :
    b.Leads s (exchanges :: runs).flatten s' ↔
      ∃ middle, b.Leads s exchanges middle ∧ b.Leads middle runs.flatten s' := by
  rw [List.flatten_cons, leads_append_iff]

/-- What each of some attempts keeps is kept by all of them. -/
theorem keeps_flatten {P : σ → Prop}
    (keeps : ∀ run ∈ runs, ∀ s s', P s → b.Leads s run s' → P s') (holds : P s)
    (leads : b.Leads s runs.flatten s') : P s' := by
  induction runs generalizing s with
  | nil =>
    obtain rfl := leads_nil_iff.1 leads
    exact holds
  | cons run runs ih =>
    obtain ⟨middle, first, rest⟩ := leads_flatten_cons_iff.1 leads
    exact ih (fun run member => keeps run (.tail _ member))
      (keeps run (.head _) s middle holds first) rest

end

/-- A behaviour of what `f` shows of the surroundings. Anything can happen to the rest. -/
def seen {τ : Type} (b : Behaviour I τ) (f : σ → τ) : Behaviour I σ :=
  fun q answer s s' => b q answer (f s) (f s')

theorem Leads.of_seen {τ : Type} {b : Behaviour I τ} {f : σ → τ}
    (leads : (b.seen f).Leads s exchanges s') : b.Leads (f s) exchanges (f s') := by
  induction leads with
  | nil s => exact .nil (f s)
  | cons step leads ih => exact .cons step ih

theorem leads_runIn {α : Type} {w : Surroundings I σ} (behaves : w.Behaves b) (x : Procedure I α)
    (s : σ) : b.Leads s (x.runIn w s).exchanges (x.runIn w s).final := by
  induction x generalizing s with
  | done a => exact .nil s
  | fail e => exact .nil s
  | ask q next ih => exact .cons (behaves q s) (ih _ _)

end Behaviour

namespace Procedure

variable {I : Interface} {α β σ : Type} {b : Behaviour I σ} {P : σ → Prop} {s : σ}

/-- Every state on the way has `P`, and a procedure that comes to a result has `Q` with it. -/
def Ensures (b : Behaviour I σ) (P : σ → Prop) :
    Procedure I α → (Except MethodError α → σ → Prop) → σ → Prop
  | done a, Q, s => P s ∧ Q (.ok a) s
  | fail e, Q, s => P s ∧ Q (.error e) s
  | ask q next, Q, s => P s ∧ ∀ answer s', b q answer s s' → (next answer).Ensures b P Q s'

namespace Ensures

variable {x : Procedure I α} {f : α → Procedure I β} {Q Q' : Except MethodError α → σ → Prop}
  {R : Except MethodError β → σ → Prop} {exchanges : List (Exchange I)}
  {result : Except MethodError α}

theorem start (h : x.Ensures b P Q s) : P s := by
  cases x <;> exact h.1

theorem mono (h : x.Ensures b P Q s) (imp : ∀ r s', P s' → Q r s' → Q' r s') :
    x.Ensures b P Q' s := by
  induction x generalizing s with
  | done a => exact ⟨h.1, imp _ _ h.1 h.2⟩
  | fail e => exact ⟨h.1, imp _ _ h.1 h.2⟩
  | ask q next ih => exact ⟨h.1, fun answer s' step => ih answer (h.2 answer s' step)⟩

/-- The second procedure starts where the first is done. -/
theorem bind (h : x.Ensures b P Q s)
    (ok : ∀ a s', P s' → Q (.ok a) s' → (f a).Ensures b P R s')
    (error : ∀ e s', P s' → Q (.error e) s' → R (.error e) s') : (x >>= f).Ensures b P R s := by
  induction x generalizing s with
  | done a => exact ok a s h.1 h.2
  | fail e => exact ⟨h.1, error e s h.1 h.2⟩
  | ask q next ih => exact ⟨h.1, fun answer s' step => ih answer (h.2 answer s' step)⟩

/-- An attempt comes to a result in any case. -/
theorem attempt (h : x.Ensures b P Q s) :
    x.attempt.Ensures b P (fun r s' => ∃ tried, r = .ok tried ∧ Q tried s') s := by
  induction x generalizing s with
  | done a => exact ⟨h.1, _, rfl, h.2⟩
  | fail e => exact ⟨h.1, _, rfl, h.2⟩
  | ask q next ih => exact ⟨h.1, fun answer s' step => ih answer (h.2 answer s' step)⟩

theorem ofExcept {r : Except MethodError α} (holds : P s) (h : Q r s) :
    (Procedure.ofExcept r : Procedure I α).Ensures b P Q s := by
  cases r <;> exact ⟨holds, h⟩

/-- Wherever a procedure stops, the condition holds. -/
theorem on_way (h : x.Ensures b P Q s) (path : x.Path exchanges result)
    {run : List (Exchange I)} (stopped : run <+: exchanges) {s' : σ}
    (leads : b.Leads s run s') : P s' := by
  induction path generalizing s run with
  | done a =>
    obtain rfl := List.prefix_nil.1 stopped
    obtain rfl := Behaviour.leads_nil_iff.1 leads
    exact h.start
  | fail e =>
    obtain rfl := List.prefix_nil.1 stopped
    obtain rfl := Behaviour.leads_nil_iff.1 leads
    exact h.start
  | ask a rest ih =>
    obtain rfl | ⟨run, rfl, before⟩ := List.prefix_cons_iff.1 stopped
    · obtain rfl := Behaviour.leads_nil_iff.1 leads
      exact h.start
    · obtain ⟨middle, step, leads⟩ := Behaviour.leads_cons_iff.1 leads
      exact ih (h.2 _ _ step) before leads

/-- A procedure comes to its result as it is ensured. -/
theorem at_end (h : x.Ensures b P Q s) (path : x.Path exchanges result) {s' : σ}
    (leads : b.Leads s exchanges s') : Q result s' := by
  induction path generalizing s with
  | done a =>
    obtain rfl := Behaviour.leads_nil_iff.1 leads
    exact h.2
  | fail e =>
    obtain rfl := Behaviour.leads_nil_iff.1 leads
    exact h.2
  | ask a rest ih =>
    obtain ⟨middle, step, leads⟩ := Behaviour.leads_cons_iff.1 leads
    exact ih (h.2 _ _ step) leads

end Ensures

end Procedure

end ReplicaSeed
