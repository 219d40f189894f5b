import ReplicaSeed.Method.Procedure

/-!
# The paths through a procedure

A procedure that is run makes one request after the other, each with the answer that its
surroundings give, and comes to a result. What the surroundings do is left open: they may have a
state of their own, and give any answer to any request.

## Main definitions

* `Procedure.runIn`: a procedure in its surroundings.
* `Procedure.Path`: the exchanges that a procedure can make, with the result that they lead to.

## Main statements

* `Procedure.path_runIn`: a run goes along a path.
* `Procedure.path_bind_iff`, `path_attempt_iff`: the paths through procedures that are put together.
-/

namespace ReplicaSeed

/-- A request with its answer. -/
structure Exchange (I : Interface) where
  request : I.Request
  answer : I.Answer request

/-- What answers the requests of a procedure, and changes with each of them. -/
abbrev Surroundings (I : Interface) (σ : Type) := (q : I.Request) → σ → I.Answer q × σ

/-- What became of a procedure, and of its surroundings. -/
structure Outcome (I : Interface) (α σ : Type) where
  exchanges : List (Exchange I)
  result : Except MethodError α
  final : σ

namespace Procedure

variable {I : Interface} {α β σ : Type}

/-- Runs a procedure in its surroundings. -/
def runIn (w : Surroundings I σ) : Procedure I α → σ → Outcome I α σ
  | .done a, s => ⟨[], .ok a, s⟩
  | .fail e, s => ⟨[], .error e, s⟩
  | .ask q next, s =>
    let out := (next (w q s).1).runIn w (w q s).2
    { out with exchanges := ⟨q, (w q s).1⟩ :: out.exchanges }

/-- The exchanges that a procedure can make, and the result that they lead to. -/
inductive Path : Procedure I α → List (Exchange I) → Except MethodError α → Prop
  | done (a : α) : Path (.done a) [] (.ok a)
  | fail (e : MethodError) : Path (.fail e) [] (.error e)
  | ask {q : I.Request} {next : I.Answer q → Procedure I α} (a : I.Answer q)
      {exchanges : List (Exchange I)} {result : Except MethodError α}
      (rest : Path (next a) exchanges result) : Path (.ask q next) (⟨q, a⟩ :: exchanges) result

variable {x : Procedure I α} {f : α → Procedure I β} {exchanges : List (Exchange I)}

theorem path_runIn (w : Surroundings I σ) (x : Procedure I α) (s : σ) :
    x.Path (x.runIn w s).exchanges (x.runIn w s).result := by
  induction x generalizing s with
  | done a => exact .done a
  | fail e => exact .fail e
  | ask q next ih => exact .ask _ (ih _ _)

theorem result_ask (w : Surroundings I σ) (q : I.Request) (next : I.Answer q → Procedure I α)
    (s : σ) : ((ask q next).runIn w s).result = ((next (w q s).1).runIn w (w q s).2).result :=
  rfl

theorem path_done_iff {a : α} {result : Except MethodError α} :
    (done a : Procedure I α).Path exchanges result ↔ exchanges = [] ∧ result = .ok a := by
  constructor
  · rintro ⟨⟩
    exact ⟨rfl, rfl⟩
  · rintro ⟨rfl, rfl⟩
    exact .done a

theorem path_fail_iff {e : MethodError} {result : Except MethodError α} :
    (fail e : Procedure I α).Path exchanges result ↔ exchanges = [] ∧ result = .error e := by
  constructor
  · rintro ⟨⟩
    exact ⟨rfl, rfl⟩
  · rintro ⟨rfl, rfl⟩
    exact .fail e

theorem path_ask_iff {q : I.Request} {next : I.Answer q → Procedure I α}
    {result : Except MethodError α} :
    (ask q next).Path exchanges result ↔
      ∃ a rest, exchanges = ⟨q, a⟩ :: rest ∧ (next a).Path rest result := by
  constructor
  · rintro ⟨⟩
    exact ⟨_, _, rfl, ‹_›⟩
  · rintro ⟨a, rest, rfl, path⟩
    exact .ask a path

/-- The second procedure goes on where the first is done. -/
theorem path_bind_iff {result : Except MethodError β} :
    (x >>= f).Path exchanges result ↔
      (∃ e, x.Path exchanges (.error e) ∧ result = .error e) ∨
      ∃ a first rest,
        exchanges = first ++ rest ∧ x.Path first (.ok a) ∧ (f a).Path rest result := by
  induction x generalizing exchanges with
  | done a =>
    rw [done_bind]
    simp only [path_done_iff, reduceCtorEq, and_false, false_and, exists_false, false_or,
      Except.ok.injEq]
    constructor
    · exact fun path => ⟨a, [], exchanges, rfl, ⟨rfl, rfl⟩, path⟩
    · rintro ⟨_, _, rest, rfl, ⟨rfl, rfl⟩, path⟩
      exact path
  | fail e =>
    rw [fail_bind]
    simp only [path_fail_iff, reduceCtorEq, and_false, false_and, exists_false, or_false,
      Except.error.injEq]
    constructor
    · rintro ⟨rfl, rfl⟩
      exact ⟨e, ⟨rfl, rfl⟩, rfl⟩
    · rintro ⟨_, ⟨rfl, rfl⟩, rfl⟩
      exact ⟨rfl, rfl⟩
  | ask q next ih =>
    rw [ask_bind]
    simp only [path_ask_iff, ih]
    constructor
    · rintro ⟨a, rest, rfl, ⟨e, path, rfl⟩ | ⟨b, first, last, rfl, path, after⟩⟩
      · exact .inl ⟨e, ⟨a, rest, rfl, path⟩, rfl⟩
      · exact .inr ⟨b, _ :: first, last, rfl, ⟨a, first, rfl, path⟩, after⟩
    · rintro (⟨e, ⟨a, rest, rfl, path⟩, rfl⟩ | ⟨b, _, last, rfl, ⟨a, first, rfl, path⟩, after⟩)
      · exact ⟨a, rest, rfl, .inl ⟨e, path, rfl⟩⟩
      · exact ⟨a, first ++ last, rfl, .inr ⟨b, first, last, rfl, path, after⟩⟩

theorem path_attempt_iff {result : Except MethodError (Except MethodError α)} :
    x.attempt.Path exchanges result ↔ ∃ r, result = .ok r ∧ x.Path exchanges r := by
  induction x generalizing exchanges with
  | done a =>
    simp only [attempt, path_done_iff]
    constructor
    · rintro ⟨rfl, rfl⟩
      exact ⟨_, rfl, rfl, rfl⟩
    · rintro ⟨_, rfl, rfl, rfl⟩
      exact ⟨rfl, rfl⟩
  | fail e =>
    simp only [attempt, path_done_iff, path_fail_iff]
    constructor
    · rintro ⟨rfl, rfl⟩
      exact ⟨_, rfl, rfl, rfl⟩
    · rintro ⟨_, rfl, rfl, rfl⟩
      exact ⟨rfl, rfl⟩
  | ask q next ih =>
    simp only [attempt, path_ask_iff, ih]
    constructor
    · rintro ⟨a, rest, rfl, r, rfl, path⟩
      exact ⟨r, rfl, a, rest, rfl, path⟩
    · rintro ⟨r, rfl, a, rest, rfl, path⟩
      exact ⟨a, rest, rfl, r, rfl, path⟩

/-- What comes after an attempt comes in any case. -/
theorem path_attempt_bind_iff {g : Except MethodError α → Procedure I β}
    {result : Except MethodError β} :
    (x.attempt >>= g).Path exchanges result ↔
      ∃ r first rest, exchanges = first ++ rest ∧ x.Path first r ∧ (g r).Path rest result := by
  simp only [path_bind_iff, path_attempt_iff]
  constructor
  · rintro (⟨e, ⟨r, ⟨⟩, -⟩, -⟩ | ⟨r, first, rest, rfl, ⟨_, ⟨⟩, path⟩, after⟩)
    exact ⟨r, first, rest, rfl, path, after⟩
  · rintro ⟨r, first, rest, rfl, path, after⟩
    exact .inr ⟨r, first, rest, rfl, ⟨r, rfl, path⟩, after⟩

end Procedure

end ReplicaSeed
