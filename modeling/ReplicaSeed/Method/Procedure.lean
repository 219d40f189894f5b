import ReplicaSeed.Method.Error

/-!
# Procedures

What a seed method does in a stage, step by step: a procedure asks its surroundings for something
and goes on with the answer, until it is done or fails. What the answers are is left to whoever runs
it.

## Main definitions

* `Interface`: what can be asked, and the type of each answer.
* `Procedure`: the steps.
* `Procedure.attempt`: a procedure whose failure is a result.
* `Interface.sum`, `Procedure.widen`: a procedure where more can be asked.
-/

namespace ReplicaSeed

/-- What a procedure may ask for, and the type of the answer to each request. -/
structure Interface where
  Request : Type
  Answer : Request → Type

/-- The steps that lead to a result or to a failure. -/
inductive Procedure (I : Interface) (α : Type) where
  | done (a : α)
  | fail (e : MethodError)
  | ask (request : I.Request) (next : I.Answer request → Procedure I α)

namespace Procedure

variable {I J : Interface} {α β γ : Type}

/-- One procedure after another; a failure of the first is the failure of both. -/
def bind : Procedure I α → (α → Procedure I β) → Procedure I β
  | done a, f => f a
  | fail e, _ => fail e
  | ask request next, f => ask request fun answer => (next answer).bind f

instance : Monad (Procedure I) where
  pure := done
  bind := bind

@[simp] theorem pure_eq (a : α) : (pure a : Procedure I α) = done a := rfl

@[simp] theorem done_bind (a : α) (f : α → Procedure I β) : done a >>= f = f a := rfl

@[simp] theorem fail_bind (e : MethodError) (f : α → Procedure I β) : fail e >>= f = fail e := rfl

@[simp] theorem ask_bind (request : I.Request) (next : I.Answer request → Procedure I α)
    (f : α → Procedure I β) :
    ask request next >>= f = ask request fun answer => next answer >>= f := rfl

theorem bind_done (x : Procedure I α) : x.bind done = x := by
  induction x with
  | done a => rfl
  | fail e => rfl
  | ask request next ih => simp only [bind, ih]

theorem bind_bind (x : Procedure I α) (f : α → Procedure I β) (g : β → Procedure I γ) :
    (x.bind f).bind g = x.bind fun a => (f a).bind g := by
  induction x with
  | done a => rfl
  | fail e => rfl
  | ask request next ih => simp only [bind, ih]

instance : LawfulMonad (Procedure I) :=
  .mk' _ (fun x => bind_done x) (fun _ _ => rfl) (fun x f g => bind_bind x f g)

/-- Asks for something and gives the answer. -/
def request (q : I.Request) : Procedure I (I.Answer q) := ask q done

/-- A result that may be a failure. -/
def ofExcept : Except MethodError α → Procedure I α
  | .ok a => done a
  | .error e => fail e

/-- The procedure with its failure as a result. -/
def attempt : Procedure I α → Procedure I (Except MethodError α)
  | done a => done (.ok a)
  | fail e => done (.error e)
  | ask request next => ask request fun answer => (next answer).attempt

end Procedure

/-- The requests of two interfaces. -/
def Interface.sum (I J : Interface) : Interface where
  Request := I.Request ⊕ J.Request
  Answer := Sum.elim I.Answer J.Answer

/-- The procedure where the requests of `J` can be made as well. -/
def Procedure.widen {I J : Interface} {α : Type} : Procedure I α → Procedure (I.sum J) α
  | done a => done a
  | fail e => fail e
  | ask request next => ask (.inl request) fun answer => (next answer).widen

end ReplicaSeed
