import ReplicaSeed.Time.Instant

/-!
# Identity of an agent

What the agent tells the control plane about itself, and when the two last spoke.

## Main definitions

* `Token`: the secret that every request must carry.
* `Identity`: name, port, token and last contact.
* `Identity.healthAt`: whether contact is recent enough.
-/

namespace ReplicaSeed

/-- The secret that a request must carry. -/
structure Token where
  text : String
  deriving DecidableEq

namespace Token

/-- How many random bytes make a token. -/
def entropy : Nat := 32

/-- The token of some random bytes: their digits in base sixteen, two for each. -/
def ofBytes (bytes : List UInt8) : Token where
  text := String.ofList (bytes.flatMap fun b =>
    [Nat.digitChar (b.toNat / 16), Nat.digitChar (b.toNat % 16)])

/-- The presented text is the token. -/
def accepts (token : Token) (presented : String) : Bool := token.text == presented

theorem accepts_iff {token : Token} {presented : String} :
    token.accepts presented = true ↔ presented = token.text := by
  rw [accepts, beq_iff_eq]
  exact eq_comm

/-- The token in a diagnostic, which does not give it away. -/
def diagnostic (_ : Token) : String := "AgentToken(..)"

end Token

/-- Whether the agent has heard from the control plane lately. -/
inductive Health where
  | ok
  | bad
  deriving DecidableEq, Repr

/-- The word for a state of health. -/
def Health.text : Health → String
  | ok => "OK"
  | bad => "BAD"

/-- What the agent tells about itself. -/
structure Identity where
  hostname : String
  port : UInt16
  token : Token
  /-- When the control plane last answered. -/
  lastContact : Option Instant := none
  deriving DecidableEq

namespace Identity

/-- The identity after the control plane has answered. -/
def contacted (identity : Identity) (at_ : Instant) : Identity :=
  { identity with lastContact := some at_ }

/-- The health at a point in time: without any contact it is bad, and it becomes bad when more
than `limit` has gone by. A contact in the future counts as one right now. -/
def healthAt (identity : Identity) (now : Instant) (limit : Span) : Health :=
  match identity.lastContact with
  | none => .bad
  | some last => if (limit.nanos : Int) < last.nanosUntil now then .bad else .ok

end Identity

end ReplicaSeed
