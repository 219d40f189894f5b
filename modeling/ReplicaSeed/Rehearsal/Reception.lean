import ReplicaSeed.ControlPlane.Client
import ReplicaSeed.Http.Url

/-!
# A rehearsed control plane

Whoever is at the other end of a request of the agent: nobody, someone who does not speak HTTP, or a
server that answers every request with one status.
-/

namespace ReplicaSeed.Rehearsal

/-- Who is at the other end. -/
inductive Reception where
  | nobody
  | garbled
  | answers (status : Nat)
  deriving DecidableEq, Repr

/-- What comes of a request that reaches the other end. -/
def Reception.exchange : Reception → ControlPlane.Exchange
  | nobody => .failed "nobody answers"
  | garbled => .failed "the answer is not understood"
  | answers status =>
    if Http.Status.isCode status ∧ !Http.Status.isInterim status then .answered status
    else .failed "the answer is not understood"

/-- Sends a request for an address. Gives what has arrived at the other end. -/
def Reception.send (r : Reception) (url : String) : Option String × ControlPlane.Exchange :=
  match Http.Url.ofText? url with
  | none => (none, .failed "the address is not understood")
  | some u => (if r = nobody then none else some ("GET " ++ u.target), r.exchange)

end ReplicaSeed.Rehearsal
