import ReplicaSeed.Agent.Error
import ReplicaSeed.ControlPlane.Address
import ReplicaSeed.ControlPlane.Heartbeat
import ReplicaSeed.Http.Status

/-!
# Requests to the control plane

Each announcement is one request over HTTP, and any answer but success is a failure.
-/

namespace ReplicaSeed.ControlPlane

/-- How a request went. -/
inductive Exchange where
  | answered (status : Nat)
  | failed (cause : String)
  deriving DecidableEq, Repr

/-- The address that an announcement goes to. -/
def url (base : String) (identity : Identity) : Announcement → String
  | .submit => submitUrl base identity
  | .ping => pingUrl base

/-- What a request has come to. -/
def Exchange.result : Exchange → Except RequestError Unit
  | answered status =>
    if Http.Status.isSuccess status then .ok ()
    else .error (.controlPlane ("control plane returned status " ++ Http.Status.text status))
  | failed cause => .error (.controlPlane ("request failed: " ++ cause))

end ReplicaSeed.ControlPlane
