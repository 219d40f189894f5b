import ReplicaSeed.Agent.Identity
import ReplicaSeed.Text.Blank

/-!
# Addresses of the control plane

Where the agents' interface of the control plane is, and the addresses of the requests to it.
-/

namespace ReplicaSeed.ControlPlane

/-- The base address: the address of the control plane without slashes at its end, and the port of
the agents' interface. -/
def baseUrl (url : String) (agentsPort : UInt16) : String :=
  String.ofList (Text.dropEndWhile (· == '/') url.toList) ++ ":" ++ toString agentsPort.toNat

/-- The address of a ping. -/
def pingUrl (base : String) : String := base ++ "/api/agent-ping"

/-- The address of a registration. -/
def submitUrl (base : String) (identity : Identity) : String :=
  base ++ "/api/submit-agent/" ++ identity.hostname ++ "/" ++ toString identity.port.toNat ++ "/" ++
    identity.token.text

end ReplicaSeed.ControlPlane
