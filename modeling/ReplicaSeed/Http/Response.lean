import ReplicaSeed.Agent.Identity
import ReplicaSeed.Agent.Request
import ReplicaSeed.Http.Error
import ReplicaSeed.Operation.Wire

/-!
# Responses

What the agent sends back over HTTP: text for short answers, JSON for everything with parts.
-/

namespace ReplicaSeed.Http

/-- The content of a response. -/
inductive Body where
  | empty
  | text (s : String)
  | json (v : Json)

/-- A response. -/
structure Response where
  status : Nat
  body : Body := .empty

namespace Response

/-- The type of the content. -/
def contentType (r : Response) : Option String :=
  match r.body with
  | .empty => none
  | .text _ => some "text/plain; charset=utf-8"
  | .json _ => some "application/json"

/-- The response to an error. -/
def ofError (e : ApiError) : Response := ⟨e.status, .json e.body⟩

/-- Nothing is found under the path. -/
def notFound : Response := ⟨404, .empty⟩

/-- The path does not take the verb. -/
def methodNotAllowed : Response := ⟨405, .empty⟩

/-- A parameter of the path is not text. -/
def notText (parameter : String) : Response :=
  ⟨400, .text ("Invalid URL: Invalid UTF-8 in `" ++ parameter ++ "`")⟩

/-- The response that tells the health of the agent. -/
def ofHealth (h : Health) : Response :=
  ⟨match h with
    | .ok => 200
    | .bad => 500, .text h.text⟩

/-- A stage that was started is accepted; one that had been is just confirmed. -/
def outcomeStatus : StartOutcome → Nat
  | .started => 202
  | .alreadyStarted _ => 200

/-- The response to a request that was answered. -/
def ofAnswer : AgentAnswer → Response
  | .start outcome => ⟨outcomeStatus outcome, .text outcome.message⟩
  | .coordinates c => ⟨200, .json c.toJson⟩
  | .aborted id stage => ⟨200, .text (stage.name ++ " stage of seed " ++ id.text ++ " aborted")⟩
  | .record r => ⟨200, .json r.toJson⟩
  | .operation none => ⟨200, .json .null⟩
  | .operation (some op) => ⟨200, .json op.toJson⟩
  | .methods ds => ⟨200, .json (.arr (ds.map Descriptor.toJson))⟩

/-- The response to a request. -/
def ofResult : Except RequestError AgentAnswer → Response
  | .ok answer => ofAnswer answer
  | .error e => ofError (.request e)

end Response

end ReplicaSeed.Http
