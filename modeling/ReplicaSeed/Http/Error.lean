import ReplicaSeed.Agent.Error
import ReplicaSeed.Json.Basic

/-!
# Error responses

How an error is told over HTTP: a status and a JSON body with a code, a message and, where there is
more to say, details.
-/

namespace ReplicaSeed

/-- Why a request over HTTP was not served. -/
inductive ApiError where
  | invalidToken
  | invalidParameter (name value reason : String)
  | request (e : RequestError)
  deriving DecidableEq, Repr

namespace ApiError

/-- The text of an error. -/
def message : ApiError → String
  | invalidToken => "Invalid token"
  | invalidParameter name value _ => "invalid " ++ name ++ ": " ++ value
  | request e => e.message

/-- The status of the response. -/
def status : ApiError → Nat
  | invalidToken => 500
  | invalidParameter .. => 400
  | request e => e.httpStatus

/-- What is told beyond the message. -/
def details : ApiError → Option Json
  | invalidToken => none
  | invalidParameter name _ reason => some (.obj [("Parameter", name), ("Reason", reason)])
  | request e => some (.obj [("Retriable", .bool e.isRetriable)])

/-- The body of the response. -/
def body (e : ApiError) : Json :=
  .obj ([("Code", Json.str "ERROR"), ("Message", .str e.message)] ++
    (e.details.map fun d => ("Details", d)).toList)

end ApiError

end ReplicaSeed
