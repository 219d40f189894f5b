import ReplicaSeed.Agent.Identity
import ReplicaSeed.Config.Basic
import ReplicaSeed.Http.Pattern
import ReplicaSeed.Http.Percent
import ReplicaSeed.Http.Response

/-!
# Routes

Which path stands for which request. Every path but that of the health asks for the token before
anything else is looked at.

## Main definitions

* `Request`: a request over HTTP.
* `presentedToken?`: the token that a request carries.
* `Router.ofSettings`: the paths of an agent.
* `Router.route`: what a request asks the agent for.
-/

namespace ReplicaSeed.Http

/-- A request over HTTP. -/
structure Request where
  verb : String
  path : String
  query : String
  headers : List (String × String)
  deriving DecidableEq, Repr

/-- The request with a target: a path, and a query after the first question mark. What follows a
number sign is not part of either. Here any text is a target; over HTTP none has blanks or control
characters in it. -/
def Request.ofTarget (verb target : String) (headers : List (String × String)) : Request :=
  let target := target.toList.takeWhile (· != '#')
  match Text.splitOnce? '?' target with
  | some (path, query) => ⟨verb, String.ofList path, String.ofList query, headers⟩
  | none => ⟨verb, String.ofList target, "", headers⟩

/-! ## The token -/

/-- The characters of a header value that is text. -/
def isHeaderText (c : Char) : Bool := c = '\t' || (32 ≤ c.toNat && c.toNat < 127)

/-- The value of a header, if it is text. Case does not matter in its name. -/
def header? (request : Request) (name : String) : Option String := do
  let (_, value) ← request.headers.find? fun (n, _) =>
    n.toList.map Char.toLower == name.toList.map Char.toLower
  if value.toList.all isHeaderText then some value else none

/-- The token that a request carries: in the header, if one is set and not empty, or else as the
last `token` of the query. -/
def presentedToken? (settings : ApiSettings) (request : Request) : Option String :=
  let inHeader :=
    if settings.tokenHttpHeader = "" then none
    else (header? request settings.tokenHttpHeader).filter (· != "")
  inHeader <|>
    ((formFields request.query).reverse.find? fun (name, _) => name == "token").map (·.2)

/-- The request carries the token. -/
def authorized (settings : ApiSettings) (token : Token) (request : Request) : Bool :=
  (presentedToken? settings request).any token.accepts

/-! ## Routes -/

/-- What stands behind a path. -/
inductive Endpoint where
  | health
  | prepare
  | backup
  | restore
  | cleanup
  | metadata
  | abort
  | stage
  | operation
  | methods
  deriving DecidableEq, Repr

/-- The form of a path below `/api`. -/
def apiPattern (name : String) (parameters : List String) : Pattern :=
  .fixed "" :: .fixed "api" :: .fixed name :: parameters.map (.parameter "")

/-- The paths that do not depend on the settings. -/
def apiRoutes : List (Pattern × Endpoint) :=
  [(apiPattern "prepare" ["seed_id", "method", "side"], .prepare),
    (apiPattern "backup" ["seed_id", "method", "host", "port"], .backup),
    (apiPattern "restore" ["seed_id", "method"], .restore),
    (apiPattern "cleanup" ["seed_id", "method", "side"], .cleanup),
    (apiPattern "get-metadata" ["seed_id", "method"], .metadata),
    (apiPattern "abort-seed-stage" ["seed_id", "stage"], .abort),
    (apiPattern "seed-stage-state" ["seed_id", "stage"], .stage),
    (apiPattern "active-seed" [], .operation),
    (apiPattern "seed-methods" [], .methods)]

/-- The paths of an agent, with its settings. -/
structure Router where
  settings : ApiSettings
  routes : List (Pattern × Endpoint)
  deriving Repr

/-- Why there are no routes for some settings. -/
inductive RouteFault where
  /-- The path of the health has no form. -/
  | malformed (path : String)
  /-- The path of the health cannot be told from another one. -/
  | taken (path : String)
  deriving DecidableEq, Repr

namespace Router

/-- The paths for settings, which say where the health is. -/
def ofSettings (settings : ApiSettings) : Except RouteFault Router :=
  match Pattern.ofText? settings.statusEndpoint with
  | none => .error (.malformed settings.statusEndpoint)
  | some status =>
    if apiRoutes.any fun (pattern, _) => status.clashes pattern then
      .error (.taken settings.statusEndpoint)
    else .ok ⟨settings, (status, .health) :: apiRoutes⟩

/-- The route with the closest form among those that fit a path, with the parameters. -/
def endpoint? (r : Router) (path : String) : Option (Endpoint × List (String × List Char)) :=
  let fitting := r.routes.filterMap fun (pattern, endpoint) =>
    (pattern.parameters? (pieces path)).map fun ps => (pattern, endpoint, ps)
  match fitting with
  | [] => none
  | first :: others =>
    some (others.foldl (fun best next => if next.1.isCloser best.1 then next else best) first).2

end Router

/-- The values of the parameters; each must be text. -/
def decodeParameters (ps : List (String × List Char)) : Except Response (List String) :=
  ps.mapM fun (name, raw) =>
    match Text.decode? (percentDecode raw) with
    | some value => .ok (String.ofList value)
    | none => .error (.notText name)

/-! ## Requests -/

/-- The value of a parameter, or the response to one that cannot be read. -/
def parameter {α : Type} (name value : String) (r : Except NameFault α) : Except Response α :=
  r.mapError fun fault => .ofError (.invalidParameter name value fault.message)

/-- The identifier in a path. -/
def seedId (text : String) : Except Response SeedId :=
  parameter "seed_id" text (SeedId.ofText? text)

/-- The side in a path. -/
def side (text : String) : Except Response Side := parameter "side" text (Side.ofText? text)

/-- The stage in a path. -/
def stage (text : String) : Except Response Stage := parameter "stage" text (Stage.ofText? text)

/-- The port in a path. -/
def port (text : String) : Except Response UInt16 :=
  (Text.readUInt16 (Text.trim text.toList)).mapError fun fault =>
    .ofError (.invalidParameter "port" text fault.message)

/-- What a path asks the agent for. -/
def agentRequest : Endpoint → List String → Except Response AgentRequest
  | .prepare, [id, method, s] => do return .start (← seedId id) method (.prepare (← side s))
  | .backup, [id, method, host, p] => do
    return .start (← seedId id) method (.backup host (← port p))
  | .restore, [id, method] => do return .start (← seedId id) method .restore
  | .cleanup, [id, method, s] => do return .start (← seedId id) method (.cleanup (← side s))
  | .metadata, [id, method] => do return .metadata (← seedId id) method
  | .abort, [id, s] => do return .abort (← seedId id) (← stage s)
  | .stage, [id, s] => do return .stage (← seedId id) (← stage s)
  | .operation, _ => .ok .operation
  | .methods, _ => .ok .methods
  | _, _ => .error .notFound

/-- What a request asks for. -/
inductive Call where
  | health
  | agent (request : AgentRequest)
  deriving DecidableEq, Repr

/-- What a request asks for, or the response to one that is not served. Only reading is allowed;
the token is checked before the parameters are read. -/
def Router.route (r : Router) (token : Token) (request : Request) : Except Response Call :=
  match r.endpoint? request.path with
  | none => .error .notFound
  | some (endpoint, ps) =>
    if request.verb ≠ "GET" ∧ request.verb ≠ "HEAD" then .error .methodNotAllowed
    else if endpoint = .health then .ok .health
    else if authorized r.settings token request then do
      return .agent (← agentRequest endpoint (← decodeParameters ps))
    else .error (.ofError .invalidToken)

/-- The response as it is sent: without its content if only the head is asked for. -/
def Response.sent (request : Request) (r : Response) : Response × Option String :=
  (if request.verb = "HEAD" then { r with body := .empty } else r, r.contentType)

end ReplicaSeed.Http
