import ReplicaSeed.Proofs.Http.Query
import ReplicaSeed.Rehearsal.Session

/-!
# The token guards every path

A request presents a token in one of two places. Whoever presents another token than that of the
agent, or none, learns nothing but that, and changes nothing.

## Main definitions

* `InHeader`, `InQuery`: a token in its place.
* `Presents`: the token that a request presents.
* `read`: what a path asks for once the token has been accepted.
* `refused`: the answer to a request with the wrong token.

## Main statements

* `presentedToken?_eq_some_iff`: the token that is looked at is the one that is presented.
* `ReadsUnless.read`, `ofResult_sent_ne_refused`: no other answer looks like a refusal.
* `World.serve_of_presents`, `World.serve_of_not_presents`: what becomes of a request.
* `World.token_guards`: a request is let through exactly if it presents the token of the agent.
-/

namespace ReplicaSeed

namespace Http

/-! ## The presented token -/

/-- Two names of headers that differ in case only. -/
def SameHeader (a b : String) : Prop := a.toList.map Char.toLower = b.toList.map Char.toLower

instance (a b : String) : Decidable (SameHeader a b) := inferInstanceAs (Decidable (_ = _))

/-- The header that the settings name has this value, which is text. The first of several headers of
that name counts. -/
structure InHeader (settings : ApiSettings) (request : Request) (value : String) : Prop where
  configured : settings.tokenHttpHeader ≠ ""
  first : ∃ before name after, request.headers = before ++ (name, value) :: after ∧
    SameHeader name settings.tokenHttpHeader ∧
    ∀ h ∈ before, ¬ SameHeader h.1 settings.tokenHttpHeader
  printable : ∀ c ∈ value.toList, isHeaderText c
  nonempty : value ≠ ""

/-- The last `token` of the query has this value. -/
def InQuery (request : Request) (value : String) : Prop := LastField request.query "token" value

/-- The token that a request presents. The query counts only where the header does not. -/
inductive Presents (settings : ApiSettings) (request : Request) : String → Prop
  | header {value : String} (h : InHeader settings request value) : Presents settings request value
  | query {value : String} (none : ∀ other, ¬ InHeader settings request other)
      (h : InQuery request value) : Presents settings request value

/-- The token in the header, if the settings name one and it counts. -/
def headerToken? (settings : ApiSettings) (request : Request) : Option String :=
  if settings.tokenHttpHeader = "" then none
  else (header? request settings.tokenHttpHeader).filter (· != "")

/-- The token in the query. -/
def queryToken? (request : Request) : Option String :=
  ((formFields request.query).reverse.find? fun (name, _) => name == "token").map (·.2)

section

variable {settings : ApiSettings} {request : Request} {name value : String}

theorem presentedToken?_eq :
    presentedToken? settings request = (headerToken? settings request <|> queryToken? request) :=
  rfl

theorem header?_eq_some_iff :
    header? request name = some value ↔
      (∃ before n after, request.headers = before ++ (n, value) :: after ∧ SameHeader n name ∧
        ∀ h ∈ before, ¬ SameHeader h.1 name) ∧ ∀ c ∈ value.toList, isHeaderText c := by
  simp only [header?, Option.bind_eq_bind, Option.bind_eq_some_iff, Prod.exists,
    List.find?_eq_some_iff_append, beq_iff_eq, Option.ite_none_right_eq_some, Option.some.injEq,
    List.all_eq_true, Bool.not_eq_eq_eq_not, Bool.not_true, beq_eq_false_iff_ne]
  constructor
  · rintro ⟨n, _, ⟨same, before, after, split, other⟩, text, rfl⟩
    exact ⟨⟨before, n, after, split, same, other⟩, text⟩
  · rintro ⟨⟨before, n, after, split, same, other⟩, text⟩
    exact ⟨n, value, ⟨same, before, after, split, other⟩, text, rfl⟩

theorem headerToken?_eq_some_iff :
    headerToken? settings request = some value ↔ InHeader settings request value := by
  unfold headerToken?
  split
  · next unset => exact ⟨nofun, fun h => absurd unset h.configured⟩
  · next configured =>
    simp only [Option.filter_eq_some_iff, header?_eq_some_iff, bne_iff_ne]
    constructor
    · rintro ⟨⟨first, printable⟩, nonempty⟩
      exact ⟨configured, first, printable, nonempty⟩
    · rintro ⟨-, first, printable, nonempty⟩
      exact ⟨⟨first, printable⟩, nonempty⟩

theorem queryToken?_eq_some_iff : queryToken? request = some value ↔ InQuery request value := by
  simp only [queryToken?, Option.map_eq_some_iff, Prod.exists, exists_eq_right, InQuery,
    lastField_iff, List.find?_eq_some_iff_append, beq_iff_eq, Bool.not_eq_eq_eq_not, Bool.not_true,
    beq_eq_false_iff_ne]
  constructor
  · rintro ⟨_, rfl, after, before, split, other⟩
    refine ⟨before.reverse, after.reverse, ?_, fun field member => ?_⟩
    · rw [← List.reverse_reverse (formFields request.query), split]
      simp
    · exact other field (List.mem_reverse.1 member)
  · rintro ⟨before, after, split, other⟩
    refine ⟨_, rfl, after.reverse, before.reverse, by simp [split], fun field member => ?_⟩
    exact other field (List.mem_reverse.1 member)

/-- The token that is looked at is the one that the request presents. -/
theorem presentedToken?_eq_some_iff :
    presentedToken? settings request = some value ↔ Presents settings request value := by
  rw [presentedToken?_eq]
  cases header : headerToken? settings request with
  | some other =>
    have there := headerToken?_eq_some_iff.1 header
    constructor
    · rintro ⟨⟩
      exact .header there
    · rintro (h | ⟨none, -⟩)
      · rw [← headerToken?_eq_some_iff.2 h, header]
        rfl
      · exact absurd there (none other)
  | none =>
    have absent : ∀ other, ¬ InHeader settings request other := fun other h => by
      have found := headerToken?_eq_some_iff.2 h
      rw [header] at found
      cases found
    constructor
    · exact fun found => .query absent (queryToken?_eq_some_iff.1 found)
    · rintro (h | ⟨-, h⟩)
      · exact absurd h (absent value)
      · exact queryToken?_eq_some_iff.2 h

theorem authorized_iff {token : Token} :
    authorized settings token request = true ↔ Presents settings request token.text := by
  rw [authorized, Option.any_eq_true]
  simp only [presentedToken?_eq_some_iff, Token.accepts_iff, exists_eq_right]

/-- A request presents one token at most. -/
theorem Presents.unique {other : String} (h : Presents settings request value)
    (h' : Presents settings request other) : value = other :=
  Option.some.inj
    ((presentedToken?_eq_some_iff.2 h).symm.trans (presentedToken?_eq_some_iff.2 h'))

end

/-! ## Parameters that cannot be read -/

/-- What a path asks the agent for, with its parameters read. -/
def read (endpoint : Endpoint) (ps : List (String × List Char)) :
    Except Response AgentRequest :=
  decodeParameters ps >>= agentRequest endpoint

/-- A response to a request whose path cannot be read. -/
def Unread (response : Response) : Prop := response.status = 400 ∨ response.status = 404

/-- If there is no value, it is because a path cannot be read. -/
def ReadsUnless {α : Type} (x : Except Response α) : Prop :=
  ∀ response, x = .error response → Unread response

namespace ReadsUnless

variable {α β : Type} {x : Except Response α} {f : α → Except Response β}

theorem ok (a : α) : ReadsUnless (.ok a) := nofun

theorem bind (hx : ReadsUnless x) (hf : ∀ a, ReadsUnless (f a)) : ReadsUnless (x >>= f) := by
  intro response failed
  cases x with
  | error e =>
    obtain rfl := Except.error.inj failed
    exact hx e rfl
  | ok a => exact hf a response failed

theorem mapError {ε : Type} {g : ε → Response} (h : ∀ e, Unread (g e)) (x : Except ε α) :
    ReadsUnless (x.mapError g) := by
  intro response failed
  cases x with
  | error e =>
    obtain rfl := Except.error.inj failed
    exact h e
  | ok a => cases failed

theorem parameter (name value : String) (x : Except NameFault α) :
    ReadsUnless (Http.parameter name value x) :=
  mapError (fun _ => .inl rfl) x

theorem port (text : String) : ReadsUnless (Http.port text) :=
  mapError (fun _ => .inl rfl) (Text.readUInt16 (Text.trim text.toList))

theorem mapM {l : List α} (h : ∀ a ∈ l, ReadsUnless (f a)) : ReadsUnless (l.mapM f) := by
  induction l with
  | nil => exact ok []
  | cons a l ih =>
    rw [List.mapM_cons]
    exact bind (h a (.head l)) fun _ => bind (ih fun b member => h b (.tail a member)) fun _ => ok _

theorem decodeParameters (ps : List (String × List Char)) :
    ReadsUnless (Http.decodeParameters ps) := by
  refine mapM fun (name, raw) _ response failed => ?_
  cases text : Text.decode? (percentDecode raw) with
  | some value => simp [text] at failed
  | none =>
    obtain rfl : Response.notText name = response := by simpa [text] using failed
    exact .inl rfl

theorem agentRequest (endpoint : Endpoint) (values : List String) :
    ReadsUnless (Http.agentRequest endpoint values) := by
  fun_cases Http.agentRequest endpoint values with
  | case1 | case4 => exact bind (parameter _ _ _) fun _ => bind (parameter _ _ _) fun _ => ok _
  | case2 => exact bind (parameter _ _ _) fun _ => bind (port _) fun _ => ok _
  | case3 | case5 => exact bind (parameter _ _ _) fun _ => ok _
  | case6 | case7 => exact bind (parameter _ _ _) fun _ => bind (parameter _ _ _) fun _ => ok _
  | case8 | case9 => exact ok _
  | case10 =>
    rintro _ ⟨⟩
    exact .inr rfl

theorem read (endpoint : Endpoint) (ps : List (String × List Char)) :
    ReadsUnless (Http.read endpoint ps) :=
  bind (decodeParameters ps) (agentRequest endpoint)

end ReadsUnless

/-! ## What becomes of a request -/

/-- The answer to a request with the wrong token, with its type. -/
def refused : Response × Option String :=
  (⟨500, .json (.obj [("Code", .str "ERROR"), ("Message", .str "Invalid token")])⟩,
    some "application/json")

section

variable {r : Router} {token : Token} {request : Request} {endpoint : Endpoint}
  {ps : List (String × List Char)}

theorem route_of_presents (verb : request.verb = "GET")
    (path : r.endpoint? request.path = some (endpoint, ps)) (guarded : endpoint ≠ .health)
    (presents : Presents r.settings request token.text) :
    r.route token request = (read endpoint ps).map .agent := by
  have passed := authorized_iff.2 presents
  simp only [Router.route, path, verb, guarded, passed, read]
  cases decodeParameters ps with
  | error response => rfl
  | ok values => cases agentRequest endpoint values <;> rfl

theorem route_of_not_presents (verb : request.verb = "GET")
    (path : r.endpoint? request.path = some (endpoint, ps)) (guarded : endpoint ≠ .health)
    (absent : ¬ Presents r.settings request token.text) :
    r.route token request = .error (.ofError .invalidToken) := by
  simp [Router.route, path, verb, guarded, authorized_iff, absent]

theorem sent_invalidToken (verb : request.verb = "GET") :
    (Response.ofError .invalidToken).sent request = refused := by
  simp only [Response.sent, verb]
  rfl

theorem status_sent (request : Request) (response : Response) :
    (response.sent request).1.status = response.status := by
  unfold Response.sent
  split <;> rfl

/-- Whatever has another status is told apart. -/
theorem sent_ne_refused {response : Response} (status : response.status ≠ 500) :
    response.sent request ≠ refused := by
  intro same
  rw [← status_sent request, same] at status
  exact status rfl

theorem Unread.sent_ne_refused {response : Response} (h : Unread response) :
    response.sent request ≠ refused := by
  refine Http.sent_ne_refused ?_
  obtain status | status := h <;> rw [status] <;> decide

theorem status_ofAnswer (answer : AgentAnswer) : (Response.ofAnswer answer).status ≠ 500 := by
  cases answer with
  | start outcome => cases outcome <;> simp [Response.ofAnswer, Response.outcomeStatus]
  | operation op => cases op <;> simp [Response.ofAnswer]
  | _ => simp [Response.ofAnswer]

/-- What the agent answers is no refusal. Its errors can have the same status; their details tell
whether to try again, and a refusal has no details. -/
theorem ofResult_sent_ne_refused (verb : request.verb = "GET")
    (result : Except RequestError AgentAnswer) :
    (Response.ofResult result).sent request ≠ refused := by
  cases result with
  | ok answer => exact sent_ne_refused (status_ofAnswer answer)
  | error e =>
    simp [Response.ofResult, Response.ofError, Response.sent, verb, refused, ApiError.body,
      ApiError.details]

end

end Http

namespace Rehearsal.World

open Http

variable {w : World} {request : Request} {endpoint : Endpoint} {ps : List (String × List Char)}

/-- A request with the wrong token is refused, and nothing changes. -/
theorem serve_of_not_presents (verb : request.verb = "GET")
    (path : w.router.endpoint? request.path = some (endpoint, ps)) (guarded : endpoint ≠ .health)
    (absent : ¬ Presents w.router.settings request w.identity.token.text) :
    w.serve request = (w, some refused) := by
  simp only [serve, route_of_not_presents verb path guarded absent, sent_invalidToken verb]

/-- A request with the token is not taken for one without. -/
theorem serve_of_presents (verb : request.verb = "GET")
    (path : w.router.endpoint? request.path = some (endpoint, ps)) (guarded : endpoint ≠ .health)
    (presents : Presents w.router.settings request w.identity.token.text) :
    (w.serve request).2 ≠ some refused := by
  unfold serve
  rw [route_of_presents verb path guarded presents]
  cases reads : read endpoint ps with
  | error response =>
    have unread := ReadsUnless.read endpoint ps response reads
    exact fun same => unread.sent_ne_refused (Option.some.inj same)
  | ok asked =>
    intro same
    obtain ⟨result, -, refusal⟩ := Option.map_eq_some_iff.1 same
    exact ofResult_sent_ne_refused verb result refusal

/-- Behind every path but that of the health, a request is let through exactly if it presents the
token of the agent: then its parameters are read. In any other case it is refused, whatever the
agent is doing, which goes on undisturbed. A wrong token in the header is not made up for by the
right one in the query. -/
theorem token_guards (verb : request.verb = "GET")
    (path : w.router.endpoint? request.path = some (endpoint, ps)) (guarded : endpoint ≠ .health) :
    ((w.serve request).2 ≠ some refused ↔
      Presents w.router.settings request w.identity.token.text) ∧
    (Presents w.router.settings request w.identity.token.text →
      w.router.route w.identity.token request = (read endpoint ps).map .agent) ∧
    (¬ Presents w.router.settings request w.identity.token.text →
      ∀ w' : World, w'.router = w.router → w'.identity.token = w.identity.token →
        w'.serve request = (w', some refused)) ∧
    ∀ value, InHeader w.router.settings request value → value ≠ w.identity.token.text →
      ¬ Presents w.router.settings request w.identity.token.text := by
  refine ⟨⟨fun answered => ?_, serve_of_presents verb path guarded⟩,
    route_of_presents verb path guarded, fun absent w' router token => ?_,
    fun value header wrong presents => wrong ((Presents.header header).unique presents)⟩
  · refine Classical.byContradiction fun absent => ?_
    exact answered (congrArg Prod.snd (serve_of_not_presents verb path guarded absent))
  · rw [← router] at path
    rw [← router, ← token] at absent
    exact serve_of_not_presents verb path guarded absent

/-- An agent that looks for its token in a header, and has done nothing yet. -/
def listening : World where
  site := {}
  router := ⟨⟨"X-Seed-Token", "/api/status", 300⟩, apiRoutes⟩
  identity := { hostname := "db-1", port := 3002, token := ⟨"open sesame"⟩ }
  coordinator := { hostname := "db-1" }
  registry := .empty

/-- A request to the agent above. -/
def prepareWith (headers : List (String × String)) (query : String) : Request where
  verb := "GET"
  path := "/api/prepare/x/y/z"
  query := query
  headers := headers

theorem inHeader_prepareWith {words : String} (printable : words.toList.all isHeaderText)
    (nonempty : words ≠ "") (query : String) :
    InHeader listening.router.settings (prepareWith [("x-seed-token", words)] query) words where
  configured := by decide
  first := ⟨[], "x-seed-token", [], rfl, by decide, nofun⟩
  printable := List.all_eq_true.1 printable
  nonempty := nonempty

theorem presents_prepareWith {query value : String}
    (found : queryToken? (prepareWith [] query) = some value) :
    Presents listening.router.settings (prepareWith [] query) value := by
  refine .query ?_ (queryToken?_eq_some_iff.1 found)
  rintro other ⟨-, ⟨before, name, after, split, -⟩, -⟩
  exact List.append_ne_nil_of_right_ne_nil before (List.cons_ne_nil _ after) split.symm

/-- The right token in the header lets a request through. A wrong one is not made up for by the
right one in the query. Without a header the last token of the query counts, with its blanks and
bytes decoded. That the parameters cannot be read does not matter. -/
theorem token_guards_prepare :
    (listening.serve (prepareWith [("x-seed-token", "open sesame")] "token=shut")).2 ≠
        some refused ∧
      listening.serve (prepareWith [("x-seed-token", "shut")] "token=open+sesame") =
        (listening, some refused) ∧
      (listening.serve (prepareWith [] "token=shut&token=open+ses%61me")).2 ≠ some refused ∧
      listening.serve (prepareWith [] "token=open+ses%61me&token=shut") =
        (listening, some refused) := by
  have route : listening.router.endpoint? "/api/prepare/x/y/z" =
      some (.prepare, [("seed_id", ['x']), ("method", ['y']), ("side", ['z'])]) := by decide
  have path (headers : List (String × String)) (query : String) :
      listening.router.endpoint? (prepareWith headers query).path = _ := route
  refine ⟨?_, ?_, ?_, ?_⟩
  · obtain ⟨admits, -⟩ := token_guards (by rfl) (path _ _) nofun
    exact admits.2 (.header (inHeader_prepareWith (by decide) (by decide) _))
  · obtain ⟨-, -, refuses, unrescued⟩ := token_guards (by rfl) (path _ _) nofun
    have wrong : InHeader _ (prepareWith [("x-seed-token", "shut")] "token=open+sesame") "shut" :=
      inHeader_prepareWith (by decide) (by decide) _
    exact refuses (unrescued "shut" wrong (by decide)) listening rfl rfl
  · obtain ⟨admits, -⟩ := token_guards (by rfl) (path _ _) nofun
    exact admits.2 (presents_prepareWith (by decide +kernel))
  · obtain ⟨-, -, refuses, -⟩ := token_guards (by rfl) (path _ _) nofun
    have last : Presents _ (prepareWith [] "token=open+ses%61me&token=shut") "shut" :=
      presents_prepareWith (by decide +kernel)
    exact refuses (fun right => absurd (last.unique right) (by decide)) listening rfl rfl

end Rehearsal.World

end ReplicaSeed
