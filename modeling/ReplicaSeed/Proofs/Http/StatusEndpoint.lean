import Mathlib.Data.List.Nodup
import ReplicaSeed.Config.Check
import ReplicaSeed.Proofs.Http.Authentication
import ReplicaSeed.Proofs.Http.PathForm

/-!
# The path of the health

Where the health of an agent is found is a setting, and any text that begins with a slash passes for
one. What is to be found there need not be: the text can fail to be a form of a path, it can take
the path of something else, and what is asked for can end before the text does.

## Main definitions

* `Http.Router.Serves`: every path leads to what it is for.
* `Config.Served`: there is such a router for a configuration.

## Main statements

* `Http.Router.endpoint?_of_api`, `Http.Router.endpoint?_of_status`: where a path leads.
* `Config.served_iff`: which configurations are served.
* `Config.exists_unserved_passing`: configurations that pass and are not served.
-/

namespace ReplicaSeed

namespace Http

open Pattern

/-! ## The paths that do not depend on the settings -/

section

variable {form other : Pattern} {endpoint endpoint' : Endpoint} {xs : List (List Char)}

/-- Each of these paths has fixed pieces, and then parameters. -/
theorem exists_fixedThen (member : (form, endpoint) ∈ apiRoutes) :
    endpoint ≠ .health ∧ ∃ texts names, form = fixedThen texts names ∧
      ∀ text ∈ texts, ∀ c ∈ text.toList, marksParameter c = false := by
  have each : ∀ route ∈ apiRoutes, route.2 ≠ .health ∧ ∃ name parameters,
      route.1 = apiPattern name parameters ∧ name.toList.any marksParameter = false := by
    simp only [apiRoutes, List.forall_mem_cons]
    refine ⟨?_, ?_, ?_, ?_, ?_, ?_, ?_, ?_, ?_, List.forall_mem_nil _⟩ <;>
      exact ⟨nofun, _, _, rfl, rfl⟩
  obtain ⟨guarded, name, parameters, rfl, unmarked⟩ := each _ member
  refine ⟨guarded, ["", "api", name], parameters, rfl, ?_⟩
  have plain {text : String} (unmarked : text.toList.any marksParameter = false) :
      ∀ c ∈ text.toList, marksParameter c = false := by
    simpa using unmarked
  simp only [List.forall_mem_cons]
  exact ⟨plain rfl, plain rfl, plain unmarked, List.forall_mem_nil _⟩

theorem Pattern.Fits.getElem?_fixed {p : Pattern} {text : String} {i : Nat} (h : Fits p xs)
    (fixed : p[i]? = some (.fixed text)) : xs[i]? = some text.toList := by
  induction h generalizing i with
  | nil => cases fixed
  | fixed text' h ih =>
    cases i with
    | zero =>
      obtain rfl : text' = text := by simpa using fixed
      rfl
    | succ i => exact ih fixed
  | parameter lead name value last h ih =>
    cases i with
    | zero => cases fixed
    | succ i => exact ih fixed
  | remainder name piece rest last =>
    cases i with
    | zero => cases fixed
    | succ i => cases fixed

/-- A path has one of these forms at most. -/
theorem eq_of_fits (member : (form, endpoint) ∈ apiRoutes)
    (member' : (other, endpoint') ∈ apiRoutes) (fits : Fits form xs) (fits' : Fits other xs) :
    (form, endpoint) = (other, endpoint') := by
  have named : ∀ route ∈ apiRoutes, ∃ name, route.1[2]? = some (.fixed name) := by
    simp [apiRoutes, apiPattern]
  obtain ⟨name, here⟩ := named _ member
  obtain ⟨name', there⟩ := named _ member'
  have same : name = name' := by
    have := (fits.getElem?_fixed here).symm.trans (fits'.getElem?_fixed there)
    exact String.toList_inj.1 (Option.some.inj this)
  have distinct : (apiRoutes.map fun route => route.1[2]?).Nodup := by decide
  refine List.inj_on_of_nodup_map distinct member member' ?_
  rw [here, there, same]

/-- The route of a form, with the parameters of a path, if it has the form. -/
def fit? (xs : List (List Char)) (route : Pattern × Endpoint) :
    Option (Pattern × Endpoint × List (String × List Char)) :=
  (route.1.parameters? xs).map fun ps => (route.1, route.2, ps)

theorem fit?_eq_none (h : ¬ Fits form xs) : fit? xs (form, endpoint) = none := by
  refine Option.map_eq_none_iff.2 (Option.eq_none_iff_forall_ne_some.2 fun ps found => h ?_)
  exact .of_parameters? found

theorem filterMap_fit? {ps : List (String × List Char)} (member : (form, endpoint) ∈ apiRoutes)
    (found : form.parameters? xs = some ps) :
    apiRoutes.filterMap (fit? xs) = [(form, endpoint, ps)] := by
  obtain ⟨before, after, split⟩ := List.append_of_mem member
  have distinct : apiRoutes.Nodup := by decide
  rw [split, List.nodup_middle, List.nodup_cons] at distinct
  have others : ∀ route ∈ before ++ after, fit? xs route = none := by
    rintro ⟨other, endpoint'⟩ member'
    refine fit?_eq_none fun fits' => distinct.1 ?_
    have among : (other, endpoint') ∈ apiRoutes := by
      rw [split]
      exact List.mem_append.2 ((List.mem_append.1 member').imp_right (.tail _))
    rwa [eq_of_fits member among (.of_parameters? found) fits']
  obtain ⟨beforeNone, afterNone⟩ := List.forall_mem_append.1 others
  have here : fit? xs (form, endpoint) = some (form, endpoint, ps) := by simp [fit?, found]
  rw [split, List.filterMap_append, List.filterMap_cons_some here,
    List.filterMap_eq_nil_iff.2 beforeNone, List.filterMap_eq_nil_iff.2 afterNone, List.nil_append]

theorem filterMap_fit?_of_not_fits (h : ∀ route ∈ apiRoutes, ¬ Fits route.1 xs) :
    apiRoutes.filterMap (fit? xs) = [] :=
  List.filterMap_eq_nil_iff.2 fun route member => fit?_eq_none (h route member)

end

/-! ## Where a path leads -/

namespace Router

/-- The router of the settings, where the health has this form. -/
def withStatus (settings : ApiSettings) (form : Pattern) : Router :=
  ⟨settings, (form, .health) :: apiRoutes⟩

/-- There is a router if the path of the health has a form, and can be told from the others. -/
theorem ofSettings_eq_ok_iff {settings : ApiSettings} {r : Router} :
    ofSettings settings = .ok r ↔ ∃ form, Pattern.ofText? settings.statusEndpoint = some form ∧
      (∀ route ∈ apiRoutes, form.clashes route.1 = false) ∧ r = withStatus settings form := by
  unfold ofSettings
  cases Pattern.ofText? settings.statusEndpoint with
  | none => simp
  | some form =>
    simp only [Option.some.injEq, exists_eq_left']
    split
    · rename_i clash
      obtain ⟨route, member, clashes⟩ := List.any_eq_true.1 clash
      refine ⟨nofun, fun ⟨apart, _⟩ => ?_⟩
      rw [apart route member] at clashes
      cases clashes
    · rename_i apart
      have apart : ∀ route ∈ apiRoutes, form.clashes route.1 = false := fun route member =>
        Bool.eq_false_iff.2 fun clashes => apart (List.any_eq_true.2 ⟨route, member, clashes⟩)
      constructor
      · rintro ⟨⟩
        exact ⟨apart, rfl⟩
      · rintro ⟨-, rfl⟩
        rfl

section

variable {settings : ApiSettings} {status form : Pattern} {endpoint : Endpoint} {path : String}
  {ps : List (String × List Char)}

theorem endpoint?_eq (r : Router) :
    r.endpoint? path = match r.routes.filterMap (fit? (pieces path)) with
      | [] => none
      | first :: others =>
        some (others.foldl (fun best next => if next.1.isCloser best.1 then next else best)
          first).2 :=
  rfl

theorem endpoint?_withStatus_of_fits (found : status.parameters? (pieces path) = some ps) :
    (withStatus settings status).endpoint? path =
      some ((apiRoutes.filterMap (fit? (pieces path))).foldl
        (fun best next => if next.1.isCloser best.1 then next else best)
          (status, .health, ps)).2 := by
  have here : fit? (pieces path) (status, .health) = some (status, .health, ps) := by
    simp [fit?, found]
  rw [endpoint?_eq, withStatus, List.filterMap_cons_some here]

theorem endpoint?_withStatus_of_not_fits (other : ¬ Fits status (pieces path)) :
    (withStatus settings status).endpoint? path =
      match apiRoutes.filterMap (fit? (pieces path)) with
      | [] => none
      | first :: others =>
        some (others.foldl (fun best next => if next.1.isCloser best.1 then next else best)
          first).2 := by
  rw [endpoint?_eq, withStatus, List.filterMap_cons_none (fit?_eq_none other)]

/-- A path below that of the agent leads to its own end, unless the path of the health has the form
as well and is the closer one. -/
theorem endpoint?_of_api (member : (form, endpoint) ∈ apiRoutes)
    (found : form.parameters? (pieces path) = some ps)
    (closer : Fits status (pieces path) → form.isCloser status = true) :
    (withStatus settings status).endpoint? path = some (endpoint, ps) := by
  by_cases health : Fits status (pieces path)
  · obtain ⟨qs, health'⟩ := health.parameters?
    rw [endpoint?_withStatus_of_fits health', filterMap_fit? member found]
    simp [closer health]
  · rw [endpoint?_withStatus_of_not_fits health, filterMap_fit? member found]
    rfl

/-- A path of the form of the health leads there, unless it has one of the other forms as well and
that one is closer. -/
theorem endpoint?_of_status (settings : ApiSettings) (fits : Fits status (pieces path))
    (far : ∀ route ∈ apiRoutes, Fits route.1 (pieces path) → route.1.isCloser status = false) :
    ∃ ps, (withStatus settings status).endpoint? path = some (.health, ps) := by
  obtain ⟨qs, health⟩ := fits.parameters?
  refine ⟨qs, ?_⟩
  rw [endpoint?_withStatus_of_fits health]
  by_cases api : ∃ route ∈ apiRoutes, Fits route.1 (pieces path)
  · obtain ⟨⟨form, endpoint⟩, member, fits'⟩ := api
    obtain ⟨ps, found⟩ := fits'.parameters?
    rw [filterMap_fit? member found]
    simp [far _ member fits']
  · rw [filterMap_fit?_of_not_fits fun route member fits' => api ⟨route, member, fits'⟩]
    rfl

/-- Only a path of the form of the health leads there. -/
theorem fits_of_endpoint?
    (leads : (withStatus settings status).endpoint? path = some (.health, ps)) :
    Fits status (pieces path) := by
  refine Classical.byContradiction fun other => ?_
  by_cases api : ∃ route ∈ apiRoutes, Fits route.1 (pieces path)
  · obtain ⟨⟨form, endpoint⟩, member, fits'⟩ := api
    obtain ⟨qs, found⟩ := fits'.parameters?
    rw [endpoint?_of_api member found fun fits => absurd fits other] at leads
    exact (exists_fixedThen member).1 (congrArg Prod.fst (Option.some.inj leads))
  · rw [endpoint?_withStatus_of_not_fits other,
      filterMap_fit?_of_not_fits fun route member fits' => api ⟨route, member, fits'⟩] at leads
    cases leads

end

/-! ## What is served -/

/-- Every path leads to what it is for: that of the health to the health, whoever asks, and each of
the others to its own end, for those who present the token. -/
structure Serves (r : Router) : Prop where
  status : ∀ token headers,
    r.route token (.ofTarget "GET" r.settings.statusEndpoint headers) = .ok .health
  api : ∀ form endpoint, (form, endpoint) ∈ apiRoutes → ∀ token request ps,
    request.verb = "GET" → form.parameters? (pieces request.path) = some ps →
      (Presents r.settings request token.text →
        r.route token request = (read endpoint ps).map .agent) ∧
      (¬ Presents r.settings request token.text →
        r.route token request = .error (.ofError .invalidToken))

theorem route_of_health {r : Router} {request : Request} {ps : List (String × List Char)}
    (verb : request.verb = "GET") (leads : r.endpoint? request.path = some (.health, ps))
    (token : Token) : r.route token request = .ok .health := by
  simp [route, leads, verb]

theorem endpoint?_of_route {r : Router} {request : Request} {token : Token}
    (h : r.route token request = .ok .health) :
    ∃ ps, r.endpoint? request.path = some (.health, ps) := by
  unfold route at h
  split at h
  · cases h
  · rename_i endpoint ps leads
    split at h
    · cases h
    · split at h
      · rename_i health
        exact ⟨ps, health ▸ leads⟩
      · split at h
        · cases values : decodeParameters ps with
          | error response => simp [values, bind, Except.bind] at h
          | ok values' =>
            cases asked : agentRequest endpoint values' <;>
              simp [values, asked, bind, pure, Except.bind, Except.pure] at h
        · cases h

end Router

/-- A request without headers and without a query presents no token. -/
theorem not_presents_of_nothing {settings : ApiSettings} {path token : String} :
    ¬ Presents settings ⟨"GET", path, "", []⟩ token := by
  rintro (⟨-, ⟨before, name, after, split, -⟩, -, -⟩ | ⟨-, inQuery⟩)
  · simp at split
  · have none : formFields "" = [] := rfl
    obtain ⟨before, after, split, -⟩ := lastField_iff.1 inQuery
    simp [none] at split

theorem takeWhile_eq_self {d : Char} {cs : List Char} (free : d ∉ cs) :
    cs.takeWhile (· != d) = cs := by
  rw [List.takeWhile_eq_self_iff]
  intro c member
  exact bne_iff_ne.2 fun same => free (same ▸ member)

theorem takeWhile_of_splitOnce? {d : Char} {cs before after : List Char}
    (h : Text.splitOnce? d cs = some (before, after)) : cs.takeWhile (· != d) = before := by
  obtain ⟨free, rfl⟩ := Text.splitOnce?_eq_some_iff.1 h
  rw [List.takeWhile_append, takeWhile_eq_self free]
  simp

theorem Request.verb_ofTarget (verb target : String) (headers : List (String × String)) :
    (Request.ofTarget verb target headers).verb = verb := by
  unfold Request.ofTarget
  simp only
  split <;> rfl

/-- The path of a target ends before its query. -/
theorem pieces_ofTarget (verb target : String) (headers : List (String × String)) :
    pieces (Request.ofTarget verb target headers).path = cut (pieces target) := by
  have path : (Request.ofTarget verb target headers).path.toList =
      target.toList.takeWhile inPath := by
    have both := List.takeWhile_takeWhile (· != '?') (· != '#') target.toList
    simp only [Bool.decide_and, Bool.decide_eq_true] at both
    unfold Request.ofTarget
    simp only
    split
    · rename_i found
      rw [String.toList_ofList, ← takeWhile_of_splitOnce? found, both]
      rfl
    · rename_i none
      rw [String.toList_ofList, ← takeWhile_eq_self (Text.splitOnce?_eq_none_iff.1 none), both]
      rfl
  rw [pieces, path, splitOn_takeWhile]
  rfl

namespace Router

variable {settings : ApiSettings} {form : Pattern}

/-- Where the health can be asked for at its path, and this does not reach into any other one, every
path leads to what it is for. -/
theorem serves_withStatus (reads : Reads (pieces settings.statusEndpoint) form)
    (askable : form.Askable) (outside : ∀ route ∈ apiRoutes, ¬ form.Within route.1) :
    (withStatus settings form).Serves where
  status token headers := by
    have fits := (fits_cut_iff reads).2 askable
    rw [← pieces_ofTarget "GET" settings.statusEndpoint headers] at fits
    have alone : ∀ route ∈ apiRoutes, ¬ Fits route.1
        (pieces (Request.ofTarget "GET" settings.statusEndpoint headers).path) := by
      rintro ⟨other, endpoint⟩ member fits'
      obtain ⟨-, texts, names, rfl, unmarked⟩ := exists_fixedThen member
      rw [pieces_ofTarget] at fits fits'
      exact outside _ member (within_of_fits_cut unmarked reads fits fits')
    obtain ⟨ps, leads⟩ := endpoint?_of_status settings fits
      fun route member fits' => absurd fits' (alone route member)
    exact route_of_health (Request.verb_ofTarget ..) leads token
  api other endpoint member token request ps verb found := by
    obtain ⟨guarded, texts, names, rfl, -⟩ := exists_fixedThen member
    have leads : (withStatus settings form).endpoint? request.path = some (endpoint, ps) := by
      refine endpoint?_of_api member found fun fits => ?_
      refine Bool.of_not_eq_false fun far => outside _ member ?_
      exact within_of_not_isCloser fits (.of_parameters? found) far
    exact ⟨route_of_presents verb leads guarded, route_of_not_presents verb leads guarded⟩

/-- Where the path of the health reaches into another one, somebody without a token who asks for
that one is told about the health. -/
theorem not_serves_of_within (reads : Reads (pieces settings.statusEndpoint) form)
    (apart : ∀ route ∈ apiRoutes, form.clashes route.1 = false) {route : Pattern × Endpoint}
    (member : route ∈ apiRoutes) (within : form.Within route.1) :
    ¬ (withStatus settings form).Serves := by
  intro serves
  obtain ⟨other, endpoint⟩ := route
  obtain ⟨-, texts, names, rfl, -⟩ := exists_fixedThen member
  have free : ∀ piece ∈ pieces settings.statusEndpoint, '/' ∉ piece := fun piece =>
    Text.not_mem_of_mem_splitOn
  obtain ⟨ys, free', fits, fits'⟩ := within.exists_fits reads free
  have some : ys ≠ [] := by
    rintro rfl
    have forms : ∀ route ∈ apiRoutes, route.1 ≠ [] := by decide
    exact forms _ member (fits_nil_right.1 fits')
  have path := pieces_ofList some free'
  obtain ⟨ps, found⟩ := fits'.parameters?
  rw [← path] at fits found
  have far : ∀ route ∈ apiRoutes,
      Fits route.1 (pieces (String.ofList (['/'].intercalate ys))) →
        route.1.isCloser form = false := by
    rintro ⟨other, endpoint'⟩ member' fits''
    rw [path] at fits''
    obtain ⟨rfl, -⟩ := Prod.mk.inj (eq_of_fits member member' fits' fits'')
    exact within.not_isCloser (apart _ member)
  obtain ⟨qs, leads⟩ := endpoint?_of_status settings fits far
  have health := @route_of_health _ ⟨"GET", _, "", []⟩ _ rfl leads ⟨""⟩
  have refused := (serves.api _ _ member ⟨""⟩ ⟨"GET", _, "", []⟩ ps rfl found).2
    not_presents_of_nothing
  rw [health] at refused
  cases refused

end Router

end Http

/-! ## Configurations -/

namespace Config

open Http Pattern

/-- There is a router for the configuration, and every path leads to what it is for. -/
def Served (config : Config) : Prop :=
  ∃ r, Router.ofSettings config.apiSettings = .ok r ∧ r.Serves

/-- A configuration is served just if the path of the health has a form that can be asked for and
does not reach into any of the other paths. Where it does, either there are no routes at all, or
some of what the agent is asked for ends at the health, without a token. Neither the number of the
parameters in a form nor the characters that a client can send are limited here. -/
theorem served_iff (config : Config) :
    config.Served ↔ ∃ form, Pattern.ofText? config.common.statusEndpoint = some form ∧
      form.Askable ∧ ∀ route ∈ apiRoutes, ¬ form.Within route.1 := by
  constructor
  · rintro ⟨r, built, serves⟩
    obtain ⟨form, read, apart, rfl⟩ := Router.ofSettings_eq_ok_iff.1 built
    have reads := reads_of_ofPieces? (Option.ite_none_right_eq_some.1 read).2
    refine ⟨form, read, ?_, fun route member within => ?_⟩
    · obtain ⟨ps, leads⟩ := Router.endpoint?_of_route (serves.status ⟨""⟩ [])
      have fits := Router.fits_of_endpoint? leads
      rw [pieces_ofTarget] at fits
      exact (fits_cut_iff reads).1 fits
    · exact Router.not_serves_of_within reads apart member within serves
  · rintro ⟨form, read, askable, outside⟩
    have reads := reads_of_ofPieces? (Option.ite_none_right_eq_some.1 read).2
    refine ⟨_, Router.ofSettings_eq_ok_iff.2 ⟨form, read, ?_, rfl⟩,
      Router.serves_withStatus reads askable outside⟩
    rintro ⟨other, endpoint⟩ member
    obtain ⟨-, texts, names, rfl, -⟩ := exists_fixedThen member
    exact Bool.eq_false_iff.2 fun clash => outside _ member (within_of_clashes reads clash)

/-- A configuration with this path of the health, which is otherwise as it is by default. -/
def withStatusEndpoint (endpoint : String) : Config := { common := { statusEndpoint := endpoint } }

/-- The configuration passes, and is not served. -/
def PassesUnserved (config : Config) : Prop := config.check = .ok () ∧ ¬ config.Served

/-- Configurations pass that are not served: their health is where the methods are listed, or at a
text that is no form, or where the query begins, or where a Prepare is asked for. -/
theorem exists_unserved_passing :
    (withStatusEndpoint "/api/seed-methods").PassesUnserved ∧
      (withStatusEndpoint "/status/:").PassesUnserved ∧
      (withStatusEndpoint "/status?full").PassesUnserved ∧
      (withStatusEndpoint "/api/prepare/1/mysqldump/Target").PassesUnserved := by
  refine ⟨⟨rfl, ?_⟩, ⟨rfl, ?_⟩, ⟨rfl, ?_⟩, rfl, ?_⟩
  · rintro ⟨r, built, -⟩
    have taken : Router.ofSettings (withStatusEndpoint "/api/seed-methods").apiSettings =
        .error (.taken "/api/seed-methods") := rfl
    rw [taken] at built
    cases built
  · rintro ⟨r, built, -⟩
    have malformed : Router.ofSettings (withStatusEndpoint "/status/:").apiSettings =
        .error (.malformed "/status/:") := rfl
    rw [malformed] at built
    cases built
  · rintro ⟨r, built, serves⟩
    obtain ⟨form, read, -, rfl⟩ := Router.ofSettings_eq_ok_iff.1 built
    have fixed : Pattern.ofText? "/status?full" = some [.fixed "", .fixed "status?full"] := by
      decide
    obtain rfl := Option.some.inj (read.symm.trans fixed)
    have missed := serves.status ⟨""⟩ []
    cases missed
  · rintro ⟨r, built, serves⟩
    obtain ⟨form, read, apart, rfl⟩ := Router.ofSettings_eq_ok_iff.1 built
    have fixed : Pattern.ofText? "/api/prepare/1/mysqldump/Target" =
        some (["", "api", "prepare", "1", "mysqldump", "Target"].map .fixed) := by decide
    obtain rfl := Option.some.inj (read.symm.trans fixed)
    have reads := reads_of_ofPieces? (Option.ite_none_right_eq_some.1 read).2
    have within : Pattern.Within (["", "api", "prepare", "1", "mysqldump", "Target"].map .fixed)
        (apiPattern "prepare" ["seed_id", "method", "side"]) :=
      .fixed "" (.fixed "api" (.fixed "prepare" (.piece "1" "seed_id" nofun
        (.piece "mysqldump" "method" nofun (.piece "Target" "side" (fun _ => by decide) .nil)))))
    exact Router.not_serves_of_within reads apart (.head _) within serves

end Config

end ReplicaSeed
