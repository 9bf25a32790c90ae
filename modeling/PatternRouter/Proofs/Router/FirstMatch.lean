import Mathlib.Data.List.Forall2
import PatternRouter.Router

/-!
# The first route that matches

A request is served by the route of least index among those that match its path. The credential of
the client is resolved once that route is known, and a credential that gives no identity ends the
dispatch: no later route is tried.

The module introduces:

* `Unmatched routes path` and `FirstMatch routes path index route params` — no route matches the
  path, and the route at `index` is the first that does and binds `params`;
* `ServedByFirst router request dispatch` — the outcome and all steps of a dispatch, read off these
  and the resolver;
* `callCount` and `resolveCount` — how many of some steps call a handler and the resolver.

The main result is `run_first_match`: over every run each request is served by its first match, and
the counts are those of the requests that call for them.
-/

namespace PatternRouter

/-- No route matches the path. -/
def Unmatched (routes : List Route) (path : String) : Prop :=
  ∀ route ∈ routes, route.pattern.match? path = none

/-- The route at an index matches the path, and no earlier one does. -/
structure FirstMatch (routes : List Route) (path : String) (index : Nat) (route : Route)
    (params : Params) : Prop where
  /-- The route stands at the index. -/
  getElem? : routes[index]? = some route
  /-- The values that it binds. -/
  match? : route.pattern.match? path = some params
  /-- The routes before it do not match. -/
  least : ∀ earlier < index, ∀ other, routes[earlier]? = some other →
    other.pattern.match? path = none

variable {routes : List Route} {path : String} {index : Nat} {route : Route} {params : Params}

theorem unmatched_cons_iff {head : Route} :
    Unmatched (head :: routes) path ↔
      head.pattern.match? path = none ∧ Unmatched routes path := by
  rw [Unmatched, List.forall_mem_cons, Unmatched]

namespace FirstMatch

theorem cons_zero_iff {head : Route} :
    FirstMatch (head :: routes) path 0 route params ↔
      head = route ∧ head.pattern.match? path = some params := by
  constructor
  · intro h
    have hroute : head = route := by simpa using h.getElem?
    exact ⟨hroute, hroute ▸ h.match?⟩
  · rintro ⟨rfl, h⟩
    refine ⟨rfl, h, ?_⟩
    intro earlier hearlier
    exact absurd hearlier (Nat.not_lt_zero _)

theorem cons_succ_iff {head : Route} :
    FirstMatch (head :: routes) path (index + 1) route params ↔
      head.pattern.match? path = none ∧ FirstMatch routes path index route params := by
  constructor
  · intro h
    -- The head stands before the match, so it is among the routes that do not match.
    refine ⟨h.least 0 (Nat.succ_pos _) head rfl, ?_, h.match?, ?_⟩
    · simpa using h.getElem?
    · intro earlier hearlier other hother
      exact h.least (earlier + 1) (Nat.succ_lt_succ hearlier) other (by simpa using hother)
  · rintro ⟨hhead, h⟩
    refine ⟨by simpa using h.getElem?, h.match?, ?_⟩
    intro earlier hearlier other hother
    cases earlier with
    | zero =>
      obtain rfl : head = other := by simpa using hother
      exact hhead
    | succ earlier =>
      exact h.least earlier (Nat.lt_of_succ_lt_succ hearlier) other (by simpa using hother)

end FirstMatch

namespace Router

/-! ## The search -/

theorem firstMatch?_eq_none_iff :
    firstMatch? path index routes = none ↔ Unmatched routes path := by
  induction routes generalizing index with
  | nil => simp [firstMatch?, Unmatched]
  | cons head routes ih =>
    rw [firstMatch?, unmatched_cons_iff]
    cases hhead : head.pattern.match? path with
    | none => simp [ih]
    | some params => simp

/-- The search finds the first match, at its index behind the one that the search starts from. -/
theorem firstMatch?_eq_some_iff {found : Nat} :
    firstMatch? path index routes = some (found, route, params) ↔
      ∃ offset, found = index + offset ∧ FirstMatch routes path offset route params := by
  induction routes generalizing index with
  | nil =>
    constructor
    · rintro ⟨⟩
    · rintro ⟨offset, -, h⟩
      exact absurd h.getElem? (by simp)
  | cons head routes ih =>
    rw [firstMatch?]
    cases hhead : head.pattern.match? path with
    | none =>
      -- The head is passed over, so the search goes on one index further.
      rw [ih]
      constructor
      · rintro ⟨offset, rfl, h⟩
        exact ⟨offset + 1, by omega, FirstMatch.cons_succ_iff.2 ⟨hhead, h⟩⟩
      · rintro ⟨offset, rfl, h⟩
        cases offset with
        | zero =>
          have hmatch := (FirstMatch.cons_zero_iff.1 h).2
          rw [hhead] at hmatch
          nomatch hmatch
        | succ offset => exact ⟨offset, by omega, (FirstMatch.cons_succ_iff.1 h).2⟩
    | some bound =>
      constructor
      · rintro ⟨⟩
        exact ⟨0, rfl, FirstMatch.cons_zero_iff.2 ⟨rfl, hhead⟩⟩
      · rintro ⟨offset, rfl, h⟩
        -- Nothing behind a head that matches is a first match.
        cases offset with
        | zero =>
          obtain ⟨rfl, hbound⟩ := FirstMatch.cons_zero_iff.1 h
          obtain rfl : bound = params := Option.some.inj (hhead.symm.trans hbound)
          rfl
        | succ offset =>
          have hnone := (FirstMatch.cons_succ_iff.1 h).1
          rw [hhead] at hnone
          nomatch hnone

theorem firstMatch?_zero_eq_some_iff :
    firstMatch? path 0 routes = some (index, route, params) ↔
      FirstMatch routes path index route params := by
  rw [firstMatch?_eq_some_iff]
  constructor
  · rintro ⟨offset, rfl, h⟩
    rwa [Nat.zero_add]
  · intro h
    exact ⟨index, (Nat.zero_add index).symm, h⟩

theorem unmatched_or_firstMatch (routes : List Route) (path : String) :
    Unmatched routes path ∨ ∃ index route params, FirstMatch routes path index route params := by
  rcases hsearch : firstMatch? path 0 routes with _ | ⟨index, route, params⟩
  · exact Or.inl (firstMatch?_eq_none_iff.1 hsearch)
  · exact Or.inr ⟨index, route, params, firstMatch?_zero_eq_some_iff.1 hsearch⟩

end Router

/-! ## One dispatch -/

/-- What a handler is told about a request whose path and credential give some values and an
identity. -/
def InboundRequest.context (request : InboundRequest) (params : Params)
    (identity : Option Identity) : RequestContext :=
  { path := request.path
    queryString := request.rawQuery
    queryParams := Query.flatten request.rawQuery
    pathParams := params
    identity }

/-- The outcome and all steps of a dispatch, by the first route that matches and the resolver. -/
structure ServedByFirst (router : Router) (request : InboundRequest) (dispatch : Dispatch) :
    Prop where
  /-- Nothing is resolved or called for a path that no route matches. -/
  unmatched : Unmatched router.routes request.path →
    dispatch = ⟨.notFound, [.log (.noRoute request.path)]⟩
  /-- A credential without an identity is resolved once, and nothing is called. -/
  refused : ∀ {index route params error},
    FirstMatch router.routes request.path index route params →
    router.resolver request.credential = .error error →
    dispatch = ⟨.internalError error,
      [.log (.routeMatched request.path route.pattern.source), .resolve request.credential,
        .log (.identityFailed request.path route.pattern.source error)]⟩
  /-- Otherwise it is resolved once, and the handler of the route is called once. -/
  called : ∀ {index route params identity},
    FirstMatch router.routes request.path index route params →
    router.resolver request.credential = .ok identity →
    dispatch = ⟨.handled (route.handler (request.context params identity)),
      [.log (.routeMatched request.path route.pattern.source), .resolve request.credential,
        .call index (request.context params identity)]⟩

namespace Router

variable {router : Router} {request : InboundRequest}

theorem dispatch_of_unmatched (h : Unmatched router.routes request.path) :
    router.dispatch request = ⟨.notFound, [.log (.noRoute request.path)]⟩ := by
  simp only [dispatch, serve, firstMatch?_eq_none_iff.2 h]
  rfl

theorem dispatch_of_error {error : IdentityError}
    (h : FirstMatch router.routes request.path index route params)
    (hresolve : router.resolver request.credential = .error error) :
    router.dispatch request = ⟨.internalError error,
      [.log (.routeMatched request.path route.pattern.source), .resolve request.credential,
        .log (.identityFailed request.path route.pattern.source error)]⟩ := by
  simp only [dispatch, serve, firstMatch?_zero_eq_some_iff.2 h, Recorded.apply, hresolve]
  rfl

theorem dispatch_of_ok {identity : Option Identity}
    (h : FirstMatch router.routes request.path index route params)
    (hresolve : router.resolver request.credential = .ok identity) :
    router.dispatch request = ⟨.handled (route.handler (request.context params identity)),
      [.log (.routeMatched request.path route.pattern.source), .resolve request.credential,
        .call index (request.context params identity)]⟩ := by
  simp only [dispatch, serve, firstMatch?_zero_eq_some_iff.2 h, Recorded.apply, hresolve]
  rfl

theorem outcome_eq_notFound_iff :
    (router.dispatch request).outcome = .notFound ↔ Unmatched router.routes request.path := by
  constructor
  · intro houtcome
    rcases unmatched_or_firstMatch router.routes request.path with h | ⟨index, route, params, h⟩
    · exact h
    · rcases hresolve : router.resolver request.credential with error | identity
      · rw [dispatch_of_error h hresolve] at houtcome
        nomatch houtcome
      · rw [dispatch_of_ok h hresolve] at houtcome
        nomatch houtcome
  · intro h
    rw [dispatch_of_unmatched h]

theorem servedByFirst_dispatch (router : Router) (request : InboundRequest) :
    ServedByFirst router request (router.dispatch request) where
  unmatched := dispatch_of_unmatched
  refused := dispatch_of_error
  called := dispatch_of_ok

end Router

/-! ## Counts over a run -/

/-- How many steps call the handler of the route at an index. -/
def callCount (index : Nat) (steps : List Step) : Nat :=
  steps.countP (Step.isCallOf index)

/-- How many steps resolve a credential. -/
def resolveCount (steps : List Step) : Nat :=
  steps.countP Step.isResolve

theorem callCount_append (index : Nat) (steps more : List Step) :
    callCount index (steps ++ more) = callCount index steps + callCount index more :=
  List.countP_append

theorem resolveCount_append (steps more : List Step) :
    resolveCount (steps ++ more) = resolveCount steps + resolveCount more :=
  List.countP_append

/-- The least index of a route that matches the path. -/
def firstIndex? (routes : List Route) (path : String) : Option Nat :=
  routes.findIdx? fun route => (route.pattern.match? path).isSome

theorem Unmatched.firstIndex?_eq_none (h : Unmatched routes path) :
    firstIndex? routes path = none := by
  rw [firstIndex?, List.findIdx?_eq_none_iff]
  intro route hroute
  rw [h route hroute]
  rfl

theorem FirstMatch.firstIndex?_eq_some (h : FirstMatch routes path index route params) :
    firstIndex? routes path = some index := by
  rw [firstIndex?, List.findIdx?_eq_some_iff_getElem]
  obtain ⟨hindex, hroute⟩ := List.getElem?_eq_some_iff.1 h.getElem?
  refine ⟨hindex, ?_, ?_⟩
  · rw [hroute, h.match?]
    rfl
  · intro earlier hearlier
    have hnone := h.least earlier hearlier _
      (List.getElem?_eq_getElem (Nat.lt_trans hearlier hindex))
    simp [hnone]

namespace Router

/-- The route at an index is the first that matches a request, and the credential of the request
gives an identity or tells that there is none. -/
def reaches (router : Router) (index : Nat) (request : InboundRequest) : Bool :=
  firstIndex? router.routes request.path == some index &&
    (router.resolver request.credential).isOk

/-- Some route matches a request. -/
def serves (router : Router) (request : InboundRequest) : Bool :=
  (firstIndex? router.routes request.path).isSome

/-- A dispatch calls the handler that the request reaches, once, and no other. -/
theorem callCount_dispatch (router : Router) (index : Nat) (request : InboundRequest) :
    callCount index (router.dispatch request).steps = (router.reaches index request).toNat := by
  rcases unmatched_or_firstMatch router.routes request.path with h | ⟨first, route, params, h⟩
  · rw [dispatch_of_unmatched h, reaches, h.firstIndex?_eq_none]
    rfl
  · rcases hresolve : router.resolver request.credential with error | identity
    · rw [dispatch_of_error h hresolve, reaches, hresolve]
      simp [callCount, Step.isCallOf, Step.call?, Except.isOk, Except.toBool]
    · -- The only call is that of the first match, which counts at its own index alone.
      rw [dispatch_of_ok h hresolve, reaches, h.firstIndex?_eq_some, hresolve]
      by_cases hfirst : first = index
      · simp [callCount, Step.isCallOf, Step.call?, Except.isOk, Except.toBool, hfirst]
      · have hne : (first == index) = false := beq_false_of_ne hfirst
        simp [callCount, Step.isCallOf, Step.call?, Except.isOk, Except.toBool, hne]

/-- A dispatch resolves the credential of a request that some route matches, once. -/
theorem resolveCount_dispatch (router : Router) (request : InboundRequest) :
    resolveCount (router.dispatch request).steps = (router.serves request).toNat := by
  rcases unmatched_or_firstMatch router.routes request.path with h | ⟨first, route, params, h⟩
  · rw [dispatch_of_unmatched h, serves, h.firstIndex?_eq_none]
    rfl
  · rw [serves, h.firstIndex?_eq_some]
    rcases hresolve : router.resolver request.credential with error | identity
    · rw [dispatch_of_error h hresolve]
      rfl
    · rw [dispatch_of_ok h hresolve]
      rfl

/-- Where every dispatch takes a kind of step once for the requests of some sort and never for the
others, a run takes as many of them as it has requests of that sort. -/
theorem countP_steps_run {router : Router} {p : Step → Bool} {q : InboundRequest → Bool}
    (hdispatch : ∀ request, (router.dispatch request).steps.countP p = (q request).toNat)
    (requests : List InboundRequest) :
    ((router.run requests).flatMap Dispatch.steps).countP p = requests.countP q := by
  induction requests with
  | nil => rfl
  | cons request requests ih =>
    have hrun : router.run (request :: requests) =
        router.dispatch request :: router.run requests := rfl
    -- The steps of the first request stand before those of the rest.
    rw [hrun, List.flatMap_cons, List.countP_append, hdispatch, ih, List.countP_cons, Nat.add_comm]
    cases q request <;> rfl

/-- Over a run each request is served by the first route that matches it. The handler at an index is
called once for each request that reaches it, and the resolver once for each request that some route
matches. -/
theorem run_first_match (router : Router) (requests : List InboundRequest) :
    let steps := (router.run requests).flatMap Dispatch.steps
    List.Forall₂ (ServedByFirst router) requests (router.run requests) ∧
    (∀ index, callCount index steps = requests.countP (router.reaches index)) ∧
    resolveCount steps = requests.countP router.serves := by
  refine ⟨?_, ?_, ?_⟩
  · rw [run, List.forall₂_map_right_iff, List.forall₂_same]
    intro request _
    exact servedByFirst_dispatch router request
  · intro index
    exact countP_steps_run (callCount_dispatch router index) requests
  · exact countP_steps_run (resolveCount_dispatch router) requests

end Router

end PatternRouter
