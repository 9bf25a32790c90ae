import PatternRouter.Proofs.Router.Table

/-!
# The construction of routers

A builder is called with routes and resolvers in any order and then builds a router. Only the routes
and the last resolver matter: those calls that register routes keep their order among themselves,
and each call for a resolver undoes the ones before it. A router is built only if every pattern that
was registered parses, and nothing is logged if one does not.

The module introduces:

* `BuilderCall` and `RouterBuilder.ofCalls` — a call on a builder, and the builder after some calls;
* `BuilderCall.registered` and `BuilderCall.resolverOf` — the entries that some calls register, and
  the resolver that they leave;
* `Refused entries error` — the first of some patterns that does not parse gives the error.

The main result is `RouterBuilder.build_of_calls`.
-/

namespace PatternRouter

/-- A call on a builder. -/
inductive BuilderCall where
  | route (pattern : String) (handler : Handler)
  | identity (resolver : Resolver)

namespace BuilderCall

/-- The entry that a call registers, if it registers one. -/
def entry? : BuilderCall → Option (String × Handler)
  | route pattern handler => some (pattern, handler)
  | identity _ => none

/-- The resolver that a call registers, if it registers one. -/
def resolver? : BuilderCall → Option Resolver
  | route _ _ => none
  | identity resolver => some resolver

/-- The patterns and handlers that some calls register, in their order. -/
def registered (calls : List BuilderCall) : List (String × Handler) :=
  calls.filterMap entry?

/-- The resolver of the last call that registers one, if there is such a call. -/
def lastResolver? (calls : List BuilderCall) : Option Resolver :=
  (calls.filterMap resolver?).getLast?

/-- The resolver that some calls leave. Without a call for one no client has an identity. -/
def resolverOf (calls : List BuilderCall) : Resolver :=
  (lastResolver? calls).getD .anonymous

end BuilderCall

open BuilderCall

/-- The first of some patterns that does not parse gives the error. -/
def Refused (entries : List (String × Handler)) (error : PatternError) : Prop :=
  ∃ front bad back, entries = front ++ bad :: back ∧
    (∀ entry ∈ front, ∃ parsed, Pattern.parse entry.1 = .ok parsed) ∧
    Pattern.parse bad.1 = .error error

variable {entries : List (String × Handler)} {error : PatternError} {pattern : String}
  {handler : Handler}

/-! ## Compiling a table -/

theorem Route.exists_compile_eq_ok_iff (handler : Handler) :
    (∃ route, Route.compile pattern handler = .ok route) ↔
      ∃ parsed, Pattern.parse pattern = .ok parsed := by
  simp only [compile_eq_ok_iff]
  constructor
  · rintro ⟨route, hparse, -⟩
    exact ⟨route.pattern, hparse⟩
  · rintro ⟨parsed, hparse⟩
    exact ⟨⟨parsed, handler⟩, hparse, rfl⟩

theorem Route.compile_eq_error_iff :
    Route.compile pattern handler = .error error ↔ Pattern.parse pattern = .error error := by
  rw [compile]
  cases Pattern.parse pattern <;> simp [Except.map]

/-- A table is compiled from some entries if each of their patterns parses. -/
theorem exists_isTable_iff :
    (∃ routes, IsTable entries routes) ↔
      ∀ entry ∈ entries, ∃ parsed, Pattern.parse entry.1 = .ok parsed := by
  induction entries with
  | nil =>
    constructor
    · intro _ entry hentry
      nomatch hentry
    · intro _
      exact ⟨[], .nil⟩
  | cons entry entries ih =>
    rw [List.forall_mem_cons, ← ih, ← Route.exists_compile_eq_ok_iff entry.2]
    constructor
    · rintro ⟨routes, h⟩
      obtain ⟨route, rest, hhead, htail, -⟩ := List.forall₂_cons_left_iff.1 h
      exact ⟨⟨route, hhead⟩, rest, htail⟩
    · rintro ⟨⟨route, hhead⟩, routes, htail⟩
      exact ⟨route :: routes, .cons hhead htail⟩

/-- Behind a pattern that parses, the others decide. -/
theorem refused_cons_iff {entry : String × Handler} :
    Refused (entry :: entries) error ↔
      Pattern.parse entry.1 = .error error ∨
        (∃ parsed, Pattern.parse entry.1 = .ok parsed) ∧ Refused entries error := by
  constructor
  · rintro ⟨front, bad, back, hentries, hfront, herror⟩
    cases front with
    | nil =>
      obtain ⟨rfl, -⟩ := List.cons.inj hentries
      exact .inl herror
    | cons head front =>
      obtain ⟨rfl, hrest⟩ := List.cons.inj hentries
      rw [List.forall_mem_cons] at hfront
      exact .inr ⟨hfront.1, front, bad, back, hrest, hfront.2, herror⟩
  · rintro (herror | ⟨hparse, front, bad, back, rfl, hfront, herror⟩)
    · exact ⟨[], entry, entries, rfl, List.forall_mem_nil _, herror⟩
    · refine ⟨entry :: front, bad, back, rfl, ?_, herror⟩
      rw [List.forall_mem_cons]
      exact ⟨hparse, hfront⟩

theorem mapM_compile_eq_error_iff :
    entries.mapM (fun (pattern, handler) => Route.compile pattern handler) = .error error ↔
      Refused entries error := by
  induction entries with
  | nil =>
    constructor
    · intro h
      nomatch h
    · rintro ⟨front, bad, back, h, -⟩
      simp at h
  | cons entry entries ih =>
    rw [List.mapM_cons, bind_eq_error_iff, refused_cons_iff, ← ih, Route.compile_eq_error_iff,
      ← Route.exists_compile_eq_ok_iff entry.2]
    -- Once the head and the rest are compiled, nothing can fail any more.
    have hrest : ∀ route : Route,
        (entries.mapM (fun (pattern, handler) => Route.compile pattern handler) >>=
          fun routes => pure (route :: routes)) = .error error ↔
        entries.mapM (fun (pattern, handler) => Route.compile pattern handler) = .error error := by
      intro route
      rw [bind_eq_error_iff, or_iff_left]
      rintro ⟨routes, -, h⟩
      nomatch h
    simp only [hrest, exists_and_right]

namespace RouterBuilder

/-! ## Calls -/

/-- What a call makes of a builder. -/
def apply (builder : RouterBuilder) : BuilderCall → RouterBuilder
  | .route pattern handler => builder.route pattern handler
  | .identity resolver => builder.identity resolver

/-- The builder after some calls. -/
def ofCalls (calls : List BuilderCall) : RouterBuilder :=
  calls.foldl apply {}

theorem entries_apply (builder : RouterBuilder) (call : BuilderCall) :
    (builder.apply call).entries = builder.entries ++ call.entry?.toList := by
  cases call with
  | route pattern handler => rfl
  | identity resolver => exact (List.append_nil _).symm

theorem resolver_apply (builder : RouterBuilder) (call : BuilderCall) :
    (builder.apply call).resolver = call.resolver?.or builder.resolver := by
  cases call <;> rfl

theorem entries_foldl_apply (calls : List BuilderCall) (builder : RouterBuilder) :
    (calls.foldl apply builder).entries = builder.entries ++ registered calls := by
  induction calls generalizing builder with
  | nil => exact (List.append_nil _).symm
  | cons call calls ih =>
    -- What the first call adds stands before what the others add.
    rw [List.foldl_cons, ih, entries_apply, List.append_assoc, registered, registered,
      List.filterMap_cons]
    cases call.entry? <;> rfl

theorem resolver_foldl_apply (calls : List BuilderCall) (builder : RouterBuilder) :
    (calls.foldl apply builder).resolver = (lastResolver? calls).or builder.resolver := by
  induction calls generalizing builder with
  | nil => rfl
  | cons call calls ih =>
    rw [List.foldl_cons, ih, resolver_apply, lastResolver?, lastResolver?, List.filterMap_cons]
    -- A resolver of the later calls hides that of the first one.
    cases call.resolver? with
    | none => rfl
    | some resolver =>
      rw [List.getLast?_cons]
      cases (calls.filterMap resolver?).getLast? <;> rfl

theorem entries_ofCalls (calls : List BuilderCall) : (ofCalls calls).entries = registered calls :=
  entries_foldl_apply calls {}

theorem resolver_ofCalls (calls : List BuilderCall) :
    (ofCalls calls).resolver = lastResolver? calls := by
  rw [ofCalls, resolver_foldl_apply, Option.or_none]

/-! ## Building -/

variable {builder : RouterBuilder} {calls : List BuilderCall} {router : Router}

theorem build_eq_error_iff : builder.build = .error error ↔ Refused builder.entries error := by
  rw [← mapM_compile_eq_error_iff, build]
  cases builder.entries.mapM fun (pattern, handler) => Route.compile pattern handler <;>
    simp [bind, Except.bind, pure, Except.pure]

/-- What some calls build is compiled from their entries, and has their resolver. -/
theorem build_ofCalls_eq_ok_iff :
    (ofCalls calls).build = .ok router ↔
      IsTable (registered calls) router.routes ∧ router.resolver = resolverOf calls := by
  rw [build_eq_ok_iff, entries_ofCalls, resolver_ofCalls, resolverOf]

/-- Calls that register the same entries and leave the same resolver build the same router, or fail
with the same error. -/
theorem build_ofCalls_congr {calls' : List BuilderCall} (hentries : registered calls' =
    registered calls) (hresolver : resolverOf calls' = resolverOf calls) :
    (ofCalls calls').build = (ofCalls calls).build := by
  rcases hbuild : (ofCalls calls).build with error | router
  · rw [build_eq_error_iff, entries_ofCalls] at hbuild ⊢
    rwa [hentries]
  · rw [build_ofCalls_eq_ok_iff] at hbuild ⊢
    rwa [hentries, hresolver]

/-- Building keeps the order of the registered entries, and builds all of them or nothing. A router
that is built has these entries as its routes and the last resolver, which is all that the calls
decide. Routes that are compiled one by one make the same router as calls without a resolver. -/
theorem build_of_calls (calls : List BuilderCall) :
    ((∃ router, (ofCalls calls).build = .ok router) ↔
      ∀ entry ∈ registered calls, ∃ parsed, Pattern.parse entry.1 = .ok parsed) ∧
    (∀ error, (ofCalls calls).build = .error error ↔ Refused (registered calls) error) ∧
    (∀ error, (ofCalls calls).build = .error error → (ofCalls calls).buildEvents = []) ∧
    (∀ router, (ofCalls calls).build = .ok router →
      router.routes.map (fun route => (route.pattern.source, route.handler)) = registered calls ∧
      (∀ route ∈ router.routes, Pattern.parse route.pattern.source = .ok route.pattern) ∧
      router.resolver = resolverOf calls ∧
      (ofCalls calls).buildEvents = [.tableCompiled (registered calls).length]) ∧
    (∀ calls', registered calls' = registered calls → resolverOf calls' = resolverOf calls →
      (ofCalls calls').build = (ofCalls calls).build) ∧
    (lastResolver? calls = none →
      ((∃ routes, IsTable (registered calls) routes) ↔
        ∃ router, (ofCalls calls).build = .ok router) ∧
      ∀ routes router, IsTable (registered calls) routes → (ofCalls calls).build = .ok router →
        ∀ request, (Router.ofRoutes routes).dispatch request = router.dispatch request) := by
  have hexists : (∃ router, (ofCalls calls).build = .ok router) ↔
      ∃ routes, IsTable (registered calls) routes := by
    simp only [build_ofCalls_eq_ok_iff]
    constructor
    · rintro ⟨router, htable, -⟩
      exact ⟨router.routes, htable⟩
    · rintro ⟨routes, htable⟩
      exact ⟨⟨routes, resolverOf calls⟩, htable, rfl⟩
  refine ⟨hexists.trans exists_isTable_iff, ?_, ?_, ?_, ?_, ?_⟩
  · intro error
    rw [build_eq_error_iff, entries_ofCalls]
  · intro error herror
    rw [buildEvents, herror]
  · intro router hbuild
    obtain ⟨htable, hresolver⟩ := build_ofCalls_eq_ok_iff.1 hbuild
    refine ⟨htable.map_eq, htable.parse_eq, hresolver, ?_⟩
    rw [buildEvents, hbuild, ← htable.length_eq]
  · intro calls' hentries hresolver
    exact build_ofCalls_congr hentries hresolver
  · intro hnone
    refine ⟨hexists.symm, ?_⟩
    intro routes router htable hbuild request
    -- The routes are the ones the builder compiles, and without a call for one the resolver is that
    -- of a router made of routes.
    have hroutes : (ofCalls calls).build = .ok (Router.ofRoutes routes) := by
      rw [build_ofCalls_eq_ok_iff, resolverOf, hnone]
      exact ⟨htable, rfl⟩
    rw [Except.ok.inj (hroutes.symm.trans hbuild)]

/-- Two patterns are bad and the first of them is reported, and calls for a resolver may stand
anywhere. -/
theorem build_of_calls_interleaved :
    let page : Handler := fun context => .json context.path
    let refusing : Resolver := fun _ => .error .noCertificate
    let bad := ofCalls [.route "/ok" page, .identity refusing, .route "/bad/*rest/tail" page,
      .route "/*worse/x" page]
    bad.build = .error (.misplacedSplat "/bad/*rest/tail" "rest" 1) ∧ bad.buildEvents = [] ∧
    (ofCalls [.identity refusing, .route "/users/:name" page, .identity .anonymous,
      .route "/users/mplewis" page]).build =
      (ofCalls [.route "/users/:name" page, .route "/users/mplewis" page]).build ∧
    ∃ routes, IsTable [("/users/:name", page)] routes := by
  intro page refusing bad
  obtain ⟨-, hrefused, hevents, -⟩ := build_of_calls [.route "/ok" page, .identity refusing,
    .route "/bad/*rest/tail" page, .route "/*worse/x" page]
  have herror : bad.build = .error (.misplacedSplat "/bad/*rest/tail" "rest" 1) := by
    refine (hrefused _).2 ⟨[("/ok", page)], ("/bad/*rest/tail", page), [("/*worse/x", page)], rfl,
      ?_, by decide⟩
    rw [List.forall_mem_singleton]
    exact ⟨⟨"/ok", [.literal "ok"]⟩, by decide⟩
  obtain ⟨-, -, -, -, hcongr, -⟩ :=
    build_of_calls [.route "/users/:name" page, .route "/users/mplewis" page]
  obtain ⟨hbuilt, -, -, -, -, hnone⟩ := build_of_calls [.route "/users/:name" page]
  refine ⟨herror, hevents _ herror, hcongr _ rfl rfl, (hnone rfl).1.2 (hbuilt.2 ?_)⟩
  intro entry hentry
  obtain rfl : entry = ("/users/:name", page) := List.mem_singleton.1 hentry
  exact ⟨⟨"/users/:name", [.literal "users", .named "name"]⟩, by decide⟩

end RouterBuilder

end PatternRouter
