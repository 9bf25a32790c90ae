import PatternRouter.Http.Response
import PatternRouter.Identity
import PatternRouter.Log.Event
import PatternRouter.Pattern.Matching
import PatternRouter.Query

/-!
# Routers

A router holds routes in the order in which they were registered, and a resolver. A request goes to
the first route that matches its path, however specific the others are. Only then is the identity of
the client resolved, and only if that does not fail is the handler of the route called.

What a dispatch does is told by its steps: the events that it logs, the credential that it resolves
and the handler that it calls, in their order.
-/

namespace PatternRouter

/-- A request as a router sees it. -/
structure InboundRequest where
  /-- The path, decoded. -/
  path : String
  /-- The query, as it is spelled. -/
  rawQuery : String
  /-- What the client presents. -/
  credential : Credential
deriving DecidableEq, Repr

/-- What a handler is told about a request. -/
structure RequestContext where
  /-- The path, decoded. -/
  path : String
  /-- The query, as it is spelled. -/
  queryString : String
  /-- The values of the query. -/
  queryParams : Params
  /-- The values that the route binds on the path. -/
  pathParams : Params
  /-- Who the client is, if that is known. -/
  identity : Option Identity
deriving DecidableEq, Repr

namespace RequestContext

/-- The value that the route binds to a key. -/
def pathParam? (context : RequestContext) (key : String) : Option String :=
  context.pathParams.get? key

/-- The first value that the query binds to a key. -/
def queryParam? (context : RequestContext) (key : String) : Option String :=
  context.queryParams.get? key

/-- The name under which the client is shown. -/
def displayName (context : RequestContext) : String :=
  PatternRouter.displayName context.identity

end RequestContext

/-- Answers the requests of one route. -/
abbrev Handler := RequestContext → Http.Response

/-- A pattern and the handler of the paths that it matches. -/
structure Route where
  pattern : Pattern
  handler : Handler

/-- Compile the pattern of a route. -/
def Route.compile (pattern : String) (handler : Handler) : Except PatternError Route :=
  (Pattern.parse pattern).map (⟨·, handler⟩)

/-- Routes in the order of their registration, and the resolver of client identities. -/
structure Router where
  routes : List Route
  resolver : Resolver

/-- The outcome of a dispatch. -/
inductive Outcome where
  /-- A handler answered. -/
  | handled (response : Http.Response)
  /-- No route matches. -/
  | notFound
  /-- A route matches, but the credential gives no identity. -/
  | internalError (error : IdentityError)
deriving DecidableEq, Repr

/-- The kinds of outcomes. -/
inductive OutcomeKind where
  | handled
  | notFound
  | internalError
deriving DecidableEq, Repr

/-- The kind of an outcome. -/
def Outcome.kind : Outcome → OutcomeKind
  | .handled _ => .handled
  | .notFound => .notFound
  | .internalError _ => .internalError

/-- The label of a kind of outcome in metrics. -/
def OutcomeKind.label : OutcomeKind → String
  | .handled => "handled"
  | .notFound => "not_found"
  | .internalError => "internal_error"

/-- One thing that a dispatch does. -/
inductive Step where
  /-- An event is logged. -/
  | log (event : Log.Event)
  | resolve (credential : Credential)
  /-- The handler of the route at an index is called. -/
  | call (route : Nat) (context : RequestContext)
deriving DecidableEq, Repr

/-- The event that a step logs, if it logs one. -/
def Step.event? : Step → Option Log.Event
  | .log event => some event
  | _ => none

/-- The credential that a step resolves, if it resolves one. -/
def Step.resolved? : Step → Option Credential
  | .resolve credential => some credential
  | _ => none

/-- The route and the context of the call that a step makes, if it makes one. -/
def Step.call? : Step → Option (Nat × RequestContext)
  | .call route context => some (route, context)
  | _ => none

/-- Whether a step calls the handler of the route at an index. -/
def Step.isCallOf (index : Nat) (step : Step) : Bool :=
  step.call?.any fun call => call.1 == index

/-- Whether a step resolves a credential. -/
def Step.isResolve (step : Step) : Bool :=
  step.resolved?.isSome

/-- A value, and the steps that were taken to get it. -/
structure Recorded (α : Type) where
  value : α
  /-- What was done, in order. -/
  steps : List Step

namespace Recorded

variable {α β : Type}

instance : Monad Recorded where
  pure value := ⟨value, []⟩
  bind first next :=
    let second := next first.value
    ⟨second.value, first.steps ++ second.steps⟩

/-- Log an event. -/
def log (event : Log.Event) : Recorded Unit :=
  ⟨(), [.log event]⟩

/-- Apply a function. The step names the argument to which it is applied. -/
def apply (step : α → Step) (f : α → β) (argument : α) : Recorded β :=
  ⟨f argument, [step argument]⟩

end Recorded

/-- The outcome of a dispatch and what was done for it. -/
structure Dispatch where
  outcome : Outcome
  /-- What was done, in order. -/
  steps : List Step
deriving DecidableEq, Repr

namespace Router

/-- A router in which no client has an identity. -/
def ofRoutes (routes : List Route) : Router :=
  ⟨routes, .anonymous⟩

/-- The first of some routes that matches a path, with its index and what it binds. The indices are
counted from `index`. -/
def firstMatch? (path : String) (index : Nat) : List Route → Option (Nat × Route × Params)
  | [] => none
  | route :: rest =>
    match route.pattern.match? path with
    | some params => some (index, route, params)
    | none => firstMatch? path (index + 1) rest

/-- Find the outcome for one request. The resolver and the handlers are applied nowhere else. -/
def serve (router : Router) (request : InboundRequest) : Recorded Outcome := do
  match firstMatch? request.path 0 router.routes with
  | none =>
    Recorded.log (.noRoute request.path)
    return .notFound
  | some (index, route, params) =>
    Recorded.log (.routeMatched request.path route.pattern.source)
    match ← Recorded.apply .resolve router.resolver request.credential with
    | .error error =>
      Recorded.log (.identityFailed request.path route.pattern.source error)
      return .internalError error
    | .ok identity =>
      let context : RequestContext :=
        { path := request.path
          queryString := request.rawQuery
          queryParams := Query.flatten request.rawQuery
          pathParams := params
          identity }
      return .handled (← Recorded.apply (.call index) route.handler context)

/-- Serve one request. -/
def dispatch (router : Router) (request : InboundRequest) : Dispatch :=
  let served := router.serve request
  ⟨served.value, served.steps⟩

/-- Serve requests one after the other. -/
def run (router : Router) (requests : List InboundRequest) : List Dispatch :=
  requests.map router.dispatch

end Router

/-- The making of a router: routes and resolvers are registered one after the other. -/
structure RouterBuilder where
  /-- The patterns and handlers registered so far. -/
  entries : List (String × Handler) := []
  /-- The resolver registered last, if there is one. -/
  resolver : Option Resolver := none

namespace RouterBuilder

/-- Register a route behind the others. -/
def route (builder : RouterBuilder) (pattern : String) (handler : Handler) : RouterBuilder :=
  { builder with entries := builder.entries ++ [(pattern, handler)] }

/-- Register a resolver in the place of any other. -/
def identity (builder : RouterBuilder) (resolver : Resolver) : RouterBuilder :=
  { builder with resolver := some resolver }

/-- Compile the patterns. The first that is none decides. -/
def build (builder : RouterBuilder) : Except PatternError Router := do
  let routes ← builder.entries.mapM fun (pattern, handler) => Route.compile pattern handler
  return ⟨routes, builder.resolver.getD .anonymous⟩

/-- The events that are logged when the router is built. -/
def buildEvents (builder : RouterBuilder) : List Log.Event :=
  match builder.build with
  | .ok router => [.tableCompiled router.routes.length]
  | .error _ => []

end RouterBuilder

end PatternRouter
