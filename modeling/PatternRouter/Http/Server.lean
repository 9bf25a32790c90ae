import PatternRouter.Http.Request
import PatternRouter.Settings

/-!
# The server

Every request is given an identifier if it has none, goes through the router, is counted by its
outcome and logged, and is answered with the response of the handler or with a plain text that tells
no cause. The answer repeats the identifier, and states the size of its body where that is known. A
request for the header alone gets no body, and neither does a tunnel.
-/

namespace PatternRouter.Http

/-- A router that answers HTTP requests. -/
structure Server where
  router : Router
  /-- The name of the field that holds credentials, if credentials are read. -/
  credentialHeader : Option HeaderName

/-- How many dispatches had each outcome. -/
structure OutcomeCounts where
  /-- Dispatches that a handler answered. -/
  handled : Nat := 0
  /-- Dispatches that no route matched. -/
  notFound : Nat := 0
  /-- Dispatches that failed. -/
  internalError : Nat := 0
deriving DecidableEq, Repr

namespace OutcomeCounts

/-- Count one more dispatch. -/
def add (counts : OutcomeCounts) : OutcomeKind → OutcomeCounts
  | .handled => { counts with handled := counts.handled + 1 }
  | .notFound => { counts with notFound := counts.notFound + 1 }
  | .internalError => { counts with internalError := counts.internalError + 1 }

/-- The count of one outcome. -/
def get (counts : OutcomeCounts) : OutcomeKind → Nat
  | .handled => counts.handled
  | .notFound => counts.notFound
  | .internalError => counts.internalError

end OutcomeCounts

/-- What is measured about dispatches. -/
structure Metrics where
  /-- How many there were. -/
  dispatches : OutcomeCounts := {}
  /-- How many of their durations were taken. -/
  durations : OutcomeCounts := {}
deriving DecidableEq, Repr

/-- Measure one more dispatch. -/
def Metrics.record (metrics : Metrics) (kind : OutcomeKind) : Metrics :=
  ⟨metrics.dispatches.add kind, metrics.durations.add kind⟩

/-- An answer and how it came about. -/
structure Answer where
  response : Response
  /-- The outcome of the dispatch. -/
  outcome : Outcome
  /-- What was done, in order. -/
  steps : List Step
deriving DecidableEq, Repr

namespace Server

/-- The text of an answer to a request that no route matches. -/
def notFoundText : String := "path not found"

/-- The text of an answer to a request that failed. -/
def internalErrorText : String := "internal server error"

/-- The response to an outcome. -/
def respond : Outcome → Response
  | .handled response => response
  | .notFound => .plain .notFound notFoundText
  | .internalError _ => .plain .internalServerError internalErrorText

/-- The event that tells the outcome of a request. -/
def outcomeEvent (requestId path : String) : Outcome → Log.Event
  | .handled response => .requestHandled requestId path response.status
  | .notFound => .requestUnmatched requestId path
  | .internalError error => .requestFailed requestId path error

/-- The field that holds credentials. There is none if clients are not identified, or if the name
that is set is not one of a field. -/
def credentialHeaderOf (settings : IdentitySettings) : Option HeaderName :=
  if settings.enabled then HeaderName.parse? settings.header else none

/-- The server with a router and settings. -/
def ofSettings (settings : Settings) (router : Router) : Server :=
  ⟨router, credentialHeaderOf settings.identity⟩

/-- Whether a response states that bytes follow its header. -/
def announcesBody (response : Response) : Bool :=
  response.headers.has .contentLength || response.headers.has .transferEncoding ||
    response.body.size.lower != 0

/-- Header fields with the size of a body, if it is known and no size is stated yet. -/
def withSize (headers : Headers) (size : SizeHint) : Headers :=
  match size.known? with
  | some size => headers.addNew .contentLength (.ofText (toString size))
  | none => headers

/-- Fit a response to the method of its request. A tunnel is opened without a body, and its header
stays as it is. -/
def frame (method : Method) (response : Response) : Response :=
  if method = .connect ∧ response.status.isSuccess then
    { response with body := if announcesBody response then .empty else response.body }
  else
    -- The size is that of the body before it is taken away.
    { response with
      headers := withSize response.headers response.body.size
      body := if method = .head then .empty else response.body }

/-- Answer a request. The identifier `generatedId` is given to it if it has none. -/
def answer (server : Server) (generatedId : HeaderValue) (request : Request) : Answer :=
  let request := { request with headers := request.headers.addNew .requestId generatedId }
  let inbound := request.inbound server.credentialHeader
  let dispatch := server.router.dispatch inbound
  let event := outcomeEvent request.logId inbound.path dispatch.outcome
  let response := frame request.method (respond dispatch.outcome)
  let requestId := (request.headers.get? .requestId).getD generatedId
  { response := { response with headers := response.headers.addNew .requestId requestId }
    outcome := dispatch.outcome
    steps := dispatch.steps ++ [.log event] }

/-- Answer requests one after the other, each with its own identifier to be given, and measure. With
each answer stands what was measured up to it. -/
def run (server : Server) (metrics : Metrics) :
    List (HeaderValue × Request) → List (Answer × Metrics)
  | [] => []
  | (generatedId, request) :: rest =>
    let answer := server.answer generatedId request
    let metrics := metrics.record answer.outcome.kind
    (answer, metrics) :: run server metrics rest

end Server

end PatternRouter.Http
