import PatternRouter.Encoding.Percent
import PatternRouter.Encoding.Utf8
import PatternRouter.Http.Method
import PatternRouter.Http.Uri
import PatternRouter.Router

/-!
# Requests

A request becomes what a router sees. Its path is percent-decoded, unless that gives no UTF-8: then
the path stays as it is spelled. Its query stays as it is spelled. The credential is the
percent-decoded value of one header field; without such a field it is empty.
-/

namespace PatternRouter.Http

/-- A request. -/
structure Request where
  method : Method
  /-- The target. -/
  uri : Uri
  /-- The header fields. -/
  headers : Headers
  body : List UInt8
deriving DecidableEq, Repr

namespace Request

/-- A path percent-decoded, or as it is spelled if that gives no UTF-8. -/
def decodePath (path : String) : String :=
  (Utf8.toString? (Percent.decode (Utf8.ofString path))).getD path

/-- The credential in the first field of a name. -/
def credential (request : Request) (name : Option HeaderName) : Credential :=
  match name.bind request.headers.get? with
  | some value => ⟨Percent.decode value⟩
  | none => .empty

/-- The request as a router sees it, with the credential from the first field of a name. -/
def inbound (request : Request) (credentialHeader : Option HeaderName) : InboundRequest :=
  { path := decodePath request.uri.path
    rawQuery := request.uri.query.getD ""
    credential := request.credential credentialHeader }

/-- The identifier of a request in the log. -/
def logId (request : Request) : String :=
  ((request.headers.get? .requestId).bind HeaderValue.text?).getD "unknown"

end Request

end PatternRouter.Http
