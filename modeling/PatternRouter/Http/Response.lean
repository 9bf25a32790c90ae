import PatternRouter.Encoding.Utf8
import PatternRouter.Http.Header
import PatternRouter.Http.Status

/-!
# Responses

A response is a status, header fields and a body. A body is bytes, which may be produced only while
they are sent, so that a server goes by what the body states of its size before.
-/

namespace PatternRouter.Http

/-- What is stated of the number of bytes of a body before they are sent. -/
structure SizeHint where
  /-- There are at least so many. -/
  lower : Nat
  /-- There are at most so many, if that is known. -/
  upper : Option Nat
deriving DecidableEq, Repr

namespace SizeHint

/-- The number is known. -/
def exactly (size : Nat) : SizeHint :=
  ⟨size, some size⟩

/-- The number, if it is known. -/
def known? (hint : SizeHint) : Option Nat :=
  if hint.upper = some hint.lower then some hint.lower else none

end SizeHint

/-- The body of a message. -/
structure Body where
  /-- The bytes that are sent. -/
  bytes : List UInt8
  size : SizeHint
deriving DecidableEq, Repr

namespace Body

/-- A body whose bytes are known. -/
def ofBytes (bytes : List UInt8) : Body :=
  ⟨bytes, .exactly bytes.length⟩

/-- A text. -/
def ofText (text : String) : Body :=
  ofBytes (Utf8.ofString text)

/-- No bytes. -/
def empty : Body := ofBytes []

end Body

/-- The answer to a request. -/
structure Response where
  status : Status
  /-- The header fields. -/
  headers : Headers
  body : Body
deriving DecidableEq, Repr

namespace Response

/-- A response with a status and nothing else. -/
def ofStatus (status : Status) : Response :=
  ⟨status, [], .empty⟩

/-- A response with a plain text. -/
def plain (status : Status) (text : String) : Response :=
  ⟨status, [(.contentType, .ofText "text/plain; charset=utf-8")], .ofText text⟩

/-- A response with a JSON text. -/
def json (text : String) : Response :=
  ⟨.ok, [(.contentType, .ofText "application/json")], .ofText text⟩

end Response

end PatternRouter.Http
