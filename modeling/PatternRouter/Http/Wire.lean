import PatternRouter.Http.Request

/-!
# Messages on a connection

A request is a line with its method, its target and a version, a line for each header field, an empty
line, and a body whose size a field states. A line ends with a line feed, before which a carriage
return may stand. An answer has the same form; its first line states its status. A connection serves
more requests unless the version or a field says otherwise.

* `Wire.read` reads the request at the beginning of what a connection gave so far.
* `Wire.render` is an answer as it is sent.
-/

namespace PatternRouter.Http.Wire

/-- The field that tells what becomes of the connection. -/
def connection : HeaderName := ⟨"connection"⟩

/-- A request that was read. -/
structure Received where
  request : Request
  /-- Whether the connection ends with the answer. -/
  closes : Bool
  /-- What follows the request. -/
  rest : List UInt8
deriving DecidableEq, Repr

/-- What a connection gave so far. -/
inductive Receipt where
  /-- A request that is not complete. -/
  | incomplete
  /-- No request. -/
  | malformed
  /-- A request. -/
  | complete (received : Received)
deriving DecidableEq, Repr

/-- The greatest number of bytes that a request may have before its body. -/
def maxHeadSize : Nat := 65536

/-- A line without the carriage return that ends it. The bytes of `line` stand in reverse. -/
def finishLine (line : List UInt8) : List UInt8 :=
  match line with
  | 0x0D :: rest => rest.reverse
  | _ => line.reverse

/-- The lines before the first empty one, and what follows that. The bytes of `line`, in reverse,
stand before the others. -/
def cutHead? (line : List UInt8) : List UInt8 → Option (List (List UInt8) × List UInt8)
  | [] => none
  | b :: rest =>
    if b = 0x0A then
      match finishLine line with
      | [] => some ([], rest)
      | content => (cutHead? [] rest).map fun (lines, rest) => (content :: lines, rest)
    else cutHead? (b :: line) rest

/-- Bytes as the characters with their numbers. -/
def characters (bytes : List UInt8) : List Char :=
  bytes.map fun b => Char.ofNat b.toNat

/-- Whether a byte is a space or a tab. -/
def isBlank (b : UInt8) : Bool :=
  b == 0x20 || b == 0x09

/-- Bytes without the blanks around them. -/
def trimBlanks (bytes : List UInt8) : List UInt8 :=
  ((bytes.dropWhile isBlank).reverse.dropWhile isBlank).reverse

/-- The header field on a line. -/
def field? (line : List UInt8) : Option (HeaderName × HeaderValue) := do
  let name := line.takeWhile (· != 0x3A)
  match line.drop name.length with
  | [] => none
  | _ :: value =>
    return (← HeaderName.parse? (String.ofList (characters name)),
      ← HeaderValue.parse? (trimBlanks value))

/-- The method and the target on the first line, and whether its version keeps connections. -/
def requestLine? (line : List UInt8) : Option (Method × Uri × Bool) := do
  match Text.pieces ' ' (← Utf8.decode? line) with
  | [method, target, version] =>
    let method ← Method.parse? (String.ofList method)
    let uri ← Uri.parse? (String.ofList target)
    match String.ofList version with
    | "HTTP/1.1" => return (method, uri, true)
    | "HTTP/1.0" => return (method, uri, false)
    | _ => none
  | _ => none

/-- The size of the body that the fields state. Without such a field there is no body. -/
def bodySize? (headers : Headers) : Option Nat :=
  match headers.get? .contentLength with
  | none => some 0
  | some value => (String.ofList (characters value)).toNat?

/-- Whether a field asks for the end of the connection. A body in pieces is not read, and neither is
what follows it. -/
def asksForClose (headers : Headers) : Bool :=
  (headers.get? connection).map (fun value => (String.ofList (characters value)).toLower) ==
      some "close" ||
    headers.has .transferEncoding

/-- Read the request at the beginning of what a connection gave so far. -/
def read (bytes : List UInt8) : Receipt :=
  match cutHead? [] bytes with
  | none => if maxHeadSize < bytes.length then .malformed else .incomplete
  | some ([], _) => .malformed
  | some (line :: lines, rest) =>
    match requestLine? line, lines.mapM field? with
    | some (method, uri, keeps), some headers =>
      match bodySize? headers with
      | none => .malformed
      | some size =>
        if rest.length < size then .incomplete
        else
          .complete
            { request := ⟨method, uri, headers, rest.take size⟩
              closes := !keeps || asksForClose headers
              rest := rest.drop size }
    | _, _ => .malformed

/-- The end of a line. -/
def lineEnd : List UInt8 := [0x0D, 0x0A]

/-- A header field as it is sent. -/
def renderField (field : HeaderName × HeaderValue) : List UInt8 :=
  Utf8.ofString field.1.text ++ [0x3A, 0x20] ++ field.2 ++ lineEnd

/-- An answer as it is sent, if the size of its body is known. One without content states no
size. -/
def render (response : Response) (closes : Bool) : List UInt8 :=
  let status :=
    "HTTP/1.1 " ++ toString response.status.code ++ " " ++ (response.status.reason?).getD ""
  let headers := if closes then response.headers ++ [(connection, .ofText "close")]
    else response.headers
  let headers := if response.status.code = 204 then headers.filter (·.1 ≠ .contentLength)
    else headers
  Utf8.ofString status ++ lineEnd ++ headers.flatMap renderField ++ lineEnd ++
    response.body.bytes

/-- The answer to what is no request. -/
def badRequest : Response :=
  ⟨⟨400⟩, [(.contentLength, .ofText "0")], .empty⟩

end PatternRouter.Http.Wire
