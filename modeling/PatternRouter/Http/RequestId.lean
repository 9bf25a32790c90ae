import PatternRouter.Http.Header
import PatternRouter.Json

/-!
# Identifiers of requests

The identifier that the server gives to a request is random. Sixteen bytes are written in hexadecimal
digits, in five groups; some of their bits say that the others are random.
-/

namespace PatternRouter.Http.RequestId

/-- Bytes in hexadecimal digits. -/
def hex (bytes : List UInt8) : String :=
  String.ofList (bytes.flatMap fun b =>
    [Json.hexDigit (b.toNat / 16), Json.hexDigit (b.toNat % 16)])

/-- Bytes with one of them changed. -/
def mark (bytes : List UInt8) (place : Nat) (keep set : UInt8) : List UInt8 :=
  bytes.modify place fun b => (b &&& keep) ||| set

/-- The identifier made of sixteen random bytes. -/
def ofRandom (bytes : List UInt8) : HeaderValue :=
  let bytes := mark (mark bytes 6 0x0F 0x40) 8 0x3F 0x80
  let group := fun start size => hex ((bytes.drop start).take size)
  .ofText ("-".intercalate [group 0 4, group 4 2, group 6 2, group 8 2, group 10 6])

end PatternRouter.Http.RequestId
