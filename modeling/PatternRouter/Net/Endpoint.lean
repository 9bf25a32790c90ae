import PatternRouter.Net.SocketAddress
import PatternRouter.SystemError

/-!
# Where to listen

The text of a place to listen at is a socket address, or the name of a host and a port behind the
last colon.
-/

namespace PatternRouter.Net

/-- A place to listen at. -/
inductive Endpoint where
  | socket (address : SocketAddress)
  | host (name : String) (port : Nat)
deriving DecidableEq, Repr

namespace Endpoint

/-- The text before the last colon and the text behind it. -/
def cutPort? (text : List Char) : Option (List Char × List Char) :=
  let port := (text.reverse.takeWhile (· != ':')).reverse
  if port.length = text.length then none
  else some (text.take (text.length - (port.length + 1)), port)

/-- The port that a text spells. A plus sign may lead it. -/
def port? (text : List Char) : Option Nat :=
  let digits := if text.head? = some '+' then text.tail else text
  match readNumber? 10 65536 digits with
  | some (port, []) => some port
  | _ => none

/-- Read a place to listen at. -/
def parse (text : String) : Except SystemError Endpoint :=
  match SocketAddress.parse? text with
  | some address => .ok (.socket address)
  | none =>
    match cutPort? text.toList with
    | none => .error (.invalidInput "invalid socket address")
    | some (name, port) =>
      match port? port with
      | some number => .ok (.host (String.ofList name) number)
      | none => .error (.invalidInput "invalid port value")

end Endpoint

end PatternRouter.Net
