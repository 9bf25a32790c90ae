import PatternRouter.Http.Header

/-!
# Request methods

A method is any token and is read with regard to case. Two of them change how an answer is framed.
-/

namespace PatternRouter.Http

/-- The method of a request. -/
structure Method where
  /-- The name, as it was sent. -/
  name : String
deriving DecidableEq, Repr

namespace Method

/-- Asks for the whole answer. -/
def get : Method := ⟨"GET"⟩

/-- Asks for an answer without its body. -/
def head : Method := ⟨"HEAD"⟩

/-- Asks for a tunnel, which has neither body nor size. -/
def connect : Method := ⟨"CONNECT"⟩

/-- Read a method. -/
def parse? (name : String) : Option Method :=
  if name ≠ "" ∧ name.toList.all isTokenChar then some ⟨name⟩ else none

end Method

end PatternRouter.Http
