import PatternRouter.Encoding.Percent
import PatternRouter.Encoding.Utf8
import PatternRouter.Params
import PatternRouter.Text.Pieces

/-!
# Query strings

A query string is a form: pieces between `&`, each a key and a value around its first `=`. In both a
plus sign is a space, percent-encoded bytes are decoded, and what is then no UTF-8 becomes U+FFFD.
Empty pieces bind nothing, and a piece without `=` binds its key to the empty text.

Of the pieces with one key the first decides, and keys are compared after decoding.
-/

namespace PatternRouter.Query

/-- The byte for which a byte of a form component stands: a plus sign is a space. -/
def plusToSpace (b : UInt8) : UInt8 :=
  if b = 0x2B then 0x20 else b

/-- The text that a component of a form stands for. -/
def decodeComponent (component : List Char) : String :=
  String.ofList (Utf8.decodeLossy (Percent.decode ((Utf8.encode component).map plusToSpace)))

/-- The key and the value of a piece of a form. -/
def decodePiece (piece : List Char) : String × String :=
  let (key, value) := Text.cutAt '=' piece
  (decodeComponent key, decodeComponent (value.getD []))

/-- The keys and values of a query string, in its order. -/
def pairs (query : String) : List (String × String) :=
  ((Text.pieces '&' query.toList).filter (!·.isEmpty)).map decodePiece

/-- The values of a query string, each key bound to its first value. -/
def flatten (query : String) : Params :=
  (pairs query).foldl (fun params (key, value) => params.insertNew key value) .empty

end PatternRouter.Query
