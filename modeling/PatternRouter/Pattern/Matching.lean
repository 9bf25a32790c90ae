import PatternRouter.Params
import PatternRouter.Pattern

/-!
# Matching a path

The separators that lead a path are dropped, and what is left is cut into tokens. A separator at
the end of a path is meaningful: it closes an empty token. A pattern walks over the tokens from the
left. Each segment takes one token, and a splat takes all that are left.

A path is matched when the walk comes to its end and no token is left over. The number of tokens
decides the latter before the walk begins: without a splat it is the number of segments, and with
one it is at least that number.
-/

namespace PatternRouter

/-- The tokens of a path: what stands between its separators, once those that lead it are gone. -/
def pathTokens (path : String) : List String :=
  match Text.trimStart separator path.toList with
  | [] => []
  | text => (Text.pieces separator text).map String.ofList

/-- What one segment takes from the tokens of a path. -/
structure Capture where
  segment : Segment
  /-- The tokens that it takes, in their order. -/
  tokens : List String
deriving DecidableEq, Repr

namespace Capture

/-- The text that a splat binds: each of its tokens after a separator. -/
def splatText (tokens : List String) : String :=
  String.ofList (separator :: Text.joinWith separator (tokens.map String.toList))

/-- Bind the key of a segment to what it took, whatever the key was bound to before. -/
def bind (params : Params) (capture : Capture) : Params :=
  match capture.segment with
  | .literal _ => params
  | .named key => params.insert key (capture.tokens.headD "")
  | .splat key => params.insert key (splatText capture.tokens)

end Capture

/-- Why a walk over the tokens of a path comes to no end. -/
inductive Walk.Stop where
  /-- A literal differs from the token in its place. -/
  | mismatch
  /-- No token is left for a segment. -/
  | exhausted
deriving DecidableEq, Repr

/-- Walk over tokens, each segment taking its own. -/
def walk : List Segment → List String → Except Walk.Stop (List Capture)
  | [], _ => .ok []
  | _ :: _, [] => .error .exhausted
  | .splat key :: _, token :: tokens => .ok [⟨.splat key, token :: tokens⟩]
  | .named key :: segments, token :: tokens =>
    (walk segments tokens).map (⟨.named key, [token]⟩ :: ·)
  | .literal text :: segments, token :: tokens =>
    if text = token then (walk segments tokens).map (⟨.literal text, [token]⟩ :: ·)
    else .error .mismatch

namespace Pattern

/-- Whether a path of `count` tokens can be matched. -/
def admits (pattern : Pattern) (count : Nat) : Bool :=
  if pattern.endsInSplat then pattern.segments.length ≤ count
  else pattern.segments.length == count

/-- The values that a pattern binds on a path, if it matches it. A key that several segments bear
has the value of the last of them. -/
def match? (pattern : Pattern) (path : String) : Option Params :=
  let tokens := pathTokens path
  if pattern.admits tokens.length then
    match walk pattern.segments tokens with
    | .ok captures => some (captures.foldl Capture.bind .empty)
    | .error _ => none
  else none

end Pattern

end PatternRouter
