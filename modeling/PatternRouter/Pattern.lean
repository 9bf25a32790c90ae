import PatternRouter.Text.Pieces

/-!
# Path patterns

A pattern is a text of segments between separators. A segment that begins with `:` is named and
takes one token of a path, one that begins with `*` is a splat and takes all that are left, and
any other is a literal and stands for itself. A splat may stand in the last place only.

```text
/users/:name/posts/:id     literal, named, literal, named
/input/*next               literal, splat
/                          no segment
```

Separators around a pattern carry no meaning; separators inside it do, also repeated ones.

* `parse_source`: a parsed pattern keeps its text as it was written.
* `parse_segments`: the segments of a parsed pattern are those of its text.
* `parse_eq_error_iff`: parsing fails exactly when a splat stands before the last place.
-/

namespace PatternRouter

/-- The character between the segments of a pattern and between the tokens of a path. -/
def separator : Char := '/'

/-- One segment of a pattern. -/
inductive Segment where
  /-- Matches the token that is equal to it. -/
  | literal (text : String)
  /-- Matches any one token and binds it to `key`. -/
  | named (key : String)
  /-- Matches all the tokens that are left, at least one, and binds them to `key`. -/
  | splat (key : String)
deriving DecidableEq, Repr

namespace Segment

/-- The segment that a token of a pattern spells. -/
def ofToken : List Char → Segment
  | ':' :: key => .named (String.ofList key)
  | '*' :: key => .splat (String.ofList key)
  | text => .literal (String.ofList text)

/-- The token of a pattern that spells a segment. -/
def token : Segment → List Char
  | .literal text => text.toList
  | .named key => ':' :: key.toList
  | .splat key => '*' :: key.toList

/-- Whether a segment is a splat. -/
def isSplat : Segment → Bool
  | .splat _ => true
  | _ => false

/-- The key that a segment binds, if it binds one. -/
def key? : Segment → Option String
  | .literal _ => none
  | .named key => some key
  | .splat key => some key

/-- Spelling the segment that a token spells gives the token back. -/
theorem token_ofToken (text : List Char) : (ofToken text).token = text := by
  unfold ofToken
  split <;> simp [token]

end Segment

/-- Why a text is not a pattern. -/
inductive PatternError where
  /-- A splat with key `key` stands at segment `position`, counted from zero, and is not the last
  segment of `pattern`. -/
  | misplacedSplat (pattern key : String) (position : Nat)
deriving DecidableEq, Repr

/-- What is said of a text that is not a pattern. -/
def PatternError.message : PatternError → String
  | .misplacedSplat pattern key position =>
    "misplaced wildcard segment `*" ++ key ++ "` at position " ++ toString position ++
      " in pattern `" ++ pattern ++ "`"

/-- A compiled pattern. -/
structure Pattern where
  /-- The text of the pattern, as it was written. -/
  source : String
  /-- The segments that the text spells. -/
  segments : List Segment
deriving DecidableEq, Repr

namespace Pattern

/-- The segments that a text spells, wherever its splats stand. -/
def segmentsOf (source : String) : List Segment :=
  match Text.trim separator source.toList with
  | [] => []
  | text => (Text.pieces separator text).map Segment.ofToken

/-- The key and the place of the first splat that another segment follows. The places are counted
from `position`. -/
def firstMisplaced (position : Nat) : List Segment → Option (String × Nat)
  | [] => none
  | [_] => none
  | .splat key :: _ :: _ => some (key, position)
  | _ :: next :: rest => firstMisplaced (position + 1) (next :: rest)

/-- Compile a pattern. -/
def parse (source : String) : Except PatternError Pattern :=
  match firstMisplaced 0 (segmentsOf source) with
  | some (key, position) => .error (.misplacedSplat source key position)
  | none => .ok ⟨source, segmentsOf source⟩

/-- Whether the last segment is a splat. -/
def endsInSplat (pattern : Pattern) : Bool :=
  (pattern.segments.getLast?.map Segment.isSplat).getD false

/-- The text that spells a list of segments, without separators around it. -/
def render (segments : List Segment) : String :=
  String.ofList (Text.joinWith separator (segments.map Segment.token))

/-- Parsing fails exactly when a splat stands before the last place, and tells the first such. -/
theorem parse_eq_error_iff (source : String) (error : PatternError) :
    parse source = .error error ↔
      ∃ key position, firstMisplaced 0 (segmentsOf source) = some (key, position) ∧
        error = .misplacedSplat source key position := by
  unfold parse
  cases h : firstMisplaced 0 (segmentsOf source) with
  | none => simp
  | some found =>
    obtain ⟨key, position⟩ := found
    simp only [Except.error.injEq, Option.some.injEq, Prod.mk.injEq]
    constructor
    · rintro rfl; exact ⟨key, position, ⟨rfl, rfl⟩, rfl⟩
    · rintro ⟨_, _, ⟨rfl, rfl⟩, rfl⟩; rfl

/-- Parsing succeeds exactly when no splat is misplaced, and keeps the text with its segments. -/
theorem parse_eq_ok_iff (source : String) (pattern : Pattern) :
    parse source = .ok pattern ↔
      firstMisplaced 0 (segmentsOf source) = none ∧ pattern = ⟨source, segmentsOf source⟩ := by
  unfold parse
  cases h : firstMisplaced 0 (segmentsOf source) with
  | none => simp [eq_comm]
  | some found => simp

/-- A parsed pattern keeps its text as it was written. -/
theorem parse_source {source : String} {pattern : Pattern} (h : parse source = .ok pattern) :
    pattern.source = source := by
  rw [((parse_eq_ok_iff source pattern).1 h).2]

/-- The segments of a parsed pattern are those of its text. -/
theorem parse_segments {source : String} {pattern : Pattern} (h : parse source = .ok pattern) :
    pattern.segments = segmentsOf source := by
  rw [((parse_eq_ok_iff source pattern).1 h).2]

end Pattern

end PatternRouter
