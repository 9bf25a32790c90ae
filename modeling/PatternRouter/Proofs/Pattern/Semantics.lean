import PatternRouter.Pattern.Matching
import PatternRouter.Proofs.Pattern.Grammar

/-!
# What a pattern matches

The relation `Matches` says which tokens a list of segments matches, by recursion on the segments
and with no count of tokens. Matching a path decides it, although it compares numbers first and
walks afterwards: with a splat in the last place only, the numbers leave no token over.

What a match binds is read off the place of a segment. Each segment takes the token in its own
place, and a splat all from its place on, so `captures` needs no walk at all.

* `pathTokens_eq_pathPieces`: the tokens of a path are its pieces in the terms of the list library.
* `match?_eq_some_iff`: matching a path decides `Matches` and binds its captures in their order.
* `get?_foldl_bind_getElem`: the last capture with a key decides what the key is bound to.
* `match?_agrees_with_matches`: both for parsed patterns, in the terms of the declarative reading.
-/

namespace PatternRouter

/-! ## The tokens of a path -/

/-- What stands between the separators of a path behind those that lead it. A path that holds
separators alone has no piece. -/
def pathPieces (path : String) : List String :=
  if path.toList.all (· == separator) then []
  else ((path.toList.dropWhile (· == separator)).splitOn separator).map String.ofList

theorem pathTokens_eq (path : String) :
    pathTokens path =
      (Text.tokens separator (Text.trimStart separator path.toList)).map String.ofList := by
  rw [pathTokens, Text.tokens]
  split
  · next h => rw [if_pos h, List.map_nil]
  · next hne => rw [if_neg hne, Text.pieces_eq_splitOn]

theorem joinWith_pathTokens (path : String) :
    Text.joinWith separator ((pathTokens path).map String.toList) =
      Text.trimStart separator path.toList := by
  rw [pathTokens_eq, Text.map_toList_map_ofList, Text.joinWith_tokens]

/-- The paths without tokens are those of separators alone. -/
theorem pathTokens_eq_nil_iff (path : String) :
    pathTokens path = [] ↔ Text.trimStart separator path.toList = [] := by
  constructor
  · intro h
    rw [← joinWith_pathTokens, h]
    rfl
  · intro h
    rw [pathTokens_eq, h]
    rfl

theorem separator_not_mem_of_mem_pathTokens (path : String) :
    ∀ token ∈ pathTokens path, separator ∉ token.toList := by
  intro token htoken
  rw [pathTokens_eq] at htoken
  obtain ⟨text, htext, rfl⟩ := List.mem_map.1 htoken
  rw [String.toList_ofList]
  exact Text.not_mem_of_mem_tokens htext

theorem pathTokens_eq_pathPieces (path : String) : pathTokens path = pathPieces path := by
  rw [pathTokens_eq, pathPieces, Text.tokens]
  have hall : path.toList.all (· == separator) = true ↔
      Text.trimStart separator path.toList = [] := by
    simp [Text.trimStart_eq_nil_iff]
  by_cases h : path.toList.all (· == separator) = true
  · rw [if_pos h, if_pos (hall.1 h), List.map_nil]
  · rw [if_neg h, if_neg (mt hall.2 h), Text.trimStart]

/-! ## The relation -/

/-- Which tokens a list of segments matches: a literal the one that is equal to it, a named segment
any one, and a splat, which must be the last segment, all that are left, if there is one. -/
inductive Matches : List Segment → List String → Prop
  | nil : Matches [] []
  | literal {text : String} {segments : List Segment} {tokens : List String} :
      Matches segments tokens → Matches (.literal text :: segments) (text :: tokens)
  | named {key token : String} {segments : List Segment} {tokens : List String} :
      Matches segments tokens → Matches (.named key :: segments) (token :: tokens)
  | splat {key : String} {tokens : List String} :
      tokens ≠ [] → Matches [.splat key] tokens

theorem Matches.length_le {segments : List Segment} {tokens : List String}
    (h : Matches segments tokens) : segments.length ≤ tokens.length := by
  induction h with
  | nil => exact Nat.le_refl 0
  | literal _ ih => exact Nat.succ_le_succ ih
  | named _ ih => exact Nat.succ_le_succ ih
  | splat hne => exact List.length_pos_iff.2 hne

/-- The tokens that a segment takes from those that are left. -/
def Segment.taken : Segment → List String → List String
  | .splat _, tokens => tokens
  | _, tokens => tokens.take 1

namespace Pattern

variable {source : String} {segments : List Segment} {tokens : List String}

/-! ## The number of tokens -/

/-- The number of tokens is at least that of segments, and no greater without a splat. -/
theorem admits_iff {pattern : Pattern} {count : Nat} :
    pattern.admits count = true ↔ pattern.segments.length ≤ count ∧
      (pattern.endsInSplat = false → pattern.segments.length = count) := by
  rw [admits]
  cases hsplat : pattern.endsInSplat with
  | true => simp
  | false =>
    simp only [Bool.false_eq_true, if_false, beq_iff_eq, true_implies]
    omega

theorem admits_nil_iff (count : Nat) : admits ⟨source, []⟩ count = true ↔ count = 0 := by
  have hcount : admits ⟨source, []⟩ count = (0 == count) := rfl
  rw [hcount, beq_iff_eq, eq_comm]

theorem admits_splat_iff (key : String) (count : Nat) :
    admits ⟨source, [.splat key]⟩ count = true ↔ 1 ≤ count := by
  have hcount : admits ⟨source, [.splat key]⟩ count = decide (1 ≤ count) := rfl
  rw [hcount, decide_eq_true_iff]

theorem endsInSplat_cons {segment : Segment} (h : segment.isSplat = false)
    (segments : List Segment) :
    endsInSplat ⟨source, segment :: segments⟩ = endsInSplat ⟨source, segments⟩ := by
  cases segments with
  | nil => simp [endsInSplat, h]
  | cons next rest => rw [endsInSplat, endsInSplat, List.getLast?_cons_cons]

theorem admits_cons_succ {segment : Segment} (h : segment.isSplat = false)
    (segments : List Segment) (count : Nat) :
    admits ⟨source, segment :: segments⟩ (count + 1) = admits ⟨source, segments⟩ count := by
  rw [admits, admits, endsInSplat_cons h segments]
  simp

theorem admits_of_matches (h : Matches segments tokens) :
    admits ⟨source, segments⟩ tokens.length = true := by
  induction h with
  | nil => exact (admits_nil_iff 0).2 rfl
  | literal _ ih => rwa [List.length_cons, admits_cons_succ rfl]
  | named _ ih => rwa [List.length_cons, admits_cons_succ rfl]
  | splat hne => exact (admits_splat_iff _ _).2 (List.length_pos_iff.2 hne)

/-! ## The walk -/

/-- What each segment takes, read off its place. -/
def captures (segments : List Segment) (tokens : List String) : List Capture :=
  segments.mapIdx fun i segment => ⟨segment, segment.taken (tokens.drop i)⟩

theorem captures_cons (segment : Segment) (segments : List Segment) (token : String)
    (tokens : List String) :
    captures (segment :: segments) (token :: tokens) =
      ⟨segment, segment.taken (token :: tokens)⟩ :: captures segments tokens := by
  simp [captures, List.mapIdx_cons]

/-- The walk over matched tokens comes to its end, and each segment takes what its place says. -/
theorem walk_of_matches (h : Matches segments tokens) :
    walk segments tokens = .ok (captures segments tokens) := by
  induction h with
  | nil => rfl
  | literal _ ih =>
    rw [walk, if_pos rfl, ih, captures_cons]
    rfl
  | named _ ih =>
    rw [walk, ih, captures_cons]
    rfl
  | @splat key tokens hne =>
    obtain ⟨token, rest, rfl⟩ := List.exists_cons_of_ne_nil hne
    rfl

/-- If the number of tokens is admitted and the walk comes to its end, the tokens are matched. -/
theorem matches_of_walk {taken : List Capture} (hlast : SplatLast segments)
    (hadmits : admits ⟨source, segments⟩ tokens.length = true)
    (hwalk : walk segments tokens = .ok taken) : Matches segments tokens := by
  -- Each step of the walk takes one segment and one token, which keeps the numbers admitted.
  induction segments generalizing tokens taken with
  | nil =>
    -- The walk alone would leave tokens over here; their number rules that out.
    rw [admits_nil_iff, List.length_eq_zero_iff] at hadmits
    rw [hadmits]
    exact Matches.nil
  | cons segment segments ih =>
    cases tokens with
    | nil => simp [walk] at hwalk
    | cons token tokens =>
      cases segment with
      | splat key =>
        cases segments with
        | nil => exact Matches.splat (List.cons_ne_nil token tokens)
        | cons next rest => exact absurd hlast.head (by simp [Segment.isSplat])
      | named key =>
        rw [List.length_cons, admits_cons_succ rfl] at hadmits
        cases hrest : walk segments tokens with
        | error stop => simp [walk, hrest, Except.map] at hwalk
        | ok others => exact Matches.named (ih hlast.tail hadmits hrest)
      | literal text =>
        rw [List.length_cons, admits_cons_succ rfl] at hadmits
        by_cases htext : text = token
        · subst htext
          cases hrest : walk segments tokens with
          | error stop => simp [walk, hrest, Except.map] at hwalk
          | ok others => exact Matches.literal (ih hlast.tail hadmits hrest)
        · simp [walk, htext] at hwalk

/-- Matching a path decides whether its tokens are matched, and binds what each segment takes, the
later segments over the earlier ones. -/
theorem match?_eq_some_iff {pattern : Pattern} (hlast : SplatLast pattern.segments) (path : String)
    (params : Params) :
    pattern.match? path = some params ↔
      Matches pattern.segments (pathTokens path) ∧
        params = (captures pattern.segments (pathTokens path)).foldl Capture.bind .empty := by
  rw [match?]
  constructor
  · intro h
    split at h
    · next hadmits =>
      split at h
      · next taken hwalk =>
        -- The walk that came to its end is the one that the relation describes.
        have hmatches := matches_of_walk hlast hadmits hwalk
        obtain rfl : captures pattern.segments (pathTokens path) = taken := by
          rw [walk_of_matches hmatches] at hwalk
          exact Except.ok.inj hwalk
        exact ⟨hmatches, (Option.some.inj h).symm⟩
      · cases h
    · cases h
  · rintro ⟨hmatches, rfl⟩
    rw [if_pos (admits_of_matches hmatches), walk_of_matches hmatches]

theorem isSome_match?_iff {pattern : Pattern} (hlast : SplatLast pattern.segments) (path : String) :
    (pattern.match? path).isSome ↔ Matches pattern.segments (pathTokens path) := by
  rw [Option.isSome_iff_exists]
  constructor
  · rintro ⟨params, hparams⟩
    exact ((match?_eq_some_iff hlast path params).1 hparams).1
  · intro hmatches
    exact ⟨_, (match?_eq_some_iff hlast path _).2 ⟨hmatches, rfl⟩⟩

end Pattern

/-! ## What a match binds -/

namespace Capture

/-- The text to which a capture binds the key of its segment. -/
def value (capture : Capture) : String :=
  match capture.segment with
  | .splat _ => splatText capture.tokens
  | _ => capture.tokens.headD ""

theorem get?_bind (params : Params) (capture : Capture) (key : String) :
    (bind params capture).get? key =
      if capture.segment.key? = some key then some capture.value else params.get? key := by
  obtain ⟨segment, tokens⟩ := capture
  cases segment with
  | literal text => simp [bind, Segment.key?]
  | named other =>
    simp only [bind, Segment.key?, value, Params.get?_insert, Option.some.injEq]
    exact if_congr eq_comm rfl rfl
  | splat other =>
    simp only [bind, Segment.key?, value, Params.get?_insert, Option.some.injEq]
    exact if_congr eq_comm rfl rfl

theorem get?_foldl_bind_of_forall_ne {captures : List Capture} {key : String}
    (h : ∀ capture ∈ captures, capture.segment.key? ≠ some key) (params : Params) :
    (captures.foldl bind params).get? key = params.get? key := by
  induction captures generalizing params with
  | nil => rfl
  | cons capture captures ih =>
    rw [List.foldl_cons, ih (fun other hother => h other (List.mem_cons_of_mem capture hother)),
      get?_bind, if_neg (h capture List.mem_cons_self)]

/-- Exactly the keys of the captures are bound besides those that were bound before. -/
theorem isSome_get?_foldl_bind (captures : List Capture) (params : Params) (key : String) :
    ((captures.foldl bind params).get? key).isSome ↔
      (∃ capture ∈ captures, capture.segment.key? = some key) ∨ (params.get? key).isSome := by
  induction captures generalizing params with
  | nil => simp
  | cons capture captures ih =>
    rw [List.foldl_cons, ih, get?_bind]
    by_cases hkey : capture.segment.key? = some key
    · simp [hkey]
    · simp [hkey]

/-- The last capture with a key decides what the key is bound to. -/
theorem get?_foldl_bind_getElem {captures : List Capture} {i : Nat} (hi : i < captures.length)
    {key : String} (hkey : captures[i].segment.key? = some key)
    (hlater : ∀ j (hj : j < captures.length), i < j → captures[j].segment.key? ≠ some key)
    (params : Params) :
    (captures.foldl bind params).get? key = some captures[i].value := by
  -- What is bound before capture `i` is bound over, and what comes behind it has other keys.
  have hsplit : captures = captures.take i ++ captures[i] :: captures.drop (i + 1) := by
    rw [List.getElem_cons_drop, List.take_append_drop]
  have hbehind : ∀ capture ∈ captures.drop (i + 1), capture.segment.key? ≠ some key := by
    intro capture hcapture
    obtain ⟨j, hj, rfl⟩ := List.mem_iff_getElem.1 hcapture
    rw [List.length_drop] at hj
    rw [List.getElem_drop]
    exact hlater (i + 1 + j) (by omega) (by omega)
  conv_lhs => rw [hsplit]
  rw [List.foldl_append, List.foldl_cons, get?_foldl_bind_of_forall_ne hbehind, get?_bind,
    if_pos hkey]

theorem splatText_eq (tokens : List String) : splatText tokens = "/" ++ "/".intercalate tokens := by
  rw [← String.toList_inj, splatText, String.toList_ofList, String.toList_append,
    String.toList_intercalate, Text.joinWith_eq_intercalate]
  rfl

end Capture

/-- The text that a segment captures from the tokens that are left: a named segment the first of
them as it is, and a splat all of them, joined behind a separator. -/
def Segment.captured : Segment → List String → Option String
  | .literal _, _ => none
  | .named _, tokens => tokens.head?
  | .splat _, tokens => some ("/" ++ "/".intercalate tokens)

theorem Segment.captured_eq_value {segment : Segment} {key : String}
    (hkey : segment.key? = some key) {tokens : List String} (hne : tokens ≠ []) :
    segment.captured tokens = some (Capture.value ⟨segment, segment.taken tokens⟩) := by
  cases segment with
  | literal text => simp [key?] at hkey
  | named other =>
    obtain ⟨token, rest, rfl⟩ := List.exists_cons_of_ne_nil hne
    rfl
  | splat other => rw [captured, ← Capture.splatText_eq]; rfl

namespace Pattern

theorem isSome_get?_of_match? {pattern : Pattern} (hlast : SplatLast pattern.segments)
    {path : String} {params : Params} (h : pattern.match? path = some params) (key : String) :
    (params.get? key).isSome ↔ ∃ segment ∈ pattern.segments, segment.key? = some key := by
  obtain ⟨-, rfl⟩ := (match?_eq_some_iff hlast path params).1 h
  rw [Capture.isSome_get?_foldl_bind, Params.get?_empty]
  simp only [Option.isSome_none, Bool.false_eq_true, or_false]
  constructor
  · rintro ⟨capture, hcapture, hkey⟩
    obtain ⟨i, hi, rfl⟩ := List.mem_mapIdx.1 hcapture
    exact ⟨pattern.segments[i], List.getElem_mem hi, hkey⟩
  · rintro ⟨segment, hsegment, hkey⟩
    obtain ⟨i, hi, rfl⟩ := List.mem_iff_getElem.1 hsegment
    exact ⟨_, List.mem_mapIdx.2 ⟨i, hi, rfl⟩, hkey⟩

/-- A match binds a key to what the last segment with that key captures. -/
theorem get?_of_match? {pattern : Pattern} (hlast : SplatLast pattern.segments)
    {path : String} {params : Params} (h : pattern.match? path = some params)
    {i : Nat} (hi : i < pattern.segments.length) {key : String}
    (hkey : pattern.segments[i].key? = some key)
    (hlater : ∀ j (hj : j < pattern.segments.length), i < j →
      pattern.segments[j].key? ≠ some key) :
    params.get? key = pattern.segments[i].captured ((pathTokens path).drop i) := by
  obtain ⟨hmatches, rfl⟩ := (match?_eq_some_iff hlast path params).1 h
  -- Each segment has a token of its own, so one is left at every place.
  have hne : (pathTokens path).drop i ≠ [] := by
    rw [Ne, List.drop_eq_nil_iff]
    have := hmatches.length_le
    omega
  have hi' : i < (captures pattern.segments (pathTokens path)).length := by
    rwa [captures, List.length_mapIdx]
  rw [Segment.captured_eq_value hkey hne,
    Capture.get?_foldl_bind_getElem hi' (by simpa [captures] using hkey)]
  · simp [captures]
  · intro j hj hij
    rw [captures, List.length_mapIdx] at hj
    simpa [captures] using hlater j hj hij

/-! ## The declarative reading -/

/-- A parsed pattern matches a path exactly if its segments match the pieces of the path. The match
binds exactly the keys of the segments, whatever the path, each to what the last segment with that
key captures from the pieces from its place on. -/
theorem match?_agrees_with_matches {source : String} {pattern : Pattern}
    (hparse : parse source = .ok pattern) (path : String) :
    ((pattern.match? path).isSome ↔ Matches pattern.segments (pathPieces path)) ∧
    ∀ params, pattern.match? path = some params →
      (∀ key, (params.get? key).isSome ↔
        ∃ segment ∈ pattern.segments, segment.key? = some key) ∧
      ∀ i (hi : i < pattern.segments.length) key, pattern.segments[i].key? = some key →
        (∀ j (hj : j < pattern.segments.length), i < j →
          pattern.segments[j].key? ≠ some key) →
        params.get? key = pattern.segments[i].captured ((pathPieces path).drop i) := by
  have hlast : SplatLast pattern.segments := (wellFormed_of_parse hparse).splat_last
  rw [← pathTokens_eq_pathPieces]
  refine ⟨isSome_match?_iff hlast path, ?_⟩
  intro params hparams
  refine ⟨isSome_get?_of_match? hlast hparams, ?_⟩
  intro i hi key hkey hlater
  exact get?_of_match? hlast hparams hi hkey hlater

/-- With a key that is named and splat, an empty literal and empty tokens: the splat decides. -/
theorem match?_agrees_with_matches_repeated_key :
    parse "/:a//*a/" = .ok ⟨"/:a//*a/", [.named "a", .literal "", .splat "a"]⟩ ∧
    ∃ params, match? ⟨"/:a//*a/", [.named "a", .literal "", .splat "a"]⟩ "//x//y/" = some params ∧
      (∀ key, (params.get? key).isSome → key = "a") ∧ params.get? "a" = some "/y/" := by
  have hparse : parse "/:a//*a/" = .ok ⟨"/:a//*a/", [.named "a", .literal "", .splat "a"]⟩ := by
    decide
  have hpieces : pathPieces "//x//y/" = ["x", "", "y", ""] := by decide
  obtain ⟨hmatches, hbinds⟩ := match?_agrees_with_matches hparse "//x//y/"
  rw [hpieces] at hmatches
  obtain ⟨params, hparams⟩ := Option.isSome_iff_exists.1
    (hmatches.2 (Matches.named (Matches.literal (Matches.splat (by decide)))))
  obtain ⟨hkeys, hvalues⟩ := hbinds params hparams
  refine ⟨hparse, params, hparams, ?_, ?_⟩
  · intro key hkey
    obtain ⟨segment, hsegment, hsome⟩ := (hkeys key).1 hkey
    simp only [List.mem_cons, List.not_mem_nil, or_false] at hsegment
    rcases hsegment with rfl | rfl | rfl <;> simp_all [Segment.key?]
  · rw [hvalues 2 (by decide) "a" rfl (fun j hj hlt => absurd hj (by simp; omega)), hpieces]
    decide

end Pattern

end PatternRouter
