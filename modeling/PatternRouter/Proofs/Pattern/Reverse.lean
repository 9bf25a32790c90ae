import PatternRouter.Proofs.Pattern.Semantics

/-!
# From values back to paths

Filling the segments of a pattern with values spells a path, each segment behind a separator; a
splat brings its own. If no key is repeated, filling and matching are inverse to each other up to
the separators that lead a path.

* `fill_of_matches`: filling with what was captured spells the tokens again.
* `pathTokens_of_spread`: the tokens of a spelled path are those that it was spelled from.
* `Fills`: the values with which a pattern can be filled.
* `match?_fill_inverse`: both directions, and what they say of patterns without keys.
-/

namespace PatternRouter

/-- The text that a segment contributes to a path: a separator and its text or value, and for a
splat its value alone. -/
def Segment.filled (values : Params) : Segment → String
  | .literal text => "/" ++ text
  | .named key => "/" ++ (values.get? key).getD ""
  | .splat key => (values.get? key).getD ""

/-- The tokens that a segment spells with values for the keys. The separator with which the value of
a splat begins stands before its first token. -/
def Segment.filledTokens (values : Params) : Segment → List String
  | .literal text => [text]
  | .named key => [(values.get? key).getD ""]
  | .splat key =>
    (Text.pieces separator ((values.get? key).getD "").toList.tail).map String.ofList

namespace Pattern

/-- The path that the segments of a pattern spell with values for their keys. -/
def fill (segments : List Segment) (values : Params) : String :=
  String.join (segments.map (Segment.filled values))

/-- Each of some tokens behind a separator. -/
def spread (tokens : List String) : List Char :=
  tokens.flatMap fun token => separator :: token.toList

theorem toList_fill (segments : List Segment) (values : Params) :
    (fill segments values).toList =
      segments.flatMap fun segment => (segment.filled values).toList := by
  rw [fill, String.toList_join, List.flatMap_map]

theorem fill_congr {values values' : Params} (h : ∀ key, values.get? key = values'.get? key)
    (segments : List Segment) : fill segments values = fill segments values' := by
  have hfilled : Segment.filled values = Segment.filled values' := by
    funext segment
    cases segment <;> simp [Segment.filled, h]
  rw [fill, fill, hfilled]

theorem spread_eq_cons {tokens : List String} (h : tokens ≠ []) :
    spread tokens = separator :: Text.joinWith separator (tokens.map String.toList) := by
  rw [Text.cons_joinWith (by simpa using h), List.flatMap_map]
  rfl

theorem toList_captured_splat {tokens : List String} (h : tokens ≠ []) :
    ("/" ++ "/".intercalate tokens).toList = spread tokens := by
  rw [← Capture.splatText_eq, Capture.splatText, String.toList_ofList, spread_eq_cons h]

/-! ## From a match to its path -/

/-- Filling matched segments with what they capture spells the tokens, each behind a separator. -/
theorem fill_of_matches {segments : List Segment} {tokens : List String} {values : Params}
    (h : Matches segments tokens)
    (hvalues : ∀ i (hi : i < segments.length) key, segments[i].key? = some key →
      values.get? key = segments[i].captured (tokens.drop i)) :
    (fill segments values).toList = spread tokens := by
  -- Dropping the first segment and its token shifts the places by one, which `hvalues` allows.
  induction h with
  | nil => rfl
  | @literal text segments tokens _ ih =>
    have hrest := ih fun i hi key hkey =>
      hvalues (i + 1) (Nat.succ_lt_succ hi) key hkey
    rw [toList_fill] at hrest ⊢
    rw [List.flatMap_cons, hrest, Segment.filled, String.toList_append]
    rfl
  | @named key token segments tokens _ ih =>
    have hrest := ih fun i hi key hkey =>
      hvalues (i + 1) (Nat.succ_lt_succ hi) key hkey
    have hvalue : values.get? key = some token := hvalues 0 (Nat.succ_pos _) key rfl
    rw [toList_fill] at hrest ⊢
    rw [List.flatMap_cons, hrest, Segment.filled, hvalue, String.toList_append]
    rfl
  | @splat key tokens hne =>
    have hvalue : values.get? key = some ("/" ++ "/".intercalate tokens) :=
      hvalues 0 Nat.one_pos key rfl
    rw [toList_fill, List.flatMap_cons, List.flatMap_nil, List.append_nil, Segment.filled, hvalue]
    exact toList_captured_splat hne

/-- The tokens of a path spell it, up to the separators that lead it. -/
theorem tail_spread_pathTokens (path : String) :
    (spread (pathTokens path)).tail = Text.trimStart separator path.toList := by
  rw [← joinWith_pathTokens]
  cases pathTokens path with
  | nil => rfl
  | cons token tokens => rw [spread_eq_cons (List.cons_ne_nil token tokens), List.tail_cons]

theorem key?_ne_of_lt {segments : List Segment} (hkeys : (segments.filterMap Segment.key?).Nodup)
    {i j : Nat} (hi : i < segments.length) (hj : j < segments.length) (hij : i < j) {key : String}
    (hkey : segments[i].key? = some key) : segments[j].key? ≠ some key := by
  intro hkey'
  have hpairwise := List.pairwise_filterMap.1 hkeys
  rw [List.pairwise_iff_getElem] at hpairwise
  exact hpairwise i j hi hj hij key hkey key hkey' rfl

/-- Filling a pattern without repeated keys with what it binds on a path spells the tokens of the
path. -/
theorem fill_of_match? {pattern : Pattern} (hlast : SplatLast pattern.segments)
    (hkeys : (pattern.segments.filterMap Segment.key?).Nodup) {path : String} {values : Params}
    (h : pattern.match? path = some values) :
    (fill pattern.segments values).toList = spread (pathTokens path) := by
  apply fill_of_matches ((match?_eq_some_iff hlast path values).1 h).1
  intro i hi key hkey
  exact get?_of_match? hlast h hi hkey fun j hj hij => key?_ne_of_lt hkeys hi hj hij hkey

/-! ## From values to a path -/

/-- The values with which a pattern can be filled. -/
structure Fills (segments : List Segment) (values : Params) : Prop where
  /-- There are values for the keys of the segments and no others. -/
  keys : ∀ key, (values.get? key).isSome ↔ ∃ segment ∈ segments, segment.key? = some key
  /-- The value of a named segment is one token. -/
  named : ∀ key, .named key ∈ segments → ∀ value, values.get? key = some value →
    separator ∉ value.toList
  /-- The value of a splat begins with a separator. -/
  splat : ∀ key, .splat key ∈ segments → ∀ value, values.get? key = some value →
    value.toList.head? = some separator
  /-- The path is empty, or no second separator leads it. -/
  leads : (fill segments values).toList = [] ∨
    ∃ c, (fill segments values).toList[1]? = some c ∧ c ≠ separator

/-- The tokens that a list of segments spells with values for the keys. -/
def filledTokens (segments : List Segment) (values : Params) : List String :=
  segments.flatMap (Segment.filledTokens values)

theorem filledTokens_cons (segment : Segment) (segments : List Segment) (values : Params) :
    filledTokens (segment :: segments) values =
      segment.filledTokens values ++ filledTokens segments values :=
  List.flatMap_cons

/-- A segment contributes the tokens that it spells, each behind a separator. -/
theorem spread_filledTokens (segment : Segment) (values : Params)
    (hsplat : ∀ key, segment = .splat key →
      ((values.get? key).getD "").toList.head? = some separator) :
    spread (segment.filledTokens values) = (segment.filled values).toList := by
  cases segment with
  | literal text => simp [spread, Segment.filledTokens, Segment.filled, separator]
  | named key => simp [spread, Segment.filledTokens, Segment.filled, separator]
  | splat key =>
    -- The separator that the value begins with is the one before its first token.
    obtain ⟨rest, hrest⟩ := List.head?_eq_some_iff.1 (hsplat key rfl)
    rw [Segment.filledTokens, Segment.filled, hrest, List.tail_cons,
      spread_eq_cons (by simp [Text.pieces_ne_nil]), Text.map_toList_map_ofList,
      Text.joinWith_pieces]

/-- The first of some tokens is not empty, if a path that they spell begins with one separator. -/
theorem toList_ne_nil_of_leads {token : String} {rest : List String}
    (hleads : ∃ c, (spread (token :: rest))[1]? = some c ∧ c ≠ separator) : token.toList ≠ [] := by
  obtain ⟨c, hc, hne⟩ := hleads
  intro hnil
  rw [spread, List.flatMap_cons, hnil] at hc
  cases rest with
  | nil => simp at hc
  | cons next others =>
    apply hne
    simpa [eq_comm] using hc

/-- The tokens of a path that is spelled by tokens, and begins with one separator, are those. -/
theorem pathTokens_of_spread {path : String} {tokens : List String}
    (hpath : path.toList = spread tokens) (hfree : ∀ token ∈ tokens, separator ∉ token.toList)
    (hleads : path.toList = [] ∨ ∃ c, path.toList[1]? = some c ∧ c ≠ separator) :
    pathTokens path = tokens := by
  rw [pathTokens_eq]
  cases tokens with
  | nil =>
    rw [hpath]
    rfl
  | cons token rest =>
    have hcons := spread_eq_cons (List.cons_ne_nil token rest)
    rw [hpath] at hleads ⊢
    -- Trimming must stop behind the first separator, so the first token may not be empty.
    have htoken : token.toList ≠ [] := by
      rcases hleads with hnil | hleads
      · rw [hcons] at hnil
        cases hnil
      · exact toList_ne_nil_of_leads hleads
    have hhead : token.toList.head? ≠ some separator := fun h =>
      hfree token List.mem_cons_self (List.mem_of_head? h)
    rw [hcons, Text.trimStart_cons_self, Text.trimStart_eq_self, Text.tokens_joinWith]
    · rw [List.map_map]
      exact List.map_id'' (fun _ => String.ofList_toList) (token :: rest)
    · intro text htext
      obtain ⟨other, hother, rfl⟩ := List.mem_map.1 htext
      exact hfree other hother
    · simpa using htoken
    · rwa [List.map_cons, Text.head?_joinWith _ htoken]

section Fills

variable {segments : List Segment} {values : Params}

theorem Fills.head?_splat (h : Fills segments values) {key : String}
    (hkey : .splat key ∈ segments) :
    ((values.get? key).getD "").toList.head? = some separator := by
  obtain ⟨value, hvalue⟩ := Option.isSome_iff_exists.1 ((h.keys key).2 ⟨_, hkey, rfl⟩)
  rw [hvalue, Option.getD_some]
  exact h.splat key hkey value hvalue

theorem Fills.toList_fill (h : Fills segments values) :
    (fill segments values).toList = spread (filledTokens segments values) := by
  rw [Pattern.toList_fill, spread, filledTokens, List.flatMap_assoc]
  apply List.flatMap_congr
  intro segment hsegment
  refine (spread_filledTokens segment values ?_).symm
  rintro key rfl
  exact h.head?_splat hsegment

theorem Fills.separator_not_mem (h : Fills segments values)
    (hfree : ∀ segment ∈ segments, separator ∉ segment.text.toList) :
    ∀ token ∈ filledTokens segments values, separator ∉ token.toList := by
  intro token htoken
  obtain ⟨segment, hsegment, hmem⟩ := List.mem_flatMap.1 htoken
  cases segment with
  | literal text =>
    obtain rfl : token = text := by simpa [Segment.filledTokens] using hmem
    exact hfree _ hsegment
  | named key =>
    obtain ⟨value, hvalue⟩ := Option.isSome_iff_exists.1 ((h.keys key).2 ⟨_, hsegment, rfl⟩)
    obtain rfl : token = value := by simpa [Segment.filledTokens, hvalue] using hmem
    exact h.named key hsegment token hvalue
  | splat key =>
    obtain ⟨piece, hpiece, rfl⟩ := List.mem_map.1 hmem
    rw [String.toList_ofList]
    exact Text.not_mem_of_mem_pieces hpiece

theorem matches_filledTokens (hlast : SplatLast segments) (values : Params) :
    Matches segments (filledTokens segments values) := by
  induction segments with
  | nil => exact Matches.nil
  | cons segment segments ih =>
    rw [filledTokens_cons]
    cases segment with
    | literal text => exact Matches.literal (ih hlast.tail)
    | named key => exact Matches.named (ih hlast.tail)
    | splat key =>
      cases segments with
      | cons next rest => exact absurd hlast.head (by simp [Segment.isSplat])
      | nil =>
        apply Matches.splat
        simp [filledTokens, Segment.filledTokens, Text.pieces_ne_nil]

theorem captured_filledTokens_splat {key value : String} (hvalue : values.get? key = some value)
    (hhead : value.toList.head? = some separator) :
    (Segment.splat key).captured (Segment.filledTokens values (.splat key)) = some value := by
  have hspread := spread_filledTokens (.splat key) values (by
    rintro _ ⟨⟩
    rwa [hvalue])
  have hne : Segment.filledTokens values (.splat key) ≠ [] := by
    simp [Segment.filledTokens, Text.pieces_ne_nil]
  rw [Segment.captured, Option.some.injEq, ← String.toList_inj, toList_captured_splat hne, hspread,
    Segment.filled, hvalue, Option.getD_some]

/-- Each segment captures its value from the tokens that the pattern spells. -/
theorem captured_filledTokens (hlast : SplatLast segments)
    (hvalues : ∀ segment ∈ segments, ∀ key, segment.key? = some key →
      ∃ value, values.get? key = some value ∧
        (segment = .splat key → value.toList.head? = some separator))
    (i : Nat) (hi : i < segments.length) (key : String) (hkey : segments[i].key? = some key) :
    segments[i].captured ((filledTokens segments values).drop i) = values.get? key := by
  induction segments generalizing i with
  | nil => simp at hi
  | cons segment segments ih =>
    rw [filledTokens_cons]
    have htail : ∀ j (hj : j < segments.length), segments[j].key? = some key →
        segments[j].captured ((filledTokens segments values).drop j) = values.get? key :=
      ih hlast.tail fun other hother => hvalues other (List.mem_cons_of_mem segment hother)
    -- A literal and a named segment spell one token, so the others capture from what is behind it.
    cases segment with
    | literal text =>
      cases i with
      | zero => cases hkey
      | succ i => exact htail i (Nat.lt_of_succ_lt_succ hi) hkey
    | named other =>
      cases i with
      | zero =>
        obtain rfl : other = key := Option.some.inj hkey
        obtain ⟨value, hvalue, -⟩ := hvalues _ List.mem_cons_self other rfl
        simp [Segment.filledTokens, Segment.captured, hvalue]
      | succ i => exact htail i (Nat.lt_of_succ_lt_succ hi) hkey
    | splat other =>
      -- A splat is the last segment, so the key can only be its own.
      obtain rfl : segments = [] := by
        cases segments with
        | nil => rfl
        | cons next rest => exact absurd hlast.head (by simp [Segment.isSplat])
      obtain rfl : i = 0 := by simpa using hi
      obtain rfl : other = key := Option.some.inj hkey
      obtain ⟨value, hvalue, hhead⟩ := hvalues _ List.mem_cons_self other rfl
      rw [hvalue, ← captured_filledTokens_splat hvalue (hhead rfl)]
      simp [filledTokens]

/-- Matching a filled pattern gives the values back. -/
theorem match?_fill {pattern : Pattern} (hwf : WellFormed pattern.segments)
    (hkeys : (pattern.segments.filterMap Segment.key?).Nodup)
    (hvalues : Fills pattern.segments values) :
    ∃ params, pattern.match? (fill pattern.segments values) = some params ∧
      ∀ key, params.get? key = values.get? key := by
  have htokens : pathTokens (fill pattern.segments values) =
      filledTokens pattern.segments values :=
    pathTokens_of_spread hvalues.toList_fill (hvalues.separator_not_mem hwf.separator_free)
      hvalues.leads
  -- The segments match the tokens that they spell, and those are the tokens of the path.
  have hmatches := matches_filledTokens hwf.splat_last values
  rw [← htokens] at hmatches
  obtain ⟨params, hparams⟩ :=
    Option.isSome_iff_exists.1 ((isSome_match?_iff hwf.splat_last _).2 hmatches)
  refine ⟨params, hparams, ?_⟩
  intro key
  by_cases hkey : ∃ segment ∈ pattern.segments, segment.key? = some key
  · obtain ⟨segment, hsegment, hsome⟩ := hkey
    obtain ⟨i, hi, rfl⟩ := List.mem_iff_getElem.1 hsegment
    rw [get?_of_match? hwf.splat_last hparams hi hsome
        (fun j hj hij => key?_ne_of_lt hkeys hi hj hij hsome), htokens]
    apply captured_filledTokens hwf.splat_last _ i hi key hsome
    intro other hother otherKey hotherKey
    obtain ⟨value, hvalue⟩ := Option.isSome_iff_exists.1
      ((hvalues.keys otherKey).2 ⟨other, hother, hotherKey⟩)
    refine ⟨value, hvalue, ?_⟩
    rintro rfl
    exact hvalues.splat otherKey hother value hvalue
  · -- Keys of no segment are bound neither by the match nor by the values.
    have hnone : ¬ (params.get? key).isSome :=
      mt (isSome_get?_of_match? hwf.splat_last hparams key).1 hkey
    have hnone' : ¬ (values.get? key).isSome := mt (hvalues.keys key).1 hkey
    rw [Option.not_isSome_iff_eq_none] at hnone hnone'
    rw [hnone, hnone']

end Fills

/-! ## Patterns of literals -/

theorem matches_literals_iff {segments : List Segment}
    (hliteral : ∀ segment ∈ segments, ∃ text, segment = .literal text) (tokens : List String) :
    Matches segments tokens ↔ tokens.map String.toList = segments.map Segment.token := by
  induction segments generalizing tokens with
  | nil =>
    rw [List.map_nil, List.map_eq_nil_iff]
    constructor
    · rintro ⟨⟩
      rfl
    · rintro rfl
      exact Matches.nil
  | cons segment segments ih =>
    obtain ⟨text, rfl⟩ := hliteral segment List.mem_cons_self
    have hrest := ih fun other hother => hliteral other (List.mem_cons_of_mem _ hother)
    cases tokens with
    | nil =>
      constructor
      · rintro ⟨⟩
      · rintro ⟨⟩
    | cons token tokens =>
      rw [List.map_cons, List.map_cons, List.cons.injEq, Segment.token, String.toList_inj,
        ← hrest]
      constructor
      · rintro ⟨⟩
        exact ⟨rfl, ‹_›⟩
      · rintro ⟨rfl, h⟩
        exact Matches.literal h

/-- A pattern of literals matches the paths that are its text, but for the separators that lead the
path and those around the text. -/
theorem isSome_match?_literals_iff {source : String} {pattern : Pattern}
    (hparse : parse source = .ok pattern)
    (hliteral : ∀ segment ∈ pattern.segments, ∃ text, segment = .literal text) (path : String) :
    (pattern.match? path).isSome ↔ path.toList.dropWhile (· == separator) = stripped source := by
  rw [isSome_match?_iff (wellFormed_of_parse hparse).splat_last, matches_literals_iff hliteral,
    parse_segments hparse, map_token_segmentsOf, pathTokens_eq, Text.map_toList_map_ofList]
  constructor
  · intro h
    -- Equal tokens join to equal texts.
    rw [← Text.joinWith_tokens separator (stripped source), ← sourceTokens, ← h,
      Text.joinWith_tokens]
    rfl
  · intro h
    rw [sourceTokens, ← h]
    rfl

/-! ## Filling and matching -/

/-- Let no key of a parsed pattern be repeated. Filling the pattern with what it binds on a path
gives the path back but for the separators that lead it, so paths on which it binds the same differ
in those alone. Matching the pattern filled with values gives the values back. A pattern of literals
matches its own text alone. -/
theorem match?_fill_inverse {source : String} {pattern : Pattern}
    (hparse : parse source = .ok pattern)
    (hkeys : (pattern.segments.filterMap Segment.key?).Nodup) :
    (∀ path values, pattern.match? path = some values →
      (fill pattern.segments values).toList.tail = path.toList.dropWhile (· == separator)) ∧
    (∀ path path' values values', pattern.match? path = some values →
      pattern.match? path' = some values' → (∀ key, values.get? key = values'.get? key) →
      path.toList.dropWhile (· == separator) = path'.toList.dropWhile (· == separator)) ∧
    (∀ values, Fills pattern.segments values →
      ∃ params, pattern.match? (fill pattern.segments values) = some params ∧
        ∀ key, params.get? key = values.get? key) ∧
    ((∀ segment ∈ pattern.segments, ∃ text, segment = .literal text) →
      ∀ path, (pattern.match? path).isSome ↔
        path.toList.dropWhile (· == separator) = stripped source) := by
  have hwf := wellFormed_of_parse hparse
  have hfill : ∀ path values, pattern.match? path = some values →
      (fill pattern.segments values).toList.tail = path.toList.dropWhile (· == separator) := by
    intro path values h
    rw [fill_of_match? hwf.splat_last hkeys h, tail_spread_pathTokens, Text.trimStart]
  refine ⟨hfill, ?_, ?_, ?_⟩
  · intro path path' values values' h h' hvalues
    rw [← hfill path values h, ← hfill path' values' h', fill_congr hvalues]
  · intro values hvalues
    exact match?_fill hwf hkeys hvalues
  · exact isSome_match?_literals_iff hparse

/-- With empty tokens for a named segment and a literal, and at the end of a splat. -/
theorem match?_fill_inverse_empty_tokens :
    ∃ pattern values, parse "/users/:name//*rest" = .ok pattern ∧
      (pattern.segments.filterMap Segment.key?).Nodup ∧
      pattern.match? "///users///z//" = some values ∧
      (fill pattern.segments values).toList.tail = "users///z//".toList ∧
      ∃ params, pattern.match? (fill pattern.segments values) = some params ∧
        ∀ key, params.get? key = values.get? key := by
  have hparse : parse "/users/:name//*rest" = .ok ⟨"/users/:name//*rest",
      [.literal "users", .named "name", .literal "", .splat "rest"]⟩ := by decide
  have hkeys : ([.literal "users", .named "name", .literal "", .splat "rest"].filterMap
      Segment.key?).Nodup := by decide
  have hmatch : match? ⟨"/users/:name//*rest",
      [.literal "users", .named "name", .literal "", .splat "rest"]⟩ "///users///z//" =
      some ⟨[("name", ""), ("rest", "/z//")]⟩ := by decide
  obtain ⟨hpath, -, hvalues, -⟩ := match?_fill_inverse hparse hkeys
  refine ⟨_, _, hparse, hkeys, hmatch, ?_, hvalues _ ⟨?_, ?_, ?_, ?_⟩⟩
  · rw [hpath _ _ hmatch]
    decide
  · exact isSome_get?_of_match? (wellFormed_of_parse hparse).splat_last hmatch
  · intro key hkey value hvalue
    obtain rfl : key = "name" := by simpa using hkey
    obtain rfl : "" = value := Option.some.inj hvalue
    decide
  · intro key hkey value hvalue
    obtain rfl : key = "rest" := by simpa using hkey
    obtain rfl : "/z//" = value := Option.some.inj hvalue
    decide
  · exact Or.inr ⟨'u', by decide, by decide⟩

end Pattern

end PatternRouter
