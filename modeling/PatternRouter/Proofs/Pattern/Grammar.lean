import PatternRouter.Pattern
import PatternRouter.Proofs.Text.Splitting

/-!
# The grammar of patterns

Which texts are patterns, which lists of segments they spell, and how a list of segments is spelled.
Parsing and rendering are inverse to each other between the texts without separators around them and
the lists of segments that are `WellFormed`.

* `firstMisplaced_eq_none_iff`, `firstMisplaced_eq_some_iff`: what the search for a misplaced splat
  finds.
* `WellFormed`: the lists of segments that a pattern can have.
* `render_segmentsOf`, `segmentsOf_render`: the two round trips.
* `parse_characterization`: parsing fails on exactly the texts with a misplaced splat, tells the
  first of them, and otherwise is inverse to rendering.
-/

namespace PatternRouter

namespace Segment

/-- The text of a segment, without the marker of its kind. -/
def text : Segment → String
  | .literal text => text
  | .named key => key
  | .splat key => key

/-- A literal that begins with no marker of another kind of segment. Other segments always are. -/
def Unmarked : Segment → Prop
  | .literal text => text.toList.head? ≠ some ':' ∧ text.toList.head? ≠ some '*'
  | _ => True

/-- The token of an unmarked segment spells it. -/
theorem ofToken_token {segment : Segment} (h : segment.Unmarked) :
    ofToken segment.token = segment := by
  cases segment with
  | named key => simp [token, ofToken]
  | splat key => simp [token, ofToken]
  | literal text =>
    obtain ⟨hnamed, hsplat⟩ := h
    simp only [token]
    unfold ofToken
    -- A text that is taken for another kind of segment begins with the marker of that kind.
    split
    · next key heq => simp [heq] at hnamed
    · next key heq => simp [heq] at hsplat
    · rw [String.ofList_toList]

theorem unmarked_ofToken (text : List Char) : (ofToken text).Unmarked := by
  unfold ofToken
  split
  · trivial
  · trivial
  · next hnamed hsplat =>
    rw [Unmarked, String.toList_ofList]
    constructor
    · intro h
      obtain ⟨rest, rfl⟩ := List.head?_eq_some_iff.1 h
      exact hnamed rest rfl
    · intro h
      obtain ⟨rest, rfl⟩ := List.head?_eq_some_iff.1 h
      exact hsplat rest rfl

theorem ofToken_eq_splat_iff (text : List Char) (key : String) :
    ofToken text = .splat key ↔ text = '*' :: key.toList := by
  constructor
  · intro h
    rw [← token_ofToken text, h, token]
  · rintro rfl
    simp [ofToken]

theorem token_eq_nil_iff (segment : Segment) : segment.token = [] ↔ segment = .literal "" := by
  cases segment <;> simp [token]

theorem text_toList_subset (segment : Segment) : segment.text.toList ⊆ segment.token := by
  cases segment <;> simp [text, token]

theorem separator_not_mem_token {segment : Segment} (h : separator ∉ segment.text.toList) :
    separator ∉ segment.token := by
  cases segment <;> simpa [text, token, separator] using h

end Segment

namespace Pattern

/-- No splat stands before the last place. -/
def SplatLast (segments : List Segment) : Prop :=
  ∀ segment ∈ segments.dropLast, segment.isSplat = false

theorem SplatLast.tail {segment : Segment} {segments : List Segment}
    (h : SplatLast (segment :: segments)) : SplatLast segments := by
  intro other hother
  cases segments with
  | nil => simp at hother
  | cons next rest => exact h other (List.mem_cons_of_mem segment hother)

theorem SplatLast.head {segment next : Segment} {rest : List Segment}
    (h : SplatLast (segment :: next :: rest)) : segment.isSplat = false :=
  h segment List.mem_cons_self

/-! ## The search for a misplaced splat -/

/-- Segment `i` is a splat with key `key`, another segment follows it, and there is no splat before
it. -/
structure FirstMisplacedAt (segments : List Segment) (i : Nat) (key : String) : Prop where
  splat : segments[i]? = some (.splat key)
  /-- It is not the last segment. -/
  followed : i + 1 < segments.length
  /-- No splat stands before it. -/
  first : ∀ j < i, ∀ other, segments[j]? ≠ some (.splat other)

theorem firstMisplacedAt_zero_iff {segment next : Segment} {rest : List Segment} {key : String} :
    FirstMisplacedAt (segment :: next :: rest) 0 key ↔ segment = .splat key := by
  constructor
  · rintro ⟨hsplat, -, -⟩
    simpa using hsplat
  · rintro rfl
    exact ⟨rfl, by simp, by simp⟩

theorem firstMisplacedAt_succ_iff {segment : Segment} {segments : List Segment} {i : Nat}
    {key : String} :
    FirstMisplacedAt (segment :: segments) (i + 1) key ↔
      segment.isSplat = false ∧ FirstMisplacedAt segments i key := by
  constructor
  · rintro ⟨hsplat, hfollowed, hfirst⟩
    refine ⟨?_, by simpa using hsplat, by simpa using hfollowed, ?_⟩
    · cases segment with
      | splat other => exact absurd rfl (hfirst 0 (Nat.succ_pos i) other)
      | literal _ => rfl
      | named _ => rfl
    · intro j hj other
      simpa using hfirst (j + 1) (Nat.succ_lt_succ hj) other
  · rintro ⟨hsegment, hsplat, hfollowed, hfirst⟩
    refine ⟨by simpa using hsplat, by simpa using hfollowed, ?_⟩
    intro j hj other
    cases j with
    | zero =>
      intro h
      obtain rfl : segment = .splat other := by simpa using h
      simp [Segment.isSplat] at hsegment
    | succ j => simpa using hfirst j (Nat.lt_of_succ_lt_succ hj) other

/-- The search finds the first splat that another segment follows. -/
theorem firstMisplaced_eq_some_iff (position : Nat) (segments : List Segment) (key : String)
    (place : Nat) :
    firstMisplaced position segments = some (key, place) ↔
      ∃ i, place = position + i ∧ FirstMisplacedAt segments i key := by
  induction segments generalizing position with
  | nil =>
    simp only [firstMisplaced, reduceCtorEq, false_iff]
    rintro ⟨i, -, hsplat, -, -⟩
    simp at hsplat
  | cons segment rest ih =>
    cases rest with
    | nil =>
      simp only [firstMisplaced, reduceCtorEq, false_iff]
      rintro ⟨i, -, -, hfollowed, -⟩
      simp at hfollowed
    | cons next rest =>
      by_cases hsplat : segment.isSplat = true
      · -- The first segment is misplaced, and no other place comes into question.
        obtain ⟨other, rfl⟩ : ∃ other, segment = .splat other := by
          cases segment <;> simp_all [Segment.isSplat]
        simp only [firstMisplaced, Option.some.injEq, Prod.mk.injEq]
        constructor
        · rintro ⟨rfl, rfl⟩
          exact ⟨0, rfl, firstMisplacedAt_zero_iff.2 rfl⟩
        · rintro ⟨i, rfl, hi⟩
          cases i with
          | zero => exact ⟨by simpa using firstMisplacedAt_zero_iff.1 hi, rfl⟩
          | succ i =>
            have hno := (firstMisplacedAt_succ_iff.1 hi).1
            simp [Segment.isSplat] at hno
      · rw [Bool.not_eq_true] at hsplat
        have hskip : firstMisplaced position (segment :: next :: rest) =
            firstMisplaced (position + 1) (next :: rest) := by
          cases segment <;> simp_all [firstMisplaced, Segment.isSplat]
        -- The first segment is passed over, so every place is one further.
        rw [hskip, ih]
        constructor
        · rintro ⟨i, rfl, hi⟩
          exact ⟨i + 1, by omega, firstMisplacedAt_succ_iff.2 ⟨hsplat, hi⟩⟩
        · rintro ⟨i, rfl, hi⟩
          cases i with
          | zero =>
            rw [firstMisplacedAt_zero_iff.1 hi] at hsplat
            simp [Segment.isSplat] at hsplat
          | succ i => exact ⟨i, by omega, (firstMisplacedAt_succ_iff.1 hi).2⟩

theorem firstMisplaced_eq_none_iff (position : Nat) (segments : List Segment) :
    firstMisplaced position segments = none ↔ SplatLast segments := by
  fun_induction firstMisplaced position segments with
  | case1 => simp [SplatLast]
  | case2 => simp [SplatLast]
  | case3 => simp [SplatLast, Segment.isSplat]
  | case4 position segment next rest hnot ih =>
    rw [ih]
    constructor
    · intro h other hother
      rcases List.mem_cons.1 hother with rfl | hother
      · cases other with
        | splat key => exact absurd rfl (hnot key)
        | literal _ => rfl
        | named _ => rfl
      · exact h other hother
    · exact SplatLast.tail

/-! ## Texts and their segments -/

/-- The text of a pattern without the separators around it. -/
def stripped (source : String) : List Char :=
  (source.toList.dropWhile (· == separator)).rdropWhile (· == separator)

/-- What stands between the separators of a pattern, once those around it are gone. -/
def sourceTokens (source : String) : List (List Char) :=
  Text.tokens separator (stripped source)

theorem segmentsOf_eq (source : String) :
    segmentsOf source = (sourceTokens source).map Segment.ofToken := by
  rw [segmentsOf, sourceTokens, Text.trim_eq, ← stripped, Text.tokens]
  split
  · next h => rw [if_pos h, List.map_nil]
  · next hne => rw [if_neg hne, Text.pieces_eq_splitOn]

theorem stripped_eq_self {source : String} (hhead : source.toList.head? ≠ some separator)
    (hlast : source.toList.getLast? ≠ some separator) : stripped source = source.toList := by
  rw [stripped, ← Text.trim_eq]
  exact Text.trim_eq_self hhead hlast

theorem map_token_segmentsOf (source : String) :
    (segmentsOf source).map Segment.token = sourceTokens source := by
  rw [segmentsOf_eq, List.map_map]
  exact List.map_id'' Segment.token_ofToken (sourceTokens source)

/-- Rendering the segments of a text strips it. -/
theorem render_segmentsOf (source : String) :
    (render (segmentsOf source)).toList = stripped source := by
  rw [render, String.toList_ofList, map_token_segmentsOf, sourceTokens, Text.joinWith_tokens]

/-- The lists of segments that a pattern can have. -/
structure WellFormed (segments : List Segment) : Prop where
  /-- No text holds a separator. -/
  separator_free : ∀ segment ∈ segments, separator ∉ segment.text.toList
  /-- No literal begins with the marker of another kind of segment. -/
  unmarked : ∀ segment ∈ segments, segment.Unmarked
  /-- A splat stands in the last place only. -/
  splat_last : SplatLast segments
  /-- The first segment is not the empty literal. -/
  head_ne : segments.head? ≠ some (.literal "")
  /-- The last segment is not the empty literal. -/
  last_ne : segments.getLast? ≠ some (.literal "")

theorem WellFormed.head?_render {segments : List Segment} (h : WellFormed segments) :
    (render segments).toList.head? ≠ some separator := by
  rw [render, String.toList_ofList]
  cases segments with
  | nil => simp [Text.joinWith]
  | cons segment rest =>
    -- The first token is not empty, so the text begins as that token does.
    have hne : segment.token ≠ [] := by
      intro hnil
      rw [Segment.token_eq_nil_iff] at hnil
      exact h.head_ne (by rw [hnil]; rfl)
    rw [List.map_cons, Text.head?_joinWith _ hne]
    intro hhead
    have hmem : separator ∈ segment.token := List.mem_of_head? hhead
    exact Segment.separator_not_mem_token (h.separator_free segment List.mem_cons_self) hmem

theorem WellFormed.getLast?_render {segments : List Segment} (h : WellFormed segments) :
    (render segments).toList.getLast? ≠ some separator := by
  rw [render, String.toList_ofList]
  cases hlast : segments.getLast? with
  | none =>
    rw [List.getLast?_eq_none_iff] at hlast
    simp [hlast, Text.joinWith]
  | some segment =>
    have hne : segment.token ≠ [] := by
      intro hnil
      rw [Segment.token_eq_nil_iff] at hnil
      exact h.last_ne (by rw [hlast, hnil])
    have hlast' : (segments.map Segment.token).getLast? = some segment.token := by
      rw [List.getLast?_map, hlast]
      rfl
    rw [Text.getLast?_joinWith hlast' hne]
    intro hsep
    have hmem : separator ∈ segment.token := List.mem_of_getLast? hsep
    exact Segment.separator_not_mem_token
      (h.separator_free segment (List.mem_of_getLast? hlast)) hmem

theorem WellFormed.sourceTokens_render {segments : List Segment} (h : WellFormed segments) :
    sourceTokens (render segments) = segments.map Segment.token := by
  rw [sourceTokens, stripped_eq_self h.head?_render h.getLast?_render, render,
    String.toList_ofList]
  apply Text.tokens_joinWith
  · intro text htext
    obtain ⟨segment, hsegment, rfl⟩ := List.mem_map.1 htext
    exact Segment.separator_not_mem_token (h.separator_free segment hsegment)
  · intro hhead
    rw [List.head?_map, Option.map_eq_some_iff] at hhead
    obtain ⟨segment, hsegment, hnil⟩ := hhead
    rw [Segment.token_eq_nil_iff] at hnil
    exact h.head_ne (by rw [hsegment, hnil])

/-- A well-formed list of segments is spelled by what it renders to. -/
theorem WellFormed.segmentsOf_render {segments : List Segment} (h : WellFormed segments) :
    segmentsOf (render segments) = segments := by
  rw [segmentsOf_eq, h.sourceTokens_render, List.map_map]
  calc segments.map (Segment.ofToken ∘ Segment.token)
      = segments.map id := by
        apply List.map_congr_left
        intro segment hsegment
        exact Segment.ofToken_token (h.unmarked segment hsegment)
    _ = segments := List.map_id segments

/-- The segments of a text are well formed if its splats stand in the last place only. -/
theorem wellFormed_segmentsOf {source : String} (h : SplatLast (segmentsOf source)) :
    WellFormed (segmentsOf source) := by
  refine ⟨?_, ?_, h, ?_, ?_⟩
  · intro segment hsegment hmem
    have htoken : segment.token ∈ sourceTokens source := by
      rw [← map_token_segmentsOf]
      exact List.mem_map_of_mem hsegment
    exact Text.not_mem_of_mem_tokens htoken (Segment.text_toList_subset segment hmem)
  · intro segment hsegment
    rw [segmentsOf_eq] at hsegment
    obtain ⟨token, -, rfl⟩ := List.mem_map.1 hsegment
    exact Segment.unmarked_ofToken token
  · -- An empty literal at an end would be an empty token there, but the text is stripped.
    intro hhead
    apply Text.head?_tokens_ne (Text.head?_trim_ne separator source.toList)
    change (sourceTokens source).head? = _
    rw [← map_token_segmentsOf, List.head?_map, hhead]
    rfl
  · intro hlast
    apply Text.getLast?_tokens_ne (Text.getLast?_trim_ne separator source.toList)
    change (sourceTokens source).getLast? = _
    rw [← map_token_segmentsOf, List.getLast?_map, hlast]
    rfl

/-! ## Texts that are patterns -/

/-- Token `i` of a text begins with the marker of splats, with `key` behind it, and another token
follows. -/
def MisplacedAt (source : String) (i : Nat) (key : List Char) : Prop :=
  i + 1 < (sourceTokens source).length ∧ (sourceTokens source)[i]? = some ('*' :: key)

theorem segmentsOf_eq_splat_iff (source : String) (i : Nat) (key : String) :
    (segmentsOf source)[i]? = some (.splat key) ↔
      (sourceTokens source)[i]? = some ('*' :: key.toList) := by
  rw [segmentsOf_eq, List.getElem?_map, Option.map_eq_some_iff]
  constructor
  · rintro ⟨token, htoken, hsplat⟩
    rw [htoken, (Segment.ofToken_eq_splat_iff token key).1 hsplat]
  · intro htoken
    exact ⟨_, htoken, (Segment.ofToken_eq_splat_iff _ key).2 rfl⟩

theorem length_segmentsOf (source : String) :
    (segmentsOf source).length = (sourceTokens source).length := by
  rw [segmentsOf_eq, List.length_map]

theorem splatLast_segmentsOf_iff (source : String) :
    SplatLast (segmentsOf source) ↔ ∀ i key, ¬ MisplacedAt source i key := by
  constructor
  · rintro h i key ⟨hi, htoken⟩
    -- A misplaced token spells a splat among the segments before the last.
    have hsplat : (segmentsOf source)[i]? = some (.splat (String.ofList key)) := by
      rw [segmentsOf_eq_splat_iff, htoken, String.toList_ofList]
    have hmem : Segment.splat (String.ofList key) ∈ (segmentsOf source).dropLast := by
      rw [← length_segmentsOf] at hi
      apply List.mem_of_getElem? (i := i)
      rw [List.getElem?_dropLast, if_pos (by omega), hsplat]
    exact absurd (h _ hmem) (by simp [Segment.isSplat])
  · intro h segment hsegment
    obtain ⟨i, hi⟩ := List.getElem?_of_mem hsegment
    rw [List.getElem?_dropLast] at hi
    split at hi
    · next hlt =>
      cases segment with
      | literal _ => rfl
      | named _ => rfl
      | splat key =>
        rw [length_segmentsOf] at hlt
        exact absurd ⟨by omega, (segmentsOf_eq_splat_iff source i key).1 hi⟩ (h i key.toList)
    · exact absurd hi (by simp)

/-- Parsing succeeds exactly if no token is misplaced. -/
theorem parse_eq_ok_iff_forall_not_misplacedAt (source : String) (pattern : Pattern) :
    parse source = .ok pattern ↔
      (∀ i key, ¬ MisplacedAt source i key) ∧ pattern = ⟨source, segmentsOf source⟩ := by
  rw [parse_eq_ok_iff, firstMisplaced_eq_none_iff, splatLast_segmentsOf_iff]

/-- The segments of a parsed pattern are well formed. -/
theorem wellFormed_of_parse {source : String} {pattern : Pattern} (h : parse source = .ok pattern) :
    WellFormed pattern.segments := by
  obtain ⟨hnone, rfl⟩ := (parse_eq_ok_iff source pattern).1 h
  exact wellFormed_segmentsOf ((firstMisplaced_eq_none_iff 0 _).1 hnone)

theorem exists_parse_eq_error_iff (source : String) :
    (∃ error, parse source = .error error) ↔ ∃ i key, MisplacedAt source i key := by
  rw [← not_iff_not, not_exists, not_exists]
  constructor
  · intro hok i
    cases h : parse source with
    | error error => exact absurd h (hok error)
    | ok pattern =>
      rw [not_exists]
      exact ((parse_eq_ok_iff_forall_not_misplacedAt source pattern).1 h).1 i
  · intro hnot error herror
    have hok := (parse_eq_ok_iff_forall_not_misplacedAt source _).2
      ⟨fun i key hi => hnot i ⟨key, hi⟩, rfl⟩
    rw [herror] at hok
    cases hok

/-- Parsing tells the first misplaced token, without its marker. -/
theorem parse_eq_error_of_misplacedAt {source : String} {i : Nat} {key : List Char}
    (h : MisplacedAt source i key) (hfirst : ∀ j < i, ∀ other, ¬ MisplacedAt source j other) :
    parse source = .error (.misplacedSplat source (String.ofList key) i) := by
  obtain ⟨hi, htoken⟩ := h
  -- The first misplaced token spells the first misplaced splat, at the same place.
  have hmisplaced : FirstMisplacedAt (segmentsOf source) i (String.ofList key) := by
    refine ⟨?_, ?_, ?_⟩
    · rw [segmentsOf_eq_splat_iff, htoken, String.toList_ofList]
    · rwa [length_segmentsOf]
    · intro j hj other hother
      rw [segmentsOf_eq_splat_iff] at hother
      exact hfirst j hj other.toList ⟨by omega, hother⟩
  rw [parse_eq_error_iff]
  refine ⟨String.ofList key, i, ?_, rfl⟩
  rw [firstMisplaced_eq_some_iff]
  exact ⟨i, (Nat.zero_add i).symm, hmisplaced⟩

/-- Parsing fails on exactly the texts in which a token that begins with the marker of splats is
followed by another, and tells the first such token. It keeps any other text, whose segments are
well formed and render to it without the separators around it. The well-formed lists of segments are
exactly those of patterns, since each is what its rendering parses to. -/
theorem parse_characterization :
    (∀ source, (∃ error, parse source = .error error) ↔ ∃ i key, MisplacedAt source i key) ∧
    (∀ source i key, MisplacedAt source i key → (∀ j < i, ∀ other, ¬ MisplacedAt source j other) →
      parse source = .error (.misplacedSplat source (String.ofList key) i)) ∧
    (∀ source, (∀ i key, ¬ MisplacedAt source i key) →
      ∃ segments, parse source = .ok ⟨source, segments⟩ ∧
        (render segments).toList = stripped source ∧ WellFormed segments) ∧
    (∀ segments, WellFormed segments →
      parse (render segments) = .ok ⟨render segments, segments⟩) := by
  refine ⟨exists_parse_eq_error_iff, ?_, ?_, ?_⟩
  · intro source i key h hfirst
    exact parse_eq_error_of_misplacedAt h hfirst
  · intro source hnot
    have hok := (parse_eq_ok_iff_forall_not_misplacedAt source _).2 ⟨hnot, rfl⟩
    exact ⟨segmentsOf source, hok, render_segmentsOf source, wellFormed_of_parse hok⟩
  · intro segments h
    rw [parse_eq_ok_iff, firstMisplaced_eq_none_iff, h.segmentsOf_render]
    exact ⟨h.splat_last, rfl⟩

end Pattern

end PatternRouter
