import PatternRouter.Proofs.Pattern.Semantics

/-!
# Separators around patterns and paths, and paths that are continued

Separators that lead a path carry no meaning, and neither do those around the text of a pattern. No
other difference between two paths is lost: some pattern tells them apart.

What is written behind a path goes to the splat of a pattern that ends in one, whatever it is. A
pattern without a splat does not match the path any more once a separator is written behind it,
unless the path is the root.

* `segmentsOf_separators`: separators around the text of a pattern.
* `match?_splat`: what a splat alone matches, which is enough to tell paths apart.
* `pathTokens_append`, `length_pathTokens_append`: the tokens of a path that is continued.
* `match?_concat_splat_iff`: a splat takes what the segments before it leave.
* `match?_separators_and_extensions`: the main result.
-/

namespace PatternRouter

/-- Some separators. -/
def separators (n : Nat) : String :=
  String.ofList (List.replicate n separator)

namespace Pattern

variable {pattern : Pattern} {front : List Segment} {path key : String} {tokens : List String}

/-! ## Separators that carry no meaning -/

/-- Separators around a text do not change the segments that it spells. -/
theorem segmentsOf_separators (i j : Nat) (source : String) :
    segmentsOf (separators i ++ source ++ separators j) = segmentsOf source := by
  have htext : (separators i ++ source ++ separators j).toList =
      List.replicate i separator ++ source.toList ++ List.replicate j separator := by
    simp [separators]
  have htrim : Text.trim separator (separators i ++ source ++ separators j).toList =
      Text.trim separator source.toList := by
    rw [htext, Text.trim_append_replicate, Text.trim_replicate_append]
  rw [segmentsOf, htrim, segmentsOf]

/-- Matching looks at the segments of a pattern alone. -/
theorem match?_congr_segments {pattern' : Pattern} (h : pattern.segments = pattern'.segments)
    (path : String) : pattern.match? path = pattern'.match? path := by
  obtain ⟨source, segments⟩ := pattern
  obtain ⟨source', segments'⟩ := pattern'
  obtain rfl : segments = segments' := h
  rfl

/-- Matching looks at a path behind the separators that lead it. -/
theorem match?_congr_path {path' : String}
    (h : path.toList.dropWhile (· == separator) = path'.toList.dropWhile (· == separator)) :
    pattern.match? path = pattern.match? path' := by
  have htokens : pathTokens path = pathTokens path' := by
    rw [pathTokens_eq, pathTokens_eq, Text.trimStart, Text.trimStart, h]
  simp only [match?, htokens]

/-- A text around which separators are written is a pattern with the same matches. -/
theorem exists_parse_separators {source : String} (hparse : parse source = .ok pattern)
    (i j : Nat) :
    ∃ pattern', parse (separators i ++ source ++ separators j) = .ok pattern' ∧
      ∀ path, pattern'.match? path = pattern.match? path := by
  obtain ⟨hnone, rfl⟩ := (parse_eq_ok_iff source pattern).1 hparse
  refine ⟨⟨separators i ++ source ++ separators j, segmentsOf source⟩, ?_,
    fun path => match?_congr_segments rfl path⟩
  rw [parse_eq_ok_iff, segmentsOf_separators]
  exact ⟨hnone, rfl⟩

/-- A splat alone binds all of a path but the separators that lead it, if anything is left. -/
theorem match?_splat (source key path : String) :
    match? ⟨source, [.splat key]⟩ path =
      if path.toList.dropWhile (· == separator) = [] then none
      else some (Params.empty.insert key
        (String.ofList (separator :: path.toList.dropWhile (· == separator)))) := by
  have hjoin := joinWith_pathTokens path
  rw [Text.trimStart] at hjoin
  rw [← hjoin]
  cases htokens : pathTokens path with
  | nil => simp [match?, htokens, admits, endsInSplat, Segment.isSplat, Text.joinWith]
  | cons token tokens =>
    -- The tokens do not join to the empty text, which would have none.
    have hne : Text.joinWith separator ((token :: tokens).map String.toList) ≠ [] := by
      rw [← htokens, joinWith_pathTokens, Ne, ← pathTokens_eq_nil_iff, htokens]
      exact List.cons_ne_nil token tokens
    rw [if_neg hne, match?, htokens, if_pos ((admits_splat_iff key _).2 (by simp))]
    rfl

/-- Paths that all patterns match alike differ in the separators that lead them alone. -/
theorem forall_match?_eq_iff (path path' : String) :
    (∀ source pattern, parse source = .ok pattern →
      (pattern.match? path).map Params.get? = (pattern.match? path').map Params.get?) ↔
      path.toList.dropWhile (· == separator) = path'.toList.dropWhile (· == separator) := by
  constructor
  · intro h
    -- One pattern is enough, as its splat binds all that is left of a path.
    have hsame := h "*" ⟨"*", [.splat ""]⟩ (by decide)
    rw [match?_splat, match?_splat] at hsame
    split at hsame
    · next hnil =>
      split at hsame
      · next hnil' => rw [hnil, hnil']
      · nomatch hsame
    · split at hsame
      · nomatch hsame
      · have hvalue := congrFun (Option.some.inj hsame) ""
        simpa [Params.get?_insert, String.ofList_inj] using hvalue
  · intro h source pattern _
    rw [match?_congr_path h]

/-! ## The tokens of a path that is continued -/

/-- The tokens of a path that is continued. Those before `back` stay as they are. -/
theorem pathTokens_append {taken back : List String} (htokens : pathTokens path = taken ++ back)
    (hback : back ≠ []) (more : String) :
    pathTokens (path ++ more) = taken ++ (Text.pieces separator
      (Text.joinWith separator (back.map String.toList) ++ more.toList)).map String.ofList := by
  have hjoin := joinWith_pathTokens path
  rw [htokens, List.map_append] at hjoin
  have hne : Text.trimStart separator path.toList ≠ [] := by
    rw [Ne, ← pathTokens_eq_nil_iff, htokens]
    exact List.append_ne_nil_of_right_ne_nil taken hback
  have hfree : ∀ text ∈ taken.map String.toList, separator ∉ text := by
    rw [List.forall_mem_map]
    intro token htoken
    apply separator_not_mem_of_mem_pathTokens path
    rw [htokens]
    exact List.mem_append_left back htoken
  have hback' : back.map String.toList ≠ [] := by simpa using hback
  rw [pathTokens_eq, String.toList_append, Text.trimStart_append hne, Text.tokens,
    if_neg (by simp [hne]), ← Text.pieces_eq_splitOn, ← hjoin,
    Text.pieces_joinWith_append hfree hback', List.map_append, List.map_map]
  congr 1
  exact List.map_id'' (fun _ => String.ofList_toList) taken

/-- A path that is continued has a token more for each separator. -/
theorem length_pathTokens_append (h : pathTokens path ≠ []) (more : String) :
    (pathTokens (path ++ more)).length =
      (pathTokens path).length + more.toList.count separator := by
  have hne : Text.trimStart separator path.toList ≠ [] := mt (pathTokens_eq_nil_iff path).2 h
  rw [pathTokens_append (List.nil_append _).symm h, joinWith_pathTokens, pathTokens_eq, Text.tokens,
    if_neg hne, ← Text.pieces_eq_splitOn, List.nil_append, List.length_map, List.length_map,
    Text.length_pieces, Text.length_pieces, List.count_append]
  omega

/-! ## Splats -/

theorem matches_concat_splat_iff (hfront : ∀ segment ∈ front, segment.isSplat = false) :
    Matches (front ++ [.splat key]) tokens ↔
      ∃ taken back, tokens = taken ++ back ∧ back ≠ [] ∧ Matches front taken := by
  constructor
  · intro h
    induction front generalizing tokens with
    | nil =>
      obtain ⟨⟩ := h
      exact ⟨[], tokens, rfl, ‹_›, .nil⟩
    | cons segment front ih =>
      rw [List.forall_mem_cons] at hfront
      -- The first segment takes the first token, and the others leave what the splat takes.
      cases segment with
      | splat other => nomatch hfront.1
      | named other =>
        cases h with
        | named h =>
          obtain ⟨taken, back, rfl, hback, hmatches⟩ := ih hfront.2 h
          exact ⟨_ :: taken, back, rfl, hback, .named hmatches⟩
      | literal text =>
        cases h with
        | literal h =>
          obtain ⟨taken, back, rfl, hback, hmatches⟩ := ih hfront.2 h
          exact ⟨_ :: taken, back, rfl, hback, .literal hmatches⟩
  · rintro ⟨taken, back, rfl, hback, hmatches⟩
    induction hmatches with
    | nil => exact .splat hback
    | literal _ ih => exact .literal (ih fun other hother => hfront other (.tail _ hother))
    | named _ ih => exact .named (ih fun other hother => hfront other (.tail _ hother))
    | splat _ => nomatch hfront _ List.mem_cons_self

/-- The segments before a splat take what they take without it. -/
theorem captures_concat_splat {taken back : List String}
    (hfront : ∀ segment ∈ front, segment.isSplat = false) (hmatches : Matches front taken) :
    captures (front ++ [.splat key]) (taken ++ back) =
      captures front taken ++ [⟨.splat key, back⟩] := by
  induction hmatches with
  | nil => rfl
  | literal _ ih | named _ ih =>
    -- The segment takes one token, and the others are left as they are.
    have hrest := ih fun other hother => hfront other (.tail _ hother)
    rw [List.cons_append, List.cons_append, captures_cons, hrest, captures_cons]
    rfl
  | splat _ => nomatch hfront _ List.mem_cons_self

/-- A splat takes what the segments before it leave, and binds its key last. -/
theorem match?_concat_splat_iff (hsegments : pattern.segments = front ++ [.splat key])
    (hfront : ∀ segment ∈ front, segment.isSplat = false) (params : Params) :
    pattern.match? path = some params ↔
      ∃ taken back, pathTokens path = taken ++ back ∧ back ≠ [] ∧ Matches front taken ∧
        params = ((captures front taken).foldl Capture.bind .empty).insert key
          (Capture.splatText back) := by
  have hlast : SplatLast pattern.segments := by
    rw [SplatLast, hsegments, List.dropLast_concat]
    exact hfront
  have hbind : ∀ taken back, Matches front taken →
      (captures (front ++ [.splat key]) (taken ++ back)).foldl Capture.bind .empty =
        ((captures front taken).foldl Capture.bind .empty).insert key
          (Capture.splatText back) := by
    intro taken back hmatches
    rw [captures_concat_splat hfront hmatches, List.foldl_append]
    rfl
  rw [match?_eq_some_iff hlast, hsegments]
  constructor
  · rintro ⟨hmatches, rfl⟩
    obtain ⟨taken, back, htokens, hback, hmatches⟩ := (matches_concat_splat_iff hfront).1 hmatches
    refine ⟨taken, back, htokens, hback, hmatches, ?_⟩
    rw [htokens, hbind taken back hmatches]
  · rintro ⟨taken, back, htokens, hback, hmatches, rfl⟩
    rw [htokens, hbind taken back hmatches]
    exact ⟨(matches_concat_splat_iff hfront).2 ⟨taken, back, rfl, hback, hmatches⟩, rfl⟩

/-- What is written behind a path goes to the splat. -/
theorem match?_append_of_splat (hlast : SplatLast pattern.segments)
    (hsplat : pattern.segments.getLast? = some (.splat key)) {params : Params}
    (h : pattern.match? path = some params) (more : String) :
    ∃ params' value, pattern.match? (path ++ more) = some params' ∧
      params.get? key = some value ∧
      ∀ k, params'.get? k = if k = key then some (value ++ more) else params.get? k := by
  obtain ⟨front, hsegments⟩ := List.getLast?_eq_some_iff.1 hsplat
  have hfront : ∀ segment ∈ front, segment.isSplat = false := by
    rwa [SplatLast, hsegments, List.dropLast_concat] at hlast
  obtain ⟨taken, back, htokens, hback, hmatches, rfl⟩ :=
    (match?_concat_splat_iff hsegments hfront params).1 h
  -- The tokens that the splat takes now, and the text that it binds.
  have htokens' := pathTokens_append htokens hback more
  have hvalue : Capture.splatText ((Text.pieces separator
      (Text.joinWith separator (back.map String.toList) ++ more.toList)).map String.ofList) =
        Capture.splatText back ++ more := by
    rw [← String.toList_inj, Capture.splatText, Text.map_toList_map_ofList, Text.joinWith_pieces,
      String.toList_ofList, String.toList_append, Capture.splatText, String.toList_ofList]
    rfl
  have hmatch := (match?_concat_splat_iff hsegments hfront _).2
    ⟨taken, _, htokens', by simp [Text.pieces_ne_nil], hmatches, rfl⟩
  refine ⟨_, Capture.splatText back, hmatch, ?_, ?_⟩
  · rw [Params.get?_insert, if_pos rfl]
  · intro k
    rw [hvalue, Params.get?_insert, Params.get?_insert]
    split
    · rfl
    · rfl

/-- Without a splat, a separator behind a path that is not the root makes a token too many. -/
theorem match?_append_eq_none (hlast : SplatLast pattern.segments)
    (hsplat : ∀ key, pattern.segments.getLast? ≠ some (.splat key)) {params : Params}
    (hroot : ¬ ∀ c ∈ path.toList, c = separator) (h : pattern.match? path = some params)
    {more : String} (hmore : separator ∈ more.toList) : pattern.match? (path ++ more) = none := by
  have hends : pattern.endsInSplat = false := by
    rw [endsInSplat]
    cases hsegment : pattern.segments.getLast? with
    | none => rfl
    | some segment =>
      cases segment with
      | splat key => exact absurd hsegment (hsplat key)
      | literal _ => rfl
      | named _ => rfl
  -- Each segment takes one token.
  have hcount : ∀ path, (pattern.match? path).isSome →
      pattern.segments.length = (pathTokens path).length := by
    intro path hsome
    have hadmits : pattern.admits (pathTokens path).length = true :=
      admits_of_matches ((isSome_match?_iff hlast path).1 hsome)
    simpa [admits, hends] using hadmits
  have hne : pathTokens path ≠ [] := by
    rwa [Ne, pathTokens_eq_nil_iff, Text.trimStart_eq_nil_iff]
  have hlength := length_pathTokens_append hne more
  have hpos : 0 < more.toList.count separator := List.count_pos_iff.2 hmore
  -- Both paths would have as many tokens as there are segments.
  rw [← Option.not_isSome_iff_eq_none]
  intro hsome
  have hpath := hcount path (by rw [h]; rfl)
  have hpath' := hcount (path ++ more) hsome
  omega

/-- Separators behind the root change nothing. -/
theorem match?_append_separators (hroot : ∀ c ∈ path.toList, c = separator) (n : Nat) :
    pattern.match? (path ++ separators n) = pattern.match? path := by
  have hmore : ∀ c ∈ (path ++ separators n).toList, c = separator := by
    intro c hc
    rw [String.toList_append, List.mem_append] at hc
    rcases hc with hc | hc
    · exact hroot c hc
    · rw [separators, String.toList_ofList] at hc
      exact List.eq_of_mem_replicate hc
  -- Nothing is left of either path behind the separators that lead it.
  rw [← Text.trimStart_eq_nil_iff] at hroot hmore
  exact match?_congr_path (hmore.trans hroot.symm)

/-! ## All of these together -/

/-- Separators around the text of a pattern carry no meaning, and paths are matched alike by all
patterns exactly if they differ in the separators that lead them alone. What is written behind a
path goes to the splat of a pattern that ends in one. Otherwise a path is not matched with a
separator written behind it, unless the path is the root, for which this makes no difference. -/
theorem match?_separators_and_extensions :
    (∀ source pattern, parse source = .ok pattern → ∀ i j, ∃ pattern',
      parse (separators i ++ source ++ separators j) = .ok pattern' ∧
        ∀ path, pattern'.match? path = pattern.match? path) ∧
    (∀ path path' : String, (∀ source pattern, parse source = .ok pattern →
      (pattern.match? path).map Params.get? = (pattern.match? path').map Params.get?) ↔
        path.toList.dropWhile (· == separator) = path'.toList.dropWhile (· == separator)) ∧
    (∀ source pattern, parse source = .ok pattern →
      ∀ key, pattern.segments.getLast? = some (.splat key) →
      ∀ path params, pattern.match? path = some params → ∀ more, ∃ params' value,
        pattern.match? (path ++ more) = some params' ∧ params.get? key = some value ∧
        ∀ k, params'.get? k = if k = key then some (value ++ more) else params.get? k) ∧
    (∀ source pattern, parse source = .ok pattern →
      (∀ key, pattern.segments.getLast? ≠ some (.splat key)) →
      ∀ path params, pattern.match? path = some params →
        ((¬ ∀ c ∈ path.toList, c = separator) →
          ∀ more : String, separator ∈ more.toList → pattern.match? (path ++ more) = none) ∧
        ((∀ c ∈ path.toList, c = separator) →
          ∀ n, pattern.match? (path ++ separators n) = some params)) := by
  refine ⟨fun source pattern hparse => exists_parse_separators hparse, forall_match?_eq_iff, ?_, ?_⟩
  · intro source pattern hparse key hsplat path params h
    exact match?_append_of_splat (wellFormed_of_parse hparse).splat_last hsplat h
  · intro source pattern hparse hsplat path params h
    refine ⟨?_, ?_⟩
    · intro hroot more hmore
      exact match?_append_eq_none (wellFormed_of_parse hparse).splat_last hsplat hroot h hmore
    · intro hroot n
      rw [match?_append_separators hroot, h]

/-- With a key that is named and splat, and a path that ends in an empty token. -/
theorem match?_separators_and_extensions_empty_tokens :
    (∃ pattern, parse "///:a/*a//" = .ok pattern ∧
      ∃ params, pattern.match? "x///y/z" = some params ∧ params.get? "a" = some "///y/z") ∧
    match? ⟨"/:a/", [.named "a"]⟩ "x/" = none ∧
    match? ⟨"", []⟩ "//" = some ⟨[]⟩ := by
  have hparse : parse "/:a/*a" = .ok ⟨"/:a/*a", [.named "a", .splat "a"]⟩ := by decide
  have hnamed : parse "/:a/" = .ok ⟨"/:a/", [.named "a"]⟩ := by decide
  have hroot : parse "" = .ok ⟨"", []⟩ := by decide
  obtain ⟨hseparators, -, hsplat, hother⟩ := match?_separators_and_extensions
  refine ⟨?_, ?_, ?_⟩
  · obtain ⟨pattern, hpattern, hsame⟩ := hseparators _ _ hparse 2 2
    have hmatch : match? ⟨"/:a/*a", [.named "a", .splat "a"]⟩ "x/" = some ⟨[("a", "/")]⟩ := by
      decide
    obtain ⟨params, value, hparams, hvalue, hget⟩ := hsplat _ _ hparse "a" rfl _ _ hmatch "//y/z"
    refine ⟨pattern, hpattern, params, ?_, ?_⟩
    · rw [hsame]
      exact hparams
    · obtain rfl : "/" = value := Option.some.inj hvalue
      rw [hget, if_pos rfl]
      decide
  · have hpath : ¬ ∀ c ∈ "x".toList, c = separator := by simp [separator]
    exact (hother _ _ hnamed (by simp) "x" ⟨[("a", "x")]⟩ (by decide)).1 hpath "/" (by decide)
  · have hpath : ∀ c ∈ "/".toList, c = separator := by simp [separator]
    exact (hother _ _ hroot (by simp) "/" ⟨[]⟩ (by decide)).2 hpath 1

end Pattern

end PatternRouter
