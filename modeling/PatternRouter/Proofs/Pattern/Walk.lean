import PatternRouter.Proofs.Pattern.Semantics

/-!
# The walk by places

`walk` takes tokens off a list, and so it cannot tell which of them it looks at. Here the walk is
made by counting. It goes over the segments in rounds; in each it looks at the token in the place of
the segment, or, for a splat, at all from that place on, and then it ends. A place behind the tokens
would be out of range.

The module introduces:

* `IsTokens path tokens` — what the tokens of a path are, without cutting it;
* `Walk.State` and `Walk.State.round` — a walk between two rounds, with the places that it has
  looked at, and what its next round comes to;
* `Walk.Reached segments tokens state` — the states of the walk of some segments over some tokens.

If the number of tokens is admitted, a walk begins in a state that is `Walk.Sound`, and every round
keeps it so (`Sound.round_cases`). The main result, `Walk.reads_each_token_once`, is read off from
what is so of sound states.
-/

namespace PatternRouter

/-! ## The tokens of a path -/

/-- Texts without separators: none for a path of separators alone, and otherwise such that the first
is not empty and that they join to the path behind the separators that lead it. -/
structure IsTokens (path : String) (tokens : List String) : Prop where
  separator_free : ∀ token ∈ tokens, separator ∉ token.toList
  joins : (tokens = [] ∧ ∀ c ∈ path.toList, c = separator) ∨
    (∃ token rest, tokens = token :: rest ∧ token ≠ "") ∧
      ("/".intercalate tokens).toList = path.toList.dropWhile (· == separator)

theorem toList_intercalate_separator (tokens : List String) :
    ("/".intercalate tokens).toList = Text.joinWith separator (tokens.map String.toList) := by
  rw [String.toList_intercalate, Text.joinWith_eq_intercalate]
  rfl

theorem isTokens_pathTokens (path : String) : IsTokens path (pathTokens path) := by
  refine ⟨separator_not_mem_of_mem_pathTokens path, ?_⟩
  cases htokens : pathTokens path with
  | nil =>
    left
    exact ⟨rfl, (Text.trimStart_eq_nil_iff separator _).1 ((pathTokens_eq_nil_iff path).1 htokens)⟩
  | cons token rest =>
    right
    refine ⟨⟨token, rest, rfl, ?_⟩, ?_⟩
    · -- An empty first token would stand before a separator that leads the path.
      rintro rfl
      apply Text.head?_tokens_ne (Text.head?_trimStart_ne separator path.toList)
      rw [← Text.map_toList_map_ofList (Text.tokens _ _), ← pathTokens_eq, htokens]
      rfl
    · rw [← htokens, toList_intercalate_separator, joinWith_pathTokens, Text.trimStart]

/-- The tokens of a path are the only texts that are so. -/
theorem isTokens_iff (path : String) (tokens : List String) :
    IsTokens path tokens ↔ tokens = pathTokens path := by
  constructor
  · rintro ⟨hfree, ⟨rfl, hall⟩ | ⟨⟨token, rest, rfl, hne⟩, hjoin⟩⟩
    · exact ((pathTokens_eq_nil_iff path).2 ((Text.trimStart_eq_nil_iff separator _).2 hall)).symm
    · rw [toList_intercalate_separator] at hjoin
      rw [pathTokens_eq, Text.trimStart, ← hjoin, Text.tokens_joinWith, List.map_map]
      · exact (List.map_id'' (fun _ => String.ofList_toList) (token :: rest)).symm
      · rwa [List.forall_mem_map]
      · simpa using hne
  · rintro rfl
    exact isTokens_pathTokens path

/-- Whether a segment that takes one token takes this one. -/
def Segment.accepts : Segment → String → Bool
  | .literal text, token => text = token
  | _, _ => true

namespace Walk

/-! ## Rounds -/

/-- A walk between two of its rounds. -/
structure State where
  /-- The segments that are still to be looked at. -/
  pending : List Segment
  /-- The place of the first of them, which is that of the token that it looks at. -/
  index : Nat
  /-- What the segments so far took. -/
  captures : List Capture
  /-- The places of the tokens that were looked at, in the order in which they were. -/
  places : List Nat
  /-- The segments behind the splat with which the walk ended. -/
  skipped : List Segment
deriving DecidableEq, Repr

/-- What a round comes to. -/
inductive Round where
  /-- No segment is left to be looked at. -/
  | over
  | next (state : State)
  /-- A literal differs from the token in its place. -/
  | mismatch
  /-- There is no such place among the tokens. -/
  | outOfRange
deriving DecidableEq, Repr

namespace State

/-- A walk before its first round. -/
def start (segments : List Segment) : State := ⟨segments, 0, [], [], []⟩

/-- A segment took the token in its place, and the segments `rest` follow. -/
def advance (state : State) (segment : Segment) (token : String) (rest : List Segment) : State where
  pending := rest
  index := state.index + 1
  captures := state.captures ++ [⟨segment, [token]⟩]
  places := state.places ++ [state.index]
  skipped := state.skipped

/-- A splat took all tokens from its place on, and the segments `rest` are left out. -/
def finish (state : State) (key : String) (tokens : List String) (rest : List Segment) : State where
  pending := []
  index := state.index
  captures := state.captures ++ [⟨.splat key, tokens.drop state.index⟩]
  places := state.places ++ List.range' state.index (tokens.length - state.index)
  skipped := rest

/-- The next round of a walk. The place right behind the last token still begins a row of tokens,
which is empty, but there is no token in it. -/
def round (tokens : List String) (state : State) : Round :=
  match state.pending with
  | [] => .over
  | .splat key :: rest =>
    if state.index ≤ tokens.length then .next (state.finish key tokens rest) else .outOfRange
  | segment :: rest =>
    match tokens[state.index]? with
    | some token =>
      if segment.accepts token then .next (state.advance segment token rest) else .mismatch
    | none => .outOfRange

end State

/-- The states of the walk of some segments over some tokens. -/
inductive Reached (segments : List Segment) (tokens : List String) : State → Prop
  | start : Reached segments tokens (.start segments)
  | next {state next : State} :
      Reached segments tokens state → state.round tokens = .next next →
      Reached segments tokens next

variable {source : String} {segments rest : List Segment} {segment : Segment}
  {tokens : List String} {state next : State}

theorem round_of_nil (h : state.pending = []) : state.round tokens = .over := by
  rw [State.round, h]

theorem round_of_splat {key : String} (h : state.pending = .splat key :: rest) :
    state.round tokens =
      if state.index ≤ tokens.length then .next (state.finish key tokens rest)
      else .outOfRange := by
  rw [State.round, h]

theorem round_of_getElem? (h : state.pending = segment :: rest) (hsplat : segment.isSplat = false)
    {token : String} (htoken : tokens[state.index]? = some token) :
    state.round tokens =
      if segment.accepts token then .next (state.advance segment token rest) else .mismatch := by
  rw [State.round, h]
  cases segment with
  | splat key => nomatch hsplat
  | literal _ | named _ => simp only [htoken]

/-- What `walk` does with a segment that takes one token. -/
theorem walk_cons (hsplat : segment.isSplat = false) (segments : List Segment) (token : String)
    (tokens : List String) :
    walk (segment :: segments) (token :: tokens) =
      if segment.accepts token then (walk segments tokens).map (⟨segment, [token]⟩ :: ·)
      else .error .mismatch := by
  cases segment with
  | splat key => nomatch hsplat
  | named key => rfl
  | literal text => simp [walk, Segment.accepts]

/-! ## What every round keeps -/

/-- What is so of a walk whose number of tokens is admitted, between any two of its rounds. In both
kinds of state the places are those of the tokens that were taken, each once and in order. -/
inductive Sound (segments : List Segment) (tokens : List String) : State → Prop
  /-- The tokens before the place were taken, and the number of those that are left is admitted for
  the segments that are left. -/
  | running {pending : List Segment} {index : Nat} {captures : List Capture}
      (segments_eq : captures.map Capture.segment ++ pending = segments)
      (tokens_eq : captures.flatMap Capture.tokens = tokens.take index)
      (splat_last : Pattern.SplatLast pending)
      (index_le : index ≤ tokens.length)
      (admitted : Pattern.admits ⟨"", pending⟩ (tokens.length - index) = true)
      (walk_eq : walk segments tokens =
        (walk pending (tokens.drop index)).map (captures ++ ·)) :
      Sound segments tokens ⟨pending, index, captures, List.range index, []⟩
  /-- A splat took all that were left, and was the last segment. -/
  | finished {index : Nat} {captures : List Capture}
      (segments_eq : captures.map Capture.segment = segments)
      (tokens_eq : captures.flatMap Capture.tokens = tokens)
      (walk_eq : walk segments tokens = .ok captures) :
      Sound segments tokens ⟨[], index, captures, List.range tokens.length, []⟩

theorem Sound.start (hlast : Pattern.SplatLast segments)
    (hadmits : Pattern.admits ⟨source, segments⟩ tokens.length = true) :
    Sound segments tokens (.start segments) := by
  refine .running (by simp) (by simp) hlast (Nat.zero_le _) hadmits ?_
  rw [List.drop_zero]
  cases walk segments tokens <;> rfl

/-- A round that looks at a segment has a token in its place, and no segment stands behind a splat.
Each segment that is left needs a token of its own. -/
theorem Sound.in_range (h : Sound segments tokens state)
    (hpending : state.pending = segment :: rest) :
    state.index < tokens.length ∧ (segment.isSplat = true → rest = []) := by
  cases h with
  | finished => nomatch hpending
  | @running pending index captures _ _ hlast hle hadmitted _ =>
    obtain rfl : pending = segment :: rest := hpending
    constructor
    · have hlength := (Pattern.admits_iff.1 hadmitted).1
      rw [List.length_cons] at hlength
      show index < tokens.length
      omega
    · intro hsplat
      cases rest with
      | nil => rfl
      | cons other rest => simp [hlast.head] at hsplat

/-- A round of a segment that takes one token. -/
theorem Sound.advance (h : Sound segments tokens state) (hpending : state.pending = segment :: rest)
    (hsplat : segment.isSplat = false) {token : String}
    (htoken : tokens[state.index]? = some token) (haccepts : segment.accepts token = true) :
    Sound segments tokens (state.advance segment token rest) := by
  cases h with
  | finished => nomatch hpending
  | @running pending index captures hsegments htokens hlast hle hadmitted hwalk =>
    obtain rfl : pending = segment :: rest := hpending
    obtain ⟨hindex, htoken⟩ := List.getElem?_eq_some_iff.1 htoken
    change index < tokens.length at hindex
    change tokens[index] = token at htoken
    have hdrop : tokens.drop index = token :: tokens.drop (index + 1) := by
      rw [List.drop_eq_getElem_cons hindex, htoken]
    have hplaces : List.range (index + 1) = List.range index ++ [index] := List.range_succ
    rw [State.advance, ← hplaces]
    refine .running ?_ ?_ hlast.tail hindex ?_ ?_
    · simpa using hsegments
    · rw [List.flatMap_append, htokens, List.take_succ_eq_append_getElem hindex, htoken]
      rfl
    · -- The segment and its token leave one less of each.
      have hcount : tokens.length - index = tokens.length - (index + 1) + 1 := by omega
      rwa [hcount, Pattern.admits_cons_succ hsplat] at hadmitted
    · rw [hwalk, hdrop, walk_cons hsplat, if_pos haccepts]
      cases walk rest (tokens.drop (index + 1)) with
      | error stop => rfl
      | ok taken => simp [Except.map]

/-- The round of a splat. -/
theorem Sound.finish {key : String} (h : Sound segments tokens state)
    (hpending : state.pending = .splat key :: rest) :
    Sound segments tokens (state.finish key tokens rest) := by
  obtain ⟨hindex, hrest⟩ := h.in_range hpending
  obtain rfl : rest = [] := hrest rfl
  cases h with
  | finished => nomatch hpending
  | @running pending index captures hsegments htokens hlast hle hadmitted hwalk =>
    obtain rfl : pending = [.splat key] := hpending
    change index < tokens.length at hindex
    have hplaces : List.range index ++ List.range' index (tokens.length - index) =
        List.range tokens.length := by
      rw [List.range_eq_range', List.range_eq_range', ← Nat.add_sub_cancel' hle,
        ← List.range'_append_1, Nat.zero_add, Nat.add_sub_cancel' hle]
    rw [State.finish]
    show Sound segments tokens
      ⟨[], index, _, List.range index ++ List.range' index (tokens.length - index), []⟩
    rw [hplaces]
    refine .finished ?_ ?_ ?_
    · simpa using hsegments
    · simp [htokens]
    · rw [hwalk, List.drop_eq_getElem_cons hindex, walk]
      rfl

/-- The round of a literal that differs from its token. -/
theorem Sound.mismatch (h : Sound segments tokens state)
    (hpending : state.pending = segment :: rest) (hsplat : segment.isSplat = false) {token : String}
    (htoken : tokens[state.index]? = some token) (haccepts : ¬ segment.accepts token = true) :
    walk segments tokens = .error .mismatch := by
  cases h with
  | finished => nomatch hpending
  | @running pending index captures _ _ _ _ _ hwalk =>
    obtain rfl : pending = segment :: rest := hpending
    obtain ⟨hindex, htoken⟩ := List.getElem?_eq_some_iff.1 htoken
    change index < tokens.length at hindex
    change tokens[index] = token at htoken
    -- The walk of what is left stops at once, and with it the whole one.
    rw [hwalk, List.drop_eq_getElem_cons hindex, walk_cons hsplat, htoken, if_neg haccepts]
    rfl

/-- A round looks for no token where there is none. It ends the walk, or leaves a sound state with
fewer segments, or finds a literal that differs from its token. -/
theorem Sound.round_cases (h : Sound segments tokens state) :
    (state.pending = [] ∧ state.round tokens = .over) ∨
    (∃ next, state.round tokens = .next next ∧ Sound segments tokens next ∧
      next.pending.length < state.pending.length) ∨
    (state.round tokens = .mismatch ∧ walk segments tokens = .error .mismatch) := by
  cases hpending : state.pending with
  | nil => exact .inl ⟨rfl, round_of_nil hpending⟩
  | cons segment rest =>
    right
    obtain ⟨hindex, -⟩ := h.in_range hpending
    by_cases hsplat : segment.isSplat = true
    · obtain ⟨key, rfl⟩ : ∃ key, segment = .splat key := by
        cases segment <;> simp_all [Segment.isSplat]
      left
      refine ⟨_, ?_, h.finish hpending, Nat.succ_pos _⟩
      rw [round_of_splat hpending, if_pos hindex.le]
    · rw [Bool.not_eq_true] at hsplat
      have hround := round_of_getElem? hpending hsplat (List.getElem?_eq_getElem hindex)
      by_cases haccepts : segment.accepts tokens[state.index] = true
      · rw [if_pos haccepts] at hround
        left
        exact ⟨_, hround, h.advance hpending hsplat (List.getElem?_eq_getElem hindex) haccepts,
          Nat.lt_succ_self _⟩
      · rw [if_neg haccepts] at hround
        right
        exact ⟨hround, h.mismatch hpending hsplat (List.getElem?_eq_getElem hindex) haccepts⟩

/-! ## Whole walks -/

theorem sound_of_reached (hlast : Pattern.SplatLast segments)
    (hadmits : Pattern.admits ⟨source, segments⟩ tokens.length = true)
    (h : Reached segments tokens state) : Sound segments tokens state := by
  induction h with
  | start => exact .start hlast hadmits
  | @next state next _ hround ih =>
    rcases ih.round_cases with ⟨-, hother⟩ | ⟨other, hother, hsound, -⟩ | ⟨hother, -⟩ <;>
      rw [hother] at hround
    · nomatch hround
    · obtain rfl := Round.next.inj hround
      exact hsound
    · nomatch hround

/-- A walk that has come to its end took every token once, in order, and left no segment out. -/
theorem Sound.of_pending_eq_nil (h : Sound segments tokens state) (hpending : state.pending = []) :
    state.skipped = [] ∧ state.places = List.range tokens.length ∧
      state.captures.map Capture.segment = segments ∧
      state.captures.flatMap Capture.tokens = tokens ∧
      walk segments tokens = .ok state.captures := by
  cases h with
  | finished hsegments htokens hwalk => exact ⟨rfl, rfl, hsegments, htokens, hwalk⟩
  | @running pending index captures hsegments htokens _ hle hadmitted hwalk =>
    obtain rfl : pending = [] := hpending
    -- No segment is left, so no token is: their number would not be admitted.
    have hcount := (Pattern.admits_nil_iff _).1 hadmitted
    obtain rfl : index = tokens.length := by omega
    refine ⟨rfl, rfl, by simpa using hsegments, by simpa using htokens, ?_⟩
    rw [hwalk, walk]
    simp [Except.map]

/-- Every walk comes to its end or to a literal that differs from its token. -/
theorem exists_reached_end (hstate : Reached segments tokens state)
    (h : Sound segments tokens state) :
    ∃ last, Reached segments tokens last ∧ Sound segments tokens last ∧
      (last.pending = [] ∨
        last.round tokens = .mismatch ∧ walk segments tokens = .error .mismatch) := by
  -- Each round leaves fewer segments, so there is a last one.
  induction hcount : state.pending.length using Nat.strong_induction_on generalizing state with
  | _ count ih =>
    rcases h.round_cases with ⟨hpending, -⟩ | ⟨next, hround, hnext, hlt⟩ | hmismatch
    · exact ⟨state, hstate, h, .inl hpending⟩
    · exact ih _ (hcount ▸ hlt) (hstate.next hround) hnext rfl
    · exact ⟨state, hstate, h, .inr hmismatch⟩

section Ends

variable (hlast : Pattern.SplatLast segments)
  (hadmits : Pattern.admits ⟨source, segments⟩ tokens.length = true)

include hlast hadmits

theorem walk_eq_ok_iff (captures : List Capture) :
    walk segments tokens = .ok captures ↔
      ∃ state, Reached segments tokens state ∧ state.pending = [] ∧ state.captures = captures := by
  constructor
  · intro hwalk
    obtain ⟨last, hreached, hsound, hpending | ⟨-, hmismatch⟩⟩ :=
      exists_reached_end .start (.start hlast hadmits)
    · obtain ⟨-, -, -, -, hend⟩ := hsound.of_pending_eq_nil hpending
      rw [hend] at hwalk
      exact ⟨last, hreached, hpending, Except.ok.inj hwalk⟩
    · rw [hmismatch] at hwalk
      nomatch hwalk
  · rintro ⟨state, hreached, hpending, rfl⟩
    obtain ⟨-, -, -, -, hend⟩ :=
      (sound_of_reached hlast hadmits hreached).of_pending_eq_nil hpending
    exact hend

theorem exists_walk_eq_error_iff :
    (∃ stop, walk segments tokens = .error stop) ↔
      ∃ state, Reached segments tokens state ∧ state.round tokens = .mismatch := by
  constructor
  · rintro ⟨stop, hwalk⟩
    obtain ⟨last, hreached, hsound, hpending | ⟨hround, -⟩⟩ :=
      exists_reached_end .start (.start hlast hadmits)
    · obtain ⟨-, -, -, -, hend⟩ := hsound.of_pending_eq_nil hpending
      rw [hend] at hwalk
      nomatch hwalk
    · exact ⟨last, hreached, hround⟩
  · rintro ⟨state, hreached, hround⟩
    rcases (sound_of_reached hlast hadmits hreached).round_cases with
      ⟨-, hother⟩ | ⟨_, hother, -⟩ | ⟨-, hwalk⟩
    · rw [hother] at hround
      nomatch hround
    · rw [hother] at hround
      nomatch hround
    · exact ⟨_, hwalk⟩

end Ends

/-- The tokens of a path are the only texts without separators of which the first is not empty and
which join to the path behind the separators that lead it; a path of separators alone has none.

Let their number be admitted by a parsed pattern. Whenever the walk over them looks at a segment, its
place is that of a token, also for a splat, which is the last segment. No place is out of range. A
walk that has come to its end has left no segment out and has looked at every token once, in order.
The pattern matches the path exactly if the walk comes to its end, and then binds what was taken;
otherwise the walk comes to a literal that differs from its token. -/
theorem reads_each_token_once :
    (∀ path tokens, IsTokens path tokens ↔ tokens = pathTokens path) ∧
    ∀ source pattern, Pattern.parse source = .ok pattern →
      ∀ path, pattern.admits (pathTokens path).length = true →
        (∀ state, Reached pattern.segments (pathTokens path) state →
          (∀ segment rest, state.pending = segment :: rest →
            state.index < (pathTokens path).length ∧
            (segment.isSplat = true →
              rest = [] ∧ (pathTokens path).drop state.index ≠ [])) ∧
          state.round (pathTokens path) ≠ .outOfRange ∧
          (state.pending = [] →
            state.skipped = [] ∧
            state.places = List.range (pathTokens path).length ∧
            state.captures.map Capture.segment = pattern.segments ∧
            state.captures.flatMap Capture.tokens = pathTokens path)) ∧
        (∀ params, pattern.match? path = some params ↔
          ∃ state, Reached pattern.segments (pathTokens path) state ∧ state.pending = [] ∧
            params = state.captures.foldl Capture.bind .empty) ∧
        (pattern.match? path = none ↔
          ∃ state, Reached pattern.segments (pathTokens path) state ∧
            state.round (pathTokens path) = .mismatch) := by
  refine ⟨isTokens_iff, ?_⟩
  intro source pattern hparse path hadmits
  have hlast : Pattern.SplatLast pattern.segments :=
    (Pattern.wellFormed_of_parse hparse).splat_last
  have hsound : ∀ {state}, Reached pattern.segments (pathTokens path) state →
      Sound pattern.segments (pathTokens path) state := sound_of_reached hlast hadmits
  refine ⟨?_, ?_, ?_⟩
  · intro state hstate
    refine ⟨?_, ?_, ?_⟩
    · intro segment rest hpending
      obtain ⟨hindex, hrest⟩ := (hsound hstate).in_range hpending
      refine ⟨hindex, fun hsplat => ⟨hrest hsplat, ?_⟩⟩
      rw [Ne, List.drop_eq_nil_iff]
      omega
    · rcases (hsound hstate).round_cases with ⟨-, h⟩ | ⟨_, h, -⟩ | ⟨h, -⟩ <;> simp [h]
    · intro hpending
      obtain ⟨hskipped, hplaces, hsegments, htokens, -⟩ :=
        (hsound hstate).of_pending_eq_nil hpending
      exact ⟨hskipped, hplaces, hsegments, htokens⟩
  · intro params
    have hmatch : pattern.match? path = some params ↔
        ∃ captures, walk pattern.segments (pathTokens path) = .ok captures ∧
          params = captures.foldl Capture.bind .empty := by
      rw [Pattern.match?, if_pos hadmits]
      cases walk pattern.segments (pathTokens path) <;> simp [eq_comm]
    simp only [hmatch, walk_eq_ok_iff hlast hadmits]
    constructor
    · rintro ⟨_, ⟨state, hstate, hpending, rfl⟩, hparams⟩
      exact ⟨state, hstate, hpending, hparams⟩
    · rintro ⟨state, hstate, hpending, hparams⟩
      exact ⟨_, ⟨state, hstate, hpending, rfl⟩, hparams⟩
  · rw [← exists_walk_eq_error_iff hlast hadmits, Pattern.match?, if_pos hadmits]
    cases walk pattern.segments (pathTokens path) <;> simp

/-- With an empty token for a literal, and one at the end of what a splat takes. -/
theorem reads_each_token_once_splat :
    Pattern.parse "/files/:dir//*rest" = .ok ⟨"/files/:dir//*rest",
      [.literal "files", .named "dir", .literal "", .splat "rest"]⟩ ∧
    IsTokens "//files/a//b/" ["files", "a", "", "b", ""] ∧
    Pattern.admits ⟨"/files/:dir//*rest",
      [.literal "files", .named "dir", .literal "", .splat "rest"]⟩ 5 = true ∧
    ∃ state, Reached [.literal "files", .named "dir", .literal "", .splat "rest"]
        ["files", "a", "", "b", ""] state ∧
      state.pending = [] ∧ state.skipped = [] ∧ state.places = [0, 1, 2, 3, 4] ∧
      state.captures.flatMap Capture.tokens = ["files", "a", "", "b", ""] := by
  have hparse : Pattern.parse "/files/:dir//*rest" = .ok ⟨"/files/:dir//*rest",
      [.literal "files", .named "dir", .literal "", .splat "rest"]⟩ := by decide
  have hadmits : Pattern.admits ⟨"/files/:dir//*rest",
      [.literal "files", .named "dir", .literal "", .splat "rest"]⟩ 5 = true := by decide
  have hmatch : Pattern.match? ⟨"/files/:dir//*rest",
      [.literal "files", .named "dir", .literal "", .splat "rest"]⟩ "//files/a//b/" =
      some ⟨[("dir", "a"), ("rest", "/b/")]⟩ := by decide
  have hpath : pathTokens "//files/a//b/" = ["files", "a", "", "b", ""] := by decide
  obtain ⟨htokens, hwalk⟩ := reads_each_token_once
  obtain ⟨hreached, hmatched, -⟩ := hwalk _ _ hparse "//files/a//b/" (by rwa [hpath])
  obtain ⟨state, hstate, hpending, -⟩ := (hmatched _).1 hmatch
  obtain ⟨-, -, hend⟩ := hreached state hstate
  obtain ⟨hskipped, hplaces, -, htaken⟩ := hend hpending
  rw [hpath] at hstate hplaces htaken
  exact ⟨hparse, (htokens _ _).2 hpath.symm, hadmits, state, hstate, hpending, hskipped, hplaces,
    htaken⟩

end Walk

end PatternRouter
