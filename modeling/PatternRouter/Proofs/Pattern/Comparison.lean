import Mathlib.Algebra.Order.BigOperators.Group.List
import Mathlib.Algebra.Order.Group.Nat
import PatternRouter.Proofs.Pattern.Reverse

/-!
# Comparing the paths of two patterns

Which tokens a pattern matches is decided place by place: their number must be admitted, and each
literal must stand in its own place. So inclusion and disjointness of the paths of two patterns can
be read off their segments, although there are infinitely many paths.

The module introduces:

* `literalAt? segments i` — the text that the tokens must have in place `i`, if there is one;
* `sampleTokens filler count left right` — tokens with the literals of two lists of segments in
  their places and `filler` in all others, which a path can have (`Spellable`);
* `Covers a b` and `Apart a b` — the two criteria.

The main results are `forall_match?_iff_covers` and `forall_not_match?_iff_apart`. A criterion that
fails is refuted by one sample: with a filler that is no literal of `a` for `Covers`, and with the
literals of both patterns for `Apart`.
-/

namespace PatternRouter

/-- The text of a literal. -/
def Segment.literal? : Segment → Option String
  | .literal text => some text
  | _ => none

theorem Segment.literal?_eq_some_iff {segment : Segment} {text : String} :
    segment.literal? = some text ↔ segment = .literal text := by
  cases segment <;> simp [literal?]

namespace Pattern

variable {source text : String} {segments : List Segment} {tokens : List String} {i : Nat}

/-! ## Matching, place by place -/

/-- The text of the literal in a place. -/
def literalAt? (segments : List Segment) (i : Nat) : Option String :=
  segments[i]?.bind Segment.literal?

theorem literalAt?_eq_some_iff :
    literalAt? segments i = some text ↔ segments[i]? = some (.literal text) := by
  simp [literalAt?, Option.bind_eq_some_iff, Segment.literal?_eq_some_iff]

@[simp]
theorem literalAt?_cons_zero (segment : Segment) (segments : List Segment) :
    literalAt? (segment :: segments) 0 = segment.literal? := rfl

@[simp]
theorem literalAt?_cons_succ (segment : Segment) (segments : List Segment) (i : Nat) :
    literalAt? (segment :: segments) (i + 1) = literalAt? segments i := rfl

theorem getElem?_of_matches (h : Matches segments tokens)
    (htext : literalAt? segments i = some text) : tokens[i]? = some text := by
  induction h generalizing i with
  | nil => simp [literalAt?] at htext
  | literal _ ih =>
    cases i with
    | zero => simpa [Segment.literal?] using htext
    | succ i => exact ih htext
  | named _ ih =>
    cases i with
    | zero => simp [Segment.literal?] at htext
    | succ i => exact ih htext
  | splat _ =>
    cases i with
    | zero => simp [Segment.literal?] at htext
    | succ i => simp [literalAt?] at htext

/-- Tokens are matched if their number is admitted and they have the literals in their places. -/
theorem matches_of_getElem? (hlast : SplatLast segments)
    (hadmits : admits ⟨source, segments⟩ tokens.length = true)
    (hliteral : ∀ i text, literalAt? segments i = some text → tokens[i]? = some text) :
    Matches segments tokens := by
  induction segments generalizing tokens with
  | nil =>
    rw [admits_nil_iff, List.length_eq_zero_iff] at hadmits
    rw [hadmits]
    exact Matches.nil
  | cons segment segments ih =>
    -- What holds of all places holds of the first one and of those behind it.
    have hhead := hliteral 0
    have htail := fun i => hliteral (i + 1)
    cases segment with
    | splat key =>
      cases segments with
      | cons next rest => exact absurd hlast.head (by simp [Segment.isSplat])
      | nil =>
        rw [admits_splat_iff] at hadmits
        exact Matches.splat (List.length_pos_iff.1 hadmits)
    | named key =>
      cases tokens with
      | nil => simp [admits] at hadmits
      | cons token tokens =>
        rw [List.length_cons, admits_cons_succ rfl] at hadmits
        exact Matches.named (ih hlast.tail hadmits htail)
    | literal text =>
      cases tokens with
      | nil => simpa [Segment.literal?] using hhead text
      | cons token tokens =>
        rw [List.length_cons, admits_cons_succ rfl] at hadmits
        obtain rfl : token = text := by simpa [Segment.literal?] using hhead text
        exact Matches.literal (ih hlast.tail hadmits htail)

theorem lt_length_of_literalAt? (h : literalAt? segments i = some text) : i < segments.length := by
  rw [literalAt?_eq_some_iff] at h
  exact (List.getElem?_eq_some_iff.1 h).1

/-! ## Sample paths -/

/-- Tokens that a path can have: a separator would cut them, and an empty one at the beginning would
be lost. -/
structure Spellable (tokens : List String) : Prop where
  separator_free : ∀ token ∈ tokens, separator ∉ token.toList
  head_ne : tokens.head? ≠ some ""

theorem Spellable.exists_path (h : Spellable tokens) : ∃ path, pathTokens path = tokens := by
  refine ⟨String.ofList (spread tokens), ?_⟩
  have hspread : (String.ofList (spread tokens)).toList = spread tokens := String.toList_ofList
  refine pathTokens_of_spread hspread h.separator_free ?_
  rw [hspread]
  cases tokens with
  | nil => exact Or.inl rfl
  | cons token rest =>
    -- The second character of the path is the first one of the first token.
    right
    have hne : token.toList ≠ [] := by simpa using h.head_ne
    obtain ⟨c, more, hc⟩ := List.exists_cons_of_ne_nil hne
    refine ⟨c, by simp [spread, hc], ?_⟩
    rintro rfl
    exact h.separator_free token List.mem_cons_self (by simp [hc])

/-- Tokens with the literals of two lists of segments in their places, those of the first list over
those of the second, and a filler where neither has a literal. -/
def sampleTokens (filler : String) (count : Nat) (left right : List Segment) : List String :=
  (List.range count).map fun i =>
    ((literalAt? left i).or (literalAt? right i)).getD filler

section Samples

variable {filler : String} {count : Nat} {left right : List Segment}

@[simp]
theorem length_sampleTokens : (sampleTokens filler count left right).length = count := by
  simp [sampleTokens]

theorem getElem?_sampleTokens (hi : i < count) :
    (sampleTokens filler count left right)[i]? =
      some (((literalAt? left i).or (literalAt? right i)).getD filler) := by
  simp [sampleTokens, hi]

theorem WellFormed.separator_not_mem_literalAt? (hwf : WellFormed segments)
    (h : literalAt? segments i = some text) : separator ∉ text.toList := by
  rw [literalAt?_eq_some_iff] at h
  exact hwf.separator_free _ (List.mem_of_getElem? h)

theorem WellFormed.literalAt?_zero_ne (hwf : WellFormed segments) :
    literalAt? segments 0 ≠ some "" := by
  rw [Ne, literalAt?_eq_some_iff, ← List.head?_eq_getElem?]
  exact hwf.head_ne

/-- The samples of well-formed segments are spelled by paths. -/
theorem spellable_sampleTokens (hleft : WellFormed left) (hright : WellFormed right)
    (hfree : separator ∉ filler.toList) (hne : filler ≠ "") :
    Spellable (sampleTokens filler count left right) where
  separator_free := by
    intro token htoken
    obtain ⟨i, -, rfl⟩ := List.mem_map.1 htoken
    cases hl : literalAt? left i with
    | some text => simpa [hl] using hleft.separator_not_mem_literalAt? hl
    | none =>
      cases hr : literalAt? right i with
      | some text => simpa [hl, hr] using hright.separator_not_mem_literalAt? hr
      | none => simpa [hl, hr] using hfree
  head_ne := by
    cases count with
    | zero => simp [sampleTokens]
    | succ count =>
      -- The token in the first place is a literal in front of a pattern or the filler.
      rw [List.head?_eq_getElem?, getElem?_sampleTokens (Nat.succ_pos count)]
      have hl := hleft.literalAt?_zero_ne
      have hr := hright.literalAt?_zero_ne
      cases hleft' : literalAt? left 0 with
      | some text => simpa [hleft'] using hl
      | none =>
        cases hright' : literalAt? right 0 with
        | some text => simpa [hright'] using hr
        | none => simpa using hne

/-- A sample is matched by the list of segments whose literals go first. -/
theorem matches_sampleTokens_left (hlast : SplatLast left)
    (hadmits : admits ⟨source, left⟩ count = true) :
    Matches left (sampleTokens filler count left right) := by
  refine matches_of_getElem? hlast (by rwa [length_sampleTokens]) ?_
  intro i text htext
  have hi : i < left.length := lt_length_of_literalAt? htext
  have hcount : left.length ≤ count := (admits_iff.1 hadmits).1
  rw [getElem?_sampleTokens (by omega), htext]
  rfl

/-- A sample is matched by the other list of segments if no literals differ in one place. -/
theorem matches_sampleTokens_right (hlast : SplatLast right)
    (hadmits : admits ⟨source, right⟩ count = true)
    (hagree : ∀ i text other, literalAt? left i = some text → literalAt? right i = some other →
      text = other) :
    Matches right (sampleTokens filler count left right) := by
  refine matches_of_getElem? hlast (by rwa [length_sampleTokens]) ?_
  intro i text htext
  have hi : i < right.length := lt_length_of_literalAt? htext
  have hcount : right.length ≤ count := (admits_iff.1 hadmits).1
  rw [getElem?_sampleTokens (by omega), htext]
  cases hleft : literalAt? left i with
  | none => rfl
  | some other => rw [hagree i other text hleft htext]; rfl

/-- Some token without a separator, and not empty, is none of the literals. -/
theorem exists_filler (segments : List Segment) :
    ∃ filler : String, separator ∉ filler.toList ∧ filler ≠ "" ∧
      ∀ i, literalAt? segments i ≠ some filler := by
  -- A text longer than every literal differs from each of them.
  let bound := (segments.map fun segment => segment.text.length).sum
  refine ⟨String.ofList (List.replicate (bound + 1) 'x'), by simp [separator], ?_, ?_⟩
  · rw [Ne, ← String.toList_inj, String.toList_ofList]
    simp
  · intro i h
    rw [literalAt?_eq_some_iff] at h
    have hmem : bound + 1 ∈ segments.map fun segment => segment.text.length :=
      List.mem_map.2 ⟨_, List.mem_of_getElem? h, by simp [Segment.text]⟩
    have hle : bound + 1 ≤ bound := List.single_le_sum (fun _ _ => Nat.zero_le _) _ hmem
    omega

end Samples

end Pattern

/-! ## The criteria -/

/-- A segment takes every token that another one takes: it is named, or both are one literal. -/
def Segment.Covers : Segment → Segment → Prop
  | .named _, _ => True
  | .literal text, .literal other => text = other
  | _, _ => False

instance : DecidableRel Segment.Covers
  | .named _, _ => inferInstanceAs (Decidable True)
  | .literal text, .literal other => inferInstanceAs (Decidable (text = other))
  | .literal _, .named _ => inferInstanceAs (Decidable False)
  | .literal _, .splat _ => inferInstanceAs (Decidable False)
  | .splat _, _ => inferInstanceAs (Decidable False)

/-- Two segments are literals that differ. -/
def Segment.Clashes : Segment → Segment → Prop
  | .literal text, .literal other => text ≠ other
  | _, _ => False

instance : DecidableRel Segment.Clashes
  | .literal text, .literal other => inferInstanceAs (Decidable (text ≠ other))
  | .literal _, .named _ => inferInstanceAs (Decidable False)
  | .literal _, .splat _ => inferInstanceAs (Decidable False)
  | .named _, _ => inferInstanceAs (Decidable False)
  | .splat _, _ => inferInstanceAs (Decidable False)

theorem Segment.clashes_iff {segment other : Segment} :
    segment.Clashes other ↔
      ∃ text, segment = .literal text ∧ ∃ own, other = .literal own ∧ text ≠ own := by
  cases segment <;> cases other <;> simp [Clashes]

theorem Segment.covers_literal_iff {segment : Segment} {text : String} :
    (Segment.literal text).Covers segment ↔ segment = .literal text := by
  cases segment <;> simp [Covers, eq_comm]

namespace Pattern

/-- The segments of `a` cover those of `b`: one by one and without any left over if neither pattern
ends in a splat, and those before the last one of `a` if that is a splat. -/
def Covers (a b : Pattern) : Prop :=
  (a.endsInSplat = false ∧ b.endsInSplat = false ∧ a.segments.length = b.segments.length ∧
    ∀ pair ∈ a.segments.zip b.segments, pair.1.Covers pair.2) ∨
  (a.endsInSplat = true ∧ a.segments.length ≤ b.segments.length ∧
    ∀ pair ∈ a.segments.dropLast.zip b.segments, pair.1.Covers pair.2)

instance : DecidableRel Covers := fun _ _ => inferInstanceAs (Decidable (_ ∨ _))

/-- The numbers of segments exclude each other, or two literals in one place do. -/
def Apart (a b : Pattern) : Prop :=
  (a.endsInSplat = false ∧ b.endsInSplat = false ∧ a.segments.length ≠ b.segments.length) ∨
  (a.endsInSplat = true ∧ b.endsInSplat = false ∧ b.segments.length < a.segments.length) ∨
  (a.endsInSplat = false ∧ b.endsInSplat = true ∧ a.segments.length < b.segments.length) ∨
  ∃ pair ∈ a.segments.zip b.segments, pair.1.Clashes pair.2

instance : DecidableRel Apart := fun _ _ => inferInstanceAs (Decidable (_ ∨ _))

variable {a b : Pattern} {text : String} {tokens : List String} {i : Nat}

theorem mem_zip_iff {left right : List Segment} {pair : Segment × Segment} :
    pair ∈ left.zip right ↔ ∃ i : Nat, left[i]? = some pair.1 ∧ right[i]? = some pair.2 := by
  simp only [List.mem_iff_getElem?, List.getElem?_zip_eq_some]

/-! ## Inclusion -/

/-- Covered segments have the literals that cover them. -/
theorem literalAt?_of_zip {left right : List Segment}
    (hpairs : ∀ pair ∈ left.zip right, pair.1.Covers pair.2)
    (htext : literalAt? left i = some text) (hi : i < right.length) :
    literalAt? right i = some text := by
  rw [literalAt?_eq_some_iff] at htext ⊢
  have hright := List.getElem?_eq_getElem hi
  have hcovers : (Segment.literal text).Covers right[i] :=
    hpairs (.literal text, right[i]) (mem_zip_iff.2 ⟨i, htext, hright⟩)
  rw [hright, Segment.covers_literal_iff.1 hcovers]

/-- A literal of a pattern that ends in a splat stands before the last place. -/
theorem literalAt?_dropLast (hsplat : a.endsInSplat = true)
    (htext : literalAt? a.segments i = some text) :
    literalAt? a.segments.dropLast i = some text := by
  rw [literalAt?_eq_some_iff] at htext ⊢
  rw [List.getElem?_dropLast, if_pos ?_, htext]
  by_contra hlast
  have hi := (List.getElem?_eq_some_iff.1 htext).1
  have : a.segments.getLast? = some (.literal text) := by
    rw [List.getLast?_eq_getElem?, ← htext]
    congr 1
    omega
  simp [endsInSplat, this, Segment.isSplat] at hsplat

theorem matches_of_covers (hlast : SplatLast a.segments) (hcovers : Covers a b)
    (h : Matches b.segments tokens) : Matches a.segments tokens := by
  have hadmits : b.admits tokens.length = true := admits_of_matches h
  obtain ⟨hlength, hplain⟩ := admits_iff.1 hadmits
  -- In both cases the number of tokens is admitted, and each literal stands in the covered pattern,
  -- so that the tokens have it.
  rcases hcovers with ⟨-, hb, hcount, hpairs⟩ | ⟨ha, hcount, hpairs⟩
  · have hadmits' : a.admits tokens.length = true := by
      rw [admits_iff, hcount]
      exact ⟨hlength, fun _ => hplain hb⟩
    refine matches_of_getElem? hlast hadmits' ?_
    intro i text htext
    have hi := lt_length_of_literalAt? htext
    exact getElem?_of_matches h (literalAt?_of_zip hpairs htext (by omega))
  · have hadmits' : a.admits tokens.length = true := by
      rw [admits_iff, ha]
      exact ⟨by omega, by simp⟩
    refine matches_of_getElem? hlast hadmits' ?_
    intro i text htext
    have hi := lt_length_of_literalAt? htext
    exact getElem?_of_matches h
      (literalAt?_of_zip hpairs (literalAt?_dropLast ha htext) (by omega))

/-- If a pattern matches a sample of another one, with a filler that is none of its literals, then
its segments that are no splats cover those in their places. -/
theorem covers_of_matches_sampleTokens {filler : String} {count : Nat}
    (hfresh : ∀ i, literalAt? a.segments i ≠ some filler)
    (h : Matches a.segments (sampleTokens filler count b.segments b.segments))
    {segment other : Segment} (hsegment : a.segments[i]? = some segment)
    (hother : b.segments[i]? = some other) (hsplat : segment.isSplat = false) :
    segment.Covers other := by
  cases segment with
  | splat key => simp [Segment.isSplat] at hsplat
  | named key => trivial
  | literal text =>
    have htext : literalAt? a.segments i = some text := literalAt?_eq_some_iff.2 hsegment
    have htoken := getElem?_of_matches h htext
    have hi : i < count := by
      obtain ⟨hi, -⟩ := List.getElem?_eq_some_iff.1 htoken
      rwa [length_sampleTokens] at hi
    rw [getElem?_sampleTokens hi] at htoken
    -- The token comes from a literal of the other pattern, since the filler would not match.
    cases hliteral : literalAt? b.segments i with
    | none =>
      obtain rfl : filler = text := by simpa [hliteral] using htoken
      exact absurd htext (hfresh i)
    | some own =>
      obtain rfl : own = text := by simpa [hliteral] using htoken
      rw [literalAt?_eq_some_iff, hother] at hliteral
      exact Segment.covers_literal_iff.2 (Option.some.inj hliteral)

theorem isSplat_eq_false_of_endsInSplat (hlast : SplatLast a.segments)
    (ha : a.endsInSplat = false) {segment : Segment} (h : segment ∈ a.segments) :
    segment.isSplat = false := by
  -- The segments before the last one are no splats in any pattern.
  have hne : a.segments ≠ [] := List.ne_nil_of_mem h
  rw [← List.dropLast_append_getLast hne, List.mem_append, List.mem_singleton] at h
  rcases h with h | rfl
  · exact hlast segment h
  · simpa [endsInSplat, List.getLast?_eq_some_getLast hne] using ha

/-- A pattern that matches all samples of another one covers it. -/
theorem covers_of_forall_matches (ha : WellFormed a.segments) (hb : WellFormed b.segments)
    (h : ∀ tokens, Spellable tokens → Matches b.segments tokens → Matches a.segments tokens) :
    Covers a b := by
  obtain ⟨filler, hfree, hne, hfresh⟩ := exists_filler a.segments
  have hsample : ∀ count, b.admits count = true →
      Matches a.segments (sampleTokens filler count b.segments b.segments) := by
    intro count hadmits
    exact h _ (spellable_sampleTokens hb hb hfree hne)
      (matches_sampleTokens_left hb.splat_last hadmits)
  have hcount : ∀ count, b.admits count = true → a.admits count = true := by
    intro count hadmits
    have hlength : a.admits (sampleTokens filler count b.segments b.segments).length = true :=
      admits_of_matches (hsample count hadmits)
    rwa [length_sampleTokens] at hlength
  -- The shortest sample has as many tokens as `b` has segments.
  have hshortest : b.admits b.segments.length = true := admits_iff.2 ⟨Nat.le_refl _, fun _ => rfl⟩
  have hmatches := hsample _ hshortest
  cases hsplat : a.endsInSplat with
  | true =>
    refine Or.inr ⟨hsplat, (admits_iff.1 (hcount _ hshortest)).1, ?_⟩
    intro pair hpair
    obtain ⟨i, hleft, hright⟩ := mem_zip_iff.1 hpair
    have hsegment : a.segments[i]? = some pair.1 := by
      rw [List.getElem?_dropLast] at hleft
      split at hleft
      · exact hleft
      · cases hleft
    exact covers_of_matches_sampleTokens hfresh hmatches hsegment hright
      (ha.splat_last _ (List.mem_of_getElem? hleft))
  | false =>
    have hlength := (admits_iff.1 (hcount _ hshortest)).2 hsplat
    refine Or.inl ⟨hsplat, ?_, hlength, ?_⟩
    · -- With a splat `b` would match one token more, and `a` could not have both numbers.
      by_contra hb'
      have hadmits : b.admits (b.segments.length + 1) = true :=
        admits_iff.2 ⟨Nat.le_succ _, fun hfalse => absurd hfalse hb'⟩
      have hmore := (admits_iff.1 (hcount _ hadmits)).2 hsplat
      omega
    · intro pair hpair
      obtain ⟨i, hleft, hright⟩ := mem_zip_iff.1 hpair
      exact covers_of_matches_sampleTokens hfresh hmatches hleft hright
        (isSplat_eq_false_of_endsInSplat ha.splat_last hsplat (List.mem_of_getElem? hleft))

/-- Every path of a pattern is one of another pattern exactly if the other one covers it. -/
theorem forall_match?_iff_covers (ha : WellFormed a.segments) (hb : WellFormed b.segments) :
    (∀ path, (b.match? path).isSome → (a.match? path).isSome) ↔ Covers a b := by
  constructor
  · intro h
    refine covers_of_forall_matches ha hb ?_
    intro tokens hspell hmatches
    obtain ⟨path, rfl⟩ := hspell.exists_path
    rw [← isSome_match?_iff ha.splat_last]
    exact h path ((isSome_match?_iff hb.splat_last path).2 hmatches)
  · intro hcovers path hmatch
    rw [isSome_match?_iff ha.splat_last]
    exact matches_of_covers ha.splat_last hcovers ((isSome_match?_iff hb.splat_last path).1 hmatch)

/-! ## Disjointness -/

theorem not_matches_of_apart (hapart : Apart a b) (ha : Matches a.segments tokens)
    (hb : Matches b.segments tokens) : False := by
  have hadmits : a.admits tokens.length = true := admits_of_matches ha
  have hadmits' : b.admits tokens.length = true := admits_of_matches hb
  rw [admits_iff] at hadmits hadmits'
  rcases hapart with ⟨hplain, hplain', hcount⟩ | ⟨-, hplain', hcount⟩ | ⟨hplain, -, hcount⟩ |
    ⟨⟨segment, other⟩, hpair, hclash⟩
  · have := hadmits.2 hplain
    have := hadmits'.2 hplain'
    omega
  · have := hadmits'.2 hplain'
    omega
  · have := hadmits.2 hplain
    omega
  · -- The tokens would have both literals in one place.
    obtain ⟨i, hleft, hright⟩ := mem_zip_iff.1 hpair
    obtain ⟨text, rfl, own, rfl, hne⟩ := Segment.clashes_iff.1 hclash
    have htoken := getElem?_of_matches ha (literalAt?_eq_some_iff.2 hleft)
    have htoken' := getElem?_of_matches hb (literalAt?_eq_some_iff.2 hright)
    exact hne (Option.some.inj (htoken.symm.trans htoken'))

/-- Patterns that are not apart match a sample of both. -/
theorem exists_matches_of_not_apart (ha : WellFormed a.segments) (hb : WellFormed b.segments)
    (hapart : ¬ Apart a b) :
    ∃ tokens, Spellable tokens ∧ Matches a.segments tokens ∧ Matches b.segments tokens := by
  simp only [Apart, not_or, not_and, not_lt, ne_eq, Decidable.not_not] at hapart
  obtain ⟨hplain, hleft, hright, hclash⟩ := hapart
  -- The longer pattern says how many tokens there are.
  obtain ⟨count, hcount⟩ : ∃ count, count = max a.segments.length b.segments.length := ⟨_, rfl⟩
  have hadmits : a.admits count = true := by
    refine admits_iff.2 ⟨by omega, fun ha => ?_⟩
    cases hb : b.endsInSplat with
    | false =>
      have := hplain ha hb
      omega
    | true =>
      have := hright ha hb
      omega
  have hadmits' : b.admits count = true := by
    refine admits_iff.2 ⟨by omega, fun hb => ?_⟩
    cases ha : a.endsInSplat with
    | false =>
      have := hplain ha hb
      omega
    | true =>
      have := hleft ha hb
      omega
  have hagree : ∀ i text other, literalAt? a.segments i = some text →
      literalAt? b.segments i = some other → text = other := by
    intro i text other htext hother
    rw [literalAt?_eq_some_iff] at htext hother
    by_contra hne
    exact hclash ⟨(.literal text, .literal other), mem_zip_iff.2 ⟨i, htext, hother⟩, hne⟩
  exact ⟨sampleTokens "x" count a.segments b.segments,
    spellable_sampleTokens ha hb (by decide) (by decide),
    matches_sampleTokens_left ha.splat_last hadmits,
    matches_sampleTokens_right hb.splat_last hadmits' hagree⟩

/-- Two patterns have no path in common exactly if they are apart. -/
theorem forall_not_match?_iff_apart (ha : WellFormed a.segments) (hb : WellFormed b.segments) :
    (∀ path, ¬ ((a.match? path).isSome ∧ (b.match? path).isSome)) ↔ Apart a b := by
  constructor
  · intro h
    by_contra hapart
    obtain ⟨tokens, hspell, hmatches, hmatches'⟩ := exists_matches_of_not_apart ha hb hapart
    obtain ⟨path, rfl⟩ := hspell.exists_path
    exact h path ⟨(isSome_match?_iff ha.splat_last path).2 hmatches,
      (isSome_match?_iff hb.splat_last path).2 hmatches'⟩
  · rintro hapart path ⟨hmatch, hmatch'⟩
    exact not_matches_of_apart hapart ((isSome_match?_iff ha.splat_last path).1 hmatch)
      ((isSome_match?_iff hb.splat_last path).1 hmatch')

end Pattern

end PatternRouter
