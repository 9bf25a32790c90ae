import Mathlib.Data.List.DropRight
import PatternRouter.Text.Pieces

/-!
# Texts cut at a separator, in the terms of the list library

`pieces`, `joinWith` and `trim` are the `splitOn`, `intercalate`, `dropWhile` and `rdropWhile` of
lists, so what is known of those holds of them. Patterns and paths both cut a trimmed text, where an
empty text has no piece at all: that is `tokens`.

* `pieces_eq_splitOn`, `joinWith_eq_intercalate`, `trim_eq`: the agreement with the library.
* `joinWith_tokens`: joining the tokens of a text gives the text back.
* `tokens_joinWith`: tokens without a separator, the first of them not empty, are the tokens of
  what they join to.
-/

namespace PatternRouter.Text

theorem pieces_eq_splitOn (sep : Char) (text : List Char) : pieces sep text = text.splitOn sep := by
  induction text with
  | nil => rfl
  | cons c rest ih =>
    rw [pieces, ih, List.splitOn_cons_eq_if_modifyHead]
    simp only [beq_iff_eq]
    split
    · rfl
    · -- Both put the character on the first piece of the rest, and the rest has a first piece.
      cases h : rest.splitOn sep with
      | nil => exact absurd h (List.splitOn_ne_nil sep rest)
      | cons piece more => rfl

theorem joinWith_eq_intercalate (sep : Char) (texts : List (List Char)) :
    joinWith sep texts = [sep].intercalate texts := by
  induction texts with
  | nil => rfl
  | cons text more ih =>
    cases more with
    | nil => rw [joinWith, List.intercalate_singleton]
    | cons next others =>
      rw [joinWith, ih, List.intercalate_cons_cons, List.append_assoc, List.singleton_append]
      exact List.cons_ne_nil next others

/-- Texts without a separator are the pieces of what they join to. -/
theorem pieces_joinWith {sep : Char} {texts : List (List Char)} (hsep : ∀ text ∈ texts, sep ∉ text)
    (hne : texts ≠ []) : pieces sep (joinWith sep texts) = texts := by
  rw [pieces_eq_splitOn, joinWith_eq_intercalate]
  exact List.splitOn_intercalate sep hsep hne

theorem joinWith_cons {sep : Char} (text : List Char) {more : List (List Char)} (h : more ≠ []) :
    joinWith sep (text :: more) = text ++ sep :: joinWith sep more := by
  rw [joinWith]
  exact h

theorem joinWith_concat {sep : Char} {texts : List (List Char)} (h : texts ≠ [])
    (text : List Char) :
    joinWith sep (texts ++ [text]) = joinWith sep texts ++ sep :: text := by
  induction texts with
  | nil => exact absurd rfl h
  | cons first more ih =>
    by_cases hmore : more = []
    · subst hmore
      simp [joinWith]
    · rw [List.cons_append, joinWith_cons first (by simp), ih hmore, joinWith_cons first hmore,
        List.append_assoc, List.cons_append]

/-- Separators may be put before the texts instead of between them. -/
theorem cons_joinWith {sep : Char} {texts : List (List Char)} (h : texts ≠ []) :
    sep :: joinWith sep texts = texts.flatMap (sep :: ·) := by
  induction texts with
  | nil => exact absurd rfl h
  | cons text more ih =>
    by_cases hmore : more = []
    · subst hmore
      simp [joinWith]
    · rw [joinWith_cons text hmore, ih hmore, List.flatMap_cons, List.cons_append]

theorem trim_eq (sep : Char) (text : List Char) :
    trim sep text = (text.dropWhile (· == sep)).rdropWhile (· == sep) := rfl

theorem head?_trimStart_ne (sep : Char) (text : List Char) :
    (trimStart sep text).head? ≠ some sep := by
  intro h
  have hnot := List.head?_dropWhile_not (· == sep) text
  rw [trimStart] at h
  rw [h] at hnot
  simp at hnot

theorem trimStart_eq_self {sep : Char} {text : List Char} (h : text.head? ≠ some sep) :
    trimStart sep text = text := by
  cases text with
  | nil => rfl
  | cons c rest =>
    have hc : (c == sep) = false := by simpa using h
    rw [trimStart, List.dropWhile_cons, hc]
    rfl

@[simp]
theorem trimStart_cons_self (sep : Char) (text : List Char) :
    trimStart sep (sep :: text) = trimStart sep text := by
  simp [trimStart]

theorem trimStart_eq_nil_iff (sep : Char) (text : List Char) :
    trimStart sep text = [] ↔ ∀ c ∈ text, c = sep := by
  simp [trimStart, List.dropWhile_eq_nil_iff]

/-- A text behind separators is trimmed as if they were not there. -/
theorem trimStart_replicate_append (sep : Char) (n : Nat) (text : List Char) :
    trimStart sep (List.replicate n sep ++ text) = trimStart sep text := by
  rw [trimStart, List.dropWhile_append_of_pos, trimStart]
  intro c hc
  exact beq_iff_eq.2 (List.eq_of_mem_replicate hc)

/-- What follows a text that is not all separators is kept. -/
theorem trimStart_append {sep : Char} {text : List Char} (h : trimStart sep text ≠ [])
    (more : List Char) : trimStart sep (text ++ more) = trimStart sep text ++ more := by
  rw [trimStart, List.dropWhile_append, if_neg (by simpa [trimStart] using h), trimStart]

theorem trim_replicate_append (sep : Char) (n : Nat) (text : List Char) :
    trim sep (List.replicate n sep ++ text) = trim sep text := by
  rw [trim, trimStart_replicate_append, trim]

/-- Separators behind a text are trimmed, also if the text is made of separators. -/
theorem trim_append_replicate (sep : Char) (text : List Char) (n : Nat) :
    trim sep (text ++ List.replicate n sep) = trim sep text := by
  by_cases h : trimStart sep text = []
  · have hall : ∀ c ∈ text, c = sep := (trimStart_eq_nil_iff sep text).1 h
    have hmore : trimStart sep (text ++ List.replicate n sep) = [] := by
      rw [trimStart_eq_nil_iff]
      intro c hc
      rcases List.mem_append.1 hc with hc | hc
      · exact hall c hc
      · exact List.eq_of_mem_replicate hc
    rw [trim, hmore, trim, h]
  · rw [trim, trimStart_append h, List.reverse_append, List.reverse_replicate,
      trimStart_replicate_append, trim]

theorem trim_eq_self {sep : Char} {text : List Char} (hhead : text.head? ≠ some sep)
    (hlast : text.getLast? ≠ some sep) : trim sep text = text := by
  rw [trim, trimStart_eq_self hhead, trimStart_eq_self, List.reverse_reverse]
  rwa [List.head?_reverse]

theorem getLast?_trim_ne (sep : Char) (text : List Char) : (trim sep text).getLast? ≠ some sep := by
  rw [trim, List.getLast?_reverse]
  exact head?_trimStart_ne sep _

theorem head?_trim_ne (sep : Char) (text : List Char) : (trim sep text).head? ≠ some sep := by
  intro h
  -- Trimming the end keeps a prefix, whose beginning is that of the whole.
  obtain ⟨front, hfront⟩ : trim sep text <+: trimStart sep text := by
    rw [trim_eq, trimStart]
    exact List.rdropWhile_prefix _ _
  apply head?_trimStart_ne sep text
  rw [← hfront, List.head?_append, h]
  rfl

/-- A text without a separator is not cut. -/
theorem cutAt_of_not_mem {sep : Char} {text : List Char} (h : sep ∉ text) :
    cutAt sep text = (text, none) := by
  induction text with
  | nil => rfl
  | cons c text ih =>
    rw [List.mem_cons, not_or] at h
    rw [cutAt, if_neg (Ne.symm h.1), ih h.2]

/-- A text is cut at its first separator. -/
theorem cutAt_append_cons {sep : Char} {text : List Char} (h : sep ∉ text) (rest : List Char) :
    cutAt sep (text ++ sep :: rest) = (text, some rest) := by
  induction text with
  | nil => rw [List.nil_append, cutAt, if_pos rfl]
  | cons c text ih =>
    rw [List.mem_cons, not_or] at h
    rw [List.cons_append, cutAt, if_neg (Ne.symm h.1), ih h.2]

@[simp]
theorem map_toList_map_ofList (texts : List (List Char)) :
    (texts.map String.ofList).map String.toList = texts := by
  rw [List.map_map]
  exact List.map_id'' (fun _ => String.toList_ofList) texts

/-! ## Texts that are continued -/

/-- A continuation of joined texts changes the pieces of the last ones only. -/
theorem pieces_joinWith_append {sep : Char} {front back : List (List Char)}
    (hfront : ∀ text ∈ front, sep ∉ text) (hback : back ≠ []) (more : List Char) :
    pieces sep (joinWith sep (front ++ back) ++ more) =
      front ++ pieces sep (joinWith sep back ++ more) := by
  induction front with
  | nil => rfl
  | cons text front ih =>
    rw [List.forall_mem_cons] at hfront
    have hne : front ++ back ≠ [] := List.append_ne_nil_of_right_ne_nil front hback
    rw [List.cons_append, joinWith_cons text hne, List.append_assoc, List.cons_append,
      pieces_eq_splitOn, List.splitOn_append_cons_self_of_not_mem hfront.1, ← pieces_eq_splitOn,
      ih hfront.2, List.cons_append]

/-- A text has one piece more than separators. -/
theorem length_pieces (sep : Char) (text : List Char) :
    (pieces sep text).length = text.count sep + 1 := by
  induction text with
  | nil => rfl
  | cons c text ih =>
    rw [pieces_eq_splitOn] at ih ⊢
    rw [List.splitOn_cons_eq_if_modifyHead, List.count_cons]
    split
    · rw [List.length_cons, ih]
    · rw [List.length_modifyHead, ih, Nat.add_zero]

/-! ## Tokens -/

/-- The texts between the separators of a text. An empty text has none. -/
def tokens (sep : Char) (text : List Char) : List (List Char) :=
  if text = [] then [] else text.splitOn sep

theorem not_mem_of_mem_tokens {sep : Char} {text token : List Char}
    (h : token ∈ tokens sep text) : sep ∉ token := by
  unfold tokens at h
  split at h
  · simp at h
  · exact not_mem_of_mem_pieces (pieces_eq_splitOn sep text ▸ h)

/-- Joining the tokens of a text gives the text back. -/
theorem joinWith_tokens (sep : Char) (text : List Char) :
    joinWith sep (tokens sep text) = text := by
  unfold tokens
  split
  · next h => rw [h, joinWith]
  · rw [joinWith_eq_intercalate, List.intercalate_splitOn]

/-- Tokens without a separator, the first of them not empty, are the tokens of what they join to. -/
theorem tokens_joinWith {sep : Char} {texts : List (List Char)} (hsep : ∀ text ∈ texts, sep ∉ text)
    (hhead : texts.head? ≠ some []) : tokens sep (joinWith sep texts) = texts := by
  cases texts with
  | nil => rfl
  | cons text more =>
    -- A single empty text would join to the empty text, which has no token.
    have hne : joinWith sep (text :: more) ≠ [] := by
      by_cases hmore : more = []
      · subst hmore
        simpa [joinWith] using hhead
      · rw [joinWith_cons text hmore]
        simp
    rw [tokens, if_neg hne, ← pieces_eq_splitOn, pieces_joinWith hsep (List.cons_ne_nil text more)]

theorem head?_joinWith {sep : Char} {text : List Char} (more : List (List Char)) (h : text ≠ []) :
    (joinWith sep (text :: more)).head? = text.head? := by
  by_cases hmore : more = []
  · rw [hmore, joinWith]
  · rw [joinWith_cons text hmore, List.head?_append_of_ne_nil _ h]

theorem getLast?_joinWith {sep : Char} {texts : List (List Char)} {text : List Char}
    (hlast : texts.getLast? = some text) (h : text ≠ []) :
    (joinWith sep texts).getLast? = text.getLast? := by
  obtain ⟨front, rfl⟩ := List.getLast?_eq_some_iff.1 hlast
  by_cases hfront : front = []
  · rw [hfront, List.nil_append, joinWith]
  · rw [joinWith_concat hfront, List.getLast?_append_of_ne_nil _ (List.cons_ne_nil sep text),
      List.getLast?_cons_of_ne_nil h]

theorem head?_tokens_ne {sep : Char} {text : List Char} (h : text.head? ≠ some sep) :
    (tokens sep text).head? ≠ some [] := by
  intro hhead
  obtain ⟨more, htokens⟩ := List.head?_eq_some_iff.1 hhead
  have htext := joinWith_tokens sep text
  rw [htokens] at htext
  -- An empty first token leaves nothing of the text, or a separator at its beginning.
  by_cases hmore : more = []
  · rw [hmore, joinWith] at htext
    simp [tokens, ← htext] at htokens
  · rw [joinWith_cons [] hmore, List.nil_append] at htext
    exact h (by rw [← htext]; rfl)

theorem getLast?_tokens_ne {sep : Char} {text : List Char} (h : text.getLast? ≠ some sep) :
    (tokens sep text).getLast? ≠ some [] := by
  intro hlast
  obtain ⟨front, htokens⟩ := List.getLast?_eq_some_iff.1 hlast
  have htext := joinWith_tokens sep text
  rw [htokens] at htext
  -- An empty last token leaves nothing of the text, or a separator at its end.
  by_cases hfront : front = []
  · rw [hfront, List.nil_append, joinWith] at htext
    simp [tokens, ← htext] at htokens
  · rw [joinWith_concat hfront] at htext
    exact h (by rw [← htext, List.getLast?_concat])

end PatternRouter.Text
