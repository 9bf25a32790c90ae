/-!
# Texts cut at a separator

A text of characters is cut into the pieces between the occurrences of one separator, and the
pieces are put together again. Empty pieces count: a text with `n` separators has `n + 1` pieces.

* `joinWith_pieces`: putting the pieces of a text together gives the text back.
* `pieces_ne_nil`: every text has at least one piece.
* `not_mem_of_mem_pieces`: no piece contains the separator.
-/

namespace PatternRouter.Text

/-- The pieces of a text between the occurrences of `sep`. -/
def pieces (sep : Char) : List Char → List (List Char)
  | [] => [[]]
  | c :: rest =>
    if c = sep then [] :: pieces sep rest
    else
      match pieces sep rest with
      | [] => [[c]]
      | piece :: more => (c :: piece) :: more

/-- Pieces put together, with `sep` between each two. -/
def joinWith (sep : Char) : List (List Char) → List Char
  | [] => []
  | [piece] => piece
  | piece :: more => piece ++ sep :: joinWith sep more

/-- The text before the first `sep` and the text after it; a text without `sep` has no second part. -/
def cutAt (sep : Char) : List Char → List Char × Option (List Char)
  | [] => ([], none)
  | c :: rest =>
    if c = sep then ([], some rest)
    else
      let (before, after) := cutAt sep rest
      (c :: before, after)

/-- A text without the occurrences of `sep` that lead it. -/
def trimStart (sep : Char) (text : List Char) : List Char :=
  text.dropWhile (· == sep)

/-- A text without the occurrences of `sep` that lead or close it. -/
def trim (sep : Char) (text : List Char) : List Char :=
  (trimStart sep (trimStart sep text).reverse).reverse

/-- Every text has at least one piece. -/
theorem pieces_ne_nil (sep : Char) (text : List Char) : pieces sep text ≠ [] := by
  cases text with
  | nil => simp [pieces]
  | cons c rest =>
    simp only [pieces]
    split
    · simp
    · split <;> simp

/-- Putting the pieces of a text together gives the text back. -/
theorem joinWith_pieces (sep : Char) (text : List Char) :
    joinWith sep (pieces sep text) = text := by
  induction text with
  | nil => rfl
  | cons c rest ih =>
    simp only [pieces]
    split
    · rename_i h
      cases hp : pieces sep rest with
      | nil => exact absurd hp (pieces_ne_nil sep rest)
      | cons piece more => rw [hp] at ih; simp [joinWith, ih, h]
    · split
      · rename_i hp; exact absurd hp (pieces_ne_nil sep rest)
      · rename_i piece more hp
        rw [hp] at ih
        cases more with
        | nil => simpa [joinWith] using ih
        | cons next others => simpa [joinWith] using ih

/-- No piece contains the separator. -/
theorem not_mem_of_mem_pieces {sep : Char} {text piece : List Char}
    (h : piece ∈ pieces sep text) : sep ∉ piece := by
  induction text generalizing piece with
  | nil => simp [pieces] at h; simp [h]
  | cons c rest ih =>
    simp only [pieces] at h
    split at h
    · rcases List.mem_cons.1 h with rfl | h
      · simp
      · exact ih h
    · rename_i hc
      split at h
      · rename_i hp; exact absurd hp (pieces_ne_nil sep rest)
      · rename_i first more hp
        rcases List.mem_cons.1 h with rfl | h
        · have : sep ∉ first := ih (by simp [hp])
          simp [this, Ne.symm hc]
        · exact ih (by simp [hp, h])

end PatternRouter.Text
