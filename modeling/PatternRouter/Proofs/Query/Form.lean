import Mathlib.Data.List.Forall2
import PatternRouter.Proofs.Encoding.Percent
import PatternRouter.Proofs.Text.Splitting
import PatternRouter.Query

/-!
# Query strings as forms

A query string is read piece by piece, and a key has the first value that some piece gives it. So a
query that is put together from others is their union, in which the first of them wins, and what a
query says of a key depends on the pieces with this key alone.

A form is written as such a query. There is freedom in it: a space is a plus sign or escaped, the
characters that have a meaning must be escaped, and all others may be.

The module introduces:

* `SpellsComponent`, `SpellsPiece`, `SpellsForm`: the spellings of a text, of a key with its value,
  and of a list of these;
* `get?_flatten`: a key has the first value that the pieces give it;
* `get?_flatten_append`: putting queries together;
* `pairs_of_spellsForm`: a form that is spelled is read as it is.

The main result is `flatten_union_inverts_forms`.
-/

namespace PatternRouter.Query

variable {delimiters text component : List Char} {query piece : String}

/-! ## The first value of a key -/

theorem get?_foldl_insertNew (entries : List (String × String)) (params : Params) (key : String) :
    (entries.foldl (fun params (key, value) => params.insertNew key value) params).get? key =
      (params.get? key).or (entries.lookup key) := by
  induction entries generalizing params with
  | nil => rw [List.foldl_nil, List.lookup_nil, Option.or_none]
  | cons entry entries ih =>
    obtain ⟨k, value⟩ := entry
    rw [List.foldl_cons, ih, Params.get?_insertNew, List.lookup_cons]
    by_cases hkey : key = k
    · -- The key is bound now, if it was not before, and no later entry changes it.
      subst hkey
      cases params.get? key <;> simp
    · rw [if_neg hkey, beq_false_of_ne hkey]

/-- A key has the first value that the query gives it. -/
theorem get?_flatten (query key : String) :
    (flatten query).get? key = (pairs query).lookup key := by
  rw [flatten, get?_foldl_insertNew, Params.get?_empty, Option.none_or]

/-! ## Queries put together -/

theorem pairs_append (a b : String) : pairs (a ++ "&" ++ b) = pairs a ++ pairs b := by
  have htext : (a ++ "&" ++ b).toList = a.toList ++ '&' :: b.toList := by simp
  simp only [pairs, htext, Text.pieces_eq_splitOn]
  rw [List.splitOn_append_cons_self, List.filter_append, List.map_append]

theorem pairs_intercalate (texts : List String) :
    pairs ("&".intercalate texts) = texts.flatMap pairs := by
  induction texts with
  | nil => rfl
  | cons text texts ih =>
    by_cases hnil : texts = []
    · subst hnil
      rw [String.intercalate_singleton, List.flatMap_singleton]
    · rw [String.intercalate_cons_of_ne_nil hnil, pairs_append, ih, List.flatMap_cons]

/-- Of queries that are put together, the first that has a key decides. -/
theorem get?_flatten_append (a b key : String) :
    (flatten (a ++ "&" ++ b)).get? key = ((flatten a).get? key).or ((flatten b).get? key) := by
  rw [get?_flatten, get?_flatten, get?_flatten, pairs_append, List.lookup_append]

/-- Empty pieces say nothing. -/
theorem pairs_filter_ne_empty (texts : List String) :
    pairs ("&".intercalate (texts.filter (· ≠ ""))) = pairs ("&".intercalate texts) := by
  rw [pairs_intercalate, pairs_intercalate]
  induction texts with
  | nil => rfl
  | cons text texts ih =>
    by_cases hempty : text = ""
    · subst hempty
      exact ih
    · rw [List.filter_cons_of_pos (by simpa using hempty), List.flatMap_cons, List.flatMap_cons, ih]

/-- The key of a piece, decoded. -/
def pieceKey (piece : String) : String :=
  (decodePiece piece.toList).1

/-- A text without separators is one piece. -/
theorem pairs_piece (h : '&' ∉ piece.toList) :
    pairs piece = if piece = "" then [] else [decodePiece piece.toList] := by
  rw [pairs, Text.pieces_eq_splitOn, List.splitOn_eq_singleton h]
  by_cases hempty : piece = ""
  · subst hempty
    rfl
  · have htext : piece.toList ≠ [] := fun hnil => hempty (String.toList_eq_nil_iff.1 hnil)
    rw [if_neg hempty, List.filter_cons_of_pos (by simpa using htext)]
    rfl

theorem lookup_pairs_piece (h : '&' ∉ piece.toList) {key : String}
    (hkey : piece ≠ "" → pieceKey piece ≠ key) : (pairs piece).lookup key = none := by
  rw [pairs_piece h]
  split
  · rfl
  · next hne =>
    have hother : key ≠ (decodePiece piece.toList).1 := (hkey hne).symm
    rw [List.lookup_singleton, beq_false_of_ne hother]
    rfl

/-- Pieces with different keys may stand in any order. -/
theorem lookup_flatMap_pairs_perm {pieces pieces' : List String} (hperm : pieces.Perm pieces')
    (hfree : ∀ piece ∈ pieces, '&' ∉ piece.toList)
    (hkeys : pieces.Pairwise fun a b => a ≠ "" → b ≠ "" → pieceKey a ≠ pieceKey b)
    (key : String) : (pieces.flatMap pairs).lookup key = (pieces'.flatMap pairs).lookup key := by
  induction hperm with
  | nil => rfl
  | cons piece _ ih =>
    rw [List.flatMap_cons, List.flatMap_cons, List.lookup_append, List.lookup_append]
    rw [ih (fun other hother => hfree other (List.mem_cons_of_mem piece hother)) hkeys.of_cons]
  | swap a b pieces =>
    have ha : '&' ∉ a.toList := hfree a (by simp)
    have hb : '&' ∉ b.toList := hfree b (by simp)
    have hab : b ≠ "" → a ≠ "" → pieceKey b ≠ pieceKey a :=
      (List.pairwise_cons.1 hkeys).1 a List.mem_cons_self
    simp only [List.flatMap_cons, List.lookup_append]
    -- Only one of the two can have the key, so it does not matter which is asked first.
    by_cases hkey : b ≠ "" → pieceKey b ≠ key
    · simp only [lookup_pairs_piece hb hkey, Option.none_or]
    · rw [Classical.not_imp, not_not] at hkey
      obtain ⟨hne, rfl⟩ := hkey
      have hnone := lookup_pairs_piece ha fun hne' => (hab hne hne').symm
      simp only [hnone, Option.none_or]
  | trans hfirst _ ih ih' =>
    have hsymm : ∀ {a b : String}, (a ≠ "" → b ≠ "" → pieceKey a ≠ pieceKey b) →
        b ≠ "" → a ≠ "" → pieceKey b ≠ pieceKey a := fun h hb ha => (h ha hb).symm
    rw [ih hfree hkeys, ih']
    · exact fun piece hpiece => hfree piece (hfirst.mem_iff.2 hpiece)
    · exact (hfirst.pairwise_iff hsymm).1 hkeys

/-! ## Spellings -/

/-- A component of a form spells a text. A space may be a plus sign, any character may be escaped,
and percent signs, plus signs and the delimiters must be. All bytes of a character are escaped
together. -/
inductive SpellsComponent (delimiters : List Char) : List Char → List Char → Prop
  | nil : SpellsComponent delimiters [] []
  | plain {c : Char} {text component : List Char} :
      c ≠ '%' → c ≠ '+' → c ∉ delimiters → SpellsComponent delimiters text component →
      SpellsComponent delimiters (c :: text) (c :: component)
  | space {text component : List Char} :
      SpellsComponent delimiters text component →
      SpellsComponent delimiters (' ' :: text) ('+' :: component)
  | escaped {c : Char} {text component : List Char} {escapes : List UInt8} :
      Percent.Escapes (String.utf8EncodeChar c) escapes →
      SpellsComponent delimiters text component →
      SpellsComponent delimiters (c :: text)
        (escapes.map (fun b => Char.ofNat b.toNat) ++ component)

/-- The characters that end a key. -/
def keyDelimiters : List Char := ['&', '=']

/-- The character that ends a value. Equal signs have no meaning in a value. -/
def valueDelimiters : List Char := ['&']

/-- A piece of a query spells a key with its value: both are spelled, with an equal sign between. -/
def SpellsPiece (entry : String × String) (piece : String) : Prop :=
  ∃ key value, SpellsComponent keyDelimiters entry.1.toList key ∧
    SpellsComponent valueDelimiters entry.2.toList value ∧ piece.toList = key ++ '=' :: value

/-- A query spells keys with their values: each is a piece, in their order. -/
def SpellsForm (entries : List (String × String)) (query : String) : Prop :=
  ∃ pieces, List.Forall₂ SpellsPiece entries pieces ∧ query = "&".intercalate pieces

theorem map_plusToSpace_of_not_mem {bytes : List UInt8} (h : 0x2B ∉ bytes) :
    bytes.map plusToSpace = bytes := by
  have hsame : ∀ b ∈ bytes, plusToSpace b = id b := by
    intro b hb
    apply if_neg
    rintro rfl
    exact h hb
  rw [List.map_congr_left hsame, List.map_id]

namespace SpellsComponent

/-- Any text can be spelled, since all of it can be escaped. -/
theorem exists_component (delimiters text : List Char) :
    ∃ component, SpellsComponent delimiters text component := by
  induction text with
  | nil => exact ⟨[], .nil⟩
  | cons c text ih =>
    obtain ⟨component, hcomponent⟩ := ih
    obtain ⟨escapes, hescapes⟩ := Percent.Escapes.exists_escapes (String.utf8EncodeChar c)
    exact ⟨_, .escaped hescapes hcomponent⟩

/-- A delimiter that no escape holds stands nowhere in a spelling. -/
theorem not_mem (h : SpellsComponent delimiters text component) {delimiter : Char}
    (hmem : delimiter ∈ delimiters) (hplus : delimiter ≠ '+')
    (hmark : Char.ofNat Percent.mark.toNat ≠ delimiter)
    (hdigit : ∀ (upper : Bool) (value : Fin 16),
      Char.ofNat (Percent.digit upper value).toNat ≠ delimiter) :
    delimiter ∉ component := by
  induction h with
  | nil => exact List.not_mem_nil
  | plain _ _ hc _ ih =>
    rw [List.mem_cons, not_or]
    refine ⟨?_, ih⟩
    rintro rfl
    exact hc hmem
  | space _ ih =>
    rw [List.mem_cons, not_or]
    exact ⟨hplus, ih⟩
  | escaped hescapes _ ih =>
    rw [List.mem_append, not_or]
    refine ⟨?_, ih⟩
    intro hmap
    obtain ⟨b, hb, hbyte⟩ := List.mem_map.1 hmap
    exact hescapes.forall_mem (p := (Char.ofNat ·.toNat ≠ delimiter)) hmark hdigit b hb hbyte

/-- Decoding the bytes of a spelling gives those of the text. -/
theorem decode_encode (h : SpellsComponent delimiters text component) :
    Percent.decode ((Utf8.encode component).map plusToSpace) = Utf8.encode text := by
  induction h with
  | nil => rfl
  | @plain c _ component hmark hplus _ _ ih =>
    -- The bytes of the character have no meaning and are passed over.
    have hbytes : (String.utf8EncodeChar c).map plusToSpace = String.utf8EncodeChar c :=
      map_plusToSpace_of_not_mem (Utf8.not_mem_encodeChar_of_ne (d := '+') (by decide) hplus)
    rw [Utf8.encode, List.flatMap_cons, List.map_append, hbytes,
      Percent.decode_append_of_not_mem (Percent.mark_not_mem_encodeChar hmark)]
    exact congrArg _ ih
  | @space _ component _ ih =>
    show Percent.decode (0x20 :: (Utf8.encode component).map plusToSpace) = _
    rw [Percent.decode_cons_of_ne (by decide), ih]
    rfl
  | @escaped c _ component escapes hescapes _ ih =>
    -- No escape holds a plus sign, so decoding sees the escapes as they are.
    have hplus : 0x2B ∉ escapes :=
      fun hmem => hescapes.forall_mem (p := (· ≠ 0x2B)) (by decide) (by decide) _ hmem rfl
    rw [Utf8.encode, List.flatMap_append, List.map_append]
    show Percent.decode ((Utf8.encode _).map plusToSpace ++ (Utf8.encode _).map plusToSpace) = _
    rw [hescapes.encode_eq, map_plusToSpace_of_not_mem hplus, hescapes.decode_append, ih]
    rfl

/-- A spelled component is read as the text. -/
theorem decodeComponent_eq {text : String} (h : SpellsComponent delimiters text.toList component) :
    decodeComponent component = text := by
  rw [decodeComponent, h.decode_encode, Utf8.decodeLossy, Utf8.scan_encode, List.map_map]
  calc String.ofList (text.toList.map ((·.getD '\uFFFD') ∘ some))
      = String.ofList (text.toList.map id) := rfl
    _ = text := by rw [List.map_id, String.ofList_toList]

end SpellsComponent

variable {entry : String × String} {entries : List (String × String)}

/-- A spelled piece is read as the key and the value. -/
theorem pairs_of_spellsPiece (h : SpellsPiece entry piece) : pairs piece = [entry] := by
  obtain ⟨key, value, hkey, hvalue, hpiece⟩ := h
  have hkeyAmp : '&' ∉ key := hkey.not_mem (by decide) (by decide) (by decide) (by decide)
  have hkeyEq : '=' ∉ key := hkey.not_mem (by decide) (by decide) (by decide) (by decide)
  have hvalueAmp : '&' ∉ value := hvalue.not_mem (by decide) (by decide) (by decide) (by decide)
  have hfree : '&' ∉ piece.toList := by simp [hpiece, hkeyAmp, hvalueAmp]
  -- The equal sign makes a piece of an empty key and an empty value, too.
  have hne : piece ≠ "" := by
    rintro rfl
    simp at hpiece
  rw [pairs_piece hfree, if_neg hne, decodePiece, hpiece, Text.cutAt_append_cons hkeyEq]
  simp only [Option.getD_some, hkey.decodeComponent_eq, hvalue.decodeComponent_eq]

/-- A spelled form is read as it is. -/
theorem pairs_of_spellsForm (h : SpellsForm entries query) : pairs query = entries := by
  obtain ⟨pieces, hpieces, rfl⟩ := h
  rw [pairs_intercalate]
  induction hpieces with
  | nil => rfl
  | cons hpiece _ ih =>
    rw [List.flatMap_cons, pairs_of_spellsPiece hpiece, ih, List.singleton_append]

theorem exists_spellsPiece (entry : String × String) : ∃ piece, SpellsPiece entry piece := by
  obtain ⟨key, hkey⟩ := SpellsComponent.exists_component keyDelimiters entry.1.toList
  obtain ⟨value, hvalue⟩ := SpellsComponent.exists_component valueDelimiters entry.2.toList
  exact ⟨String.ofList (key ++ '=' :: value), key, value, hkey, hvalue, String.toList_ofList⟩

/-- Any keys and values can be spelled. -/
theorem exists_spellsForm (entries : List (String × String)) :
    ∃ query, SpellsForm entries query := by
  choose piece hpiece using exists_spellsPiece
  refine ⟨"&".intercalate (entries.map piece), entries.map piece, ?_, rfl⟩
  rw [List.forall₂_map_right_iff]
  exact List.forall₂_same.2 fun entry _ => hpiece entry

/-! ## Both together -/

/-- A query that is put together from two is their union, in which the first wins. Empty pieces may
be left out, and pieces with different keys may stand in any order, whatever stands around them. A
form in any spelling, and every form has one, gives each key its first value and no other key
any. -/
theorem flatten_union_inverts_forms :
    (∀ a b key, (flatten (a ++ "&" ++ b)).get? key =
      ((flatten a).get? key).or ((flatten b).get? key)) ∧
    (∀ pieces : List String, flatten ("&".intercalate (pieces.filter (· ≠ ""))) =
      flatten ("&".intercalate pieces)) ∧
    (∀ before pieces pieces' after : List String, pieces.Perm pieces' →
      (∀ piece ∈ pieces, '&' ∉ piece.toList) →
      (pieces.Pairwise fun a b => a ≠ "" → b ≠ "" → pieceKey a ≠ pieceKey b) →
      ∀ key, (flatten ("&".intercalate (before ++ pieces ++ after))).get? key =
        (flatten ("&".intercalate (before ++ pieces' ++ after))).get? key) ∧
    (∀ entries query, SpellsForm entries query →
      ∀ key, (flatten query).get? key = entries.lookup key) ∧
    (∀ entries, ∃ query, SpellsForm entries query) := by
  refine ⟨get?_flatten_append, ?_, ?_, ?_, exists_spellsForm⟩
  · intro pieces
    rw [flatten, flatten, pairs_filter_ne_empty]
  · intro before pieces pieces' after hperm hfree hkeys key
    simp only [get?_flatten, pairs_intercalate, List.flatMap_append, List.lookup_append]
    rw [lookup_flatMap_pairs_perm hperm hfree hkeys]
  · intro entries query hform key
    rw [get?_flatten, pairs_of_spellsForm hform]

/-- A key in two spellings, a key with a separator, a space and a letter of two bytes, and pieces
with an empty one among them in another order. -/
theorem flatten_union_inverts_forms_respelled :
    let form := "a=1&%61=2&k%26=+%C3%a9="
    (flatten form).get? "a" = some "1" ∧ (flatten form).get? "k&" = some " é=" ∧
    (flatten form).get? "%61" = none ∧
    ∀ key, (flatten "a=0&b=2&&%61=3&a=4").get? key = (flatten "a=0&%61=3&b=2&&a=4").get? key := by
  intro form
  obtain ⟨-, -, hperm, hform, -⟩ := flatten_union_inverts_forms
  have hletter : Percent.Escapes (String.utf8EncodeChar 'é') _ :=
    .escaped true true (.escaped false true .nil)
  have hspells : SpellsForm [("a", "1"), ("a", "2"), ("k&", " é=")] form := by
    refine ⟨["a=1", "%61=2", "k%26=+%C3%a9="], .cons ?_ (.cons ?_ (.cons ?_ .nil)), by decide⟩
    · exact ⟨_, _, .plain (by decide) (by decide) (by decide) .nil,
        .plain (by decide) (by decide) (by decide) .nil, by decide⟩
    · exact ⟨_, _, .escaped (.escaped true true .nil) .nil,
        .plain (by decide) (by decide) (by decide) .nil, by decide⟩
    · exact ⟨_, _, .plain (by decide) (by decide) (by decide)
          (.escaped (.escaped true true .nil) .nil),
        .space (.escaped hletter (.plain (by decide) (by decide) (by decide) .nil)), by decide⟩
  have hvalue := hform _ form hspells
  refine ⟨hvalue "a", hvalue "k&", hvalue "%61", ?_⟩
  exact hperm ["a=0"] ["b=2", "", "%61=3"] ["%61=3", "b=2", ""] ["a=4"] (by decide) (by decide)
    (by decide)

end PatternRouter.Query
