import Mathlib.Data.List.Basic
import PatternRouter.Encoding.Base64

/-!
# Base64 as digits of sextets

A text in base64 is the digits of some sextets and a filling. The encoder writes `sextets bytes`,
that is the bits of the bytes six by six, and the reader gets sextets back from digits and bytes
from sextets, so each half is a statement about one of the two steps.

The module introduces:

* `sextets bytes` — the values of the digits that the encoder writes;
* `fill count` — the padding behind `count` digits;
* `IsText text` — a text is base64: blanks apart, the digits of sextets that spell bytes, filled up
  or not.

Main statements:

* `decode?_of_filter` — the reader gives encoded bytes back, whatever blanks stand between the
  digits;
* `IsText.exists_decode?` — the reader takes every text that is base64;
* `length_encode` — four digits for three bytes, the last group filled up.
-/

namespace PatternRouter.Base64

/-! ## Digits -/

variable {value : Nat}

@[simp] theorem digitValue?_digit (h : value < 64) : digitValue? (digit value) = some value := by
  have hall : ∀ v : Fin 64, digitValue? (digit v) = some v.val := by decide
  exact hall ⟨value, h⟩

theorem digit_ne_padding (h : value < 64) : digit value ≠ padding := by
  have hall : ∀ v : Fin 64, digit v ≠ padding := by decide
  exact hall ⟨value, h⟩

theorem isBlank_digit (h : value < 64) : isBlank (digit value) = false := by
  have hall : ∀ v : Fin 64, isBlank (digit v) = false := by decide
  exact hall ⟨value, h⟩

/-- No digit is a dash. -/
theorem digit_ne_dash (h : value < 64) : digit value ≠ 0x2D := by
  have hall : ∀ v : Fin 64, digit v ≠ 0x2D := by decide
  exact hall ⟨value, h⟩

/-- Digits are ASCII characters. -/
theorem toNat_digit_lt (h : value < 64) : (digit value).toNat < 128 := by
  have hall : ∀ v : Fin 64, (digit v).toNat < 128 := by decide
  exact hall ⟨value, h⟩

theorem mapM_digitValue? {values : List Nat} (h : ∀ value ∈ values, value < 64) :
    (values.map digit).mapM digitValue? = some values := by
  induction values with
  | nil => rfl
  | cons value values ih =>
    rw [List.forall_mem_cons] at h
    rw [List.map_cons, List.mapM_cons, digitValue?_digit h.1, ih h.2]
    rfl

/-! ## The filling -/

/-- The padding that fills up the last group of `count` digits. -/
def fill (count : Nat) : List UInt8 :=
  List.replicate ((4 - count % 4) % 4) padding

theorem fill_add_four (count : Nat) : fill (count + 4) = fill count := by
  rw [fill, fill, Nat.add_mod_right]

theorem eq_padding_of_mem_fill {count : Nat} {b : UInt8} (h : b ∈ fill count) : b = padding :=
  List.eq_of_mem_replicate h

/-- Digits are found before their filling, and without one. -/
theorem unpadded_append {digits pad : List UInt8} (hdigits : ∀ b ∈ digits, b ≠ padding)
    (hlength : digits.length % 4 ≠ 1) (hpad : pad = [] ∨ pad = fill digits.length) :
    unpadded (digits ++ pad) = digits := by
  match digits with
  | [] => rcases hpad with rfl | rfl <;> rfl
  | [a] => exact absurd rfl hlength
  | [a, b] => rcases hpad with rfl | rfl <;> rfl
  | [a, b, c] =>
    have hc : c ≠ padding := hdigits c (by simp)
    rcases hpad with rfl | rfl
    · rfl
    · exact (if_pos rfl).trans (if_neg hc)
  | a :: b :: c :: d :: rest =>
    have hd : d ≠ padding := hdigits d (by simp)
    simp only [List.length_cons, fill_add_four] at hlength hpad
    have ih : unpadded (rest ++ pad) = rest :=
      unpadded_append (fun b hb => hdigits b (by simp [hb])) (by omega) hpad
    -- A group that ends the text is looked at for padding, and one before others is not.
    cases htail : rest ++ pad with
    | nil =>
      obtain ⟨rfl, rfl⟩ := List.append_eq_nil_iff.1 htail
      exact if_neg hd
    | cons e more =>
      rw [htail] at ih
      rw [List.cons_append, List.cons_append, List.cons_append, List.cons_append, htail, unpadded,
        ih]
      rintro ⟨⟩

/-! ## Sextets -/

/-- The bits of bytes six by six, with zeros behind the last ones. -/
def sextets : List UInt8 → List Nat
  | [] => []
  | [a] =>
    let n := a.toNat * 16
    [n / 64, n % 64]
  | [a, b] =>
    let n := (a.toNat * 256 + b.toNat) * 4
    [n / 4096, n / 64 % 64, n % 64]
  | a :: b :: c :: rest =>
    let n := (a.toNat * 256 + b.toNat) * 256 + c.toNat
    n / 262144 :: n / 4096 % 64 :: n / 64 % 64 :: n % 64 :: sextets rest

theorem sextets_lt (bytes : List UInt8) : ∀ value ∈ sextets bytes, value < 64 := by
  fun_induction sextets bytes with
  | case1 => exact List.forall_mem_nil _
  | case2 a n =>
    have ha := a.toNat_lt
    simp only [List.forall_mem_cons]
    exact ⟨by omega, by omega, List.forall_mem_nil _⟩
  | case3 a b n =>
    have ha := a.toNat_lt
    have hb := b.toNat_lt
    simp only [List.forall_mem_cons]
    exact ⟨by omega, by omega, by omega, List.forall_mem_nil _⟩
  | case4 a b c rest n ih =>
    have ha := a.toNat_lt
    have hb := b.toNat_lt
    have hc := c.toNat_lt
    simp only [List.forall_mem_cons]
    exact ⟨by omega, by omega, by omega, by omega, ih⟩

theorem length_sextets_mod (bytes : List UInt8) : (sextets bytes).length % 4 ≠ 1 := by
  fun_induction sextets bytes with
  | case1 | case2 | case3 => simp
  | case4 a b c rest n ih =>
    simp only [List.length_cons]
    omega

theorem encode_eq (bytes : List UInt8) :
    encode bytes = (sextets bytes).map digit ++ fill (sextets bytes).length := by
  fun_induction sextets bytes with
  | case1 | case2 | case3 => rfl
  | case4 a b c rest n ih =>
    -- A whole group needs no filling, so that of the rest is the filling of all.
    simp only [List.map_cons, List.length_cons, fill_add_four, List.cons_append, ← ih]
    rfl

theorem length_encode (bytes : List UInt8) :
    (encode bytes).length = (bytes.length + 2) / 3 * 4 := by
  fun_induction encode bytes with
  | case1 | case2 | case3 => simp
  | case4 a b c rest n ih =>
    simp only [List.length_cons, ih]
    omega

theorem bytesOf?_sextets (bytes : List UInt8) : bytesOf? (sextets bytes) = some bytes := by
  -- The sextets of a group make the number `n` again, and the bytes are its digits to the base 256.
  fun_induction sextets bytes with
  | case1 => rfl
  | case2 a n =>
    have hn : n / 64 * 64 + n % 64 = n := by omega
    have ha : n / 16 = a.toNat := by omega
    rw [bytesOf?, hn, ha, UInt8.ofNat_toNat]
  | case3 a b n =>
    have hb := b.toNat_lt
    have hn : (n / 4096 * 64 + n / 64 % 64) * 64 + n % 64 = n := by omega
    have ha : n / 1024 = a.toNat := by omega
    have hb' : n / 4 % 256 = b.toNat := by omega
    simp only [bytesOf?, hn, ha, hb', UInt8.ofNat_toNat]
  | case4 a b c rest n ih =>
    have hb := b.toNat_lt
    have hc := c.toNat_lt
    have hn : ((n / 262144 * 64 + n / 4096 % 64) * 64 + n / 64 % 64) * 64 + n % 64 = n := by omega
    have ha : n / 65536 = a.toNat := by omega
    have hb' : n / 256 % 256 = b.toNat := by omega
    have hc' : n % 256 = c.toNat := by omega
    simp only [bytesOf?, hn, ha, hb', hc', ih, UInt8.ofNat_toNat, Option.map_some]

/-- Sextets spell bytes unless a single one is left over. -/
theorem exists_bytesOf? {values : List Nat} (h : values.length % 4 ≠ 1) :
    ∃ bytes, bytesOf? values = some bytes := by
  match values with
  | [] => exact ⟨_, rfl⟩
  | [_] => exact absurd rfl h
  | [_, _] => exact ⟨_, rfl⟩
  | [_, _, _] => exact ⟨_, rfl⟩
  | p :: q :: r :: s :: rest =>
    have hrest : rest.length % 4 ≠ 1 := by
      simp only [List.length_cons] at h
      omega
    obtain ⟨bytes, hbytes⟩ := exists_bytesOf? hrest
    exact ⟨_, by rw [bytesOf?, hbytes, Option.map_some]⟩

/-! ## Texts -/

/-- A text is, blanks apart, the digits of sextets, filled up or not. -/
structure Spells (text : List UInt8) (values : List Nat) : Prop where
  lt : ∀ value ∈ values, value < 64
  /-- No single digit is left over. -/
  whole : values.length % 4 ≠ 1
  digits : ∃ pad, (pad = [] ∨ pad = fill values.length) ∧
    text.filter (!isBlank ·) = values.map digit ++ pad

/-- A text is in base64. -/
def IsText (text : List UInt8) : Prop :=
  ∃ values, Spells text values

theorem Spells.decode?_eq {text : List UInt8} {values : List Nat} (h : Spells text values) :
    decode? text = bytesOf? values := by
  obtain ⟨pad, hpad, hdigits⟩ := h.digits
  -- Padding is told from digits, so what is left without it are the digits.
  have hne : ∀ b ∈ values.map digit, b ≠ padding := by
    simp only [List.forall_mem_map]
    exact fun value hvalue => digit_ne_padding (h.lt value hvalue)
  have hunpadded : unpadded (text.filter (!isBlank ·)) = values.map digit := by
    rw [hdigits]
    exact unpadded_append hne (by simpa using h.whole) (by simpa using hpad)
  rw [decode?, hunpadded, mapM_digitValue? h.lt]

theorem Spells.dash_not_mem {text : List UInt8} {values : List Nat} (h : Spells text values) :
    0x2D ∉ text := by
  intro hdash
  obtain ⟨pad, hpad, hdigits⟩ := h.digits
  -- A dash is no blank, so it would be a digit or padding.
  have hmem : 0x2D ∈ values.map digit ++ pad := by
    rw [← hdigits]
    exact List.mem_filter.2 ⟨hdash, by decide⟩
  rcases List.mem_append.1 hmem with hdigit | hfill
  · obtain ⟨value, hvalue, hdash⟩ := List.mem_map.1 hdigit
    exact digit_ne_dash (h.lt value hvalue) hdash
  · rcases hpad with rfl | rfl
    · exact List.not_mem_nil hfill
    · exact absurd (eq_padding_of_mem_fill hfill) (by decide)

theorem IsText.exists_decode? {text : List UInt8} (h : IsText text) :
    ∃ bytes, decode? text = some bytes := by
  obtain ⟨values, hspells⟩ := h
  rw [hspells.decode?_eq]
  exact exists_bytesOf? hspells.whole

theorem IsText.dash_not_mem {text : List UInt8} (h : IsText text) : 0x2D ∉ text := by
  obtain ⟨values, hspells⟩ := h
  exact hspells.dash_not_mem

/-- The bytes of encoded bytes: digits and padding. -/
theorem mem_encode {bytes : List UInt8} {b : UInt8} (h : b ∈ encode bytes) :
    (∃ value < 64, b = digit value) ∨ b = padding := by
  rw [encode_eq, List.mem_append, List.mem_map] at h
  rcases h with ⟨value, hvalue, rfl⟩ | hfill
  · exact Or.inl ⟨value, sextets_lt bytes value hvalue, rfl⟩
  · exact Or.inr (eq_padding_of_mem_fill hfill)

theorem isBlank_of_mem_encode {bytes : List UInt8} {b : UInt8} (h : b ∈ encode bytes) :
    isBlank b = false := by
  rcases mem_encode h with ⟨value, hvalue, rfl⟩ | rfl
  · exact isBlank_digit hvalue
  · rfl

theorem toNat_lt_of_mem_encode {bytes : List UInt8} {b : UInt8} (h : b ∈ encode bytes) :
    b.toNat < 128 := by
  rcases mem_encode h with ⟨value, hvalue, rfl⟩ | rfl
  · exact toNat_digit_lt hvalue
  · decide

/-- Encoded bytes with blanks between the digits spell the sextets of the bytes. -/
theorem spells_sextets {text bytes : List UInt8}
    (h : text.filter (!isBlank ·) = encode bytes) : Spells text (sextets bytes) where
  lt := sextets_lt bytes
  whole := length_sextets_mod bytes
  digits := ⟨fill (sextets bytes).length, Or.inr rfl, h.trans (encode_eq bytes)⟩

theorem filter_encode (bytes : List UInt8) : (encode bytes).filter (!isBlank ·) = encode bytes := by
  refine List.filter_eq_self.2 fun b hb => ?_
  rw [isBlank_of_mem_encode hb]
  rfl

theorem decode?_of_filter {text bytes : List UInt8}
    (h : text.filter (!isBlank ·) = encode bytes) : decode? text = some bytes := by
  rw [(spells_sextets h).decode?_eq, bytesOf?_sextets]

end PatternRouter.Base64
