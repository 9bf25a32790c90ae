import Mathlib.Algebra.Order.Group.Nat
import Mathlib.Tactic.SplitIfs
import PatternRouter.Certificate.Der

/-!
# Elements that are written can be read

An element is read back from what is written of it, whatever stands behind it. The only condition is
that its content has a length that fits into eight bytes; the elements inside an element have it if
the outer one does.

The module introduces:

* `Element.Fits` — the length of the content fits into eight bytes;
* `Element.header` — what is written before the content;
* `encodeAll` — elements one behind the other, as the content of another element;
* `Element.primitive`, `Element.holding`, `Element.sequence` — elements by what they hold.

The header is read back by both sets of rules (`header?_encode`). From it follow the main
statements, `read?_encode` for the distinguished rules and `skip?_encode` for the basic ones, and
`expect?_encode` for the reader of one kind of element. `Element.Fits.of_mem` hands the condition on
to what is inside.
-/

namespace PatternRouter.Der

/-! ## Numbers and lengths -/

theorem natOfBytes_concat (bytes : List UInt8) (b : UInt8) :
    natOfBytes (bytes ++ [b]) = natOfBytes bytes * 256 + b.toNat := by
  rw [natOfBytes, List.foldl_append]
  rfl

theorem natOfBytes_bytesOfNat (n : Nat) : natOfBytes (bytesOfNat n) = n := by
  fun_induction bytesOfNat n with
  | case1 => rfl
  | case2 n hn ih =>
    rw [natOfBytes_concat, ih, UInt8.toNat_ofNat']
    omega

theorem bytesOfNat_ne_nil {n : Nat} (h : n ≠ 0) : bytesOfNat n ≠ [] := by
  rw [bytesOfNat, if_neg h]
  exact List.append_ne_nil_of_right_ne_nil _ (List.cons_ne_nil _ _)

theorem length_bytesOfNat_le {n count : Nat} (h : n < 256 ^ count) :
    (bytesOfNat n).length ≤ count := by
  induction count generalizing n with
  | zero =>
    obtain rfl : n = 0 := by simpa using h
    simp [bytesOfNat]
  | succ count ih =>
    rw [bytesOfNat]
    split_ifs with hn
    · exact Nat.zero_le _
    · have hdiv : n / 256 < 256 ^ count := by
        rw [Nat.pow_succ] at h
        omega
      rw [List.length_append]
      exact Nat.succ_le_succ (ih hdiv)

/-- A length below 2 ^ 64 is read back from its shortest form, by whichever rules. -/
theorem length?_encodeLength {length : Nat} (h : length < 0x10000000000000000) (rules : Rules)
    (rest : List UInt8) :
    length? rules (encodeLength length ++ rest) = some (some length, rest) := by
  rw [encodeLength]
  split_ifs with hshort
  · have hbyte : (UInt8.ofNat length).toNat = length := by
      rw [UInt8.toNat_ofNat']
      omega
    rw [List.singleton_append, length?, hbyte, if_pos hshort]
  · -- The first byte counts the bytes of the length, of which there are one to eight.
    have hcount : (bytesOfNat length).length ≤ 8 := length_bytesOfNat_le h
    have hpos : 0 < (bytesOfNat length).length :=
      List.length_pos_iff.2 (bytesOfNat_ne_nil (by omega))
    have hbyte : (UInt8.ofNat (128 + (bytesOfNat length).length)).toNat =
        128 + (bytesOfNat length).length := by
      rw [UInt8.toNat_ofNat']
      omega
    have hlong : ¬ 128 + (bytesOfNat length).length < 128 := by omega
    have hclosed : (bytesOfNat length).length ≠ 0 := Nat.ne_of_gt hpos
    -- There are as many bytes as the first one says.
    have henough : ¬ ((bytesOfNat length).length = 127 ∨
        (bytesOfNat length ++ rest).length < (bytesOfNat length).length) := by
      rw [List.length_append]
      omega
    have hrange : ¬ ((rules = .distinguished ∧ length < 127) ∨ 0x10000000000000000 ≤ length) := by
      omega
    simp only [List.cons_append, length?, hbyte, if_neg hlong, Nat.add_sub_cancel_left,
      if_neg hclosed, if_neg henough, List.take_left, List.drop_left, natOfBytes_bytesOfNat,
      if_neg hrange]

/-! ## One element -/

theorem TagClass.ofBits_bits (tagClass : TagClass) : TagClass.ofBits tagClass.bits = tagClass := by
  cases tagClass <;> rfl

theorem TagClass.bits_lt (tagClass : TagClass) : tagClass.bits < 4 := by
  cases tagClass <;> decide

namespace Element

/-- The length of the content fits into eight bytes. -/
def Fits (element : Element) : Prop :=
  element.content.length < 0x10000000000000000

instance (element : Element) : Decidable element.Fits :=
  inferInstanceAs (Decidable (_ < _))

/-- What stands before the content of an element when it is written. -/
def header (element : Element) : Header :=
  ⟨element.tagClass, element.constructed, element.tag, some element.content.length⟩

end Element

/-- The header of an element is read back, by whichever rules, and the content stands behind it. -/
theorem header?_encode {element : Element} (htag : element.tag < 31) (hfits : element.Fits)
    (rules : Rules) (rest : List UInt8) :
    header? rules (encode element ++ rest) = some (element.header, element.content ++ rest) := by
  obtain ⟨tagClass, constructed, tag, content⟩ := element
  change tag < 31 at htag
  -- The first byte holds the class, the mark and the tag side by side.
  have hclass : tagClass.bits < 4 := tagClass.bits_lt
  have hmark : (if constructed then 32 else 0) = constructed.toNat * 32 := by
    cases constructed <;> rfl
  have hbool : constructed.toNat < 2 := constructed.toNat_lt
  have hbyte : (UInt8.ofNat (tagClass.bits * 64 + constructed.toNat * 32 + tag)).toNat =
      tagClass.bits * 64 + constructed.toNat * 32 + tag := by
    rw [UInt8.toNat_ofNat']
    omega
  have htagOf : (tagClass.bits * 64 + constructed.toNat * 32 + tag) % 32 = tag := by omega
  have hclassOf : (tagClass.bits * 64 + constructed.toNat * 32 + tag) / 64 = tagClass.bits := by
    omega
  have hmarkOf : (tagClass.bits * 64 + constructed.toNat * 32 + tag) / 32 % 2 =
      constructed.toNat := by
    omega
  have hlow : tag ≠ 31 := Nat.ne_of_lt htag
  have hconstructed : decide (constructed.toNat = 1) = constructed := by
    cases constructed <;> rfl
  simp only [encode, hmark, List.cons_append, List.append_assoc, header?, hbyte, htagOf,
    if_neg hlow, length?_encodeLength hfits, hclassOf, hmarkOf, hconstructed,
    TagClass.ofBits_bits]
  exact if_neg fun hopen => nomatch hopen.1

/-- The content is not longer than what it begins. -/
theorem not_length_append_lt (content rest : List UInt8) :
    ¬ (content ++ rest).length < content.length := by
  rw [List.length_append]
  exact Nat.not_lt.2 (Nat.le_add_right _ _)

/-- An element is read back, whatever stands behind it. -/
theorem read?_encode {element : Element} (htag : element.tag < 31) (hfits : element.Fits)
    (rest : List UInt8) : read? (encode element ++ rest) = some (element, rest) := by
  simp only [read?, header?_encode htag hfits, Element.header,
    if_neg (not_length_append_lt element.content rest), List.take_left, List.drop_left]

/-- What is written by the distinguished rules is passed over by the basic rules. -/
theorem skip?_encode {element : Element} (htag : element.tag < 31) (hfits : element.Fits)
    (rest : List UInt8) : skip? element.tag (encode element ++ rest) = some rest := by
  have hcontent : skipContent? maxDepth element.header (element.content ++ rest) =
      some (decide (element.content.length = 0 ∧ element.tag = 0), rest) := by
    rw [maxDepth, skipContent?, Element.header]
    simp only [if_neg (not_length_append_lt element.content rest), List.drop_left]
  simp only [skip?, header?_encode htag hfits, hcontent]
  exact if_pos rfl

/-- The basic rules also pass over a length that is longer than needed, and over an open content. -/
example : skip? tagInteger [0x02, 0x81, 0x01, 0x07, 0x30] = some [0x30] ∧
    skip? tagInteger [0x22, 0x80, 0x04, 0x01, 0xFF, 0x00, 0x00, 0x30] = some [0x30] := by
  decide

/-- An element is read where one of its tag is looked for. -/
theorem expect?_encode {element : Element} {tag : Nat} (heq : element.tag = tag) (htag : tag < 31)
    (hfits : element.Fits) (rest : List UInt8) :
    expect? tag (encode element ++ rest) = some (element, rest) := by
  subst heq
  rw [expect?, read?_encode htag hfits]
  exact if_pos rfl

/-! ## Elements inside an element -/

/-- Elements one behind the other. -/
def encodeAll (elements : List Element) : List UInt8 :=
  elements.flatMap encode

@[simp]
theorem encodeAll_nil : encodeAll [] = [] := rfl

@[simp]
theorem encodeAll_cons (element : Element) (elements : List Element) :
    encodeAll (element :: elements) = encode element ++ encodeAll elements := rfl

theorem encodeAll_append (elements more : List Element) :
    encodeAll (elements ++ more) = encodeAll elements ++ encodeAll more :=
  List.flatMap_append

theorem length_content_lt (element : Element) :
    element.content.length < (encode element).length := by
  rw [encode, List.length_cons, List.length_append]
  omega

theorem length_le_length_encodeAll (elements : List Element) :
    elements.length ≤ (encodeAll elements).length := by
  induction elements with
  | nil => exact Nat.le_refl 0
  | cons element elements ih =>
    have hpos := length_content_lt element
    rw [encodeAll_cons, List.length_append, List.length_cons]
    omega

namespace Element

/-- An element of the universal class that holds no elements. -/
def primitive (tag : Nat) (content : List UInt8) : Element :=
  ⟨.universal, false, tag, content⟩

/-- An element that holds elements. -/
def holding (tagClass : TagClass) (tag : Nat) (elements : List Element) : Element :=
  ⟨tagClass, true, tag, encodeAll elements⟩

@[simp]
theorem content_holding (tagClass : TagClass) (tag : Nat) (elements : List Element) :
    (holding tagClass tag elements).content = encodeAll elements := rfl

/-- A sequence of elements. -/
abbrev sequence (elements : List Element) : Element :=
  holding .universal tagSequence elements

namespace Fits

variable {outer element : Element}

/-- What is written inside an element that fits does so as well. -/
theorem of_content (h : outer.Fits) {before after : List UInt8}
    (houter : outer.content = before ++ (encode element ++ after)) : element.Fits := by
  have hlength : element.content.length < outer.content.length := by
    have hcontent := length_content_lt element
    rw [houter, List.length_append, List.length_append]
    omega
  exact Nat.lt_trans hlength h

theorem of_mem (h : outer.Fits) {elements : List Element}
    (houter : outer.content = encodeAll elements) (hmem : element ∈ elements) : element.Fits := by
  obtain ⟨before, after, rfl⟩ := List.append_of_mem hmem
  apply h.of_content
  rw [houter, encodeAll_append, encodeAll_cons]

end Fits

end Element

section

variable {tag : Nat} (htag : tag < 31)

include htag

theorem expect?_primitive {content : List UInt8} (h : (Element.primitive tag content).Fits)
    (rest : List UInt8) :
    expect? tag (encode (.primitive tag content) ++ rest) =
      some (.primitive tag content, rest) :=
  expect?_encode rfl htag h rest

theorem expect?_holding {tagClass : TagClass} {elements : List Element}
    (h : (Element.holding tagClass tag elements).Fits) (rest : List UInt8) :
    expect? tag (encode (.holding tagClass tag elements) ++ rest) =
      some (.holding tagClass tag elements, rest) :=
  expect?_encode rfl htag h rest

end

end PatternRouter.Der
