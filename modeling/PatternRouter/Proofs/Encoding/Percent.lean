import PatternRouter.Encoding.Percent
import PatternRouter.Proofs.Encoding.Utf8

/-!
# Spellings of bytes

A text of bytes has many percent-encoded spellings: any byte may be escaped, with digits of either
case, and some must be. Decoding reads each of them once, and leaves alone what no escape spells.

* `Spells free bytes text`: the text spells the bytes, and only those that are `free` stand for
  themselves.
* `Spells.decode_eq`: decoding a spelling gives the bytes back.
* `decode_mark_of_not_escape`: a percent sign that two digits do not follow stands for itself.
* `Escapes.encode_eq`: a text of characters may hold escapes, each of whose bytes is a character.
-/

namespace PatternRouter.Percent

variable {free : UInt8 → Bool} {bytes text rest : List UInt8} {b : UInt8}

theorem decode_cons_of_ne (h : b ≠ mark) (rest : List UInt8) :
    decode (b :: rest) = b :: decode rest := by
  match rest with
  | [] => rfl
  | [_] => rfl
  | _ :: _ :: _ => rw [decode, if_neg h]

theorem decode_append_of_not_mem (h : mark ∉ bytes) (rest : List UInt8) :
    decode (bytes ++ rest) = bytes ++ decode rest := by
  induction bytes with
  | nil => rfl
  | cons b bytes ih =>
    rw [List.mem_cons, not_or] at h
    rw [List.cons_append, decode_cons_of_ne (Ne.symm h.1), ih h.2, List.cons_append]

/-- A percent sign that two digits do not follow stands for itself. -/
theorem decode_mark_of_not_escape
    (h : ∀ high low more, rest = high :: low :: more →
      digitValue? high = none ∨ digitValue? low = none) :
    decode (mark :: rest) = mark :: decode rest := by
  match rest with
  | [] => rfl
  | [_] => rfl
  | high :: low :: more =>
    rw [decode, if_pos rfl]
    rcases h high low more rfl with hnone | hnone
    · rw [hnone]
    · rw [hnone]
      cases digitValue? high <;> rfl

/-- A text spells bytes: each byte is escaped or, if it is free and not the percent sign, stands for
itself. -/
inductive Spells (free : UInt8 → Bool) : List UInt8 → List UInt8 → Prop
  | nil : Spells free [] []
  | plain {b : UInt8} {bytes text : List UInt8} :
      free b = true → b ≠ mark → Spells free bytes text → Spells free (b :: bytes) (b :: text)
  | escaped {b : UInt8} {bytes text : List UInt8} (upperHigh upperLow : Bool) :
      Spells free bytes text → Spells free (b :: bytes) (escape upperHigh upperLow b ++ text)

/-- Bytes of which none stands for itself. -/
abbrev Escapes : List UInt8 → List UInt8 → Prop :=
  Spells fun _ => false

namespace Spells

/-- Decoding a spelling, whatever follows it, gives the bytes back. -/
theorem decode_append (h : Spells free bytes text) (rest : List UInt8) :
    decode (text ++ rest) = bytes ++ decode rest := by
  induction h with
  | nil => rfl
  | plain _ hne _ ih => rw [List.cons_append, decode_cons_of_ne hne, ih, List.cons_append]
  | escaped upperHigh upperLow _ ih =>
    rw [List.append_assoc, decode_escape, ih, List.cons_append]

/-- Decoding a spelling gives the bytes back. -/
theorem decode_eq (h : Spells free bytes text) : decode text = bytes := by
  have happend := h.decode_append []
  rwa [List.append_nil, decode, List.append_nil] at happend

end Spells

/-- A spelling holds free bytes and escapes, so what holds of those holds of all its bytes. -/
theorem Spells.forall_mem {p : UInt8 → Prop} (h : Spells free bytes text)
    (hfree : ∀ b, free b = true → p b) (hmark : p mark)
    (hdigit : ∀ upper value, value < 16 → p (digit upper value)) : ∀ b ∈ text, p b := by
  induction h with
  | nil => simp
  | plain hb _ _ ih =>
    rw [List.forall_mem_cons]
    exact ⟨hfree _ hb, ih⟩
  | @escaped b _ _ upperHigh upperLow _ ih =>
    have hb : b.toNat < 256 := b.toNat_lt
    rw [List.forall_mem_append]
    refine ⟨?_, ih⟩
    simp only [escape, List.forall_mem_cons]
    exact ⟨hmark, hdigit _ _ (by omega), hdigit _ _ (by omega), by simp⟩

/-! ## Escapes among characters -/

namespace Escapes

/-- Escapes hold percent signs and digits alone. -/
theorem forall_mem {p : UInt8 → Prop} (h : Escapes bytes text) (hmark : p mark)
    (hdigit : ∀ (upper : Bool) (value : Fin 16), p (digit upper value)) : ∀ b ∈ text, p b := by
  refine Spells.forall_mem h ?_ hmark ?_
  · rintro _ ⟨⟩
  · intro upper value hvalue
    exact hdigit upper ⟨value, hvalue⟩

/-- Escapes are ASCII, so their characters are bytes of their own. -/
theorem encode_eq (h : Escapes bytes text) :
    Utf8.encode (text.map fun b => Char.ofNat b.toNat) = text := by
  have hascii : ∀ b ∈ text, b.toNat < 0x80 := h.forall_mem (by decide) (by decide)
  have hencode := Utf8.ofString_ofBytes hascii
  rwa [Utf8.ofString, String.toList_ofList] at hencode

/-- Any bytes can be escaped. -/
theorem exists_escapes (bytes : List UInt8) : ∃ text, Escapes bytes text := by
  induction bytes with
  | nil => exact ⟨[], .nil⟩
  | cons b bytes ih =>
    obtain ⟨text, htext⟩ := ih
    exact ⟨escape true true b ++ text, .escaped true true htext⟩

end Escapes

/-- No byte of another character is a percent sign. -/
theorem mark_not_mem_encodeChar {c : Char} (h : c ≠ '%') : mark ∉ String.utf8EncodeChar c :=
  Utf8.not_mem_encodeChar_of_ne (by decide) h

end PatternRouter.Percent
