import Mathlib.Algebra.Order.Group.Nat
import Mathlib.Tactic.SplitIfs
import PatternRouter.Encoding.Utf8

/-!
# Reading UTF-8

The decoder reads one byte at a time and keeps the bits of a sequence that is open. What it reads
without a fault are exactly the encodings of texts, each as the text that it encodes.

A character is a byte of its own, or a first byte that opens a sequence and bytes that close it.
Seen as a number in base 64, it has its leading digit in the first byte and one digit in each of the
others: `Closes` follows the digits from a state of the decoder on, and `Begins` says which first
byte holds the leading one.

* `scan_encodeChar`: an encoded character is read back, whatever follows it.
* `decode?_eq_some_iff`, `toString?_eq_some_iff`: decoding is inverse to encoding, and succeeds on
  encodings only.
* `not_mem_encodeChar`, `exists_cons_of_encode_eq_cons`: an ASCII byte is a character of its own.
-/

namespace PatternRouter.Utf8

variable {bytes : List UInt8} {chars : List Char} {sequence : Open} {b : UInt8} {n : Nat}

/-! ## Sequences that are closed -/

/-- The bytes stand where an open sequence admits them and close it, and the character that they
complete has the number. -/
inductive Closes : Open → List UInt8 → Nat → Prop
  | last {least greatest bits : Nat} {b : UInt8} :
      least ≤ b.toNat → b.toNat ≤ greatest →
      Closes ⟨0, least, greatest, bits⟩ [b] (bits * 64 + b.toNat % 64)
  | more {more least greatest bits n : Nat} {b : UInt8} {bytes : List UInt8} :
      least ≤ b.toNat → b.toNat ≤ greatest →
      Closes ⟨more, 0x80, 0xBF, bits * 64 + b.toNat % 64⟩ bytes n →
      Closes ⟨more + 1, least, greatest, bits⟩ (b :: bytes) n

theorem closes_zero_iff {least greatest bits : Nat} :
    Closes ⟨0, least, greatest, bits⟩ bytes n ↔
      ∃ b, bytes = [b] ∧ (least ≤ b.toNat ∧ b.toNat ≤ greatest) ∧
        n = bits * 64 + b.toNat % 64 := by
  constructor
  · rintro ⟨⟩
    exact ⟨_, rfl, ⟨‹_›, ‹_›⟩, rfl⟩
  · rintro ⟨b, rfl, ⟨hleast, hgreatest⟩, rfl⟩
    exact .last hleast hgreatest

theorem closes_succ_iff {more least greatest bits : Nat} :
    Closes ⟨more + 1, least, greatest, bits⟩ bytes n ↔
      ∃ b rest, bytes = b :: rest ∧ (least ≤ b.toNat ∧ b.toNat ≤ greatest) ∧
        Closes ⟨more, 0x80, 0xBF, bits * 64 + b.toNat % 64⟩ rest n := by
  constructor
  · rintro ⟨⟩
    exact ⟨_, _, rfl, ⟨‹_›, ‹_›⟩, ‹_›⟩
  · rintro ⟨b, rest, rfl, ⟨hleast, hgreatest⟩, hrest⟩
    exact .more hleast hgreatest hrest

/-- A sequence that is closed is read as its character. -/
theorem Closes.scan_append (h : Closes sequence bytes n) (rest : List UInt8) :
    scan (some sequence) (bytes ++ rest) = some (Char.ofNat n) :: scan none rest := by
  induction h with
  | last hleast hgreatest => rw [List.singleton_append, scan, if_pos ⟨hleast, hgreatest⟩]
  | more hleast hgreatest _ ih =>
    rw [List.cons_append, scan, if_pos ⟨hleast, hgreatest⟩]
    exact ih

/-- A sequence that is read without a fault is closed. -/
theorem exists_closes_of_scan (h : scan (some sequence) bytes = chars.map some) :
    ∃ front rest n others, bytes = front ++ rest ∧ Closes sequence front n ∧
      chars = Char.ofNat n :: others ∧ scan none rest = others.map some := by
  induction bytes generalizing sequence with
  | nil =>
    rw [scan] at h
    cases chars <;> simp at h
  | cons b bytes ih =>
    obtain ⟨more, least, greatest, bits⟩ := sequence
    rw [scan] at h
    split at h
    · next hrange =>
      cases more with
      | zero =>
        cases chars with
        | nil => simp at h
        | cons c others =>
          simp only [List.map_cons, List.cons.injEq, Option.some.injEq] at h
          obtain ⟨rfl, h⟩ := h
          exact ⟨[b], bytes, _, others, rfl, .last hrange.1 hrange.2, rfl, h⟩
      | succ more =>
        obtain ⟨front, rest, n, others, rfl, hcloses, hchars, hrest⟩ := ih h
        exact ⟨b :: front, rest, n, others, rfl, .more hrange.1 hrange.2 hcloses, hchars, hrest⟩
    · -- A byte out of its range is a fault, whatever it begins.
      split at h <;> cases chars <;> simp at h

/-! ## The bytes of a character -/

theorem ofNat_eq_of_eq_toNat (h : n = b.toNat) : UInt8.ofNat n = b := by
  rw [h, UInt8.ofNat_toNat]

theorem toNat_val_ofNat (h : n.isValidChar) : (Char.ofNat n).val.toNat = n := by
  rw [Char.ofNat, dif_pos h]
  rfl

theorem encodeChar_one (h : n < 0x80) : String.utf8EncodeChar (Char.ofNat n) = [UInt8.ofNat n] := by
  rw [String.utf8EncodeChar, toNat_val_ofNat (Or.inl (by omega)), if_pos (by omega)]

theorem encodeChar_two {c : UInt8} (hb : 0xC2 ≤ b.toNat ∧ b.toNat < 0xE0)
    (hc : 0x80 ≤ c.toNat ∧ c.toNat ≤ 0xBF) (hn : n = (b.toNat - 0xC0) * 64 + c.toNat % 64) :
    String.utf8EncodeChar (Char.ofNat n) = [b, c] := by
  rw [String.utf8EncodeChar, toNat_val_ofNat (Or.inl (by omega)), if_neg (by omega),
    if_pos (by omega), ofNat_eq_of_eq_toNat (b := b) (by omega),
    ofNat_eq_of_eq_toNat (b := c) (by omega)]

theorem encodeChar_three {c d : UInt8} (hb : 0xE0 ≤ b.toNat ∧ b.toNat < 0xF0)
    (hc : 0x80 ≤ c.toNat ∧ c.toNat ≤ 0xBF) (hd : 0x80 ≤ d.toNat ∧ d.toNat ≤ 0xBF)
    (hn : n = ((b.toNat - 0xE0) * 64 + c.toNat % 64) * 64 + d.toNat % 64) (hlarge : 0x800 ≤ n)
    (hvalid : n.isValidChar) : String.utf8EncodeChar (Char.ofNat n) = [b, c, d] := by
  rw [String.utf8EncodeChar, toNat_val_ofNat hvalid, if_neg (by omega), if_neg (by omega),
    if_pos (by omega), ofNat_eq_of_eq_toNat (b := b) (by omega),
    ofNat_eq_of_eq_toNat (b := c) (by omega), ofNat_eq_of_eq_toNat (b := d) (by omega)]

theorem encodeChar_four {c d e : UInt8} (hb : 0xF0 ≤ b.toNat ∧ b.toNat < 0xF5)
    (hc : 0x80 ≤ c.toNat ∧ c.toNat ≤ 0xBF) (hd : 0x80 ≤ d.toNat ∧ d.toNat ≤ 0xBF)
    (he : 0x80 ≤ e.toNat ∧ e.toNat ≤ 0xBF)
    (hn : n = (((b.toNat - 0xF0) * 64 + c.toNat % 64) * 64 + d.toNat % 64) * 64 + e.toNat % 64)
    (hlarge : 0x10000 ≤ n) (hvalid : n.isValidChar) :
    String.utf8EncodeChar (Char.ofNat n) = [b, c, d, e] := by
  rw [String.utf8EncodeChar, toNat_val_ofNat hvalid, if_neg (by omega), if_neg (by omega),
    if_neg (by omega), ofNat_eq_of_eq_toNat (b := b) (by omega),
    ofNat_eq_of_eq_toNat (b := c) (by omega), ofNat_eq_of_eq_toNat (b := d) (by omega),
    ofNat_eq_of_eq_toNat (b := e) (by omega)]

/-- The bytes of a sequence encode the character that they complete. -/
theorem encodeChar_of_closes (hlead : lead b = .opens sequence)
    (hcloses : Closes sequence bytes n) :
    String.utf8EncodeChar (Char.ofNat n) = b :: bytes := by
  revert hlead
  -- One case for each sequence that a first byte opens, with the range of its second byte.
  fun_cases lead b <;> intro hlead <;> cases hlead
  · obtain ⟨c, rfl, hc, rfl⟩ := closes_zero_iff.1 hcloses
    exact encodeChar_two (by omega) hc rfl
  · obtain ⟨c, _, rfl, hc, hlast⟩ := closes_succ_iff.1 hcloses
    obtain ⟨d, rfl, hd, rfl⟩ := closes_zero_iff.1 hlast
    exact encodeChar_three (by omega) (by omega) hd (by omega) (by omega) (Or.inl (by omega))
  · obtain ⟨c, _, rfl, hc, hlast⟩ := closes_succ_iff.1 hcloses
    obtain ⟨d, rfl, hd, rfl⟩ := closes_zero_iff.1 hlast
    -- The second byte keeps the number below the surrogates.
    exact encodeChar_three (by omega) (by omega) hd rfl (by omega) (Or.inl (by omega))
  · obtain ⟨c, _, rfl, hc, hlast⟩ := closes_succ_iff.1 hcloses
    obtain ⟨d, rfl, hd, rfl⟩ := closes_zero_iff.1 hlast
    exact encodeChar_three (by omega) hc hd rfl (by omega) (by rw [Nat.isValidChar]; omega)
  · obtain ⟨c, _, rfl, hc, hmore⟩ := closes_succ_iff.1 hcloses
    obtain ⟨d, _, rfl, hd, hlast⟩ := closes_succ_iff.1 hmore
    obtain ⟨e, rfl, he, rfl⟩ := closes_zero_iff.1 hlast
    exact encodeChar_four (by omega) (by omega) hd he (by omega) (by omega) (Or.inr (by omega))
  · obtain ⟨c, _, rfl, hc, hmore⟩ := closes_succ_iff.1 hcloses
    obtain ⟨d, _, rfl, hd, hlast⟩ := closes_succ_iff.1 hmore
    obtain ⟨e, rfl, he, rfl⟩ := closes_zero_iff.1 hlast
    exact encodeChar_four (by omega) hc hd he rfl (by omega) (Or.inr (by omega))
  · obtain ⟨c, _, rfl, hc, hmore⟩ := closes_succ_iff.1 hcloses
    obtain ⟨d, _, rfl, hd, hlast⟩ := closes_succ_iff.1 hmore
    obtain ⟨e, rfl, he, rfl⟩ := closes_zero_iff.1 hlast
    exact encodeChar_four (by omega) (by omega) hd he (by omega) (by omega) (Or.inr (by omega))

/-! ## The digits of a character -/

theorem exists_toNat_eq (h : n < 256) : ∃ b : UInt8, b.toNat = n :=
  ⟨UInt8.ofNat n, UInt8.toNat_ofNat_of_lt' h⟩

/-- A first byte opens a sequence of `more + 1` further bytes, holds the leading digit of a number
and admits its next digit. -/
def Begins (more n : Nat) : Prop :=
  ∃ b least greatest, lead b = .opens ⟨more, least, greatest, n / 64 ^ (more + 1)⟩ ∧
    least ≤ n / 64 ^ more % 64 + 0x80 ∧ n / 64 ^ more % 64 + 0x80 ≤ greatest

theorem begins_two (hsmall : 0x80 ≤ n) (hlarge : n < 0x800) : Begins 0 n := by
  obtain ⟨b, hb⟩ := exists_toNat_eq (n := n / 64 + 0xC0) (by omega)
  refine ⟨b, 0x80, 0xBF, ?_, by omega, by omega⟩
  rw [lead, if_neg (by omega), if_neg (by omega), if_pos (by omega), Lead.opens.injEq,
    Open.mk.injEq]
  omega

theorem begins_three (hsmall : 0x800 ≤ n) (hlarge : n < 0x10000) (hvalid : n.isValidChar) :
    Begins 1 n := by
  obtain ⟨b, hb⟩ := exists_toNat_eq (n := n / 4096 + 0xE0) (by omega)
  unfold Begins
  refine ⟨b, ?_⟩
  rw [lead, if_neg (by omega), if_neg (by omega), if_neg (by omega)]
  -- The first of these bytes has no small second digits, and the one of surrogates no large ones.
  by_cases hfirst : b.toNat = 0xE0
  · refine ⟨0xA0, 0xBF, ?_, by omega, by omega⟩
    rw [if_pos hfirst, Lead.opens.injEq, Open.mk.injEq]
    omega
  rw [if_neg hfirst]
  by_cases hsurrogate : b.toNat = 0xED
  · refine ⟨0x80, 0x9F, ?_, by omega, by omega⟩
    rw [if_pos hsurrogate, Lead.opens.injEq, Open.mk.injEq]
    omega
  · refine ⟨0x80, 0xBF, ?_, by omega, by omega⟩
    rw [if_neg hsurrogate, if_pos (by omega), Lead.opens.injEq, Open.mk.injEq]
    omega

theorem begins_four (hsmall : 0x10000 ≤ n) (hvalid : n.isValidChar) : Begins 2 n := by
  obtain ⟨b, hb⟩ := exists_toNat_eq (n := n / 262144 + 0xF0) (by omega)
  refine ⟨b, ?_⟩
  rw [lead, if_neg (by omega), if_neg (by omega), if_neg (by omega), if_neg (by omega),
    if_neg (by omega), if_neg (by omega)]
  -- The first of these bytes has no small second digits, and the last one no large ones.
  by_cases hfirst : b.toNat = 0xF0
  · refine ⟨0x90, 0xBF, ?_, by omega, by omega⟩
    rw [if_pos hfirst, Lead.opens.injEq, Open.mk.injEq]
    omega
  rw [if_neg hfirst]
  by_cases hinner : b.toNat < 0xF4
  · refine ⟨0x80, 0xBF, ?_, by omega, by omega⟩
    rw [if_pos hinner, Lead.opens.injEq, Open.mk.injEq]
    omega
  · refine ⟨0x80, 0x8F, ?_, by omega, by omega⟩
    rw [if_neg hinner, if_pos (by omega), Lead.opens.injEq, Open.mk.injEq]
    omega

/-- A sequence that holds the leading digits of a number is closed by those that are left. -/
theorem exists_closes_of_div_eq {more least greatest bits : Nat}
    (hbits : n / 64 ^ (more + 1) = bits) (hleast : least ≤ n / 64 ^ more % 64 + 0x80)
    (hgreatest : n / 64 ^ more % 64 + 0x80 ≤ greatest) :
    ∃ bytes, Closes ⟨more, least, greatest, bits⟩ bytes n := by
  induction more generalizing least greatest bits with
  | zero =>
    rw [pow_zero, Nat.div_one] at hleast hgreatest
    rw [zero_add, pow_one] at hbits
    obtain ⟨b, hb⟩ := exists_toNat_eq (n := n % 64 + 0x80) (by omega)
    exact ⟨[b], closes_zero_iff.2 ⟨b, rfl, by omega, by omega⟩⟩
  | succ more ih =>
    rw [pow_succ, ← Nat.div_div_eq_div_mul] at hbits
    obtain ⟨b, hb⟩ := exists_toNat_eq (n := n / 64 ^ (more + 1) % 64 + 0x80) (by omega)
    -- The digit of this byte goes behind the digits before it.
    obtain ⟨rest, hrest⟩ : ∃ rest, Closes ⟨more, 0x80, 0xBF, bits * 64 + b.toNat % 64⟩ rest n :=
      ih (by omega) (by omega) (by omega)
    exact ⟨b :: rest, closes_succ_iff.2 ⟨b, rest, rfl, by omega, hrest⟩⟩

/-- Every character that is no byte of its own is a sequence that is opened and closed. -/
theorem exists_closes_toNat {c : Char} (h : 0x80 ≤ c.toNat) :
    ∃ b sequence bytes, lead b = .opens sequence ∧ Closes sequence bytes c.toNat := by
  have hbegins : ∃ more, Begins more c.toNat := by
    rcases Nat.lt_or_ge c.toNat 0x800 with htwo | htwo
    · exact ⟨0, begins_two h htwo⟩
    rcases Nat.lt_or_ge c.toNat 0x10000 with hthree | hthree
    · exact ⟨1, begins_three htwo hthree c.valid⟩
    · exact ⟨2, begins_four hthree c.valid⟩
  obtain ⟨more, b, least, greatest, hlead, hleast, hgreatest⟩ := hbegins
  obtain ⟨bytes, hcloses⟩ := exists_closes_of_div_eq rfl hleast hgreatest
  exact ⟨b, _, bytes, hlead, hcloses⟩

/-! ## Decoding and encoding -/

theorem lead_of_lt (h : b.toNat < 0x80) : lead b = .whole (Char.ofNat b.toNat) := by
  rw [lead, if_pos h]

theorem eq_of_lead_eq_whole {c : Char} (h : lead b = .whole c) :
    b.toNat < 0x80 ∧ c = Char.ofNat b.toNat := by
  revert h
  -- Only the first case gives a whole character.
  fun_cases lead b <;> intro h <;> cases h
  next hb => exact ⟨hb, rfl⟩

theorem encodeChar_of_lt {c : Char} (h : c.toNat < 0x80) :
    String.utf8EncodeChar c = [UInt8.ofNat c.toNat] := by
  have hencode := encodeChar_one h
  rwa [Char.ofNat_toNat] at hencode

/-- An encoded character is read back, whatever follows it. -/
theorem scan_encodeChar (c : Char) (rest : List UInt8) :
    scan none (String.utf8EncodeChar c ++ rest) = some c :: scan none rest := by
  rcases Nat.lt_or_ge c.toNat 0x80 with h | h
  · have hbyte : (UInt8.ofNat c.toNat).toNat = c.toNat :=
      UInt8.toNat_ofNat_of_lt' (show c.toNat < 256 by omega)
    rw [encodeChar_of_lt h, List.singleton_append, scan, lead_of_lt (by omega), hbyte,
      Char.ofNat_toNat]
  · obtain ⟨b, sequence, bytes, hlead, hcloses⟩ := exists_closes_toNat h
    have hencode := encodeChar_of_closes hlead hcloses
    have hscan := hcloses.scan_append rest
    rw [Char.ofNat_toNat] at hencode hscan
    rw [hencode, List.cons_append, scan, hlead, ← hscan]

theorem scan_encode (chars : List Char) : scan none (encode chars) = chars.map some := by
  induction chars with
  | nil => rfl
  | cons c chars ih =>
    rw [encode, List.flatMap_cons, scan_encodeChar, List.map_cons, ← ih]
    rfl

/-- What is read without a fault is an encoding. -/
theorem eq_encode_of_scan (h : scan none bytes = chars.map some) : bytes = encode chars := by
  induction chars generalizing bytes with
  | nil =>
    cases bytes with
    | nil => rfl
    | cons b rest =>
      rw [scan] at h
      split at h
      · simp at h
      · -- Even an open sequence gives some character.
        obtain ⟨_, _, _, _, -, -, hchars, -⟩ := exists_closes_of_scan (h.trans List.map_nil.symm)
        nomatch hchars
      · simp at h
  | cons c chars ih =>
    cases bytes with
    | nil => simp [scan] at h
    | cons b rest =>
      rw [encode, List.flatMap_cons]
      rw [scan] at h
      split at h
      · next whole hlead =>
        obtain ⟨hb, rfl⟩ := eq_of_lead_eq_whole hlead
        rw [List.map_cons, List.cons.injEq, Option.some.injEq] at h
        obtain ⟨rfl, hrest⟩ := h
        rw [encodeChar_one hb, UInt8.ofNat_toNat, List.singleton_append, ih hrest]
        rfl
      · next sequence hlead =>
        obtain ⟨front, back, n, others, rfl, hcloses, hchars, hback⟩ := exists_closes_of_scan h
        obtain ⟨rfl, rfl⟩ := List.cons.inj hchars
        rw [encodeChar_of_closes hlead hcloses, List.cons_append, ih hback]
        rfl
      · simp at h

theorem mapM_id_eq_some_iff {α : Type} {found : List (Option α)} {values : List α} :
    found.mapM id = some values ↔ found = values.map some := by
  induction found generalizing values with
  | nil => cases values <;> simp
  | cons first found ih =>
    rw [List.mapM_cons]
    cases first with
    | none => cases values <;> simp
    | some value =>
      simp only [id_eq, Option.bind_eq_bind, Option.bind_some, Option.bind_eq_some_iff, ih]
      constructor
      · rintro ⟨others, rfl, h⟩
        obtain rfl := Option.some.inj h
        rfl
      · intro h
        cases values with
        | nil => nomatch h
        | cons first others =>
          obtain ⟨hfirst, hothers⟩ := List.cons.inj h
          obtain rfl := Option.some.inj hfirst
          exact ⟨others, hothers, rfl⟩

/-- The texts of bytes that are decoded are the encodings, each as what it encodes. -/
theorem decode?_eq_some_iff : decode? bytes = some chars ↔ bytes = encode chars := by
  rw [decode?, mapM_id_eq_some_iff]
  constructor
  · exact eq_encode_of_scan
  · rintro rfl
    exact scan_encode chars

theorem toString?_eq_some_iff {text : String} :
    toString? bytes = some text ↔ bytes = ofString text := by
  rw [toString?, Option.map_eq_some_iff, ofString]
  constructor
  · rintro ⟨chars, hchars, rfl⟩
    rw [String.toList_ofList]
    exact decode?_eq_some_iff.1 hchars
  · intro h
    exact ⟨text.toList, decode?_eq_some_iff.2 h, String.ofList_toList⟩

/-! ## ASCII bytes -/

/-- A character that is no byte of its own has no ASCII byte. -/
theorem ge_of_mem_encodeChar {c : Char} (h : 0x80 ≤ c.toNat) (hb : b ∈ String.utf8EncodeChar c) :
    0x80 ≤ b.toNat := by
  have hone : ¬ c.val.toNat ≤ 0x7F := Nat.not_le.2 h
  rw [String.utf8EncodeChar, if_neg hone] at hb
  split_ifs at hb <;> simp only [List.mem_cons, List.not_mem_nil, or_false] at hb
  · rcases hb with rfl | rfl <;> rw [UInt8.toNat_ofNat'] <;> omega
  · rcases hb with rfl | rfl | rfl <;> rw [UInt8.toNat_ofNat'] <;> omega
  · rcases hb with rfl | rfl | rfl | rfl <;> rw [UInt8.toNat_ofNat'] <;> omega

/-- An ASCII byte stands in the encoding of its own character only. -/
theorem not_mem_encodeChar {c : Char} (hb : b.toNat < 0x80) (hne : c.toNat ≠ b.toNat) :
    b ∉ String.utf8EncodeChar c := by
  intro hmem
  rcases Nat.lt_or_ge c.toNat 0x80 with h | h
  · rw [encodeChar_of_lt h, List.mem_singleton] at hmem
    apply hne
    rw [hmem, UInt8.toNat_ofNat_of_lt' (show c.toNat < 256 by omega)]
  · have := ge_of_mem_encodeChar h hmem
    omega

/-- No byte of another character is an ASCII character. -/
theorem not_mem_encodeChar_of_ne {c d : Char} (hd : d.toNat < 0x80) (h : c ≠ d) :
    UInt8.ofNat d.toNat ∉ String.utf8EncodeChar c := by
  have hbyte : (UInt8.ofNat d.toNat).toNat = d.toNat :=
    UInt8.toNat_ofNat_of_lt' (show d.toNat < 256 by omega)
  apply not_mem_encodeChar (by omega)
  intro hnat
  apply h
  rw [← Char.ofNat_toNat c, hnat, hbyte, Char.ofNat_toNat]

/-- A text whose encoding begins with an ASCII byte begins with its character. -/
theorem exists_cons_of_encode_eq_cons (h : encode chars = b :: bytes) (hb : b.toNat < 0x80) :
    ∃ rest, chars = Char.ofNat b.toNat :: rest ∧ encode rest = bytes := by
  cases chars with
  | nil => nomatch h
  | cons c rest =>
    rw [encode, List.flatMap_cons] at h
    rcases Nat.lt_or_ge c.toNat 0x80 with hc | hc
    · rw [encodeChar_of_lt hc, List.singleton_append] at h
      obtain ⟨rfl, hrest⟩ := List.cons.inj h
      rw [UInt8.toNat_ofNat_of_lt' (show c.toNat < 256 by omega), Char.ofNat_toNat]
      exact ⟨rest, rfl, hrest⟩
    · -- The first byte of a longer encoding is none.
      obtain ⟨first, more, hfirst⟩ :=
        List.exists_cons_of_ne_nil (String.utf8EncodeChar_ne_nil (c := c))
      have hge : 0x80 ≤ first.toNat := ge_of_mem_encodeChar hc (hfirst ▸ List.mem_cons_self)
      rw [hfirst, List.cons_append] at h
      obtain ⟨rfl, -⟩ := List.cons.inj h
      omega

end PatternRouter.Utf8
