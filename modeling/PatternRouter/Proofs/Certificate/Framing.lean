import Mathlib.Data.List.Basic
import PatternRouter.Certificate.Pem
import PatternRouter.Proofs.Encoding.Base64

/-!
# Certificates framed by text

A certificate is written between two lines of dashes, and anything may stand before and behind it.
What a reader finds first in such a text is the certificate, as long as nothing before it is a
certificate or cannot be read.

The module introduces:

* `Line` — bytes without a line end, and the line end that follows them;
* `Frame` — a section as it is written: a line of dashes with a label, lines, and dashes again;
* `Block` — what may stand before a certificate: a line that begins no section, or a section in
  base64 with another label.

One lemma says what the reader does with each of them, whatever follows: `itemsOf_line`,
`itemsOf_frame` and `itemsOf_block`. The main statement is `firstCertificate_eq`: behind any blocks,
a frame gives its bytes, and what follows it does not matter.
-/

namespace PatternRouter.Pem

/-! ## Lines -/

/-- Whether a byte ends a line. -/
def isBreak (b : UInt8) : Bool :=
  b == 0x0A || b == 0x0D

/-- Whether bytes are the text of one line. -/
def isUnbroken (text : List UInt8) : Bool :=
  text.all fun b => !isBreak b

theorem isUnbroken_append (text more : List UInt8) :
    isUnbroken (text ++ more) = (isUnbroken text && isUnbroken more) :=
  List.all_append

/-- How a line ends. -/
inductive LineEnd where
  /-- A line feed. -/
  | lf
  /-- A carriage return. -/
  | cr
  /-- A carriage return and a line feed. -/
  | crlf
deriving DecidableEq, Repr

/-- The bytes of a line end. -/
def LineEnd.bytes : LineEnd → List UInt8
  | .lf => [0x0A]
  | .cr => [0x0D]
  | .crlf => [0x0D, 0x0A]

/-- A line. -/
structure Line where
  /-- The bytes before the line end. -/
  text : List UInt8
  ending : LineEnd
  unbroken : isUnbroken text = true

/-- The bytes of a line. -/
def Line.bytes (line : Line) : List UInt8 :=
  line.text ++ line.ending.bytes

theorem lines_ne_nil (text : List UInt8) : lines text ≠ [] := by
  fun_cases lines text <;> simp_all

theorem lines_break {b : UInt8} (h : isBreak b = true) (rest : List UInt8) :
    lines (b :: rest) = [] :: lines rest := by
  simp only [isBreak, Bool.or_eq_true, beq_iff_eq] at h
  rw [lines, if_pos h]

/-- Bytes without a line end stand at the beginning of the first line. -/
theorem lines_append {text rest line : List UInt8} {more : List (List UInt8)}
    (h : isUnbroken text = true) (hrest : lines rest = line :: more) :
    lines (text ++ rest) = (text ++ line) :: more := by
  induction text with
  | nil => exact hrest
  | cons b text ih =>
    simp only [isUnbroken, List.all_cons, Bool.and_eq_true, Bool.not_eq_true'] at h
    have hbreak : ¬ (b = 0x0A ∨ b = 0x0D) := by simpa [isBreak] using h.1
    rw [List.cons_append, lines, if_neg hbreak, ih h.2]
    rfl

/-! ## Steps of the reader -/

/-- An empty line says nothing. -/
theorem itemsOf_nil_cons (part : Option Section) (rest : List (List UInt8)) :
    itemsOf part ([] :: rest) = itemsOf part rest := by
  cases part with
  | none => rfl
  | some part =>
    obtain ⟨label, body⟩ := part
    -- The line begins with no mark, and the section gets nothing from it.
    have hstep : itemsOf (some ⟨label, body⟩) ([] :: rest) =
        itemsOf (some ⟨label, body ++ []⟩) rest := rfl
    rw [hstep, List.append_nil]

/-- A line hands on to what follows it whatever section it leaves open. -/
theorem itemsOf_cons_congr {rest more : List (List UInt8)}
    (h : ∀ part, itemsOf part rest = itemsOf part more) (part : Option Section)
    (line : List UInt8) : itemsOf part (line :: rest) = itemsOf part (line :: more) := by
  cases part <;> rw [itemsOf, itemsOf] <;> simp only [h]

/-- However a line ends, the reader goes on behind the line end. -/
theorem itemsOf_line (part : Option Section) (line : Line) (rest : List UInt8) :
    itemsOf part (lines (line.bytes ++ rest)) = itemsOf part (line.text :: lines rest) := by
  have hlines : ∀ {ending : List UInt8} {more : List (List UInt8)},
      lines (ending ++ rest) = [] :: more →
      lines (line.text ++ ending ++ rest) = line.text :: more := by
    intro ending more hmore
    rw [List.append_assoc, lines_append line.unbroken hmore, List.append_nil]
  cases hending : line.ending with
  | lf | cr =>
    rw [Line.bytes, hending, hlines (lines_break rfl rest)]
  | crlf =>
    -- An empty line is read between the two bytes.
    rw [Line.bytes, hending, hlines (lines_break rfl (0x0A :: rest)), lines_break rfl rest,
      itemsOf_cons_congr (itemsOf_nil_cons · (lines rest))]

/-! ## Labels -/

/-- Whether a byte is an upper-case letter or a digit. -/
def isLabelByte (b : UInt8) : Bool :=
  (0x41 ≤ b && b ≤ 0x5A) || (0x30 ≤ b && b ≤ 0x39)

/-- Whether a label is words of upper-case letters and digits with single spaces between them. -/
def isLabel (label : List UInt8) : Bool :=
  (label.splitOn 0x20).all fun word => !word.isEmpty && word.all isLabelByte

theorem isLabelByte_ne {b c : UInt8} (h : isLabelByte b = true) (hc : isLabelByte c = false) :
    b ≠ c := by
  rintro rfl
  exact Bool.noConfusion (h.symm.trans hc)

theorem isBreak_of_isLabelByte {b : UInt8} (h : isLabelByte b = true) : isBreak b = false := by
  have hlf : b ≠ 0x0A := isLabelByte_ne h rfl
  have hcr : b ≠ 0x0D := isLabelByte_ne h rfl
  simp [isBreak, hlf, hcr]

theorem isUnbroken_intercalate {words : List (List UInt8)}
    (h : ∀ word ∈ words, isUnbroken word = true) :
    isUnbroken ([0x20].intercalate words) = true := by
  induction words with
  | nil => rfl
  | cons word words ih =>
    rw [List.forall_mem_cons] at h
    by_cases hnil : words = []
    · subst hnil
      rw [List.intercalate_singleton]
      exact h.1
    · have hspace : isUnbroken [0x20] = true := rfl
      rw [List.intercalate_cons_of_ne_nil hnil, isUnbroken_append, isUnbroken_append, h.1, hspace,
        ih h.2]
      rfl

theorem exists_intercalate_eq_concat {words : List (List UInt8)} (hne : words ≠ [])
    (h : ∀ word ∈ words, word ≠ [] ∧ ∀ b ∈ word, isLabelByte b = true) :
    ∃ front b, [0x20].intercalate words = front ++ [b] ∧ isLabelByte b = true := by
  induction words with
  | nil => exact absurd rfl hne
  | cons word words ih =>
    rw [List.forall_mem_cons] at h
    by_cases hnil : words = []
    · subst hnil
      have hlast : isLabelByte (word.getLast h.1.1) = true := h.1.2 _ (List.getLast_mem h.1.1)
      refine ⟨word.dropLast, _, ?_, hlast⟩
      rw [List.intercalate_singleton, List.dropLast_append_getLast]
    · obtain ⟨front, b, hfront, hb⟩ := ih hnil h.2
      rw [List.intercalate_cons_of_ne_nil hnil, hfront, ← List.append_assoc]
      exact ⟨_, b, rfl, hb⟩

section

variable {label : List UInt8}

theorem isLabel_iff : isLabel label = true ↔
    ∀ word ∈ label.splitOn 0x20, word ≠ [] ∧ ∀ b ∈ word, isLabelByte b = true := by
  simp only [isLabel, List.all_eq_true, Bool.and_eq_true, Bool.not_eq_true',
    List.isEmpty_eq_false_iff]

theorem isUnbroken_of_isLabel (h : isLabel label = true) : isUnbroken label = true := by
  have hwords : ∀ word ∈ label.splitOn 0x20, isUnbroken word = true := by
    intro word hword
    refine List.all_eq_true.2 fun b hb => ?_
    rw [isBreak_of_isLabelByte ((isLabel_iff.1 h word hword).2 b hb)]
    rfl
  have hlabel := isUnbroken_intercalate hwords
  rwa [List.intercalate_splitOn] at hlabel

/-- A label does not end in a blank or a dash. -/
theorem exists_concat_of_isLabel (h : isLabel label = true) :
    ∃ front b, label = front ++ [b] ∧ isLabelByte b = true := by
  have hlast := exists_intercalate_eq_concat (List.splitOn_ne_nil 0x20 label) (isLabel_iff.1 h)
  rwa [List.intercalate_splitOn] at hlast

/-- Five dashes behind a label close it. -/
theorem label?_append_dashes (h : isLabel label = true) :
    label? (label ++ Utf8.ofString "-----") = some label := by
  -- The line is read from its end: five dashes, and the last byte of the label stops the count.
  obtain ⟨front, b, rfl, hb⟩ := exists_concat_of_isLabel h
  have hdash : b ≠ 0x2D := isLabelByte_ne hb rfl
  have hblank : ¬ (b = 0x20 ∨ b = 0x0A ∨ b = 0x0D) := by
    rintro (rfl | rfl | rfl) <;> exact absurd hb (by decide)
  have hclosing : closingDashes 5 (b :: front.reverse) (b :: front.reverse) =
      (5, b :: front.reverse) := by
    rw [closingDashes, if_neg hdash, if_neg hblank]
  have hreverse : (front ++ [b] ++ Utf8.ofString "-----").reverse =
      0x2D :: 0x2D :: 0x2D :: 0x2D :: 0x2D :: b :: front.reverse := by
    rw [List.reverse_append, List.reverse_concat]
    rfl
  have hcount : closingDashes 0 (front ++ [b] ++ Utf8.ofString "-----").reverse
      (front ++ [b] ++ Utf8.ofString "-----").reverse = (5, b :: front.reverse) := by
    rw [hreverse]
    exact hclosing
  rw [label?, hcount]
  simp

end

/-! ## Sections as they are written -/

/-- A section as it is written. -/
structure Frame where
  label : List UInt8
  isLabel : isLabel label = true
  /-- The end of the line that begins the section. -/
  opening : LineEnd
  body : List Line

namespace Frame

/-- What is read of a section. -/
def content (frame : Frame) : Section :=
  ⟨frame.label, frame.body.flatMap Line.text⟩

/-- The bytes of a section, up to the dashes that close it. -/
def bytes (frame : Frame) : List UInt8 :=
  beginMark ++ frame.label ++ Utf8.ofString "-----" ++ frame.opening.bytes ++
    frame.body.flatMap Line.bytes ++ endMark frame.label

end Frame

/-- Lines outside sections are passed over. -/
theorem itemsOf_outside {line : List UInt8} (h : ¬ beginMark <+: line)
    (rest : List (List UInt8)) : itemsOf none (line :: rest) = itemsOf none rest := by
  rw [← List.isPrefixOf_iff_prefix] at h
  rw [itemsOf, if_neg h]

/-- A line of dashes with a label begins a section. -/
theorem itemsOf_begin {label : List UInt8} (h : isLabel label = true) (rest : List (List UInt8)) :
    itemsOf none ((beginMark ++ label ++ Utf8.ofString "-----") :: rest) =
      itemsOf (some ⟨label, []⟩) rest := by
  have hprefix : beginMark.isPrefixOf (beginMark ++ (label ++ Utf8.ofString "-----")) = true :=
    List.isPrefixOf_iff_prefix.2 (List.prefix_append _ _)
  rw [List.append_assoc, itemsOf, if_pos hprefix, List.drop_left, label?_append_dashes h]
  rfl

/-- A line without dashes belongs to the section. -/
theorem itemsOf_inside {line : List UInt8} (h : 0x2D ∉ line) (part : Section)
    (rest : List (List UInt8)) :
    itemsOf (some part) (line :: rest) =
      itemsOf (some { part with body := part.body ++ line }) rest := by
  -- Both marks begin with a dash.
  have hmark : ∀ mark : List UInt8, 0x2D ∈ mark → ¬ mark.isPrefixOf line = true := by
    intro mark hdash hprefix
    exact h ((List.isPrefixOf_iff_prefix.1 hprefix).mem hdash)
  have hbegin := hmark beginMark (by decide)
  have hend := hmark (endMark part.label)
    (List.mem_append_left _ (List.mem_append_left _ (by decide)))
  simp only [itemsOf, if_neg hbegin, if_neg hend]

/-- The dashes that close a section end it, whatever follows them on their line. -/
theorem itemsOf_end (part : Section) (tail : List UInt8) (rest : List (List UInt8)) :
    itemsOf (some part) ((endMark part.label ++ tail) :: rest) =
      .found part :: itemsOf none rest := by
  -- The marks differ in the first letter.
  have hbegin : beginMark.isPrefixOf (endMark part.label ++ tail) = false := rfl
  have hend : (endMark part.label).isPrefixOf (endMark part.label ++ tail) = true :=
    List.isPrefixOf_iff_prefix.2 (List.prefix_append _ _)
  simp only [itemsOf, hbegin, if_pos hend]
  rfl

theorem itemsOf_body {body : List Line} (h : ∀ line ∈ body, 0x2D ∉ line.text) (part : Section)
    (rest : List UInt8) :
    itemsOf (some part) (lines (body.flatMap Line.bytes ++ rest)) =
      itemsOf (some { part with body := part.body ++ body.flatMap Line.text }) (lines rest) := by
  induction body generalizing part with
  | nil => simp
  | cons line body ih =>
    rw [List.forall_mem_cons] at h
    rw [List.flatMap_cons, List.append_assoc, itemsOf_line, itemsOf_inside h.1, ih h.2,
      List.flatMap_cons, ← List.append_assoc]

/-- A section is read as a whole, whatever follows it. What follows it on its last line is lost. -/
theorem itemsOf_frame {frame : Frame} (h : 0x2D ∉ frame.content.body) (rest : List UInt8) :
    itemsOf none (lines (frame.bytes ++ rest)) =
      .found frame.content :: itemsOf none (lines rest).tail := by
  have hlabel : isUnbroken frame.label = true := isUnbroken_of_isLabel frame.isLabel
  -- The line that begins the section.
  have hopen : isUnbroken (beginMark ++ frame.label ++ Utf8.ofString "-----") = true := by
    rw [isUnbroken_append, isUnbroken_append, hlabel]
    rfl
  let header : Line := ⟨beginMark ++ frame.label ++ Utf8.ofString "-----", frame.opening, hopen⟩
  have hbytes : frame.bytes ++ rest =
      header.bytes ++ (frame.body.flatMap Line.bytes ++ (endMark frame.label ++ rest)) := by
    simp only [Frame.bytes, Line.bytes, header, List.append_assoc]
  -- The lines of the section.
  have hbody : ∀ line ∈ frame.body, 0x2D ∉ line.text :=
    fun line hline hdash => h (List.mem_flatMap.2 ⟨line, hline, hdash⟩)
  -- The line that ends the section.
  have hclose : isUnbroken (endMark frame.label) = true := by
    rw [endMark, isUnbroken_append, isUnbroken_append, hlabel]
    rfl
  obtain ⟨tail, more, hrest⟩ := List.exists_cons_of_ne_nil (lines_ne_nil rest)
  rw [hbytes, itemsOf_line, itemsOf_begin frame.isLabel, itemsOf_body hbody,
    lines_append hclose hrest, hrest, List.nil_append, List.tail_cons]
  exact itemsOf_end frame.content tail more

/-! ## What stands before a certificate -/

/-- What may stand before a certificate. -/
inductive Block where
  /-- A line that begins no section. -/
  | text (line : Line) (outside : ¬ beginMark <+: line.text)
  /-- A section in base64 that is no certificate, and the end of its last line. -/
  | part (frame : Frame) (isText : Base64.IsText frame.content.body)
    (other : frame.label ≠ certificateLabel) (ending : LineEnd)

namespace Block

/-- The bytes of a block. -/
def bytes : Block → List UInt8
  | text line _ => line.bytes
  | part frame _ _ ending => frame.bytes ++ ending.bytes

/-- What is found in a block. -/
def items : Block → List Item
  | text _ _ => []
  | part frame _ _ _ => [.found frame.content]

end Block

theorem itemsOf_block (block : Block) (rest : List UInt8) :
    itemsOf none (lines (block.bytes ++ rest)) = block.items ++ itemsOf none (lines rest) := by
  cases block with
  | text line outside =>
    rw [Block.bytes, itemsOf_line, itemsOf_outside outside]
    rfl
  | part frame isText other ending =>
    have hending : itemsOf none (lines (ending.bytes ++ rest)).tail =
        itemsOf none (lines rest) := by
      cases ending with
      | lf | cr => rfl
      | crlf => exact itemsOf_nil_cons none (lines rest)
    rw [Block.bytes, List.append_assoc, itemsOf_frame isText.dash_not_mem, hending]
    rfl

theorem itemsOf_blocks (blocks : List Block) (rest : List UInt8) :
    itemsOf none (lines (blocks.flatMap Block.bytes ++ rest)) =
      blocks.flatMap Block.items ++ itemsOf none (lines rest) := by
  induction blocks with
  | nil => rfl
  | cons block blocks ih =>
    rw [List.flatMap_cons, List.append_assoc, itemsOf_block, ih, List.flatMap_cons,
      List.append_assoc]

/-- A block is passed over: what it holds can be decoded and is no certificate. -/
theorem firstCertificateOf_block (block : Block) (items : List Item) :
    firstCertificateOf (block.items ++ items) = firstCertificateOf items := by
  cases block with
  | text line outside => rfl
  | part frame isText other ending =>
    -- Whether sections of its label are decoded or not, reading goes on behind it.
    obtain ⟨bytes, hbytes⟩ := isText.exists_decode?
    have hlabel : frame.content.label ≠ certificateLabel := other
    simp only [Block.items, List.singleton_append, firstCertificateOf, hbytes, if_neg hlabel,
      ite_self]

theorem firstCertificateOf_blocks (blocks : List Block) (items : List Item) :
    firstCertificateOf (blocks.flatMap Block.items ++ items) = firstCertificateOf items := by
  induction blocks with
  | nil => rfl
  | cons block blocks ih =>
    rw [List.flatMap_cons, List.append_assoc, firstCertificateOf_block, ih]

/-- Base64 without blanks stands on one line. -/
theorem isUnbroken_encode (bytes : List UInt8) : isUnbroken (Base64.encode bytes) = true := by
  refine List.all_eq_true.2 fun b hb => ?_
  have hblank := Base64.isBlank_of_mem_encode hb
  have hlf : b ≠ 0x0A := by
    rintro rfl
    exact absurd hblank (by decide)
  have hcr : b ≠ 0x0D := by
    rintro rfl
    exact absurd hblank (by decide)
  simp [isBreak, hlf, hcr]

/-- A certificate as it is written. -/
def Frame.certificate (opening : LineEnd) (body : List Line) : Frame :=
  ⟨certificateLabel, by decide, opening, body⟩

/-- Behind blocks the first certificate is the one that is written there, whatever follows it. -/
theorem firstCertificate_eq (blocks : List Block) (opening : LineEnd) {body : List Line}
    {bytes : List UInt8}
    (hbody : (body.flatMap Line.text).filter (!Base64.isBlank ·) = Base64.encode bytes)
    (rest : List UInt8) :
    firstCertificate
      (blocks.flatMap Block.bytes ++ (Frame.certificate opening body).bytes ++ rest) =
        .ok bytes := by
  have hcontent : (Frame.certificate opening body).content =
      ⟨certificateLabel, body.flatMap Line.text⟩ := rfl
  have hdash : 0x2D ∉ (Frame.certificate opening body).content.body :=
    (Base64.spells_sextets hbody).dash_not_mem
  have hdecoded : decodedLabels.contains certificateLabel = true := by decide
  rw [firstCertificate, sections, List.append_assoc, itemsOf_blocks, firstCertificateOf_blocks,
    itemsOf_frame hdash, hcontent, firstCertificateOf, if_pos hdecoded,
    Base64.decode?_of_filter hbody]
  exact if_pos rfl

end PatternRouter.Pem
