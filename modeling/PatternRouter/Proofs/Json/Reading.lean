import PatternRouter.Json
import PatternRouter.Proofs.Encoding.Utf8
import PatternRouter.Text.Character

/-!
# Reading JSON objects

A reader for what `Json.object` writes: an object whose values are texts and nulls. It knows all
ways in which JSON spells a character of a text, also those that are not written here, and takes
blanks wherever JSON admits them. Behind the object nothing but blanks may stand, and the text must
come as UTF-8.

* `readText?_escapeChar`: a written character is read as one character, whatever follows it, so no
  character ends a text before its quotation mark.
* `readBytes?_object`: a written object is read as its members.
* `ofString_object_injective`: different members are written differently.
-/

namespace PatternRouter.Json

/-! ## Texts -/

/-- The number that four hexadecimal digits spell. -/
def unit? (a b c d : Char) : Option Nat := do
  let high := (← Text.digitValue? 16 a.toNat) * 16 + (← Text.digitValue? 16 b.toNat)
  let low := (← Text.digitValue? 16 c.toNat) * 16 + (← Text.digitValue? 16 d.toNat)
  return high * 256 + low

/-- The character for which a letter behind a backslash stands. -/
def shortEscape? (letter : Char) : Option Char :=
  [('"', '"'), ('\\', '\\'), ('/', '/'), ('b', '\x08'), ('f', '\x0C'), ('n', '\n'), ('r', '\r'),
    ('t', '\t')].lookup letter

/-- Whether a number is the first one of a pair that stands for one character. -/
def isHighSurrogate (n : Nat) : Bool := 0xD800 ≤ n && n < 0xDC00

/-- Whether a number is the second one of a pair that stands for one character. -/
def isLowSurrogate (n : Nat) : Bool := 0xDC00 ≤ n && n < 0xE000

/-- Put a character before a text that was read. -/
def consText (c : Char) (read : List Char × List Char) : List Char × List Char :=
  (c :: read.1, read.2)

/-- Read a text up to the quotation mark that closes it, and give what stands behind. A character
behind a backslash is a letter of its own or four digits, and a character that four digits cannot
spell takes a pair. Controls must be escaped. -/
def readText? : List Char → Option (List Char × List Char)
  | [] => none
  | '"' :: rest => some ([], rest)
  | '\\' :: 'u' :: a :: b :: c :: d :: rest =>
    match unit? a b c d with
    | none => none
    | some n =>
      if isHighSurrogate n then
        match rest with
        | '\\' :: 'u' :: a :: b :: c :: d :: rest =>
          match unit? a b c d with
          | none => none
          | some m =>
            if isLowSurrogate m then
              (readText? rest).map
                (consText (Char.ofNat (0x10000 + (n - 0xD800) * 0x400 + (m - 0xDC00))))
            else none
        | _ => none
      else if isLowSurrogate n then none
      else (readText? rest).map (consText (Char.ofNat n))
  | '\\' :: letter :: rest =>
    match shortEscape? letter with
    | none => none
    | some c => (readText? rest).map (consText c)
  | c :: rest => if c.toNat < 0x20 then none else (readText? rest).map (consText c)

/-! ## Objects -/

/-- Pass over blanks. -/
def skipBlanks (chars : List Char) : List Char :=
  chars.dropWhile fun c => c == ' ' || c == '\t' || c == '\n' || c == '\r'

/-- Read a value and give what stands behind it. -/
def readValue? : List Char → Option (Value × List Char)
  | '"' :: rest => (readText? rest).map fun (text, rest) => (.text (String.ofList text), rest)
  | 'n' :: 'u' :: 'l' :: 'l' :: rest => some (.null, rest)
  | _ => none

/-- Read a member and give what stands behind it. -/
def readMember? : List Char → Option (Member × List Char)
  | '"' :: rest => do
    let (name, rest) ← readText? rest
    match skipBlanks rest with
    | ':' :: rest => do
      let (value, rest) ← readValue? (skipBlanks rest)
      return (⟨String.ofList name, value⟩, rest)
    | _ => none
  | _ => none

/-- Read at most `limit` members up to the brace behind them, and give what stands behind it. -/
def readMembers? : Nat → List Char → Option (List Member × List Char)
  | 0, _ => none
  | limit + 1, chars => do
    let (member, rest) ← readMember? (skipBlanks chars)
    match skipBlanks rest with
    | '}' :: rest => return ([member], rest)
    | ',' :: rest => do
      let (members, rest) ← readMembers? limit rest
      return (member :: members, rest)
    | _ => none

/-- Read the members of an object, of which there may be none, up to the brace behind them. -/
def readBody? (chars : List Char) : Option (List Member × List Char) :=
  match skipBlanks chars with
  | '}' :: rest => some ([], rest)
  | _ => readMembers? chars.length chars

/-- The members of the object that a text is, in their order. -/
def read? (text : String) : Option (List Member) :=
  match skipBlanks text.toList with
  | '{' :: rest => do
    let (members, rest) ← readBody? rest
    if skipBlanks rest = [] then return members else none
  | _ => none

/-- The members of the object that bytes are, in their order. -/
def readBytes? (bytes : List UInt8) : Option (List Member) :=
  (Utf8.toString? bytes).bind read?

/-! ## What is written -/

/-- The digits of a control are read as its number. -/
theorem unit?_hexDigit {n : Nat} (h : n < 0x20) :
    unit? '0' '0' (hexDigit (n / 16)) (hexDigit (n % 16)) = some n := by
  have hall : ∀ n : Fin 0x20,
      unit? '0' '0' (hexDigit (n / 16)) (hexDigit (n % 16)) = some n.val := by
    decide
  exact hall ⟨n, h⟩

/-- A written character is read as one character, whatever follows it. -/
theorem readText?_escapeChar (c : Char) (rest : List Char) :
    readText? (escapeChar c ++ rest) = (readText? rest).map (consText c) := by
  fun_cases escapeChar c
  -- The characters with a letter of their own.
  iterate 7 (subst c; rfl)
  case case8 hquote hback hb hf hn hr ht hcontrol =>
    -- A control is below all surrogates.
    have hhigh : isHighSurrogate c.toNat = false := by simp [isHighSurrogate]; omega
    have hlow : isLowSurrogate c.toNat = false := by simp [isLowSurrogate]; omega
    simp [readText?, unit?_hexDigit hcontrol, hhigh, hlow]
  case case9 hquote hback hb hf hn hr ht hcontrol =>
    simp [readText?, hback, hcontrol]

/-- A written text is read up to the quotation mark that closes it. -/
theorem readText?_flatMap (text rest : List Char) :
    readText? (text.flatMap escapeChar ++ '"' :: rest) = some (text, rest) := by
  induction text with
  | nil => rfl
  | cons c text ih => rw [List.flatMap_cons, List.append_assoc, readText?_escapeChar, ih]; rfl

theorem readValue?_render (value : Value) (rest : List Char) :
    readValue? (value.render ++ rest) = some (value, rest) := by
  cases value with
  | null => rfl
  | text content =>
    rw [Value.render, quote, List.cons_append, List.append_assoc, List.singleton_append, readValue?,
      readText?_flatMap, Option.map_some]
    exact congrArg (fun text => some (Value.text text, rest)) String.ofList_toList

/-- A value begins with no blank. -/
theorem skipBlanks_render (value : Value) (rest : List Char) :
    skipBlanks (value.render ++ rest) = value.render ++ rest := by
  cases value <;> rfl

theorem readMember?_render (member : Member) (rest : List Char) :
    readMember? (member.render ++ rest) = some (member, rest) := by
  obtain ⟨name, value⟩ := member
  have hcolon : skipBlanks (':' :: (value.render ++ rest)) = ':' :: (value.render ++ rest) := rfl
  rw [Member.render, quote, List.append_assoc, List.cons_append, List.cons_append,
    List.append_assoc, List.singleton_append, readMember?, readText?_flatMap]
  simp [hcolon, skipBlanks_render, readValue?_render]

/-- A member begins with a quotation mark. -/
theorem skipBlanks_member (member : Member) (rest : List Char) :
    skipBlanks (member.render ++ rest) = member.render ++ rest := rfl

theorem renderMembers_cons (member : Member) {members : List Member} (hne : members ≠ []) :
    renderMembers (member :: members) = member.render ++ ',' :: renderMembers members := by
  rw [renderMembers]
  exact hne

/-- Members are read up to the brace behind them, if there may be that many. -/
theorem readMembers?_renderMembers {limit : Nat} {members : List Member} (hne : members ≠ [])
    (hlimit : members.length ≤ limit) (rest : List Char) :
    readMembers? limit (renderMembers members ++ '}' :: rest) = some (members, rest) := by
  induction members generalizing limit with
  | nil => exact absurd rfl hne
  | cons member members ih =>
    cases limit with
    | zero => nomatch hlimit
    | succ limit =>
      cases members with
      | nil =>
        rw [renderMembers, readMembers?, skipBlanks_member, readMember?_render]
        rfl
      | cons next others =>
        -- A comma stands between this member and those that follow.
        have hrest := ih (List.cons_ne_nil next others) (Nat.le_of_succ_le_succ hlimit)
        have hcomma : ∀ chars, skipBlanks (',' :: chars) = ',' :: chars := fun _ => rfl
        rw [renderMembers_cons member (List.cons_ne_nil next others), List.append_assoc,
          List.cons_append, readMembers?, skipBlanks_member, readMember?_render]
        simp [hcomma, hrest]

theorem length_le_length_renderMembers (members : List Member) :
    members.length ≤ (renderMembers members).length := by
  induction members with
  | nil => exact Nat.le_refl 0
  | cons member members ih =>
    cases members with
    | nil => simp [renderMembers, Member.render, quote]
    | cons next others =>
      have hcomma : (',' :: renderMembers (next :: others)).length =
          (renderMembers (next :: others)).length + 1 := rfl
      rw [renderMembers_cons member (List.cons_ne_nil next others), List.length_append, hcomma,
        List.length_cons]
      omega

theorem readBody?_renderMembers (members : List Member) (rest : List Char) :
    readBody? (renderMembers members ++ '}' :: rest) = some (members, rest) := by
  cases members with
  | nil => rfl
  | cons member members =>
    have hlimit : (member :: members).length ≤
        (renderMembers (member :: members) ++ '}' :: rest).length := by
      rw [List.length_append]
      exact Nat.le_add_right_of_le (length_le_length_renderMembers _)
    rw [← readMembers?_renderMembers (List.cons_ne_nil member members) hlimit rest]
    -- The first member begins with a quotation mark, which is no brace.
    cases members <;> rfl

/-- A written object is read as its members. -/
theorem read?_object (members : List Member) : read? (object members) = some members := by
  have htext : (object members).toList = '{' :: (renderMembers members ++ ['}']) :=
    String.toList_ofList
  have hbrace : ∀ chars, skipBlanks ('{' :: chars) = '{' :: chars := fun _ => rfl
  have hend : skipBlanks [] = [] := rfl
  rw [read?, htext, hbrace]
  simp [readBody?_renderMembers, hend]

/-- The bytes of a written object are read as its members. -/
theorem readBytes?_object (members : List Member) :
    readBytes? (Utf8.ofString (object members)) = some members := by
  rw [readBytes?, Utf8.toString?_eq_some_iff.2 rfl, Option.bind_some, read?_object]

/-- Different members are written differently. -/
theorem ofString_object_injective :
    Function.Injective fun members => Utf8.ofString (object members) := by
  intro members members' h
  have hread := congrArg readBytes? h
  rw [readBytes?_object, readBytes?_object] at hread
  exact Option.some.inj hread

end PatternRouter.Json
