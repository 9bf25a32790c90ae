import PatternRouter.Text.Pieces

/-!
# Request targets

A request names its target by a path with a query, by a whole URI with scheme and authority, by an
authority alone, or by an asterisk. A fragment is dropped. Percent signs are not looked into here.

* `Uri.parse?` reads a target.
-/

namespace PatternRouter.Http

/-- The target of a request. -/
structure Uri where
  /-- The scheme, if one is given. -/
  scheme : Option String
  /-- The authority, if one is given. -/
  authority : Option String
  /-- The path, as it is spelled. It is empty for an authority alone. -/
  path : String
  /-- The query, as it is spelled, if one is given. -/
  query : Option String
deriving DecidableEq, Repr

namespace Uri

/-- The greatest number of bytes that a target may have. -/
def maxLength : Nat := 65534

/-- The greatest number of characters that a scheme may have. -/
def maxSchemeLength : Nat := 64

/-- Whether a character may stand in a path. -/
def isPathChar (c : Char) : Bool :=
  let n := c.toNat
  n == 0x21 || n == 0x22 || (0x24 ≤ n && n ≤ 0x3B) || n == 0x3D || (0x40 ≤ n && n ≤ 0x5F) ||
    (0x61 ≤ n && n ≤ 0x7E) || 0x80 ≤ n

/-- Whether a character may stand in a query. -/
def isQueryChar (c : Char) : Bool :=
  let n := c.toNat
  n == 0x21 || (0x24 ≤ n && n ≤ 0x3B) || n == 0x3D || (0x3F ≤ n && n ≤ 0x7E) || 0x80 ≤ n

/-- Whether a character may stand in a scheme. -/
def isSchemeChar (c : Char) : Bool :=
  c.isAlphanum || c == '+' || c == '-' || c == '.' || c == '~'

/-- Whether a character may stand in an authority. A percent sign may stand in some places. -/
def isAuthorityChar (c : Char) : Bool :=
  c.isAlphanum || "!$&'()*+,-.:;=@[]_~%".toList.contains c

/-- What has been seen of an authority. Colons and percent signs count from the last `@` or `]`. -/
structure AuthorityScan where
  /-- The number of colons. -/
  colons : Nat := 0
  /-- Whether a bracket was opened. -/
  opened : Bool := false
  /-- Whether the bracket was closed. -/
  closed : Bool := false
  /-- Whether there was a percent sign. -/
  percent : Bool := false
  /-- Whether the last character was `@`. -/
  endsInAt : Bool := false
deriving DecidableEq, Repr

/-- Look at the next character of an authority. -/
def AuthorityScan.next (scan : AuthorityScan) (c : Char) : Option AuthorityScan :=
  let scan := { scan with endsInAt := false }
  if !isAuthorityChar c then none
  else if c = ':' then
    if 8 ≤ scan.colons then none else some { scan with colons := scan.colons + 1 }
  else if c = '[' then
    if scan.percent || scan.opened then none else some { scan with opened := true }
  else if c = ']' then
    if !scan.opened || scan.closed then none
    else some { scan with closed := true, colons := 0, percent := false }
  else if c = '@' then some { scan with colons := 0, percent := false, endsInAt := true }
  else if c = '%' then some { scan with percent := true }
  else some scan

/-- Whether an authority may end here. -/
def AuthorityScan.isComplete (scan : AuthorityScan) : Bool :=
  scan.opened == scan.closed && scan.colons ≤ 1 && !scan.endsInAt && !scan.percent

/-- Whether a text is an authority. The empty text is one. -/
def isAuthority (text : List Char) : Bool :=
  match text.foldlM AuthorityScan.next {} with
  | some scan => scan.isComplete
  | none => false

/-- Whether a character ends an authority. -/
def endsAuthority (c : Char) : Bool :=
  c == '/' || c == '?' || c == '#'

/-- Read a path and a query. An empty path stands for the root. -/
def pathAndQuery? (text : List Char) : Option (String × Option String) :=
  let text := (Text.cutAt '#' text).1
  let (path, query) := Text.cutAt '?' text
  if path.all isPathChar && (query.getD []).all isQueryChar then
    some (if path.isEmpty then "/" else String.ofList path, query.map String.ofList)
  else none

/-- What a text says about its scheme. -/
inductive SchemeScan where
  /-- The text begins with no scheme. -/
  | absent
  /-- The scheme is longer than a scheme may be. -/
  | tooLong
  /-- The scheme, and the text behind `://`. -/
  | found (scheme rest : List Char)
deriving DecidableEq, Repr

/-- Find the scheme that a text begins with. -/
def scanScheme (text : List Char) : SchemeScan :=
  let name := text.takeWhile isSchemeChar
  match text.drop name.length with
  | ':' :: '/' :: '/' :: rest =>
    if text.length ≤ 3 then .absent
    else if maxSchemeLength < name.length then .tooLong
    else .found name rest
  | _ => .absent

/-- Read a target. -/
def parse? (target : String) : Option Uri :=
  if maxLength < target.utf8ByteSize then none
  else
    match target.toList with
    | [] => none
    | ['*'] => some ⟨none, none, "*", none⟩
    | '/' :: rest =>
      (pathAndQuery? ('/' :: rest)).map fun (path, query) => ⟨none, none, path, query⟩
    | text =>
      match scanScheme text with
      | .tooLong => none
      | .absent =>
        if text.all (!endsAuthority ·) && isAuthority text then
          some ⟨none, some (String.ofList text), "", none⟩
        else none
      | .found name rest =>
        let authority := rest.takeWhile (!endsAuthority ·)
        if authority.isEmpty || !isAuthority authority then none
        else
          (pathAndQuery? (rest.drop authority.length)).map fun (path, query) =>
            ⟨some (String.ofList name), some (String.ofList authority), path, query⟩

end Uri

end PatternRouter.Http
