import PatternRouter.Log.Event
import PatternRouter.Text.Pieces

/-!
# Filters of log events

A filter is a row of directives with commas between them. A directive gives the least level of the
events of some targets: `target=level` those of targets that begin with a text, `level` alone those
of all targets; `target` alone lets all their events through. In brackets it may ask for a span of
time that an event must lie in, or for a field that it must have. Of the directives that are about an
event the one with the longest target decides, and of two with one target the later one. An event
that no directive is about does not pass.

* `Filter.parse?` reads a filter strictly, `Filter.parse` passes over what is no directive.
* `Filter.passes` says whether an event is written.
-/

namespace PatternRouter.Log

/-- The least level that passes. There is none if nothing passes. -/
abbrev Threshold := Option Level

namespace Threshold

/-- Whether events of a level pass. -/
def passes (threshold : Threshold) (level : Level) : Bool :=
  match threshold with
  | some least => level.rank ≤ least.rank
  | none => false

/-- The threshold with a number. -/
def ofNumber? : Nat → Option Threshold
  | 0 => some none
  | 1 => some (some .error)
  | 2 => some (some .warn)
  | 3 => some (some .info)
  | 4 => some (some .debug)
  | 5 => some (some .trace)
  | _ => none

/-- The threshold with a name, which stands here in lower case. -/
def ofName? : String → Option Threshold
  | "off" => some none
  | "error" => some (some .error)
  | "warn" => some (some .warn)
  | "info" => some (some .info)
  | "debug" => some (some .debug)
  | "trace" => some (some .trace)
  | _ => none

/-- The number that digits spell, behind a plus sign or without one. -/
def number? (text : List Char) : Option Nat :=
  let digits := if text.head? = some '+' then text.tail else text
  if digits.isEmpty || !digits.all Char.isDigit then none
  else some (digits.foldl (fun n c => n * 10 + (c.toNat - 0x30)) 0)

/-- Read a threshold: a number from 0 to 5, or a name in any case. -/
def parse? (text : List Char) : Option Threshold :=
  ((number? text).bind ofNumber?) <|> ofName? (String.ofList text).toLower

end Threshold

/-- Whom a directive is about, and what it lets through. -/
structure Directive where
  /-- How the target begins, if the directive is not about all targets. -/
  target : Option String := none
  /-- The field that an event must have, if one is asked for. -/
  field : Option String := none
  /-- Whether an event must lie in a span of time. -/
  inSpan : Bool := false
  /-- The least level that passes. -/
  threshold : Threshold := some .trace
deriving DecidableEq, Repr

/-- Why a text is no directive. -/
inductive DirectiveError where
  /-- It does not have the form of one. -/
  | malformed
  /-- What stands behind the equals sign is no level. -/
  | unknownLevel
deriving DecidableEq, Repr

/-- What is said of a text that is no directive. -/
def DirectiveError.message : DirectiveError → String
  | .malformed => "invalid filter directive"
  | .unknownLevel =>
    "error parsing level filter: expected one of \"off\", \"error\", \"warn\", \"info\", \"debug\", " ++
      "\"trace\", or a number 0-5"

namespace Directive

/-- Whether a character may begin the target of a directive. Beyond ASCII every one may. -/
def isTargetStart (c : Char) : Bool :=
  c.isAlphanum || c == '-' || c == ':' || c == '_' || 0x80 ≤ c.toNat

/-- Read what follows whom a directive is about: the end, or a level behind an equals sign. -/
def readLevel (directive : Directive) : List Char → Except DirectiveError Directive
  | [] => .ok directive
  -- An equals sign without a level asks for everything, like none at all.
  | '=' :: [] => .ok directive
  | '=' :: text =>
    match Threshold.parse? text with
    | some threshold => .ok { directive with threshold }
    | none => .error .unknownLevel
  | _ => .error .malformed

/-- Read what stands behind an opening bracket: the name of a span, and a field between braces. A
field with a value is looked for in spans. -/
def readScope (directive : Directive) (text : List Char) : Except DirectiveError Directive :=
  let name := text.takeWhile fun c => c != ']' && c != '\x7b'
  match text.drop name.length with
  | ']' :: rest => readLevel { directive with inSpan := true } rest
  | '\x7b' :: rest =>
    let field := rest.takeWhile (· != '\x7d')
    if field.isEmpty then .error .malformed
    else
      match rest.drop field.length with
      | '\x7d' :: ']' :: rest =>
        let inSpan := !name.isEmpty || field.contains '='
        readLevel { directive with field := some (String.ofList field), inSpan } rest
      | _ => .error .malformed
  | _ => .error .malformed

/-- A text without the blanks around it. -/
def trimBlanks (text : List Char) : List Char :=
  ((text.dropWhile Char.isWhitespace).reverse.dropWhile Char.isWhitespace).reverse

/-- Read a directive. -/
def parse (text : List Char) : Except DirectiveError Directive :=
  match trimBlanks text with
  | [] => .error .malformed
  | '[' :: rest => readScope {} rest
  | c :: rest =>
    if isTargetStart c then
      let target := (c :: rest).takeWhile fun c => c != '=' && c != '['
      let directive : Directive := { target := some (String.ofList target) }
      match (c :: rest).drop target.length with
      | [] =>
        match Threshold.parse? target with
        | some threshold => .ok { threshold }
        | none => .ok directive
      | '[' :: rest => readScope directive rest
      | rest => readLevel directive rest
    else .error .malformed

/-- Whether a directive is about an event outside any span. -/
def isAbout (directive : Directive) (event : Event) : Bool :=
  !directive.inSpan &&
  (match directive.target with
    | some target => target.toList.isPrefixOf event.target.toList
    | none => true) &&
  match directive.field with
  | some field => field == "message" || (event.fields.map Prod.fst).contains field
  | none => true

/-- How long the target of a directive is. It counts as one longer than it is, so that an empty
target counts more than none. -/
def targetSize (directive : Directive) : Nat :=
  match directive.target with
  | some target => target.length + 1
  | none => 0

/-- Whether the first directive yields to the second, which comes later. -/
def yieldsTo (first second : Directive) : Bool :=
  first.targetSize < second.targetSize ||
    (first.targetSize == second.targetSize && (first.field.isNone || second.field.isSome))

end Directive

/-- Directives, in their order. -/
structure Filter where
  directives : List Directive
deriving DecidableEq, Repr

namespace Filter

/-- The texts between the commas of a filter, empty ones left out. -/
def texts (text : String) : List (List Char) :=
  (Text.pieces ',' text.toList).filter (!·.isEmpty)

/-- The filter of directives. Without any there is one about all targets. -/
def ofDirectives (fallback : Threshold) (directives : List Directive) : Filter :=
  if directives.isEmpty then ⟨[{ threshold := fallback }]⟩ else ⟨directives⟩

/-- Read a filter. Without a directive nothing passes. -/
def parse? (text : String) : Option Filter :=
  match (texts text).mapM Directive.parse with
  | .ok directives => some (ofDirectives none directives)
  | .error _ => none

/-- Read a filter and pass over what is no directive. Without a directive errors pass. -/
def parse (text : String) : Filter :=
  ofDirectives (some .error) ((texts text).filterMap fun text => (Directive.parse text).toOption)

/-- What is said of the texts that are no directives. -/
def complaints (text : String) : List String :=
  (texts text).filterMap fun text =>
    match Directive.parse text with
    | .ok _ => none
    | .error error => some ("ignoring `" ++ String.ofList text ++ "`: " ++ error.message)

/-- The directive that decides about an event. -/
def deciding? (filter : Filter) (event : Event) : Option Directive :=
  filter.directives.foldl (fun best directive =>
    if directive.isAbout event then
      match best with
      | some other => if other.yieldsTo directive then some directive else best
      | none => some directive
    else best) none

/-- Whether an event is written. -/
def passes (filter : Filter) (event : Event) : Bool :=
  match filter.deciding? event with
  | some directive => directive.threshold.passes event.level
  | none => false

end Filter

end PatternRouter.Log
