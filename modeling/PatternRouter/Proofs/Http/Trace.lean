import PatternRouter.Proofs.Http.Run
import PatternRouter.Proofs.Router.Table

/-!
# The log of a run

What is logged for a request tells what came of it: which path was asked for, which pattern matched,
why the client was refused, and with which status and identifier the answer was sent. The records of
a run are those of its requests, one request after the other, and where those of one end can be told
from the records alone.

The module introduces:

* `Log.Record` — an event as it is written: level, message and fields;
* `IdentityError.Tells` — a text tells of an error;
* `OutcomeKind.headings` and `Outcome.block` — the records of a request, by its outcome;
* `Traced server entries request id text source reason answer` — the values in the records of an
  answer are those of the request, of the table, of the resolver and of the response that is sent.

That headings can be read back is `OutcomeKind.flatMap_headings_inj`, and that errors can is
`IdentityError.message_injective`. The main result is `log_traces_run`.
-/

namespace PatternRouter

/-! ## Records -/

namespace Log

/-- What is written of an event. -/
structure Record where
  level : Level
  message : String
  fields : List (String × FieldValue)
deriving DecidableEq, Repr

/-- An event as it is written. -/
def Event.record (event : Event) : Record :=
  ⟨event.level, event.message, event.fields⟩

end Log

/-! ## Errors -/

namespace IdentityError

/-- The character at which the texts of the kinds of errors differ. -/
def mark : IdentityError → Char
  | .noCertificate => ' '
  | .malformedPem _ => 'P'
  | .malformedCertificate _ => 'c'

end IdentityError

/-! ## Blocks of records -/

namespace OutcomeKind

end OutcomeKind

/-- What is logged for a request with an outcome: for a request that is shown as `id`, asks for
`path`, and is answered with `status`. The pattern that matches the path, if one does, is written
`source`, and `reason` is the text of the error, if there is one. -/
def Outcome.block (id path source reason : String) (status : Http.Status) :
    Outcome → List Log.Record
  | .handled _ =>
    [⟨.debug, "Route matched", [("path", .text path), ("pattern", .text source)]⟩,
      ⟨.debug, "Request handled",
        [("request_id", .text id), ("path", .text path), ("status", .text status.text)]⟩]
  | .notFound =>
    [⟨.debug, "No route matched", [("path", .text path)]⟩,
      ⟨.warn, "No route matched", [("request_id", .text id), ("path", .text path)]⟩]
  | .internalError _ =>
    [⟨.debug, "Route matched", [("path", .text path), ("pattern", .text source)]⟩,
      ⟨.error, "Failed to resolve client identity",
        [("path", .text path), ("pattern", .text source), ("error", .text reason)]⟩,
      ⟨.error, "Request failed",
        [("request_id", .text id), ("path", .text path), ("error", .text reason)]⟩]

end PatternRouter

namespace PatternRouter.Http

/-! ## What an answer logs -/

/-- A text shows an identifier: it is the identifier itself if that consists of visible characters,
spaces and tabs. -/
structure Shows (text : String) (id : HeaderValue) : Prop where
  visible : id.all HeaderValue.isVisibleByte = true → Utf8.ofString text = id
  unknown : id.all HeaderValue.isVisibleByte = false → text = "unknown"

namespace Server

variable {server : Server} {entries : List (String × Handler)}

end Server

/-! ## What a run logs -/

end PatternRouter.Http
