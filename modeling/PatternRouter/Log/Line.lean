import PatternRouter.Json
import PatternRouter.Log.Event

/-!
# Log lines

An event is written on a line, in a form for people or as a JSON object.
-/

namespace PatternRouter.Log

namespace FieldValue

/-- A value as people read it. -/
def plain : FieldValue → String
  | .text content => content
  | .number n => toString n
  | .flag b => if b then "true" else "false"

/-- A value in a JSON object. -/
def json : FieldValue → String
  | .text content => String.ofList (Json.quote content.toList)
  | .number n => toString n
  | .flag b => if b then "true" else "false"

end FieldValue

namespace Event

/-- An event as people read it: the level, the target, the message and the fields. -/
def plain (event : Event) : String :=
  let fields := event.fields.map fun (name, value) => " " ++ name ++ "=" ++ value.plain
  event.level.name ++ " " ++ event.target ++ ": " ++ event.message ++ String.join fields

/-- The blanks that fill up the name of the level, so that all are of one width. -/
def levelMargin (event : Event) : String :=
  String.ofList (List.replicate (5 - event.level.name.length) ' ')

/-- The line of an event at a time, for people. -/
def plainLine (time : String) (event : Event) : String :=
  time ++ " " ++ event.levelMargin ++ event.plain

/-- A member of a JSON object. -/
def jsonMember (name value : String) : String :=
  String.ofList (Json.quote name.toList) ++ ":" ++ value

/-- A JSON object with some members. -/
def jsonObject (members : List String) : String :=
  "\x7b" ++ ",".intercalate members ++ "\x7d"

/-- The line of an event at a time, as a JSON object. The message stands before the fields. -/
def jsonLine (time : String) (event : Event) : String :=
  let fields := (("message", .text event.message) :: event.fields).map fun (name, value) =>
    jsonMember name (FieldValue.json value)
  jsonObject
    [jsonMember "timestamp" (FieldValue.json (.text time)),
     jsonMember "level" (FieldValue.json (.text event.level.name)),
     jsonMember "fields" (jsonObject fields),
     jsonMember "target" (FieldValue.json (.text event.target))]

end Event

end PatternRouter.Log
