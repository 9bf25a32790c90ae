import PatternRouter.Text.Pieces

/-!
# The command line

There are two options, each with a value and given at most once, and a request for help. An option
has a long name behind two hyphens and a letter behind one. Its value is the next argument or is
attached: to a long name behind an equals sign, to a letter with such a sign or without. An argument
that begins with a hyphen is no value of the option before it. The first fault decides, and a request
for help before it is granted.

* `CommandLine.parse` reads the arguments.
-/

namespace PatternRouter.CommandLine

/-- What can be set on the command line. -/
inductive Setting where
  /-- The file with the settings. -/
  | config
  /-- Where to listen. -/
  | bind
deriving DecidableEq, Repr

/-- An option as it is shown. -/
def Setting.usage : Setting → String
  | .config => "--config <CONFIG>"
  | .bind => "--bind <BIND>"

/-- What is set on the command line. -/
structure Options where
  /-- The file with the settings. -/
  config : Option String := none
  /-- Where to listen. -/
  bind : Option String := none
deriving DecidableEq, Repr

/-- The value of an option, if it is set. -/
def Options.get? (options : Options) : Setting → Option String
  | .config => options.config
  | .bind => options.bind

/-- Set an option. -/
def Options.set (options : Options) (value : String) : Setting → Options
  | .config => { options with config := some value }
  | .bind => { options with bind := some value }

/-- What is asked for. -/
inductive Command where
  /-- Tell how to use the program. -/
  | help
  | serve (options : Options)
deriving DecidableEq, Repr

/-- A fault in the arguments. -/
inductive UsageError where
  /-- An argument is none that is known. -/
  | unexpected (argument : String)
  /-- An option has no value. -/
  | missingValue (setting : Setting)
  /-- An option is given more than once. -/
  | repeated (setting : Setting)
  /-- The request for help has a value. -/
  | unneededValue (value : String)
deriving DecidableEq, Repr

/-- How the program is called. -/
def usage : String := "Usage: capsule-router [OPTIONS]"

/-- The lines that tell how to use the program. -/
def helpLines : List String :=
  ["Serve the built-in pages through the path-pattern router",
   "",
   usage,
   "",
   "Options:",
   "  -c, --config <CONFIG>  TOML configuration file; defaults are used when omitted",
   "  -b, --bind <BIND>      Override `listener.bind_address`",
   "  -h, --help             Print help"]

namespace UsageError

/-- What is said of a fault. -/
def summary : UsageError → String
  | unexpected argument => "unexpected argument '" ++ argument ++ "' found"
  | missingValue setting =>
    "a value is required for '" ++ setting.usage ++ "' but none was supplied"
  | repeated setting =>
    "the argument '" ++ setting.usage ++ "' cannot be used multiple times"
  | unneededValue value =>
    "unexpected value '" ++ value ++ "' for '--help' found; no more were expected"

/-- Whether it is said with a fault how the program is called. -/
def showsUsage : UsageError → Bool
  | missingValue _ => false
  | _ => true

/-- All that is said of a fault. -/
def message (error : UsageError) : String :=
  "error: " ++ error.summary ++ "\n\n" ++ (if error.showsUsage then usage ++ "\n\n" else "") ++
    "For more information, try '--help'.\n"

end UsageError

/-- An argument. -/
inductive Token where
  /-- A long name, and the value that is attached to it. -/
  | long (name : String) (value : Option String)
  /-- A letter, and what follows it. -/
  | short (letter : Char) (rest : List Char)
  /-- Anything else. -/
  | plain
deriving DecidableEq, Repr

/-- The kind of an argument. -/
def Token.ofText (text : String) : Token :=
  match text.toList with
  | '-' :: '-' :: rest =>
    let (name, value) := Text.cutAt '=' rest
    .long (String.ofList name) (value.map String.ofList)
  | '-' :: letter :: rest => .short letter rest
  | _ => .plain

/-- What has been read. -/
structure State where
  /-- The options that are set. -/
  options : Options := {}
  /-- An option that is still to be set, and its value if it has one already. -/
  pending : Option (Setting × Option String) := none
deriving DecidableEq, Repr

/-- Set an option that was given. The name of a file is not empty. -/
def assign (options : Options) (setting : Setting) (value : String) :
    Except UsageError Options :=
  if (options.get? setting).isSome then .error (.repeated setting)
  else if setting = .config ∧ value = "" then .error (.missingValue setting)
  else .ok (options.set value setting)

/-- Set the option that is still to be set. -/
def State.settle (state : State) : Except UsageError Options :=
  match state.pending with
  | none => .ok state.options
  | some (setting, none) => .error (.missingValue setting)
  | some (setting, some value) => assign state.options setting value

/-- An option is given, with the value that is attached to it. -/
def State.give (state : State) (setting : Setting) (value : Option String) :
    Except UsageError State := do
  let options ← state.settle
  match value with
  | some value => return { options := ← assign options setting value }
  | none => return { options, pending := some (setting, none) }

/-- The option with a long name. -/
def settingNamed? : String → Option Setting
  | "config" => some .config
  | "bind" => some .bind
  | _ => none

/-- The option with a letter. -/
def settingOf? : Char → Option Setting
  | 'c' => some .config
  | 'b' => some .bind
  | _ => none

/-- The value that is attached to a letter. -/
def attached : List Char → Option String
  | [] => none
  | '=' :: rest => some (String.ofList rest)
  | rest => some (String.ofList rest)

/-- Help is asked for. -/
def State.help (state : State) : Except UsageError Command := do
  let _ ← state.settle
  return .help

/-- Read the arguments that are left. Behind two hyphens there must be none. -/
def State.read (state : State) : List String → Except UsageError Command
  | [] => state.settle.map .serve
  | argument :: rest =>
    if argument = "--" then
      match rest with
      | [] => state.settle.map .serve
      -- The program takes nothing but options.
      | next :: _ => .error (.unexpected next)
    else
      match Token.ofText argument with
      | .long name value =>
        match settingNamed? name with
        | some setting =>
          match state.give setting value with
          | .ok state => state.read rest
          | .error error => .error error
        | none =>
          if name = "help" then
            match value with
            | none => state.help
            | some value => .error (.unneededValue value)
          else .error (.unexpected ("--" ++ name))
      | .short letter following =>
        match settingOf? letter with
        | some setting =>
          match state.give setting (attached following) with
          | .ok state => state.read rest
          | .error error => .error error
        | none =>
          if letter = 'h' then state.help
          else .error (.unexpected (String.ofList ['-', letter]))
      | .plain =>
        -- Only an option that waits for its value takes an argument without a hyphen.
        match state.pending with
        | some (setting, none) =>
          { state with pending := some (setting, some argument) }.read rest
        | _ => .error (.unexpected argument)

/-- Read the arguments. -/
def parse (arguments : List String) : Except UsageError Command :=
  State.read {} arguments

end PatternRouter.CommandLine
