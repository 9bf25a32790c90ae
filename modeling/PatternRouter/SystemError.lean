/-!
# Errors of the system

What the system answers if it refuses something, and how that is shown.
-/

namespace PatternRouter

/-- What the system answers if it refuses something. -/
inductive SystemError where
  /-- The system gives a number for the cause. -/
  | numbered (code : Nat) (kind description : String)
  /-- What was asked for makes no sense. -/
  | invalidInput (description : String)
  /-- A host has no address. -/
  | unknownHost (description : String)
deriving DecidableEq, Repr

namespace SystemError

/-- An error as it is shown. -/
def text : SystemError → String
  | numbered code kind description =>
    "Os \x7b code: " ++ toString code ++ ", kind: " ++ kind ++ ", message: \"" ++ description ++
      "\" \x7d"
  | invalidInput description =>
    "Error \x7b kind: InvalidInput, message: \"" ++ description ++ "\" \x7d"
  | unknownHost description =>
    "Custom \x7b kind: Uncategorized, error: \"failed to lookup address information: " ++
      description ++ "\" \x7d"

/-- There is no file or directory with a name. -/
def notFound : SystemError :=
  .numbered 2 "NotFound" "No such file or directory"

/-- Something may not be done. -/
def permissionDenied : SystemError :=
  .numbered 13 "PermissionDenied" "Permission denied"

/-- A directory stands where a file was asked for. -/
def isDirectory : SystemError :=
  .numbered 21 "IsADirectory" "Is a directory"

/-- Somebody else listens at an address. -/
def addressInUse : SystemError :=
  .numbered 98 "AddrInUse" "Address already in use"

/-- The system does not have an address. -/
def addressNotAvailable : SystemError :=
  .numbered 99 "AddrNotAvailable" "Cannot assign requested address"

/-- The error with a number. Of one that is not known the description is given. -/
def ofNumber (code : Nat) (description : String) : SystemError :=
  match code with
  | 2 => notFound
  | 13 => permissionDenied
  | 21 => isDirectory
  | 98 => addressInUse
  | 99 => addressNotAvailable
  | code => .numbered code "Uncategorized" description

end SystemError

end PatternRouter
