import PatternRouter.Encoding.Utf8
import PatternRouter.Settings.Document
import PatternRouter.Settings.Validation
import PatternRouter.SystemError

/-!
# Loading settings

Settings come from the text of a file. They are taken only if the text is a document, the document
holds settings, and nothing is wrong with them.

* `parse_eq_ok_iff`: the settings that are taken are those of the document, and nothing is wrong with
  them.
-/

namespace PatternRouter

/-- Why a file gives no text. -/
inductive FileFault where
  | refused (error : SystemError)
  /-- Its bytes are not UTF-8. -/
  | notText
deriving DecidableEq, Repr

/-- Why there are no settings. -/
inductive SettingsError where
  /-- The file gives no text. -/
  | unreadable (fault : FileFault)
  /-- The text holds no settings. -/
  | malformed
  /-- Something is wrong with the settings. -/
  | invalid (faults : List SettingsFault)
deriving DecidableEq, Repr

/-- What is said of the lack of settings. Of a file and of a text it is said which of them is at
fault, and the cause is left open. -/
def SettingsError.message : SettingsError → String
  | .unreadable _ => "IO error: "
  | .malformed => "Parse error: "
  | .invalid faults => "Validation failed: " ++ ", ".intercalate (faults.map SettingsFault.message)

namespace Settings

/-- The settings that a text holds, whatever is wrong with them. -/
def ofText? (text : String) : Option Settings :=
  (Toml.Document.parse? text).bind ofEntries?

/-- The settings that a text holds, if nothing is wrong with them. -/
def parse (text : String) : Except SettingsError Settings :=
  match ofText? text with
  | none => .error .malformed
  | some settings =>
    if settings.validate = [] then .ok settings else .error (.invalid settings.validate)

/-- The settings of a file with some bytes. -/
def load (content : Except FileFault (List UInt8)) : Except SettingsError Settings :=
  match content with
  | .error fault => .error (.unreadable fault)
  | .ok bytes =>
    match Utf8.toString? bytes with
    | some text => parse text
    | none => .error (.unreadable .notText)

/-- The settings that are taken are those of the document, and nothing is wrong with them. -/
theorem parse_eq_ok_iff {text : String} {settings : Settings} :
    parse text = .ok settings ↔ ofText? text = some settings ∧ settings.validate = [] := by
  unfold parse
  cases ofText? text with
  | none => simp
  | some own =>
    by_cases clean : own.validate = []
    · simp only [if_pos clean, Except.ok.injEq, Option.some.injEq]
      exact ⟨fun same => ⟨same, same ▸ clean⟩, And.left⟩
    · simp only [if_neg clean, reduceCtorEq, Option.some.injEq, false_iff, not_and]
      exact fun same => same ▸ clean

end Settings

end PatternRouter
