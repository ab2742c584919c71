import EventFilter.Settings.Validation
import EventFilter.Yaml.Document

/-!
Settings from YAML texts and files.
-/

namespace EventFilter

inductive SettingsFault where
  | noFile
  | notUtf8
  | yaml (fault : Yaml.Fault)
  | invalid (problems : List Problem)
deriving DecidableEq

/-- Whether a document says nothing: null, false, zero, or an empty text or collection. -/
def Value.isVacant : Value → Bool
  | .null => true
  | .flag isSet => !isSet
  | .integer value => value == 0
  | .real (.finite _ units) => units == 0
  | .real _ => false
  | .text content => content.isEmpty
  | .other _ _ => false
  | .list items => items.isEmpty
  | .map entries => entries.isEmpty

namespace Settings

/-- A document that says nothing stands for the usual settings. -/
def ofYaml (text : Text) : Except SettingsFault Settings := do
  let value ← (Yaml.read text).mapError SettingsFault.yaml
  (validate (if value.isVacant then .map [] else value)).mapError SettingsFault.invalid

def unifyLineEnds : Text → Text
  | '\r' :: '\n' :: rest => '\n' :: unifyLineEnds rest
  | '\r' :: rest => '\n' :: unifyLineEnds rest
  | character :: rest => character :: unifyLineEnds rest
  | [] => []

def ofFile (content : Option ByteArray) : Except SettingsFault Settings :=
  match content with
  | none => .error .noFile
  | some octets =>
    match String.fromUTF8? octets with
    | none => .error .notUtf8
    | some text => ofYaml (unifyLineEnds text.toList)

end Settings

end EventFilter
