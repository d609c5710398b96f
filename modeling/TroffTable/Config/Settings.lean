import TroffTable.Options
import TroffTable.Config.Read

/-! Options from the entries of a configuration. A key is an option's name, with dashes
or low lines; of several keys for one option the last counts. -/

namespace TroffTable

inductive SettingError where
  | unknownOption (key : List Char)
  /-- A key is a number with too many digits to be written. -/
  | longKey
  | invalid (e : OptionsError)

def optionNames : List (List Char) :=
  [OptionName.columnSeparator, .escapeControlLines, .expandMarker, .failOnTableErrors].map (·.text)

def SettingError.message : SettingError → String
  | .unknownOption key =>
    "Unknown option '" ++ String.ofList key ++ "'. Valid options: " ++
      String.ofList (commaSeparated optionNames)
  | .longKey => longNumberMessage
  | .invalid e => "Invalid configuration: " ++ e.message

def settingName? (key : Value) : Option OptionName :=
  OptionName.ofText? (key.plain.map fun c => if c = '-' then '_' else c)

/-- Sets options by the entries of a configuration. A key that names no option is an
error, whatever the values. -/
def Options.configure (o : Options) (entries : Entries) : Except SettingError Options := do
  let settings ← entries.mapM fun (key, given) =>
    if key.hasLongNumber then .error .longKey
    else
      match settingName? key with
      | some option => .ok (option, given)
      | none => .error (.unknownOption key.plain)
  (o.apply settings).mapError .invalid

end TroffTable
