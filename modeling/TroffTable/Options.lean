import TroffTable.Value
import TroffTable.Text.Blank

/-! Layout options. The separator and the expand marker are checked whenever they are
set, so options that exist are valid; the two flags may be values of any type. -/

namespace TroffTable

/-- Whether a character can separate columns: blanks and the characters with a meaning
of their own in a table's option line cannot. -/
def isSeparator (c : Char) : Bool :=
  !(isBlank c || c == '\\' || c == ';' || c == '(' || c == ')')

/-- The mark of a column that takes up extra width. -/
inductive ExpandMarker where
  | omitted
  | small
  | capital
deriving DecidableEq

def ExpandMarker.text : ExpandMarker → List Char
  | .omitted => []
  | .small => ['x']
  | .capital => ['X']

def ExpandMarker.ofText? : List Char → Option ExpandMarker
  | [] => some .omitted
  | ['x'] => some .small
  | ['X'] => some .capital
  | _ => none

structure Options where
  separator : Char := '|'
  expandMarker : ExpandMarker := .small
  failOnTableErrors : Value := .bool true
  escapeControlLines : Value := .bool true
  separator_ok : isSeparator separator = true := by decide

def Options.default : Options := {}

inductive OptionName where
  | columnSeparator
  | expandMarker
  | failOnTableErrors
  | escapeControlLines
deriving DecidableEq

def OptionName.all : List OptionName :=
  [.columnSeparator, .expandMarker, .failOnTableErrors, .escapeControlLines]

def OptionName.text : OptionName → List Char
  | .columnSeparator => "column_separator".toList
  | .expandMarker => "expand_marker".toList
  | .failOnTableErrors => "fail_on_table_errors".toList
  | .escapeControlLines => "escape_control_lines".toList

def OptionName.ofText? (s : List Char) : Option OptionName :=
  OptionName.all.find? (·.text == s)

/-- How options come about: from the defaults, or from other options. -/
inductive OptionsSource where
  | created
  | updated
deriving DecidableEq

inductive OptionsError where
  | unexpected (name : List Char)
  /-- The name of the options themselves is given as that of an option. -/
  | selfNamed (source : OptionsSource)
  /-- Something else is given in place of options. -/
  | notOptions (given : Value)
  | separatorLength (given : Value)
  | separatorCharacter (given : Value)
  | marker (given : Value)

/-- A text with the value that was given, if that can be written. -/
def gotMessage (text : String) (given : Value) : String :=
  if given.hasLongNumber then longNumberMessage else text ++ String.ofList given.shown

def OptionsError.message : OptionsError → String
  | .unexpected name =>
    "TableOptions.__init__() got an unexpected keyword argument '" ++ String.ofList name ++ "'"
  | .selfNamed source =>
    (match source with
      | .created => "TableOptions.__init__()"
      | .updated => "CloneFrozenMixin.create_updated()") ++
      " got multiple values for argument 'self'"
  | .notOptions given => "Expected TableOptions, got " ++ given.typeName
  | .separatorLength given =>
    gotMessage "column_separator must be a single character, got " given
  | .separatorCharacter given =>
    gotMessage "column_separator cannot be whitespace or one of '\\;()', got " given
  | .marker given =>
    gotMessage "expand_marker must be 'x', 'X' or empty, got " given

def readSeparator (given : Value) : Except OptionsError { c : Char // isSeparator c = true } :=
  match given with
  | .string [c] =>
    if h : isSeparator c = true then .ok ⟨c, h⟩ else .error (.separatorCharacter given)
  | _ => .error (.separatorLength given)

def readMarker (given : Value) : Except OptionsError ExpandMarker :=
  match given with
  | .string s =>
    match ExpandMarker.ofText? s with
    | some marker => .ok marker
    | none => .error (.marker given)
  | _ => .error (.marker given)

def lastSetting? (name : OptionName) (settings : List (OptionName × Value)) : Option Value :=
  settings.reverse.lookup name

/-- Sets options. Those that are not named stay as they are. -/
def Options.apply (o : Options) (settings : List (OptionName × Value)) :
    Except OptionsError Options := do
  let ⟨separator, separator_ok⟩ ← match lastSetting? .columnSeparator settings with
    | some given => readSeparator given
    | none => .ok ⟨o.separator, o.separator_ok⟩
  let expandMarker ← match lastSetting? .expandMarker settings with
    | some given => readMarker given
    | none => .ok o.expandMarker
  let failOnTableErrors := (lastSetting? .failOnTableErrors settings).getD o.failOnTableErrors
  let escapeControlLines := (lastSetting? .escapeControlLines settings).getD o.escapeControlLines
  .ok { separator, expandMarker, failOnTableErrors, escapeControlLines, separator_ok }

def selfName : List Char := "self".toList

def namedSetting (name : List Char) (given : Value) : Except OptionsError (OptionName × Value) :=
  match OptionName.ofText? name with
  | some option => .ok (option, given)
  | none => .error (if name = selfName then .selfNamed .created else .unexpected name)

/-- Sets options by their names. A name that is no option is an error, whatever the
values. -/
def Options.setNamed (o : Options) (arguments : List (List Char × Value)) :
    Except OptionsError Options := do
  o.apply (← arguments.mapM fun (name, given) => namedSetting name given)

def Options.create (arguments : List (List Char × Value)) : Except OptionsError Options :=
  Options.default.setNamed arguments

/-- The options that a value stands for: the empty value stands for the defaults, and no
other value for any. -/
def Options.ofValue : Value → Except OptionsError Options
  | .null => .ok .default
  | given => .error (.notOptions given)

def Options.update (o : Options) (arguments : List (List Char × Value)) :
    Except OptionsError Options :=
  if arguments.any (·.1 == selfName) then .error (.selfNamed .updated)
  else o.setNamed arguments

def Options.get (o : Options) : OptionName → Value
  | .columnSeparator => .string [o.separator]
  | .expandMarker => .string o.expandMarker.text
  | .failOnTableErrors => o.failOnTableErrors
  | .escapeControlLines => o.escapeControlLines

def Options.shown (o : Options) : List Char :=
  "TableOptions(".toList ++
    (commaSeparated (OptionName.all.map fun name => name.text ++ '=' :: (o.get name).shown) ++
      [')'])

def Options.equal (o o' : Options) : Bool :=
  OptionName.all.all fun name => (o.get name).equal (o'.get name)

end TroffTable
