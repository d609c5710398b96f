import TroffTable.Layout.Piece

/-! Reports of errors by kind: what each kind is given, what it says, and which more
general kinds it belongs to. -/

namespace TroffTable

/-- The kinds of errors. Parsing errors and configuration errors are general errors, and
the two faults of a table are parsing errors. -/
inductive ErrorKind where
  | general
  | parsing
  | malformedSpan
  | missingName
  | config
deriving DecidableEq

def ErrorKind.label : ErrorKind → String
  | .general => "Html2TblError"
  | .parsing => "ParsingError"
  | .malformedSpan => "MalformedSpanAttributeError"
  | .missingName => "MissingStructuralNameError"
  | .config => "ConfigError"

def ErrorKind.ofName? (name : String) : Option ErrorKind :=
  if name = "MalformedSpanAttribute" then some .malformedSpan
  else if name = "MissingStructuralName" then some .missingName
  else [ErrorKind.general, .parsing, .malformedSpan, .missingName, .config].find? (·.label == name)

/-- A kind and the more general ones it belongs to, from the kind itself upwards. -/
def ErrorKind.lineage : ErrorKind → List ErrorKind
  | .general => [.general]
  | .parsing => [.parsing, .general]
  | .malformedSpan => [.malformedSpan, .parsing, .general]
  | .missingName => [.missingName, .parsing, .general]
  | .config => [.config, .general]

/-- The names of what a report of a kind is given, those that must be given first. -/
def ErrorKind.required : ErrorKind → List String
  | .general | .parsing | .config => ["message"]
  | .malformedSpan => ["attribute_name", "value"]
  | .missingName => []

def ErrorKind.optional : ErrorKind → List String
  | .general => ["original_error"]
  | .parsing | .malformedSpan => ["parsing_stage", "original_error"]
  | .missingName => ["message", "parsing_stage"]
  | .config => ["config_path", "original_error"]

/-- The names under which a report of a kind keeps what it was given. -/
def ErrorKind.fields : ErrorKind → List String
  | .general => []
  | .parsing | .missingName => ["parsing_stage"]
  | .malformedSpan => ["parsing_stage", "attribute_name", "value"]
  | .config => ["config_path"]

structure ErrorReport where
  kind : ErrorKind
  message : Value
  /-- The text of the error behind this one. -/
  cause : Option (List Char)
  fields : List (String × Value)

/-- Why a report cannot be made. -/
inductive ReportError where
  | unexpected (kind : ErrorKind) (name : String)
  /-- The name of the report itself is given as that of a part. -/
  | selfNamed (kind : ErrorKind)
  | missing (kind : ErrorKind) (names : List String)

def quotedName (name : String) : String :=
  "'" ++ name ++ "'"

def ReportError.message : ReportError → String
  | .unexpected kind name =>
    kind.label ++ ".__init__() got an unexpected keyword argument " ++ quotedName name
  | .selfNamed kind => kind.label ++ ".__init__() got multiple values for argument 'self'"
  | .missing kind names =>
    kind.label ++ ".__init__() missing " ++ toString names.length ++
      " required positional argument" ++ (if names.length = 1 then "" else "s") ++ ": " ++
      " and ".intercalate (names.map quotedName)

def ErrorKind.reportMessage (kind : ErrorKind) (given : String → Value) : Value :=
  match kind with
  | .malformedSpan =>
    .string ("Invalid ".toList ++ ((given "attribute_name").plain ++ (" value ".toList ++
      ((given "value").shown ++ ": expected a positive integer".toList))))
  | .missingName =>
    if (given "message").truthy then given "message"
    else .string (LayoutError.unnamedNode .format).message.toList
  | _ => given "message"

/-- Makes a report of a kind. What may be given and is not counts as null. -/
def makeReport (kind : ErrorKind) (arguments : List (String × Value)) :
    Except ReportError ErrorReport :=
  let known := kind.required ++ kind.optional
  match arguments.find? fun (name, _) => !known.contains name with
  | some (name, _) => .error (if name = "self" then .selfNamed kind else .unexpected kind name)
  | none =>
    let missing := kind.required.filter fun name => (arguments.lookup name).isNone
    if missing.isEmpty then
      let given name := (arguments.lookup name).getD .null
      .ok { kind
            message := kind.reportMessage given
            cause := match given "original_error" with
              | .null => none
              | v => some v.plain
            fields := kind.fields.map fun name => (name, given name) }
    else .error (.missing kind missing)

/-- The report of a span that cannot be read in a stage. Too many digits are no fault of a span,
and have none. -/
def SpanError.report? (stage : Value) : SpanError → Option ErrorReport
  | .malformed key value =>
    (makeReport .malformedSpan [("attribute_name", .string key), ("value", .string value),
      ("parsing_stage", stage)]).toOption
  | .longNumeral _ => none

end TroffTable
