/-! Arguments of the command line. They are read from left to right; the values of an option are
looked at once the option is closed, and that is before the next option or flag takes effect. -/
namespace PropertyAudit.CommandLine

inductive Flag where
  | json
  | checkUninitialized
deriving Repr, DecidableEq

inductive ValueOption where
  | config
  | alwaysReadTag
  | alwaysWrittenTag
  | ignore
  | output
  | jobs
deriving Repr, DecidableEq

/-- Whether the option takes all values up to the next option, and not only one. -/
def ValueOption.takesMany : ValueOption → Bool
  | ignore => true
  | _ => false

structure Arguments where
  path : Option String
  json : Bool
  config : Option String
  checkUninitialized : Bool
  alwaysReadTags : List String
  alwaysWrittenTags : List String
  ignore : List String
  output : Option String
  jobs : Option Nat
deriving Repr, DecidableEq

inductive UsageFault where
  | unexpected (word : String)
  | unneededValue (name : String)
  | missingValue (option : ValueOption)
  | repeated (name : String)
  | invalidNumber (word : String)
deriving Repr, DecidableEq

inductive Request where
  | run (arguments : Arguments)
  | help
  | version
  | refused (fault : UsageFault)
deriving Repr, DecidableEq

def flags : List (String × Flag) := [
  ("json", .json), ("check-uninitialized", .checkUninitialized)]

def valueOptions : List (String × ValueOption) := [
  ("config", .config), ("always-read-tag", .alwaysReadTag),
  ("always-written-tag", .alwaysWrittenTag), ("ignore", .ignore), ("output", .output),
  ("jobs", .jobs)]

def Flag.name : Flag → String
  | json => "json"
  | checkUninitialized => "check-uninitialized"

def ValueOption.name : ValueOption → String
  | config => "config"
  | alwaysReadTag => "always-read-tag"
  | alwaysWrittenTag => "always-written-tag"
  | ignore => "ignore"
  | output => "output"
  | jobs => "jobs"

def UsageFault.message : UsageFault → String
  | unexpected word => "unexpected argument '" ++ word ++ "' found"
  | unneededValue name => "no value is expected for '--" ++ name ++ "'"
  | missingValue option => "a value is required for '--" ++ option.name ++ "' but none was supplied"
  | repeated name => "the argument '--" ++ name ++ "' cannot be used multiple times"
  | invalidNumber word => "invalid value '" ++ word ++ "' for '--jobs'"

inductive Word where
  | flag (flag : Flag)
  | option (option : ValueOption) (attached : Option String)
  | help
  | version
  | divider
  | value (text : String)
  | refused (fault : UsageFault)

/-- A long option: its name, and the value after an equals sign. -/
def Word.ofLong (text : String) (name : String) (attached : Option String) : Word :=
  match flags.lookup name, valueOptions.lookup name, attached with
  | some known, _, none => .flag known
  | some known, _, some _ => .refused (.unneededValue known.name)
  | none, some known, attached => .option known attached
  | none, none, attached =>
    if name == "help" || name == "version" then
      if attached.isSome then .refused (.unneededValue name)
      else if name == "help" then .help
      else .version
    else .refused (.unexpected text)

/-- A lone dash is a value, and two of them divide options from values. -/
def Word.ofText (text : String) : Word :=
  match text.toList with
  | ['-', '-'] => .divider
  | '-' :: '-' :: long =>
    let name := String.ofList (long.takeWhile (· != '='))
    match long.dropWhile (· != '=') with
    | [] => .ofLong text name none
    | _ :: attached => .ofLong text name (some (String.ofList attached))
  | '-' :: 'h' :: _ => .help
  | '-' :: 'V' :: _ => .version
  | '-' :: _ :: _ => .refused (.unexpected text)
  | _ => .value text

/-- A natural number of 64 bits; a plus sign may stand before its digits. -/
def natural64? (text : String) : Option Nat :=
  let digits := match text.toList with
    | '+' :: rest => rest
    | chars => chars
  if digits.isEmpty || !digits.all Char.isDigit then none
  else
    let value := Nat.ofDigitChars 10 digits 0
    if value < UInt64.size then some value else none

namespace Arguments

def none : Arguments := ⟨.none, false, .none, false, [], [], [], .none, .none⟩

def set (arguments : Arguments) : Flag → Except UsageFault Arguments
  | .json =>
    if arguments.json then .error (.repeated Flag.json.name)
    else .ok { arguments with json := true }
  | .checkUninitialized =>
    if arguments.checkUninitialized then .error (.repeated Flag.checkUninitialized.name)
    else .ok { arguments with checkUninitialized := true }

/-- Gives an option its values. Options for one value may be given once. -/
def give (arguments : Arguments) (option : ValueOption) (values : List String) :
    Except UsageFault Arguments :=
  match values with
  | [] => .error (.missingValue option)
  | value :: _ =>
    match option with
    | .config =>
      if arguments.config.isSome then .error (.repeated option.name)
      else .ok { arguments with config := some value }
    | .alwaysReadTag =>
      .ok { arguments with alwaysReadTags := arguments.alwaysReadTags ++ values }
    | .alwaysWrittenTag =>
      .ok { arguments with alwaysWrittenTags := arguments.alwaysWrittenTags ++ values }
    | .ignore => .ok { arguments with ignore := arguments.ignore ++ values }
    | .output =>
      if arguments.output.isSome then .error (.repeated option.name)
      else .ok { arguments with output := some value }
    | .jobs =>
      if arguments.jobs.isSome then .error (.repeated option.name)
      else
        match natural64? value with
        | some jobs => .ok { arguments with jobs := some jobs }
        | .none => .error (.invalidNumber value)

/-- The one value that belongs to no option. -/
def place (arguments : Arguments) (value : String) : Except UsageFault Arguments :=
  if arguments.path.isSome then .error (.unexpected value)
  else .ok { arguments with path := some value }

end Arguments

/-- An option that may still take values, and those it has. -/
abbrev Pending := Option (ValueOption × List String)

def close (arguments : Arguments) : Pending → Except UsageFault Arguments
  | some (option, values) => arguments.give option values
  | none => .ok arguments

def placeAll (arguments : Arguments) : List String → Except UsageFault Arguments
  | [] => .ok arguments
  | value :: values => do placeAll (← arguments.place value) values

def orRefuse (next : Arguments → Request) : Except UsageFault Arguments → Request
  | .ok arguments => next arguments
  | .error fault => .refused fault

def requestFrom (arguments : Arguments) (pending : Pending) : List String → Request
  | [] => orRefuse .run (close arguments pending)
  | text :: texts =>
    match Word.ofText text with
    | .divider =>
      orRefuse .run (do placeAll (← close arguments pending) texts)
    | .refused fault => .refused fault
    | .help => orRefuse (fun _ => .help) (close arguments pending)
    | .version => orRefuse (fun _ => .version) (close arguments pending)
    | .flag flag =>
      orRefuse (requestFrom · none texts) (do (← close arguments pending).set flag)
    | .option option (some value) =>
      orRefuse (requestFrom · none texts) (do (← close arguments pending).give option [value])
    | .option option none =>
      orRefuse (requestFrom · (some (option, [])) texts) (close arguments pending)
    | .value value =>
      match pending with
      | some (option, values) =>
        let values := values ++ [value]
        if option.takesMany then requestFrom arguments (some (option, values)) texts
        else orRefuse (requestFrom · none texts) (arguments.give option values)
      | none => orRefuse (requestFrom · none texts) (arguments.place value)

def Request.ofArguments (texts : List String) : Request := requestFrom .none none texts

end PropertyAudit.CommandLine
