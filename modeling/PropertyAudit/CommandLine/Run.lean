import PropertyAudit.CommandLine.Arguments
import PropertyAudit.Report

/-! Runs of the program: what it prints, how it exits, and the files it leaves. -/
namespace PropertyAudit.CommandLine

inductive RunFault where
  | noJobs
  | settings (path : Path) (fault : SettingsFault)
  | survey (path : Path) (fault : SurveyFault)
  | nulInOutput
  | absoluteOutput (path : Path)
  | outputTraversal (path : Path)
  | unwritable (path : Path) (fault : IoFault)

/-- The message of a settings fault with the start of its cause, which is told in more lines. -/
def settingsMessage (fault : SettingsFault) : String :=
  fault.message ++ match fault with
    | .unreadable _ _ => ""
    | .malformed _ => ": TOML parse error"
    | .badPattern _ => ": regex parse error"

def surveyMessage : SurveyFault → String
  | .settings fault => settingsMessage fault
  | fault => fault.message

def RunFault.message : RunFault → String
  | noJobs => "--jobs must be at least 1"
  | settings path fault =>
    "Failed to load configuration for: " ++ path.text ++ ": " ++ settingsMessage fault
  | survey path fault => "Failed to analyze: " ++ path.text ++ ": " ++ surveyMessage fault
  | nulInOutput => "Output path contains null bytes"
  | absoluteOutput path => "Output path must be relative, not absolute: " ++ path.text
  | outputTraversal path => "Path traversal (..) not allowed in output paths: " ++ path.text
  | unwritable path fault =>
    "Failed to write report to " ++ path.text ++ ": " ++ fault.message

structure Outcome where
  exit : Nat
  stdout : String
  stderr : String
  disk : Disk

/-- The path to write to: relative, and never by way of a parent directory. It is judged by its names
and used as it is written. -/
def outputPath (text : String) : Except RunFault Path :=
  let path := Path.mk text
  if text.toList.contains '\x00' then .error .nulInOutput
  else if path.isAbsolute then .error (.absoluteOutput path)
  else if path.names.contains ".." then .error (.outputTraversal path)
  else .ok path

namespace Arguments

def root (arguments : Arguments) : Path := ⟨arguments.path.getD "."⟩

/-- The plan that the arguments describe. The flag only turns checking on; settings may, too. -/
def plan (arguments : Arguments) : Plan :=
  .ofSteps arguments.root <|
    [.alwaysReadTags arguments.alwaysReadTags,
      .alwaysWrittenTags arguments.alwaysWrittenTags,
      .ignoreClasses arguments.ignore] ++
    (match arguments.config with
      | some file => [.settingsFile ⟨file⟩]
      | .none => []) ++
    (if arguments.checkUninitialized then [.checkUninitialized true] else [])

/-- The survey that the arguments ask for, and whether its report is to be JSON. -/
def survey (arguments : Arguments) (disk : Disk) : Except RunFault (Survey × Bool) := do
  if arguments.jobs == some 0 then throw .noJobs
  let settings ← (arguments.plan.settings disk).mapError (.settings arguments.root)
  let survey ← ((arguments.plan.adjust (.preload settings)).survey disk).mapError
    (.survey arguments.root)
  return (survey, arguments.json || settings.any (·.wantsJson))

end Arguments

def report (survey : Survey) (json : Bool) : String :=
  if json then survey.jsonReport ++ "\n" else survey.plainReport

def warning (survey : Survey) : String :=
  if survey.filesSkipped = 0 then ""
  else "WARN: " ++ toString survey.filesSkipped ++ " malformed fact file(s) skipped\n"

def failed (disk : Disk) (before : String) (fault : RunFault) : Outcome :=
  ⟨2, "", before ++ "[ERROR] " ++ fault.message ++ "\n", disk⟩

def save (disk : Disk) (file text : String) : Except RunFault (Path × Disk) := do
  let path ← outputPath file
  let disk ← (disk.write path (Text.bytes text)).mapError (.unwritable path)
  return (path, disk)

/-- A run exits with 0 if nothing is reported, with 1 if something is, and with 2 if it fails. -/
def Arguments.run (arguments : Arguments) (disk : Disk) : Outcome :=
  match arguments.survey disk with
  | .error fault => failed disk "" fault
  | .ok (survey, json) =>
    let exit := if survey.diagnostics.isEmpty then 0 else 1
    match arguments.output with
    | .none => ⟨exit, report survey json, warning survey, disk⟩
    | some file =>
      match save disk file (report survey json) with
      | .error fault => failed disk (warning survey) fault
      | .ok (path, disk) =>
        ⟨exit, "", warning survey ++ "Report saved to: " ++ path.text ++ "\n", disk⟩

def version : String := "deadprop-cli 0.1.0\n"

def usage : String := "Usage: deadprop [OPTIONS] [PATH]\n"

def help : String := String.join [
  "Detects unused, write-only and read-only private properties\n\n", usage,
  "\nArguments:\n",
  "  [PATH]  Fact file or directory of fact files [default: .]\n",
  "\nOptions:\n",
  "      --json                      Output results in JSON format\n",
  "      --config <FILE>             Configuration file\n",
  "      --check-uninitialized       Suppress read-only reports for properties no constructor\n",
  "                                  initializes\n",
  "      --always-read-tag <TAG>     Doc comment marker that makes a property always read\n",
  "      --always-written-tag <TAG>  Doc comment marker that makes a property always written\n",
  "      --ignore <IGNORE>...        Class names, or trailing namespace segments, to ignore\n",
  "      --output <FILE>             Write the report to a file instead of stdout\n",
  "      --jobs <N>                  Number of worker threads\n",
  "  -h, --help                      Print help\n",
  "  -V, --version                   Print version\n"]

def run (texts : List String) (disk : Disk) : Outcome :=
  match Request.ofArguments texts with
  | .run arguments => arguments.run disk
  | .help => ⟨0, help, "", disk⟩
  | .version => ⟨0, version, "", disk⟩
  | .refused fault => ⟨2, "", "error: " ++ fault.message ++ "\n\n" ++ usage, disk⟩

end PropertyAudit.CommandLine
