import PropertyAudit.Disk
import PropertyAudit.Settings
import PropertyAudit.Toml.Document

/-! Settings from a file. -/
namespace PropertyAudit

inductive SettingsFault where
  | unreadable (path : Path) (fault : IoFault)
  | malformed (path : Path)
  /-- The rule of that number has a pattern that cannot be read. -/
  | badPattern (number : Nat)
deriving Repr, DecidableEq

def SettingsFault.message : SettingsFault → String
  | .unreadable path fault => "Failed to read " ++ path.text ++ ": " ++ fault.message
  | .malformed path => "Invalid config file " ++ path.text
  | .badPattern number => "Invalid pattern in [[extensions]] entry #" ++ toString number

namespace Toml

def optionally (decode : Toml → Option α) : Option Toml → Option (Option α)
  | none => some none
  | some value => (decode value).map some

def rule? (value : Toml) : Option Rule := do
  let fields ← value.fields?
    ["property", "attribute", "class", "always_read", "always_written", "initialized"] 3
  match fields with
  | [property, attributeName, className, alwaysRead, alwaysWritten, initialized] => do
    some {
      propertyPattern := ← optionally string? property
      attributeName := ← optionally string? attributeName
      classPattern := ← optionally string? className
      alwaysRead := (← optionally boolean? alwaysRead).getD false
      alwaysWritten := (← optionally boolean? alwaysWritten).getD false
      initialized := (← optionally boolean? initialized).getD false }
  | _ => none

def reportSettings? (value : Toml) : Option ReportSettings := do
  match ← value.fields? ["format"] 1 with
  | [format] => do some { format := ← optionally string? format }
  | _ => none

def settings? (value : Toml) : Option Settings := do
  let fields ← value.fields?
    ["always_read_tags", "always_written_tags", "check_uninitialized_properties",
      "additional_constructors", "extensions", "output"] 6
  match fields with
  | [readTags, writtenTags, check, constructors, rules, report] => do
    some {
      alwaysReadTags := ← optionally (list? string?) readTags
      alwaysWrittenTags := ← optionally (list? string?) writtenTags
      checkUninitialized := ← optionally boolean? check
      additionalConstructors := ← optionally (list? string?) constructors
      rules := ← optionally (list? rule?) rules
      report := ← optionally reportSettings? report }
  | _ => none

end Toml

namespace Settings

def ofText? (text : String) : Option Settings := (Toml.ofText? text).bind Toml.settings?

def load (disk : Disk) (path : Path) : Except SettingsFault Settings :=
  match disk.readText path with
  | .error fault => .error (.unreadable path fault)
  | .ok text =>
    match ofText? text with
    | some settings => .ok settings
    | none => .error (.malformed path)

def fileName : String := "deadprop.toml"

/-- The settings for facts at `root`: those of the file in that directory, or beside that file. -/
def find (disk : Disk) (root : Path) : Except SettingsFault (Option Settings) :=
  let directory := if disk.isFile root then (root.parent?).getD root else root
  let path := directory.join fileName
  if disk.exists? path then some <$> load disk path else .ok none

end Settings
end PropertyAudit
