import PropertyAudit.ClassAudit
import PropertyAudit.Settings.File

/-! Plans say what is audited and how. A plan starts from a root and is adjusted step by step; what
the settings file says comes first, and what the steps add comes after it. -/
namespace PropertyAudit

structure Plan where
  /-- A fact file, or a directory of fact files. -/
  root : Path
  settingsFile : Option Path
  /-- Whether settings are looked for near the root when no file is named. -/
  findsSettings : Bool
  checkUninitialized : Option Bool
  alwaysReadTags : List String
  alwaysWrittenTags : List String
  additionalConstructors : List String
  extensions : List Extension
  ignoredClasses : List String
  /-- Settings at hand, so that no file is read. -/
  preloaded : Option Settings

namespace Plan

inductive Step where
  | settingsFile (path : Path)
  | findsSettings (enabled : Bool)
  | checkUninitialized (enabled : Bool)
  | alwaysReadTags (tags : List String)
  | alwaysWrittenTags (tags : List String)
  | additionalConstructors (methods : List String)
  | extension (extension : Extension)
  | ignoreClasses (patterns : List String)
  | preload (settings : Option Settings)

def start (root : Path) : Plan where
  root
  settingsFile := none
  findsSettings := true
  checkUninitialized := none
  alwaysReadTags := []
  alwaysWrittenTags := []
  additionalConstructors := []
  extensions := []
  ignoredClasses := []
  preloaded := none

/-- The plan after a step. To preload nothing is to look for no file either; settings preloaded
before stay. -/
def adjust (plan : Plan) : Step → Plan
  | .settingsFile path => { plan with settingsFile := some path }
  | .findsSettings enabled => { plan with findsSettings := enabled }
  | .checkUninitialized enabled => { plan with checkUninitialized := some enabled }
  | .alwaysReadTags tags => { plan with alwaysReadTags := plan.alwaysReadTags ++ tags }
  | .alwaysWrittenTags tags => { plan with alwaysWrittenTags := plan.alwaysWrittenTags ++ tags }
  | .additionalConstructors methods =>
    { plan with additionalConstructors := plan.additionalConstructors ++ methods }
  | .extension extension => { plan with extensions := plan.extensions ++ [extension] }
  | .ignoreClasses patterns => { plan with ignoredClasses := plan.ignoredClasses ++ patterns }
  | .preload (some settings) => { plan with preloaded := some settings }
  | .preload none => { plan with settingsFile := none, findsSettings := false }

def ofSteps (root : Path) (steps : List Step) : Plan := steps.foldl adjust (start root)

/-- The settings that the plan uses: those preloaded, those of the named file, or those found. -/
def settings (plan : Plan) (disk : Disk) : Except SettingsFault (Option Settings) :=
  match plan.preloaded, plan.settingsFile with
  | some settings, _ => .ok (some settings)
  | none, some path => some <$> Settings.load disk path
  | none, none => if plan.findsSettings then Settings.find disk plan.root else .ok none

def options (plan : Plan) (settings : Settings) : Options where
  alwaysReadTags := settings.options.alwaysReadTags ++ plan.alwaysReadTags
  alwaysWrittenTags := settings.options.alwaysWrittenTags ++ plan.alwaysWrittenTags
  checkUninitialized := plan.checkUninitialized.getD settings.options.checkUninitialized
  additionalConstructors :=
    settings.options.additionalConstructors ++ plan.additionalConstructors

def auditorOf (plan : Plan) (settings : Settings) : Except SettingsFault Auditor :=
  match settings.extensions with
  | .error number => .error (.badPattern number)
  | .ok extensions => .ok {
      options := plan.options settings
      extensions := extensions ++ plan.extensions
      oracle := .definiteAssignment }

def auditor (plan : Plan) (disk : Disk) : Except SettingsFault Auditor := do
  plan.auditorOf ((← plan.settings disk).getD .empty)

/-- Whether a pattern is the class name, or ends it after a backslash. -/
def coversClass (pattern name : String) : Bool :=
  name == pattern || ('\\' :: pattern.toList).isSuffixOf name.toList

def ignores (plan : Plan) (name : String) : Bool := plan.ignoredClasses.any (coversClass · name)

end Plan
end PropertyAudit
