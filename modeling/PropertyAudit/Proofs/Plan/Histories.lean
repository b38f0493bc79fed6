import PropertyAudit.Proofs.Plan.Preloading
import PropertyAudit.Proofs.Results

/-! What a plan comes to after any steps. Lists grow by what each step adds to them, the last word on
checking counts, and the settings in effect come first. All that can then go wrong is a rule with a
pattern that cannot be read. Steps that do not choose the settings may trade places with steps of other
kinds. -/
namespace PropertyAudit

namespace Rule

def IsBroken (rule : Rule) : Prop :=
  ∃ pattern, (rule.propertyPattern = some pattern ∨ rule.classPattern = some pattern) ∧
    Pattern.Program.ofText? pattern = none

variable {rule : Rule} {rules : List Rule} {number : Nat}

theorem pattern?_eq_none_iff {text : Option String} :
    pattern? text = none ↔ ∃ pattern, text = some pattern ∧ Pattern.Program.ofText? pattern = none := by
  cases text with
  | none => simp [pattern?]
  | some text => simp [pattern?]

theorem extension?_eq_none_iff : rule.extension? = none ↔ rule.IsBroken := by
  have either : rule.extension? = none ↔
      pattern? rule.propertyPattern = none ∨ pattern? rule.classPattern = none := by
    rw [extension?]
    cases pattern? rule.propertyPattern with
    | none => simp
    | some property =>
      cases pattern? rule.classPattern with
      | none => simp
      | some className => simp
  rw [either, pattern?_eq_none_iff, pattern?_eq_none_iff, IsBroken, ← exists_or]
  exact exists_congr fun _ => or_and_right.symm

theorem extensionsFrom_eq_ok_iff {extensions : List Extension} :
    extensionsFrom number rules = .ok extensions ↔ rules.map extension? = extensions.map some := by
  induction rules generalizing number extensions with
  | nil => cases extensions <;> simp [extensionsFrom]
  | cons rule rules ih =>
    rw [extensionsFrom, List.map_cons]
    cases rule.extension? with
    | none => cases extensions <;> simp
    | some extension =>
      cases extensions with
      | nil => cases extensionsFrom (number + 1) rules <;> simp [Except.map]
      | cons first others =>
        rw [List.map_cons, List.cons.injEq, Option.some.injEq, ← @ih (number + 1)]
        cases extensionsFrom (number + 1) rules <;> simp [Except.map]

/-- The number of a fault is that of the first broken rule. -/
theorem extensionsFrom_eq_error_iff {start : Nat} :
    extensionsFrom start rules = .error number ↔ ∃ before rule after, rules = before ++ rule :: after ∧
      (∀ earlier ∈ before, ¬earlier.IsBroken) ∧ rule.IsBroken ∧ number = before.length + start := by
  induction rules generalizing start with
  | nil => simp [extensionsFrom]
  | cons rule rules ih =>
    rw [extensionsFrom]
    cases read : rule.extension? with
    | none =>
      have broken := extension?_eq_none_iff.mp read
      constructor
      · rintro ⟨⟩
        exact ⟨[], rule, rules, rfl, by simp, broken, by simp⟩
      · rintro ⟨before, first, after, split, sound, -, rfl⟩
        cases before with
        | nil => simp
        | cons earlier before =>
          obtain ⟨rfl, -⟩ := List.cons.inj split
          exact absurd broken (sound _ List.mem_cons_self)
    | some extension =>
      have sound : ¬rule.IsBroken := by
        rw [← extension?_eq_none_iff, read]
        exact Option.some_ne_none _
      have passed : ((extensionsFrom (start + 1) rules).map (extension :: ·) = .error number) ↔
          extensionsFrom (start + 1) rules = .error number := by
        cases extensionsFrom (start + 1) rules <;> simp [Except.map]
      rw [passed, ih]
      constructor
      · rintro ⟨before, first, after, rfl, others, broken, rfl⟩
        refine ⟨rule :: before, first, after, rfl, ?_, broken, ?_⟩
        · exact List.forall_mem_cons.mpr ⟨sound, others⟩
        · rw [List.length_cons]
          omega
      · rintro ⟨before, first, after, split, others, broken, rfl⟩
        cases before with
        | nil =>
          obtain ⟨rfl, -⟩ := List.cons.inj split
          exact absurd broken sound
        | cons earlier before =>
          obtain ⟨-, rfl⟩ := List.cons.inj split
          refine ⟨before, first, after, rfl, (List.forall_mem_cons.mp others).2, broken, ?_⟩
          rw [List.length_cons]
          omega

end Rule

namespace Plan

namespace Step

inductive Kind where
  | settingsFile
  | findsSettings
  | checkUninitialized
  | alwaysReadTags
  | alwaysWrittenTags
  | additionalConstructors
  | extension
  | ignoreClasses
  | preload
deriving DecidableEq

def kind : Step → Kind
  | .settingsFile _ => .settingsFile
  | .findsSettings _ => .findsSettings
  | .checkUninitialized _ => .checkUninitialized
  | .alwaysReadTags _ => .alwaysReadTags
  | .alwaysWrittenTags _ => .alwaysWrittenTags
  | .additionalConstructors _ => .additionalConstructors
  | .extension _ => .extension
  | .ignoreClasses _ => .ignoreClasses
  | .preload _ => .preload

/-- Whether a step of that kind has a say in which settings are in effect. -/
def Kind.choosesSettings : Kind → Bool
  | .settingsFile => true
  | .findsSettings => true
  | .preload => true
  | _ => false

def readTags : Step → List String
  | .alwaysReadTags tags => tags
  | _ => []

def writtenTags : Step → List String
  | .alwaysWrittenTags tags => tags
  | _ => []

def constructors : Step → List String
  | .additionalConstructors methods => methods
  | _ => []

def extensions : Step → List Extension
  | .extension added => [added]
  | _ => []

def checking? : Step → Option Bool
  | .checkUninitialized enabled => some enabled
  | _ => none

end Step

variable {plan : Plan} {disk : Disk} {auditor : Auditor} {settings : Settings} {steps : List Step}

def lastChecking (steps : List Step) : Option Bool := steps.reverse.findSome? Step.checking?

/-! ### Runs of steps -/

/-- What a plan holds after a run of steps, where settings do not count. -/
structure Holds (plan : Plan) (steps : List Step) : Prop where
  alwaysReadTags : plan.alwaysReadTags = steps.flatMap Step.readTags
  alwaysWrittenTags : plan.alwaysWrittenTags = steps.flatMap Step.writtenTags
  additionalConstructors : plan.additionalConstructors = steps.flatMap Step.constructors
  extensions : plan.extensions = steps.flatMap Step.extensions
  checkUninitialized : plan.checkUninitialized = lastChecking steps

theorem lastChecking_concat (steps : List Step) (step : Step) :
    lastChecking (steps ++ [step]) = step.checking?.or (lastChecking steps) := by
  rw [lastChecking, List.reverse_append, List.findSome?_append, List.reverse_singleton,
    List.findSome?_singleton, lastChecking]

theorem holds_start (root : Path) : (start root).Holds [] := ⟨rfl, rfl, rfl, rfl, rfl⟩

/-- A step adds to one list, or has the last word on checking, or adds nothing. -/
theorem added_adjust (plan : Plan) (step : Step) :
    (plan.adjust step).alwaysReadTags = plan.alwaysReadTags ++ step.readTags ∧
      (plan.adjust step).alwaysWrittenTags = plan.alwaysWrittenTags ++ step.writtenTags ∧
      (plan.adjust step).additionalConstructors = plan.additionalConstructors ++ step.constructors ∧
      (plan.adjust step).extensions = plan.extensions ++ step.extensions ∧
      (plan.adjust step).checkUninitialized = step.checking?.or plan.checkUninitialized := by
  cases step with
  | preload chosen =>
    cases chosen <;> simp [adjust, Step.readTags, Step.writtenTags, Step.constructors,
      Step.extensions, Step.checking?]
  | _ => simp [adjust, Step.readTags, Step.writtenTags, Step.constructors, Step.extensions,
      Step.checking?]

theorem Holds.adjust (holds : plan.Holds steps) (step : Step) :
    (plan.adjust step).Holds (steps ++ [step]) := by
  obtain ⟨readTags, writtenTags, constructors, extensions, checking⟩ := added_adjust plan step
  have lists {α : Type} (added : Step → List α) :
      (steps ++ [step]).flatMap added = steps.flatMap added ++ added step := by
    rw [List.flatMap_append, List.flatMap_singleton]
  exact {
    alwaysReadTags := by rw [readTags, holds.alwaysReadTags, lists]
    alwaysWrittenTags := by rw [writtenTags, holds.alwaysWrittenTags, lists]
    additionalConstructors := by rw [constructors, holds.additionalConstructors, lists]
    extensions := by rw [extensions, holds.extensions, lists]
    checkUninitialized := by rw [checking, holds.checkUninitialized, lastChecking_concat] }

theorem Holds.foldl (holds : plan.Holds steps) (more : List Step) :
    (more.foldl Plan.adjust plan).Holds (steps ++ more) := by
  induction more generalizing plan steps with
  | nil => simpa using holds
  | cons step more ih => simpa using ih (holds.adjust step)

theorem holds_ofSteps (root : Path) (steps : List Step) : (ofSteps root steps).Holds steps :=
  (holds_start root).foldl steps

/-! ### Steps in another order -/

/-- A step that does not choose the settings and a step of another kind touch different parts of a
plan. -/
theorem adjust_comm {first second : Step} (different : first.kind ≠ second.kind)
    (free : first.kind.choosesSettings = false) (plan : Plan) :
    (plan.adjust first).adjust second = (plan.adjust second).adjust first := by
  cases second with
  | preload settings =>
    cases settings <;> cases first <;> first | rfl | cases free
  | _ => cases first <;> first | rfl | exact absurd rfl different | cases free

theorem ofSteps_swap {first second : Step} (different : first.kind ≠ second.kind)
    (free : first.kind.choosesSettings = false) (root : Path) (before after : List Step) :
    ofSteps root (before ++ first :: second :: after) =
      ofSteps root (before ++ second :: first :: after) := by
  simp only [ofSteps, List.foldl_append, List.foldl_cons, adjust_comm different free]

/-! ### The auditor -/

structure Gathers (auditor : Auditor) (settings : Settings) (steps : List Step) : Prop where
  alwaysReadTags : auditor.options.alwaysReadTags =
    settings.alwaysReadTags.getD [] ++ steps.flatMap Step.readTags
  alwaysWrittenTags : auditor.options.alwaysWrittenTags =
    settings.alwaysWrittenTags.getD [] ++ steps.flatMap Step.writtenTags
  additionalConstructors : auditor.options.additionalConstructors =
    settings.additionalConstructors.getD [] ++ steps.flatMap Step.constructors
  checkUninitialized : auditor.options.checkUninitialized =
    ((lastChecking steps).or settings.checkUninitialized).getD false
  /-- Those of the rules in order, then those of the steps. -/
  extensions : ∃ described, (settings.rules.getD []).map Rule.extension? = described.map some ∧
    auditor.extensions = described ++ steps.flatMap Step.extensions

theorem auditor_of_settings {found : Option Settings} (loads : plan.settings disk = .ok found) :
    plan.auditor disk = plan.auditorOf (found.getD .empty) := by
  rw [auditor, loads]
  rfl

theorem gathers_of_auditorOf (holds : plan.Holds steps) (built : plan.auditorOf settings = .ok auditor) :
    Gathers auditor settings steps := by
  unfold auditorOf at built
  split at built
  · cases built
  · next described read =>
    obtain rfl := Except.ok.inj built
    exact {
      alwaysReadTags := congrArg (settings.options.alwaysReadTags ++ ·) holds.alwaysReadTags
      alwaysWrittenTags := congrArg (settings.options.alwaysWrittenTags ++ ·) holds.alwaysWrittenTags
      additionalConstructors :=
        congrArg (settings.options.additionalConstructors ++ ·) holds.additionalConstructors
      checkUninitialized := by
        change plan.checkUninitialized.getD (settings.checkUninitialized.getD false) = _
        rw [holds.checkUninitialized]
        cases lastChecking steps <;> rfl
      extensions := ⟨described, Rule.extensionsFrom_eq_ok_iff.mp read, by rw [holds.extensions]⟩ }

/-- The first broken rule is what an auditor fails for. -/
theorem auditorOf_eq_error_iff {fault : SettingsFault} :
    plan.auditorOf settings = .error fault ↔
      ∃ before rule after, settings.rules.getD [] = before ++ rule :: after ∧
        (∀ earlier ∈ before, ¬earlier.IsBroken) ∧ rule.IsBroken ∧
        fault = .badPattern (before.length + 1) := by
  have numbered : plan.auditorOf settings = .error fault ↔
      ∃ number, settings.extensions = .error number ∧ fault = .badPattern number := by
    rw [auditorOf]
    cases settings.extensions with
    | error number => simp [eq_comm]
    | ok described => simp
  rw [numbered]
  simp only [Settings.extensions, Rule.extensions, Rule.extensionsFrom_eq_error_iff]
  constructor
  · rintro ⟨_, ⟨before, rule, after, split, sound, broken, rfl⟩, rfl⟩
    exact ⟨before, rule, after, split, sound, broken, rfl⟩
  · rintro ⟨before, rule, after, split, sound, broken, rfl⟩
    exact ⟨_, ⟨before, rule, after, split, sound, broken, rfl⟩, rfl⟩

theorem exists_auditorOf_eq_error_iff :
    (∃ fault, plan.auditorOf settings = .error fault) ↔
      ∃ rule ∈ settings.rules.getD [], rule.IsBroken := by
  constructor
  · rintro ⟨fault, failed⟩
    obtain ⟨before, rule, after, split, -, broken, -⟩ := auditorOf_eq_error_iff.mp failed
    exact ⟨rule, split ▸ List.mem_append_right _ List.mem_cons_self, broken⟩
  · rintro ⟨rule, member, broken⟩
    rw [exists_eq_error_iff]
    rintro ⟨auditor, built⟩
    unfold auditorOf at built
    split at built
    · cases built
    · next described read =>
      have unread := List.mem_map_of_mem (f := Rule.extension?) member
      rw [Rule.extensionsFrom_eq_ok_iff.mp read, Rule.extension?_eq_none_iff.mpr broken] at unread
      simp at unread

/-- After any steps that leave a plan with settings, building its auditor fails exactly if one of their
rules is broken, and the fault numbers the first such rule from 1. Otherwise each list of the auditor's
options is that of the settings and then what the steps have added in turn, checking is as the last step
about it says, or else the settings, and the extensions are those of the rules and then those of the
steps. Two steps of different kinds may trade places anywhere in a history unless both have a say in
which settings are in effect. -/
theorem auditor_of_history (root : Path) :
    (∀ steps disk found, (ofSteps root steps).settings disk = .ok found →
      let settings := found.getD .empty
      ((∃ fault, (ofSteps root steps).auditor disk = .error fault) ↔
        ∃ rule ∈ settings.rules.getD [], rule.IsBroken) ∧
      (∀ fault, (ofSteps root steps).auditor disk = .error fault →
        ∃ before rule after, settings.rules.getD [] = before ++ rule :: after ∧
          (∀ earlier ∈ before, ¬earlier.IsBroken) ∧ rule.IsBroken ∧
          fault.message =
            "Invalid pattern in [[extensions]] entry #" ++ toString (before.length + 1)) ∧
      ∀ auditor, (ofSteps root steps).auditor disk = .ok auditor → Gathers auditor settings steps) ∧
    ∀ before first second after, first.kind ≠ second.kind →
      first.kind.choosesSettings = false ∨ second.kind.choosesSettings = false →
      ofSteps root (before ++ first :: second :: after) =
        ofSteps root (before ++ second :: first :: after) := by
  constructor
  · intro steps disk found loads settings
    rw [auditor_of_settings loads]
    refine ⟨exists_auditorOf_eq_error_iff, fun fault failed => ?_, fun auditor built => ?_⟩
    · obtain ⟨before, rule, after, split, sound, broken, rfl⟩ := auditorOf_eq_error_iff.mp failed
      exact ⟨before, rule, after, split, sound, broken, rfl⟩
    · exact gathers_of_auditorOf (holds_ofSteps root steps) built
  · rintro before first second after different (free | free)
    · exact ofSteps_swap different free root before after
    · exact (ofSteps_swap (Ne.symm different) free root before after).symm

/-- Steps of all kinds around settings with a rule; once a second rule is broken, that is the fault. -/
theorem auditor_of_history_all_kinds :
    let extension : Extension := ⟨fun _ _ => true, fun _ _ => false, fun _ _ => false⟩
    let rule : Rule := ⟨some "^a$", none, none, true, false, false⟩
    let settings : Settings := { Settings.empty with
      alwaysReadTags := some ["@a"], checkUninitialized := some true, rules := some [rule] }
    let steps : List Step := [.alwaysReadTags ["@b"], .settingsFile ⟨"gone.toml"⟩, .extension extension,
      .checkUninitialized true, .alwaysWrittenTags ["@w"], .preload (some settings),
      .findsSettings false, .additionalConstructors ["setUp"], .alwaysReadTags ["@c", "@b"],
      .checkUninitialized false, .ignoreClasses ["Old"]]
    let broken : Settings := { settings with
      rules := some [rule, { rule with classPattern := some "(" }] }
    (∃ auditor described, (ofSteps ⟨"."⟩ steps).auditor .empty = .ok auditor ∧
      auditor.options = ⟨["@a", "@b", "@c", "@b"], ["@w"], false, ["setUp"]⟩ ∧
      rule.extension? = some described ∧ auditor.extensions = [described, extension]) ∧
    ∃ fault, (ofSteps ⟨"."⟩ (steps ++ [.preload (some broken)])).auditor .empty =
      .error fault ∧ fault.message = "Invalid pattern in [[extensions]] entry #2" := by
  intro extension rule settings steps broken
  have sound : ¬rule.IsBroken := by
    rintro ⟨pattern, given, unread⟩
    obtain rfl : pattern = "^a$" := by simpa [rule, eq_comm] using given
    exact absurd unread (by decide +kernel)
  have unsound : { rule with classPattern := some "(" : Rule }.IsBroken :=
    ⟨"(", .inr rfl, by decide +kernel⟩
  constructor
  · obtain ⟨fails, -, gathers⟩ :=
      (auditor_of_history ⟨"."⟩).1 steps .empty (some settings) rfl
    cases built : (ofSteps ⟨"."⟩ steps).auditor .empty with
    | error fault =>
      obtain ⟨faulty, member, broken⟩ := fails.mp ⟨fault, built⟩
      rw [List.mem_singleton.mp member] at broken
      exact absurd broken sound
    | ok auditor =>
      have has := gathers auditor built
      obtain ⟨described, read, extensions⟩ := has.extensions
      obtain ⟨only, rfl⟩ : ∃ only, described = [only] := by
        have count : described.length = (settings.rules.getD []).length := by
          simpa using (congrArg List.length read).symm
        exact List.length_eq_one_iff.mp count
      refine ⟨auditor, only, rfl, ?_, (List.cons.inj read).1, extensions⟩
      cases options : auditor.options with
      | mk readTags writtenTags checking constructors =>
        have parts := And.intro has.alwaysReadTags (And.intro has.alwaysWrittenTags
          (And.intro has.additionalConstructors has.checkUninitialized))
        rw [options] at parts
        obtain ⟨rfl, rfl, rfl, rfl⟩ := parts
        rfl
  · obtain ⟨fails, numbered, -⟩ := (auditor_of_history ⟨"."⟩).1
      (steps ++ [.preload (some broken)]) .empty (some broken) rfl
    obtain ⟨fault, failed⟩ := fails.mpr ⟨_, List.mem_cons_of_mem _ List.mem_cons_self, unsound⟩
    obtain ⟨before, first, after, split, others, faulty, told⟩ := numbered fault failed
    refine ⟨fault, failed, ?_⟩
    cases before with
    | nil =>
      obtain ⟨rfl, -⟩ := List.cons.inj split
      exact absurd faulty sound
    | cons earlier before =>
      cases before with
      | nil =>
        have number : "Invalid pattern in [[extensions]] entry #" ++ toString 2 =
            "Invalid pattern in [[extensions]] entry #2" := by decide +kernel
        exact told.trans number
      | cons next before =>
        obtain ⟨-, rest⟩ := List.cons.inj split
        obtain ⟨rfl, -⟩ := List.cons.inj rest
        exact absurd unsound (others _ (List.mem_cons_of_mem _ List.mem_cons_self))

end Plan
end PropertyAudit
