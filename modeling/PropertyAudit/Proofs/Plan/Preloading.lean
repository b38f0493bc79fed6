import PropertyAudit.Survey

/-! Plans with settings at hand. The settings preloaded last count, whatever the steps before and after
say of files; to preload nothing keeps a plan from looking for a file but takes no settings away. To
preload what a plan would load changes neither its auditor nor its survey. -/
namespace PropertyAudit.Plan

def Step.settings? : Step → Option Settings
  | .preload settings => settings
  | _ => none

def lastPreloaded (steps : List Step) : Option Settings := steps.reverse.findSome? Step.settings?

variable {plan : Plan} {disk : Disk} {root : Path} {steps : List Step} {chosen : Option Settings}

theorem lastPreloaded_cons (step : Step) (steps : List Step) :
    lastPreloaded (step :: steps) = (lastPreloaded steps).or step.settings? := by
  rw [lastPreloaded, List.reverse_cons, List.findSome?_append, ← lastPreloaded,
    List.findSome?_singleton]

theorem lastPreloaded_eq_none_iff :
    lastPreloaded steps = none ↔ ∀ settings, .preload (some settings) ∉ steps := by
  rw [lastPreloaded, List.findSome?_eq_none_iff]
  constructor
  · intro nothing settings member
    cases nothing _ (List.mem_reverse.mpr member)
  · intro nothing step member
    cases step with
    | preload settings =>
      cases settings with
      | none => rfl
      | some settings => exact absurd (List.mem_reverse.mp member) (nothing settings)
    | _ => rfl

theorem preloaded_adjust (plan : Plan) (step : Step) :
    (plan.adjust step).preloaded = step.settings?.or plan.preloaded := by
  cases step with
  | preload settings => cases settings <;> rfl
  | _ => rfl

theorem preloaded_foldl (plan : Plan) (steps : List Step) :
    (steps.foldl adjust plan).preloaded = (lastPreloaded steps).or plan.preloaded := by
  induction steps generalizing plan with
  | nil => rfl
  | cons step steps ih =>
    rw [List.foldl_cons, ih, preloaded_adjust, lastPreloaded_cons, Option.or_assoc]

theorem preloaded_ofSteps (root : Path) (steps : List Step) :
    (ofSteps root steps).preloaded = lastPreloaded steps := by
  rw [ofSteps, preloaded_foldl]
  exact Option.or_none

theorem ofSteps_concat (root : Path) (steps : List Step) (step : Step) :
    ofSteps root (steps ++ [step]) = (ofSteps root steps).adjust step := by
  rw [ofSteps, List.foldl_append]
  rfl

theorem settings_of_preloaded {settings : Settings} (preloaded : plan.preloaded = some settings)
    (disk : Disk) : plan.settings disk = .ok (some settings) := by
  rw [Plan.settings, preloaded]

/-- After preloading no file counts, but settings at hand before do. -/
theorem settings_adjust_preload (plan : Plan) (chosen : Option Settings) (disk : Disk) :
    (plan.adjust (.preload chosen)).settings disk = .ok (chosen.or plan.preloaded) := by
  cases chosen with
  | some settings => rfl
  | none =>
    cases preloaded : plan.preloaded with
    | some settings =>
      have kept : (plan.adjust (.preload none)).preloaded = some settings := preloaded
      exact settings_of_preloaded kept disk
    | none => simp [Plan.settings, adjust, preloaded]

/-- Once something is preloaded, settings or none, the plan has settings without asking the disk: those
of this step, or else those preloaded last before. So it has just what was preloaded unless that is
nothing and some settings were preloaded before. -/
theorem settings_after_preload (root : Path) (steps : List Step) (chosen : Option Settings)
    (disk : Disk) :
    (ofSteps root (steps ++ [.preload chosen])).settings disk =
        .ok (chosen.or (lastPreloaded steps)) ∧
      ((ofSteps root (steps ++ [.preload chosen])).settings disk = .ok chosen ↔
        (chosen = none → ∀ settings, .preload (some settings) ∉ steps)) := by
  have found : (ofSteps root (steps ++ [.preload chosen])).settings disk =
      .ok (chosen.or (lastPreloaded steps)) := by
    rw [ofSteps_concat, settings_adjust_preload, preloaded_ofSteps]
  refine ⟨found, ?_⟩
  rw [found, ← lastPreloaded_eq_none_iff, Except.ok.injEq]
  cases chosen with
  | some settings => simp
  | none => simp

/-- Settings preloaded before are not taken away by preloading nothing. -/
theorem preloading_nothing_keeps_settings :
    let settings : Settings := { Settings.empty with checkUninitialized := some true }
    let plan : Plan := .ofSteps ⟨"."⟩ [.preload (some settings), .preload none]
    plan.settings .empty = .ok (some settings) ∧
      plan.settings .empty ≠ .ok none := by
  intro settings plan
  have kept : plan.settings .empty = .ok (some settings) := rfl
  refine ⟨kept, fun taken => ?_⟩
  rw [kept] at taken
  cases taken

section Agreement

variable {later : Disk}

/-- Preloading touches nothing but where the settings come from. -/
theorem auditor_adjust_preload
    (same : (plan.adjust (.preload chosen)).settings later = plan.settings disk) :
    (plan.adjust (.preload chosen)).auditor later = plan.auditor disk := by
  rw [auditor, auditor, same]
  cases chosen <;> rfl

theorem surveyFiles_adjust_preload
    (same : (plan.adjust (.preload chosen)).settings later = plan.settings disk)
    (files : List (Path × FactFile)) :
    (plan.adjust (.preload chosen)).surveyFiles later files = plan.surveyFiles disk files := by
  rw [surveyFiles, surveyFiles, auditor_adjust_preload same]
  cases chosen <;> rfl

theorem survey_adjust_preload
    (same : (plan.adjust (.preload chosen)).settings disk = plan.settings disk) :
    (plan.adjust (.preload chosen)).survey disk = plan.survey disk := by
  have sameRoot : (plan.adjust (.preload chosen)).root = plan.root := by
    cases chosen <;> rfl
  simp only [survey, sameRoot, surveyFiles_adjust_preload same]

/-- What a plan loads it may as well preload. If it loads nothing, no settings were at hand. -/
theorem settings_adjust_preload_of_settings {found : Option Settings}
    (loads : plan.settings disk = .ok found) (later : Disk) :
    (plan.adjust (.preload found)).settings later = .ok found := by
  rw [settings_adjust_preload]
  cases found with
  | some settings => rfl
  | none =>
    cases preloaded : plan.preloaded with
    | none => rfl
    | some settings =>
      rw [settings_of_preloaded preloaded] at loads
      cases loads

end Agreement

/-- Where a plan has settings, or has none and does well without, to preload them gives the same settings,
the same auditor and the same survey, or the same faults. They are not read again: whatever becomes of
the disk, the settings and the surveys of loaded files stay the same. -/
theorem preloading_agrees_with_loading (root : Path) (steps : List Step) (disk : Disk)
    (found : Option Settings) (loads : (ofSteps root steps).settings disk = .ok found) :
    let plan := ofSteps root steps
    let preloaded := ofSteps root (steps ++ [.preload found])
    (preloaded.settings disk = plan.settings disk ∧ preloaded.auditor disk = plan.auditor disk ∧
      preloaded.survey disk = plan.survey disk) ∧
    ∀ later, preloaded.settings later = plan.settings disk ∧
      preloaded.auditor later = plan.auditor disk ∧
      ∀ files, preloaded.surveyFiles later files = plan.surveyFiles disk files := by
  intro plan preloaded
  have adjusted : preloaded = plan.adjust (.preload found) := ofSteps_concat root steps _
  have same (later : Disk) :
      (plan.adjust (.preload found)).settings later = plan.settings disk :=
    (settings_adjust_preload_of_settings loads later).trans loads.symm
  rw [adjusted]
  refine ⟨⟨same disk, auditor_adjust_preload (same disk), survey_adjust_preload (same disk)⟩, ?_⟩
  intro later
  exact ⟨same later, auditor_adjust_preload (same later), surveyFiles_adjust_preload (same later)⟩

/-- The steps turn the search off and on again and name a file, which is gone afterwards. -/
theorem preloading_agrees_with_loading_named_file :
    let steps : List Step := [.preload none, .alwaysReadTags ["@b"], .findsSettings true,
      .settingsFile ⟨"o.toml"⟩]
    let disk : Disk := ⟨.directory [("o.toml", .file (Text.bytes "always_read_tags = ['@a']"))], [], []⟩
    let found : Option Settings := some { Settings.empty with alwaysReadTags := some ["@a"] }
    let plan : Plan := .ofSteps ⟨"."⟩ steps
    let preloaded : Plan := .ofSteps ⟨"."⟩ (steps ++ [.preload found])
    plan.settings disk = .ok found ∧ preloaded.survey disk = plan.survey disk ∧
      preloaded.settings .empty = .ok found ∧
      (preloaded.auditor .empty).map (·.options.alwaysReadTags) = .ok ["@a", "@b"] := by
  intro steps disk found plan preloaded
  have loads : plan.settings disk = .ok found := by
    have present : (plan.settings disk).toOption = some found := by decide +kernel
    cases loaded : plan.settings disk with
    | error fault =>
      rw [loaded] at present
      cases present
    | ok settings =>
      rw [loaded] at present
      exact congrArg Except.ok (Option.some.inj present)
  obtain ⟨⟨-, -, sameSurvey⟩, unread⟩ :=
    preloading_agrees_with_loading ⟨"."⟩ steps disk found loads
  exact ⟨loads, sameSurvey, (unread _).1.trans loads, rfl⟩

end PropertyAudit.Plan
