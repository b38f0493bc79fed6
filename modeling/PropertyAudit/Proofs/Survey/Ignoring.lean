import PropertyAudit.Proofs.Disk.Locations
import PropertyAudit.Proofs.Survey.Batch

/-! Ignored classes. A pattern covers the names that end in its segments, however many of them are empty.
To ignore classes is to survey the files without them: they are not audited, wherever they were met, but
what the files record of the ancestry still counts. -/
namespace PropertyAudit

namespace Text

variable {separator : Char} {part whole : List Char}

theorem splitChars_eq_splitOn (separator : Char) (chars : List Char) :
    splitChars separator chars = chars.splitOn separator := by
  induction chars with
  | nil => rfl
  | cons c rest ih =>
    rw [splitChars, List.splitOn_cons_eq_if_modifyHead, ih]
    simp only [beq_iff_eq]
    split
    · rfl
    · cases split : rest.splitOn separator with
      | nil => exact absurd split (List.splitOn_ne_nil separator rest)
      | cons segment segments => rfl

theorem intercalate_splitChars (separator : Char) (chars : List Char) :
    [separator].intercalate (splitChars separator chars) = chars := by
  rw [splitChars_eq_splitOn, List.intercalate_splitOn]

/-- What stands before the last segments of a text ends in a separator. -/
theorem exists_intercalate_append {front : List (List Char)} (present : front ≠ [])
    (chars : List Char) :
    ∃ before, [separator].intercalate (front ++ splitChars separator chars) =
      before ++ separator :: chars := by
  induction front with
  | nil => exact absurd rfl present
  | cons segment front ih =>
    have more : front ++ splitChars separator chars ≠ [] :=
      List.append_ne_nil_of_right_ne_nil _ (splitChars_ne_nil separator chars)
    rw [List.cons_append, List.intercalate_cons_of_ne_nil more]
    cases front with
    | nil => exact ⟨segment, by rw [List.nil_append, intercalate_splitChars, List.append_assoc]; rfl⟩
    | cons next front =>
      obtain ⟨before, joined⟩ := ih (List.cons_ne_nil _ _)
      exact ⟨segment ++ [separator] ++ before, by rw [joined, ← List.append_assoc]⟩

/-- The segments of a text end in those of another one exactly if that is the whole text or follows a
separator. -/
theorem splitChars_suffix_iff :
    splitChars separator part <:+ splitChars separator whole ↔
      whole = part ∨ ∃ before, whole = before ++ separator :: part := by
  constructor
  · rintro ⟨front, same⟩
    rw [← intercalate_splitChars separator whole, ← same]
    by_cases present : front = []
    · exact .inl (by rw [present, List.nil_append, intercalate_splitChars])
    · exact .inr (exists_intercalate_append present part)
  · rintro (rfl | ⟨before, rfl⟩)
    · exact List.suffix_rfl
    · rw [splitChars_append]
      exact List.suffix_append _ _

theorem segments_suffix_iff {part whole : String} :
    segments separator part <:+ segments separator whole ↔
      splitChars separator part.toList <:+ splitChars separator whole.toList := by
  rw [segments, segments, List.suffix_map_iff]
  constructor
  · rintro ⟨last, behind, same⟩
    rwa [List.map_injective_iff.mpr (fun _ _ => String.ofList_injective) same]
  · exact fun behind => ⟨_, behind, rfl⟩

end Text

namespace Plan

/-- A pattern covers a class exactly if the segments of its name end in those of the pattern. -/
theorem coversClass_iff {pattern name : String} :
    coversClass pattern name ↔ Text.segments '\\' pattern <:+ Text.segments '\\' name := by
  rw [Text.segments_suffix_iff, Text.splitChars_suffix_iff, coversClass, Bool.or_eq_true, beq_iff_eq,
    List.isSuffixOf_iff_suffix, String.toList_inj]
  exact or_congr_right (exists_congr fun _ => eq_comm)

/-- The files without the classes that the plan ignores. What they record of the ancestry stays. -/
def withoutIgnored (plan : Plan) (files : List (Path × FactFile)) : List (Path × FactFile) :=
  files.map fun (path, facts) =>
    (path, { facts with classes := facts.classes.filter (!plan.ignores ·.name) })

variable {plan : Plan} {disk : Disk} {auditor : Auditor} {files : List (Path × FactFile)}

theorem hierarchyOf_withoutIgnored (plan : Plan) (files : List (Path × FactFile)) :
    hierarchyOf (plan.withoutIgnored files) = hierarchyOf files := by
  rw [hierarchyOf, hierarchyOf, withoutIgnored, List.flatMap_map]

/-- What a plan ignores is gone before a plan that ignores nothing looks at it. -/
theorem classesOf_withoutIgnored (plan : Plan) (files : List (Path × FactFile)) :
    { plan with ignoredClasses := [] : Plan }.classesOf (plan.withoutIgnored files) =
      plan.classesOf files := by
  have heeded (name : String) : { plan with ignoredClasses := [] : Plan }.ignores name = false := rfl
  simp only [classesOf, withoutIgnored, List.flatMap_map, heeded, Bool.not_false, List.filter_true]

theorem forall_classesOf_iff (holds : ClassFacts → Prop)
    (unlabelled : ∀ (facts : ClassFacts) path, holds (facts.labelled path) ↔ holds facts) :
    (∀ facts ∈ plan.classesOf files, holds facts) ↔
      ∀ file ∈ files, ∀ facts ∈ file.2.classes, plan.ignores facts.name = false → holds facts := by
  simp only [classesOf, List.mem_flatMap, List.mem_map, List.mem_filter]
  constructor
  · intro all file among facts member heeded
    exact (unlabelled facts file.1).mp
      (all _ ⟨file, among, facts, ⟨member, by rw [heeded]; rfl⟩, rfl⟩)
  · rintro all _ ⟨file, among, facts, ⟨member, heeded⟩, rfl⟩
    exact (unlabelled facts file.1).mpr (all file among facts member (by simpa using heeded))

theorem surveyFiles_withoutIgnored (plan : Plan) (disk : Disk) (files : List (Path × FactFile)) :
    plan.surveyFiles disk files =
      { plan with ignoredClasses := [] : Plan }.surveyFiles disk (plan.withoutIgnored files) := by
  have sameAuditor : { plan with ignoredClasses := [] : Plan }.auditor disk = plan.auditor disk := rfl
  rw [surveyFiles, surveyFiles, sameAuditor, hierarchyOf_withoutIgnored, classesOf_withoutIgnored,
    withoutIgnored, List.length_map]

/-- With an auditor at hand there is a survey unless a class that counts was met outside of any class. -/
theorem exists_surveyFiles_iff (built : plan.auditor disk = .ok auditor) :
    (∃ survey, plan.surveyFiles disk files = .ok survey) ↔
      ∀ file ∈ files, ∀ facts ∈ file.2.classes, facts.scope = .outside → plan.ignores facts.name := by
  have noneMet : (plan.classesOf files).find? (·.isOutside) = none ↔
      ∀ file ∈ files, ∀ facts ∈ file.2.classes,
        facts.scope = .outside → plan.ignores facts.name := by
    rw [List.find?_eq_none, forall_classesOf_iff (¬·.isOutside) fun _ _ => Iff.rfl]
    refine forall₂_congr fun file _ => forall₂_congr fun facts _ => ?_
    rw [ClassFacts.isOutside_iff, ← Bool.not_eq_true]
    exact not_imp_not
  rw [surveyFiles_eq built, ← noneMet]
  cases (plan.classesOf files).find? (·.isOutside) with
  | some facts => simp
  | none => simp

/-- A class is ignored exactly if the segments of a pattern end those of its name. The survey of a plan
with patterns is that of the plan without them, of the same files without the ignored classes but with
the same ancestry. So there is one as soon as all classes met outside of any class are ignored. -/
theorem ignoring_only_removes_classes (plan : Plan) (patterns : List String) :
    let ignoring : Plan := { plan with ignoredClasses := patterns }
    let heeding : Plan := { plan with ignoredClasses := [] }
    (∀ name, ignoring.ignores name ↔
      ∃ pattern ∈ patterns, Text.segments '\\' pattern <:+ Text.segments '\\' name) ∧
    ∀ disk files,
      ignoring.surveyFiles disk files = heeding.surveyFiles disk (ignoring.withoutIgnored files) ∧
      hierarchyOf (ignoring.withoutIgnored files) = hierarchyOf files ∧
      ∀ auditor, ignoring.auditor disk = .ok auditor →
        ((∃ survey, ignoring.surveyFiles disk files = .ok survey) ↔
          ∀ file ∈ files, ∀ facts ∈ file.2.classes,
            facts.scope = .outside → ignoring.ignores facts.name) := by
  intro ignoring heeding
  refine ⟨fun name => ?_, fun disk files => ⟨?_, ?_, fun auditor built => ?_⟩⟩
  · rw [ignores, List.any_eq_true]
    exact exists_congr fun pattern => and_congr_right fun _ => coversClass_iff
  · exact surveyFiles_withoutIgnored ignoring disk files
  · exact hierarchyOf_withoutIgnored ignoring files
  · exact exists_surveyFiles_iff built

/-- The class that is ignored was met outside of any class, and its own ancestry is what makes the access
count for the other one. A pattern that only ends the text of that name does not cover it. -/
theorem ignoring_only_removes_linking_class :
    let base : ClassFacts := {
      name := "Base", displayName? := none, kind := .concrete, scope := .inClass "Base", file := none
      properties := [⟨"a", .isPrivate, false, false, false, none, [], 3⟩]
      accesses := [⟨.read, .literal "a", .expression (.object "Sub"), none⟩]
      constructors := [], assignments := .empty }
    let linking : ClassFacts := { base with name := "App\\Linking", scope := .outside }
    let files : List (Path × FactFile) :=
      [(⟨"f.json"⟩, ⟨[⟨"Sub", ["App\\Linking"]⟩, ⟨"App\\Linking", ["Base"]⟩], [linking, base]⟩)]
    let plan : Plan := .ofSteps ⟨"facts"⟩ [.preload none, .ignoreClasses ["", "ase", "Linking"]]
    (∃ survey, plan.surveyFiles .empty files = .ok survey ∧
      survey.diagnostics.map (fun diagnostic => (diagnostic.className, diagnostic.verdict)) =
        [("Base", .readOnly)]) ∧
      ¬plan.ignores "Base" := by
  intro base linking files plan
  have removes := ignoring_only_removes_classes plan ["", "ase", "Linking"]
  have built : plan.auditor .empty = .ok ⟨.default, [], .definiteAssignment⟩ := rfl
  have outsiders : ∀ file ∈ files, ∀ facts ∈ file.2.classes,
      facts.scope = .outside → plan.ignores facts.name := by
    decide +kernel
  obtain ⟨survey, ran⟩ : ∃ survey, plan.surveyFiles .empty files = .ok survey :=
    ((removes.2 _ files).2.2 _ built).mpr outsiders
  have reported : (plan.surveyFiles .empty files).toOption.map (fun survey =>
      survey.diagnostics.map fun diagnostic => (diagnostic.className, diagnostic.verdict)) =
        some [("Base", .readOnly)] := by
    cbv
  rw [ran] at reported
  refine ⟨⟨survey, ran, Option.some.inj reported⟩, fun covered => ?_⟩
  exact absurd ((removes.1 "Base").mp covered) (by decide +kernel)

end Plan
end PropertyAudit
