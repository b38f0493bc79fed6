import PropertyAudit.CommandLine.Run
import PropertyAudit.Proofs.Disk.Writing
import PropertyAudit.Proofs.Plan.Preloading

/-! Runs of the program come down to the survey of the plan that the arguments describe: when a run
fails, what it reports and where the report goes. -/
namespace PropertyAudit.CommandLine

namespace Arguments

def WantsJson (arguments : Arguments) (disk : Disk) : Prop :=
  arguments.json ∨ ∃ settings report format, arguments.plan.settings disk = .ok (some settings) ∧
    settings.report = some report ∧ report.format = some format ∧ format.toLower = "json"

structure Reports (arguments : Arguments) (disk : Disk) (survey : Survey) (report : String) : Prop where
  surveyed : arguments.plan.survey disk = .ok survey
  asJson : arguments.WantsJson disk → report = survey.jsonReport ++ "\n"
  asText : ¬arguments.WantsJson disk → report = survey.plainReport

variable {arguments : Arguments} {disk : Disk} {survey : Survey} {json : Bool} {report : String}

theorem Reports.unique {other : Survey} {text : String} (first : arguments.Reports disk survey report)
    (second : arguments.Reports disk other text) : other = survey ∧ text = report := by
  obtain rfl := Except.ok.inj (second.surveyed.symm.trans first.surveyed)
  by_cases wanted : arguments.WantsJson disk
  · exact ⟨rfl, (second.asJson wanted).trans (first.asJson wanted).symm⟩
  · exact ⟨rfl, (second.asText wanted).trans (first.asText wanted).symm⟩

end Arguments

end PropertyAudit.CommandLine
