import Mathlib.Data.List.Forall2
import PropertyAudit.Proofs.Json.Containers
import PropertyAudit.Report

/-! The JSON report of a survey is read back as what the survey holds: each diagnostic with all of its
texts, whatever characters are in them, and the counts of the summary. -/
namespace PropertyAudit

def Json.names : Json → List String
  | .object members => members.map (·.1)
  | _ => []

theorem Verdict.word_injective : Function.Injective word := by
  intro a b same
  cases a <;> cases b <;> first | rfl | simp [word] at same

namespace Diagnostic

structure ShownAs (diagnostic : Diagnostic) (json : Json) : Prop where
  names : json.names.Perm (["message", "line", "class", "property", "verdict"] ++
    diagnostic.file.toList.map fun _ => "file")
  message : json.member? "message" = some (.string diagnostic.message)
  line : json.member? "line" = some (.integer diagnostic.line.toNat)
  className : json.member? "class" = some (.string diagnostic.className)
  property : json.member? "property" = some (.string diagnostic.property)
  verdict : json.member? "verdict" = some (.string diagnostic.verdict.word)
  file : json.member? "file" = diagnostic.file.map .string

theorem shownAs_toJson (diagnostic : Diagnostic) : diagnostic.ShownAs diagnostic.toJson := by
  obtain ⟨message, line, className, property, verdict, file⟩ := diagnostic
  cases file with
  | none =>
    have names : List.Perm ["class", "line", "message", "property", "verdict"]
        ["message", "line", "class", "property", "verdict"] := by decide
    exact ⟨names, rfl, rfl, rfl, rfl, rfl, rfl⟩
  | some file =>
    have names : List.Perm ["class", "file", "line", "message", "property", "verdict"]
        ["message", "line", "class", "property", "verdict", "file"] := by decide
    exact ⟨names, rfl, rfl, rfl, rfl, rfl, rfl⟩

theorem eq_of_shownAs {a b : Diagnostic} {json : Json} (first : a.ShownAs json)
    (second : b.ShownAs json) : a = b := by
  have text {x y : String} (same : some (Json.string x) = some (.string y)) : x = y :=
    Json.string.inj (Option.some.inj same)
  have message := text (first.message.symm.trans second.message)
  have line := Json.integer.inj (Option.some.inj (first.line.symm.trans second.line))
  have className := text (first.className.symm.trans second.className)
  have property := text (first.property.symm.trans second.property)
  have verdict := Verdict.word_injective (text (first.verdict.symm.trans second.verdict))
  have file := Option.map_injective (fun _ _ => Json.string.inj) (first.file.symm.trans second.file)
  rw [Int.natCast_inj, UInt32.toNat_inj] at line
  cases a
  cases b
  simp_all

theorem numbersFit_toJson (diagnostic : Diagnostic) : diagnostic.toJson.NumbersFit := by
  have line : (Json.integer diagnostic.line.toNat).NumbersFit :=
    Json.numbersFit_natural (Nat.lt_trans diagnostic.line.toNat_lt (by decide))
  unfold toJson
  cases diagnostic.file <;> simp [line]

theorem height_toJson (diagnostic : Diagnostic) : diagnostic.toJson.height ≤ 1 := by
  unfold toJson
  cases diagnostic.file <;> simp [Json.height, Json.heightOfMembers]

end Diagnostic

namespace Survey

def summary (survey : Survey) : List (String × Nat) := [
  ("files", survey.filesScanned),
  ("files_skipped", survey.filesSkipped),
  ("classes_analyzed", survey.classesAnalyzed),
  ("classes_abandoned", survey.classesAbandoned),
  ("classes_unsupported", survey.classesUnsupported),
  ("private_properties", survey.counts.total),
  ("unused", survey.counts.unused),
  ("write_only", survey.counts.writeOnly),
  ("read_only", survey.counts.readOnly)]

/-- Whether each count fits the 64 bits of a counter. -/
def CountsFit (survey : Survey) : Prop := ∀ entry ∈ survey.summary, entry.2 < UInt64.size

structure ShownAs (survey : Survey) (json : Json) : Prop where
  names : json.names.Perm ["diagnostics", "summary"]
  diagnostics : ∃ items, json.member? "diagnostics" = some (.array items) ∧
    List.Forall₂ Diagnostic.ShownAs survey.diagnostics items
  summary : ∃ counts, json.member? "summary" = some counts ∧
    counts.names.Perm (survey.summary.map (·.1)) ∧
    ∀ entry ∈ survey.summary, counts.member? entry.1 = some (.integer entry.2)

theorem shownAs_toJson (survey : Survey) : survey.ShownAs survey.toJson where
  names := List.Perm.refl _
  diagnostics := by
    refine ⟨_, rfl, ?_⟩
    rw [List.forall₂_map_right_iff, List.forall₂_same]
    exact fun diagnostic _ => diagnostic.shownAs_toJson
  summary := by
    have names : List.Perm
        ["classes_abandoned", "classes_analyzed", "classes_unsupported", "files", "files_skipped",
          "private_properties", "read_only", "unused", "write_only"]
        ["files", "files_skipped", "classes_analyzed", "classes_abandoned", "classes_unsupported",
          "private_properties", "unused", "write_only", "read_only"] := by decide
    refine ⟨_, rfl, names, ?_⟩
    simp only [summary, List.forall_mem_cons]
    exact ⟨rfl, rfl, rfl, rfl, rfl, rfl, rfl, rfl, rfl, by simp⟩

theorem eq_of_shownAs {a b : Survey} {json : Json} (first : a.ShownAs json)
    (second : b.ShownAs json) : a.diagnostics = b.diagnostics ∧ a.summary = b.summary := by
  constructor
  · obtain ⟨items, listed, each⟩ := first.diagnostics
    obtain ⟨_, same, others⟩ := second.diagnostics
    obtain rfl := Json.array.inj (Option.some.inj (listed.symm.trans same))
    have unique : Relator.LeftUnique Diagnostic.ShownAs := fun _ _ _ => Diagnostic.eq_of_shownAs
    exact List.left_unique_forall₂' unique each others
  · obtain ⟨counts, held, -, each⟩ := first.summary
    obtain ⟨_, same, -, others⟩ := second.summary
    obtain rfl := Option.some.inj (held.symm.trans same)
    simp only [summary, List.forall_mem_cons] at each others
    simp only [each, Option.some.injEq, Json.integer.injEq, Int.natCast_inj] at others
    simp only [summary, others]

theorem numbersFit_toJson {survey : Survey} (fits : survey.CountsFit) : survey.toJson.NumbersFit := by
  simp only [CountsFit, summary, List.forall_mem_cons] at fits
  have counted {count : Nat} (bounded : count < UInt64.size) : (Json.integer count).NumbersFit :=
    Json.numbersFit_natural bounded
  simp [toJson, counted, fits, Diagnostic.numbersFit_toJson]

theorem height_toJson (survey : Survey) : survey.toJson.height ≤ 3 := by
  have listed : (Json.array (survey.diagnostics.map (·.toJson))).height ≤ 2 := by
    refine Nat.succ_le_succ (Json.heightOfItems_le_iff.mpr ?_)
    rw [List.forall_mem_map]
    exact fun diagnostic _ => diagnostic.height_toJson
  refine Nat.succ_le_succ (Json.heightOfMembers_le_iff.mpr ?_)
  simpa [Json.height, Json.heightOfMembers] using listed

/-- The JSON report is a document that shows the survey, whatever characters its texts hold, so a report
is shared only by surveys with the same diagnostics and the same summary. -/
theorem jsonReport_reads_back (survey : Survey) (fits : survey.CountsFit) :
    (∃ json, Json.Decoder.document Json.Decoder.value Json.Decoder.depthLimit
        (Text.bytes survey.jsonReport) = .ok json ∧ survey.ShownAs json) ∧
      ∀ other : Survey, other.CountsFit → other.jsonReport = survey.jsonReport →
        other.diagnostics = survey.diagnostics ∧ other.summary = survey.summary := by
  have read {survey : Survey} (fits : survey.CountsFit) :
      Json.Decoder.document Json.Decoder.value Json.Decoder.depthLimit
        (Text.bytes survey.jsonReport) = .ok survey.toJson := by
    have low : survey.toJson.height ≤ Json.Decoder.depthLimit :=
      Nat.le_trans survey.height_toJson (by decide)
    exact Json.document_written (Json.decodes_value _) low (Json.written_indented (numbersFit_toJson fits))
  refine ⟨⟨survey.toJson, read fits, survey.shownAs_toJson⟩, fun other otherFits same => ?_⟩
  have sameJson : other.toJson = survey.toJson := by
    have both := read otherFits
    rw [same, read fits] at both
    exact (Except.ok.inj both).symm
  exact eq_of_shownAs other.shownAs_toJson (sameJson ▸ survey.shownAs_toJson)

/-- Quotes, escapes, control characters and the largest counts, with a file and without one. -/
theorem jsonReport_reads_back_of_escapes :
    let survey : Survey := {
      root := ⟨"."⟩
      filesScanned := 18446744073709551615
      filesSkipped := 0
      classesAnalyzed := 2
      classesAbandoned := 1
      classesUnsupported := 0
      diagnostics := [
        ⟨"Class \"A\\B\" has an unused property $\x01.", 4294967295, "A\\B", "\x01", .unused, none⟩,
        ⟨"\n\t\x0c\x7f", 0, "é", "𝒳", .presumedInitialized, some ""⟩]
      counts := ⟨2, 1, 0, 0, 1, 0⟩ }
    survey.CountsFit ∧
      (∃ json, Json.Decoder.document Json.Decoder.value Json.Decoder.depthLimit
        (Text.bytes survey.jsonReport) = .ok json ∧ survey.ShownAs json) ∧
      ∀ other : Survey, other.CountsFit → other.jsonReport = survey.jsonReport →
        other.diagnostics = survey.diagnostics ∧ other.summary = survey.summary := by
  intro survey
  have fits : survey.CountsFit := by simp [survey, CountsFit, summary, UInt64.size]
  exact ⟨fits, jsonReport_reads_back survey fits⟩

end Survey
end PropertyAudit
