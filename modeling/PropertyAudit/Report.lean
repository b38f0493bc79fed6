import PropertyAudit.Json.Printer
import PropertyAudit.Survey

/-! Reports of surveys, as plain text and as JSON with the members of objects in the order of their
names. -/
namespace PropertyAudit

namespace Diagnostic

def location (diagnostic : Diagnostic) : String :=
  match diagnostic.file with
  | some file => file ++ ":" ++ toString diagnostic.line.toNat
  | none => "line " ++ toString diagnostic.line.toNat

def plainLine (diagnostic : Diagnostic) : String :=
  "- " ++ diagnostic.location ++ "  " ++ diagnostic.message ++ "\n"

def toJson (diagnostic : Diagnostic) : Json := .object <|
  [("class", .string diagnostic.className)] ++
  (match diagnostic.file with
    | some file => [("file", .string file)]
    | none => []) ++
  [("line", .integer diagnostic.line.toNat),
    ("message", .string diagnostic.message),
    ("property", .string diagnostic.property),
    ("verdict", .string diagnostic.verdict.word)]

end Diagnostic

namespace Survey

def plainReport (survey : Survey) : String :=
  let issues :=
    if survey.diagnostics.isEmpty then "No unused private properties found.\n"
    else
      "PRIVATE PROPERTY ISSUES (" ++ toString survey.diagnostics.length ++ "):\n" ++
        String.join (survey.diagnostics.map (·.plainLine))
  let note :=
    if survey.classesAbandoned = 0 then ""
    else
      "NOTE: " ++ toString survey.classesAbandoned ++
        " class(es) skipped because of unbounded dynamic property names.\n"
  issues ++ note

def toJson (survey : Survey) : Json := .object [
  ("diagnostics", .array (survey.diagnostics.map (·.toJson))),
  ("summary", .object [
    ("classes_abandoned", .integer survey.classesAbandoned),
    ("classes_analyzed", .integer survey.classesAnalyzed),
    ("classes_unsupported", .integer survey.classesUnsupported),
    ("files", .integer survey.filesScanned),
    ("files_skipped", .integer survey.filesSkipped),
    ("private_properties", .integer survey.counts.total),
    ("read_only", .integer survey.counts.readOnly),
    ("unused", .integer survey.counts.unused),
    ("write_only", .integer survey.counts.writeOnly)])]

def jsonReport (survey : Survey) : String := survey.toJson.indented

end Survey
end PropertyAudit
