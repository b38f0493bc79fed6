import PropertyAudit.FactFile.Gather
import PropertyAudit.Proofs.Json.SteadyDecoders
import PropertyAudit.Proofs.Results

/-! Fact files whose content is no text. Loading a text is parsing it; content that is no text is
refused, or else the bytes that encode no character are of no account. -/
namespace PropertyAudit

open Json

/-! ### Fact decoders -/

theorem PropertyName.steady_decoder : SteadyDecoder PropertyName.decoder :=
  fun depth => (steady_tagged _ _ _ depth).bind fun _ => steady_raiseError _

theorem Owner.steady_decoder : SteadyDecoder Owner.decoder :=
  fun depth => (steady_tagged _ _ _ depth).bind fun _ => steady_raiseError _

theorem Scope.steady_decoder : SteadyDecoder Scope.decoder :=
  fun depth => (steady_tagged _ _ _ depth).bind fun _ => steady_raiseError _

theorem steady_field {α σ : Type} {name : String} {item : Decoder α} {get : σ → Option α}
    {set : α → σ → σ} {optional : Bool} (steady : SteadyDecoder item) :
    SteadyDecoder (Decoder.RecordField.of name item get set optional).read :=
  fun depth => (steady depth).map set

theorem steady_string : SteadyDecoder Decoder.string := steady_scalar _ _

theorem steady_strings : SteadyDecoder strings := steady_list steady_string

theorem steady_optionalString : SteadyDecoder (Decoder.optional Decoder.string) :=
  steady_optional steady_string

theorem Assignments.steady_decoder : SteadyDecoder Assignments.decoder :=
  fun depth => (steady_map steady_strings depth).map _

theorem Hierarchy.Entry.steady_decoder : SteadyDecoder Hierarchy.Entry.decoder := by
  refine steady_record ?_
  simp only [fields, List.forall_mem_cons, List.not_mem_nil, false_imp_iff, implies_true, and_true]
  exact ⟨steady_field steady_string, steady_field steady_strings⟩

theorem Declaration.steady_decoder : SteadyDecoder Declaration.decoder := by
  refine steady_record ?_
  simp only [fields, List.forall_mem_cons, List.not_mem_nil, false_imp_iff, implies_true, and_true]
  exact ⟨steady_field steady_string, steady_field (steady_choice _), steady_field (steady_scalar _ _),
    steady_field (steady_scalar _ _), steady_field (steady_scalar _ _),
    steady_field steady_optionalString, steady_field steady_strings,
    steady_field (steady_scalar _ _)⟩

theorem Access.steady_decoder : SteadyDecoder Access.decoder := by
  refine steady_record ?_
  simp only [fields, List.forall_mem_cons, List.not_mem_nil, false_imp_iff, implies_true, and_true]
  exact ⟨steady_field (steady_choice _), steady_field PropertyName.steady_decoder,
    steady_field Owner.steady_decoder, steady_field (steady_optional (steady_scalar _ _))⟩

theorem ClassFacts.steady_decoder : SteadyDecoder ClassFacts.decoder := by
  refine steady_record ?_
  simp only [fields, List.forall_mem_cons, List.not_mem_nil, false_imp_iff, implies_true, and_true]
  exact ⟨steady_field steady_string, steady_field steady_optionalString,
    steady_field (steady_choice _), steady_field Scope.steady_decoder,
    steady_field steady_optionalString, steady_field (steady_list Declaration.steady_decoder),
    steady_field (steady_list Access.steady_decoder), steady_field steady_strings,
    steady_field Assignments.steady_decoder⟩

namespace FactFile

theorem steady_decoder : SteadyDecoder decoder := by
  refine steady_record ?_
  simp only [fields, List.forall_mem_cons, List.not_mem_nil, false_imp_iff, implies_true, and_true]
  exact ⟨steady_field (steady_list Hierarchy.Entry.steady_decoder),
    steady_field (steady_list ClassFacts.steady_decoder)⟩

/-! ### Loading -/

variable {disk : Disk} {path : Path} {content : List UInt8}

theorem load_of_read (readable : disk.read path = .ok content) :
    load disk path = (ofBytes content).mapError (.malformed path) := by
  rw [load, readable]
  rfl

theorem parse_eq_ok_iff {text : String} {facts : FactFile} :
    parse path text = .ok facts ↔ ofBytes (Text.bytes text) = .ok facts :=
  mapError_eq_ok_iff

theorem load_eq_ok_iff (readable : disk.read path = .ok content) {facts : FactFile} :
    load disk path = .ok facts ↔ ofBytes content = .ok facts := by
  rw [load_of_read readable, mapError_eq_ok_iff]

/-- A readable file with a text in it is loaded as the text is parsed. Content that is no text is loaded
exactly if the bytes that encode no character make no difference: every text that mends it, be it by
escapes that stand for no character, is parsed to the same facts. If not, it is refused as malformed. -/
theorem load_eq_parse_or_indifferent (readable : disk.read path = .ok content) :
    (∀ text, Text.ofBytes? content = some text → load disk path = parse path text) ∧
    (Text.ofBytes? content = none →
      (∀ facts, load disk path = .ok facts ↔
        ∀ text, Mends content (Text.bytes text) → parse path text = .ok facts) ∧
      ∀ failure, load disk path = .error failure →
        (∃ fault, failure = .malformed path fault) ∧ failure.isRecoverable) := by
  refine ⟨fun text decoded => ?_, fun _ => ⟨fun facts => ?_, fun failure refused => ?_⟩⟩
  · rw [load_of_read readable, parse, ofText, Text.bytes_of_ofBytes? decoded]
  · rw [load_eq_ok_iff readable]
    constructor
    · intro decoded text mends
      exact parse_eq_ok_iff.mpr (document_mended steady_decoder mends decoded)
    · intro all
      obtain ⟨text, forth, back⟩ := Mends.exists_text content
      exact document_mended steady_decoder back (parse_eq_ok_iff.mp (all text forth))
  · rw [load_of_read readable] at refused
    cases decoded : ofBytes content with
    | error fault =>
      rw [decoded] at refused
      cases refused
      exact ⟨⟨fault, rfl⟩, rfl⟩
    | ok facts =>
      rw [decoded] at refused
      cases refused

/-- The byte FF in the name of an unknown member makes a difference: an escaped surrogate there would
be a fault. -/
example :
    (load ⟨.directory [("f.json", .file [0x7B, 0x22, 0xFF, 0x22, 0x3A, 0x31, 0x7D])], [], []⟩
      ⟨"f.json"⟩).toOption.isNone := rfl

def undecodableInUnknownMember : List UInt8 :=
  [0x7B, 0x22, 0x78, 0x22, 0x3A, 0x22, 0x41, 0xFF, 0x22, 0x7D]

def undecodableDisk : Disk := ⟨.directory [("f.json", .file undecodableInUnknownMember)], [], []⟩

/-- Whatever stands in place of the byte FF, an escaped surrogate included, the text is parsed to no
facts. -/
theorem load_undecodable_indifferent :
    undecodableDisk.read ⟨"f.json"⟩ = .ok undecodableInUnknownMember ∧
      ∀ text, Mends undecodableInUnknownMember (Text.bytes text) →
        parse ⟨"f.json"⟩ text = .ok { hierarchy := [], classes := [] } := by
  have readable : undecodableDisk.read ⟨"f.json"⟩ = .ok undecodableInUnknownMember := rfl
  have noText : Text.ofBytes? undecodableInUnknownMember = none := by decide +kernel
  have loads := ((load_eq_parse_or_indifferent readable).2 noText).1
  exact ⟨readable, (loads _).mp rfl⟩

theorem load_accepts_undecodable_byte :
    undecodableDisk.read ⟨"f.json"⟩ = .ok undecodableInUnknownMember ∧
      Text.ofBytes? undecodableInUnknownMember = none ∧
      load undecodableDisk ⟨"f.json"⟩ = .ok { hierarchy := [], classes := [] } :=
  ⟨rfl, by decide +kernel, rfl⟩

end FactFile
end PropertyAudit
