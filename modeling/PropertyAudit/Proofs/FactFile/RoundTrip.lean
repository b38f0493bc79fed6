import PropertyAudit.FactFile.Encoder
import PropertyAudit.FactFile.Gather
import PropertyAudit.Proofs.Json.Containers
import PropertyAudit.Proofs.ValueType.Leaves

/-! Facts that are written as JSON are read back as they were, whatever they hold, as long as their
types do not nest deeper than a document may. -/
namespace PropertyAudit

open Json

namespace Json

theorem Buffered.single_alone {expected name : String} {item : Json → Except Cause α} {json : Json}
    {default? : Option α} {value : α} (read : item json = .ok value) :
    single expected name item default? (.object [(name, json)]) = .ok value := by
  simp [single, singleMember, read, bind, Except.bind]

theorem decodes_strings (texts : List String) : Decodes strings (ofStrings texts) texts :=
  decodes_list fun text _ => decodes_string text

theorem decodes_optionalString (text? : Option String) :
    Decodes (Decoder.optional Decoder.string) (ofOption string text?) text? :=
  decodes_optional (fun _ => Json.noConfusion) fun text _ => decodes_string text

end Json

@[simp] theorem numbersFit_lineToJson (line : UInt32) : (lineToJson line).NumbersFit :=
  numbersFit_natural (Nat.lt_trans line.toNat_lt (by decide))

namespace ValueType

theorem allToJson_eq (types : List ValueType) : allToJson types = types.map toJson := by
  induction types with
  | nil => rfl
  | cons type types ih => rw [allToJson, ih, List.map_cons]

@[simp] theorem numbersFit_toJson (type : ValueType) : type.toJson.NumbersFit := by
  induction type with
  | union members ih => simpa [toJson, allToJson_eq] using ih
  | _ => simp [toJson]

theorem mapM_eq_ok {α ε : Type} {read : Json → Except ε α} {toJson : α → Json} {values : List α}
    (reads : ∀ value ∈ values, read (toJson value) = .ok value) :
    (values.map toJson).mapM read = .ok values := by
  induction values with
  | nil => rfl
  | cons value values ih =>
    have ⟨here, others⟩ := List.forall_mem_cons.mp reads
    rw [List.map_cons, List.mapM_cons, here, ih others]
    rfl

theorem ofJsonWithin_toJson (type : ValueType) {levels : Nat} (enough : type.toJson.height < levels) :
    ofJsonWithin levels type.toJson = .ok type := by
  induction type generalizing levels with
  | union members ih =>
    obtain ⟨levels, rfl⟩ := Nat.exists_eq_succ_of_ne_zero (Nat.ne_of_gt (Nat.zero_lt_of_lt enough))
    have nested : (members.map toJson).mapM (ofJsonWithin levels) = .ok members := by
      refine mapM_eq_ok fun member among => ih member among ?_
      have low : member.toJson.height ≤ _ := height_le_heightOfItems (List.mem_map_of_mem among)
      simp only [toJson, height, heightOfMembers, allToJson_eq] at enough
      omega
    rw [← allToJson_eq] at nested
    change ValueType.union <$> Buffered.single _ _ (Buffered.list (ofJsonWithin levels)) _ _ = _
    rw [Buffered.single_alone nested]
    rfl
  | _ =>
    obtain ⟨levels, rfl⟩ := Nat.exists_eq_succ_of_ne_zero (Nat.ne_of_gt (Nat.zero_lt_of_lt enough))
    rfl

theorem ofJson_toJson (type : ValueType) : ofJson type.toJson = .ok type :=
  ofJsonWithin_toJson type (Nat.lt_succ_self _)

end ValueType

/-! ### Tagged values -/

namespace PropertyName

@[simp] theorem numbersFit_toJson (name : PropertyName) : name.toJson.NumbersFit := by
  cases name <;> simp [toJson]

theorem decodes_toJson (name : PropertyName) : Decodes decoder name.toJson name := by
  cases name with
  | literal name => exact decodes_raiseError (decodes_tagged rfl (by simp)) rfl
  | computed type =>
    refine decodes_raiseError (decodes_tagged rfl (by simp)) ?_
    change PropertyName.computed <$> Buffered.single _ _ ValueType.ofJson _ _ = _
    rw [Buffered.single_alone type.ofJson_toJson]
    rfl

end PropertyName

namespace Owner

@[simp] theorem numbersFit_toJson (owner : Owner) : owner.toJson.NumbersFit := by
  cases owner <;> simp [toJson]

theorem decodes_toJson (owner : Owner) : Decodes decoder owner.toJson owner := by
  cases owner with
  | expression type =>
    refine decodes_raiseError (decodes_tagged rfl (by simp)) ?_
    change Owner.expression <$> Buffered.single _ _ ValueType.ofJson _ _ = _
    rw [Buffered.single_alone type.ofJson_toJson]
    rfl
  | classReference name =>
    refine decodes_raiseError (decodes_tagged rfl (by simp)) ?_
    cases name <;> rfl

end Owner

namespace Scope

@[simp] theorem numbersFit_toJson (scope : Scope) : scope.toJson.NumbersFit := by
  cases scope <;> simp [toJson]

theorem decodes_toJson (scope : Scope) : Decodes decoder scope.toJson scope := by
  cases scope with
  | inClass name => exact decodes_raiseError (decodes_tagged rfl (by simp)) rfl
  | outside => exact decodes_raiseError (decodes_tagged rfl (by simp)) rfl

end Scope

/-! ### Words -/

theorem AccessKind.decodes_word (kind : AccessKind) : Decodes decoder (.string kind.word) kind := by
  cases kind <;> exact decodes_choice rfl

theorem Visibility.decodes_word (visibility : Visibility) :
    Decodes decoder (.string visibility.word) visibility := by
  cases visibility <;> exact decodes_choice rfl

theorem ClassKind.decodes_word (kind : ClassKind) : Decodes decoder (.string kind.word) kind := by
  cases kind <;> exact decodes_choice rfl

/-! ### Records -/

namespace Hierarchy.Entry

@[simp] theorem numbersFit_toJson (entry : Entry) : entry.toJson.NumbersFit := by
  simp [toJson]

theorem decodes_toJson (entry : Entry) : Decodes decoder entry.toJson entry :=
  decodes_record (by decide)
    (.cons rfl (decodes_field (decodes_string _)) <|
      .cons rfl (decodes_field (decodes_strings _)) .nil)
    rfl

end Hierarchy.Entry

namespace Declaration

@[simp] theorem numbersFit_toJson (declaration : Declaration) : declaration.toJson.NumbersFit := by
  simp [toJson]

theorem decodes_toJson (declaration : Declaration) :
    Decodes decoder declaration.toJson declaration :=
  decodes_record (by decide)
    (.cons rfl (decodes_field (decodes_string _)) <|
      .cons rfl (decodes_field (Visibility.decodes_word _)) <|
      .cons rfl (decodes_field (decodes_boolean _)) <|
      .cons rfl (decodes_field (decodes_boolean _)) <|
      .cons rfl (decodes_field (decodes_boolean _)) <|
      .cons rfl (decodes_field (decodes_optionalString _)) <|
      .cons rfl (decodes_field (decodes_strings _)) <|
      .cons rfl (decodes_field (decodes_word32 _)) .nil)
    rfl

end Declaration

namespace Access

@[simp] theorem numbersFit_toJson (access : Access) : access.toJson.NumbersFit := by
  simp [toJson]

theorem decodes_line (line? : Option UInt32) :
    Decodes (Decoder.optional Decoder.word32) (.ofOption lineToJson line?) line? :=
  decodes_optional (fun _ => Json.noConfusion) fun line _ => decodes_word32 line

theorem decodes_toJson (access : Access) : Decodes decoder access.toJson access :=
  decodes_record (by decide)
    (.cons rfl (decodes_field (AccessKind.decodes_word _)) <|
      .cons rfl (decodes_field (PropertyName.decodes_toJson _)) <|
      .cons rfl (decodes_field (Owner.decodes_toJson _)) <|
      .cons rfl (decodes_field (decodes_line _)) .nil)
    rfl

end Access

namespace Assignments

theorem insertEntry_last {method : String} {properties : List String}
    {entries : List (String × List String)} (last : ∀ entry ∈ entries, entry.1 < method) :
    insertEntry method properties entries = entries ++ [(method, properties)] := by
  induction entries with
  | nil => rfl
  | cons entry entries ih =>
    have ⟨before, others⟩ := List.forall_mem_cons.mp last
    have notBefore : ¬method < entry.1 := String.lt_asymm before
    have different : method ≠ entry.1 := fun same => String.lt_irrefl _ (same ▸ before)
    rw [insertEntry, if_neg notBefore, if_neg different, ih others, List.cons_append]

theorem entries_foldl_insert {entries : List (String × List String)} (assignments : Assignments)
    (ascending : (assignments.entries ++ entries).Pairwise (·.1 < ·.1)) :
    (entries.foldl (fun assignments entry => assignments.insert entry.1 entry.2) assignments).entries =
      assignments.entries ++ entries := by
  induction entries generalizing assignments with
  | nil => simp
  | cons entry entries ih =>
    have last : ∀ other ∈ assignments.entries, other.1 < entry.1 := fun other member =>
      (List.pairwise_append.mp ascending).2.2 other member entry List.mem_cons_self
    have inserted : (assignments.insert entry.1 entry.2).entries = assignments.entries ++ [entry] :=
      insertEntry_last last
    rw [List.foldl_cons, ih, inserted, List.append_assoc, List.singleton_append]
    rwa [inserted, List.append_assoc, List.singleton_append]

theorem ofList_entries (assignments : Assignments) : ofList assignments.entries = assignments := by
  have same : (ofList assignments.entries).entries = assignments.entries :=
    entries_foldl_insert empty assignments.ascending
  generalize ofList assignments.entries = other at same
  cases other
  cases assignments
  cases same
  rfl

@[simp] theorem numbersFit_toJson (assignments : Assignments) : assignments.toJson.NumbersFit := by
  rw [toJson, numbersFit_object, List.forall_mem_map]
  exact fun entry _ => numbersFit_ofStrings entry.2

theorem decodes_toJson (assignments : Assignments) :
    Decodes decoder assignments.toJson assignments := by
  have distinct : (assignments.entries.map (·.1)).Nodup := by
    rw [List.Nodup, List.pairwise_map]
    exact assignments.ascending.imp fun before => String.ne_of_lt before
  intro depth enough blanks text rest allBlank written ends
  have taken := decodes_map (fun entry _ => decodes_strings entry.2) distinct depth enough blanks
    text rest allBlank written ends
  rw [decoder, run_map _ taken, ofList_entries]

end Assignments

namespace ClassFacts

@[simp] theorem numbersFit_toJson (facts : ClassFacts) : facts.toJson.NumbersFit := by
  simp [toJson]

theorem decodes_toJson (facts : ClassFacts) : Decodes decoder facts.toJson facts :=
  decodes_record (by decide)
    (.cons rfl (decodes_field (decodes_string _)) <|
      .cons rfl (decodes_field (decodes_optionalString _)) <|
      .cons rfl (decodes_field (ClassKind.decodes_word _)) <|
      .cons rfl (decodes_field (Scope.decodes_toJson _)) <|
      .cons rfl (decodes_field (decodes_optionalString _)) <|
      .cons rfl (decodes_field (decodes_list fun _ _ => Declaration.decodes_toJson _)) <|
      .cons rfl (decodes_field (decodes_list fun _ _ => Access.decodes_toJson _)) <|
      .cons rfl (decodes_field (decodes_strings _)) <|
      .cons rfl (decodes_field (Assignments.decodes_toJson _)) .nil)
    rfl

end ClassFacts

namespace FactFile

@[simp] theorem numbersFit_toJson (facts : FactFile) : facts.toJson.NumbersFit := by
  simp [toJson]

theorem decodes_toJson (facts : FactFile) : Decodes decoder facts.toJson facts :=
  decodes_record (by decide)
    (.cons rfl (decodes_field (decodes_list fun _ _ => Hierarchy.Entry.decodes_toJson _)) <|
      .cons rfl (decodes_field (decodes_list fun _ _ => ClassFacts.decodes_toJson _)) .nil)
    rfl

/-- Any text of the facts is read back, whatever blanks stand in it. -/
theorem parse_of_written {path : Path} {facts : FactFile} {text : String}
    (enough : facts.toJson.height ≤ Decoder.depthLimit)
    (written : Written facts.toJson (Text.bytes text)) : parse path text = .ok facts := by
  rw [parse, ofText, ofBytes, document_written facts.decodes_toJson enough written]
  rfl

/-- Facts that nest no deeper than a document may are read back from what is written for them, compact
or indented. -/
theorem parse_toJson (path : Path) (facts : FactFile)
    (enough : facts.toJson.height ≤ 127) :
    parse path facts.toJson.compact = .ok facts ∧ parse path facts.toJson.indented = .ok facts :=
  ⟨parse_of_written enough (written_compact facts.numbersFit_toJson),
    parse_of_written enough (written_indented facts.numbersFit_toJson)⟩

/-- Escapes, nested unions, absent options and map entries in one file. -/
theorem parse_toJson_of_nested_unions :
    let access : Access := {
      kind := .write
      name := .computed (.union [.literal "a", .union [.null, .literal "\"\\\n\x01é"], .union []])
      owner := .classReference none
      line := some 4294967295 }
    let facts : FactFile := {
      hierarchy := [{ name := "B", parents := ["A"] }]
      classes := [{
        name := "A"
        displayName? := none
        kind := .isEnum
        scope := .outside
        file := some ""
        properties := []
        accesses := [access]
        constructors := []
        assignments := (Assignments.empty.insert "n" []).insert "m" ["p"] }] }
    facts.toJson.height ≤ 127 ∧ parse ⟨"f.json"⟩ facts.toJson.compact = .ok facts ∧
      parse ⟨"f.json"⟩ facts.toJson.indented = .ok facts := by
  intro access facts
  have low : facts.toJson.height ≤ 127 := by decide +kernel
  exact ⟨low, parse_toJson ⟨"f.json"⟩ facts low⟩

end FactFile
end PropertyAudit
