import PropertyAudit.Proofs.PropertyTable.Evidence

/-! A table under marks. Which records there are, in which order, and where the index finds them is
settled when the table is built; marks only join evidence to the records of their names, so neither their
order nor their repetition shows. -/
namespace PropertyAudit.PropertyTable

/-- A table of the class as it is after the marks. The records are those of the first declarations of
private properties, the index leads to each of them by its name and nowhere else, all ways to ask for a
name agree, and each record holds what it began with together with the marks under its name. -/
structure IsMarkedBy (table : PropertyTable) (options : Options) (extensions : List Extension)
    (facts : ClassFacts) (marks : List Contribution) : Prop where
  declarations : table.records.map (·.declaration) = Declaration.firsts facts.privateProperties
  distinct : table.names.Nodup
  indexed : ∀ name position, table.index.lookup name = some position ↔
    ∃ record, table.records[position]? = some record ∧ record.name = name
  contained : ∀ name, table.contains name ↔ name ∈ table.names
  found : ∀ name record, table.get? name = some record ↔ record ∈ table.records ∧ record.name = name
  answered : ∀ name usage, (table.get? name).isSome = table.contains name ∧
    (table.mark? name usage).isSome = table.contains name
  evidence : ∀ record ∈ table.records, record.usage =
    (initialUsage options extensions facts.name record.declaration).1.merge
      (evidenceFor record.name marks)

theorem isMarkedBy_markAll (options : Options) (extensions : List Extension) (facts : ClassFacts)
    (marks : List Contribution) :
    ((ofClass options extensions facts).markAll marks).IsMarkedBy options extensions facts marks where
  declarations := by
    rw [records_markAll_ofClass, List.map_map]
    exact List.map_id _
  distinct := nodup_names _
  indexed _ _ := lookup_index_eq_some_iff
  contained _ := contains_iff
  found _ _ := get?_eq_some_iff
  answered name usage := ⟨isSome_get? _ name, isSome_mark? _ name usage⟩
  evidence := by
    intro record among
    rw [records_markAll_ofClass] at among
    obtain ⟨declaration, -, rfl⟩ := List.mem_map.mp among
    rfl

/-- However often and in whatever order the table of a class is marked, its records stay those of the first
declarations, found by name where the index says, each with its own marks joined to what it began with.
Marks in another order or repeated give the same table, and what is found under a name does not depend
on marks under other names. -/
theorem marks_join_evidence_in_place (options : Options) (extensions : List Extension)
    (facts : ClassFacts) (marks : List Contribution) :
    let start := ofClass options extensions facts
    (start.markAll marks).IsMarkedBy options extensions facts marks ∧
    (∀ others, SameMembers others marks → start.markAll others = start.markAll marks) ∧
    ∀ name, (start.markAll marks).get? name =
      (start.markAll (marks.filter (·.property = name))).get? name := by
  intro start
  refine ⟨isMarkedBy_markAll options extensions facts marks, fun others same => ?_, fun name => ?_⟩
  · exact start.markAll_of_sameMembers same
  · rw [get?_markAll, get?_markAll, evidenceFor_filter]

/-- `alpha` is declared twice, the second time with a tag that does not count, and `shown` is public. One of
the marks is for a name that no record has. -/
theorem marks_join_evidence_in_place_of_two_records :
    let declared (name : String) (visibility : Visibility) (hasDefault : Bool)
        (comment : Option String) : Declaration :=
      ⟨name, visibility, false, hasDefault, false, comment, [], 1⟩
    let facts : ClassFacts := {
      name := "Foo", displayName? := none, kind := .concrete, scope := .inClass "Foo", file := none
      properties := [declared "zeta" .isPrivate false none, declared "shown" .isPublic false none,
        declared "alpha" .isPrivate true none, declared "alpha" .isPrivate false (some "@api")]
      accesses := [], constructors := [], assignments := .empty }
    let options : Options := ⟨["@api"], [], false, []⟩
    let marks : List Contribution := [⟨"zeta", .none⟩, ⟨"alpha", ⟨true, false⟩⟩, ⟨"omega", ⟨true, true⟩⟩]
    let others : List Contribution := [⟨"omega", ⟨true, true⟩⟩, ⟨"alpha", ⟨true, false⟩⟩, ⟨"zeta", .none⟩,
      ⟨"alpha", ⟨true, false⟩⟩]
    let table := (ofClass options [] facts).markAll marks
    table.names = ["zeta", "alpha"] ∧ table.index.lookup "alpha" = some 1 ∧
      table.contains "omega" = false ∧
      table.get? "alpha" = some ⟨declared "alpha" .isPrivate true none, ⟨true, true⟩⟩ ∧
      SameMembers others marks ∧ (ofClass options [] facts).markAll others = table ∧
      table.get? "alpha" = ((ofClass options [] facts).markAll [⟨"alpha", ⟨true, false⟩⟩]).get? "alpha" := by
  intro declared facts options marks others table
  obtain ⟨marked, unordered, apart⟩ := marks_join_evidence_in_place options [] facts marks
  have names : table.names = ["zeta", "alpha"] := rfl
  have same : SameMembers others marks := by
    intro mark
    simp only [others, marks, List.mem_cons, List.not_mem_nil, or_false]
    grind
  refine ⟨names, ?_, ?_, ?_, same, unordered others same, apart "alpha"⟩
  · exact (marked.indexed "alpha" 1).mpr ⟨_, rfl, rfl⟩
  · rw [← Bool.not_eq_true, marked.contained, names]
    decide
  · exact (marked.found "alpha" _).mpr ⟨List.mem_of_getElem? (i := 1) rfl, rfl⟩

end PropertyAudit.PropertyTable
