import PropertyAudit.Correlation
import PropertyAudit.Proofs.ClassFacts.FirstDeclarations
import PropertyAudit.Proofs.Members

/-! The evidence a table ends with. Reads and writes are told apart by a kind only, so that each fact
is stated once. Questions left out because the answer is known, and marks made twice or in another
order, change nothing. -/
namespace PropertyAudit

namespace Usage

def shows (usage : Usage) : AccessKind → Bool
  | .read => usage.read
  | .write => usage.written

theorem ext_shows {a b : Usage} (same : ∀ kind, a.shows kind = b.shows kind) : a = b := by
  cases a
  cases b
  exact congr (congrArg _ (same .read)) (same .write)

@[simp] theorem shows_none (kind : AccessKind) : none.shows kind = false := by
  cases kind <;> rfl

@[simp] theorem shows_merge (a b : Usage) (kind : AccessKind) :
    (a.merge b).shows kind = (a.shows kind || b.shows kind) := by
  cases kind <;> rfl

@[simp] theorem shows_ofKind (given kind : AccessKind) :
    (ofKind given).shows kind ↔ given = kind := by
  cases given <;> cases kind <;> simp [ofKind, shows]

theorem shows_of_isComplete {usage : Usage} (complete : usage.isComplete) (kind : AccessKind) :
    usage.shows kind := by
  have both := Bool.and_eq_true_iff.mp complete
  cases kind
  · exact both.1
  · exact both.2

theorem foldl_merge (usages : List Usage) (start : Usage) :
    usages.foldl merge start = start.merge (mergeAll usages) := by
  induction usages generalizing start with
  | nil => simp [mergeAll]
  | cons usage usages ih =>
    rw [mergeAll, List.foldl_cons, List.foldl_cons, ih, ih (none.merge usage), none_merge, merge_assoc]

theorem mergeAll_cons (usage : Usage) (usages : List Usage) :
    mergeAll (usage :: usages) = usage.merge (mergeAll usages) := by
  rw [mergeAll, List.foldl_cons, foldl_merge, none_merge]

theorem shows_mergeAll {usages : List Usage} {kind : AccessKind} :
    (mergeAll usages).shows kind ↔ ∃ usage ∈ usages, usage.shows kind := by
  induction usages with
  | nil => simp [mergeAll]
  | cons usage usages ih => simp [mergeAll_cons, ih]

end Usage

def Options.tags (options : Options) : AccessKind → List String
  | .read => options.alwaysReadTags
  | .write => options.alwaysWrittenTags

namespace Extension

def affirms (extension : Extension) : AccessKind → String → Declaration → Bool
  | .read => extension.alwaysRead
  | .write => extension.alwaysWritten

/-- To stop once both flags are there gives what asking every extension would give. -/
theorem shows_resolveFrom (name : String) (property : Declaration) (index : Nat) (found : Usage)
    (extensions : List Extension) (kind : AccessKind) :
    (resolveFrom name property index found extensions).1.shows kind =
      (found.shows kind || extensions.any (·.affirms kind name property)) := by
  induction extensions generalizing index found with
  | nil => simp [resolveFrom]
  | cons extension extensions ih =>
    rw [resolveFrom, List.any_cons, ← Bool.or_assoc]
    have here : Usage.shows ⟨found.read || extension.alwaysRead name property,
        found.written || extension.alwaysWritten name property⟩ kind =
        (found.shows kind || extension.affirms kind name property) := by cases kind <;> rfl
    split
    · next complete =>
      rw [← here, Usage.shows_of_isComplete complete, Bool.true_or]
    · rw [ih, here]

theorem shows_resolve {extensions : List Extension} {name : String} {property : Declaration}
    {kind : AccessKind} :
    (resolve extensions name property).1.shows kind ↔
      ∃ extension ∈ extensions, extension.affirms kind name property := by
  rw [resolve, shows_resolveFrom, Usage.shows_none, Bool.false_or, List.any_eq_true]

end Extension

theorem Text.contains_iff {text pattern : String} :
    Text.contains text pattern ↔ pattern.toList <:+: text.toList := by
  rw [Text.contains, Text.isInfix_iff]
  exact ⟨fun ⟨before, after, same⟩ => ⟨before, after, same.symm⟩,
    fun ⟨before, after, same⟩ => ⟨before, after, same.symm⟩⟩

def Declaration.IsTagged (declaration : Declaration) (options : Options) (kind : AccessKind) :
    Prop :=
  ∃ comment ∈ declaration.docComment, ∃ tag ∈ options.tags kind, tag.toList <:+: comment.toList

namespace PropertyTable

variable {options : Options} {extensions : List Extension} {name : String}
  {declaration : Declaration}

theorem shows_tagUsage {kind : AccessKind} :
    (tagUsage options declaration).shows kind ↔ declaration.IsTagged options kind := by
  unfold tagUsage Declaration.IsTagged
  cases declaration.docComment with
  | none => simp
  | some comment => cases kind <;> simp [Usage.shows, Options.tags, Text.contains_iff]

/-- The evidence before any access, for each kind by itself. -/
theorem shows_initialUsage {kind : AccessKind} :
    (initialUsage options extensions name declaration).1.shows kind ↔
      declaration.IsTagged options kind ∨
        (∃ extension ∈ extensions, extension.affirms kind name declaration) ∨
        kind = .write ∧ declaration.assigns := by
  have assigned : Usage.shows ⟨false, declaration.assigns⟩ kind ↔
      kind = .write ∧ declaration.assigns := by cases kind <;> simp [Usage.shows]
  rw [← shows_tagUsage, ← assigned, ← Extension.shows_resolve]
  unfold initialUsage
  by_cases complete : (tagUsage options declaration).isComplete
  · have tagged := Usage.shows_of_isComplete complete kind
    simp [complete, tagged]
  · simp [complete, or_assoc]

def evidenceFor (name : String) (contributions : List Contribution) : Usage :=
  .mergeAll ((contributions.filter (·.property = name)).map (·.usage))

theorem shows_evidenceFor {contributions : List Contribution} {kind : AccessKind} :
    (evidenceFor name contributions).shows kind ↔
      ∃ contribution ∈ contributions, contribution.property = name ∧ contribution.usage.shows kind := by
  rw [evidenceFor, Usage.shows_mergeAll]
  constructor
  · rintro ⟨usage, among, shown⟩
    obtain ⟨contribution, kept, rfl⟩ := List.mem_map.mp among
    have ⟨among, same⟩ := List.mem_filter.mp kept
    exact ⟨contribution, among, of_decide_eq_true same, shown⟩
  · rintro ⟨contribution, among, same, shown⟩
    exact ⟨contribution.usage, List.mem_map.mpr
      ⟨contribution, List.mem_filter.mpr ⟨among, decide_eq_true same⟩, rfl⟩, shown⟩

theorem evidenceFor_of_sameMembers {contributions others : List Contribution}
    (same : SameMembers others contributions) (name : String) :
    evidenceFor name others = evidenceFor name contributions := by
  apply Usage.ext_shows
  intro kind
  rw [Bool.eq_iff_iff, shows_evidenceFor, shows_evidenceFor]
  simp only [same _]

/-- Contributions to other names are no evidence. -/
theorem evidenceFor_filter (name : String) (contributions : List Contribution) :
    evidenceFor name (contributions.filter (·.property = name)) = evidenceFor name contributions := by
  rw [evidenceFor, List.filter_filter, evidenceFor]
  simp only [Bool.and_self]

end PropertyTable

def PropertyRecord.marked (record : PropertyRecord) (name : String) (usage : Usage) :
    PropertyRecord :=
  if record.name = name then record.joined usage else record

@[simp] theorem PropertyRecord.name_marked (record : PropertyRecord) (name : String)
    (usage : Usage) : (record.marked name usage).name = record.name := by
  unfold marked; split <;> rfl

theorem PropertyRecord.marked_joined (record : PropertyRecord) (contribution : Contribution)
    (contributions : List Contribution) :
    (record.marked contribution.property contribution.usage).joined
        (PropertyTable.evidenceFor record.name contributions) =
      record.joined (PropertyTable.evidenceFor record.name (contribution :: contributions)) := by
  unfold marked
  split
  · next same =>
    simp [joined, PropertyTable.evidenceFor, same, Usage.mergeAll_cons, Usage.merge_assoc]
  · next different =>
    simp [PropertyTable.evidenceFor, Ne.symm different]

namespace PropertyTable

/-- The one record that the index finds is the one that has the name. -/
theorem records_mark (table : PropertyTable) (name : String) (usage : Usage) :
    (table.mark name usage).records = table.records.map (·.marked name usage) := by
  unfold mark mark?
  cases found : table.index.lookup name with
  | none =>
    have others : ∀ record ∈ table.records, record.marked name usage = record := by
      intro record among
      refine if_neg fun same => ?_
      exact table.indexed.lookup_eq_none_iff.mp found (same ▸ List.mem_map_of_mem among)
    exact ((List.map_congr_left others).trans (List.map_id' _)).symm
  | some position =>
    apply List.ext_getElem?
    intro other
    rw [Option.map_some, Option.getD_some, List.getElem?_modify, List.getElem?_map]
    cases here : table.records[other]? with
    | none => rfl
    | some record =>
      have own : position = other ↔ record.name = name := by
        rw [← Option.some.injEq, ← found, lookup_index_eq_some_iff]
        simp [here]
      simp [PropertyRecord.marked, own]

theorem index_mark (table : PropertyTable) (name : String) (usage : Usage) :
    (table.mark name usage).index = table.index := by
  unfold mark mark?
  cases table.index.lookup name <;> rfl

/-- Marks keep every record in its place and give it the evidence for its name. -/
theorem records_markAll (table : PropertyTable) (contributions : List Contribution) :
    (table.markAll contributions).records =
      table.records.map fun record => record.joined (evidenceFor record.name contributions) := by
  induction contributions generalizing table with
  | nil => simp [markAll, evidenceFor, Usage.mergeAll, PropertyRecord.joined]
  | cons contribution contributions ih =>
    rw [markAll, List.foldl_cons, ← markAll, ih, records_mark, List.map_map]
    apply List.map_congr_left
    intro record among
    rw [Function.comp_apply, PropertyRecord.name_marked, record.marked_joined]

theorem index_markAll (table : PropertyTable) (contributions : List Contribution) :
    (table.markAll contributions).index = table.index := by
  induction contributions generalizing table with
  | nil => rfl
  | cons contribution contributions ih => rw [markAll, List.foldl_cons, ← markAll, ih, index_mark]

/-- A record is found where it was before, with the evidence for its name. -/
theorem get?_markAll (table : PropertyTable) (contributions : List Contribution) (name : String) :
    (table.markAll contributions).get? name =
      (table.get? name).map (·.joined (evidenceFor name contributions)) := by
  rw [get?, index_markAll, records_markAll, get?]
  cases listed : table.index.lookup name with
  | none => rfl
  | some position =>
    obtain ⟨record, here, rfl⟩ := lookup_index_eq_some_iff.mp listed
    simp only [Option.bind_some, List.getElem?_map, here, Option.map_some]

theorem markAll_of_sameMembers (table : PropertyTable) {contributions others : List Contribution}
    (same : SameMembers others contributions) :
    table.markAll others = table.markAll contributions := by
  apply eq_of_records_of_index
  · rw [records_markAll, records_markAll]
    simp only [evidenceFor_of_sameMembers same]
  · rw [index_markAll, index_markAll]

theorem records_push (table : PropertyTable) (declaration : Declaration) (usage : Usage) :
    (table.push declaration usage).records =
      if declaration.name ∈ table.names then table.records
      else table.records ++ [⟨declaration, usage⟩] := by
  unfold push
  by_cases known : table.contains declaration.name
  · rw [dif_pos known, if_pos (contains_iff.mp known)]
  · rw [dif_neg known, if_neg (mt contains_iff.mpr known)]

/-- Of declarations pushed one after another those stay that are the first of a new name. -/
theorem records_foldl_push (initial : Declaration → Usage) (declarations : List Declaration)
    (table : PropertyTable) :
    (declarations.foldl (fun table declaration => table.push declaration (initial declaration))
        table).records =
      table.records ++ (Declaration.firsts
        (declarations.filter fun declaration => declaration.name ∉ table.names)).map
          fun declaration => ⟨declaration, initial declaration⟩ := by
  induction declarations generalizing table with
  | nil => simp [Declaration.firsts]
  | cons declaration declarations ih =>
    rw [List.foldl_cons, ih, records_push, names_push]
    by_cases known : declaration.name ∈ table.names
    · simp [known]
    · have rest : (declarations.filter fun other =>
          other.name ∉ table.names ++ [declaration.name]) =
          (declarations.filter (·.name ∉ table.names)).filter (!·.name == declaration.name) := by
        rw [List.filter_filter]
        apply List.filter_congr
        intro other _
        by_cases same : other.name = declaration.name <;> simp [same]
      have kept : decide (declaration.name ∉ table.names) := decide_eq_true known
      rw [if_neg known, if_neg known, rest, List.filter_cons, if_pos kept,
        Declaration.firsts_cons, List.map_cons, List.append_assoc, List.singleton_append]

theorem records_ofClass (facts : ClassFacts) :
    (ofClass options extensions facts).records =
      (Declaration.firsts facts.privateProperties).map fun declaration =>
        ⟨declaration, (initialUsage options extensions facts.name declaration).1⟩ := by
  have all : facts.privateProperties.filter (·.name ∉ empty.names) = facts.privateProperties :=
    List.filter_eq_self.mpr (by simp [empty, names])
  rw [ofClass, records_foldl_push, all]
  rfl

/-- The records of a class after any marks: those of the first declarations, each with what it began
with and the evidence for its name. -/
theorem records_markAll_ofClass (facts : ClassFacts) (contributions : List Contribution) :
    ((ofClass options extensions facts).markAll contributions).records =
      (Declaration.firsts facts.privateProperties).map fun declaration =>
        ⟨declaration, (initialUsage options extensions facts.name declaration).1.merge
          (evidenceFor declaration.name contributions)⟩ := by
  rw [records_markAll, records_ofClass, List.map_map]
  rfl

end PropertyTable
end PropertyAudit
