import Mathlib.Data.List.Forall2
import PropertyAudit.Proofs.ClassAudit.Verdicts
import PropertyAudit.Proofs.Hierarchy.Parents
import PropertyAudit.Proofs.ValueType.LaterEntries

/-! What more evidence does to verdicts. Entries put behind those already there leave every chain and
every first parent in place, so an access that counted goes on counting; and nothing takes back what a
tag, an extension or an access has shown. -/
namespace PropertyAudit

section MoreEntries

variable {entries added : List Hierarchy.Entry} {name : String}

namespace Hierarchy

variable {parent : String}

/-- The parent that comes first keeps its place. -/
theorem head?_parentsOf_append (first : ((ofEntries entries).parentsOf name).head? = some parent) :
    ((ofEntries (entries ++ added)).parentsOf name).head? = some parent := by
  rw [head?_parentsOf_ofEntries] at first ⊢
  rw [listedParents_append, List.head?_append, first, Option.some_or]

end Hierarchy

/-- An owner that comes to a type comes to the same one. One that names a parent where there was none
may come to a type it had not. -/
theorem Owner.resolve_append {owner : Owner} {type : ValueType}
    (resolved : owner.resolve (.ofEntries entries) name = .ok type) :
    owner.resolve (.ofEntries (entries ++ added)) name = .ok type := by
  rw [resolve_eq_head?] at resolved ⊢
  cases first : ((Hierarchy.ofEntries entries).parentsOf name).head? with
  | some parent => rwa [Hierarchy.head?_parentsOf_append first, ← first]
  | none =>
    rw [first] at resolved
    cases owner with
    | expression type => exact resolved
    | classReference reference =>
      cases reference with
      | none => exact resolved
      | some reference =>
        simp only at resolved ⊢
        split
        · next own => rwa [if_pos own] at resolved
        · next other =>
          rw [if_neg other] at resolved
          split
          · next parent =>
            rw [if_pos parent] at resolved
            cases resolved
          · next plain => rwa [if_neg plain] at resolved

theorem Access.Counts.append {access : Access} (counts : access.Counts (.ofEntries entries) name) :
    access.Counts (.ofEntries (entries ++ added)) name := by
  obtain ⟨found, applies⟩ := counts
  obtain ⟨bounded, evidence, type, resolved, proven⟩ := resolve_eq_applies_iff.mp applies
  exact ⟨found, resolve_eq_applies_iff.mpr ⟨bounded, evidence, type,
    Owner.resolve_append resolved, ValueType.isBelow_yes_append proven⟩⟩

end MoreEntries

/-- The verdicts that more evidence can turn a verdict into. Whether a property that is read and never
written is presumed initialized is no matter of evidence. -/
def Verdict.mayBecome : Verdict → List Verdict
  | .unused => [.unused, .writeOnly, .readOnly, .presumedInitialized, .ok]
  | .writeOnly => [.writeOnly, .ok]
  | .readOnly | .presumedInitialized => [.readOnly, .presumedInitialized, .ok]
  | .ok => [.ok]

/-- Whether the second usage shows whatever the first one shows. -/
def Usage.Keeps (earlier later : Usage) : Prop :=
  (earlier.read → later.read) ∧ (earlier.written → later.written)

theorem Usage.keeps_of_shows {earlier later : Usage}
    (kept : ∀ kind, earlier.shows kind → later.shows kind) : earlier.Keeps later :=
  ⟨kept .read, kept .write⟩

theorem Usage.Keeps.verdict_mem {earlier later : Usage} (keeps : earlier.Keeps later) (name : String)
    (uninitialized others : Option (List String)) :
    later.verdict name others ∈ (earlier.verdict name uninitialized).mayBecome := by
  obtain ⟨read, written⟩ := earlier
  obtain ⟨alsoRead, alsoWritten⟩ := later
  obtain ⟨keepsRead, keepsWritten⟩ := keeps
  unfold Usage.verdict
  generalize uninitialized.any (·.contains name) = listed
  generalize others.any (·.contains name) = alsoListed
  cases read <;> cases written <;> cases alsoRead <;> cases alsoWritten <;> cases listed <;>
    cases alsoListed <;> simp_all [Verdict.mayBecome]

namespace Auditor

variable {auditor other : Auditor} {hierarchy : Hierarchy} {entries added : List Hierarchy.Entry}
  {facts : ClassFacts} {accesses : List Access} {audit later : ClassAudit}

/-- An audit that finishes concludes with all evidence, as no access may reach any name. -/
theorem eq_conclude_of_analyzed (done : auditor.audit hierarchy facts = .ok audit)
    (analyzed : audit.outcome = .analyzed) :
    audit = auditor.conclude facts (auditor.finalTable hierarchy facts) ∧
      facts.accesses.find? (·.isUnbounded) = none := by
  by_cases outside : facts.scope = .outside
  · rw [audit_of_outside outside] at done
    cases done
  · rw [audit_of_inside outside] at done
    obtain rfl := Except.ok.inj done
    unfold auditInside at analyzed ⊢
    split at analyzed
    · next concrete =>
      split at analyzed
      · cases analyzed
      · next some =>
        split at analyzed
        · cases analyzed
        · next bounded => exact ⟨by rw [if_pos concrete, if_neg some], bounded⟩
    · cases analyzed

theorem correlate_of_analyzed (done : auditor.audit hierarchy facts = .ok audit)
    (analyzed : audit.outcome = .analyzed) :
    ((PropertyTable.ofClass auditor.options auditor.extensions facts).correlate facts hierarchy).2 =
      auditor.finalTable hierarchy facts := by
  rw [PropertyTable.correlate_eq, (eq_conclude_of_analyzed done analyzed).2]
  rfl

theorem Shows.of_more {kind : AccessKind} {declaration : Declaration}
    (shown : auditor.Shows (.ofEntries entries) facts kind declaration)
    (moreTags : auditor.options.tags kind ⊆ other.options.tags kind)
    (moreExtensions : auditor.extensions ⊆ other.extensions)
    (moreAccesses : facts.accesses ⊆ accesses) :
    other.Shows (.ofEntries (entries ++ added)) (facts.withAccesses accesses) kind declaration := by
  rcases shown with ⟨comment, here, tag, listed, stands⟩ | ⟨extension, member, affirms⟩ |
    ⟨access, member, same, counts, candidate⟩
  · exact .inl ⟨comment, here, tag, moreTags listed, stands⟩
  · exact .inr (.inl ⟨extension, moreExtensions member, affirms⟩)
  · exact .inr (.inr ⟨access, moreAccesses member, same, counts.append, candidate⟩)

/-- Accesses put in anywhere, entries put behind the others, and further tags and extensions take no
flag from any record. So where both audits finish, with whatever oracle and options for uninitialized
properties, each verdict is one that its former one may become. -/
theorem audit_monotone (moreAccesses : facts.accesses ⊆ accesses)
    (moreReadTags : auditor.options.alwaysReadTags ⊆ other.options.alwaysReadTags)
    (moreWrittenTags : auditor.options.alwaysWrittenTags ⊆ other.options.alwaysWrittenTags)
    (moreExtensions : auditor.extensions ⊆ other.extensions)
    (before : auditor.audit (.ofEntries entries) facts = .ok audit)
    (after : other.audit (.ofEntries (entries ++ added)) (facts.withAccesses accesses) = .ok later)
    (analyzed : audit.outcome = .analyzed) (alsoAnalyzed : later.outcome = .analyzed) :
    List.Forall₂ (fun earlier later =>
        earlier.declaration = later.declaration ∧ earlier.usage.Keeps later.usage)
      ((PropertyTable.ofClass auditor.options auditor.extensions facts).correlate facts
        (.ofEntries entries)).2.records
      ((PropertyTable.ofClass other.options other.extensions (facts.withAccesses accesses)).correlate
        (facts.withAccesses accesses) (.ofEntries (entries ++ added))).2.records ∧
    List.Forall₂ (fun earlier later => earlier.1 = later.1 ∧ later.2 ∈ earlier.2.mayBecome)
      audit.verdicts later.verdicts := by
  have keeps (declaration : Declaration) :
      (auditor.totalUsage (.ofEntries entries) facts declaration).Keeps
        (other.totalUsage (.ofEntries (entries ++ added)) (facts.withAccesses accesses)
          declaration) := by
    apply Usage.keeps_of_shows
    intro kind shown
    have moreTags : auditor.options.tags kind ⊆ other.options.tags kind := by
      cases kind
      · exact moreReadTags
      · exact moreWrittenTags
    rw [shows_totalUsage] at shown ⊢
    exact shown.imp_left fun shown => shown.of_more moreTags moreExtensions moreAccesses
  constructor
  · rw [correlate_of_analyzed before analyzed, correlate_of_analyzed after alsoAnalyzed,
      records_finalTable, records_finalTable, List.forall₂_map_left_iff, List.forall₂_map_right_iff]
    exact List.forall₂_same.mpr fun declaration _ => ⟨rfl, keeps declaration⟩
  · rw [(eq_conclude_of_analyzed before analyzed).1, (eq_conclude_of_analyzed after alsoAnalyzed).1,
      verdicts_conclude, verdicts_conclude, List.forall₂_map_left_iff, List.forall₂_map_right_iff]
    exact List.forall₂_same.mpr fun declaration _ =>
      ⟨rfl, (keeps declaration).verdict_mem _ _ _⟩

/-- The entry for `Sub` makes an access count that was only perhaps to the class before, and the tag
marks what no access reaches. Which properties the oracle lists differs between the audits. -/
theorem audit_monotone_with_subclass :
    let read : Access := ⟨.read, .literal "a", .classReference (some "self"), some 3⟩
    let write : Access := ⟨.write, .literal "a", .expression (.object "Sub"), some 4⟩
    let facts : ClassFacts := {
      name := "Foo", displayName? := none, kind := .concrete, scope := .inClass "Foo", file := none
      properties := [⟨"a", .isPrivate, false, false, false, none, [], 1⟩,
        ⟨"b", .isPrivate, false, false, false, some "@api", [], 2⟩]
      accesses := [read, write], constructors := [], assignments := .empty }
    let auditor : Auditor := ⟨⟨[], [], true, []⟩, [], .always ["a"]⟩
    let other : Auditor := ⟨⟨["@api"], [], true, []⟩, [], .always ["b"]⟩
    ∃ audit later, auditor.audit (.ofEntries []) facts = .ok audit ∧
      other.audit (.ofEntries ([] ++ [⟨"Sub", ["Foo"]⟩])) (facts.withAccesses [write, read, write]) =
        .ok later ∧
      audit.verdicts = [("a", .presumedInitialized), ("b", .unused)] ∧
      later.verdicts = [("a", .ok), ("b", .presumedInitialized)] ∧
      List.Forall₂ (fun earlier later => earlier.1 = later.1 ∧ later.2 ∈ earlier.2.mayBecome)
        audit.verdicts later.verdicts := by
  intro read write facts auditor other
  have moreAccesses : facts.accesses ⊆ [write, read, write] := List.subset_cons_self _ _
  have kept := @audit_monotone auditor other [] [⟨"Sub", ["Foo"]⟩] facts [write, read, write] _ _
    moreAccesses (List.nil_subset _) (List.nil_subset _) (List.nil_subset _) rfl rfl rfl rfl
  exact ⟨_, _, rfl, rfl, rfl, rfl, kept.2⟩

end Auditor
end PropertyAudit
