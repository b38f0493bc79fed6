import Mathlib.Data.List.Forall2
import PropertyAudit.Proofs.ClassAudit.Outcome
import PropertyAudit.Proofs.Hierarchy.Parents

/-! Accesses that name a class. The words for the class itself always reach it and the word for its parent
hardly ever does, since private properties are of one class only. -/
namespace PropertyAudit

namespace Text

def IsCapitalOf (capital small : Char) : Prop :=
  'A'.toNat ≤ capital.toNat ∧ capital.toNat ≤ 'Z'.toNat ∧ small.toNat = capital.toNat + 32

/-- The texts agree character by character, capital and small forms of letters from A to Z taken for the
same. -/
def IsCaseVariant (text word : String) : Prop :=
  List.Forall₂ (fun a b => a = b ∨ IsCapitalOf a b ∨ IsCapitalOf b a) text.toList word.toList

theorem toNat_toLower (c : Char) :
    c.toLower.toNat = if 65 ≤ c.toNat ∧ c.toNat ≤ 90 then c.toNat + 32 else c.toNat := by
  have bounds : (c.val ≥ 'A'.val ∧ c.val ≤ 'Z'.val) ↔ 65 ≤ c.toNat ∧ c.toNat ≤ 90 := by
    simp only [ge_iff_le, UInt32.le_iff_toNat_le]
    rfl
  unfold Char.toLower
  split
  · next capital =>
    have := bounds.mp capital
    rw [if_pos this]
    change (c.val + 32).toNat = c.val.toNat + 32
    rw [UInt32.toNat_add]
    have : c.val.toNat ≤ 90 := this.2
    simp
    omega
  · next other => rw [if_neg (mt bounds.mpr other)]

theorem toLower_eq_iff {a b : Char} :
    a.toLower = b.toLower ↔ a = b ∨ IsCapitalOf a b ∨ IsCapitalOf b a := by
  have capitalA : 'A'.toNat = 65 := rfl
  have capitalZ : 'Z'.toNat = 90 := rfl
  rw [← Char.toNat_inj, ← Char.toNat_inj, toNat_toLower, toNat_toLower, IsCapitalOf, IsCapitalOf, capitalA,
    capitalZ]
  split <;> split <;> omega

theorem equalsIgnoringCase_iff {text word : String} :
    equalsIgnoringCase text word ↔ IsCaseVariant text word := by
  rw [equalsIgnoringCase, beq_iff_eq, ← List.forall₂_eq_eq_eq, List.forall₂_map_left_iff,
    List.forall₂_map_right_iff, IsCaseVariant]
  simp only [toLower_eq_iff]

theorem IsCaseVariant.common {text word other : String} (first : IsCaseVariant text word)
    (second : IsCaseVariant text other) : equalsIgnoringCase word other := by
  rw [← equalsIgnoringCase_iff, equalsIgnoringCase, beq_iff_eq] at first second
  rw [equalsIgnoringCase, ← first, ← second, beq_self_eq_true]

end Text

namespace Owner

def IsWordForSelf (word : String) : Prop :=
  Text.IsCaseVariant word "self" ∨ Text.IsCaseVariant word "static"

def IsWordForParent (word : String) : Prop := Text.IsCaseVariant word "parent"

variable {hierarchy : Hierarchy} {name word : String}

theorem isWordForSelf_iff : IsWordForSelf word ↔
    (Text.equalsIgnoringCase word "self" || Text.equalsIgnoringCase word "static") := by
  rw [Bool.or_eq_true, Text.equalsIgnoringCase_iff, Text.equalsIgnoringCase_iff, IsWordForSelf]

theorem IsWordForParent.not_self (isWord : IsWordForParent word) : ¬IsWordForSelf word := by
  rintro (same | same)
  · exact absurd (same.common isWord) (by decide)
  · exact absurd (same.common isWord) (by decide)

theorem resolve_self (isWord : IsWordForSelf word) :
    (classReference (some word)).resolve hierarchy name = .ok (.object name) := by
  rw [resolve, if_pos (isWordForSelf_iff.mp isWord)]

theorem resolve_parent (isWord : IsWordForParent word) :
    (classReference (some word)).resolve hierarchy name =
      match (hierarchy.parentsOf name).head? with
      | some parent => .ok (.object parent)
      | none => .error .unresolvedReference := by
  rw [resolve_eq_head?]
  exact (if_neg (mt isWordForSelf_iff.mpr isWord.not_self)).trans
    (if_pos (Text.equalsIgnoringCase_iff.mpr isWord))

theorem resolve_name (notSelf : ¬IsWordForSelf word) (notParent : ¬IsWordForParent word) :
    (classReference (some word)).resolve hierarchy name = .ok (.object word) := by
  rw [resolve, if_neg (mt isWordForSelf_iff.mpr notSelf),
    if_neg (mt Text.equalsIgnoringCase_iff.mp notParent)]

end Owner

namespace Access

variable {hierarchy : Hierarchy} {entries : List Hierarchy.Entry} {name word : String} {access : Access}

/-- The access counts for the class under just that condition, and passes for one to a foreign class
otherwise. -/
def CountsIff (hierarchy : Hierarchy) (name : String) (access : Access) (condition : Prop) : Prop :=
  (condition → access.resolve hierarchy name = .applies access.evidence) ∧
    (¬condition → access.resolve hierarchy name = .skipped .foreignOwner)

/-- An access to a class counts if that class is the one looked at or below it. -/
theorem countsIff_of_object {candidate : String} (bounded : access.IsBounded)
    (resolved : access.owner.resolve (.ofEntries entries) name = .ok (.object candidate)) :
    access.CountsIff (.ofEntries entries) name (Hierarchy.Chain entries candidate name) := by
  have known : (ValueType.object candidate).withoutNull.isMixed = false := rfl
  have below : (ValueType.object candidate).withoutNull.isBelow (.ofEntries entries) name = .yes ↔
      Hierarchy.Chain entries candidate name := ValueType.isBelow_object
  rw [CountsIff, resolve_of_bounded bounded, resolved, ← below]
  exact ⟨fun yes => by simp [known, yes], fun no => by simp [known, no]⟩

theorem resolve_of_unresolved (bounded : access.IsBounded)
    (unresolved : access.owner.resolve hierarchy name = .error .unresolvedReference) :
    access.resolve hierarchy name = .skipped .unresolvedReference := by
  rw [resolve_of_bounded bounded, unresolved]

theorem CountsIff.not_counts {condition : Prop} (counts : access.CountsIff hierarchy name condition)
    (fails : ¬condition) : ¬access.Counts hierarchy name := by
  rintro ⟨found, applies⟩
  cases applies.symm.trans (counts.2 fails)

structure ReferenceResolves (entries : List Hierarchy.Entry) (name : String) (access : Access) :
    Prop where
  self : ∀ word, access.owner = .classReference (some word) → Owner.IsWordForSelf word →
    access.resolve (.ofEntries entries) name = .applies access.evidence
  orphan : ∀ word, access.owner = .classReference (some word) → Owner.IsWordForParent word →
    (∀ parent, ¬Hierarchy.Records entries name parent) →
      access.resolve (.ofEntries entries) name = .skipped .unresolvedReference
  /-- Of several parents the one listed first is meant. -/
  parent : ∀ word first, access.owner = .classReference (some word) → Owner.IsWordForParent word →
    (Hierarchy.listedParents entries name).head? = some first →
      access.CountsIff (.ofEntries entries) name (Hierarchy.Chain entries first name)
  acyclic : ∀ word, access.owner = .classReference (some word) → Owner.IsWordForParent word →
    ¬Relation.TransGen (Hierarchy.Records entries) name name →
      ¬access.Counts (.ofEntries entries) name
  named : ∀ word, access.owner = .classReference (some word) → ¬Owner.IsWordForSelf word →
    ¬Owner.IsWordForParent word →
      access.CountsIff (.ofEntries entries) name (Hierarchy.Chain entries word name)
  computed : access.owner = .classReference none →
    access.resolve (.ofEntries entries) name = .skipped .unresolvedReference

theorem referenceResolves (entries : List Hierarchy.Entry) (name : String) (bounded : access.IsBounded) :
    access.ReferenceResolves entries name := by
  have orphan (word : String) (owner : access.owner = .classReference (some word))
      (isWord : Owner.IsWordForParent word)
      (parentless : (Hierarchy.listedParents entries name).head? = none) :
      access.resolve (.ofEntries entries) name = .skipped .unresolvedReference := by
    apply resolve_of_unresolved bounded
    rw [owner, Owner.resolve_parent isWord, Hierarchy.head?_parentsOf_ofEntries, parentless]
  have parent (word first : String) (owner : access.owner = .classReference (some word))
      (isWord : Owner.IsWordForParent word)
      (listed : (Hierarchy.listedParents entries name).head? = some first) :
      access.CountsIff (.ofEntries entries) name (Hierarchy.Chain entries first name) := by
    apply countsIff_of_object bounded
    rw [owner, Owner.resolve_parent isWord, Hierarchy.head?_parentsOf_ofEntries, listed]
  refine ⟨fun word owner isWord => ?_, fun word owner isWord none => ?_, parent,
    fun word owner isWord acyclic => ?_, fun word owner notSelf notParent => ?_, fun owner => ?_⟩
  · refine (countsIff_of_object bounded ?_).1 Relation.ReflTransGen.refl
    rw [owner, Owner.resolve_self isWord]
  · refine orphan word owner isWord (List.head?_eq_none_iff.mpr ?_)
    rw [List.eq_nil_iff_forall_not_mem]
    exact fun other listed => none other (Hierarchy.mem_listedParents.mp listed)
  · cases listed : (Hierarchy.listedParents entries name).head? with
    | none =>
      rintro ⟨found, applies⟩
      cases applies.symm.trans (orphan word owner isWord listed)
    | some first =>
      have recorded := Hierarchy.mem_listedParents.mp (List.mem_of_mem_head? listed)
      exact (parent word first owner isWord listed).not_counts fun back =>
        acyclic (Relation.TransGen.head' recorded back)
  · apply countsIff_of_object bounded
    rw [owner, Owner.resolve_name notSelf notParent]
  · apply resolve_of_unresolved bounded
    rw [owner]
    rfl

end Access

def CorrelationOutcome.skippingAnother : CorrelationOutcome → CorrelationOutcome
  | .applied count skipped => .applied count (skipped + 1)
  | .abandoned line => .abandoned line

/-- An access that is skipped does nothing but be counted. -/
theorem PropertyTable.correlate_of_skipped {hierarchy : Hierarchy} {access : Access} {reason : SkipReason}
    (table : PropertyTable) (facts : ClassFacts) (before after : List Access)
    (skipped : access.resolve hierarchy facts.name = .skipped reason) :
    table.correlate (facts.withAccesses (before ++ access :: after)) hierarchy =
      (table.correlate (facts.withAccesses (before ++ after)) hierarchy).map
        CorrelationOutcome.skippingAnother id := by
  have bounded := Access.isUnbounded_eq_false_of_resolve skipped (by rintro ⟨⟩)
  have first : (before ++ access :: after).find? (·.isUnbounded) =
      (before ++ after).find? (·.isUnbounded) := by
    rw [List.find?_append, List.find?_append, List.find?_cons, bounded]
  simp only [correlate_eq, ClassFacts.withAccesses, first]
  cases (before ++ after).find? (·.isUnbounded) with
  | some access => rfl
  | none =>
    simp only [List.flatMap_append, List.flatMap_cons, List.countP_append, List.countP_cons, skipped,
      Resolution.contributions, Resolution.isSkipped, List.nil_append]
    rfl

/-- A bounded access through the word for the class itself always counts, through the word for the parent just
if the first parent listed leads back to the class, and through any other name just if that is the class or
one below it. References that come to no class are skipped, and everything else is as if they were not
there. -/
theorem class_references_resolve (entries : List Hierarchy.Entry) (name : String) :
    (∀ access : Access, access.IsBounded → access.ReferenceResolves entries name) ∧
    ∀ (table : PropertyTable) (facts : ClassFacts) (access : Access) (before after : List Access),
      access.resolve (.ofEntries entries) facts.name = .skipped .unresolvedReference →
        table.correlate (facts.withAccesses (before ++ access :: after)) (.ofEntries entries) =
          (table.correlate (facts.withAccesses (before ++ after)) (.ofEntries entries)).map
            CorrelationOutcome.skippingAnother id := by
  refine ⟨fun access bounded => Access.referenceResolves entries name bounded, ?_⟩
  intro table facts access before after skipped
  exact table.correlate_of_skipped facts before after skipped

/-- `Foo` extends `Base` first and, in a second entry, itself; `Sub` extends `Foo`, and `Ring` and `Link` each
other. Of the accesses to `Foo` the one through its parent is foreign, while `Ring` is reached through its
parent. `Lone` has none, so the access through it is skipped, between two others that count. -/
theorem class_references_resolve_in_mixed_case :
    let entries : List Hierarchy.Entry := [⟨"Foo", ["Base"]⟩, ⟨"Sub", ["Foo"]⟩, ⟨"Foo", ["Foo"]⟩,
      ⟨"Ring", ["Link"]⟩, ⟨"Link", ["Ring"]⟩]
    let through (word : String) : Access := ⟨.read, .literal "a", .classReference (some word), none⟩
    let lone : ClassFacts := {
      name := "Lone", displayName? := none, kind := .concrete, scope := .inClass "Lone", file := none
      properties := [⟨"a", .isPrivate, false, false, false, none, [], 1⟩], accesses := []
      constructors := [], assignments := .empty }
    let table : PropertyTable := .ofClass .default [] lone
    (through "SELF").resolve (.ofEntries entries) "Lone" = .applies [⟨"a", ⟨true, false⟩⟩] ∧
      (through "Parent").resolve (.ofEntries entries) "Foo" = .skipped .foreignOwner ∧
      (through "pareNT").resolve (.ofEntries entries) "Ring" = .applies [⟨"a", ⟨true, false⟩⟩] ∧
      ¬(through "parent").Counts (.ofEntries entries) "Sub" ∧
      (through "Sub").resolve (.ofEntries entries) "Foo" = .applies [⟨"a", ⟨true, false⟩⟩] ∧
      (table.correlate (lone.withAccesses [through "Static", through "PARENT", through "Lone"])
        (.ofEntries entries)).1 = .applied 2 1 := by
  intro entries through lone table
  have resolves (name word : String) : (through word).ReferenceResolves entries name :=
    (class_references_resolve entries name).1 _ (by rintro ⟨⟩)
  have isParent (word : String) (same : Text.equalsIgnoringCase word "parent") :
      Owner.IsWordForParent word := Text.equalsIgnoringCase_iff.mp same
  have ringAbove : Hierarchy.Chain entries "Link" "Ring" :=
    Hierarchy.isSubclassOf_ofEntries.mp (by decide)
  have fooAbove : Hierarchy.Chain entries "Sub" "Foo" := Hierarchy.isSubclassOf_ofEntries.mp (by decide)
  have baseBelow : ¬Hierarchy.Chain entries "Base" "Foo" :=
    mt Hierarchy.isSubclassOf_ofEntries.mpr (by decide)
  have acyclic : ¬Relation.TransGen (Hierarchy.Records entries) "Sub" "Sub" := by
    intro cycle
    obtain ⟨parent, recorded, back⟩ := Relation.TransGen.head'_iff.mp cycle
    obtain rfl : parent = "Foo" := List.mem_singleton.mp (Hierarchy.mem_listedParents.mpr recorded)
    exact absurd (Hierarchy.isSubclassOf_ofEntries.mpr back) (by decide)
  have orphan : (through "PARENT").resolve (.ofEntries entries) "Lone" = .skipped .unresolvedReference := by
    refine (resolves "Lone" "PARENT").orphan _ rfl (isParent _ (by decide)) fun parent recorded => ?_
    have listed := Hierarchy.mem_listedParents.mpr recorded
    cases listed
  refine ⟨?_, ?_, ?_, ?_, ?_, ?_⟩
  · exact (resolves "Lone" "SELF").self _ rfl (.inl (Text.equalsIgnoringCase_iff.mp (by decide)))
  · exact ((resolves "Foo" "Parent").parent _ "Base" rfl (isParent _ (by decide)) rfl).2 baseBelow
  · exact ((resolves "Ring" "pareNT").parent _ "Link" rfl (isParent _ (by decide)) rfl).1 ringAbove
  · exact (resolves "Sub" "parent").acyclic _ rfl (isParent _ (by decide)) acyclic
  · exact ((resolves "Foo" "Sub").named _ rfl (mt Owner.isWordForSelf_iff.mp (by decide))
      (mt Text.equalsIgnoringCase_iff.mpr (by decide))).1 fooAbove
  · have apart := (class_references_resolve entries "Lone").2 table lone _ [through "Static"]
      [through "Lone"] orphan
    rw [List.singleton_append] at apart
    rw [apart]
    decide

end PropertyAudit
