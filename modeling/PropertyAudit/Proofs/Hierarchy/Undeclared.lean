import PropertyAudit.Proofs.Hierarchy.Chains

/-! Classes without an entry of their own. They stand in a hierarchy only as parents of others, and nothing
is recorded of what they extend. Where later entries declare classes anew and none again, a chain they make
longer passes through such a class. -/
namespace PropertyAudit.Hierarchy

/-- The class has an entry of its own. -/
def IsDeclared (entries : List Entry) (name : String) : Prop := ∃ entry ∈ entries, entry.name = name

instance (entries : List Entry) (name : String) : Decidable (IsDeclared entries name) :=
  inferInstanceAs (Decidable (∃ entry ∈ entries, entry.name = name))

/-- The added entries are for classes that have none so far. -/
def DeclaresAnew (entries added : List Entry) : Prop :=
  ∀ name, IsDeclared entries name → ¬IsDeclared added name

/-- A chain of recorded parents leads from the class to one without an entry. It may be the class itself. -/
def LeadsToUndeclared (entries : List Entry) (child last : String) : Prop :=
  Chain entries child last ∧ ¬IsDeclared entries last

variable {entries added : List Entry} {child parent ancestor name : String}

theorem Records.isDeclared (recorded : Records entries child parent) : IsDeclared entries child := by
  obtain ⟨entry, member, same, _⟩ := recorded
  exact ⟨entry, member, same⟩

theorem contains_append (known : (ofEntries entries).contains name) :
    (ofEntries (entries ++ added)).contains name := by
  obtain ⟨entry, member, mentioned⟩ := contains_iff.mp known
  exact contains_iff.mpr ⟨entry, List.mem_append_left added member, mentioned⟩

/-- A chain is recorded already, or it goes on from a class that has had no entry: one that an added entry is
for has had none, so the chain passes through it right there. -/
theorem chain_append_iff (anew : DeclaresAnew entries added) :
    Chain (entries ++ added) child ancestor ↔
      Chain entries child ancestor ∨
        ∃ last, LeadsToUndeclared entries child last ∧ Chain (entries ++ added) last ancestor := by
  constructor
  · intro chain
    induction chain using Relation.ReflTransGen.head_induction_on with
    | refl => exact .inl .refl
    | @head child parent edge rest ih =>
      rcases records_append.mp edge with recorded | recorded
      · rcases ih with chain | ⟨last, ⟨chain, undeclared⟩, onward⟩
        · exact .inl (.head recorded chain)
        · exact .inr ⟨last, ⟨.head recorded chain, undeclared⟩, onward⟩
      · have undeclared : ¬IsDeclared entries child := fun declared =>
          anew child declared recorded.isDeclared
        exact .inr ⟨child, ⟨.refl, undeclared⟩, .head edge rest⟩
  · rintro (chain | ⟨last, ⟨chain, _⟩, onward⟩)
    · exact chain.append
    · exact Relation.ReflTransGen.trans chain.append onward

/-- The classes above a class are known, so those without an entry can be looked for. -/
theorem exists_leadsToUndeclared_iff :
    (∃ last, LeadsToUndeclared entries child last) ↔ ∃ last ∈ child :: (ofEntries entries).classes,
      (ofEntries entries).isSubclassOf child last ∧ ¬IsDeclared entries last := by
  simp only [LeadsToUndeclared, isSubclassOf_ofEntries]
  constructor
  · rintro ⟨last, chain, undeclared⟩
    refine ⟨last, ?_, chain, undeclared⟩
    rcases chain.cases_tail with rfl | ⟨_, _, entry, member, _, listed⟩
    · exact List.mem_cons_self
    · have known : (ofEntries entries).contains last :=
        contains_iff.mpr ⟨entry, member, List.mem_cons_of_mem _ listed⟩
      exact List.mem_cons_of_mem child (contains_eq_true_iff.mp known)
  · rintro ⟨last, _, leads⟩
    exact ⟨last, leads⟩

theorem declaresAnew_singleton (undeclared : ¬IsDeclared entries child) (parents : List String) :
    DeclaresAnew entries [⟨child, parents⟩] := by
  rintro name declared ⟨entry, member, rfl⟩
  obtain rfl := List.mem_singleton.mp member
  exact undeclared declared

end PropertyAudit.Hierarchy
