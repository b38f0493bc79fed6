import PropertyAudit.Initialization
import PropertyAudit.Proofs.Members

/-! Which names the oracle that goes by recorded assignments gives. A name is given as soon as one of its
declarations is left open by all constructors and extensions together, so whatever is added to either can
only take names away. -/
namespace PropertyAudit

namespace Extension

theorem initializedFrom_eq (name : String) (property : Declaration) (index : Nat)
    (extensions : List Extension) :
    (initializedFrom name property index extensions).1 =
      extensions.any (·.initialized name property) := by
  induction extensions generalizing index with
  | nil => rfl
  | cons extension extensions ih =>
    rw [initializedFrom, List.any_cons]
    split
    · next affirmed => rw [affirmed, Bool.true_or]
    · next denied => rw [Bool.eq_false_iff.mpr denied, Bool.false_or, ← ih (index + 1)]

end Extension

/-- The oracle asks the extensions whether any of them affirms, so their order is nothing to it. -/
theorem ClassFacts.uninitialized_eq (facts : ClassFacts) (constructors : List String)
    (extensions : List Extension) :
    (facts.uninitialized constructors extensions).1 =
      ((facts.unassignedBy constructors).filter fun declaration =>
        !extensions.any (·.initialized facts.name declaration)).map (·.name) := by
  simp only [uninitialized, Extension.isInitialized, List.filter_map, List.map_map,
    Function.comp_def, Extension.initializedFrom_eq]

theorem Assignments.mem_assignedBy {assignments : Assignments} {methods : List String} {name : String} :
    name ∈ assignments.assignedBy methods ↔
      ∃ method ∈ methods, ∃ properties, assignments.get? method = some properties ∧
        name ∈ properties := by
  rw [assignedBy, List.mem_flatMap]
  apply exists_congr
  intro method
  apply and_congr_right
  intro _
  cases assignments.get? method <;> simp

/-- Methods of which nothing is recorded assign nothing. -/
theorem Assignments.assignedBy_interspersed {assignments : Assignments} {methods more : List String}
    (interspersed : Interspersed (assignments.get? · = none) methods more) :
    assignments.assignedBy more = assignments.assignedBy methods := by
  apply interspersed.flatMap_eq
  intro method unrecorded
  rw [unrecorded, Option.getD_none]

/-- Nothing gives the property a value for sure: it belongs to each object, its declaration gives it none,
no constructor is recorded to assign it, and no extension reports it initialized. -/
structure ClassFacts.StaysOpen (facts : ClassFacts) (constructors : List String)
    (extensions : List Extension) (declaration : Declaration) : Prop where
  ofObjects : ¬declaration.isStatic
  withoutDefault : ¬declaration.hasDefault
  unpromoted : ¬declaration.isPromoted
  unassigned : ∀ method ∈ constructors, ∀ properties,
    facts.assignments.get? method = some properties → declaration.name ∉ properties
  denied : ∀ extension ∈ extensions, ¬extension.initialized facts.name declaration

variable {facts : ClassFacts} {constructors more : List String}
  {extensions moreExtensions : List Extension} {declaration : Declaration}

theorem ClassFacts.StaysOpen.of_more (opened : facts.StaysOpen more moreExtensions declaration)
    (moreConstructors : constructors ⊆ more) (extended : extensions ⊆ moreExtensions) :
    facts.StaysOpen constructors extensions declaration where
  ofObjects := opened.ofObjects
  withoutDefault := opened.withoutDefault
  unpromoted := opened.unpromoted
  unassigned method called := opened.unassigned method (moreConstructors called)
  denied extension asked := opened.denied extension (extended asked)

theorem ClassFacts.staysOpen_iff :
    facts.StaysOpen constructors extensions declaration ↔
      ¬declaration.isStatic ∧ ¬declaration.assigns ∧
        declaration.name ∉ facts.assignments.assignedBy constructors ∧
        ∀ extension ∈ extensions, ¬extension.initialized facts.name declaration := by
  rw [Declaration.assigns, Bool.or_eq_true, not_or, Assignments.mem_assignedBy]
  constructor
  · rintro ⟨ofObjects, withoutDefault, unpromoted, unassigned, denied⟩
    refine ⟨ofObjects, ⟨withoutDefault, unpromoted⟩, ?_, denied⟩
    rintro ⟨method, called, properties, recorded, assigned⟩
    exact unassigned method called properties recorded assigned
  · rintro ⟨ofObjects, ⟨withoutDefault, unpromoted⟩, unassigned, denied⟩
    refine ⟨ofObjects, withoutDefault, unpromoted, ?_, denied⟩
    intro method called properties recorded assigned
    exact unassigned ⟨method, called, properties, recorded, assigned⟩

namespace Oracle

theorem mem_definiteAssignment_iff {name : String} :
    name ∈ definiteAssignment facts constructors extensions ↔
      ∃ declaration ∈ facts.properties, declaration.name = name ∧
        facts.StaysOpen constructors extensions declaration := by
  rw [definiteAssignment, ClassFacts.uninitialized_eq, List.mem_map]
  simp only [ClassFacts.unassignedBy, ClassFacts.staysOpen_iff, List.mem_filter, Bool.and_eq_true,
    Bool.not_eq_true', List.contains_eq_mem, decide_eq_false_iff_not, List.any_eq_false,
    Bool.not_eq_true, and_assoc]
  constructor
  · rintro ⟨declaration, member, ofObjects, valueless, unassigned, denied, rfl⟩
    exact ⟨declaration, member, rfl, ofObjects, valueless, unassigned, denied⟩
  · rintro ⟨declaration, member, rfl, ofObjects, valueless, unassigned, denied⟩
    exact ⟨declaration, member, ofObjects, valueless, unassigned, denied, rfl⟩

theorem definiteAssignment_antitone (moreConstructors : constructors ⊆ more)
    (extended : extensions ⊆ moreExtensions) :
    definiteAssignment facts more moreExtensions ⊆ definiteAssignment facts constructors extensions := by
  intro name listed
  obtain ⟨declaration, member, same, opened⟩ := mem_definiteAssignment_iff.mp listed
  exact mem_definiteAssignment_iff.mpr
    ⟨declaration, member, same, opened.of_more moreConstructors extended⟩

/-- The names keep the order of the declarations, so constructors count as a set also for the list. -/
theorem definiteAssignment_of_sameMembers (same : SameMembers constructors more) :
    definiteAssignment facts constructors extensions = definiteAssignment facts more extensions := by
  have assigned (name : String) : (facts.assignments.assignedBy constructors).contains name =
      (facts.assignments.assignedBy more).contains name := by
    rw [Bool.eq_iff_iff, List.contains_iff_mem, List.contains_iff_mem, Assignments.mem_assignedBy,
      Assignments.mem_assignedBy]
    simp only [same _]
  simp only [definiteAssignment, ClassFacts.uninitialized_eq, ClassFacts.unassignedBy, assigned]

/-- The oracle gives a name exactly when some declaration of it, of any visibility, stays open. Constructors
and extensions count as sets, more of them can only take names away, and constructors of which nothing is
recorded change nothing. -/
theorem definiteAssignment_lists_exactly_open (facts : ClassFacts) :
    let given := definiteAssignment facts
    (∀ constructors extensions name,
      name ∈ given constructors extensions ↔
        ∃ declaration ∈ facts.properties, declaration.name = name ∧
          facts.StaysOpen constructors extensions declaration) ∧
    (∀ constructors others extensions otherExtensions,
      SameMembers constructors others → SameMembers extensions otherExtensions →
        SameMembers (given constructors extensions) (given others otherExtensions)) ∧
    (∀ constructors more extensions moreExtensions,
      constructors ⊆ more → extensions ⊆ moreExtensions →
        given more moreExtensions ⊆ given constructors extensions) ∧
    ∀ constructors more extensions,
      Interspersed (facts.assignments.get? · = none) constructors more →
        given more extensions = given constructors extensions := by
  intro given
  refine ⟨?_, ?_, ?_, ?_⟩
  · intro constructors extensions name
    exact mem_definiteAssignment_iff
  · intro constructors others extensions otherExtensions sameConstructors sameExtensions name
    constructor
    · apply definiteAssignment_antitone
      · exact fun method => (sameConstructors method).mpr
      · exact fun extension => (sameExtensions extension).mpr
    · apply definiteAssignment_antitone
      · exact fun method => (sameConstructors method).mp
      · exact fun extension => (sameExtensions extension).mp
  · intro constructors more extensions moreExtensions
    exact definiteAssignment_antitone
  · intro constructors more extensions interspersed
    simp only [given, definiteAssignment, ClassFacts.uninitialized_eq, ClassFacts.unassignedBy,
      Assignments.assignedBy_interspersed interspersed]

/-- Of the two constructors with an entry each assigns one property, and the third has none. The extension
speaks for `d`, the declaration of `e` for itself. What stays open is public. -/
theorem definiteAssignment_lists_exactly_open_of_two_constructors :
    let injector : Extension := ⟨fun _ _ => false, fun _ _ => false, fun _ property => property.name == "d"⟩
    let declared (name : String) (visibility : Visibility) (hasDefault : Bool) : Declaration :=
      ⟨name, visibility, false, hasDefault, false, none, [], 1⟩
    let facts : ClassFacts := {
      name := "Foo", displayName? := none, kind := .concrete, scope := .inClass "Foo", file := none
      properties := [declared "a" .isPrivate false, declared "b" .isPrivate false,
        declared "c" .isPublic false, declared "d" .isPrivate false, declared "e" .isPrivate true]
      accesses := [], constructors := ["__construct"]
      assignments := ⟨[("__construct", ["a"]), ("setUp", ["b"])], by decide⟩ }
    let given := definiteAssignment facts
    given ["__construct"] [injector] = ["b", "c"] ∧
      given ["__construct", "tearDown"] [injector] = given ["__construct"] [injector] ∧
      SameMembers (given ["setUp", "__construct", "setUp"] [injector, injector])
        (given ["__construct", "setUp"] [injector]) ∧
      given ["__construct", "setUp"] [injector] ⊆ given ["__construct"] [] ∧
      given ["__construct", "setUp"] [injector] = ["c"] := by
  intro injector declared facts given
  obtain ⟨-, asSets, antitone, unrecorded⟩ := definiteAssignment_lists_exactly_open facts
  have again : SameMembers ["setUp", "__construct", "setUp"] ["__construct", "setUp"] :=
    .of_repeated (List.mem_cons_of_mem _ List.mem_cons_self)
  refine ⟨rfl, ?_, ?_, ?_, rfl⟩
  · exact unrecorded _ _ _ (.keep (.add rfl .nil))
  · exact asSets _ _ _ _ again (.of_repeated List.mem_cons_self)
  · exact antitone _ _ _ _ (List.cons_subset_cons _ (List.nil_subset _)) (List.nil_subset _)

end Oracle
end PropertyAudit
