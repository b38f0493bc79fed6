import PropertyAudit.ClassAudit
import PropertyAudit.Proofs.Initialization.Unassigned
import PropertyAudit.Proofs.Repetitions

/-! The constructors an oracle is asked about: those of the class as they are, then the additional ones that
are new. Whether one is new is asked of the list as it grows, which comes to asking whether it is among those
of the class or was met before. -/
namespace PropertyAudit.Auditor

structure AddsInOrder (own additional added : List String) : Prop where
  distinct : added.Nodup
  members : ∀ name, name ∈ added ↔ name ∈ additional ∧ name ∉ own
  ordered : added.Pairwise fun earlier later => additional.idxOf earlier < additional.idxOf later

theorem addNew_eq (known names : List String) :
    addNew known names = known ++ names.eraseDups.filter (· ∉ known) := by
  induction names generalizing known with
  | nil => simp [addNew]
  | cons name names ih =>
    rw [addNew, ih, List.eraseDups_cons, ← filter_eraseDups, List.filter_cons, List.filter_filter]
    by_cases met : name ∈ known
    · rw [if_pos (List.contains_iff_mem.mpr met), if_neg (by simpa using met)]
      congr 1
      apply List.filter_congr
      intro other _
      by_cases same : other = name <;> simp [same, met]
    · rw [if_neg (mt List.contains_iff_mem.mp met), if_pos (decide_eq_true met), List.append_assoc,
        List.singleton_append]
      congr 2
      apply List.filter_congr
      intro other _
      by_cases same : other = name <;> simp [same]

theorem addsInOrder_filter (own additional : List String) :
    AddsInOrder own additional (additional.eraseDups.filter (· ∉ own)) where
  distinct := (nodup_eraseDups additional).filter _
  members name := by rw [List.mem_filter, List.mem_eraseDups, decide_eq_true_eq]
  ordered := (pairwise_idxOf_eraseDups additional).filter _

theorem mem_addNew {known names : List String} {name : String} :
    name ∈ addNew known names ↔ name ∈ known ∨ name ∈ names := by
  rw [addNew_eq, List.mem_append, (addsInOrder_filter known names).members]
  by_cases met : name ∈ known <;> simp [met]

/-- Nothing is added where all is known. -/
theorem addNew_of_subset {known names : List String} (all : names ⊆ known) :
    addNew known names = known := by
  have none : names.eraseDups.filter (· ∉ known) = [] := by
    rw [List.filter_eq_nil_iff]
    intro name among
    simpa using all (List.mem_eraseDups.mp among)
  rw [addNew_eq, none, List.append_nil]

/-- Whenever an oracle is asked, it is handed the constructors of the class followed by the additional ones
that the class does not have, each once, in the order of first mention. These are all of both lists, to add
once more adds nothing, and the oracle that goes by recorded assignments cannot tell them from the two
lists put together. -/
theorem constructors_own_then_new (auditor : Auditor) (facts : ClassFacts) :
    let additional := auditor.options.additionalConstructors
    let constructors := auditor.constructors facts
    (∃ added, constructors = facts.constructors ++ added ∧
      AddsInOrder facts.constructors additional added) ∧
    (auditor.options.checkUninitialized → auditor.uninitialized facts =
      some (auditor.oracle facts constructors auditor.extensions)) ∧
    (∀ name, name ∈ constructors ↔ name ∈ facts.constructors ∨ name ∈ additional) ∧
    auditor.constructors { facts with constructors } = constructors ∧
    ∀ extensions, Oracle.definiteAssignment facts constructors extensions =
      Oracle.definiteAssignment facts (facts.constructors ++ additional) extensions := by
  intro additional constructors
  refine ⟨?_, fun checks => ?_, fun name => mem_addNew, ?_, fun extensions => ?_⟩
  · exact ⟨_, addNew_eq _ _, addsInOrder_filter facts.constructors additional⟩
  · rw [uninitialized, if_pos checks]
  · exact addNew_of_subset fun name among => mem_addNew.mpr (.inr among)
  · apply Oracle.definiteAssignment_of_sameMembers
    intro name
    rw [List.mem_append]
    exact mem_addNew

/-- The class lists a constructor twice, and of the additional ones two are repeated and one is its own. The
second of them assigns what its own leave open. -/
theorem constructors_own_then_new_of_repeated :
    let declared (name : String) : Declaration := ⟨name, .isPrivate, false, false, false, none, [], 1⟩
    let facts : ClassFacts := {
      name := "Foo", displayName? := none, kind := .concrete, scope := .inClass "Foo", file := none
      properties := [declared "a", declared "b", declared "c"], accesses := []
      constructors := ["boot", "__construct", "boot"]
      assignments := ⟨[("__construct", ["a"]), ("setUp", ["c"])], by decide⟩ }
    let auditor : Auditor := ⟨⟨[], [], true, ["setUp", "boot", "tearDown", "setUp", "tearDown"]⟩, [],
      .definiteAssignment⟩
    auditor.constructors facts = ["boot", "__construct", "boot", "setUp", "tearDown"] ∧
      AddsInOrder facts.constructors auditor.options.additionalConstructors ["setUp", "tearDown"] ∧
      auditor.uninitialized facts = some ["b"] ∧
      Oracle.definiteAssignment facts (facts.constructors ++ auditor.options.additionalConstructors) [] =
        ["b"] := by
  intro declared facts auditor
  obtain ⟨⟨added, here, ordered⟩, asked, -, -, alike⟩ := constructors_own_then_new auditor facts
  have all : auditor.constructors facts = ["boot", "__construct", "boot", "setUp", "tearDown"] := by
    decide
  have behind : facts.constructors ++ ["setUp", "tearDown"] = facts.constructors ++ added :=
    all.symm.trans here
  obtain rfl := List.append_cancel_left behind
  have given : Oracle.definiteAssignment facts (auditor.constructors facts) [] = ["b"] := by
    rw [all]
    rfl
  refine ⟨all, ordered, ?_, ?_⟩
  · have oracle : auditor.oracle = .definiteAssignment := rfl
    rw [asked rfl, oracle]
    exact congrArg some given
  · rw [← alike]
    exact given

end PropertyAudit.Auditor
