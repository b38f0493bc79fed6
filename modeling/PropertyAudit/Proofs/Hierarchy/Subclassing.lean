import Mathlib.Data.Set.Card
import PropertyAudit.Proofs.Hierarchy.Parents

/-! What a hierarchy answers about the entries it is made from. A class is below another just if a chain of
recorded parents leads there, on cycles as elsewhere, and the classes are the names that stand in entries.
So it does not matter how names and edges are spread over the entries. -/
namespace PropertyAudit.Hierarchy

/-- The second list arises from the first when entries change places, are repeated or dropped as
repetitions, and when the parents of one class are parted into two entries or taken together. -/
inductive Rearranged : List Entry → List Entry → Prop where
  | symm : Rearranged entries others → Rearranged others entries
  | trans : Rearranged entries middle → Rearranged middle others → Rearranged entries others
  | reorder : entries.Perm others → Rearranged entries others
  | again : entry ∈ entries → Rearranged entries (entry :: entries)
  | split : Rearranged (⟨name, parents ++ more⟩ :: entries)
      (⟨name, parents⟩ :: ⟨name, more⟩ :: entries)

structure Reflects (hierarchy : Hierarchy) (entries : List Entry) : Prop where
  subclass : ∀ child ancestor, hierarchy.isSubclassOf child ancestor ↔
    child = ancestor ∨ Relation.TransGen (Records entries) child ancestor
  /-- The search stops for want of names to follow; more steps would not change what it finds. -/
  ends : ∀ node fuel, hierarchy.edges.length < fuel →
    hierarchy.reachedWithin fuel [node] [] = hierarchy.reached node
  reflexive : ∀ name, hierarchy.isSubclassOf name name
  transitive : ∀ child middle ancestor, hierarchy.isSubclassOf child middle →
    hierarchy.isSubclassOf middle ancestor → hierarchy.isSubclassOf child ancestor
  contains : ∀ name, hierarchy.contains name ↔
    ∃ entry ∈ entries, name = entry.name ∨ name ∈ entry.parents
  size : hierarchy.size = {name | ∃ entry ∈ entries, name = entry.name ∨ name ∈ entry.parents}.ncard

variable {entries others : List Entry} {child parent name : String}

theorem records_cons {entry : Entry} :
    Records (entry :: entries) child parent ↔
      entry.name = child ∧ parent ∈ entry.parents ∨ Records entries child parent := by
  simp [Records]

theorem mentions_cons {entry : Entry} :
    Mentions (entry :: entries) name ↔ name ∈ entry.mentioned ∨ Mentions entries name := by
  simp [Mentions]

theorem Rearranged.records_iff (rearranged : Rearranged entries others) :
    Records entries child parent ↔ Records others child parent := by
  induction rearranged with
  | symm _ ih => exact ih.symm
  | trans _ _ first second => exact first.trans second
  | reorder perm => simp only [Records, perm.mem_iff]
  | again among =>
    rw [records_cons]
    refine (or_iff_right_of_imp fun own => ?_).symm
    exact ⟨_, among, own⟩
  | split => simp only [records_cons, List.mem_append, and_or_left, or_assoc]

theorem Rearranged.mentions_iff (rearranged : Rearranged entries others) :
    Mentions entries name ↔ Mentions others name := by
  induction rearranged with
  | symm _ ih => exact ih.symm
  | trans _ _ first second => exact first.trans second
  | reorder perm => simp only [Mentions, perm.mem_iff]
  | again among =>
    rw [mentions_cons]
    refine (or_iff_right_of_imp fun own => ?_).symm
    exact ⟨_, among, own⟩
  | split =>
    simp only [mentions_cons, Entry.mentioned, List.mem_cons, List.mem_append]
    tauto

/-- As for membership, pending nodes and open edges together fall with every step. -/
theorem reachedWithin_of_le {hierarchy : Hierarchy} {fuel more : Nat} {pending seen : List Nat}
    (enough : pending.length + hierarchy.openEdges seen ≤ fuel) (le : fuel ≤ more) :
    hierarchy.reachedWithin more pending seen = hierarchy.reachedWithin fuel pending seen := by
  induction fuel generalizing more pending seen with
  | zero =>
    have nothing : pending = [] := List.eq_nil_of_length_eq_zero (by omega)
    subst nothing
    cases more <;> rfl
  | succ fuel ih =>
    obtain ⟨more, rfl⟩ := Nat.exists_eq_add_of_le' (Nat.le_trans (Nat.le_add_left 1 fuel) le)
    cases pending with
    | nil => rfl
    | cons first pending =>
      simp only [List.length_cons] at enough
      simp only [reachedWithin, List.contains_iff_mem]
      split
      · exact ih (by omega) (by omega)
      · next fresh =>
        have spent := hierarchy.openEdges_follow fresh
        have fewer := hierarchy.length_unseen_le first (first :: seen)
        refine ih ?_ (by omega)
        rw [List.length_append]
        omega

theorem mem_classes_ofEntries : name ∈ (ofEntries entries).classes ↔ Mentions entries name := by
  rw [(represents_ofEntries entries).classes, List.mem_eraseDups, List.mem_flatMap, Mentions]

/-- Every class counts once, as a child or as a parent. -/
theorem size_ofEntries (entries : List Entry) :
    (ofEntries entries).size = {name | Mentions entries name}.ncard := by
  have distinct := (ofEntries entries).indexed.nodup
  have same : {name | Mentions entries name} = ((ofEntries entries).classes.toFinset : Set String) := by
    ext name
    rw [Set.mem_ofPred_eq, List.coe_toFinset, Set.mem_ofPred_eq, mem_classes_ofEntries]
  rw [same, Set.ncard_coe_finset, List.toFinset_card_of_nodup distinct, Hierarchy.size]

theorem size_congr (mentioned : ∀ name, Mentions entries name ↔ Mentions others name) :
    (ofEntries entries).size = (ofEntries others).size := by
  rw [size_ofEntries, size_ofEntries]
  exact congrArg Set.ncard (Set.ext mentioned)

theorem reflects_ofEntries (entries : List Entry) : (ofEntries entries).Reflects entries where
  subclass child ancestor := by
    rw [isSubclassOf_ofEntries, Chain, Relation.reflTransGen_iff_eq_or_transGen, eq_comm]
  ends node fuel enough := by
    refine reachedWithin_of_le ?_ enough
    rw [openEdges_nil, List.length_singleton]
    omega
  reflexive name := isSubclassOf_self _ name
  transitive child middle ancestor lower upper := by
    rw [isSubclassOf_ofEntries] at lower upper ⊢
    exact Relation.ReflTransGen.trans lower upper
  contains name := by
    rw [contains_iff]
    simp [Entry.mentioned]
  size := by
    rw [size_ofEntries]
    simp [Mentions, Entry.mentioned]

/-- Whatever the entries, being a subclass is having a chain of recorded parents, and the classes are the
names recorded. Entries that are rearranged give the same answers. -/
theorem isSubclassOf_is_reachability (entries : List Entry) :
    (ofEntries entries).Reflects entries ∧
    ∀ others, Rearranged entries others →
      (∀ child ancestor, (ofEntries others).isSubclassOf child ancestor =
        (ofEntries entries).isSubclassOf child ancestor) ∧
      (∀ name, (ofEntries others).contains name = (ofEntries entries).contains name) ∧
      (ofEntries others).size = (ofEntries entries).size := by
  refine ⟨reflects_ofEntries entries, fun others rearranged => ⟨?_, ?_, ?_⟩⟩
  · exact isSubclassOf_congr fun _ _ => rearranged.records_iff.symm
  · exact contains_congr fun _ => rearranged.mentions_iff.symm
  · exact size_congr fun _ => rearranged.mentions_iff.symm

/-- A cycle with a way out, a class that is its own parent, and one that is only named as a parent. -/
theorem isSubclassOf_is_reachability_on_cycle :
    let entries : List Entry := [⟨"A", ["B", "Top"]⟩, ⟨"B", ["A"]⟩, ⟨"Self", ["Self"]⟩]
    let others : List Entry := [⟨"B", ["A"]⟩, ⟨"A", ["B"]⟩, ⟨"A", ["Top"]⟩, ⟨"Self", ["Self"]⟩, ⟨"B", ["A"]⟩]
    Rearranged entries others ∧ Relation.TransGen (Records entries) "B" "Top" ∧
      (ofEntries others).isSubclassOf "B" "Top" = true ∧
      (ofEntries others).isSubclassOf "Top" "B" = false ∧ (ofEntries others).size = 4 := by
  intro entries others
  have rearranged : Rearranged entries others := by
    let rest : List Entry := [⟨"B", ["A"]⟩, ⟨"Self", ["Self"]⟩]
    let parted : List Entry := ⟨"A", ["B"]⟩ :: ⟨"A", ["Top"]⟩ :: rest
    have split : Rearranged (⟨"A", ["B"] ++ ["Top"]⟩ :: rest) parted := .split
    have again : Rearranged parted (⟨"B", ["A"]⟩ :: parted) := .again (by decide)
    exact split.trans (again.trans (.reorder (by decide)))
  have ⟨reflects, same⟩ := isSubclassOf_is_reachability entries
  have below : (ofEntries entries).isSubclassOf "B" "Top" = true := by decide
  obtain ⟨subclass, -, size⟩ := same others rearranged
  refine ⟨rearranged, ?_, ?_, ?_, ?_⟩
  · exact ((reflects.subclass "B" "Top").mp below).resolve_left (by decide)
  · rw [subclass, below]
  · rw [subclass]
    decide
  · rw [size]
    decide

end PropertyAudit.Hierarchy
