import Mathlib.Data.List.Sort
import PropertyAudit.Assignments

/-! The order in which methods are entered with the properties they assign. It does not matter, unless a method
is entered again. -/
namespace PropertyAudit.Assignments

variable {method other : String} {properties more : List String} {entry : String × List String}
  {entries : List (String × List String)} {assignments : Assignments}

theorem mem_insertEntry_iff (ascending : entries.Pairwise (·.1 < ·.1)) :
    entry ∈ insertEntry method properties entries ↔
      entry = (method, properties) ∨ entry ∈ entries ∧ entry.1 ≠ method := by
  induction entries with
  | nil => simp [insertEntry]
  | cons head tail ih =>
    obtain ⟨headFirst, tailAscending⟩ := List.pairwise_cons.1 ascending
    have keptAll {kept : List (String × List String)} (later : ∀ other ∈ kept, method < other.1) :
        entry ∈ kept ↔ entry ∈ kept ∧ entry.1 ≠ method :=
      ⟨fun among => ⟨among, (String.ne_of_lt (later entry among)).symm⟩, And.left⟩
    unfold insertEntry
    split
    · next before =>
      have later : ∀ other ∈ head :: tail, method < other.1 := List.forall_mem_cons.mpr
        ⟨before, fun other among => String.lt_trans before (headFirst other among)⟩
      rw [List.mem_cons]
      exact or_congr_right (keptAll later)
    · split
      · next same =>
        subst same
        have dropped : entry = head ∧ entry.1 ≠ head.1 ↔ False :=
          ⟨fun both => both.2 (congrArg Prod.fst both.1), False.elim⟩
        rw [List.mem_cons, List.mem_cons, or_and_right, dropped, false_or]
        exact or_congr_right (keptAll headFirst)
      · next different =>
        have kept : entry = head ↔ entry = head ∧ entry.1 ≠ method :=
          ⟨fun isHead => ⟨isHead, isHead ▸ Ne.symm different⟩, And.left⟩
        rw [List.mem_cons, ih tailAscending, List.mem_cons, or_and_right, ← kept, or_left_comm]

theorem mem_insert_iff : entry ∈ (assignments.insert method properties).entries ↔
    entry = (method, properties) ∨ entry ∈ assignments.entries ∧ entry.1 ≠ method :=
  mem_insertEntry_iff assignments.ascending

theorem ext_of_mem {one another : Assignments}
    (same : ∀ entry, entry ∈ one.entries ↔ entry ∈ another.entries) : one = another := by
  have irreflexive : Std.Irrefl fun left right : String × List String => left.1 < right.1 :=
    ⟨fun entry => String.lt_irrefl entry.1⟩
  have antisymmetric : Std.Antisymm fun left right : String × List String => left.1 < right.1 :=
    ⟨fun _ _ before after => absurd after (String.lt_asymm before)⟩
  have entries := one.ascending.eq_of_mem_iff another.ascending same
  cases one
  cases another
  cases entries
  rfl

theorem insert_comm (different : method ≠ other) :
    (assignments.insert method properties).insert other more =
      (assignments.insert other more).insert method properties := by
  refine ext_of_mem fun entry => ?_
  simp only [mem_insert_iff]
  constructor
  · rintro (rfl | ⟨rfl | ⟨among, notMethod⟩, notOther⟩)
    · exact .inr ⟨.inl rfl, different.symm⟩
    · exact .inl rfl
    · exact .inr ⟨.inr ⟨among, notOther⟩, notMethod⟩
  · rintro (rfl | ⟨rfl | ⟨among, notOther⟩, notMethod⟩)
    · exact .inr ⟨.inl rfl, different⟩
    · exact .inl rfl
    · exact .inr ⟨.inr ⟨among, notMethod⟩, notOther⟩

theorem insert_insert :
    (assignments.insert method more).insert method properties = assignments.insert method properties := by
  refine ext_of_mem fun entry => ?_
  simp only [mem_insert_iff]
  constructor
  · rintro (rfl | ⟨rfl | ⟨among, _⟩, different⟩)
    · exact .inl rfl
    · exact absurd rfl different
    · exact .inr ⟨among, different⟩
  · rintro (rfl | ⟨among, different⟩)
    · exact .inl rfl
    · exact .inr ⟨.inr ⟨among, different⟩, different⟩

theorem ofList_append_singleton :
    ofList (entries ++ [(method, properties)]) = (ofList entries).insert method properties := by
  rw [ofList, List.foldl_append]
  rfl

/-- What was entered before for the method makes no difference when it is entered again. -/
theorem ofList_filter_insert (taken : List (String × List String)) :
    (ofList (taken.filter (·.1 != method)).reverse).insert method properties =
      (ofList taken.reverse).insert method properties := by
  induction taken with
  | nil => rfl
  | cons entry taken ih =>
    obtain ⟨other, more⟩ := entry
    rw [List.reverse_cons, ofList_append_singleton]
    by_cases same : other = method
    · rw [List.filter_cons_of_neg (by simp [same]), ih, same, insert_insert]
    · rw [List.filter_cons_of_pos (by simp [same]), List.reverse_cons, ofList_append_singleton,
        insert_comm same, insert_comm same, ih]

end PropertyAudit.Assignments
