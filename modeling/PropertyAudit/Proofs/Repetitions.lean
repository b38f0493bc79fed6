import Mathlib.Data.List.Basic
import Mathlib.Data.List.Induction

/-! Lists without their repetitions. An item behind a list is kept just if it is new, and from this all
else follows by induction from the end. -/
namespace PropertyAudit

variable [BEq α] [LawfulBEq α] [BEq β] [LawfulBEq β]

theorem eraseDups_concat_of_mem {items : List α} {item : α} (known : item ∈ items) :
    (items ++ [item]).eraseDups = items.eraseDups := by
  rw [List.eraseDups_append, List.removeAll]
  simp [known]

theorem eraseDups_concat_of_not_mem {items : List α} {item : α} (fresh : item ∉ items) :
    (items ++ [item]).eraseDups = items.eraseDups ++ [item] := by
  rw [List.eraseDups_append, List.removeAll]
  simp [fresh, List.eraseDups_cons]

theorem nodup_eraseDups (items : List α) : items.eraseDups.Nodup := by
  induction items using List.reverseRecOn with
  | nil => exact List.nodup_nil
  | append_singleton items item ih =>
    by_cases known : item ∈ items
    · rwa [eraseDups_concat_of_mem known]
    · rw [eraseDups_concat_of_not_mem known]
      refine List.nodup_append.mpr ⟨ih, List.pairwise_singleton _ _, ?_⟩
      rintro other among _ here rfl
      exact known (List.mem_singleton.mp here ▸ List.mem_eraseDups.mp among)

/-- The first occurrences keep their order. -/
theorem pairwise_idxOf_eraseDups (items : List α) :
    items.eraseDups.Pairwise fun earlier later => items.idxOf earlier < items.idxOf later := by
  induction items using List.reverseRecOn with
  | nil => exact .nil
  | append_singleton items item ih =>
    have kept : items.eraseDups.Pairwise fun earlier later =>
        (items ++ [item]).idxOf earlier < (items ++ [item]).idxOf later := by
      refine ih.imp_of_mem fun {earlier later} first second before => ?_
      rwa [List.idxOf_append_of_mem (List.mem_eraseDups.mp first),
        List.idxOf_append_of_mem (List.mem_eraseDups.mp second)]
    by_cases known : item ∈ items
    · rwa [eraseDups_concat_of_mem known]
    · rw [eraseDups_concat_of_not_mem known]
      refine List.pairwise_append.mpr ⟨kept, List.pairwise_singleton _ _, fun earlier first later last => ?_⟩
      obtain rfl := List.mem_singleton.mp last
      have among := List.mem_eraseDups.mp first
      rw [List.idxOf_append_of_mem among, List.idxOf_append_of_notMem known]
      exact Nat.lt_add_right _ (List.idxOf_lt_length_of_mem among)

/-- What is dropped as a repetition is equal to what stays, so a filter may come before or after. -/
theorem filter_eraseDups (items : List α) (test : α → Bool) :
    items.eraseDups.filter test = (items.filter test).eraseDups := by
  induction items using List.reverseRecOn with
  | nil => rfl
  | append_singleton items item ih =>
    by_cases known : item ∈ items
    · rw [eraseDups_concat_of_mem known, ih, List.filter_append]
      by_cases passes : test item
      · have kept : item ∈ items.filter test := List.mem_filter.mpr ⟨known, passes⟩
        rw [List.filter_singleton, passes, cond_true, eraseDups_concat_of_mem kept]
      · simp [passes]
    · rw [eraseDups_concat_of_not_mem known, List.filter_append, List.filter_append, ih]
      by_cases passes : test item
      · have missing : item ∉ items.filter test := fun kept => known (List.mem_filter.mp kept).1
        rw [List.filter_singleton, passes, cond_true, eraseDups_concat_of_not_mem missing]
      · simp [passes]

theorem eraseDups_map_of_injective {give : α → β} (injective : give.Injective) (items : List α) :
    (items.map give).eraseDups = items.eraseDups.map give := by
  induction items using List.reverseRecOn with
  | nil => rfl
  | append_singleton items item ih =>
    rw [List.map_append, List.map_singleton]
    by_cases known : item ∈ items
    · rw [eraseDups_concat_of_mem known, eraseDups_concat_of_mem (List.mem_map_of_mem known), ih]
    · have missing : give item ∉ items.map give := fun met => known
        ((List.mem_map_of_injective injective).mp met)
      rw [eraseDups_concat_of_not_mem known, eraseDups_concat_of_not_mem missing, ih,
        List.map_append, List.map_singleton]

end PropertyAudit
