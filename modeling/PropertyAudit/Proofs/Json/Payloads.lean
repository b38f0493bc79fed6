import PropertyAudit.Json.Buffered
import PropertyAudit.Proofs.Json.ReadValues
import PropertyAudit.Proofs.Results

/-! Tagged values whose cases have one field at most, read from values that were read as a whole. As long as
no name is given twice, all that counts of an object is what is given under which name. -/
namespace PropertyAudit.Json

variable {α β γ : Type} {tag name : String} {entries : List (String × Json)} {value : α}

def entryNames (entries : List (String × Json)) : List String := entries.map (·.1)

theorem mem_entryNames {entry : String × Json} (member : entry ∈ entries) : entry.1 ∈ entryNames entries :=
  List.mem_map_of_mem member

theorem exists_mem_of_mem_entryNames (member : name ∈ entryNames entries) : ∃ json, (name, json) ∈ entries := by
  obtain ⟨⟨_, json⟩, among, rfl⟩ := List.mem_map.mp member
  exact ⟨json, among⟩

/-- An entry whose name is not repeated stands alone for its name. -/
theorem exists_split {json : Json} (distinct : (entryNames entries).Nodup) (member : (name, json) ∈ entries) :
    ∃ before after, entries = before ++ (name, json) :: after ∧ name ∉ entryNames before ∧
      name ∉ entryNames after := by
  obtain ⟨before, after, rfl⟩ := List.append_of_mem member
  refine ⟨before, after, rfl, ?_⟩
  simp only [entryNames, List.map_append, List.map_cons] at distinct ⊢
  obtain ⟨apart, later⟩ := (List.nodup_append.mp distinct).2
  exact ⟨fun early => later _ early _ List.mem_cons_self rfl, (List.nodup_cons.mp apart).1⟩

theorem mem_split_iff {json other : Json} {before after : List (String × Json)} (early : name ∉ entryNames before)
    (late : name ∉ entryNames after) : (name, other) ∈ before ++ (name, json) :: after ↔ other = json := by
  have notBefore : (name, other) ∉ before := fun member => early (mem_entryNames member)
  have notAfter : (name, other) ∉ after := fun member => late (mem_entryNames member)
  simp [notBefore, notAfter]

/-! ### Cases -/

theorem sortEntries_absent (caseOf : Json → Option γ) (case? : Option γ) (absent : tag ∉ entryNames entries) :
    sortEntries tag caseOf case? entries = case?.map (·, entries) := by
  induction entries with
  | nil => rfl
  | cons entry entries ih =>
    obtain ⟨other, others⟩ := not_or.mp (mt List.mem_cons.mpr absent)
    rw [sortEntries, if_neg (Ne.symm other), ih others]
    cases case? <;> rfl

theorem sortEntries_present (caseOf : Json → Option γ) {before after : List (String × Json)} (json : Json)
    (early : tag ∉ entryNames before) (late : tag ∉ entryNames after) :
    sortEntries tag caseOf none (before ++ (tag, json) :: after) =
      (caseOf json).map (·, before ++ after) := by
  induction before with
  | nil =>
    rw [List.nil_append, sortEntries, if_pos rfl, if_neg (by simp)]
    cases caseOf json with
    | none => rfl
    | some case => exact sortEntries_absent caseOf (some case) late
  | cons entry before ih =>
    obtain ⟨other, others⟩ := not_or.mp (mt List.mem_cons.mpr early)
    rw [List.cons_append, sortEntries, if_neg (Ne.symm other), ih others]
    cases caseOf json <;> rfl

/-- The case is found wherever it stands, and what is left are all other entries. -/
theorem sortEntries_eq_some_iff {caseOf : Json → Option γ} {case : γ} {rest : List (String × Json)}
    (distinct : (entryNames entries).Nodup) :
    sortEntries tag caseOf none entries = some (case, rest) ↔
      ∃ before json after, entries = before ++ (tag, json) :: after ∧ caseOf json = some case ∧
        rest = before ++ after := by
  constructor
  · intro found
    by_cases given : tag ∈ entryNames entries
    · obtain ⟨json, member⟩ := exists_mem_of_mem_entryNames given
      obtain ⟨before, after, rfl, early, late⟩ := exists_split distinct member
      rw [sortEntries_present caseOf json early late] at found
      obtain ⟨_, named, same⟩ := Option.map_eq_some_iff.mp found
      cases same
      exact ⟨before, json, after, rfl, named, rfl⟩
    · rw [sortEntries_absent caseOf none given] at found
      cases found
  · rintro ⟨before, json, after, rfl, named, rfl⟩
    have member : (tag, json) ∈ before ++ (tag, json) :: after := List.mem_append_cons_self
    simp only [entryNames, List.map_append, List.map_cons] at distinct
    obtain ⟨apart, later⟩ := (List.nodup_append.mp distinct).2
    rw [sortEntries_present caseOf json (fun early => later _ early _ List.mem_cons_self rfl)
      (List.nodup_cons.mp apart).1, named]
    rfl

theorem taggedMembers_toOption (cases : List (String × γ)) (case? : Option γ) :
    (Buffered.taggedMembers tag cases case? entries).toOption =
      sortEntries tag (fun json => (Buffered.caseName cases json).toOption) case? entries := by
  induction entries generalizing case? with
  | nil => cases case? <;> rfl
  | cons entry entries ih =>
    obtain ⟨name, json⟩ := entry
    rw [sortEntries]
    by_cases isTag : name = tag
    · rw [if_pos isTag]
      cases case? with
      | some case => simp [Buffered.taggedMembers, isTag, Except.toOption]
      | none =>
        simp only [Buffered.taggedMembers, isTag, if_true, Option.isSome_none, Bool.false_eq_true, if_false]
        cases Buffered.caseName cases json with
        | error cause => rfl
        | ok case => exact ih (some case)
    · rw [if_neg isTag, ← ih]
      cases case? with
      | none =>
        simp only [Buffered.taggedMembers, isTag, if_false]
        cases Buffered.taggedMembers tag cases none entries <;> rfl
      | some case =>
        simp only [Buffered.taggedMembers, isTag, if_false]
        cases Buffered.taggedMembers tag cases (some case) entries <;> rfl

theorem tagged_toOption {expected : String} (cases : List (String × γ)) (json : Json) :
    (Buffered.tagged expected tag cases json).toOption =
      sorted tag (fun json => (Buffered.caseName cases json).toOption) json := by
  cases json with
  | array items =>
    cases items with
    | nil => rfl
    | cons first others =>
      rw [Buffered.tagged, sorted]
      cases Buffered.caseName cases first <;> rfl
  | object entries =>
    rw [Buffered.tagged, sorted, ← taggedMembers_toOption]
    cases Buffered.taggedMembers tag cases none entries <;> rfl
  | _ => rfl

/-! ### Fields -/

inductive Payload (α : Type) where
  | nothing (value : α)
  | single (expected name : String) (item : Json → Except Cause α) (default? : Option α)

namespace Payload

def read : Payload α → Json → Except Cause α
  | nothing value, rest => (fun _ => value) <$> Buffered.nothing rest
  | single expected name item default?, rest => Buffered.single expected name item default? rest

def name? : Payload α → Option String
  | nothing _ => none
  | single _ name _ _ => some name

def InItems (items : List Json) (value : α) : Payload α → Prop
  | nothing found => items = [] ∧ found = value
  | single _ _ item _ => ∃ json, items = [json] ∧ item json = .ok value

/-- Whether the value is what the payload comes to when these values are given under these names. -/
def Given (named : String → Json → Prop) (value : α) : Payload α → Prop
  | nothing found => found = value
  | single _ name item default? =>
    (∃ json, named name json ∧ item json = .ok value) ∨
      (¬∃ json, named name json) ∧ default? = some value

end Payload

theorem singleMember_absent (item : Json → Except Cause α) (taken : Option α)
    (absent : name ∉ entryNames entries) : Buffered.singleMember name item taken entries = .ok taken := by
  induction entries with
  | nil => cases taken <;> rfl
  | cons entry entries ih =>
    obtain ⟨other, others⟩ := not_or.mp (mt List.mem_cons.mpr absent)
    obtain ⟨first, json⟩ := entry
    unfold Buffered.singleMember
    exact (if_neg (Ne.symm other)).trans (ih others)

theorem singleMember_present (item : Json → Except Cause α) {before after : List (String × Json)}
    (json : Json) (early : name ∉ entryNames before) (late : name ∉ entryNames after) :
    Buffered.singleMember name item none (before ++ (name, json) :: after) = some <$> item json := by
  induction before with
  | nil =>
    rw [List.nil_append, Buffered.singleMember, if_pos rfl]
    cases item json with
    | error cause => rfl
    | ok value => exact singleMember_absent item (some value) late
  | cons entry before ih =>
    obtain ⟨other, others⟩ := not_or.mp (mt List.mem_cons.mpr early)
    rw [List.cons_append, Buffered.singleMember, if_neg (Ne.symm other), ih others]

theorem singleMember_map (convert : α → β) (item : Json → Except Cause α) (taken : Option α) :
    Buffered.singleMember name (fun json => convert <$> item json) (taken.map convert) entries =
      Option.map convert <$> Buffered.singleMember name item taken entries := by
  induction entries generalizing taken with
  | nil => cases taken <;> rfl
  | cons entry entries ih =>
    obtain ⟨other, json⟩ := entry
    unfold Buffered.singleMember
    split
    · cases taken with
      | some value => rfl
      | none =>
        cases item json with
        | error cause => rfl
        | ok value => exact ih (some value)
    · exact ih taken

/-- What is made of a field's value may be made where it is read. -/
theorem Payload.map_single {expected : String} (convert : α → β) (item : Json → Except Cause α)
    (default? : Option α) (json : Json) :
    convert <$> Buffered.single expected name item default? json =
      (Payload.single expected name (fun json => convert <$> item json) (default?.map convert)).read json := by
  cases json with
  | array items =>
    cases items with
    | nil => rfl
    | cons first others =>
      simp only [read, Buffered.single]
      cases item first with
      | error cause => rfl
      | ok value => cases others <;> rfl
  | object entries =>
    have members : Buffered.singleMember name (fun json => convert <$> item json) none entries =
        Option.map convert <$> Buffered.singleMember name item none entries :=
      singleMember_map convert item none
    simp only [read, Buffered.single, members]
    cases Buffered.singleMember name item none entries with
    | error cause => rfl
    | ok found =>
      cases found with
      | some value => rfl
      | none => cases default? <;> rfl
  | _ => rfl

theorem Payload.read_array (payload : Payload α) (items : List Json) :
    payload.read (.array items) = .ok value ↔ payload.InItems items value := by
  cases payload with
  | nothing found =>
    rw [read, map_eq_ok_iff]
    cases items <;> simp [InItems, Buffered.nothing]
  | single expected name item default? =>
    cases items with
    | nil => simp [read, InItems, Buffered.single]
    | cons first others =>
      simp only [read, InItems, Buffered.single, bind_eq_ok_iff]
      cases others <;> simp

theorem Payload.read_object (payload : Payload α) (distinct : (entryNames entries).Nodup) :
    payload.read (.object entries) = .ok value ↔
      payload.Given (fun name json => (name, json) ∈ entries) value := by
  cases payload with
  | nothing found =>
    rw [read, map_eq_ok_iff]
    simp [Given, Buffered.nothing]
  | single expected name item default? =>
    simp only [read, Given, Buffered.single, bind_eq_ok_iff]
    by_cases given : name ∈ entryNames entries
    · obtain ⟨json, member⟩ := exists_mem_of_mem_entryNames given
      obtain ⟨before, after, rfl, early, late⟩ := exists_split distinct member
      simp only [singleMember_present item json early late, mem_split_iff early late, map_eq_ok_iff,
        exists_eq_left, exists_eq, not_true_eq_false, false_and, or_false]
      cases item json <;> simp
    · have none (json : Json) : (name, json) ∉ entries := fun member => given (mem_entryNames member)
      simp only [singleMember_absent item Option.none given, none, false_and, exists_false,
        not_false_eq_true, true_and, false_or]
      cases default? <;> simp [Decoder.required]

/-! ### Tagged values -/

def readTagged (tag : String) (caseOf : Json → Option γ) (payload : γ → Payload α) (json : Json) :
    Option α :=
  (sorted tag caseOf json).bind fun found => ((payload found.1).read found.2).toOption

variable {caseOf : Json → Option γ} {payload : γ → Payload α}

theorem readTagged_array {items : List Json} :
    readTagged tag caseOf payload (.array items) = some value ↔
      ∃ first others case, items = first :: others ∧ caseOf first = some case ∧
        (payload case).InItems others value := by
  cases items with
  | nil => simp [readTagged, sorted]
  | cons first others =>
    rw [readTagged, sorted]
    cases chosen : caseOf first with
    | none => simp [chosen]
    | some case =>
      rw [Option.map_some, Option.bind_some, toOption_eq_some_iff, Payload.read_array]
      constructor
      · exact fun inItems => ⟨first, others, case, rfl, chosen, inItems⟩
      · rintro ⟨_, _, found, same, named, inItems⟩
        cases same
        cases chosen.symm.trans named
        exact inItems

/-- An object stands for the value of the case that is given under the tag. -/
theorem readTagged_object (distinct : (entryNames entries).Nodup)
    (noTag : ∀ case, (payload case).name? ≠ some tag) :
    readTagged tag caseOf payload (.object entries) = some value ↔
      ∃ json case, (tag, json) ∈ entries ∧ caseOf json = some case ∧
        (payload case).Given (fun name json => (name, json) ∈ entries) value := by
  have sameGiven {before after : List (String × Json)} (json : Json) (case : γ) :
      (payload case).Given (fun name json => (name, json) ∈ before ++ after) value ↔
        (payload case).Given (fun name other => (name, other) ∈ before ++ (tag, json) :: after) value := by
    have other := noTag case
    revert other
    cases payload case with
    | nothing found => exact fun _ => Iff.rfl
    | single expected name item default? =>
      intro other
      have different : name ≠ tag := fun same => other (congrArg some same)
      simp [Payload.Given, different]
  have split (before after : List (String × Json)) (json : Json) (case : γ)
      (whole : entries = before ++ (tag, json) :: after) :
      (payload case).read (.object (before ++ after)) = .ok value ↔
        (payload case).Given (fun name json => (name, json) ∈ entries) value := by
    subst whole
    have rest : (entryNames (before ++ after)).Nodup := by
      refine List.Nodup.sublist ?_ distinct
      simp [entryNames]
    rw [Payload.read_object _ rest, sameGiven json case]
  constructor
  · intro found
    obtain ⟨_, sorts, read⟩ := Option.bind_eq_some_iff.mp found
    obtain ⟨⟨case, rest⟩, entriesSort, rfl⟩ := Option.map_eq_some_iff.mp sorts
    obtain ⟨before, json, after, whole, named, rfl⟩ := (sortEntries_eq_some_iff distinct).mp entriesSort
    refine ⟨json, case, whole ▸ List.mem_append_cons_self, named, ?_⟩
    exact (split before after json case whole).mp (toOption_eq_some_iff.mp read)
  · rintro ⟨json, case, member, named, given⟩
    obtain ⟨before, after, whole⟩ := List.append_of_mem member
    have sorts := (sortEntries_eq_some_iff distinct).mpr ⟨before, json, after, whole, named, rfl⟩
    rw [readTagged, sorted, sorts]
    exact toOption_eq_some_iff.mpr ((split before after json case whole).mpr given)

/-! ### Trees of tagged values -/

variable {depth : Nat} {members : List (Content × Source)}

def Named (depth : Nat) (members : List (Content × Source)) (name : String) (json : Json) : Prop :=
  ∃ member ∈ members, entry depth member = some (name, json)

theorem entry_eq_some_iff {member : Content × Source} {json : Json} :
    entry depth member = some (name, json) ↔
      member.1.string? = some name ∧ made (Decoder.value depth) member.2 = some json := by
  simp [entry, Option.bind_eq_some_iff]

theorem entryNames_of_mapM (made : members.mapM (entry depth) = some entries) :
    entryNames entries = members.filterMap (·.1.string?) := by
  induction members generalizing entries with
  | nil =>
    cases made
    rfl
  | cons member members ih =>
    rw [List.mapM_cons] at made
    obtain ⟨⟨name, json⟩, here, onward⟩ := Option.bind_eq_some_iff.mp made
    obtain ⟨others, there, same⟩ := Option.bind_eq_some_iff.mp onward
    cases same
    have named : member.1.string? = some name := (entry_eq_some_iff.mp here).1
    simp only [List.filterMap_cons, named, ← ih there]
    rfl

theorem made_object_eq_some_iff {json : Json} :
    made (Decoder.value (depth + 1)) (.object members) = some json ↔
      ∃ entries, members.mapM (entry depth) = some entries ∧ json = .object entries := by
  rw [made_value_object, descend, Option.map_eq_some_iff]
  simp only [eq_comm]

theorem made_array_eq_some_iff {items : List Source} {json : Json} :
    made (Decoder.value (depth + 1)) (.array items) = some json ↔
      ∃ values, items.mapM (made (Decoder.value depth)) = some values ∧ json = .array values := by
  rw [made_value_array, descend, Option.map_eq_some_iff]
  simp only [eq_comm]

/-- An object is made a tagged value if all its members can be read and the one under the tag names a case
that can do with what is given. -/
theorem readTagged_made_object (distinct : (members.filterMap (·.1.string?)).Nodup)
    (noTag : ∀ case, (payload case).name? ≠ some tag) :
    (made (Decoder.value (depth + 1)) (.object members)).bind (readTagged tag caseOf payload) = some value ↔
      (∀ member ∈ members, (entry depth member).isSome) ∧
        ∃ json case, Named depth members tag json ∧ caseOf json = some case ∧
          (payload case).Given (Named depth members) value := by
  have alike {entries : List (String × Json)} (made : members.mapM (entry depth) = some entries) :
      readTagged tag caseOf payload (.object entries) = some value ↔
        ∃ json case, Named depth members tag json ∧ caseOf json = some case ∧
          (payload case).Given (Named depth members) value := by
    have member (name : String) (json : Json) : (name, json) ∈ entries ↔ Named depth members name json :=
      mem_of_mapM_eq_some made
    rw [readTagged_object (entryNames_of_mapM made ▸ distinct) noTag]
    simp only [member]
  rw [← exists_mapM_eq_some_iff, Option.bind_eq_some_iff]
  simp only [made_object_eq_some_iff]
  constructor
  · rintro ⟨_, ⟨entries, made, rfl⟩, read⟩
    exact ⟨⟨entries, made⟩, (alike made).mp read⟩
  · rintro ⟨⟨entries, made⟩, given⟩
    exact ⟨_, ⟨entries, made, rfl⟩, (alike made).mpr given⟩

theorem readTagged_made_array {items : List Source} :
    (made (Decoder.value (depth + 1)) (.array items)).bind (readTagged tag caseOf payload) = some value ↔
      ∃ first others case, items.mapM (made (Decoder.value depth)) = some (first :: others) ∧
        caseOf first = some case ∧ (payload case).InItems others value := by
  rw [Option.bind_eq_some_iff]
  simp only [made_array_eq_some_iff]
  constructor
  · rintro ⟨_, ⟨values, made, rfl⟩, read⟩
    obtain ⟨first, others, case, rfl, named, inItems⟩ := readTagged_array.mp read
    exact ⟨first, others, case, made, named, inItems⟩
  · rintro ⟨first, others, case, made, named, inItems⟩
    exact ⟨_, ⟨_, made, rfl⟩, readTagged_array.mpr ⟨first, others, case, rfl, named, inItems⟩⟩

end PropertyAudit.Json
