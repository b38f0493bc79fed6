import PropertyAudit.Proofs.FactFile.Revisions

/-! Revised trees of tagged values. All that is read of one is what stands under its tag and under the name
that its case has for its field. -/
namespace PropertyAudit

open Json
open Json.Decoder (value)

variable {α γ : Type} {shape inner : Shape} {depth : Nat} {name : String} {json : Json}
  {members others before after : List (Content × Source)} {content : Content} {source other : Source}

/-! ### Readability -/

theorem isSome_made_object :
    (made (value (depth + 1)) (.object members)).isSome ↔ ∀ member ∈ members, (entry depth member).isSome := by
  rw [← exists_mapM_eq_some_iff, Option.isSome_iff_exists]
  simp only [made_object_eq_some_iff]
  exact ⟨fun ⟨_, entries, made, _⟩ => ⟨entries, made⟩, fun ⟨entries, made⟩ => ⟨_, entries, made, rfl⟩⟩

theorem isSome_made_array {items : List Source} :
    (made (value (depth + 1)) (.array items)).isSome ↔
      ∀ item ∈ items, (made (value depth) item).isSome := by
  rw [← exists_mapM_eq_some_iff, Option.isSome_iff_exists]
  simp only [made_array_eq_some_iff]
  exact ⟨fun ⟨_, values, made, _⟩ => ⟨values, made⟩, fun ⟨values, made⟩ => ⟨_, values, made, rfl⟩⟩

theorem isSome_entry :
    (entry depth (content, source)).isSome ↔
      content.string?.isSome ∧ (made (value depth) source).isSome := by
  cases named : content.string? with
  | none => simp [entry, named]
  | some name => simp [entry, named]

theorem isSome_made_small {token : Token} (isSmall : token.IsSmall) :
    (made (value depth) (.scalar token)).isSome := by
  obtain ⟨found, taken⟩ := Option.isSome_iff_exists.mp (Token.isSome_found? isSmall)
  have flat := found_token taken
  rw [made_value_scalar, taken, Option.bind_some]
  cases found with
  | array => exact flat.elim
  | object => exact flat.elim
  | _ => rfl

theorem Revision.isSome_entry (revision : Revision shape members others)
    (readable : ∀ member ∈ members, (entry depth member).isSome) :
    ∀ member ∈ others, (entry depth member).isSome := by
  cases revision with
  | vary variation =>
    cases variation with
    | reorder perm => exact fun member among => readable member (perm.mem_iff.mpr among)
    | insert named _ isSmall =>
      refine List.forall_mem_cons.mpr ⟨?_, readable⟩
      exact PropertyAudit.isSome_entry.mpr ⟨by simp [named], isSome_made_small isSmall⟩
  | varyBack variation =>
    cases variation with
    | reorder perm => exact fun member among => readable member (perm.mem_iff.mp among)
    | insert named _ isSmall => exact (List.forall_mem_cons.mp readable).2
  | leaveOut omission =>
    cases omission with
    | leaveOut =>
      rw [List.forall_mem_append, List.forall_mem_cons] at readable
      exact List.forall_mem_append.mpr ⟨readable.1, readable.2.2⟩

/-- A tree that can be read still can be when it is revised. -/
theorem isSome_made_revised (within : Within Revision shape source other)
    (readable : (made (value depth) source).isSome) : (made (value depth) other).isSome := by
  induction within generalizing depth with
  | here revision =>
    cases depth with
    | zero => rw [made_value_object] at readable; cases readable
    | succ depth => exact isSome_made_object.mpr (revision.isSome_entry (isSome_made_object.mp readable))
  | item _ _ position _ ih =>
    cases depth with
    | zero => rw [made_value_array] at readable; cases readable
    | succ depth =>
      rw [isSome_made_array, List.forall_mem_append, List.forall_mem_cons] at readable ⊢
      exact ⟨readable.1, ih readable.2.1, readable.2.2⟩
  | member _ _ position _ ih =>
    cases depth with
    | zero => rw [made_value_object] at readable; cases readable
    | succ depth =>
      rw [isSome_made_object, List.forall_mem_append, List.forall_mem_cons] at readable ⊢
      obtain ⟨named, there⟩ := isSome_entry.mp readable.2.1
      exact ⟨readable.1, isSome_entry.mpr ⟨named, ih there⟩, readable.2.2⟩

/-! ### Members by name -/

theorem Named.perm (perm : members.Perm others) :
    Named depth members name json ↔ Named depth others name json := by
  simp only [Named, perm.mem_iff]

theorem named_of_ne (before after : List (Content × Source)) (different : content.string? ≠ some name) :
    Named depth (before ++ (content, source) :: after) name json ↔ Named depth (before ++ after) name json := by
  have notHere : entry depth (content, source) ≠ some (name, json) := fun here =>
    different (entry_eq_some_iff.mp here).1
  simp [Named, or_and_right, exists_or, notHere]

theorem not_named (named : content.string? = some name)
    (distinct : ((before ++ (content, source) :: after).filterMap (·.1.string?)).Nodup) :
    ¬Named depth (before ++ after) name json := by
  rintro ⟨member, among, read⟩
  have again : name ∈ (before ++ after).filterMap (·.1.string?) :=
    List.mem_filterMap.mpr ⟨member, among, (entry_eq_some_iff.mp read).1⟩
  have first : (before ++ (content, source) :: after).Perm ((content, source) :: (before ++ after)) :=
    List.perm_middle
  have distinct := (first.filterMap (·.1.string?)).nodup_iff.mp distinct
  simp only [List.filterMap_cons, named] at distinct
  exact (List.nodup_cons.mp distinct).1 again

/-- What stands under a name that is not repeated. -/
theorem named_iff (named : content.string? = some name)
    (distinct : ((before ++ (content, source) :: after).filterMap (·.1.string?)).Nodup) :
    Named depth (before ++ (content, source) :: after) name json ↔ made (value depth) source = some json := by
  constructor
  · rintro ⟨member, among, read⟩
    rcases List.mem_append.mp among with early | late
    · exact absurd ⟨member, List.mem_append_left _ early, read⟩ (not_named named distinct)
    · rcases List.mem_cons.mp late with rfl | late
      · exact (entry_eq_some_iff.mp read).2
      · exact absurd ⟨member, List.mem_append_right _ late, read⟩ (not_named named distinct)
  · exact fun read => ⟨_, List.mem_append_cons_self, entry_eq_some_iff.mpr ⟨named, read⟩⟩

theorem Payload.given_congr {payload : Payload α} {found : α} {named again : String → Json → Prop}
    (same : ∀ name, payload.name? = some name → ∀ json, named name json ↔ again name json) :
    payload.Given named found ↔ payload.Given again found := by
  cases payload with
  | nothing value => exact Iff.rfl
  | single expected name item default? => simp only [Payload.Given, same name rfl]

/-! ### Tagged values -/

/-- Whether this is how tagged values of the shape are read. -/
structure Tagging (shape : Shape) (tag : String) (caseOf : Json → Option γ) (payload : γ → Payload α) :
    Prop where
  noArray (items : List Json) : caseOf (.array items) = none
  noObject (entries : List (String × Json)) : caseOf (.object entries) = none
  noTag (case : γ) : (payload case).name? ≠ some tag
  fields_noTag : ∀ field ∈ shape.fields, field.name ≠ tag
  cases : ∃ cases, shape.form = .tagged tag cases ∧ ∀ json case name, caseOf json = some case →
    (payload case).name? = some name → ∃ field, Buffered.caseName cases json = .ok (some field) ∧
      field.name = name
  /-- A field that has its default comes to what is made without it. -/
  idle {case : γ} {field : Shape.Field} {standard : Shape.Default} {expected : String}
    {item : Json → Except Cause α} {default? : Option α} {source : Source} {depth : Nat} {json : Json}
    {found : α} : field ∈ shape.fields → field.default? = some standard → standard.Is source →
    payload case = .single expected field.name item default? → made (value depth) source = some json →
    item json = .ok found → default? = some found

/-- A further member under another name than those that are looked at makes no difference. -/
theorem Payload.given_middle {payload : Payload α} {found : α} (before after : List (Content × Source))
    (named : content.string? = some name) (notField : payload.name? ≠ some name) :
    payload.Given (Named depth (before ++ (content, source) :: after)) found ↔
      payload.Given (Named depth (before ++ after)) found := by
  refine Payload.given_congr fun field holds json => named_of_ne before after fun same => notField ?_
  rw [holds, ← same, named]

/-- Whether what is read for a field follows a revision of it. -/
def FollowsFields (shape : Shape) (payload : γ → Payload α) (depth : Nat) : Prop :=
  ∀ case expected name item default?, payload case = .single expected name item default? →
    ∀ inner, (inner = .plain ∨ ∃ field ∈ shape.fields, inner = field.shape) →
      Follows (fun source => (made (value depth) source).bind fun json => (item json).toOption) inner

/-- What was made of the field's value is made of its revision. -/
theorem FollowsFields.exists_revised {payload : γ → Payload α} {case : γ} {expected name : String}
    {item : Json → Except Cause α} {default? : Option α} {found : α}
    (follows : FollowsFields shape payload depth) (chosen : payload case = .single expected name item default?)
    (inside : inner = .plain ∨ ∃ field ∈ shape.fields, inner = field.shape)
    (within : Within Revision inner source other) (distinct : source.Distinct) (distinctOther : other.Distinct)
    (read : made (value depth) source = some json) (reads : item json = .ok found) :
    ∃ json, made (value depth) other = some json ∧ item json = .ok found := by
  have here : ((made (value depth) source).bind fun json => (item json).toOption) = some found :=
    Option.bind_eq_some_iff.mpr ⟨json, read, toOption_eq_some_iff.mpr reads⟩
  have there := follows case expected name item default? chosen inner inside source other found within
    distinct distinctOther here
  obtain ⟨json, read, reads⟩ := Option.bind_eq_some_iff.mp there
  exact ⟨json, read, toOption_eq_some_iff.mp reads⟩

namespace Tagging

variable {tag : String} {caseOf : Json → Option γ} {payload : γ → Payload α} {case : γ} {found : α}
variable (tagging : Tagging shape tag caseOf payload)
include tagging

/-- What names a case is a scalar. -/
theorem exists_token (read : made (value depth) source = some json) (named : caseOf json = some case) :
    ∃ token, source = .scalar token ∧ token.found?.bind scalarOf = some json := by
  cases source with
  | scalar token => exact ⟨token, rfl, made_value_scalar token ▸ read⟩
  | array items =>
    rw [made_value_array] at read
    obtain ⟨_, _, onward⟩ := descend_eq_some_iff.mp read
    obtain ⟨values, _, rfl⟩ := Option.map_eq_some_iff.mp onward
    cases (tagging.noArray values).symm.trans named
  | object members =>
    rw [made_value_object] at read
    obtain ⟨_, _, onward⟩ := descend_eq_some_iff.mp read
    obtain ⟨entries, _, rfl⟩ := Option.map_eq_some_iff.mp onward
    cases (tagging.noObject entries).symm.trans named

/-- A name that is ignored is not that of the field. -/
theorem ne_of_ignores (ignored : shape.Ignores members name) (tagged : Named depth members tag json)
    (named : caseOf json = some case) : (payload case).name? ≠ some name := by
  intro holds
  obtain ⟨cases, form, chosen⟩ := tagging.cases
  rw [Shape.Ignores, form] at ignored
  obtain ⟨member, among, read⟩ := tagged
  obtain ⟨isTag, read⟩ := entry_eq_some_iff.mp read
  obtain ⟨token, same, taken⟩ := tagging.exists_token read named
  obtain ⟨field, listed, fieldNamed⟩ := chosen json case name named holds
  refine ignored.2 member among isTag field ?_ fieldNamed
  rw [Shape.chosen?, same, Source.found?, ← Option.bind_assoc, taken, Option.bind_some, listed]
  rfl

theorem tag_ne_of_ignores (ignored : shape.Ignores members name) : name ≠ tag := by
  obtain ⟨cases, form, -⟩ := tagging.cases
  rw [Shape.Ignores, form] at ignored
  exact ignored.1

/-- Without a field that has its default the same is made. -/
theorem given_omitted {field : Shape.Field} {standard : Shape.Default} (among : field ∈ shape.fields)
    (defaults : field.default? = some standard) (contentNamed : content.string? = some field.name)
    (isDefault : standard.Is source)
    (distinct : ((before ++ (content, source) :: after).filterMap (·.1.string?)).Nodup)
    (readable : (made (value depth) source).isSome)
    (given : (payload case).Given (Named depth (before ++ (content, source) :: after)) found) :
    (payload case).Given (Named depth (before ++ after)) found := by
  by_cases holds : (payload case).name? = some field.name
  · cases chosen : payload case with
    | nothing value =>
      rw [chosen] at holds
      cases holds
    | single expected name item default? =>
      rw [chosen] at holds given
      obtain rfl : name = field.name := Option.some.inj holds
      obtain ⟨json, read⟩ := Option.isSome_iff_exists.mp readable
      refine .inr ⟨fun ⟨json, left⟩ => not_named contentNamed distinct left, ?_⟩
      rcases given with ⟨json, here, reads⟩ | ⟨absent, standard⟩
      · have read := (named_iff contentNamed distinct).mp here
        exact tagging.idle among defaults isDefault chosen read reads
      · exact absurd ⟨json, (named_iff contentNamed distinct).mpr read⟩ absent
  · exact (Payload.given_middle before after contentNamed holds).mp given

theorem given_revised (revision : Revision shape members others)
    (distinct : (members.filterMap (·.1.string?)).Nodup)
    (readable : ∀ member ∈ members, (entry depth member).isSome)
    (tagged : Named depth members tag json) (named : caseOf json = some case)
    (given : (payload case).Given (Named depth members) found) :
    Named depth others tag json ∧ (payload case).Given (Named depth others) found := by
  have ofPerm {members others : List (Content × Source)} (perm : members.Perm others)
      (tagged : Named depth members tag json) (given : (payload case).Given (Named depth members) found) :
      Named depth others tag json ∧ (payload case).Given (Named depth others) found :=
    ⟨(Named.perm perm).mp tagged, (Payload.given_congr fun _ _ _ => Named.perm perm).mp given⟩
  have notTag {content : Content} {name : String} (contentNamed : content.string? = some name)
      (other : name ≠ tag) : content.string? ≠ some tag := by
    rw [contentNamed]
    exact fun same => other (Option.some.inj same)
  cases revision with
  | vary variation =>
    cases variation with
    | reorder perm => exact ofPerm perm tagged given
    | insert contentNamed ignored _ =>
      have apart := notTag contentNamed (tagging.tag_ne_of_ignores ignored)
      have notField := tagging.ne_of_ignores ignored tagged named
      exact ⟨(named_of_ne [] members apart).mpr tagged,
        (Payload.given_middle [] members contentNamed notField).mpr given⟩
  | varyBack variation =>
    cases variation with
    | reorder perm => exact ofPerm perm.symm tagged given
    | insert contentNamed ignored _ =>
      have apart := notTag contentNamed (tagging.tag_ne_of_ignores ignored)
      have kept := (named_of_ne [] others apart).mp tagged
      have notField := tagging.ne_of_ignores ignored kept named
      exact ⟨kept, (Payload.given_middle [] others contentNamed notField).mp given⟩
  | leaveOut omission =>
    obtain ⟨before, after, among, defaults, contentNamed, isDefault⟩ := omission
    rename_i field standard content source
    have apart := notTag contentNamed (tagging.fields_noTag field among)
    have here := (isSome_entry.mp (readable (content, source) List.mem_append_cons_self)).2
    exact ⟨(named_of_ne before after apart).mp tagged,
      tagging.given_omitted among defaults contentNamed isDefault distinct here given⟩

theorem given_replaced (follows : FollowsFields shape payload depth) (position : shape.Member content inner)
    (within : Within Revision inner source other)
    (distinct : (Source.object (before ++ (content, source) :: after)).Distinct)
    (distinctOthers : (Source.object (before ++ (content, other) :: after)).Distinct)
    (readable : ∀ member ∈ before ++ (content, source) :: after, (entry depth member).isSome)
    (tagged : Named depth (before ++ (content, source) :: after) tag json) (named : caseOf json = some case)
    (given : (payload case).Given (Named depth (before ++ (content, source) :: after)) found) :
    Named depth (before ++ (content, other) :: after) tag json ∧
      (payload case).Given (Named depth (before ++ (content, other) :: after)) found := by
  have names := (Source.distinct_object.mp distinct).1
  have namesOthers := (Source.distinct_object.mp distinctOthers).1
  obtain ⟨isNamed, here⟩ := isSome_entry.mp (readable (content, source) List.mem_append_cons_self)
  obtain ⟨name, contentNamed⟩ := Option.isSome_iff_exists.mp isNamed
  have notTag : content.string? ≠ some tag := by
    intro isTag
    obtain ⟨token, rfl, -⟩ := tagging.exists_token ((named_iff isTag names).mp tagged) named
    cases within
  refine ⟨(named_of_ne before after notTag).mpr ((named_of_ne before after notTag).mp tagged), ?_⟩
  by_cases holds : (payload case).name? = some name
  · cases chosen : payload case with
    | nothing value =>
      rw [chosen] at holds
      cases holds
    | single expected field item default? =>
      rw [chosen] at holds given
      obtain rfl : field = name := Option.some.inj holds
      have inside : inner = .plain ∨ ∃ field ∈ shape.fields, inner = field.shape :=
        position.imp_right fun ⟨field, among, _, same⟩ => ⟨field, among, same⟩
      rcases given with ⟨json, under, reads⟩ | ⟨absent, -⟩
      · have read := (named_iff contentNamed names).mp under
        obtain ⟨json, read, reads⟩ := follows.exists_revised chosen inside within (distinct_member distinct)
          (distinct_member distinctOthers) read reads
        exact .inl ⟨json, (named_iff contentNamed namesOthers).mpr read, reads⟩
      · obtain ⟨json, read⟩ := Option.isSome_iff_exists.mp here
        exact absurd ⟨json, (named_iff contentNamed names).mpr read⟩ absent
  · exact (Payload.given_middle before after contentNamed holds).mpr
      ((Payload.given_middle before after contentNamed holds).mp given)

theorem inItems_replaced {before after : List Source} {item other : Source} {first : Json} {values : List Json}
    (follows : FollowsFields shape payload depth) (position : shape.Item before.length inner)
    (within : Within Revision inner item other) (distinct : item.Distinct) (distinctOthers : other.Distinct)
    (all : (before ++ item :: after).mapM (made (value depth)) = some (first :: values))
    (named : caseOf first = some case) (inItems : (payload case).InItems values found) :
    ∃ values, (before ++ other :: after).mapM (made (value depth)) = some (first :: values) ∧
      (payload case).InItems values found := by
  have same := mapM_eq_some_iff.mp all
  cases before with
  | nil =>
    obtain ⟨read, -⟩ := List.cons.inj same
    obtain ⟨token, rfl, -⟩ := tagging.exists_token read named
    cases within
  | cons head before =>
    cases chosen : payload case with
    | nothing value =>
      rw [chosen] at inItems
      obtain ⟨rfl, -⟩ := inItems
      simp at same
    | single expected name item default? =>
      rw [chosen] at inItems
      obtain ⟨json, rfl, reads⟩ := inItems
      cases before with
      | nil =>
        simp only [List.cons_append, List.nil_append, List.map_cons, List.map_nil, List.cons.injEq,
          List.map_eq_nil_iff] at same
        obtain ⟨isFirst, read, rfl⟩ := same
        have inside : inner = .plain ∨ ∃ field ∈ shape.fields, inner = field.shape := by
          obtain ⟨cases, form, -⟩ := tagging.cases
          rw [Shape.Item, form] at position
          exact position.imp_right And.right
        obtain ⟨value, read, reads⟩ := follows.exists_revised chosen inside within distinct distinctOthers
          read reads
        refine ⟨[value], mapM_eq_some_iff.mpr ?_, value, rfl, reads⟩
        simp [isFirst, read]
      | cons head before => simp at same

/-- A revised tagged value is read as it was. -/
theorem follows (fields : ∀ lower, depth = lower + 1 → FollowsFields shape payload lower) :
    Follows (fun source => (made (value depth) source).bind (readTagged tag caseOf payload)) shape := by
  intro source other found within distinct distinctOthers read
  cases depth with
  | zero =>
    obtain ⟨json, here, -⟩ := Option.bind_eq_some_iff.mp read
    cases within with
    | here => rw [made_value_object] at here; cases here
    | item => rw [made_value_array] at here; cases here
    | member => rw [made_value_object] at here; cases here
  | succ depth =>
    have fields := fields depth rfl
    cases within with
    | here revision =>
      have names := (Source.distinct_object.mp distinct).1
      have namesOthers := (Source.distinct_object.mp distinctOthers).1
      obtain ⟨readable, json, case, tagged, named, given⟩ :=
        (readTagged_made_object names tagging.noTag).mp read
      obtain ⟨tagged, given⟩ := tagging.given_revised revision names readable tagged named given
      exact (readTagged_made_object namesOthers tagging.noTag).mpr
        ⟨revision.isSome_entry readable, json, case, tagged, named, given⟩
    | item _ _ position within =>
      obtain ⟨first, others, case, all, named, inItems⟩ := readTagged_made_array.mp read
      obtain ⟨values, all, inItems⟩ := tagging.inItems_replaced fields position within (distinct_item distinct)
        (distinct_item distinctOthers) all named inItems
      exact readTagged_made_array.mpr ⟨first, values, case, all, named, inItems⟩
    | member _ _ position within =>
      have names := (Source.distinct_object.mp distinct).1
      have namesOthers := (Source.distinct_object.mp distinctOthers).1
      obtain ⟨readable, json, case, tagged, named, given⟩ :=
        (readTagged_made_object names tagging.noTag).mp read
      obtain ⟨tagged, given⟩ := tagging.given_replaced fields position within distinct distinctOthers readable
        tagged named given
      refine (readTagged_made_object namesOthers tagging.noTag).mpr
        ⟨?_, json, case, tagged, named, given⟩
      rw [List.forall_mem_append, List.forall_mem_cons] at readable ⊢
      obtain ⟨isNamed, here⟩ := isSome_entry.mp readable.2.1
      exact ⟨readable.1, isSome_entry.mpr ⟨isNamed, isSome_made_revised within here⟩, readable.2.2⟩

end Tagging

end PropertyAudit
