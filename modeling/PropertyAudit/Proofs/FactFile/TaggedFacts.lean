import PropertyAudit.Proofs.FactFile.TaggedRevisions
import PropertyAudit.Proofs.Json.Layout

/-! The tagged values of fact files: types, property names, owners and scopes. Each is read from a value that
was read as a whole, and follows its revisions. -/
namespace PropertyAudit

open Json
open Json.Decoder (value)

variable {α γ : Type} {depth : Nat} {source : Source} {json rest : Json} {entries : List (String × Json)}

/-! ### Types of any depth -/

theorem subset_of_sortEntries {tag : String} {caseOf : Json → Option γ} {case? : Option γ}
    {sorted : γ × List (String × Json)} (sorts : sortEntries tag caseOf case? entries = some sorted) :
    sorted.2 ⊆ entries := by
  induction entries generalizing case? sorted with
  | nil =>
    obtain ⟨case, -, rfl⟩ := Option.map_eq_some_iff.mp sorts
    exact List.Subset.refl _
  | cons entry entries ih =>
    obtain ⟨name, json⟩ := entry
    rw [sortEntries] at sorts
    split at sorts
    · split at sorts
      · cases sorts
      · obtain ⟨case, -, sorts⟩ := Option.bind_eq_some_iff.mp sorts
        exact List.subset_cons_of_subset _ (ih sorts)
    · obtain ⟨more, found, rfl⟩ := Option.map_eq_some_iff.mp sorts
      exact List.cons_subset_cons _ (ih found)

theorem height_of_tagged {expected tag : String} {cases : List (String × γ)} {case : γ}
    (sorts : Buffered.tagged expected tag cases json = .ok (case, rest)) : rest.height ≤ json.height := by
  have sorts := toOption_eq_some_iff.mpr sorts
  rw [tagged_toOption] at sorts
  unfold sorted at sorts
  split at sorts
  · obtain ⟨case, -, same⟩ := Option.map_eq_some_iff.mp sorts
    cases same
    exact Nat.succ_le_succ (Nat.le_max_right _ _)
  · obtain ⟨sorted, found, same⟩ := Option.map_eq_some_iff.mp sorts
    cases same
    refine Nat.succ_le_succ (heightOfMembers_le_iff.mpr fun entry among => ?_)
    exact heightOfMembers_le_iff.mp (Nat.le_refl _) entry (subset_of_sortEntries found among)
  · cases sorts

section Congruence

variable {item other : Json → Except Cause α}

theorem singleMember_congr {name : String} {taken : Option α}
    (same : ∀ entry ∈ entries, item entry.2 = other entry.2) :
    Buffered.singleMember name item taken entries = Buffered.singleMember name other taken entries := by
  induction entries generalizing taken with
  | nil => cases taken <;> rfl
  | cons entry entries ih =>
    obtain ⟨here, others⟩ := List.forall_mem_cons.mp same
    obtain ⟨first, json⟩ := entry
    unfold Buffered.singleMember
    simp only [here, ih others]

theorem single_congr {expected name : String} {default? : Option α}
    (same : ∀ json, json.height < rest.height → item json = other json) :
    Buffered.single expected name item default? rest = Buffered.single expected name other default? rest := by
  cases rest with
  | array items =>
    cases items with
    | nil => rfl
    | cons first others =>
      simp only [Buffered.single, same first (Nat.lt_succ_of_le (Nat.le_max_left _ _))]
  | object entries =>
    have members : ∀ entry ∈ entries, item entry.2 = other entry.2 := fun entry among =>
      same entry.2 (Nat.lt_succ_of_le (heightOfMembers_le_iff.mp (Nat.le_refl _) entry among))
    simp only [Buffered.single, singleMember_congr members]
  | _ => rfl

theorem list_congr (same : ∀ json, json.height < rest.height → item json = other json) :
    Buffered.list item rest = Buffered.list other rest := by
  cases rest with
  | array items =>
    have alike : ∀ json ∈ items, item json = other json := fun json among =>
      same json (Nat.lt_succ_of_le (height_le_heightOfItems among))
    exact mapM_congr alike
  | _ => rfl

end Congruence

namespace ValueType

theorem ofTag_congr {nested other : Json → Except Cause ValueType} (tag : Tag)
    (same : ∀ json, json.height < rest.height → nested json = other json) :
    ofTag nested rest tag = ofTag other rest tag := by
  cases tag with
  | union =>
    have lists (json : Json) (lower : json.height < rest.height) :
        Buffered.list nested json = Buffered.list other json :=
      list_congr fun inside deeper => same inside (Nat.lt_trans deeper lower)
    exact congrArg (ValueType.union <$> ·) (single_congr lists)
  | _ => rfl

theorem ofJsonWithin_eq {levels more : Nat} (enough : json.height < levels) (most : json.height < more) :
    ofJsonWithin levels json = ofJsonWithin more json := by
  induction levels generalizing json more with
  | zero => cases enough
  | succ levels ih =>
    obtain ⟨more, rfl⟩ := Nat.exists_eq_add_of_le' (Nat.zero_lt_of_lt most)
    rw [ofJsonWithin, ofJsonWithin]
    cases sorts : Buffered.tagged "internally tagged enum Type" "type" tags json with
    | error cause => rfl
    | ok sorted =>
      obtain ⟨tag, rest⟩ := sorted
      have lower := height_of_tagged sorts
      exact ofTag_congr tag fun inside deeper => ih (by omega) (by omega)

/-- A type is made of its tag and of the types inside. -/
theorem ofJson_eq (json : Json) :
    ofJson json = Buffered.tagged "internally tagged enum Type" "type" tags json >>= fun sorted =>
      ofTag ofJson sorted.2 sorted.1 := by
  rw [ofJson, ofJsonWithin]
  cases sorts : Buffered.tagged "internally tagged enum Type" "type" tags json with
  | error cause => rfl
  | ok sorted =>
    obtain ⟨tag, rest⟩ := sorted
    have lower := height_of_tagged sorts
    exact ofTag_congr tag fun inside deeper => ofJsonWithin_eq (by omega) (Nat.lt_succ_self _)

end ValueType

/-! ### Cases and their fields -/

theorem lookup_map (convert : α → γ) (cases : List (String × α)) (word : String) :
    (cases.map fun entry => (entry.1, convert entry.2)).lookup word = (cases.lookup word).map convert := by
  induction cases with
  | nil => rfl
  | cons entry cases ih =>
    rw [List.map_cons, List.lookup_cons, List.lookup_cons, ih]
    cases word == entry.1 <;> rfl

theorem caseName_map (convert : α → γ) {cases : List (String × α)} {case : α}
    (named : Buffered.caseName cases json = .ok case) :
    Buffered.caseName (cases.map fun entry => (entry.1, convert entry.2)) json = .ok (convert case) := by
  cases json with
  | string word =>
    simp only [Buffered.caseName, lookup_map] at named ⊢
    cases found : cases.lookup word with
    | none => simp [found] at named
    | some other =>
      simp only [found] at named
      cases named
      rfl
  | integer index =>
    simp only [Buffered.caseName] at named ⊢
    split at named
    · cases named
    · next natural =>
      rw [if_neg natural, List.getElem?_map]
      cases found : cases[index.toNat]? with
      | none => simp [found] at named
      | some other =>
        simp only [found] at named
        cases named
        rfl
  | _ => cases named

theorem caseName_of_wordOf {cases : List (String × α)} {case : α} (named : wordOf cases json = some case) :
    Buffered.caseName cases json = .ok case := by
  cases json with
  | string word => simp only [Buffered.caseName, show cases.lookup word = some case from named]
  | _ => cases named

/-- Tagged values are read as the shape has it if its cases have the fields that are read. -/
theorem Tagging.of_cases {shape : Shape} {tag : String} {caseOf : Json → Option γ} {payload : γ → Payload α}
    (cases : List (String × γ)) (fieldOf : γ → Option Shape.Field)
    (form : shape.form = .tagged tag (cases.map fun entry => (entry.1, fieldOf entry.2)))
    (names : ∀ case, (fieldOf case).map (·.name) = (payload case).name?)
    (noTag : ∀ case, (payload case).name? ≠ some tag)
    (caseName : ∀ json case, caseOf json = some case → Buffered.caseName cases json = .ok case)
    (idle : ∀ field ∈ shape.fields, ∀ standard, field.default? = some standard →
      ∀ case expected item default?, payload case = .single expected field.name item default? →
      ∀ source, standard.Is source → ∀ depth json found, made (value depth) source = some json →
      item json = .ok found → default? = some found) :
    Tagging shape tag caseOf payload where
  noArray items := by
    cases named : caseOf (.array items) with
    | none => rfl
    | some case => cases caseName _ case named
  noObject entries := by
    cases named : caseOf (.object entries) with
    | none => rfl
    | some case => cases caseName _ case named
  noTag := noTag
  fields_noTag := by
    rw [Shape.fields, form]
    intro field among same
    obtain ⟨_, among, here⟩ := List.mem_filterMap.mp among
    obtain ⟨entry, -, rfl⟩ := List.mem_map.mp among
    have named : (fieldOf entry.2).map (·.name) = some tag :=
      (congrArg (Option.map (·.name)) here).trans (congrArg some same)
    exact noTag entry.2 ((names entry.2).symm.trans named)
  cases := by
    refine ⟨_, form, fun json case name named holds => ?_⟩
    obtain ⟨field, here, same⟩ := Option.map_eq_some_iff.mp ((names case).trans holds)
    exact ⟨field, (caseName_map fieldOf (caseName json case named)).trans (congrArg Except.ok here), same⟩
  idle among defaults isDefault holds read reads :=
    idle _ among _ defaults _ _ _ _ holds _ isDefault _ _ _ read reads

theorem bind_made_array {read : Json → Option α} (noArray : ∀ values, read (.array values) = none)
    (items : List Source) : (made (value depth) (.array items)).bind read = none := by
  rw [made_value_array]
  cases depth with
  | zero => rfl
  | succ depth =>
    rw [descend]
    cases items.mapM (made (value depth)) with
    | none => rfl
    | some values => exact noArray values

theorem bind_made_object {read : Json → Option α} (noObject : ∀ entries, read (.object entries) = none)
    (members : List (Content × Source)) : (made (value depth) (.object members)).bind read = none := by
  rw [made_value_object]
  cases depth with
  | zero => rfl
  | succ depth =>
    rw [descend]
    cases members.mapM (entry depth) with
    | none => rfl
    | some entries => exact noObject entries

/-- What is made of scalars only follows every revision. -/
theorem follows_flat {shape : Shape} {read : Json → Option α} (noArray : ∀ items, read (.array items) = none)
    (noObject : ∀ entries, read (.object entries) = none) :
    Follows (fun source => (made (value depth) source).bind read) shape :=
  Follows.of_scalars (bind_made_array noArray) (bind_made_object noObject)

theorem bind_mapM {convert : Source → Option Json} {item : Json → Except Cause α} (items : List Source) :
    ((items.mapM convert).bind fun values => (values.mapM item).toOption) =
      items.mapM fun source => (convert source).bind fun json => (item json).toOption := by
  induction items with
  | nil => rfl
  | cons source items ih =>
    rw [List.mapM_cons, List.mapM_cons, ← ih]
    cases convert source with
    | none => rfl
    | some json =>
      cases items.mapM convert with
      | none => cases read : item json <;> simp [read, Except.toOption]
      | some values =>
        simp only [Option.bind_eq_bind, Option.bind_some, Option.pure_def, List.mapM_cons]
        cases item json with
        | error cause => rfl
        | ok value => cases values.mapM item <;> rfl

/-- The items of a list come to what they come to one by one. -/
theorem follows_bufferedList {shape : Shape} {item : Json → Except Cause α}
    (follows : ∀ lower, depth = lower + 1 → ∀ index inner, shape.Item index inner →
      Follows (fun source => (made (value lower) source).bind fun json => (item json).toOption) inner) :
    Follows (fun source => (made (value depth) source).bind fun json => (Buffered.list item json).toOption)
      shape := by
  intro source other values within distinct others read
  cases within with
  | here => cases (bind_made_object (fun _ => rfl) _).symm.trans read
  | member => cases (bind_made_object (fun _ => rfl) _).symm.trans read
  | @item _ inner before after item other position within =>
    dsimp only at read ⊢
    rw [made_value_array, descend_bind] at read ⊢
    obtain ⟨lower, rfl, all⟩ := descend_eq_some_iff.mp read
    rw [Option.bind_map] at all
    refine (Option.bind_map ..).trans ((bind_mapM _).trans ?_)
    refine mapM_replace (fun value here => ?_) ((bind_mapM _).symm.trans all)
    exact follows lower rfl _ inner position item other value within (distinct_item distinct)
      (distinct_item others) here

/-! ### Types -/

theorem toOption_bind {β ε : Type} (result : Except ε α) (next : α → Except ε β) :
    (result >>= next).toOption = result.toOption.bind fun value => (next value).toOption := by
  cases result <;> rfl

theorem toOption_map {β ε : Type} (result : Except ε α) (convert : α → β) :
    (convert <$> result).toOption = result.toOption.map convert := by
  cases result <;> rfl

theorem Follows.map_item {β : Type} {shape : Shape} {item : Json → Except Cause α}
    (follows : Follows (fun source => (made (value depth) source).bind fun json => (item json).toOption) shape)
    (convert : α → β) :
    Follows (fun source => (made (value depth) source).bind fun json => (convert <$> item json).toOption)
      shape := by
  simpa only [toOption_map, Option.map_bind, Function.comp_def] using follows.map convert

namespace ValueType

def payload : Tag → Payload ValueType
  | .mixed => .nothing .mixed
  | .null => .nothing .null
  | .string => .nothing .string
  | .literal => .single "struct variant Type::ConstantString" "value"
      (fun json => literal <$> Buffered.string json) none
  | .object => .single "struct variant Type::Object" "class"
      (fun json => object <$> Buffered.string json) none
  | .union => .single "struct variant Type::Union" "types"
      (fun json => union <$> Buffered.list ofJson json) none

def fieldOf : Tag → Option Shape.Field
  | .mixed | .null | .string => none
  | .literal => some ⟨"value", .plain, none⟩
  | .object => some ⟨"class", .plain, none⟩
  | .union => some ⟨"types", .list .valueType, none⟩

theorem ofTag_eq (rest : Json) (tag : Tag) : ofTag ofJson rest tag = (payload tag).read rest := by
  cases tag with
  | literal => exact Payload.map_single literal Buffered.string none rest
  | object => exact Payload.map_single object Buffered.string none rest
  | union => exact Payload.map_single union (Buffered.list ofJson) none rest
  | _ => rfl

def caseOf (json : Json) : Option Tag := (Buffered.caseName tags json).toOption

theorem ofJson_toOption (json : Json) : (ofJson json).toOption = readTagged "type" caseOf payload json := by
  rw [ofJson_eq, toOption_bind, tagged_toOption, readTagged]
  simp only [ofTag_eq]
  rfl

theorem tagging : Tagging .valueType "type" caseOf payload := by
  refine Tagging.of_cases tags fieldOf rfl (fun case => ?_) (fun case => ?_)
    (fun json case named => toOption_eq_some_iff.mp named) ?_
  · cases case <;> rfl
  · cases case <;> simp [payload, Payload.name?]
  · simp [Shape.fields, Shape.form]

theorem follows (depth : Nat) :
    Follows (fun source => (made (value depth) source).bind fun json => (ofJson json).toOption)
      .valueType := by
  induction depth using Nat.strongRecOn with
  | ind depth ih =>
    simp only [ofJson_toOption]
    refine tagging.follows fun lower deeper => ?_
    intro case expected name item default? holds inner inside
    cases case with
    | mixed => cases holds
    | null => cases holds
    | string => cases holds
    | literal =>
      cases holds
      exact follows_flat (fun _ => rfl) fun _ => rfl
    | object =>
      cases holds
      exact follows_flat (fun _ => rfl) fun _ => rfl
    | union =>
      cases holds
      have types (below : Nat) (deeper : lower = below + 1) (index : Nat) (inner : Shape)
          (position : (Shape.list .valueType).Item index inner) :
          Follows (fun source => (made (value below) source).bind fun json => (ofJson json).toOption) inner := by
        have here := ih below (by omega)
        rcases position with rfl | rfl
        · exact here.plain
        · exact here
      have unions := (follows_bufferedList types).map_item union
      simp only [Shape.fields, Shape.form, List.filterMap_cons, List.filterMap_nil, List.mem_cons,
        List.not_mem_nil, or_false, exists_eq_or_imp, exists_eq_left] at inside
      rcases inside with rfl | rfl | rfl | rfl
      · exact unions.plain
      · exact unions.plain
      · exact unions.plain
      · exact unions

end ValueType

/-! ### Names, owners and scopes -/

section Payloads

variable {shape : Shape} {decoder : Decoder α} {expected tag : String} {cases : List (String × γ)}
  {payload : γ → Payload α}

/-- What is made of a tagged value whose payload is read as soon as its case is known. -/
theorem yields_payload (same : ∀ depth, decoder depth = Decoder.tagged expected tag cases depth >>= fun sorted =>
      Reader.raiseError ((payload sorted.1).read sorted.2)) :
    Yields (decoder depth) source ((made (value depth) source).bind (readTagged tag (wordOf cases) payload)) := by
  have tagged : Yields (Decoder.tagged expected tag cases depth) source
      ((made (value depth) source).bind (sorted tag (wordOf cases))) := yields_tagged cases
  have yields := tagged.bind fun sorted => (payload sorted.1).read sorted.2
  rwa [Option.bind_assoc, ← same] at yields

theorem follows_payload (same : ∀ depth, decoder depth = Decoder.tagged expected tag cases depth >>= fun sorted =>
      Reader.raiseError ((payload sorted.1).read sorted.2))
    (tagging : Tagging shape tag (wordOf cases) payload)
    (fields : ∀ depth, FollowsFields shape payload depth) (depth : Nat) :
    Follows (made (decoder depth)) shape := by
  have reads : made (decoder depth) =
      fun source => (made (value depth) source).bind (readTagged tag (wordOf cases) payload) :=
    funext fun source => (yields_payload same).made_eq
  rw [reads]
  exact tagging.follows fun lower _ => fields lower

end Payloads

namespace PropertyName

def cases : List (String × Tag) := [("literal", .literal), ("computed", .computed)]

def payload : Tag → Payload PropertyName
  | .literal => .single "struct variant NameSource::Literal" "name"
      (fun json => literal <$> Buffered.string json) none
  | .computed => .single "struct variant NameSource::Computed" "type"
      (fun json => computed <$> ValueType.ofJson json) none

def fieldOf : Tag → Option Shape.Field
  | .literal => some ⟨"name", .plain, none⟩
  | .computed => some ⟨"type", .valueType, none⟩

theorem decoder_eq (depth : Nat) : decoder depth =
    Decoder.tagged "internally tagged enum NameSource" "source" cases depth >>= fun sorted =>
      Reader.raiseError ((payload sorted.1).read sorted.2) := by
  refine congrArg (Decoder.tagged _ _ _ depth >>= ·) (funext fun ⟨tag, rest⟩ => congrArg Reader.raiseError ?_)
  cases tag with
  | literal => exact Payload.map_single literal Buffered.string none rest
  | computed => exact Payload.map_single computed ValueType.ofJson none rest

theorem decided_decoder : Decided decoder := fun _ _ => (yields_payload decoder_eq).made

theorem tagging : Tagging .propertyName "source" (wordOf cases) payload := by
  refine Tagging.of_cases cases fieldOf rfl (fun case => ?_) (fun case => ?_)
    (fun json case named => caseName_of_wordOf named) ?_
  · cases case <;> rfl
  · cases case <;> simp [payload, Payload.name?]
  · simp [Shape.fields, Shape.form]

theorem followsFields (depth : Nat) : FollowsFields .propertyName payload depth := by
  intro case expected name item default? holds inner inside
  cases case with
  | literal =>
    cases holds
    exact follows_flat (fun _ => rfl) fun _ => rfl
  | computed =>
    cases holds
    have types := (ValueType.follows depth).map_item computed
    rcases inside with rfl | ⟨field, among, rfl⟩
    · exact types.plain
    · rcases List.mem_pair.mp among with rfl | rfl
      · exact types.plain
      · exact types

theorem follows (depth : Nat) : Follows (made (decoder depth)) .propertyName :=
  follows_payload decoder_eq tagging followsFields depth

end PropertyName

namespace Owner

def cases : List (String × Tag) := [("expression", .expression), ("class_reference", .classReference)]

def payload : Tag → Payload Owner
  | .expression => .single "struct variant AccessOwner::Expression" "type"
      (fun json => expression <$> ValueType.ofJson json) none
  | .classReference => .single "struct variant AccessOwner::ClassReference" "class"
      (fun json => classReference <$> Buffered.optional Buffered.string json) (some (classReference none))

def fieldOf : Tag → Option Shape.Field
  | .expression => some ⟨"type", .valueType, none⟩
  | .classReference => some ⟨"class", .plain, some .null⟩

theorem decoder_eq (depth : Nat) : decoder depth =
    Decoder.tagged "internally tagged enum AccessOwner" "via" cases depth >>= fun sorted =>
      Reader.raiseError ((payload sorted.1).read sorted.2) := by
  refine congrArg (Decoder.tagged _ _ _ depth >>= ·) (funext fun ⟨tag, rest⟩ => congrArg Reader.raiseError ?_)
  cases tag with
  | expression => exact Payload.map_single expression ValueType.ofJson none rest
  | classReference =>
    exact Payload.map_single classReference (Buffered.optional Buffered.string) (some none) rest

theorem decided_decoder : Decided decoder := fun _ _ => (yields_payload decoder_eq).made

theorem tagging : Tagging .owner "via" (wordOf cases) payload := by
  refine Tagging.of_cases cases fieldOf rfl (fun case => ?_) (fun case => ?_)
    (fun json case named => caseName_of_wordOf named) ?_
  · cases case <;> rfl
  · cases case <;> simp [payload, Payload.name?]
  · intro field among standard defaults case expected item default? holds source isDefault depth json found
      read reads
    rcases List.mem_pair.mp among with rfl | rfl
    · cases defaults
    · cases defaults
      obtain rfl : source = .scalar .null := isDefault
      rw [made_value_scalar] at read
      cases read
      cases case with
      | expression =>
        injection holds with _ names
        exact absurd names (by decide)
      | classReference =>
        cases holds
        cases reads
        rfl

theorem followsFields (depth : Nat) : FollowsFields .owner payload depth := by
  intro case expected name item default? holds inner inside
  cases case with
  | expression =>
    cases holds
    have types := (ValueType.follows depth).map_item expression
    rcases inside with rfl | ⟨field, among, rfl⟩
    · exact types.plain
    · rcases List.mem_pair.mp among with rfl | rfl
      · exact types
      · exact types.plain
  | classReference =>
    cases holds
    exact follows_flat (fun _ => rfl) fun _ => rfl

theorem follows (depth : Nat) : Follows (made (decoder depth)) .owner :=
  follows_payload decoder_eq tagging followsFields depth

end Owner

namespace Scope

def cases : List (String × Tag) := [("in_class", .inClass), ("global", .outside)]

def payload : Tag → Payload Scope
  | .inClass => .single "struct variant ScopeContext::InClass" "class"
      (fun json => inClass <$> Buffered.string json) none
  | .outside => .nothing .outside

def fieldOf : Tag → Option Shape.Field
  | .inClass => some ⟨"class", .plain, none⟩
  | .outside => none

theorem decoder_eq (depth : Nat) : decoder depth =
    Decoder.tagged "internally tagged enum ScopeContext" "kind" cases depth >>= fun sorted =>
      Reader.raiseError ((payload sorted.1).read sorted.2) := by
  refine congrArg (Decoder.tagged _ _ _ depth >>= ·) (funext fun ⟨tag, rest⟩ => congrArg Reader.raiseError ?_)
  cases tag with
  | inClass => exact Payload.map_single inClass Buffered.string none rest
  | outside => rfl

theorem decided_decoder : Decided decoder := fun _ _ => (yields_payload decoder_eq).made

theorem tagging : Tagging .scope "kind" (wordOf cases) payload := by
  refine Tagging.of_cases cases fieldOf rfl (fun case => ?_) (fun case => ?_)
    (fun json case named => caseName_of_wordOf named) ?_
  · cases case <;> rfl
  · cases case <;> simp [payload, Payload.name?]
  · simp [Shape.fields, Shape.form]

theorem followsFields (depth : Nat) : FollowsFields .scope payload depth := by
  intro case expected name item default? holds inner inside
  cases case with
  | inClass =>
    cases holds
    exact follows_flat (fun _ => rfl) fun _ => rfl
  | outside => cases holds

theorem follows (depth : Nat) : Follows (made (decoder depth)) .scope :=
  follows_payload decoder_eq tagging followsFields depth

end Scope

end PropertyAudit
