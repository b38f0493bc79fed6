import PropertyAudit.Proofs.Json.ReadBack

/-! Arrays and objects read back: lists, maps, records with all their members, tagged values and values
of any kind. -/
namespace PropertyAudit.Json

open Reader Decoder

variable {α σ : Type} {json : Json} {text blanks rest : List UInt8} {byte : UInt8} {first : Bool}

theorem heightOfItems_le_iff {items : List Json} {bound : Nat} :
    heightOfItems items ≤ bound ↔ ∀ item ∈ items, item.height ≤ bound := by
  induction items with
  | nil => simp [heightOfItems]
  | cons item items ih => rw [heightOfItems, Nat.max_le, ih, List.forall_mem_cons]

theorem height_le_heightOfItems {items : List Json} (member : json ∈ items) :
    json.height ≤ heightOfItems items :=
  heightOfItems_le_iff.mp (Nat.le_refl _) json member

theorem heightOfMembers_le_iff {members : List (String × Json)} {bound : Nat} :
    heightOfMembers members ≤ bound ↔ ∀ member ∈ members, member.2.height ≤ bound := by
  induction members with
  | nil => simp [heightOfMembers]
  | cons member members ih => rw [heightOfMembers, Nat.max_le, ih, List.forall_mem_cons]

theorem height_le_heightOfMembers {members : List (String × Json)} {member : String × Json}
    (among : member ∈ members) : member.2.height ≤ heightOfMembers members :=
  heightOfMembers_le_iff.mp (Nat.le_refl _) member among

theorem inside_ok {close : Reader Unit} {after : List UInt8 → List UInt8} {body : Reader α} {value : α}
    {bytes middle : List UInt8} (done : body bytes = .ok (value, middle))
    (closed : close middle = .ok ((), rest)) : inside close after body bytes = .ok (value, rest) := by
  rw [inside, done]
  exact (run_bind closed).trans rfl

/-! ### Arrays -/

theorem closeArray_cons (rest : List UInt8) : closeArray (ascii ']' :: rest) = .ok ((), rest) := by
  rw [closeArray, run_bind (nextToken?_cons (by decide))]
  rfl

theorem hasItem_close (first : Bool) (allBlank : AllBlank blanks) :
    hasItem first (blanks ++ ascii ']' :: rest) = .ok (false, ascii ']' :: rest) := by
  rw [hasItem, run_bind (nextToken?_append allBlank (by decide))]
  rfl

theorem hasItem_separator (first : Bool) (allBlank : AllBlank blanks) (starts : byte ∈ json.starters) :
    hasItem first (separator first ++ (blanks ++ byte :: rest)) = .ok (true, byte :: rest) := by
  have notBlank := isBlank_of_mem_starters starts
  have notClose := ne_bracket_of_mem_starters starts
  cases first with
  | true =>
    rw [separator_true, List.nil_append, hasItem, run_bind (nextToken?_append allBlank notBlank)]
    simp only [beq_iff_eq, notClose, if_false, if_true]
    rfl
  | false =>
    rw [separator_false, List.singleton_append, hasItem, run_bind (nextToken?_cons (by decide))]
    change (skip >>= fun _ => _) _ = _
    rw [run_skip, List.tail_cons, run_bind (nextToken?_append allBlank notBlank)]
    simp only [beq_iff_eq, notClose, if_false]
    rfl

theorem ends_items {items : List Json} (written : WrittenItems false items text)
    (allBlank : AllBlank blanks) : Ends (text ++ (blanks ++ ascii ']' :: rest)) := by
  cases items with
  | nil =>
    obtain rfl := written
    rw [List.nil_append]
    exact ends_allBlank_append allBlank (ends_cons (by decide) (by decide) (by decide))
  | cons item items =>
    obtain ⟨_, _, _, -, -, -, rfl⟩ := written
    exact ends_cons (by decide) (by decide) (by decide)

theorem length_le_of_writtenItems {items : List Json} (written : WrittenItems first items text) :
    items.length ≤ text.length := by
  induction items generalizing first text with
  | nil => exact Nat.zero_le _
  | cons item items ih =>
    obtain ⟨blanks, body, more, -, here, there, rfl⟩ := written
    obtain ⟨byte, tail, rfl, -⟩ := starts_of_written here
    have shorter := ih there
    simp only [List.length_append, List.length_cons]
    omega

theorem itemsWithin_written {item : Reader α} {toJson : α → Json} {values : List α} {fuel : Nat}
    (takes : ∀ value ∈ values, Takes item (toJson value) value)
    (written : WrittenItems first (values.map toJson) text) (allBlank : AllBlank blanks)
    (enough : values.length < fuel) :
    itemsWithin item fuel first (text ++ (blanks ++ ascii ']' :: rest)) =
      .ok (values, ascii ']' :: rest) := by
  induction values generalizing first text fuel with
  | nil =>
    obtain ⟨fuel, rfl⟩ := Nat.exists_eq_succ_of_ne_zero (Nat.ne_of_gt enough)
    obtain rfl := written
    rw [List.nil_append, itemsWithin, run_bind (hasItem_close first allBlank)]
    rfl
  | cons value values ih =>
    obtain ⟨fuel, rfl⟩ := Nat.exists_eq_succ_of_ne_zero (Nat.ne_of_gt (Nat.zero_lt_of_lt enough))
    have ⟨here, others⟩ := List.forall_mem_cons.mp takes
    obtain ⟨gap, body, more, gapBlank, bodyWritten, moreWritten, rfl⟩ := written
    have taken := here [] body (more ++ (blanks ++ ascii ']' :: rest)) allBlank_nil bodyWritten
      (ends_items moreWritten allBlank)
    obtain ⟨byte, tail, rfl, starts⟩ := starts_of_written bodyWritten
    simp only [List.append_assoc, List.cons_append, List.nil_append] at taken ⊢
    rw [itemsWithin, run_bind (hasItem_separator first gapBlank starts)]
    simp only [if_true]
    rw [run_bind taken, run_bind (ih others moreWritten (Nat.lt_of_succ_lt_succ enough))]
    rfl

theorem items_written {item : Reader α} {toJson : α → Json} {values : List α}
    (takes : ∀ value ∈ values, Takes item (toJson value) value)
    (written : WrittenItems first (values.map toJson) text) (allBlank : AllBlank blanks) :
    items item first (text ++ (blanks ++ ascii ']' :: rest)) = .ok (values, ascii ']' :: rest) := by
  have count := length_le_of_writtenItems written
  rw [List.length_map] at count
  refine itemsWithin_written takes written allBlank ?_
  rw [List.length_append]
  omega

/-- All that follows the opening bracket of an array. -/
theorem inArray_written {item : Reader α} {toJson : α → Json} {values : List α}
    (takes : ∀ value ∈ values, Takes item (toJson value) value)
    (written : Written (.array (values.map toJson)) text) :
    ∃ inner, text = ascii '[' :: inner ∧
      ∀ rest, inArray (items item true) (inner ++ rest) = .ok (values, rest) := by
  obtain ⟨inner, blanks, itemsWritten, allBlank, rfl⟩ := written
  refine ⟨_, rfl, fun rest => ?_⟩
  simp only [List.append_assoc, List.cons_append, List.nil_append]
  exact inside_ok (items_written takes itemsWritten allBlank) (closeArray_cons rest)

theorem decodes_list {item : Decoder α} {toJson : α → Json} {values : List α}
    (decodes : ∀ value ∈ values, Decodes item (toJson value) value) :
    Decodes (list item) (.array (values.map toJson)) values := by
  intro depth enough blanks text rest allBlank written ends
  obtain ⟨depth, rfl⟩ := Nat.exists_eq_succ_of_ne_zero (Nat.ne_of_gt (Nat.zero_lt_of_lt enough))
  have takes : ∀ value ∈ values, Takes (item depth) (toJson value) value := by
    intro value member
    have low : (toJson value).height ≤ _ := height_le_heightOfItems (List.mem_map_of_mem member)
    exact decodes value member depth (Nat.le_trans low (Nat.le_of_succ_le_succ enough))
  obtain ⟨inner, rfl, taken⟩ := inArray_written takes written
  rw [list, List.cons_append, run_bind (nextToken?_append allBlank (by decide))]
  exact taken rest

/-! ### Objects -/

theorem closeObject_cons (rest : List UInt8) : closeObject (ascii '\x7d' :: rest) = .ok ((), rest) := by
  rw [closeObject, run_bind (nextToken?_cons (by decide))]
  rfl

theorem colon_cons (rest : List UInt8) : colon (ascii ':' :: rest) = .ok ((), rest) := by
  rw [colon, run_bind (nextToken?_cons (by decide))]
  rfl

theorem memberName?_close (first : Bool) (allBlank : AllBlank blanks) :
    memberName? first (blanks ++ ascii '\x7d' :: rest) = .ok (none, ascii '\x7d' :: rest) := by
  rw [memberName?, run_bind (nextToken?_append allBlank (by decide))]
  rfl

theorem memberName?_separator (first : Bool) (name : String) (allBlank : AllBlank blanks) :
    memberName? first (separator first ++ (blanks ++ (quoted name ++ rest))) =
      .ok (some name, rest) := by
  have taken := run_map some (stringTail_written name rest)
  rw [quoted, List.cons_append, List.append_assoc, List.cons_append, List.nil_append]
  cases first with
  | true =>
    rw [separator_true, List.nil_append, memberName?,
      run_bind (nextToken?_append allBlank (by decide))]
    exact taken
  | false =>
    rw [separator_false, List.singleton_append, memberName?, run_bind (nextToken?_cons (by decide))]
    change (skip >>= fun _ => _) _ = _
    rw [run_skip, List.tail_cons, run_bind (nextToken?_append allBlank (by decide))]
    exact taken

theorem ends_members {members : List (String × Json)} (written : WrittenMembers false members text)
    (allBlank : AllBlank blanks) : Ends (text ++ (blanks ++ ascii '\x7d' :: rest)) := by
  cases members with
  | nil =>
    obtain rfl := written
    rw [List.nil_append]
    exact ends_allBlank_append allBlank (ends_cons (by decide) (by decide) (by decide))
  | cons member members =>
    obtain ⟨_, _, _, _, -, -, -, -, rfl⟩ := written
    exact ends_cons (by decide) (by decide) (by decide)

theorem length_le_of_writtenMembers {members : List (String × Json)}
    (written : WrittenMembers first members text) : members.length ≤ text.length := by
  induction members generalizing first text with
  | nil => exact Nat.zero_le _
  | cons member members ih =>
    obtain ⟨blanks, gap, body, more, -, -, -, there, rfl⟩ := written
    have shorter := ih there
    simp only [List.length_append, List.length_cons]
    omega

inductive Reads (member : String → σ → Reader σ) : σ → List (String × Json) → σ → Prop where
  | nil : Reads member state [] state
  | cons {json : Json} {members : List (String × Json)} :
      Takes (fun bytes => member name state (ascii ':' :: bytes)) json next →
      Reads member next members final → Reads member state ((name, json) :: members) final

theorem membersWithin_written {member : String → σ → Reader σ} {members : List (String × Json)}
    {start final : σ} {fuel : Nat} (reads : Reads member start members final)
    (written : WrittenMembers first members text) (allBlank : AllBlank blanks)
    (enough : members.length < fuel) :
    membersWithin member fuel first start (text ++ (blanks ++ ascii '\x7d' :: rest)) =
      .ok (final, ascii '\x7d' :: rest) := by
  induction reads generalizing first text fuel with
  | nil =>
    obtain ⟨fuel, rfl⟩ := Nat.exists_eq_succ_of_ne_zero (Nat.ne_of_gt enough)
    obtain rfl := written
    rw [List.nil_append, membersWithin, run_bind (memberName?_close first allBlank)]
    rfl
  | cons here _ ih =>
    obtain ⟨fuel, rfl⟩ := Nat.exists_eq_succ_of_ne_zero (Nat.ne_of_gt (Nat.zero_lt_of_lt enough))
    obtain ⟨before, gap, body, more, beforeBlank, gapBlank, bodyWritten, moreWritten, rfl⟩ := written
    have taken := here gap body (more ++ (blanks ++ ascii '\x7d' :: rest)) gapBlank bodyWritten
      (ends_members moreWritten allBlank)
    simp only [List.append_assoc, List.cons_append]
    rw [membersWithin, run_bind (memberName?_separator first _ beforeBlank)]
    exact (run_bind taken).trans (ih moreWritten (Nat.lt_of_succ_lt_succ enough))

theorem members_written {member : String → σ → Reader σ} {members : List (String × Json)}
    {start final : σ} (reads : Reads member start members final)
    (written : WrittenMembers true members text) (allBlank : AllBlank blanks) :
    Decoder.members member start (text ++ (blanks ++ ascii '\x7d' :: rest)) =
      .ok (final, ascii '\x7d' :: rest) := by
  have count := length_le_of_writtenMembers written
  refine membersWithin_written reads written allBlank ?_
  rw [List.length_append]
  omega

/-- All that follows the opening brace of an object. -/
theorem membersAndBrace_written {member : String → σ → Reader σ} {members : List (String × Json)}
    {start final : σ} (reads : Reads member start members final)
    (written : Written (.object members) text) :
    ∃ inner, text = ascii '\x7b' :: inner ∧ ∀ rest, ∃ after,
      Decoder.members member start (inner ++ rest) = .ok (final, after) ∧
        closeObject after = .ok ((), rest) := by
  obtain ⟨inner, blanks, membersWritten, allBlank, rfl⟩ := written
  refine ⟨_, rfl, fun rest => ⟨_, ?_, closeObject_cons rest⟩⟩
  simp only [List.append_assoc, List.cons_append, List.nil_append]
  exact members_written reads membersWritten allBlank

/-- All that follows the opening brace of an object, for a body that reads members and concludes. -/
theorem inObject_written {member : String → σ → Reader σ} {members : List (String × Json)}
    {start final : σ} {body : Reader α} {value : α} (reads : Reads member start members final)
    (concludes : ∀ bytes rest, Decoder.members member start bytes = .ok (final, rest) →
      body bytes = .ok (value, rest))
    (written : Written (.object members) text) :
    ∃ inner, text = ascii '\x7b' :: inner ∧
      ∀ rest, inObject body (inner ++ rest) = .ok (value, rest) := by
  obtain ⟨inner, rfl, read⟩ := membersAndBrace_written reads written
  refine ⟨inner, rfl, fun rest => ?_⟩
  obtain ⟨after, taken, closed⟩ := read rest
  exact inside_ok (concludes _ _ taken) closed

theorem takes_colon {reader : Reader α} {value : α} (next : α → σ) (takes : Takes reader json value) :
    Takes (fun bytes => (do colon; let value ← reader; pure (next value) : Reader σ)
      (ascii ':' :: bytes)) json (next value) := by
  intro blanks text rest allBlank written ends
  change (colon >>= fun _ => _) _ = _
  rw [run_bind (colon_cons _), run_bind (takes blanks text rest allBlank written ends)]
  rfl

/-! ### Maps -/

/-- Members under different names are all kept, the last one first. -/
theorem reads_map {item : Reader α} {toJson : α → Json} {entries : List (String × α)}
    (taken : List (String × α))
    (takes : ∀ entry ∈ entries, Takes item (toJson entry.2) entry.2)
    (distinct : ((entries ++ taken).map (·.1)).Nodup) :
    Reads (fun name taken => do
        colon
        let value ← item
        pure ((name, value) :: taken.filter (·.1 != name))) taken
      (entries.map fun entry => (entry.1, toJson entry.2)) (entries.reverse ++ taken) := by
  induction entries generalizing taken with
  | nil => exact .nil
  | cons entry entries ih =>
    have ⟨here, others⟩ := List.forall_mem_cons.mp takes
    rw [List.cons_append, List.map_cons, List.nodup_cons] at distinct
    have kept : taken.filter (·.1 != entry.1) = taken := by
      rw [List.filter_eq_self]
      intro other member
      rw [bne_iff_ne]
      intro same
      exact distinct.1 (same ▸ List.mem_map_of_mem (List.mem_append_right _ member))
    have swapped : ((entries ++ entry :: taken).map (·.1)).Nodup := by
      rw [(List.perm_middle.map _).nodup_iff]
      exact List.nodup_cons.mpr distinct
    rw [List.reverse_cons, List.append_assoc, List.singleton_append]
    refine .cons ?_ (ih _ others swapped)
    have stored := takes_colon (fun value => (entry.1, value) :: taken.filter (·.1 != entry.1)) here
    simpa only [kept] using stored

theorem decodes_map {item : Decoder α} {toJson : α → Json} {entries : List (String × α)}
    (decodes : ∀ entry ∈ entries, Decodes item (toJson entry.2) entry.2)
    (distinct : (entries.map (·.1)).Nodup) :
    Decodes (map item) (.object (entries.map fun entry => (entry.1, toJson entry.2))) entries := by
  intro depth enough blanks text rest allBlank written ends
  obtain ⟨depth, rfl⟩ := Nat.exists_eq_succ_of_ne_zero (Nat.ne_of_gt (Nat.zero_lt_of_lt enough))
  have takes : ∀ entry ∈ entries, Takes (item depth) (toJson entry.2) entry.2 := by
    intro entry member
    have low : (toJson entry.2).height ≤ _ :=
      height_le_heightOfMembers (List.mem_map_of_mem (f := fun entry => (entry.1, toJson entry.2)) member)
    exact decodes entry member depth (Nat.le_trans low (Nat.le_of_succ_le_succ enough))
  have reads := reads_map [] takes (by simpa using distinct)
  obtain ⟨inner, rfl, taken⟩ := inObject_written reads (fun _ _ => run_map List.reverse) written
  rw [map, List.cons_append, run_bind (nextToken?_append allBlank (by decide))]
  rw [List.append_nil, List.reverse_reverse] at taken
  exact taken rest

/-! ### Records -/

inductive Fills : List (RecordField σ) → σ → List (String × Json) → σ → Prop where
  | nil : Fills [] state [] state
  | cons {field : RecordField σ} {json : Json} {members : List (String × Json)} :
      field.isGiven state = false → Decodes field.read json store →
      Fills fields (store state) members final →
      Fills (field :: fields) state ((field.name, json) :: members) final

theorem find?_field {fields : List (RecordField σ)} (distinct : (fields.map (·.name)).Nodup)
    {field : RecordField σ} (member : field ∈ fields) :
    fields.find? (·.name == field.name) = some field := by
  induction fields with
  | nil => cases member
  | cons other fields ih =>
    have ⟨absent, others⟩ := List.nodup_cons.mp distinct
    rcases List.mem_cons.mp member with rfl | later
    · simp
    · have different : other.name ≠ field.name := fun same =>
        absent (List.mem_map.mpr ⟨field, later, same.symm⟩)
      rw [List.find?_cons_of_neg (by simpa using different)]
      exact ih others later

theorem decodes_field {item : Decoder α} {value : α} {name : String} {get : σ → Option α}
    {set : α → σ → σ} {optional : Bool} (decodes : Decodes item json value) :
    Decodes (RecordField.of name item get set optional).read json (set value) := by
  intro depth enough blanks text rest allBlank written ends
  exact run_map set (decodes depth enough blanks text rest allBlank written ends)

def storeMember (fields : List (RecordField σ)) (depth : Nat) (name : String) (state : σ) : Reader σ :=
  match fields.find? (·.name == name) with
  | none => do
    colon
    passValue
    pure state
  | some field =>
    if field.isGiven state then raise (.repeatedMember name)
    else do
      colon
      let store ← field.read depth
      pure (store state)

theorem storeMember_field {fields : List (RecordField σ)} (distinct : (fields.map (·.name)).Nodup)
    {field : RecordField σ} (among : field ∈ fields) {state : σ}
    (notGiven : field.isGiven state = false) (depth : Nat) :
    storeMember fields depth field.name state =
      (do colon; let store ← field.read depth; pure (store state) : Reader σ) := by
  simp only [storeMember, find?_field distinct among, notGiven, Bool.false_eq_true, if_false]

theorem reads_of_fills {fields later : List (RecordField σ)} {state final : σ}
    {members : List (String × Json)} {depth : Nat} (distinct : (fields.map (·.name)).Nodup)
    (among : ∀ field ∈ later, field ∈ fields) (fills : Fills later state members final)
    (enough : heightOfMembers members ≤ depth) :
    Reads (storeMember fields depth) state members final := by
  induction fills with
  | nil => exact .nil
  | @cons state store _ _ field json members notGiven decodes _ ih =>
    have ⟨here, others⟩ := List.forall_mem_cons.mp among
    refine .cons ?_ (ih others (Nat.le_trans (Nat.le_max_right _ _) enough))
    rw [storeMember_field distinct here notGiven]
    exact takes_colon (fun store => store state)
      (decodes depth (Nat.le_trans (Nat.le_max_left _ _) enough))

/-- The object of a record's fields, all given and in order. -/
theorem decodes_record {expected : String} {fields : List (RecordField σ)} {start final : σ}
    {finish : σ → Except Cause α} {value : α} {members : List (String × Json)}
    (distinct : (fields.map (·.name)).Nodup) (fills : Fills fields start members final)
    (finished : finish final = .ok value) :
    Decodes (record expected fields start finish) (.object members) value := by
  intro depth enough blanks text rest allBlank written ends
  obtain ⟨depth, rfl⟩ := Nat.exists_eq_succ_of_ne_zero (Nat.ne_of_gt (Nat.zero_lt_of_lt enough))
  have reads := reads_of_fills distinct (fun _ member => member) fills (Nat.le_of_succ_le_succ enough)
  have concludes (bytes rest : List UInt8)
      (done : Decoder.members (storeMember fields depth) start bytes = .ok (final, rest)) :
      (Decoder.members (storeMember fields depth) start >>= fun state => raiseError (finish state))
        bytes = .ok (value, rest) := by
    rw [run_bind done, finished]
    rfl
  obtain ⟨inner, rfl, taken⟩ := inObject_written reads concludes written
  rw [record, List.cons_append, run_bind (nextToken?_append allBlank (by decide))]
  exact taken rest

/-! ### Values of any kind -/

/-- Members are all kept, the last one first. -/
theorem reads_members {nested : Reader Json} {members : List (String × Json)}
    (taken : List (String × Json)) (takes : ∀ member ∈ members, Takes nested member.2 member.2) :
    Reads (fun name taken => do
        colon
        let value ← nested
        pure ((name, value) :: taken)) taken members (members.reverse ++ taken) := by
  induction members generalizing taken with
  | nil => exact .nil
  | cons member members ih =>
    have ⟨here, others⟩ := List.forall_mem_cons.mp takes
    rw [List.reverse_cons, List.append_assoc, List.singleton_append]
    exact .cons (takes_colon (fun value => (member.1, value) :: taken) here) (ih _ others)

theorem takes_valueOver_array {nested : Reader Json} {items : List Json}
    (takes : ∀ item ∈ items, Takes nested item item) :
    Takes (valueOver (some nested)) (.array items) (.array items) := by
  intro blanks text rest allBlank written ends
  rw [← List.map_id items] at written
  obtain ⟨inner, rfl, taken⟩ := inArray_written takes written
  rw [List.cons_append, valueOver, run_bind (found_bracket allBlank)]
  exact run_map Json.array (taken rest)

theorem takes_valueOver_object {nested : Reader Json} {members : List (String × Json)}
    (takes : ∀ member ∈ members, Takes nested member.2 member.2) :
    Takes (valueOver (some nested)) (.object members) (.object members) := by
  intro blanks text rest allBlank written ends
  obtain ⟨inner, rfl, taken⟩ :=
    inObject_written (reads_members [] takes) (fun _ _ => run_map List.reverse) written
  rw [List.append_nil, List.reverse_reverse] at taken
  rw [List.cons_append, valueOver, run_bind (found_brace allBlank)]
  exact run_map Json.object (taken rest)

theorem takes_valueOver_scalar (nested : Option (Reader Json)) (flat : json.height = 0) :
    Takes (valueOver nested) json json := by
  intro blanks text rest allBlank written ends
  rw [valueOver, run_bind (takes_found flat blanks text rest allBlank written ends)]
  cases json with
  | array items => cases flat
  | object members => cases flat
  | _ => rfl

theorem decodes_value (json : Json) : Decodes Decoder.value json json := by
  intro depth enough
  induction depth generalizing json with
  | zero => exact takes_valueOver_scalar none (Nat.le_zero.mp enough)
  | succ depth ih =>
    cases json with
    | array items =>
      have low (item : Json) (member : item ∈ items) : item.height ≤ depth :=
        Nat.le_trans (height_le_heightOfItems member) (Nat.le_of_succ_le_succ enough)
      exact takes_valueOver_array fun item member => ih item (low item member)
    | object members =>
      have low (member : String × Json) (among : member ∈ members) : member.2.height ≤ depth :=
        Nat.le_trans (height_le_heightOfMembers among) (Nat.le_of_succ_le_succ enough)
      exact takes_valueOver_object fun member among => ih member.2 (low member among)
    | _ => exact takes_valueOver_scalar _ rfl

/-! ### Tagged values -/

def sortMember (tag : String) (cases : List (String × α)) (depth : Nat) (name : String)
    (state : Option α × List (String × Json)) : Reader (Option α × List (String × Json)) :=
  if name == tag then
    if state.1.isSome then raise (.repeatedMember tag)
    else do
      colon
      let case ← caseName cases depth
      pure (some case, state.2)
  else do
    colon
    let value ← value depth
    pure (state.1, (name, value) :: state.2)

theorem reads_sorted {tag : String} {cases : List (String × α)} {depth : Nat} {case : α}
    {members : List (String × Json)} (taken : List (String × Json))
    (others : ∀ member ∈ members, member.1 ≠ tag) (enough : heightOfMembers members ≤ depth) :
    Reads (sortMember tag cases depth) (some case, taken) members
      (some case, members.reverse ++ taken) := by
  induction members generalizing taken with
  | nil => exact .nil
  | cons member members ih =>
    have ⟨other, rest⟩ := List.forall_mem_cons.mp others
    have here := decodes_value member.2 depth (Nat.le_trans (Nat.le_max_left _ _) enough)
    rw [List.reverse_cons, List.append_assoc, List.singleton_append]
    refine .cons ?_ (ih _ rest (Nat.le_trans (Nat.le_max_right _ _) enough))
    simp only [sortMember, beq_iff_eq, other, if_false]
    exact takes_colon (fun value => (some case, (member.1, value) :: taken)) here

/-- A tagged value whose tag comes first. -/
theorem decodes_tagged {expected tag word : String} {cases : List (String × α)} {case : α}
    {members : List (String × Json)} (listed : cases.lookup word = some case)
    (others : ∀ member ∈ members, member.1 ≠ tag) :
    Decodes (tagged expected tag cases) (.object ((tag, .string word) :: members))
      (case, .object members) := by
  intro depth enough blanks text rest allBlank written ends
  obtain ⟨depth, rfl⟩ := Nat.exists_eq_succ_of_ne_zero (Nat.ne_of_gt (Nat.zero_lt_of_lt enough))
  have low : heightOfMembers members ≤ depth :=
    Nat.le_trans (Nat.le_max_right _ _) (Nat.le_of_succ_le_succ enough)
  have first : Takes (fun bytes => sortMember tag cases depth tag (none, []) (ascii ':' :: bytes))
      (.string word) (some case, []) := by
    have named := decodes_caseName listed depth (Nat.zero_le _)
    simp only [sortMember, beq_self_eq_true, if_true, Option.isSome_none, Bool.false_eq_true, if_false]
    exact takes_colon (fun case => (some case, [])) named
  obtain ⟨inner, rfl, read⟩ := membersAndBrace_written (.cons first (reads_sorted [] others low)) written
  obtain ⟨after, taken, closed⟩ := read rest
  rw [List.append_nil] at taken
  rw [tagged, List.cons_append, run_bind (nextToken?_append allBlank (by decide))]
  refine inside_ok ((run_bind taken).trans ?_) closed
  change (pure (case, Json.object members.reverse.reverse) : Reader (α × Json)) after = _
  rw [List.reverse_reverse]
  rfl

/-- A value that is sorted out by its tag. -/
theorem decodes_raiseError {decoder : Decoder σ} {state : σ} {finish : σ → Except Cause α} {value : α}
    (decodes : Decodes decoder json state) (finished : finish state = .ok value) :
    Decodes (fun depth => do raiseError (finish (← decoder depth))) json value := by
  intro depth enough blanks text rest allBlank written ends
  change (decoder depth >>= fun state => raiseError (finish state)) _ = _
  rw [run_bind (decodes depth enough blanks text rest allBlank written ends), finished]
  rfl

/-! ### Documents -/

/-- A document is a value with nothing but blanks after it. -/
theorem document_eq_ok_iff {decoder : Decoder α} {value : α} {depth : Nat} {bytes : List UInt8} :
    document decoder depth bytes = .ok value ↔
      ∃ rest, decoder depth bytes = .ok (value, rest) ∧ dropBlanks rest = [] := by
  unfold document
  extract_lets whole
  cases read : decoder depth bytes with
  | error fault =>
    have failed : whole bytes = .error fault := by
      simp [whole, bind, StateT.bind, read, Except.bind]
    simp [failed]
  | ok taken =>
    obtain ⟨found, rest⟩ := taken
    cases after : dropBlanks rest with
    | nil =>
      have ended : whole bytes = .ok (found, []) := by
        unfold whole
        rw [run_bind read, run_nextToken?, after]
        rfl
      simp only [ended, Except.ok.injEq, Prod.mk.injEq]
      constructor
      · rintro rfl
        exact ⟨rest, ⟨rfl, rfl⟩, after⟩
      · rintro ⟨_, ⟨rfl, -⟩, -⟩
        rfl
    | cons byte tail =>
      have failed : whole bytes = .error ⟨.trailingCharacters, tail, true⟩ := by
        unfold whole
        rw [run_bind read, run_nextToken?, after]
        rfl
      simp [failed, after]

/-- A document is read back from any text of its value. -/
theorem document_written {decoder : Decoder α} {value : α} {depth : Nat}
    (decodes : Decodes decoder json value) (enough : json.height ≤ depth)
    (written : Written json text) : document decoder depth text = .ok value := by
  have taken := decodes depth enough [] text [] allBlank_nil written ends_nil
  rw [List.nil_append, List.append_nil] at taken
  exact document_eq_ok_iff.mpr ⟨[], taken, rfl⟩

end PropertyAudit.Json
