import PropertyAudit.Proofs.Json.Readings

/-! What choices and values of any kind are made of the trees of texts. A tagged value is made of the value of
its tree, which is read as a whole. -/
namespace PropertyAudit.Json

open Reader Decoder

variable {α : Type} {blanks rest : List UInt8} {source : Source} {depth : Nat}

/-! ### Choices -/

theorem decided_caseName (cases : List (String × α)) : Decided (caseName cases) :=
  decided_scalar rfl rfl

theorem decided_null : Decided Decoder.null := decided_scalar rfl rfl

/-- What a choice makes of the members of an object. There has to be one only, which is null. -/
def chosenMember (cases : List (String × α)) : List (Content × Source) → Nat → Option α
  | [(name, value)], depth =>
    (made (caseName cases depth) (.scalar (.string name))).bind fun case =>
      (made (Decoder.null depth) value).map fun _ => case
  | _, _ => none

/-- Only strings name cases. -/
theorem made_caseName_eq_none (cases : List (String × α)) {token : Token}
    (noString : ∀ content, token ≠ .string content) :
    made (caseName cases depth) (.scalar token) = none := by
  rw [(yields_caseName cases).made_eq, Source.found?]
  cases token with
  | null => rfl
  | boolean value => rfl
  | number numeral =>
    rw [Token.found?]
    cases run? (Reader.number numeral.negative) numeral.unsigned with
    | none => rfl
    | some taken =>
      simp only [Option.map_some, Option.bind_some]
      cases taken.1 <;> rfl
  | string content => exact absurd rfl (noString content)

theorem yields_choice_scalar (cases : List (String × α)) (token : Token) :
    Yields (choice cases depth) (.scalar token) (made (caseName cases depth) (.scalar token)) := by
  refine yields_peek fun byte more rest starts spells ends => ?_
  have noBrace := (Token.ne_brackets_of_starts starts).2
  by_cases isQuote : byte = ascii '"'
  · subst isQuote
    exact decided_caseName cases depth (.scalar token) [] _ rest allBlank_nil spells ends
  · have noString (content : Content) : token ≠ .string content := by
      rintro rfl
      exact isQuote (List.mem_singleton.mp starts)
    rw [made_caseName_eq_none cases noString]
    simp [noBrace, isQuote, run?_failNext]

theorem yields_choice_array (cases : List (String × α)) (items : List Source) :
    Yields (choice cases depth) (.array items) none := by
  refine yields_peek fun byte more rest starts spells ends => ?_
  obtain rfl := List.mem_singleton.mp starts
  rfl

theorem run?_caseName_brace (cases : List (String × α)) (allBlank : AllBlank blanks) (rest : List UInt8) :
    run? (caseName cases depth) (blanks ++ ascii '\x7d' :: rest) = none := by
  rw [caseName, scalar, run?_bind, Decoder.found, run?_peekToken _ allBlank (by decide)]
  rfl

theorem yields_choice_object (cases : List (String × α)) (members : List (Content × Source)) :
    Yields (choice cases depth) (.object members) (descend depth (chosenMember cases members)) := by
  refine yields_peek fun byte more rest starts spells ends => ?_
  obtain rfl := List.mem_singleton.mp starts
  refine run?_enterObject _ spells fun depth inner blanks membersSpell allBlank => ?_
  cases members with
  | nil =>
    obtain rfl := membersSpell
    rw [List.nil_append, run?_bind, run?_caseName_brace cases allBlank]
    rfl
  | cons member members =>
    obtain ⟨before, inset, gap, after, body, more, beforeBlank, insetBlank, gapBlank, afterBlank,
      bodySpells, moreSpells, rfl⟩ := membersSpell
    have bothBlank : AllBlank (before ++ inset) := allBlank_append beforeBlank insetBlank
    have colonEnds (rest : List UInt8) : Ends (gap ++ ascii ':' :: rest) :=
      ends_allBlank_append gapBlank (ends_cons (by decide) (by decide) (by decide))
    have named := decided_caseName cases depth (.scalar (.string member.1)) _ _ _ bothBlank rfl
      (colonEnds (after ++ (body ++ (more ++ (blanks ++ ascii '\x7d' :: rest)))))
    have null := decided_null depth member.2 after body _ afterBlank bodySpells
      (ends_spellsMembers moreSpells allBlank rest)
    simp only [List.append_assoc, List.cons_append, separator_true, List.nil_append] at named ⊢
    rw [run?_bind, ← Token.text, named]
    cases chosen : made (caseName cases depth) (.scalar (.string member.1)) with
    | none => cases members <;> simp [chosenMember, chosen]
    | some case =>
      simp only [Option.map_some, Option.bind_some]
      rw [run?_bind, run?_colon gapBlank, Option.bind_some, run?_bind, null]
      cases nothing : made (Decoder.null depth) member.2 with
      | none => cases members <;> simp [chosenMember, chosen, nothing]
      | some _ =>
        cases members with
        | nil =>
          obtain rfl := moreSpells
          simp only [Option.map_some, Option.bind_some, List.nil_append]
          have alone : chosenMember cases [member] depth = some case := by simp [chosenMember, chosen, nothing]
          rw [run?_peekToken _ allBlank (by decide), alone]
          rfl
        | cons other members =>
          obtain ⟨before, _, _, _, _, _, beforeBlank, -, -, -, -, -, rfl⟩ := moreSpells
          simp only [Option.map_some, Option.bind_some, List.append_assoc, separator_false,
            List.cons_append]
          rw [run?_peekToken _ beforeBlank (by decide)]
          rfl

theorem decided_choice (cases : List (String × α)) : Decided (choice cases) := by
  intro depth source
  cases source with
  | scalar token => exact (yields_choice_scalar cases token).made
  | array items => exact (yields_choice_array cases items).made
  | object members => exact (yields_choice_object cases members).made

/-! ### Values -/

def scalarOf : Found → Option Json
  | .null => some .null
  | .boolean value => some (.boolean value)
  | .integer value => some (.integer value)
  | .decimal value => some (.decimal value)
  | .string value => some (.string value)
  | .array | .object => none

def storeValue (nested : Reader Json) (name : String) (source : Source) (taken : List (String × Json)) :
    Option (List (String × Json)) :=
  (made nested source).map fun value => (name, value) :: taken

theorem found_token {token : Token} {value : Found} (found : token.found? = some value) : Flat value := by
  cases token with
  | null => cases found; trivial
  | boolean truth => cases found; trivial
  | number numeral =>
    obtain ⟨taken, -, rfl⟩ := Option.map_eq_some_iff.mp found
    exact flat_number taken.1
  | string content =>
    obtain ⟨text, -, rfl⟩ := Option.map_eq_some_iff.mp found
    trivial

theorem yields_valueOver_scalar (nested : Option (Reader Json)) (token : Token) :
    Yields (valueOver nested) (.scalar token) (token.found?.bind scalarOf) := by
  intro blanks text rest allBlank spells ends
  rw [valueOver, run?_bind, yields_found token blanks text rest allBlank spells ends]
  cases found : token.found? with
  | none => rfl
  | some value =>
    have flat := found_token found
    cases value with
    | array => exact flat.elim
    | object => exact flat.elim
    | _ => rfl

theorem yields_valueOver_none (source : Source) :
    Yields (valueOver none) source (source.found?.bind scalarOf) := by
  cases source with
  | scalar token => exact yields_valueOver_scalar none token
  | array items =>
    rintro gap text rest gapBlank ⟨inner, blanks, -, -, rfl⟩ ends
    rw [List.cons_append, valueOver, run?_bind, run?_of_ok (found_bracket gapBlank)]
    rfl
  | object members =>
    rintro gap text rest gapBlank ⟨inner, blanks, -, -, rfl⟩ ends
    rw [List.cons_append, valueOver, run?_bind, run?_of_ok (found_brace gapBlank)]
    rfl

theorem yields_valueOver_array {nested : Reader Json}
    (settled : ∀ source, Yields nested source (made nested source)) (items : List Source) :
    Yields (valueOver (some nested)) (.array items) ((items.mapM (made nested)).map .array) := by
  rintro gap text rest gapBlank ⟨inner, blanks, itemsSpell, allBlank, rfl⟩ ends
  have read := run?_inArray (run?_items (fun source _ => settled source) itemsSpell allBlank rest)
  rw [List.cons_append, valueOver, run?_bind, run?_of_ok (found_bracket gapBlank)]
  change run? (Json.array <$> inArray (Decoder.items nested true)) (inner ++ (blanks ++ [ascii ']']) ++ rest) = _
  rw [run?_map, List.append_assoc, List.append_assoc, List.singleton_append, read, Option.map_map,
    Option.map_map]
  rfl

theorem yields_valueOver_object {nested : Reader Json}
    (settled : ∀ source, Yields nested source (made nested source)) (members : List (Content × Source)) :
    Yields (valueOver (some nested)) (.object members)
      ((foldMembers (storeValue nested) members []).map fun taken => .object taken.reverse) := by
  rintro gap text rest gapBlank ⟨inner, blanks, membersSpell, allBlank, rfl⟩ ends
  have read : run? (List.reverse <$> Decoder.members (fun name taken => do
        colon
        let value ← nested
        pure ((name, value) :: taken)) []) (inner ++ (blanks ++ ascii '\x7d' :: rest)) =
      ((foldMembers (storeValue nested) members []).map List.reverse).map (·, ascii '\x7d' :: rest) := by
    rw [run?_map, run?_members (storeValue nested) (fun entry _ name taken =>
      yieldsMember_colon (settled entry.2) fun value => (name, value) :: taken) membersSpell allBlank,
      Option.map_map, Option.map_map]
    rfl
  rw [List.cons_append, valueOver, run?_bind, run?_of_ok (found_brace gapBlank)]
  change run? (Json.object <$> inObject _) (inner ++ (blanks ++ [ascii '\x7d']) ++ rest) = _
  rw [run?_map, List.append_assoc, List.append_assoc, List.singleton_append, run?_inObject read,
    Option.map_map, Option.map_map, Option.map_map]
  rfl

theorem decided_value : Decided value := by
  intro depth
  induction depth with
  | zero => exact fun source => (yields_valueOver_none source).made
  | succ depth ih =>
    intro source
    cases source with
    | scalar token => exact (yields_valueOver_scalar _ token).made
    | array items => exact (yields_valueOver_array ih items).made
    | object members => exact (yields_valueOver_object ih members).made

theorem made_value_scalar (token : Token) :
    made (value depth) (.scalar token) = token.found?.bind scalarOf := by
  cases depth <;> exact (yields_valueOver_scalar _ token).made_eq

theorem made_value_array (items : List Source) :
    made (value depth) (.array items) =
      descend depth fun depth => (items.mapM (made (value depth))).map .array := by
  cases depth with
  | zero => exact (yields_valueOver_none _).made_eq
  | succ depth => exact (yields_valueOver_array (decided_value depth) items).made_eq

def entry (depth : Nat) (member : Content × Source) : Option (String × Json) :=
  member.1.string?.bind fun name => (made (value depth) member.2).map (name, ·)

theorem foldMembers_storeValue (members : List (Content × Source)) (taken : List (String × Json)) :
    foldMembers (storeValue (value depth)) members taken =
      (members.mapM (entry depth)).map fun entries => entries.reverse ++ taken := by
  induction members generalizing taken with
  | nil => rfl
  | cons member members ih =>
    rw [foldMembers_cons, List.mapM_cons, entry]
    cases member.1.string? with
    | none => rfl
    | some name =>
      simp only [Option.bind_some, storeValue]
      cases made (value depth) member.2 with
      | none => rfl
      | some json =>
        refine (ih _).trans ?_
        simp only [Option.map_some, Option.bind_eq_bind, Option.bind_some]
        cases members.mapM (entry depth) <;> simp

theorem made_value_object (members : List (Content × Source)) :
    made (value depth) (.object members) =
      descend depth fun depth => (members.mapM (entry depth)).map .object := by
  cases depth with
  | zero => exact (yields_valueOver_none _).made_eq
  | succ depth =>
    refine (yields_valueOver_object (decided_value depth) members).made_eq.trans ?_
    rw [foldMembers_storeValue, descend, Option.map_map]
    congr 1
    funext entries
    simp

/-! ### Tagged values -/

theorem descend_bind {β : Type} (inner : Nat → Option α) (next : α → Option β) :
    (descend depth inner).bind next = descend depth fun depth => (inner depth).bind next := by
  cases depth <;> rfl

def wordOf (cases : List (String × α)) : Json → Option α
  | .string word => cases.lookup word
  | _ => none

theorem made_caseName (cases : List (String × α)) :
    made (caseName cases depth) source = (made (value depth) source).bind (wordOf cases) := by
  rw [(yields_caseName cases).made_eq]
  cases source with
  | scalar token =>
    rw [made_value_scalar, Source.found?]
    cases token.found? with
    | none => rfl
    | some value =>
      cases value with
      | string word =>
        simp only [Option.bind_some, accepted, scalarOf, wordOf]
        cases cases.lookup word <;> rfl
      | _ => rfl
  | array items =>
    rw [made_value_array]
    cases depth with
    | zero => rfl
    | succ depth =>
      rw [descend]
      cases items.mapM (made (value depth)) <;> rfl
  | object members =>
    rw [made_value_object]
    cases depth with
    | zero => rfl
    | succ depth =>
      rw [descend]
      cases members.mapM (entry depth) <;> rfl

/-- Takes the case out of the entries, where it has to stand once. -/
def sortEntries (tag : String) (caseOf : Json → Option α) :
    Option α → List (String × Json) → Option (α × List (String × Json))
  | case?, [] => case?.map (·, [])
  | case?, (name, json) :: entries =>
    if name = tag then
      if case?.isSome then none
      else (caseOf json).bind fun case => sortEntries tag caseOf (some case) entries
    else (sortEntries tag caseOf case? entries).map fun sorted => (sorted.1, (name, json) :: sorted.2)

def sorted (tag : String) (caseOf : Json → Option α) : Json → Option (α × Json)
  | .array (first :: others) => (caseOf first).map (·, .array others)
  | .object entries => (sortEntries tag caseOf none entries).map fun sorted => (sorted.1, .object sorted.2)
  | _ => none

def storeSorted (tag : String) (cases : List (String × α)) (depth : Nat) (name : String) (source : Source)
    (state : Option α × List (String × Json)) : Option (Option α × List (String × Json)) :=
  if name = tag then
    if state.1.isSome then none
    else (made (caseName cases depth) source).map fun case => (some case, state.2)
  else (made (value depth) source).map fun value => (state.1, (name, value) :: state.2)

theorem yieldsMember_sortMember {tag : String} {cases : List (String × α)} (name : String)
    (state : Option α × List (String × Json)) :
    YieldsMember (sortMember tag cases depth name state) source
      (storeSorted tag cases depth name source state) := by
  unfold sortMember storeSorted
  by_cases isTag : name = tag
  · rw [if_pos isTag, if_pos (beq_iff_eq.mpr isTag)]
    split
    · exact fun gap blanks text rest _ _ _ _ => rfl
    · exact yieldsMember_colon (decided_caseName cases depth source) fun case => (some case, state.2)
  · rw [if_neg isTag, if_neg (mt beq_iff_eq.mp isTag)]
    exact yieldsMember_colon (decided_value depth source) fun value => (state.1, (name, value) :: state.2)

/-- The members can be read as values before the case is taken out of them. -/
theorem foldMembers_storeSorted (depth : Nat) (tag : String) (cases : List (String × α))
    (members : List (Content × Source)) (state : Option α × List (String × Json)) :
    ((foldMembers (storeSorted tag cases depth) members state).bind fun state =>
      state.1.map (·, state.2.reverse)) =
      (members.mapM (entry depth)).bind fun entries =>
        (sortEntries tag (wordOf cases) state.1 entries).map fun sorted =>
          (sorted.1, state.2.reverse ++ sorted.2) := by
  induction members generalizing state with
  | nil =>
    simp only [foldMembers_nil, List.mapM_nil, Option.pure_def, Option.bind_some, sortEntries]
    cases state.1 <;> simp
  | cons member members ih =>
    rw [foldMembers_cons, List.mapM_cons, entry]
    cases member.1.string? with
    | none => rfl
    | some name =>
      rw [Option.bind_some, Option.bind_some, Option.bind_assoc]
      cases read : made (value depth) member.2 with
      | none => simp [storeSorted, made_caseName, read]
      | some json =>
        simp only [Option.map_some, Option.bind_eq_bind, Option.bind_some, Option.bind_assoc,
          Option.pure_def]
        by_cases isTag : name = tag
        · simp only [storeSorted, sortEntries, made_caseName, read, isTag, if_true, Option.bind_some]
          by_cases given : state.1.isSome
          · simp [given]
          · cases wordOf cases json with
            | none => simp [given]
            | some case => simpa [given] using ih (some case, state.2)
        · simp only [storeSorted, sortEntries, read, isTag, if_false, Option.map_some, Option.bind_some]
          refine (ih _).trans ?_
          simp [Function.comp_def]

theorem sorted_members (depth : Nat) (tag : String) (cases : List (String × α))
    (members : List (Content × Source)) :
    ((members.mapM (entry depth)).map object).bind (sorted tag (wordOf cases)) =
      ((foldMembers (storeSorted tag cases depth) members (none, [])).bind fun state =>
        state.1.map (·, state.2.reverse)).map fun sorted => (sorted.1, object sorted.2) := by
  have same := foldMembers_storeSorted depth tag cases members (none, [])
  simp only [List.reverse_nil, List.nil_append, Option.map_id_fun', id_eq] at same
  rw [same, Option.bind_map, Option.map_bind]
  rfl

theorem run?_taggedItems (tag : String) (cases : List (String × α)) {items : List Source}
    {inner : List UInt8} (spells : SpellsItems true items inner) (allBlank : AllBlank blanks)
    (rest : List UInt8) :
    run? (do
      if ← hasItem true then
        let case ← caseName cases depth
        let others ← Decoder.items (value depth) false
        pure (case, Json.array others)
      else raise (.missingMember tag)) (inner ++ (blanks ++ ascii ']' :: rest)) =
      ((items.mapM (made (value depth))).bind fun values => sorted tag (wordOf cases) (.array values)).map
        (·, ascii ']' :: rest) := by
  cases items with
  | nil =>
    obtain rfl := spells
    rw [List.nil_append, run?_bind, run?_of_ok (hasItem_close true allBlank)]
    rfl
  | cons item items =>
    obtain ⟨before, gap, body, more, beforeBlank, gapBlank, bodySpells, moreSpells, rfl⟩ := spells
    have taken := decided_caseName cases depth item [] body _ allBlank_nil bodySpells
      (ends_spellsItems moreSpells allBlank rest)
    have onward := run?_items (fun source _ => decided_value depth source) moreSpells allBlank rest
    obtain ⟨byte, tail, rfl, starts⟩ := starts_of_spells bodySpells
    simp only [List.append_assoc, List.cons_append, List.nil_append] at taken ⊢
    rw [run?_bind, run?_of_ok (hasItem_cons true beforeBlank gapBlank (item.isBlank_of_starts starts)
      (item.ne_bracket_of_starts starts)), Option.bind_some]
    simp only [if_true, run?_bind, taken, made_caseName, List.mapM_cons, Option.bind_eq_bind,
      Option.bind_assoc]
    cases made (value depth) item with
    | none => rfl
    | some first =>
      simp only [Option.bind_some]
      cases chosen : wordOf cases first with
      | none =>
        cases items.mapM (made (value depth)) <;> simp [sorted, chosen]
      | some case =>
        simp only [Option.map_some, Option.bind_some, onward]
        cases items.mapM (made (value depth)) <;> simp [sorted, chosen]

/-- A tagged value is read as a value first. -/
theorem yields_tagged {expected tag : String} (cases : List (String × α)) :
    Yields (tagged expected tag cases depth) source
      ((made (value depth) source).bind (sorted tag (wordOf cases))) := by
  refine yields_peek fun byte more rest starts spells ends => ?_
  cases source with
  | scalar token =>
    obtain ⟨noBracket, noBrace⟩ := Token.ne_brackets_of_starts starts
    simp only [beq_iff_eq, Option.some.injEq, noBracket, noBrace, if_false]
    rw [run?_wrongType, made_value_scalar]
    cases found : token.found? with
    | none => rfl
    | some value =>
      have flat := found_token found
      cases value with
      | array => exact flat.elim
      | object => exact flat.elim
      | _ => rfl
  | array items =>
    obtain rfl := List.mem_singleton.mp starts
    rw [made_value_array, descend_bind]
    refine run?_enterArray _ spells fun depth inner blanks itemsSpell allBlank => run?_inArray ?_
    rw [Option.bind_map]
    exact run?_taggedItems tag cases itemsSpell allBlank rest
  | object members =>
    obtain rfl := List.mem_singleton.mp starts
    rw [made_value_object, descend_bind]
    refine run?_enterObject _ spells fun depth inner blanks membersSpell allBlank => run?_inObject ?_
    have read := run?_members (storeSorted tag cases depth)
      (fun _ _ name state => yieldsMember_sortMember name state) membersSpell allBlank (none, []) rest
    refine (run?_bind _ _).trans ((congrArg (Option.bind · _) read).trans ?_)
    rw [sorted_members]
    cases foldMembers (storeSorted tag cases depth) members (none, []) with
    | none => rfl
    | some state =>
      obtain ⟨case?, taken⟩ := state
      cases case? <;> rfl

end PropertyAudit.Json
