import PropertyAudit.Proofs.Json.Passing
import PropertyAudit.Proofs.Json.SteadyDecoders

/-! What readers make of the trees of texts. It is the same for all texts of a tree, and what a decoder makes
of an array or object is told by what it makes of the values inside. -/
namespace PropertyAudit.Json

open Reader Decoder

variable {α β σ : Type} {blanks bytes rest text : List UInt8} {byte : UInt8} {first : Bool}
  {source : Source} {depth : Nat}

/-- Whether this is what the reader makes of the tree, whatever its text, blanks before it included. -/
def Yields (reader : Reader α) (source : Source) (outcome : Option α) : Prop :=
  ∀ blanks text rest, AllBlank blanks → Spells source text → Ends rest →
    run? reader (blanks ++ (text ++ rest)) = outcome.map (·, rest)

def made (reader : Reader α) (source : Source) : Option α := (run? reader source.text).map (·.1)

theorem Yields.made_eq {reader : Reader α} {outcome : Option α} (yields : Yields reader source outcome) :
    made reader source = outcome := by
  have read := yields [] _ [] allBlank_nil (spells_text source) ends_nil
  rw [List.nil_append, List.append_nil] at read
  rw [made, read]
  cases outcome <;> rfl

/-- Whether what the decoder makes of a tree does not depend on the text. -/
def Decided (decoder : Decoder α) : Prop :=
  ∀ depth source, Yields (decoder depth) source (made (decoder depth) source)

theorem made_map {reader : Reader α} (convert : α → β) :
    made (convert <$> reader) source = (made reader source).map convert := by
  rw [made, run?_map, made, Option.map_map, Option.map_map]
  rfl

theorem Yields.made {reader : Reader α} {outcome : Option α} (yields : Yields reader source outcome) :
    Yields reader source (Json.made reader source) := yields.made_eq ▸ yields

theorem Yields.map {reader : Reader α} {outcome : Option α} (yields : Yields reader source outcome)
    (convert : α → β) : Yields (convert <$> reader) source (outcome.map convert) := by
  intro blanks text rest allBlank spells ends
  rw [run?_map, yields blanks text rest allBlank spells ends]
  cases outcome <;> rfl

theorem Yields.bind {reader : Reader α} {outcome : Option α} (yields : Yields reader source outcome)
    (next : α → Except Cause β) : Yields (reader >>= fun value => raiseError (next value)) source
      (outcome.bind fun value => (next value).toOption) := by
  intro blanks text rest allBlank spells ends
  rw [run?_bind, yields blanks text rest allBlank spells ends]
  cases outcome with
  | none => rfl
  | some value => exact run?_raiseError _

/-! ### Looking at the first byte -/

theorem run?_peekToken (next : Option UInt8 → Reader α) (allBlank : AllBlank blanks)
    (notBlank : isBlank byte = false) :
    run? (nextToken? >>= next) (blanks ++ byte :: rest) = run? (next (some byte)) (byte :: rest) := by
  rw [run?_bind, run?_of_ok (nextToken?_append allBlank notBlank), Option.bind_some]

theorem run?_skipBlanks (next : Option UInt8 → Reader α) (allBlank : AllBlank blanks)
    (bytes : List UInt8) :
    run? (nextToken? >>= next) (blanks ++ bytes) = run? (nextToken? >>= next) bytes := by
  rw [run?_bind, run?_bind, run?_nextToken?, run?_nextToken?, dropBlanks_allBlank allBlank]

theorem yields_peek {next : Option UInt8 → Reader α} {outcome : Option α}
    (here : ∀ byte more rest, byte ∈ source.starters → Spells source (byte :: more) → Ends rest →
      run? (next (some byte)) (byte :: (more ++ rest)) = outcome.map (·, rest)) :
    Yields (nextToken? >>= next) source outcome := by
  intro blanks text rest allBlank spells ends
  obtain ⟨byte, more, rfl, starts⟩ := starts_of_spells spells
  rw [List.cons_append, run?_peekToken next allBlank (source.isBlank_of_starts starts)]
  exact here byte more rest starts spells ends

/-! ### Scalars -/

def Source.found? : Source → Option Found
  | .scalar token => token.found?
  | .array _ => some .array
  | .object _ => some .object

theorem yields_found (token : Token) : Yields Decoder.found (.scalar token) token.found? := by
  rintro blanks text rest allBlank rfl ends
  exact (run?_skipBlanks _ allBlank _).trans (run?_found token ends)

theorem run?_wrongType (expected : String) (bytes : List UInt8) :
    run? (wrongType expected : Reader α) bytes = none := by
  rw [wrongType, run?_bind]
  exact Option.bind_fun_none _

def accepted (accept : Found → Option (Except Cause α)) (value : Found) : Option α :=
  (accept value).bind Except.toOption

theorem run?_accept (expected : String) (accept : Found → Option (Except Cause α)) (value : Found) :
    run? (match accept value with
      | some (.ok value) => pure value
      | some (.error cause) => fail cause
      | none => fail (.wrongType value expected) : Reader α) rest =
      (accepted accept value).map (·, rest) := by
  unfold accepted
  cases accept value with
  | none => rfl
  | some result => cases result <;> rfl

/-- Scalars only are taken. -/
theorem yields_scalar {expected : String} {accept : Found → Option (Except Cause α)}
    (noArray : accepted accept .array = none) (noObject : accepted accept .object = none) :
    Yields (scalar expected accept depth) source (source.found?.bind (accepted accept)) := by
  intro blanks text rest allBlank spells ends
  rw [scalar, run?_bind]
  cases source with
  | scalar token =>
    rw [yields_found token blanks text rest allBlank spells ends, Source.found?]
    cases token.found? with
    | none => rfl
    | some value => exact run?_accept expected accept value
  | array items =>
    obtain ⟨inner, gap, -, -, rfl⟩ := spells
    rw [List.cons_append, run?_of_ok (found_bracket allBlank), Option.bind_some]
    exact (run?_accept expected accept .array).trans (by simp [Source.found?, noArray])
  | object members =>
    obtain ⟨inner, gap, -, -, rfl⟩ := spells
    rw [List.cons_append, run?_of_ok (found_brace allBlank), Option.bind_some]
    exact (run?_accept expected accept .object).trans (by simp [Source.found?, noObject])

theorem yields_caseName (cases : List (String × α)) : Yields (caseName cases depth) source
    (source.found?.bind (accepted fun
      | .string word =>
        match cases.lookup word with
        | some value => some (.ok value)
        | none => some (.error (.unknownWord word (cases.map (·.1))))
      | _ => none)) :=
  yields_scalar rfl rfl

theorem decided_scalar {expected : String} {accept : Found → Option (Except Cause α)}
    (noArray : accepted accept .array = none) (noObject : accepted accept .object = none) :
    Decided (scalar expected accept) :=
  fun _ _ => (yields_scalar noArray noObject).made

theorem starters_null {token : Token} (starts : ascii 'n' ∈ token.starters) : token = .null := by
  cases token with
  | null => rfl
  | _ => exact absurd starts (of_decide_eq_true rfl)

def Source.isNull : Source → Bool
  | .scalar .null => true
  | _ => false

theorem Source.eq_of_isNull (isNull : source.isNull) : source = .scalar .null := by
  unfold Source.isNull at isNull
  split at isNull
  · rfl
  · cases isNull

theorem Source.isNull_of_starts (starts : ascii 'n' ∈ source.starters) : source.isNull := by
  cases source with
  | scalar token => rw [starters_null starts, isNull]
  | array items => exact absurd starts (of_decide_eq_true rfl)
  | object members => exact absurd starts (of_decide_eq_true rfl)

/-- Null alone stands for nothing. -/
theorem yields_optional {item : Decoder α} (decided : Decided item) :
    Yields (Decoder.optional item depth) source
      (if source.isNull then some none else (made (item depth) source).map some) := by
  refine yields_peek fun byte more rest starts spells ends => ?_
  by_cases isNull : source.isNull
  · obtain rfl := Source.eq_of_isNull isNull
    obtain rfl : byte = ascii 'n' := List.mem_singleton.mp starts
    obtain rfl : more = Text.bytes "ull" := (List.cons.inj spells).2
    exact run?_of_ok (run_announced_word _ _ rest _)
  · have other : byte ≠ ascii 'n' := fun same => isNull (Source.isNull_of_starts (same ▸ starts))
    have taken := (decided depth source).map some [] (byte :: more) rest allBlank_nil spells ends
    rw [if_neg isNull]
    simp only [beq_iff_eq, Option.some.injEq, other, if_false]
    exact taken

theorem decided_optional {item : Decoder α} (decided : Decided item) : Decided (Decoder.optional item) :=
  fun _ _ => (yields_optional decided).made

/-! ### Arrays -/

def descend (depth : Nat) (inner : Nat → Option α) : Option α :=
  match depth with
  | 0 => none
  | depth + 1 => inner depth

@[simp] theorem descend_none : descend depth (fun _ => none : Nat → Option α) = none := by
  cases depth <;> rfl

def Source.structured (ofItems : List Source → Nat → Option α)
    (ofMembers : List (Content × Source) → Nat → Option α) (depth : Nat) : Source → Option α
  | .scalar _ => none
  | .array items => descend depth (ofItems items)
  | .object members => descend depth (ofMembers members)

theorem run?_inside (close : Reader Unit) (after : List UInt8 → List UInt8) (body : Reader α) :
    run? (inside close after body) bytes =
      (run? body bytes).bind fun taken => (run? close taken.2).map fun closed => (taken.1, closed.2) := by
  unfold run? inside
  cases body bytes with
  | error fault =>
    dsimp only
    split <;> rfl
  | ok taken =>
    cases closed : close taken.2 with
    | error fault =>
      simp only [run_bind_error closed, Except.toOption, Option.bind_some, closed]
      rfl
    | ok after =>
      simp only [run_bind closed, Except.toOption, Option.bind_some, closed]
      rfl

theorem hasItem_cons (first : Bool) {before : List UInt8} (beforeBlank : AllBlank before)
    (allBlank : AllBlank blanks) (notBlank : isBlank byte = false) (notClosing : byte ≠ ascii ']') :
    hasItem first (before ++ (separator first ++ (blanks ++ byte :: rest))) =
      .ok (true, byte :: rest) := by
  cases first with
  | true =>
    have bothBlank : AllBlank (before ++ blanks) := allBlank_append beforeBlank allBlank
    rw [separator_true, List.nil_append, ← List.append_assoc, hasItem,
      run_bind (nextToken?_append bothBlank notBlank)]
    simp only [beq_iff_eq, notClosing, if_false, if_true]
    rfl
  | false =>
    rw [separator_false, List.singleton_append, hasItem,
      run_bind (nextToken?_append beforeBlank (by decide))]
    change (skip >>= fun _ => _) _ = _
    rw [run_skip, List.tail_cons, run_bind (nextToken?_append allBlank notBlank)]
    simp only [beq_iff_eq, notClosing, if_false]
    rfl

theorem length_le_of_spellsItems {items : List Source} (spells : SpellsItems first items text) :
    items.length ≤ text.length := by
  induction items generalizing first text with
  | nil => exact Nat.zero_le _
  | cons item items ih =>
    obtain ⟨before, blanks, body, more, -, -, here, there, rfl⟩ := spells
    obtain ⟨byte, tail, rfl, -⟩ := starts_of_spells here
    have shorter := ih there
    simp only [List.length_append, List.length_cons]
    omega

theorem run?_itemsWithin {item : Reader α} {convert : Source → Option α} {items : List Source}
    (yields : ∀ source ∈ items, Yields item source (convert source))
    (spells : SpellsItems first items text) (allBlank : AllBlank blanks) (rest : List UInt8)
    {fuel : Nat} (enough : items.length < fuel) :
    run? (itemsWithin item fuel first) (text ++ (blanks ++ ascii ']' :: rest)) =
      (items.mapM convert).map (·, ascii ']' :: rest) := by
  induction items generalizing first text fuel with
  | nil =>
    obtain ⟨fuel, rfl⟩ := Nat.exists_eq_add_of_le' (Nat.zero_lt_of_lt enough)
    obtain rfl := spells
    rw [List.nil_append, itemsWithin, run?_bind, run?_of_ok (hasItem_close first allBlank)]
    rfl
  | cons source items ih =>
    obtain ⟨fuel, rfl⟩ := Nat.exists_eq_add_of_le' (Nat.zero_lt_of_lt enough)
    obtain ⟨here, others⟩ := List.forall_mem_cons.mp yields
    obtain ⟨before, gap, body, more, beforeBlank, gapBlank, bodySpells, moreSpells, rfl⟩ := spells
    have taken := here [] body _ allBlank_nil bodySpells (ends_spellsItems moreSpells allBlank rest)
    have onward := ih others moreSpells (Nat.lt_of_succ_lt_succ enough)
    obtain ⟨byte, tail, rfl, starts⟩ := starts_of_spells bodySpells
    simp only [List.append_assoc, List.cons_append, List.nil_append] at taken ⊢
    rw [itemsWithin, run?_bind, run?_of_ok (hasItem_cons first beforeBlank gapBlank
      (source.isBlank_of_starts starts) (source.ne_bracket_of_starts starts)), Option.bind_some]
    rw [List.mapM_cons]
    simp only [if_true, run?_bind, taken]
    cases convert source with
    | none => rfl
    | some value =>
      simp only [Option.map_some, Option.bind_some, onward]
      cases items.mapM convert <;> rfl

theorem run?_items {item : Reader α} {convert : Source → Option α} {items : List Source}
    (yields : ∀ source ∈ items, Yields item source (convert source))
    (spells : SpellsItems first items text) (allBlank : AllBlank blanks) (rest : List UInt8) :
    run? (Decoder.items item first) (text ++ (blanks ++ ascii ']' :: rest)) =
      (items.mapM convert).map (·, ascii ']' :: rest) := by
  refine run?_itemsWithin yields spells allBlank rest ?_
  have count := length_le_of_spellsItems spells
  rw [List.length_append]
  omega

theorem run?_inArray {body : Reader α} {value? : Option α} {inner : List UInt8}
    (read : run? body inner = value?.map (·, ascii ']' :: rest)) :
    run? (inArray body) inner = value?.map (·, rest) := by
  rw [inArray, run?_inside, read]
  cases value? with
  | none => rfl
  | some value => simp [run?_of_ok (closeArray_cons rest)]

/-- An array is entered, if it is not too deep. -/
theorem run?_enterArray {items : List Source} {more : List UInt8} {body : Nat → Reader α}
    (ofItems : Nat → Option α) (spells : Spells (.array items) (byte :: more))
    (read : ∀ depth inner blanks, SpellsItems true items inner → AllBlank blanks →
      run? (body depth) (inner ++ (blanks ++ ascii ']' :: rest)) = (ofItems depth).map (·, rest)) :
    run? (enter depth body) (byte :: (more ++ rest)) = (descend depth ofItems).map (·, rest) := by
  obtain ⟨inner, blanks, itemsSpell, allBlank, same⟩ := spells
  have onward : more ++ rest = inner ++ (blanks ++ ascii ']' :: rest) := by
    rw [(List.cons.inj same).2]
    simp
  cases depth with
  | zero => rfl
  | succ depth =>
    rw [onward]
    exact read depth inner blanks itemsSpell allBlank

theorem run?_enterObject {members : List (Content × Source)} {more : List UInt8} {body : Nat → Reader α}
    (ofMembers : Nat → Option α) (spells : Spells (.object members) (byte :: more))
    (read : ∀ depth inner blanks, SpellsMembers true members inner → AllBlank blanks →
      run? (body depth) (inner ++ (blanks ++ ascii '\x7d' :: rest)) = (ofMembers depth).map (·, rest)) :
    run? (enter depth body) (byte :: (more ++ rest)) = (descend depth ofMembers).map (·, rest) := by
  obtain ⟨inner, blanks, membersSpell, allBlank, same⟩ := spells
  have onward : more ++ rest = inner ++ (blanks ++ ascii '\x7d' :: rest) := by
    rw [(List.cons.inj same).2]
    simp
  cases depth with
  | zero => rfl
  | succ depth =>
    rw [onward]
    exact read depth inner blanks membersSpell allBlank

theorem yields_list {item : Decoder α} (decided : Decided item) :
    Yields (list item depth) source (source.structured
      (fun items depth => items.mapM (made (item depth))) (fun _ _ => none) depth) := by
  refine yields_peek fun byte more rest starts spells ends => ?_
  cases source with
  | scalar token =>
    have noBracket := (Token.ne_brackets_of_starts starts).1
    simp only [beq_iff_eq, Option.some.injEq, noBracket, if_false]
    exact run?_wrongType _ _
  | array items =>
    obtain rfl := List.mem_singleton.mp starts
    refine run?_enterArray _ spells fun depth inner blanks itemsSpell allBlank => run?_inArray ?_
    exact run?_items (fun source _ => decided depth source) itemsSpell allBlank rest
  | object members =>
    obtain rfl := List.mem_singleton.mp starts
    rw [Source.structured, descend_none]
    exact run?_wrongType _ _

theorem decided_list {item : Decoder α} (decided : Decided item) : Decided (list item) :=
  fun _ _ => (yields_list decided).made

/-! ### Objects -/

theorem run?_inObject {body : Reader α} {value? : Option α} {inner : List UInt8}
    (read : run? body inner = value?.map (·, ascii '\x7d' :: rest)) :
    run? (inObject body) inner = value?.map (·, rest) := by
  rw [inObject, run?_inside, read]
  cases value? with
  | none => rfl
  | some value => simp [run?_of_ok (closeObject_cons rest)]

theorem run?_colon {gap : List UInt8} (gapBlank : AllBlank gap) (rest : List UInt8) :
    run? colon (gap ++ ascii ':' :: rest) = some ((), rest) := by
  rw [colon, run?_peekToken _ gapBlank (by decide)]
  rfl

/-- The name of a member is taken if it spells a string. -/
theorem run?_memberName? (first : Bool) {before : List UInt8} (beforeBlank : AllBlank before)
    (allBlank : AllBlank blanks) (name : Content) (rest : List UInt8) :
    run? (memberName? first) (before ++ (separator first ++ (blanks ++ (name.text ++ rest)))) =
      name.string?.map (some ·, rest) := by
  have taken : run? (nameFrom (ascii '"')) (name.text ++ rest) = name.string?.map (some ·, rest) := by
    change run? (some <$> stringTail) (name.closed ++ rest) = _
    rw [run?_map, run?_stringTail, Option.map_map]
    rfl
  rw [Content.text, List.cons_append] at taken ⊢
  cases first with
  | true =>
    have bothBlank : AllBlank (before ++ blanks) := allBlank_append beforeBlank allBlank
    rw [separator_true, List.nil_append, ← List.append_assoc, memberName?_eq,
      run?_peekToken _ bothBlank (by decide)]
    exact taken
  | false =>
    rw [separator_false, List.singleton_append, memberName?_eq,
      run?_peekToken _ beforeBlank (by decide)]
    change run? (skip >>= fun _ => _) _ = _
    rw [run?_bind, run?_skip, Option.bind_some, List.tail_cons, run?_peekToken _ allBlank (by decide)]
    exact taken

/-- What reading the members one after another comes to, `store` taking each after its name. -/
def foldMembers (store : String → Source → σ → Option σ) (members : List (Content × Source))
    (start : σ) : Option σ :=
  members.foldlM (fun state member => member.1.string?.bind fun name => store name member.2 state) start

@[simp] theorem foldMembers_nil (store : String → Source → σ → Option σ) (start : σ) :
    foldMembers store [] start = some start := rfl

@[simp] theorem foldMembers_cons (store : String → Source → σ → Option σ) (member : Content × Source)
    (members : List (Content × Source)) (start : σ) :
    foldMembers store (member :: members) start =
      (member.1.string?.bind fun name => store name member.2 start).bind (foldMembers store members) :=
  List.foldlM_cons

def YieldsMember (reader : Reader σ) (source : Source) (outcome : Option σ) : Prop :=
  ∀ gap blanks text rest, AllBlank gap → AllBlank blanks → Spells source text → Ends rest →
    run? reader (gap ++ ascii ':' :: (blanks ++ (text ++ rest))) = outcome.map (·, rest)

theorem yieldsMember_colon {reader : Reader α} {outcome : Option α} (yields : Yields reader source outcome)
    (next : α → σ) :
    YieldsMember (do colon; let value ← reader; pure (next value)) source (outcome.map next) := by
  intro gap blanks text rest gapBlank allBlank spells ends
  rw [run?_bind, run?_colon gapBlank, Option.bind_some, run?_bind,
    yields blanks text rest allBlank spells ends]
  cases outcome <;> rfl

theorem yieldsMember_passed (state : σ) :
    YieldsMember (do colon; passValue; pure state : Reader σ) source (some state) := by
  intro gap blanks text rest gapBlank allBlank spells ends
  rw [run?_bind, run?_colon gapBlank, Option.bind_some, run?_bind,
    run?_of_ok (passValue_spells allBlank spells ends)]
  rfl

theorem length_le_of_spellsMembers {members : List (Content × Source)}
    (spells : SpellsMembers first members text) : members.length ≤ text.length := by
  induction members generalizing first text with
  | nil => exact Nat.zero_le _
  | cons member members ih =>
    obtain ⟨_, _, _, _, _, _, -, -, -, -, -, there, rfl⟩ := spells
    have shorter := ih there
    simp only [List.length_append, List.length_cons]
    omega

theorem run?_membersWithin {member : String → σ → Reader σ} {store : String → Source → σ → Option σ}
    {members : List (Content × Source)}
    (yields : ∀ entry ∈ members, ∀ name state,
      YieldsMember (member name state) entry.2 (store name entry.2 state))
    (spells : SpellsMembers first members text) (allBlank : AllBlank blanks) (start : σ)
    (rest : List UInt8) {fuel : Nat} (enough : members.length < fuel) :
    run? (membersWithin member fuel first start) (text ++ (blanks ++ ascii '\x7d' :: rest)) =
      (foldMembers store members start).map (·, ascii '\x7d' :: rest) := by
  induction members generalizing first text fuel start with
  | nil =>
    obtain ⟨fuel, rfl⟩ := Nat.exists_eq_add_of_le' (Nat.zero_lt_of_lt enough)
    obtain rfl := spells
    rw [List.nil_append, membersWithin, run?_bind, run?_of_ok (memberName?_close first allBlank)]
    rfl
  | cons entry members ih =>
    obtain ⟨fuel, rfl⟩ := Nat.exists_eq_add_of_le' (Nat.zero_lt_of_lt enough)
    obtain ⟨here, others⟩ := List.forall_mem_cons.mp yields
    obtain ⟨before, inset, gap, after, body, more, beforeBlank, insetBlank, gapBlank, afterBlank,
      bodySpells, moreSpells, rfl⟩ := spells
    simp only [List.append_assoc, List.cons_append]
    rw [membersWithin, run?_bind, run?_memberName? first beforeBlank insetBlank, foldMembers_cons]
    cases entry.1.string? with
    | none => rfl
    | some name =>
      have taken := here name start gap after body _ gapBlank afterBlank bodySpells
        (ends_spellsMembers moreSpells allBlank rest)
      simp only [Option.map_some, Option.bind_some, run?_bind, taken]
      cases store name entry.2 start with
      | none => rfl
      | some state => exact ih others moreSpells state (Nat.lt_of_succ_lt_succ enough)

theorem run?_members {member : String → σ → Reader σ} (store : String → Source → σ → Option σ)
    {members : List (Content × Source)}
    (yields : ∀ entry ∈ members, ∀ name state,
      YieldsMember (member name state) entry.2 (store name entry.2 state))
    (spells : SpellsMembers true members text) (allBlank : AllBlank blanks) (start : σ)
    (rest : List UInt8) :
    run? (Decoder.members member start) (text ++ (blanks ++ ascii '\x7d' :: rest)) =
      (foldMembers store members start).map (·, ascii '\x7d' :: rest) := by
  refine run?_membersWithin yields spells allBlank start rest ?_
  have count := length_le_of_spellsMembers spells
  rw [List.length_append]
  omega

theorem run?_members_bind {member : String → σ → Reader σ} (store : String → Source → σ → Option σ)
    {members : List (Content × Source)}
    (yields : ∀ entry ∈ members, ∀ name state,
      YieldsMember (member name state) entry.2 (store name entry.2 state))
    (spells : SpellsMembers true members text) (allBlank : AllBlank blanks) (start : σ)
    (finish : σ → Except Cause α) (rest : List UInt8) :
    run? (Decoder.members member start >>= fun state => raiseError (finish state))
        (text ++ (blanks ++ ascii '\x7d' :: rest)) =
      ((foldMembers store members start).bind fun state => (finish state).toOption).map
        (·, ascii '\x7d' :: rest) := by
  rw [run?_bind, run?_members store yields spells allBlank]
  cases foldMembers store members start with
  | none => rfl
  | some state => exact run?_raiseError _

/-! ### Maps -/

def storeEntry (item : Reader α) (name : String) (source : Source) (taken : List (String × α)) :
    Option (List (String × α)) :=
  (made item source).map fun value => (name, value) :: taken.filter (·.1 != name)

theorem yields_map {item : Decoder α} (decided : Decided item) :
    Yields (map item depth) source (source.structured (fun _ _ => none)
      (fun members depth => (foldMembers (storeEntry (item depth)) members []).map List.reverse)
      depth) := by
  refine yields_peek fun byte more rest starts spells ends => ?_
  cases source with
  | scalar token =>
    have noBrace := (Token.ne_brackets_of_starts starts).2
    simp only [beq_iff_eq, Option.some.injEq, noBrace, if_false]
    exact run?_wrongType _ _
  | array items =>
    obtain rfl := List.mem_singleton.mp starts
    rw [Source.structured, descend_none]
    exact run?_wrongType _ _
  | object members =>
    obtain rfl := List.mem_singleton.mp starts
    refine run?_enterObject _ spells fun depth inner blanks membersSpell allBlank => run?_inObject ?_
    rw [run?_map, run?_members (storeEntry (item depth)) (fun entry _ name taken =>
      yieldsMember_colon (decided depth entry.2) fun value => (name, value) :: taken.filter (·.1 != name))
      membersSpell allBlank, Option.map_map, Option.map_map]
    rfl

theorem decided_map {item : Decoder α} (decided : Decided item) : Decided (map item) :=
  fun _ _ => (yields_map decided).made

/-! ### Records -/

/-- What a record makes of the items of an array, one for each field and none for fields at the end that may
be missing. -/
def fillInOrder (depth : Nat) : List (RecordField σ) → List Source → σ → Option σ
  | [], [], state => some state
  | [], _ :: _, _ => none
  | field :: fields, [], state => if field.optional then fillInOrder depth fields [] state else none
  | field :: fields, item :: items, state =>
    (made (field.read depth) item).bind fun store => fillInOrder depth fields items (store state)

/-- What a record makes of a member. Unknown ones are ignored, repeated ones refused. -/
def storeField (fields : List (RecordField σ)) (depth : Nat) (name : String) (source : Source)
    (state : σ) : Option σ :=
  match fields.find? (·.name == name) with
  | none => some state
  | some field =>
    if field.isGiven state then none else (made (field.read depth) source).map (· state)

theorem yieldsMember_storeMember {fields : List (RecordField σ)}
    (decided : ∀ field ∈ fields, Decided field.read) (name : String) (state : σ) :
    YieldsMember (storeMember fields depth name state) source
      (storeField fields depth name source state) := by
  unfold storeMember storeField
  cases found : fields.find? (·.name == name) with
  | none => exact yieldsMember_passed state
  | some field =>
    have among := List.mem_of_find?_eq_some found
    dsimp only
    split
    · exact fun gap blanks text rest _ _ _ _ => rfl
    · exact yieldsMember_colon (decided field among depth source) (· state)

theorem run?_closeArray (allBlank : AllBlank blanks) (rest : List UInt8) :
    run? closeArray (blanks ++ ascii ']' :: rest) = some ((), rest) := by
  rw [closeArray, run?_peekToken _ allBlank (by decide)]
  rfl

/-- An array with items left is not closed. -/
theorem run?_closeArray_cons {item : Source} {items : List Source}
    (spells : SpellsItems first (item :: items) text) (rest : List UInt8) :
    run? closeArray (text ++ rest) = none := by
  obtain ⟨before, gap, body, more, beforeBlank, gapBlank, bodySpells, -, rfl⟩ := spells
  obtain ⟨byte, tail, rfl, starts⟩ := starts_of_spells bodySpells
  rw [closeArray]
  cases first with
  | true =>
    have bothBlank : AllBlank (before ++ gap) := allBlank_append beforeBlank gapBlank
    have noBracket := item.ne_bracket_of_starts starts
    have noComma := item.ne_comma_of_starts starts
    rw [separator_true, List.nil_append, ← List.append_assoc before, List.append_assoc, List.cons_append,
      List.cons_append, run?_peekToken _ bothBlank (item.isBlank_of_starts starts)]
    simp [noBracket, noComma, run?_failNext]
  | false =>
    rw [List.append_assoc, separator_false, List.singleton_append, List.cons_append,
      run?_peekToken _ beforeBlank (by decide)]
    change run? (skip >>= fun _ => _) _ = _
    rw [run?_bind, run?_skip, Option.bind_some, run?_bind, run?_nextToken?, Option.bind_some]
    split <;> rfl

theorem run?_fieldsInOrder {expected : String} {count depth : Nat} {fields : List (RecordField σ)}
    (decided : ∀ field ∈ fields, Decided field.read) {items : List Source} (index : Nat)
    (spells : SpellsItems first items text) (allBlank : AllBlank blanks) (state : σ)
    (finish : σ → Except Cause α) (rest : List UInt8) :
    ((run? (fieldsInOrder expected count depth fields index first state)
        (text ++ (blanks ++ ascii ']' :: rest))).bind fun taken =>
      (finish taken.1).toOption.bind fun value =>
        (run? closeArray taken.2).map fun closed => (value, closed.2)) =
      ((fillInOrder depth fields items state).bind fun state => (finish state).toOption).map (·, rest) := by
  induction fields generalizing first text blanks items index state with
  | nil =>
    rw [fieldsInOrder, run?_pure, Option.bind_some]
    cases items with
    | nil =>
      obtain rfl := spells
      rw [List.nil_append, run?_closeArray allBlank, fillInOrder, Option.bind_some]
      cases (finish state).toOption <;> rfl
    | cons item items =>
      rw [run?_closeArray_cons spells, fillInOrder]
      cases (finish state).toOption <;> rfl
  | cons field fields ih =>
    obtain ⟨here, others⟩ := List.forall_mem_cons.mp decided
    cases items with
    | nil =>
      obtain rfl := spells
      rw [List.nil_append, fieldsInOrder, run?_bind, run?_of_ok (hasItem_close first allBlank),
        Option.bind_some, fillInOrder]
      by_cases optional : field.optional
      · have onward := ih others (index + 1) (show SpellsItems first [] [] from rfl) allBlank_nil state
        simpa [optional] using onward
      · simp [optional, run?_raise]
    | cons item items =>
      obtain ⟨before, gap, body, more, beforeBlank, gapBlank, bodySpells, moreSpells, rfl⟩ := spells
      have taken := here depth item [] body _ allBlank_nil bodySpells
        (ends_spellsItems moreSpells allBlank rest)
      obtain ⟨byte, tail, rfl, starts⟩ := starts_of_spells bodySpells
      simp only [List.append_assoc, List.cons_append, List.nil_append] at taken ⊢
      rw [fieldsInOrder, run?_bind, run?_of_ok (hasItem_cons first beforeBlank gapBlank
        (item.isBlank_of_starts starts) (item.ne_bracket_of_starts starts)), Option.bind_some]
      simp only [if_true, run?_bind, taken, fillInOrder]
      cases made (field.read depth) item with
      | none => rfl
      | some store => exact ih others (index + 1) moreSpells allBlank (store state)

theorem yields_record {expected : String} {fields : List (RecordField σ)}
    (decided : ∀ field ∈ fields, Decided field.read) (start : σ) (finish : σ → Except Cause α) :
    Yields (record expected fields start finish depth) source (source.structured
      (fun items depth =>
        (fillInOrder depth fields items start).bind fun state => (finish state).toOption)
      (fun members depth =>
        (foldMembers (storeField fields depth) members start).bind fun state => (finish state).toOption)
      depth) := by
  refine yields_peek fun byte more rest starts spells ends => ?_
  cases source with
  | scalar token =>
    obtain ⟨noBracket, noBrace⟩ := Token.ne_brackets_of_starts starts
    simp only [beq_iff_eq, Option.some.injEq, noBracket, noBrace, if_false]
    exact run?_wrongType _ _
  | array items =>
    obtain rfl := List.mem_singleton.mp starts
    refine run?_enterArray _ spells fun depth inner blanks itemsSpell allBlank => ?_
    change run? (inArray (fieldsInOrder expected fields.length depth fields 0 true start >>= fun state =>
      raiseError (finish state))) _ = _
    rw [inArray, run?_inside, run?_bind, Option.bind_assoc,
      ← run?_fieldsInOrder decided 0 itemsSpell allBlank start finish rest]
    simp only [run?_raiseError, Option.bind_map]
    rfl
  | object members =>
    obtain rfl := List.mem_singleton.mp starts
    refine run?_enterObject _ spells fun depth inner blanks membersSpell allBlank => run?_inObject ?_
    exact run?_members_bind (storeField fields depth)
      (fun entry _ name state => yieldsMember_storeMember decided name state) membersSpell allBlank start
      finish rest

theorem decided_record {expected : String} {fields : List (RecordField σ)}
    (decided : ∀ field ∈ fields, Decided field.read) (start : σ) (finish : σ → Except Cause α) :
    Decided (record expected fields start finish) :=
  fun _ _ => (yields_record decided start finish).made

theorem decided_field {item : Decoder α} {name : String} {get : σ → Option α} {set : α → σ → σ}
    {optional : Bool} (decided : Decided item) :
    Decided (RecordField.of name item get set optional).read :=
  fun depth source => ((decided depth source).map set).made

theorem made_field {item : Decoder α} (name : String) (get : σ → Option α) (set : α → σ → σ)
    (optional : Bool) :
    made ((RecordField.of name item get set optional).read depth) source =
      (made (item depth) source).map set :=
  made_map set

end PropertyAudit.Json
