import PropertyAudit.Proofs.Json.SteadyPassing
import PropertyAudit.Proofs.Json.Tokens

/-! Passing over the values of a text: whatever a tree holds, what is left is what follows its text. -/
namespace PropertyAudit.Json

open Reader Decoder

variable {blanks bytes rest text : List UInt8} {byte : UInt8} {first : Bool}

def passFrom (frames : List Frame) : Reader Unit := fun rest => passValueIn (rest.length + 1) frames rest

def passNext (acceptComma : Bool) (frames : List Frame) : Reader Unit := fun rest =>
  (passToValue (rest.length + 1) acceptComma frames >>= passOnward (rest.length + 1)) rest

/-! ### Fuel -/

theorem passValueIn_eq_passFrom {fuel : Nat} (frames : List Frame) (enough : bytes.length < fuel) :
    passValueIn fuel frames bytes = passFrom frames bytes :=
  (passValueIn_fuel frames (Nat.lt_succ_self _) enough).symm

theorem passNext_of_fuel {fuel more : Nat} {acceptComma : Bool} {frames : List Frame}
    (enough : bytes.length < fuel) (onward : bytes.length < more) :
    (passToValue fuel acceptComma frames >>= passOnward more) bytes =
      passNext acceptComma frames bytes := by
  have same := passToValue_fuel acceptComma frames (Nat.lt_succ_self bytes.length) enough
  unfold passNext
  cases read : passToValue (bytes.length + 1) acceptComma frames bytes with
  | error fault => rw [run_bind_error read, run_bind_error (same ▸ read)]
  | ok taken =>
    obtain ⟨after, later⟩ := taken
    have shrinks := (steady_passToValue _ _ _).shrinks read
    rw [run_bind read, run_bind (same ▸ read)]
    unfold passOnward
    split
    · rfl
    · rw [passValueIn_eq_passFrom _ (Nat.lt_of_le_of_lt shrinks onward),
        passValueIn_eq_passFrom _ (Nat.lt_succ_of_le shrinks)]

/-! ### Steps -/

theorem dropBlanks_allBlank (allBlank : AllBlank blanks) (bytes : List UInt8) :
    dropBlanks (blanks ++ bytes) = dropBlanks bytes :=
  List.dropWhile_append_of_pos allBlank

theorem passFrom_blanks (frames : List Frame) (allBlank : AllBlank blanks) (bytes : List UInt8) :
    passFrom frames (blanks ++ bytes) = passFrom frames bytes := by
  have enough : bytes.length < (blanks ++ bytes).length + 1 := by
    rw [List.length_append]
    omega
  rw [← passValueIn_eq_passFrom frames enough, passFrom, passValueIn_succ, run_nextToken?,
    run_nextToken?, dropBlanks_allBlank allBlank]

theorem passFrom_bracket (frames : List Frame) (rest : List UInt8) :
    passFrom frames (ascii '[' :: rest) = passNext false (.array :: frames) rest := by
  rw [passFrom, passValueIn_succ, run_bind (nextToken?_cons (by decide))]
  exact passNext_of_fuel (Nat.lt_succ_of_lt (Nat.lt_succ_self _)) (Nat.lt_succ_self _)

theorem passFrom_brace (frames : List Frame) (rest : List UInt8) :
    passFrom frames (ascii '\x7b' :: rest) = passNext false (.object :: frames) rest := by
  rw [passFrom, passValueIn_succ, run_bind (nextToken?_cons (by decide))]
  exact passNext_of_fuel (Nat.lt_succ_of_lt (Nat.lt_succ_self _)) (Nat.lt_succ_self _)

theorem passFrom_token (frames : List Frame) (token : Token) (ends : Ends rest) :
    passFrom frames (token.text ++ rest) = passNext true frames rest := by
  obtain ⟨byte, more, text, starts⟩ := token.starts
  have notBlank : isBlank byte = false := (Source.scalar token).isBlank_of_starts starts
  obtain ⟨noBracket, noBrace⟩ := Token.ne_brackets_of_starts starts
  have passed := run?_eq_some_iff.mp (run?_passScalar token ends text)
  rw [text, List.cons_append] at passed ⊢
  rw [passFrom, passValueIn_succ, run_bind (nextToken?_cons notBlank)]
  simp only [beq_iff_eq, noBracket, noBrace, if_false]
  have shorter : rest.length < (byte :: (more ++ rest)).length := by
    rw [List.length_cons, List.length_append]
    omega
  rw [run_bind passed]
  exact passNext_of_fuel (Nat.lt_succ_of_lt shorter) shorter

theorem run_bind_congr {α β : Type} {reader other : Reader α} (next : α → Reader β)
    (same : reader bytes = other rest) : (reader >>= next) bytes = (other >>= next) rest := by
  simp only [bind, StateT.bind, same]

/-- A closing bracket ends the innermost frame. -/
theorem passNext_closing (acceptComma : Bool) (frame : Frame) (frames : List Frame)
    (allBlank : AllBlank blanks) :
    passNext acceptComma (frame :: frames) (blanks ++ closing frame :: rest) =
      passNext true frames rest := by
  have notBlank : isBlank (closing frame) = false := by cases frame <;> decide
  have notComma : (closing frame == ascii ',') = false := by cases frame <;> decide
  have shorter : rest.length < (blanks ++ closing frame :: rest).length := by
    rw [List.length_append, List.length_cons]
    omega
  refine (run_bind_congr _ ?_).trans (passNext_of_fuel shorter (Nat.lt_succ_of_lt shorter))
  rw [passToValue_cons, run_bind (nextToken?_append allBlank notBlank)]
  simp only [notComma, Bool.false_and, Bool.false_eq_true, if_false, beq_self_eq_true, if_true]
  rfl

/-- The next value stands in these frames, where it was found. -/
theorem passNext_of_found {acceptComma : Bool} {frame : Frame} {frames after : List Frame}
    (fewer : rest.length ≤ bytes.length)
    (found : passToValue (bytes.length + 1) acceptComma frames bytes = .ok (frame :: after, rest)) :
    passNext acceptComma frames bytes = passFrom (frame :: after) rest := by
  rw [passNext, run_bind found]
  exact passValueIn_eq_passFrom _ (Nat.lt_succ_of_le fewer)

theorem passToValue_first (fuel : Nat) (frame : Frame) (frames : List Frame) (allBlank : AllBlank blanks)
    (notBlank : isBlank byte = false) (notClosing : byte ≠ closing frame) :
    passToValue (fuel + 1) false (frame :: frames) (blanks ++ byte :: rest) =
      beforeValue frame frames (byte :: rest) := by
  rw [passToValue_cons, run_bind (nextToken?_append allBlank notBlank)]
  simp only [Bool.and_false, Bool.false_eq_true, if_false, beq_iff_eq, notClosing, atValue]

theorem passToValue_comma (fuel : Nat) (frame : Frame) (frames : List Frame) (allBlank : AllBlank blanks) :
    passToValue (fuel + 1) true (frame :: frames) (blanks ++ ascii ',' :: rest) =
      beforeValue frame frames rest := by
  rw [passToValue_cons, run_bind (nextToken?_append allBlank (by decide))]
  rfl

theorem passNext_item (first : Bool) (frames : List Frame) {before : List UInt8}
    (beforeBlank : AllBlank before) (allBlank : AllBlank blanks) (notBlank : isBlank byte = false)
    (notClosing : byte ≠ ascii ']') :
    passNext (!first) (.array :: frames) (before ++ (separator first ++ (blanks ++ byte :: rest))) =
      passFrom (.array :: frames) (byte :: rest) := by
  cases first with
  | true =>
    refine passNext_of_found ?_ ?_
    · simp only [List.length_append]
      omega
    · have bothBlank : AllBlank (before ++ blanks) := allBlank_append beforeBlank allBlank
      rw [separator_true, List.nil_append, ← List.append_assoc]
      exact passToValue_first _ .array frames bothBlank notBlank notClosing
  | false =>
    rw [← passFrom_blanks _ allBlank]
    refine passNext_of_found ?_ (passToValue_comma _ .array frames beforeBlank)
    simp only [separator_false, List.length_append, List.length_cons]
    omega

theorem run_passName {α : Type} (name : Content) (next : Unit → Reader α) (rest : List UInt8) :
    (bind (fun rest => passString rest.length rest : Reader Unit) next : Reader α) (name.closed ++ rest) =
      next () rest :=
  run_bind (run?_eq_some_iff.mp (run?_passString name rest))

theorem beforeValue_member (frames : List Frame) {gap : List UInt8} (allBlank : AllBlank blanks)
    (gapBlank : AllBlank gap) (name : Content) (rest : List UInt8) :
    beforeValue .object frames (blanks ++ (name.text ++ (gap ++ ascii ':' :: rest))) =
      .ok (.object :: frames, rest) := by
  unfold beforeValue
  extract_lets done named
  have onward : named () (name.closed ++ (gap ++ ascii ':' :: rest)) =
      .ok (.object :: frames, rest) := by
    refine (run_passName name _ _).trans ?_
    rw [run_bind (nextToken?_append gapBlank (by decide))]
    rfl
  dsimp only
  rw [Content.text, List.cons_append, run_bind (nextToken?_append allBlank (by decide))]
  exact onward

theorem passNext_member (first : Bool) (frames : List Frame) {before gap : List UInt8}
    (beforeBlank : AllBlank before) (allBlank : AllBlank blanks) (gapBlank : AllBlank gap)
    (name : Content) :
    passNext (!first) (.object :: frames)
        (before ++ (separator first ++ (blanks ++ (name.text ++ (gap ++ ascii ':' :: rest))))) =
      passFrom (.object :: frames) rest := by
  refine passNext_of_found ?_ ?_
  · simp only [List.length_append, List.length_cons]
    omega
  · cases first with
    | true =>
      have bothBlank : AllBlank (before ++ blanks) := allBlank_append beforeBlank allBlank
      have read := beforeValue_member frames allBlank_nil gapBlank name rest
      rw [List.nil_append] at read
      rw [separator_true, List.nil_append, ← List.append_assoc]
      exact (passToValue_first _ .object frames bothBlank (by decide) (by decide)).trans read
    | false =>
      have read := beforeValue_member frames allBlank gapBlank name rest
      exact (passToValue_comma _ .object frames beforeBlank).trans read

/-! ### Trees -/

/-- What closes an array or object ends a number before it, and so does a comma. -/
theorem ends_closing (allBlank : AllBlank blanks) (frame : Frame) (rest : List UInt8) :
    Ends (blanks ++ closing frame :: rest) := by
  refine ends_allBlank_append allBlank ?_
  cases frame <;> exact ends_cons (by decide) (by decide) (by decide)

theorem ends_comma (allBlank : AllBlank blanks) (rest : List UInt8) :
    Ends (blanks ++ (separator false ++ rest)) :=
  ends_allBlank_append allBlank (ends_cons (by decide) (by decide) (by decide))

theorem ends_spellsItems {items : List Source} (spells : SpellsItems false items text)
    (allBlank : AllBlank blanks) (rest : List UInt8) :
    Ends (text ++ (blanks ++ ascii ']' :: rest)) := by
  cases items with
  | nil =>
    obtain rfl := spells
    exact ends_closing allBlank .array rest
  | cons item items =>
    obtain ⟨_, _, _, _, beforeBlank, -, -, -, rfl⟩ := spells
    rw [List.append_assoc, List.append_assoc]
    exact ends_comma beforeBlank _

theorem ends_spellsMembers {members : List (Content × Source)} (spells : SpellsMembers false members text)
    (allBlank : AllBlank blanks) (rest : List UInt8) :
    Ends (text ++ (blanks ++ ascii '\x7d' :: rest)) := by
  cases members with
  | nil =>
    obtain rfl := spells
    exact ends_closing allBlank .object rest
  | cons member members =>
    obtain ⟨_, _, _, _, _, _, beforeBlank, -, -, -, -, -, rfl⟩ := spells
    rw [List.append_assoc, List.append_assoc]
    exact ends_comma beforeBlank _

/-- Whether passing over a text of the tree leaves what follows it, whatever it stands in. -/
def Passed (source : Source) : Prop :=
  ∀ frames text rest, Spells source text → Ends rest →
    passFrom frames (text ++ rest) = passNext true frames rest

theorem passNext_items {items : List Source} (passed : ∀ item ∈ items, Passed item)
    (first : Bool) (frames : List Frame) (spells : SpellsItems first items text)
    (allBlank : AllBlank blanks) (rest : List UInt8) :
    passNext (!first) (.array :: frames) (text ++ (blanks ++ ascii ']' :: rest)) =
      passNext true frames rest := by
  induction items generalizing first text with
  | nil =>
    obtain rfl := spells
    exact passNext_closing _ .array frames allBlank
  | cons item items ih =>
    obtain ⟨here, others⟩ := List.forall_mem_cons.mp passed
    obtain ⟨before, gap, body, more, beforeBlank, gapBlank, bodySpells, moreSpells, rfl⟩ := spells
    have onward := here (.array :: frames) body _ bodySpells (ends_spellsItems moreSpells allBlank rest)
    obtain ⟨byte, tail, rfl, starts⟩ := starts_of_spells bodySpells
    simp only [List.append_assoc, List.cons_append] at onward ⊢
    rw [passNext_item first frames beforeBlank gapBlank (item.isBlank_of_starts starts)
      (item.ne_bracket_of_starts starts), onward]
    exact ih others false moreSpells

theorem passNext_members {members : List (Content × Source)}
    (passed : ∀ member ∈ members, Passed member.2)
    (first : Bool) (frames : List Frame) (spells : SpellsMembers first members text)
    (allBlank : AllBlank blanks) (rest : List UInt8) :
    passNext (!first) (.object :: frames) (text ++ (blanks ++ ascii '\x7d' :: rest)) =
      passNext true frames rest := by
  induction members generalizing first text with
  | nil =>
    obtain rfl := spells
    exact passNext_closing _ .object frames allBlank
  | cons member members ih =>
    obtain ⟨here, others⟩ := List.forall_mem_cons.mp passed
    obtain ⟨before, blanks, gap, after, body, more, beforeBlank, blank, gapBlank, afterBlank, bodySpells,
      moreSpells, rfl⟩ := spells
    have onward := here (.object :: frames) body _ bodySpells (ends_spellsMembers moreSpells allBlank rest)
    simp only [List.append_assoc, List.cons_append]
    rw [passNext_member first frames beforeBlank blank gapBlank, passFrom_blanks _ afterBlank, onward]
    exact ih others false moreSpells

theorem passed (source : Source) : Passed source := by
  induction source with
  | scalar token =>
    rintro frames text rest rfl ends
    exact passFrom_token frames token ends
  | array items ih =>
    rintro frames text rest ⟨inner, blanks, spells, allBlank, rfl⟩ -
    have closed := passNext_items ih true frames spells allBlank rest
    rw [List.cons_append, passFrom_bracket]
    simpa using closed
  | object members ih =>
    rintro frames text rest ⟨inner, blanks, spells, allBlank, rfl⟩ -
    have closed := passNext_members ih true frames spells allBlank rest
    rw [List.cons_append, passFrom_brace]
    simpa using closed

/-- A value is passed over exactly, blanks before it included. -/
theorem passValue_spells {source : Source} (allBlank : AllBlank blanks) (spells : Spells source text)
    (ends : Ends rest) : passValue (blanks ++ (text ++ rest)) = .ok ((), rest) :=
  (passFrom_blanks [] allBlank _).trans (passed source [] text rest spells ends)

end PropertyAudit.Json
