import PropertyAudit.Json.Buffered
import PropertyAudit.Proofs.Json.Containers
import PropertyAudit.Proofs.Json.SteadyPassing

/-! Decoders are steady, whatever they pass over and wherever they look ahead. -/
namespace PropertyAudit.Json

open Reader Decoder

variable {α σ : Type} {byte? : Option UInt8} {bytes others rest : List UInt8}

/-! ### Arrays and objects -/

theorem steadyAt_enter {body : Nat → Reader α} (skips : Skips byte?)
    (steady : ∀ depth, Steady (body depth)) (depth : Nat) : SteadyAt byte? (enter depth body) := by
  cases depth with
  | zero => exact steady_failNext _ _
  | succ depth => exact skips.skip_bind (steady depth)

theorem steady_closeArray : Steady closeArray := by
  unfold closeArray
  refine Steady.peekToken (failNext .trailingCharacters) ?_ (steady_failNext _) fun byte? skips => ?_
  · intro byte foreign
    simp (disch := decide) only [beq_of_isForeign foreign, Bool.false_eq_true, if_false]
  · split
    · exact steady_failNext _ _
    · split
      · exact skips.skip
      · split
        · refine skips.skip_bind (Steady.peekToken (failNext .trailingCharacters) ?_
            (steady_failNext _) fun byte? skips => ?_)
          · intro byte foreign
            simp (disch := decide) only [Option.some_beq_some, beq_of_isForeign foreign,
              Bool.false_eq_true, if_false]
          · split <;> exact steady_failNext _ _
        · exact steady_failNext _ _

theorem steady_closeObject : Steady closeObject := by
  unfold closeObject
  refine Steady.peekToken (failNext .trailingCharacters) ?_ (steady_failNext _) fun byte? skips => ?_
  · intro byte foreign
    simp (disch := decide) only [beq_of_isForeign foreign, Bool.false_eq_true, if_false]
  · split
    · exact steady_failNext _ _
    · split
      · exact skips.skip
      · split <;> exact steady_failNext _ _

theorem steady_inside {close : Reader Unit} {after : List UInt8 → List UInt8} {body : Reader α}
    (steadyBody : Steady body) (steadyClose : Steady close) : Steady (inside close after body) := by
  refine steady_of_run fun bytes mended value rest mends done => ?_
  unfold inside at done
  split at done
  · next result middle read =>
    obtain ⟨also, alsoRead, left⟩ := steadyBody.run mends read
    obtain ⟨last, alsoDone, further⟩ :=
      (steadyClose.bind fun _ => steady_pure result).run left.mends done
    refine ⟨last, ?_, further.mends, Nat.le_trans further.shrinks left.shrinks⟩
    rw [inside, alsoRead]
    exact alsoDone
  · split at done <;> cases done

theorem steady_hasItem (first : Bool) : Steady (hasItem first) := by
  unfold hasItem
  refine Steady.peekToken (if first then pure true else failNext .expectedCommaOrBracket) ?_ ?_
    fun byte? skips => ?_
  · intro byte foreign
    simp (disch := decide) only [beq_of_isForeign foreign, Bool.false_eq_true, if_false]
  · split
    · exact steady_pure _
    · exact steady_failNext _
  · split
    · exact steady_failNext _ _
    · split
      · exact steady_pure _ _
      · split
        · exact steady_pure _ _
        · split
          · refine skips.skip_bind (Steady.peekToken (pure true) ?_ (steady_pure _) fun byte? skips => ?_)
            · intro byte foreign
              simp (disch := decide) only [beq_of_isForeign foreign, Bool.false_eq_true, if_false]
            · split
              · exact steady_failNext _ _
              · split
                · exact steady_failNext _ _
                · exact steady_pure _ _
          · exact steady_failNext _ _

def nameFrom (byte : UInt8) : Reader (Option String) :=
  if byte == ascii '"' then do
    skip
    some <$> stringTail
  else if byte == ascii '\x7d' then failNext .trailingComma
  else failNext .nameNotString

theorem memberName?_eq (first : Bool) :
    memberName? first = (do
      match ← nextToken? with
      | none => failNext .endInObject
      | some byte =>
        if byte == ascii '\x7d' then pure none
        else if first then nameFrom byte
        else if byte == ascii ',' then
          skip
          match ← nextToken? with
          | none => failNext .endInValue
          | some byte => nameFrom byte
        else failNext .expectedCommaOrBrace) := rfl

theorem nameFrom_of_isForeign (byte : UInt8) (foreign : isForeign byte) :
    nameFrom byte = failNext .nameNotString := by
  simp (disch := decide) only [nameFrom, beq_of_isForeign foreign, Bool.false_eq_true, if_false]

theorem steadyAt_nameFrom (skips : Skips byte?) (byte : UInt8) : SteadyAt byte? (nameFrom byte) := by
  unfold nameFrom
  split
  · exact skips.skip_bind (steady_stringTail.map _)
  · split <;> exact steady_failNext _ _

theorem steady_memberName? (first : Bool) : Steady (memberName? first) := by
  rw [memberName?_eq]
  refine Steady.peekToken
    (if first then failNext .nameNotString else failNext .expectedCommaOrBrace) ?_ ?_
    fun byte? skips => ?_
  · intro byte foreign
    simp (disch := decide) only [nameFrom_of_isForeign byte foreign, beq_of_isForeign foreign,
      Bool.false_eq_true, if_false]
  · split <;> exact steady_failNext _
  · split
    · exact steady_failNext _ _
    · split
      · exact steady_pure _ _
      · split
        · exact steadyAt_nameFrom skips _
        · split
          · refine skips.skip_bind
              (Steady.peekToken _ nameFrom_of_isForeign (steady_failNext _) fun byte? skips => ?_)
            split
            · exact steady_failNext _ _
            · exact steadyAt_nameFrom skips _
          · exact steady_failNext _ _

theorem steady_colon : Steady colon := by
  unfold colon
  refine Steady.peekToken (failNext .expectedColon) ?_ (steady_failNext _) fun byte? skips => ?_
  · intro byte foreign
    simp (disch := decide) only [beq_of_isForeign foreign, Bool.false_eq_true, if_false]
  · split
    · exact steady_failNext _ _
    · split
      · exact skips.skip
      · exact steady_failNext _ _

/-! ### Items and members -/

/-- An item but for the first is told by a comma, which is taken. -/
theorem hasItem_shrinks {first : Bool} (done : hasItem first bytes = .ok (true, rest)) :
    rest.length < bytes.length + first.toNat := by
  cases first with
  | true => exact Nat.lt_succ_of_le ((steady_hasItem true).shrinks done)
  | false =>
    rw [hasItem, run_nextToken?] at done
    cases blank : dropBlanks bytes with
    | nil =>
      rw [blank] at done
      cases done
    | cons next tail =>
      rw [blank] at done
      simp only [List.head?_cons, Bool.false_eq_true, if_false] at done
      split at done
      · cases done
      · split at done
        · rw [run_skip, List.tail_cons, run_nextToken?] at done
          refine Nat.lt_of_le_of_lt ?_ (length_of_dropBlanks_eq_cons blank)
          cases after : dropBlanks tail with
          | nil =>
            rw [after] at done
            cases done
          | cons other more =>
            rw [after] at done
            simp only [List.head?_cons] at done
            split at done
            · cases done
            · cases done
              exact Nat.succ_le_of_lt (length_of_dropBlanks_eq_cons after)
        · cases done

theorem itemsWithin_fuel {item : Reader α} (steady : Steady item) {first : Bool} {fuel more : Nat}
    (enough : bytes.length + first.toNat ≤ fuel) (most : fuel ≤ more) :
    itemsWithin item fuel first bytes = itemsWithin item more first bytes := by
  induction fuel generalizing more first bytes with
  | zero =>
    obtain rfl := List.eq_nil_of_length_eq_zero (Nat.le_zero.mp (Nat.le_of_add_right_le enough))
    cases first with
    | true => cases enough
    | false => cases more <;> rfl
  | succ fuel ih =>
    obtain ⟨more, rfl⟩ := Nat.exists_eq_add_of_le' (Nat.le_of_add_left_le most)
    rw [itemsWithin, itemsWithin]
    cases look : hasItem first bytes with
    | error fault => rw [run_bind_error look, run_bind_error look]
    | ok taken =>
      obtain ⟨has, middle⟩ := taken
      rw [run_bind look, run_bind look]
      cases has with
      | false => rfl
      | true =>
        simp only [if_true]
        cases read : item middle with
        | error fault => rw [run_bind_error read, run_bind_error read]
        | ok taken =>
          obtain ⟨value, later⟩ := taken
          have shorter := Nat.lt_of_le_of_lt (steady.shrinks read) (hasItem_shrinks look)
          have same : itemsWithin item fuel false later = itemsWithin item more false later :=
            ih (Nat.le_of_lt_succ (Nat.lt_of_lt_of_le shorter enough)) (Nat.le_of_succ_le_succ most)
          rw [run_bind read, run_bind read]
          simp only [bind, StateT.bind, same]

theorem steady_items {item : Reader α} (steady : Steady item) (first : Bool) :
    Steady (items item first) := by
  have within (fuel : Nat) (first : Bool) : Steady (itemsWithin item fuel first) := by
    induction fuel generalizing first with
    | zero => exact steady_fail _
    | succ fuel ih =>
      refine (steady_hasItem first).bind fun has => ?_
      split
      · exact steady.bind fun value => (ih false).bind fun more => steady_pure _
      · exact steady_pure _
  refine Steady.fueled (itemsWithin item · first)
    (fun fuel more bytes enough most => itemsWithin_fuel steady ?_ most) fun fuel => within fuel first
  exact Nat.le_trans (Nat.add_le_add_left first.toNat_le bytes.length) enough

theorem nameFrom_shrinks {byte : UInt8} {name : String}
    (done : nameFrom byte (byte :: bytes) = .ok (some name, rest)) : rest.length ≤ bytes.length := by
  unfold nameFrom at done
  split at done
  · exact (steady_stringTail.map some).shrinks done
  · split at done <;> cases done

theorem memberName?_shrinks {first : Bool} {name : String}
    (done : memberName? first bytes = .ok (some name, rest)) : rest.length < bytes.length := by
  rw [memberName?_eq, run_nextToken?] at done
  cases blank : dropBlanks bytes with
  | nil =>
    rw [blank] at done
    cases done
  | cons next tail =>
    refine Nat.lt_of_le_of_lt ?_ (length_of_dropBlanks_eq_cons blank)
    rw [blank] at done
    simp only [List.head?_cons] at done
    split at done
    · cases done
    · split at done
      · exact nameFrom_shrinks done
      · split at done
        · rw [run_skip, List.tail_cons, run_nextToken?] at done
          cases after : dropBlanks tail with
          | nil =>
            rw [after] at done
            cases done
          | cons other more =>
            rw [after] at done
            exact Nat.le_trans (nameFrom_shrinks done)
              (Nat.le_of_lt (length_of_dropBlanks_eq_cons after))
        · cases done

theorem membersWithin_fuel {member : String → σ → Reader σ}
    (steady : ∀ name state, Steady (member name state)) {first : Bool} {state : σ} {fuel more : Nat}
    (enough : bytes.length ≤ fuel) (most : fuel ≤ more) :
    membersWithin member fuel first state bytes = membersWithin member more first state bytes := by
  induction fuel generalizing more first state bytes with
  | zero =>
    obtain rfl := List.eq_nil_of_length_eq_zero (Nat.le_zero.mp enough)
    cases more <;> rfl
  | succ fuel ih =>
    obtain ⟨more, rfl⟩ := Nat.exists_eq_add_of_le' (Nat.le_of_add_left_le most)
    rw [membersWithin, membersWithin]
    cases look : memberName? first bytes with
    | error fault => rw [run_bind_error look, run_bind_error look]
    | ok taken =>
      obtain ⟨name?, middle⟩ := taken
      rw [run_bind look, run_bind look]
      cases name? with
      | none => rfl
      | some name =>
        cases read : member name state middle with
        | error fault => exact (run_bind_error read).trans (run_bind_error read).symm
        | ok taken =>
          obtain ⟨next, later⟩ := taken
          have shorter := Nat.lt_of_le_of_lt ((steady _ _).shrinks read) (memberName?_shrinks look)
          have same : membersWithin member fuel false next later =
              membersWithin member more false next later :=
            ih (Nat.le_of_lt_succ (Nat.lt_of_lt_of_le shorter enough)) (Nat.le_of_succ_le_succ most)
          exact (run_bind read).trans (same.trans (run_bind read).symm)

theorem steady_members {member : String → σ → Reader σ}
    (steady : ∀ name state, Steady (member name state)) (start : σ) :
    Steady (members member start) := by
  have within (fuel : Nat) (first : Bool) (state : σ) :
      Steady (membersWithin member fuel first state) := by
    induction fuel generalizing first state with
    | zero => exact steady_fail _
    | succ fuel ih =>
      refine (steady_memberName? first).bind fun name? => ?_
      split
      · exact steady_pure _
      · exact (steady _ _).bind fun state => ih false state
  exact Steady.fueled (membersWithin member · true start)
    (fun _ _ _ enough most => membersWithin_fuel steady (Nat.le_of_add_right_le enough) most)
    fun fuel => within fuel true start

/-! ### Scalars -/

theorem steady_found : Steady Decoder.found := by
  unfold Decoder.found
  refine Steady.peekToken (failNext .expectedValue) ?_ (steady_failNext _) fun byte? skips => ?_
  · intro byte foreign
    simp (disch := decide) only [beq_of_isForeign foreign, isDigit_of_isForeign byte foreign,
      Bool.false_eq_true, if_false]
  · split
    · exact steady_failNext _ _
    · split
      · exact skips.skip_bind ((steady_word (by decide)).bind fun _ => steady_pure _)
      · split
        · exact skips.skip_bind ((steady_word (by decide)).bind fun _ => steady_pure _)
        · split
          · exact skips.skip_bind ((steady_word (by decide)).bind fun _ => steady_pure _)
          · split
            · exact skips.skip_bind ((steady_number _).map _)
            · split
              · exact (steady_number _).map _ _
              · split
                · exact skips.skip_bind (steady_stringTail.map _)
                · split
                  · exact steady_pure _ _
                  · split
                    · exact steady_pure _ _
                    · exact steady_failNext _ _

theorem steady_wrongType (expected : String) : Steady (wrongType expected : Reader α) :=
  steady_found.bind fun _ => steady_fail _

def SteadyDecoder (decoder : Decoder α) : Prop := ∀ depth, Steady (decoder depth)

theorem steady_scalar (expected : String) (accept : Found → Option (Except Cause α)) :
    SteadyDecoder (scalar expected accept) := by
  intro depth
  refine steady_found.bind fun value => ?_
  split
  · exact steady_pure _
  · exact steady_fail _
  · exact steady_fail _

theorem steady_optional {item : Decoder α} (steady : SteadyDecoder item) :
    SteadyDecoder (Decoder.optional item) := by
  intro depth
  refine Steady.peekToken (some <$> item depth) ?_ ((steady depth).map _) fun token skips => ?_
  · intro byte foreign
    simp (disch := decide) only [Option.some_beq_some, beq_of_isForeign foreign, Bool.false_eq_true,
      if_false]
  · split
    · exact skips.skip_bind ((steady_word (by decide)).bind fun _ => steady_pure _)
    · exact (steady depth).map _ _

/-! ### Structured values -/

theorem steady_list {item : Decoder α} (steady : SteadyDecoder item) : SteadyDecoder (list item) := by
  intro depth
  refine Steady.peekToken (wrongType "a sequence") ?_ (steady_wrongType _) fun token skips => ?_
  · intro byte foreign
    simp (disch := decide) only [Option.some_beq_some, beq_of_isForeign foreign, Bool.false_eq_true,
      if_false]
  · split
    · exact steadyAt_enter skips
        (fun depth => steady_inside (steady_items (steady depth) _) steady_closeArray) _
    · exact steady_wrongType _ _

theorem steady_map {item : Decoder α} (steady : SteadyDecoder item) : SteadyDecoder (map item) := by
  intro depth
  refine Steady.peekToken (wrongType "a map") ?_ (steady_wrongType _) fun token skips => ?_
  · intro byte foreign
    simp (disch := decide) only [Option.some_beq_some, beq_of_isForeign foreign, Bool.false_eq_true,
      if_false]
  · split
    · refine steadyAt_enter skips
        (fun depth => steady_inside ((steady_members ?_ _).map _) steady_closeObject) _
      exact fun name taken => steady_colon.bind fun _ => (steady depth).bind fun value => steady_pure _
    · exact steady_wrongType _ _

def Flat : Found → Prop
  | .array | .object => False
  | _ => True

theorem flat_number (value : Number) : Flat value.found := by cases value <;> exact trivial

/-- An array or object is found by its bracket, which is left. -/
theorem found_cases {value : Found} (done : Decoder.found bytes = .ok (value, rest)) :
    Flat value ∨ value = .array ∧ rest.head? = some (ascii '[') ∨
      value = .object ∧ rest.head? = some (ascii '\x7b') := by
  have ofWord {expected bytes rest : List UInt8} {value found : Found}
      (done : (do skip; word expected; pure value : Reader Found) bytes = .ok (found, rest))
      (flat : Flat value) : Flat found := by
    obtain ⟨_, _, -, done⟩ := of_run_bind done
    obtain ⟨_, _, -, done⟩ := of_run_bind done
    cases done
    exact flat
  rw [Decoder.found, run_nextToken?] at done
  cases blank : dropBlanks bytes with
  | nil =>
    rw [blank] at done
    cases done
  | cons next tail =>
    rw [blank] at done
    simp only [List.head?_cons] at done
    split at done
    · exact .inl (ofWord done trivial)
    split at done
    · exact .inl (ofWord done trivial)
    split at done
    · exact .inl (ofWord done trivial)
    split at done
    · obtain ⟨_, _, -, done⟩ := of_run_bind done
      obtain ⟨number, -, rfl⟩ := of_run_map done
      exact .inl (flat_number number)
    split at done
    · obtain ⟨number, -, rfl⟩ := of_run_map done
      exact .inl (flat_number number)
    split at done
    · obtain ⟨_, _, -, done⟩ := of_run_bind done
      obtain ⟨text, -, rfl⟩ := of_run_map done
      exact .inl trivial
    split at done
    · next bracket =>
      cases done
      exact .inr (.inl ⟨rfl, congrArg some (eq_of_beq bracket)⟩)
    split at done
    · next brace =>
      cases done
      exact .inr (.inr ⟨rfl, congrArg some (eq_of_beq brace)⟩)
    · cases done

theorem steady_found_bind {next : Found → Reader α} (flat : ∀ value, Flat value → Steady (next value))
    (array : SteadyAt (some (ascii '[')) (next .array))
    (object : SteadyAt (some (ascii '\x7b')) (next .object)) : Steady (Decoder.found >>= next) := by
  refine steady_of_run fun bytes others value rest mends done => ?_
  obtain ⟨found, middle, look, done⟩ := of_run_bind done
  obtain ⟨after, alsoLook, left⟩ := steady_found.run mends look
  have steady : SteadyAt middle.head? (next found) := by
    rcases found_cases look with isFlat | ⟨rfl, bracket⟩ | ⟨rfl, brace⟩
    · exact flat found isFlat _
    · exact bracket ▸ array
    · exact brace ▸ object
  obtain ⟨last, alsoDone, further⟩ := steady _ _ _ _ left.mends rfl done
  exact ⟨last, (run_bind alsoLook).trans alsoDone, further.mends,
    Nat.le_trans further.shrinks left.shrinks⟩

theorem steady_valueOver {nested : Option (Reader Json)} (steady : ∀ reader ∈ nested, Steady reader) :
    Steady (valueOver nested) := by
  unfold valueOver
  extract_lets inner
  have steadyInner {byte : UInt8} {close : Reader Json → Reader Json} (syntactic : ¬isForeign byte)
      (steadyClose : ∀ reader, Steady reader → Steady (close reader)) :
      SteadyAt (some byte) (inner close) := by
    unfold inner
    split
    · exact steady_failNext _ _
    · exact (skips_some syntactic).skip_bind (steadyClose _ (steady _ rfl))
  refine steady_found_bind ?_ ?_ ?_
  · intro value flat
    split
    · exact steady_pure _
    · exact steady_pure _
    · exact steady_pure _
    · exact steady_pure _
    · exact steady_pure _
    · exact flat.elim
    · exact flat.elim
  · exact steadyInner (by decide) fun nested steady =>
      (steady_inside (steady_items steady _) steady_closeArray).map _
  · refine steadyInner (by decide) fun nested steady =>
      (steady_inside ((steady_members ?_ _).map _) steady_closeObject).map _
    exact fun name taken => steady_colon.bind fun _ => steady.bind fun value => steady_pure _

theorem steady_value : SteadyDecoder Decoder.value := by
  intro depth
  induction depth with
  | zero => exact steady_valueOver (by simp)
  | succ depth ih => exact steady_valueOver (by simpa using ih)

theorem steady_fieldsInOrder {expected : String} {count depth : Nat} {fields : List (RecordField σ)}
    (steady : ∀ field ∈ fields, SteadyDecoder field.read) (index : Nat) (first : Bool) (state : σ) :
    Steady (fieldsInOrder expected count depth fields index first state) := by
  induction fields generalizing index first state with
  | nil => exact steady_pure _
  | cons field fields ih =>
    have ⟨here, others⟩ := List.forall_mem_cons.mp steady
    refine (steady_hasItem first).bind fun has => ?_
    split
    · exact (here depth).bind fun store => ih others _ _ _
    · split
      · exact ih others _ _ _
      · exact steady_raise _

/-- Records are where values are passed over. -/
theorem steady_record {expected : String} {fields : List (RecordField σ)} {start : σ}
    {finish : σ → Except Cause α} (steady : ∀ field ∈ fields, SteadyDecoder field.read) :
    SteadyDecoder (record expected fields start finish) := by
  have steadyMember (depth : Nat) (name : String) (state : σ) :
      Steady (storeMember fields depth name state) := by
    unfold storeMember
    split
    · exact steady_colon.bind fun _ => steady_passValue.bind fun _ => steady_pure _
    · next field found =>
      split
      · exact steady_raise _
      · exact steady_colon.bind fun _ =>
          (steady field (List.mem_of_find?_eq_some found) depth).bind fun store => steady_pure _
  intro depth
  refine Steady.peekToken (wrongType expected) ?_ (steady_wrongType _) fun token skips => ?_
  · intro byte foreign
    simp (disch := decide) only [Option.some_beq_some, beq_of_isForeign foreign, Bool.false_eq_true,
      if_false]
  · split
    · exact steadyAt_enter skips (fun depth => steady_inside
        ((steady_fieldsInOrder steady _ _ _).bind fun _ => steady_raiseError _) steady_closeArray) _
    · split
      · exact steadyAt_enter skips (fun depth => steady_inside
          ((steady_members (steadyMember depth) _).bind fun _ => steady_raiseError _)
          steady_closeObject) _
      · exact steady_wrongType _ _

theorem steady_caseName (cases : List (String × α)) : SteadyDecoder (caseName cases) :=
  steady_scalar _ _

theorem steady_choice (cases : List (String × α)) : SteadyDecoder (choice cases) := by
  intro depth
  refine Steady.peekToken (failNext .expectedValue) ?_ (steady_failNext _) fun token skips => ?_
  · intro byte foreign
    simp (disch := decide) only [beq_of_isForeign foreign, Bool.false_eq_true, if_false]
  · split
    · exact steady_failNext _ _
    · split
      · refine steadyAt_enter skips (fun depth => (steady_caseName cases depth).bind fun value =>
          steady_colon.bind fun _ => (steady_scalar _ _ depth).bind fun _ =>
            Steady.peekToken (fail .expectedValue) ?_ (steady_fail _) fun byte? skips => ?_) _
        · intro byte foreign
          simp (disch := decide) only [beq_of_isForeign foreign, Bool.false_eq_true, if_false]
        · split
          · exact steady_fail _ _
          · split
            · exact skips.skip_bind (steady_pure _)
            · exact steady_fail _ _
      · split
        · exact steady_caseName cases depth _
        · exact steady_failNext _ _

theorem steady_tagged (expected tag : String) (cases : List (String × α)) :
    SteadyDecoder (tagged expected tag cases) := by
  have steadyMember (depth : Nat) (name : String) (state : Option α × List (String × Json)) :
      Steady (sortMember tag cases depth name state) := by
    unfold sortMember
    split
    · split
      · exact steady_raise _
      · exact steady_colon.bind fun _ => (steady_caseName cases depth).bind fun _ => steady_pure _
    · exact steady_colon.bind fun _ => (steady_value depth).bind fun _ => steady_pure _
  intro depth
  refine Steady.peekToken (wrongType expected) ?_ (steady_wrongType _) fun token skips => ?_
  · intro byte foreign
    simp (disch := decide) only [Option.some_beq_some, beq_of_isForeign foreign, Bool.false_eq_true,
      if_false]
  · split
    · refine steadyAt_enter skips (fun depth => steady_inside
        ((steady_hasItem _).bind fun has => ?_) steady_closeArray) _
      split
      · exact (steady_caseName cases depth).bind fun case =>
          (steady_items (steady_value depth) _).bind fun rest => steady_pure _
      · exact steady_raise _
    · split
      · refine steadyAt_enter skips (fun depth => steady_inside
          ((steady_members (steadyMember depth) _).bind fun (case?, taken) => ?_) steady_closeObject) _
        dsimp only
        split
        · exact steady_pure _
        · exact steady_raise _
      · exact steady_wrongType _ _

/-! ### Documents -/

/-- What a steady decoder makes of a document it makes of the mended document. -/
theorem document_mended {decoder : Decoder α} {depth : Nat} {value : α} (steady : SteadyDecoder decoder)
    (mends : Mends bytes others) (done : document decoder depth bytes = .ok value) :
    document decoder depth others = .ok value := by
  obtain ⟨rest, read, ended⟩ := document_eq_ok_iff.mp done
  obtain ⟨after, alsoRead, left⟩ := (steady depth).run mends read
  have blanks := left.mends.dropBlanks
  rw [ended] at blanks
  exact document_eq_ok_iff.mpr ⟨after, alsoRead, blanks.eq_nil⟩

end PropertyAudit.Json
