import PropertyAudit.Proofs.Json.Mending

/-! Words and strings are read steadily. A string that is taken encodes characters throughout, so nothing
in it is spoilt; a string that is passed over may hold anything harmless. -/
namespace PropertyAudit.Json

open Reader

variable {byte : UInt8} {bytes others rest : List UInt8}

/-! ### Words and escapes -/

theorem steady_word {expected : List UInt8} (syntactic : expected.all (!isForeign ·)) :
    Steady (word expected) := by
  induction expected with
  | nil => exact steady_pure ()
  | cons wanted more ih =>
    rw [List.all_cons, Bool.and_eq_true, Bool.not_eq_true'] at syntactic
    obtain ⟨here, others⟩ := syntactic
    refine steady_of_run fun bytes mended value rest mends done => ?_
    cases bytes with
    | nil => cases done
    | cons byte bytes =>
      simp only [word] at done
      split at done
      · next same =>
        obtain rfl := eq_of_beq same
        obtain ⟨tail, rfl, onward⟩ := mends.syntactic here
        obtain ⟨after, alsoDone, left⟩ := (ih others).run onward done
        exact ⟨after, by simpa [word] using alsoDone, left.mends, Nat.le_succ_of_le left.shrinks⟩
      · cases done

theorem keeps_of_hexDigit? (isDigit : (hexDigit? byte).isSome) : Keeps byte := by
  have table : ∀ n : Fin 256, (hexDigit? (UInt8.ofNat n)).isSome → Keeps (UInt8.ofNat n) := by
    unfold Keeps
    decide +kernel
  have row := table ⟨byte.toNat, byte.toNat_lt_size⟩
  rw [UInt8.ofNat_toNat] at row
  exact row isDigit

theorem keeps_of_simpleEscape? (isEscape : (simpleEscape? byte).isSome) : Keeps byte := by
  unfold simpleEscape? at isEscape
  iterate 8
    split at isEscape
    · next same => exact eq_of_beq same ▸ ⟨by decide, by decide⟩
  cases isEscape

theorem steady_hexUnit : Steady hexUnit := by
  refine steady_of_run fun bytes mended value rest mends done => ?_
  unfold hexUnit at done
  split at done
  · next a b c d rest' =>
    split at done
    · next first second third fourth =>
      obtain ⟨_, rfl, mendsB⟩ := mends.kept (keeps_of_hexDigit? (Option.isSome_of_eq_some first))
      obtain ⟨_, rfl, mendsC⟩ := mendsB.kept (keeps_of_hexDigit? (Option.isSome_of_eq_some second))
      obtain ⟨_, rfl, mendsD⟩ := mendsC.kept (keeps_of_hexDigit? (Option.isSome_of_eq_some third))
      obtain ⟨_, rfl, onward⟩ := mendsD.kept (keeps_of_hexDigit? (Option.isSome_of_eq_some fourth))
      cases done
      exact ⟨_, by simp [hexUnit, first, second, third, fourth], onward, by simp only [List.length_cons]; omega⟩
    · cases done
  · cases done

theorem steady_pairByte {expected : UInt8} (syntactic : isForeign expected = false) :
    Steady (pairByte expected) := by
  refine steady_of_run fun bytes mended value rest mends done => ?_
  cases bytes with
  | nil => cases done
  | cons byte bytes =>
    simp only [pairByte] at done
    split at done
    · next same =>
      obtain rfl := eq_of_beq same
      obtain ⟨tail, rfl, onward⟩ := mends.syntactic syntactic
      cases done
      exact ⟨tail, by simp [pairByte], onward, Nat.le_succ _⟩
    · cases done

theorem steady_hexCharacter : Steady hexCharacter := by
  refine steady_hexUnit.bind fun unit => ?_
  split
  · exact steady_fail _
  · split
    · refine (steady_pairByte (by decide)).bind fun _ => (steady_pairByte (by decide)).bind fun _ =>
        steady_hexUnit.bind fun trailing => ?_
      split
      · exact steady_pure _
      · exact steady_fail _
    · exact steady_pure _

theorem steady_escape : Steady escape := by
  refine steady_of_run fun bytes mended value rest mends done => ?_
  cases bytes with
  | nil => cases done
  | cons byte bytes =>
    simp only [escape] at done
    split at done
    · next c simple =>
      obtain ⟨tail, rfl, onward⟩ := mends.kept (keeps_of_simpleEscape? (Option.isSome_of_eq_some simple))
      cases done
      exact ⟨tail, by simp [escape, simple], onward, Nat.le_succ _⟩
    · next notSimple =>
      split at done
      · next same =>
        obtain rfl := eq_of_beq same
        obtain ⟨tail, rfl, onward⟩ := mends.syntactic (by decide)
        obtain ⟨after, alsoDone, left⟩ := steady_hexCharacter.run onward done
        exact ⟨after, by simpa [escape, notSimple] using alsoDone, left.mends,
          Nat.le_succ_of_le left.shrinks⟩
      · cases done

/-! ### Strings that are taken -/

theorem stringBytes_cons {fuel : Nat} {taken total : List UInt8}
    (done : stringBytes (fuel + 1) taken (byte :: bytes) = .ok (total, rest)) :
    (byte = ascii '"' ∧ total = taken.reverse ∧ rest = bytes) ∨
    (∃ c middle, byte = ascii '\\' ∧ escape bytes = .ok (c, middle) ∧
      stringBytes fuel ((String.utf8EncodeChar c).reverse ++ taken) middle = .ok (total, rest)) ∨
    (IsPlain byte ∧ stringBytes fuel (byte :: taken) bytes = .ok (total, rest)) := by
  simp only [stringBytes] at done
  split at done
  · next quote =>
    cases done
    exact .inl ⟨eq_of_beq quote, rfl, rfl⟩
  · next noQuote =>
    split at done
    · next backslash =>
      split at done
      · next c middle read => exact .inr (.inl ⟨c, middle, eq_of_beq backslash, read, done⟩)
      · cases done
    · next noBackslash =>
      split at done
      · cases done
      · next noControl =>
        exact .inr (.inr ⟨⟨by simpa using noQuote, by simpa using noBackslash, noControl⟩, done⟩)

/-- What was taken stays at the front. -/
theorem stringBytes_extends {fuel : Nat} {taken total : List UInt8}
    (done : stringBytes fuel taken bytes = .ok (total, rest)) : taken.reverse <+: total := by
  induction fuel generalizing taken bytes with
  | zero => cases done
  | succ fuel ih =>
    cases bytes with
    | nil => cases done
    | cons byte bytes =>
      rcases stringBytes_cons done with ⟨-, rfl, -⟩ | ⟨c, middle, -, -, done⟩ | ⟨-, done⟩
      · exact List.prefix_refl _
      · refine List.IsPrefix.trans ?_ (ih done)
        simp
      · refine List.IsPrefix.trans ?_ (ih done)
        simp

/-- Bytes inside a character can come from nothing but themselves: escapes bring whole characters. -/
theorem stringBytes_inner {fuel : Nat} {taken more content : List UInt8}
    (inner : ∀ byte ∈ more, ¬byte.IsUTF8FirstByte)
    (done : stringBytes fuel taken bytes = .ok (taken.reverse ++ (more ++ content), rest)) :
    ∃ tail spare, bytes = more ++ tail ∧ fuel = spare + more.length ∧ ∀ byte ∈ more, IsPlain byte := by
  induction more generalizing fuel taken bytes with
  | nil => exact ⟨bytes, fuel, rfl, rfl, by simp⟩
  | cons first more ih =>
    have ⟨notFirst, others⟩ := List.forall_mem_cons.mp inner
    cases fuel with
    | zero => cases done
    | succ fuel =>
      cases bytes with
      | nil => cases done
      | cons byte bytes =>
        rcases stringBytes_cons done with ⟨-, ended, -⟩ | ⟨c, middle, -, -, done⟩ | ⟨plain, done⟩
        · simp at ended
        · obtain ⟨start, _, encoded, isFirst, -⟩ := Text.utf8EncodeChar_eq_cons c
          have extended := stringBytes_extends done
          simp only [List.reverse_append, List.reverse_reverse, List.prefix_append_right_inj, encoded,
            List.cons_append, List.cons_prefix_cons] at extended
          exact absurd (extended.1 ▸ isFirst) notFirst
        · have extended := stringBytes_extends done
          simp only [List.reverse_cons, List.cons_append, List.prefix_append_right_inj,
            List.cons_prefix_cons] at extended
          obtain rfl := extended.1
          have same : taken.reverse ++ byte :: (more ++ content) =
              (byte :: taken).reverse ++ (more ++ content) := by simp
          rw [List.cons_append, same] at done
          obtain ⟨tail, spare, rfl, rfl, plains⟩ := ih others done
          exact ⟨tail, spare, rfl, rfl, List.forall_mem_cons.mpr ⟨plain, plains⟩⟩

/-- A string whose content has been taken is closed next. -/
theorem eq_quote_cons_of_stringBytes {fuel : Nat} {taken : List UInt8}
    (done : stringBytes fuel taken bytes = .ok (taken.reverse, rest)) : bytes = ascii '"' :: rest := by
  cases fuel with
  | zero => cases done
  | succ fuel =>
    cases bytes with
    | nil => cases done
    | cons byte bytes =>
      rcases stringBytes_cons done with ⟨rfl, -, rfl⟩ | ⟨c, middle, -, -, done⟩ | ⟨-, done⟩
      · rfl
      · have longer := (stringBytes_extends done).length_le
        have positive := List.length_pos_iff.mpr (@String.utf8EncodeChar_ne_nil c)
        simp only [List.length_reverse, List.length_append] at longer
        omega
      · have longer := (stringBytes_extends done).length_le
        simp only [List.length_reverse, List.length_cons] at longer
        omega

/-- A string whose content goes on with a character has next that character or an escape of it. -/
theorem stringBytes_character {c : Char} {fuel : Nat} {taken content : List UInt8}
    (done : stringBytes fuel taken bytes =
      .ok (taken.reverse ++ (String.utf8EncodeChar c ++ content), rest)) :
    (∃ tail middle spare, bytes = ascii '\\' :: tail ∧ fuel = spare + 1 ∧
      escape tail = .ok (c, middle) ∧
      stringBytes spare ((String.utf8EncodeChar c).reverse ++ taken) middle =
        .ok (taken.reverse ++ (String.utf8EncodeChar c ++ content), rest)) ∨
    ∃ tail spare, bytes = String.utf8EncodeChar c ++ tail ∧
      fuel = spare + (String.utf8EncodeChar c).length ∧
      (∀ byte ∈ String.utf8EncodeChar c, IsPlain byte) := by
  obtain ⟨first, more, encoded, -, inner⟩ := Text.utf8EncodeChar_eq_cons c
  cases fuel with
  | zero => cases done
  | succ fuel =>
    cases bytes with
    | nil => cases done
    | cons byte bytes =>
      rcases stringBytes_cons done with ⟨-, ended, -⟩ | ⟨d, middle, rfl, read, later⟩ | ⟨plain, later⟩
      · simp [encoded] at ended
      · have extended := stringBytes_extends later
        rw [List.reverse_append, List.reverse_reverse, List.prefix_append_right_inj] at extended
        obtain rfl := Text.eq_of_utf8EncodeChar_prefix extended (List.prefix_append _ _)
        exact .inl ⟨bytes, middle, fuel, rfl, rfl, read, later⟩
      · have extended := stringBytes_extends later
        rw [List.reverse_cons, List.prefix_append_right_inj, encoded, List.cons_append,
          List.cons_prefix_cons] at extended
        obtain rfl := extended.1
        have moved : taken.reverse ++ (String.utf8EncodeChar c ++ content) =
            (byte :: taken).reverse ++ (more ++ content) := by simp [encoded]
        obtain ⟨tail, spare, rfl, rfl, plains⟩ := stringBytes_inner inner (moved ▸ later)
        rw [encoded]
        exact .inr ⟨tail, spare, rfl, rfl, List.forall_mem_cons.mpr ⟨plain, plains⟩⟩

theorem stringBytes_surrogate (fuel : Nat) (taken rest : List UInt8) :
    ∃ fault, stringBytes fuel taken (Text.bytes "\\uDC00" ++ rest) = .error fault := by
  rw [bytes_surrogate]
  cases fuel <;> exact ⟨_, rfl⟩

/-- A string whose content, escapes replaced, encodes characters is read from mended bytes as well. -/
theorem stringBytes_mended {fuel enough : Nat} {taken : List UInt8} {chars : List Char}
    {mended : List UInt8} (mends : Mends bytes mended) (short : mended.length ≤ enough)
    (done : stringBytes fuel taken bytes = .ok (taken.reverse ++ encode chars, rest)) :
    ∃ after, stringBytes enough taken mended = .ok (taken.reverse ++ encode chars, after) ∧
      Leaves mended rest after := by
  induction chars generalizing fuel enough taken bytes mended with
  | nil =>
    rw [encode_nil, List.append_nil] at done ⊢
    obtain rfl := eq_quote_cons_of_stringBytes done
    obtain ⟨tail, rfl, onward⟩ := mends.syntactic (by decide)
    obtain ⟨enough, rfl⟩ := Nat.exists_eq_add_of_le' (Nat.zero_lt_of_lt short)
    exact ⟨tail, by simp [stringBytes], onward, Nat.le_succ _⟩
  | cons c chars ih =>
    have same : taken.reverse ++ encode (c :: chars) =
        ((String.utf8EncodeChar c).reverse ++ taken).reverse ++ encode chars := by
      simp [encode_cons]
    rw [encode_cons] at done
    rcases stringBytes_character done with
      ⟨tail, middle, spare, rfl, rfl, read, later⟩ | ⟨tail, spare, rfl, rfl, plains⟩
    · obtain ⟨tail, rfl, onward⟩ := mends.syntactic (by decide)
      obtain ⟨after, alsoRead, left⟩ := steady_escape.run onward read
      obtain ⟨enough, rfl⟩ := Nat.exists_eq_add_of_le' (Nat.zero_lt_of_lt short)
      rw [← encode_cons, same] at later
      rw [same, stringBytes_escape alsoRead]
      obtain ⟨last, alsoLater, further⟩ :=
        ih left.mends (Nat.le_trans left.shrinks (Nat.le_of_succ_le_succ short)) later
      exact ⟨last, alsoLater, further.mends,
        Nat.le_succ_of_le (Nat.le_trans further.shrinks left.shrinks)⟩
    · rw [stringBytes_plain plains, ← encode_cons, same] at done
      rcases mends.character_cases with ⟨mendedTail, rfl, onward⟩ | ⟨rfl, following, rfl⟩
      · rw [List.length_append, Nat.add_comm] at short
        obtain ⟨enough, rfl⟩ := Nat.exists_eq_add_of_le' (Nat.le_of_add_left_le short)
        rw [stringBytes_plain plains, same]
        obtain ⟨last, alsoDone, further⟩ := ih onward (Nat.le_of_add_le_add_right short) done
        refine ⟨last, alsoDone, further.mends, Nat.le_trans further.shrinks ?_⟩
        rw [List.length_append]
        exact Nat.le_add_left _ _
      · obtain ⟨fault, failed⟩ := stringBytes_surrogate spare
          ((String.utf8EncodeChar '?').reverse ++ taken) following
        rw [failed] at done
        cases done

theorem steady_stringTail : Steady stringTail := by
  refine steady_of_run fun bytes mended text rest mends done => ?_
  unfold stringTail at done
  split at done
  · next taken after read =>
    split at done
    · next decoded =>
      cases done
      have content : [].reverse ++ encode text.toList = taken := Text.bytes_of_ofBytes? decoded
      obtain ⟨last, alsoRead, left⟩ := stringBytes_mended mends (Nat.le_refl _) (content ▸ read)
      refine ⟨last, ?_, left⟩
      rw [stringTail, alsoRead]
      simp only [content, decoded]
    · cases done
  · cases done

/-! ### Strings that are passed over -/

/-- Whether a string is passed over, from these bytes on, in that many steps more than from behind
them. -/
structure Passes (steps : Nat) (chunk : List UInt8) : Prop where
  pass : ∀ fuel rest, passString (fuel + steps) (chunk ++ rest) = passString fuel rest
  needs : ∀ {fuel rest after}, passString fuel (chunk ++ rest) = .ok after → steps ≤ fuel
  positive : 0 < steps
  short : steps ≤ chunk.length

theorem passString_plain (plain : IsPlain byte) (fuel : Nat) (rest : List UInt8) :
    passString (fuel + 1) (byte :: rest) = passString fuel rest := by
  simp [passString, plain.1, plain.2.1, plain.2.2]

theorem passes_plain (plain : IsPlain byte) : Passes 1 [byte] where
  pass := passString_plain plain
  needs {fuel rest after} done := by
    cases fuel with
    | zero => cases done
    | succ fuel => exact Nat.le_add_left _ _
  positive := Nat.one_pos
  short := Nat.le_refl _

theorem Passes.append {few many : Nat} {front back : List UInt8} (passesFront : Passes few front)
    (passesBack : Passes many back) : Passes (many + few) (front ++ back) where
  pass fuel rest := by
    rw [← Nat.add_assoc, List.append_assoc, passesFront.pass, passesBack.pass]
  needs {fuel rest after} done := by
    rw [List.append_assoc] at done
    obtain ⟨spare, rfl⟩ := Nat.exists_eq_add_of_le' (passesFront.needs done)
    rw [passesFront.pass] at done
    exact Nat.add_le_add_right (passesBack.needs done) few
  positive := Nat.add_pos_right _ passesFront.positive
  short := by
    rw [List.length_append, Nat.add_comm]
    exact Nat.add_le_add passesFront.short passesBack.short

theorem passes_character {c : Char} (plain : ∀ byte ∈ String.utf8EncodeChar c, IsPlain byte) :
    Passes (String.utf8EncodeChar c).length (String.utf8EncodeChar c) := by
  have passes (first : UInt8) (more : List UInt8) (plain : ∀ byte ∈ first :: more, IsPlain byte) :
      Passes (first :: more).length (first :: more) := by
    induction more generalizing first with
    | nil => exact passes_plain (plain first List.mem_cons_self)
    | cons second more ih =>
      have ⟨here, onward⟩ := List.forall_mem_cons.mp plain
      exact (passes_plain here).append (ih second onward)
  obtain ⟨first, more, encoded, -, -⟩ := Text.utf8EncodeChar_eq_cons c
  rw [encoded] at plain ⊢
  exact passes first more plain

theorem passes_surrogate : Passes 1 (Text.bytes "\\uDC00") where
  pass fuel rest := by
    rw [bytes_surrogate]
    rfl
  needs {fuel rest after} done := by
    cases fuel with
    | zero => cases done
    | succ fuel => exact Nat.le_add_left _ _
  positive := Nat.one_pos
  short := by decide

theorem Harmless.exists_passes {harmless : List UInt8} (fits : Harmless harmless) :
    ∃ steps, Passes steps harmless := by
  cases fits with
  | byte foreign => exact ⟨1, passes_plain (of_isForeign foreign).2.2.2⟩
  | surrogate =>
    have mark : Passes 1 (String.utf8EncodeChar '?') := passes_plain (by unfold IsPlain; decide)
    exact ⟨2, loneSurrogate_eq ▸ mark.append passes_surrogate⟩

theorem passString_escape {fuel : Nat} {value : Unit}
    (done : passString (fuel + 1) (ascii '\\' :: bytes) = .ok (value, rest)) :
    (∃ tail unit after, bytes = ascii 'u' :: tail ∧ hexUnit tail = .ok (unit, after) ∧
      passString fuel after = .ok (value, rest)) ∨
    ∃ letter tail, bytes = letter :: tail ∧ letter ≠ ascii 'u' ∧ (simpleEscape? letter).isSome ∧
      passString fuel tail = .ok (value, rest) := by
  have noQuote : (ascii '\\' == ascii '"') = false := by decide
  simp only [passString, noQuote, Bool.false_eq_true, if_false, beq_self_eq_true, if_true] at done
  split at done
  · cases done
  · next letter tail =>
    split at done
    · next isU =>
      obtain rfl := eq_of_beq isU
      split at done
      · next unit after read => exact .inl ⟨tail, unit, after, rfl, read, done⟩
      · cases done
    · next notU =>
      split at done
      · next simple => exact .inr ⟨letter, tail, rfl, by simpa using notU, simple, done⟩
      · cases done

theorem passString_hex {fuel unit : Nat} {after : List UInt8} (read : hexUnit bytes = .ok (unit, after)) :
    passString (fuel + 1) (ascii '\\' :: ascii 'u' :: bytes) = passString fuel after := by
  have noQuote : (ascii '\\' == ascii '"') = false := by decide
  simp [passString, noQuote, read]

theorem passString_simple {fuel : Nat} (notU : byte ≠ ascii 'u') (simple : (simpleEscape? byte).isSome) :
    passString (fuel + 1) (ascii '\\' :: byte :: rest) = passString fuel rest := by
  have noQuote : (ascii '\\' == ascii '"') = false := by decide
  simp [passString, noQuote, notU, simple]

theorem passString_control {c : Char} (basic : c.toNat < 0x80) (noQuote : c ≠ '"')
    (noBackslash : c ≠ '\\') (control : c.toNat < 0x20) (fuel : Nat) (rest : List UInt8) :
    ∃ fault, passString fuel (ascii c :: rest) = .error fault := by
  cases fuel with
  | zero => exact ⟨_, rfl⟩
  | succ fuel =>
    have notQuote : ascii c ≠ ascii '"' := fun same => noQuote (ascii_inj basic (by decide) same)
    have notBackslash : ascii c ≠ ascii '\\' :=
      fun same => noBackslash (ascii_inj basic (by decide) same)
    have low : ascii c < 0x20 := UInt8.lt_iff_toNat_lt.mpr (by rwa [toNat_ascii basic])
    refine ⟨⟨.controlCharacter, ascii c :: rest, true⟩, ?_⟩
    simp [passString, notQuote, notBackslash, low, fail]

/-- Whether strings that are passed over with this fuel are passed over in mended bytes, with as much
fuel as these are long. -/
def PassedMended (fuel : Nat) : Prop :=
  ∀ enough bytes others value rest, Mends bytes others → others.length ≤ enough →
    passString fuel bytes = .ok (value, rest) →
    ∃ after, passString enough others = .ok (value, after) ∧ Leaves others rest after

/-- Bytes that pass may stand for others that pass. -/
theorem passedMended_append {fuel enough few many : Nat} {front instead : List UInt8} {value : Unit}
    (less : ∀ spare < fuel, PassedMended spare) (passes : Passes few front)
    (alsoPasses : Passes many instead) (mends : Mends bytes others)
    (short : (instead ++ others).length ≤ enough)
    (done : passString fuel (front ++ bytes) = .ok (value, rest)) :
    ∃ after, passString enough (instead ++ others) = .ok (value, after) ∧
      Leaves (instead ++ others) rest after := by
  have needed := alsoPasses.short
  rw [List.length_append] at short
  obtain ⟨spare, rfl⟩ := Nat.exists_eq_add_of_le' (passes.needs done)
  obtain ⟨enough, rfl⟩ :=
    Nat.exists_eq_add_of_le' (Nat.le_trans needed (Nat.le_of_add_right_le short))
  rw [passes.pass] at done
  rw [alsoPasses.pass]
  obtain ⟨after, alsoDone, left⟩ := less spare (Nat.lt_add_of_pos_right passes.positive) enough
    _ _ _ _ mends (by omega) done
  refine ⟨after, alsoDone, left.mends, Nat.le_trans left.shrinks ?_⟩
  rw [List.length_append]
  exact Nat.le_add_left _ _

theorem passedMended_escape {fuel enough : Nat} {value : Unit} (less : PassedMended fuel)
    (mends : Mends bytes others) (short : others.length ≤ enough)
    (done : passString (fuel + 1) (ascii '\\' :: bytes) = .ok (value, rest)) :
    ∃ after, passString (enough + 1) (ascii '\\' :: others) = .ok (value, after) ∧
      Leaves others rest after := by
  rcases passString_escape done with
    ⟨tail, unit, middle, rfl, read, later⟩ | ⟨letter, tail, rfl, notU, simple, later⟩
  · obtain ⟨others, rfl, onward⟩ := mends.syntactic (by decide)
    obtain ⟨alsoMiddle, alsoRead, left⟩ := steady_hexUnit.run onward read
    have shorter := Nat.le_succ_of_le left.shrinks
    obtain ⟨after, alsoDone, further⟩ :=
      less enough _ _ _ _ left.mends (Nat.le_trans shorter short) later
    exact ⟨after, (passString_hex alsoRead).trans alsoDone, further.mends,
      Nat.le_trans further.shrinks shorter⟩
  · obtain ⟨others, rfl, onward⟩ := mends.kept (keeps_of_simpleEscape? simple)
    obtain ⟨after, alsoDone, further⟩ :=
      less enough _ _ _ _ onward (Nat.le_trans (Nat.le_succ _) short) later
    exact ⟨after, (passString_simple notU simple).trans alsoDone, further.mends,
      Nat.le_succ_of_le further.shrinks⟩

/-- One character or patch after another: what stands for it passes just as it does. -/
theorem passedMended (fuel : Nat) : PassedMended fuel := by
  induction fuel using Nat.strongRecOn with
  | ind fuel ih =>
  intro enough bytes mended value rest mends short done
  cases mends with
  | nil => cases fuel <;> cases done
  | patch spoilt fits onward =>
    obtain ⟨few, passes⟩ := spoilt.harmless.exists_passes
    obtain ⟨many, alsoPasses⟩ := fits.exists_passes
    exact passedMended_append ih passes alsoPasses onward short done
  | @character bytes others c onward =>
    by_cases inside : c ≠ '"' ∧ c ≠ '\\' ∧ ¬c.toNat < 0x20
    · have passes := passes_character (isPlain_of_mem_utf8EncodeChar inside.1 inside.2.1 inside.2.2)
      exact passedMended_append ih passes passes onward short done
    have basic : c.toNat < 0x80 := by
      by_cases isQuote : c = '"'
      · exact isQuote ▸ by decide
      · by_cases isBackslash : c = '\\'
        · exact isBackslash ▸ by decide
        · have control : c.toNat < 0x20 := by simpa [isQuote, isBackslash] using inside
          exact Nat.lt_trans control (by decide)
    rw [utf8EncodeChar_of_lt basic, List.singleton_append] at done short ⊢
    obtain ⟨enough, rfl⟩ := Nat.exists_eq_add_of_le' (Nat.zero_lt_of_lt short)
    cases fuel with
    | zero => cases done
    | succ fuel =>
      by_cases isQuote : c = '"'
      · subst isQuote
        cases done
        exact ⟨others, rfl, onward, Nat.le_succ _⟩
      by_cases isBackslash : c = '\\'
      · subst isBackslash
        obtain ⟨after, alsoDone, left⟩ := passedMended_escape (ih fuel (Nat.lt_succ_self _)) onward
          (Nat.le_of_succ_le_succ short) done
        exact ⟨after, alsoDone, left.mends, Nat.le_succ_of_le left.shrinks⟩
      · have control : c.toNat < 0x20 := by simpa [isQuote, isBackslash] using inside
        obtain ⟨fault, failed⟩ :=
          passString_control basic isQuote isBackslash control (fuel + 1) bytes
        rw [failed] at done
        cases done

theorem steady_passString : Steady fun rest => passString rest.length rest :=
  steady_of_run fun bytes others value rest mends done =>
    passedMended bytes.length others.length bytes others value rest mends (Nat.le_refl _) done

end PropertyAudit.Json
