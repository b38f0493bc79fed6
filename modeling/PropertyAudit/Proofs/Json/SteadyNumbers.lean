import PropertyAudit.Proofs.Json.Mending

/-! Numbers are read steadily, taken or passed over: a foreign byte ends one or is a fault in it. -/
namespace PropertyAudit.Json

open Reader

variable {α : Type} {byte other : UInt8} {byte? : Option UInt8} {bytes others rest : List UInt8}

/-! ### Digits -/

theorem digit?_of_isForeign (byte : UInt8) (foreign : isForeign byte) : digit? byte = none :=
  (of_isForeign foreign).1

theorem isExponentMark_of_isForeign (byte : UInt8) (foreign : isForeign byte) :
    isExponentMark byte = false :=
  (of_isForeign foreign).2.2.1

theorem isDigit_of_isForeign (byte : UInt8) (foreign : isForeign byte) :
    (digit? byte).isSome = false := by
  rw [digit?_of_isForeign byte foreign]
  rfl

theorem isForeign_of_digit? {d : Nat} (digit : digit? byte = some d) : isForeign byte = false := by
  refine Bool.eq_false_iff.mpr fun foreign => ?_
  rw [digit?_of_isForeign byte foreign] at digit
  cases digit

theorem steady_passDigits : Steady passDigits := by
  refine steady_of_run fun bytes mended value rest mends done => ?_
  cases done
  exact ⟨_, rfl, (mends.run isDigit_of_isForeign).2, (List.dropWhile_suffix _).length_le⟩

theorem steady_scaled (negative : Bool) (significand : Nat) (exponent : Int) :
    Steady (scaled negative significand exponent) := by
  refine steady_of_run fun bytes mended value rest mends done => ?_
  unfold scaled at done ⊢
  dsimp only at done ⊢
  split at done
  · next number found =>
    cases done
    exact ⟨mended, rfl, mends, Nat.le_refl _⟩
  · cases done

/-- Where no digit stands next, none stands next in mended bytes. -/
theorem Mends.head_of_digit? (mends : Mends (byte :: bytes) others) (noDigit : digit? byte = none) :
    ∃ other rest, others = other :: rest ∧ digit? other = none := by
  obtain ⟨other, rest, rfl, rfl | ⟨-, foreign⟩⟩ := mends.head
  · exact ⟨other, rest, rfl, noDigit⟩
  · exact ⟨other, rest, rfl, digit?_of_isForeign other foreign⟩

theorem steady_exponentDigits (exponent : Nat) :
    Steady fun rest => .ok (exponentDigits exponent rest) := by
  refine steady_of_run fun bytes mended value rest mends done => ?_
  induction bytes generalizing mended exponent with
  | nil =>
    obtain rfl := mends.eq_nil
    cases done
    exact ⟨[], rfl, .nil, Nat.le_refl _⟩
  | cons byte bytes ih =>
    simp only [exponentDigits] at done
    split at done
    · next noDigit =>
      obtain ⟨other, tail, rfl, alsoNone⟩ := mends.head_of_digit? noDigit
      cases done
      exact ⟨_, by simp [exponentDigits, alsoNone], mends, Nat.le_refl _⟩
    · next d digit =>
      obtain ⟨tail, rfl, onward⟩ := mends.syntactic (isForeign_of_digit? digit)
      simp only [exponentDigits, digit]
      split at done
      · next small =>
        obtain ⟨after, alsoDone, left⟩ := ih _ tail onward done
        exact ⟨after, by rwa [if_pos small], left.mends, Nat.le_succ_of_le left.shrinks⟩
      · next large =>
        cases done
        exact ⟨tail, by rw [if_neg large], onward, Nat.le_succ _⟩

theorem steady_significandDigits (significand count : Nat) :
    Steady fun rest => .ok (significandDigits significand count rest) := by
  refine steady_of_run fun bytes mended value rest mends done => ?_
  induction bytes generalizing mended significand count with
  | nil =>
    obtain rfl := mends.eq_nil
    cases done
    exact ⟨[], rfl, .nil, Nat.le_refl _⟩
  | cons byte bytes ih =>
    simp only [significandDigits] at done
    split at done
    · next noDigit =>
      obtain ⟨other, tail, rfl, alsoNone⟩ := mends.head_of_digit? noDigit
      cases done
      exact ⟨_, by simp [significandDigits, alsoNone], mends, Nat.le_refl _⟩
    · next d digit =>
      obtain ⟨tail, rfl, onward⟩ := mends.syntactic (isForeign_of_digit? digit)
      simp only [significandDigits, digit]
      split at done
      · next small =>
        obtain ⟨after, alsoDone, left⟩ := ih _ _ tail onward done
        exact ⟨after, by rwa [if_pos small], left.mends, Nat.le_succ_of_le left.shrinks⟩
      · next large =>
        cases done
        exact ⟨_, by rw [if_neg large], mends, Nat.le_refl _⟩

/-! ### Numbers that are taken -/

theorem steadyAt_exponentPart (skips : Skips byte?) (negative : Bool) (significand : Nat) (start : Int) :
    SteadyAt byte? (exponentPart negative significand start) := by
  unfold exponentPart
  refine skips.skip_bind ?_
  extract_lets zero signed
  have steadySigned (downward : Bool) : Steady (signed downward) := by
    refine Steady.peek (do skip; fail .invalidNumber) ?_ ?_ fun byte? skips => ?_
    · intro byte foreign
      simp only [digit?_of_isForeign byte foreign]
    · exact steady_of_error fun _ => ⟨_, rfl⟩
    · split
      · exact steady_fail _ _
      · refine skips.skip_bind ?_
        split
        · exact steady_fail _
        · refine (steady_exponentDigits _).bind fun exponent? => ?_
          split
          · exact steady_scaled _ _ _
          · split
            · exact steady_fail _
            · exact steady_passDigits.bind fun _ => steady_pure _
  have steadyPure (downward : Bool) : Steady (pure downward >>= signed) :=
    (steady_pure _).bind steadySigned
  refine Steady.peek (pure false >>= signed) ?_ (steadyPure false) fun byte? skips => ?_
  · intro byte foreign
    simp (disch := decide) only [beq_of_isForeign foreign, Bool.false_eq_true, if_false]
  · split
    · split
      · exact skips.skip_bind (steadyPure false)
      · split
        · exact skips.skip_bind (steadyPure true)
        · exact steadyPure false _
    · exact steadyPure false _

theorem steadyAt_fractionPart (skips : Skips byte?) (negative : Bool) (significand : Nat) (start : Int) :
    SteadyAt byte? (fractionPart negative significand start) := by
  unfold fractionPart
  refine skips.skip_bind ((steady_significandDigits _ _).bind fun (grown, count, full) => ?_)
  dsimp -zeta only
  extract_lets exponent counted
  have steadyCounted (taken : Unit) : Steady (counted taken) := by
    unfold counted
    split
    · refine Steady.peek (failNext .invalidNumber) (fun _ _ => rfl) (steady_failNext _) fun byte? _ => ?_
      split
      · exact steady_failNext _ _
      · exact steady_fail _ _
    · refine Steady.peek (scaled negative grown exponent) ?_ (steady_scaled _ _ _) fun byte? skips => ?_
      · intro byte foreign
        simp only [isExponentMark_of_isForeign byte foreign, Bool.false_eq_true, if_false]
      · split
        · split
          · exact steadyAt_exponentPart skips _ _ _
          · exact steady_scaled _ _ _ _
        · exact steady_scaled _ _ _ _
  split
  · exact steady_passDigits.bind steadyCounted
  · exact steadyCounted ()

/-- What may follow digits: places, an exponent, or what ends the number. -/
theorem steady_continued (negative : Bool) (significand : Nat) (start : Int) {ended : Reader Number}
    (steady : Steady ended) :
    Steady (next? >>= fun byte? => match byte? with
      | some byte =>
        if byte == ascii '.' then fractionPart negative significand start
        else if isExponentMark byte then exponentPart negative significand start
        else ended
      | none => ended) := by
  refine Steady.peek ended ?_ steady fun byte? skips => ?_
  · intro byte foreign
    simp (disch := decide) only [beq_of_isForeign foreign, isExponentMark_of_isForeign byte foreign,
      Bool.false_eq_true, if_false]
  · split
    · split
      · exact steadyAt_fractionPart skips _ _ _
      · split
        · exact steadyAt_exponentPart skips _ _ _
        · exact steady _
    · exact steady _

theorem steady_numberTail (negative : Bool) (significand : Nat) :
    Steady (numberTail negative significand) :=
  steady_continued _ _ _ (steady_pure _)

theorem drop_length_takeWhile (inside : UInt8 → Bool) (bytes : List UInt8) :
    bytes.drop (bytes.takeWhile inside).length = bytes.dropWhile inside := by
  calc bytes.drop (bytes.takeWhile inside).length
    _ = (bytes.takeWhile inside ++ bytes.dropWhile inside).drop (bytes.takeWhile inside).length := by
      rw [List.takeWhile_append_dropWhile]
    _ = bytes.dropWhile inside := List.drop_left

theorem steady_longNumber (negative : Bool) (significand : Nat) :
    Steady (longNumber negative significand) := by
  have unfolded (bytes : List UInt8) : longNumber negative significand bytes =
      (next? >>= fun byte? => match byte? with
        | some byte =>
          if byte == ascii '.' then fractionPart negative significand
            (bytes.takeWhile fun b => (digit? b).isSome).length
          else if isExponentMark byte then exponentPart negative significand
            (bytes.takeWhile fun b => (digit? b).isSome).length
          else scaled negative significand (bytes.takeWhile fun b => (digit? b).isSome).length
        | none => scaled negative significand (bytes.takeWhile fun b => (digit? b).isSome).length)
        (bytes.dropWhile fun b => (digit? b).isSome) := by
    unfold longNumber
    dsimp only
    rw [drop_length_takeWhile, run_next?]
    cases bytes.dropWhile fun b => (digit? b).isSome with
    | nil => rfl
    | cons byte tail =>
      by_cases point : byte == ascii '.'
      · simp only [List.head?_cons, point, if_true]
      · by_cases mark : isExponentMark byte <;>
          simp only [List.head?_cons, point, mark, Bool.false_eq_true, if_true, if_false]
  refine steady_of_run fun bytes mended value rest mends done => ?_
  obtain ⟨same, onward⟩ := mends.run isDigit_of_isForeign
  rw [unfolded] at done ⊢
  rw [same]
  obtain ⟨after, alsoDone, left⟩ := (steady_continued _ _ _ (steady_scaled _ _ _)).run onward done
  exact ⟨after, alsoDone, left.mends,
    Nat.le_trans left.shrinks (List.dropWhile_suffix _).length_le⟩

theorem steady_number (negative : Bool) : Steady (number negative) := by
  unfold number
  refine Steady.peek (do skip; fail .invalidNumber) ?_ ?_ fun byte? skips => ?_
  · intro byte foreign
    simp only [digit?_of_isForeign byte foreign]
  · exact steady_of_error fun _ => ⟨_, rfl⟩
  · split
    · exact steady_fail _ _
    · refine skips.skip_bind ?_
      split
      · exact steady_fail _
      · refine Steady.peek (numberTail negative 0) ?_ (steady_numberTail _ _) fun byte? skips => ?_
        · intro byte foreign
          simp only [Option.bind_some, digit?_of_isForeign byte foreign]
        · split
          · exact steady_failNext _ _
          · exact steady_numberTail _ _ _
      · refine (steady_significandDigits _ _).bind fun (grown, count, full) => ?_
        dsimp only
        split
        · exact steady_longNumber _ _
        · exact steady_numberTail _ _

/-! ### Numbers that are passed over -/

theorem steadyAt_passExponent (skips : Skips byte?) : SteadyAt byte? passExponent := by
  unfold passExponent
  refine skips.skip_bind ?_
  extract_lets signed
  have steadySigned (taken : Unit) : Steady (signed taken) := by
    refine Steady.peek (do skip; fail .invalidNumber) ?_ ?_ fun byte? skips => ?_
    · intro byte foreign
      simp only [Option.bind_some, digit?_of_isForeign byte foreign]
    · exact steady_of_error fun _ => ⟨_, rfl⟩
    · split
      · exact skips.skip_bind steady_passDigits
      · exact skips.skip_bind (steady_fail _)
  refine Steady.peek (signed ()) ?_ (steadySigned ()) fun byte? skips => ?_
  · intro byte foreign
    simp (disch := decide) only [beq_of_isForeign foreign, Bool.or_self, Bool.false_eq_true, if_false]
  · split
    · split
      · exact skips.skip.bind steadySigned
      · exact steadySigned () _
    · exact steadySigned () _

theorem steady_passNumber : Steady passNumber := by
  unfold passNumber
  extract_lets places counted
  have steadyPlaces (taken : Unit) : Steady (places taken) := by
    refine steady_passDigits.bind fun _ =>
      Steady.peek (pure ()) ?_ (steady_pure _) fun byte? skips => ?_
    · intro byte foreign
      simp only [Option.any_some, isExponentMark_of_isForeign byte foreign, Bool.false_eq_true, if_false]
    · split
      · exact steadyAt_passExponent skips
      · exact steady_pure _ _
  have steadyCounted (taken : Unit) : Steady (counted taken) := by
    refine Steady.peek (pure ()) ?_ (steady_pure _) fun byte? skips => ?_
    · intro byte foreign
      simp (disch := decide) only [beq_of_isForeign foreign, isExponentMark_of_isForeign byte foreign,
        Bool.false_eq_true, if_false]
    · split
      · split
        · refine skips.skip_bind (Steady.peek (failNext .invalidNumber >>= places) ?_
            ((steady_failNext _).bind steadyPlaces) fun byte? skips => ?_)
          · intro byte foreign
            simp only [Option.bind_some, digit?_of_isForeign byte foreign, Option.isNone_none, if_true]
          · split
            · exact (steady_failNext _).bind steadyPlaces _
            · exact steadyPlaces () _
        · split
          · exact steadyAt_passExponent skips
          · exact steady_pure _ _
      · exact steady_pure _ _
  refine Steady.peek (do skip; fail .invalidNumber >>= counted) ?_ ?_ fun byte? skips => ?_
  · intro byte foreign
    simp only [Option.bind_some, digit?_of_isForeign byte foreign]
  · exact steady_of_error fun _ => ⟨_, rfl⟩
  · split
    · exact skips.skip_bind ((steady_fail _).bind steadyCounted)
    · refine skips.skip_bind (Steady.peek (counted ()) ?_ (steadyCounted ()) fun byte? skips => ?_)
      · intro byte foreign
        simp only [Option.bind_some, digit?_of_isForeign byte foreign, Option.isSome_none,
          Bool.false_eq_true, if_false]
      · split
        · exact (steady_failNext _).bind steadyCounted _
        · exact steadyCounted () _
    · exact steady_passDigits.bind steadyCounted _

end PropertyAudit.Json
