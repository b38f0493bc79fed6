import Mathlib.Algebra.Group.Nat.Defs
import PropertyAudit.Proofs.Json.Source

/-! What readers make of the numbers of a text. It does not depend on what follows a number, as long as that
cannot continue it: a number that is taken may be out of range, but then no continuation mends it. A
number that is passed over may have any size. -/
namespace PropertyAudit.Json

open Reader Decoder

variable {α β : Type} {byte : UInt8} {bytes rest : List UInt8}

/-! ### What a reader takes -/

def run? (reader : Reader α) (bytes : List UInt8) : Option (α × List UInt8) :=
  (reader bytes).toOption

theorem run?_eq_some_iff {reader : Reader α} {taken : α × List UInt8} :
    run? reader bytes = some taken ↔ reader bytes = .ok taken := by
  unfold run?
  cases reader bytes <;> simp [Except.toOption]

theorem run?_of_ok {reader : Reader α} {taken : α × List UInt8} (done : reader bytes = .ok taken) :
    run? reader bytes = some taken := run?_eq_some_iff.mpr done

@[simp] theorem run?_pure (value : α) : run? (pure value) bytes = some (value, bytes) := rfl

theorem run?_failNext (cause : Cause) : run? (failNext cause : Reader α) bytes = none := rfl

theorem run?_raise (cause : Cause) : run? (raise cause : Reader α) bytes = none := rfl

@[simp] theorem run?_raiseError (result : Except Cause α) :
    run? (raiseError result) bytes = result.toOption.map (·, bytes) := by
  cases result <;> rfl

theorem run?_bind (first : Reader α) (next : α → Reader β) :
    run? (first >>= next) bytes = (run? first bytes).bind fun taken => run? (next taken.1) taken.2 := by
  cases done : first bytes with
  | error fault => simp [run?, run_bind_error done, done, Except.toOption]
  | ok taken => simp [run?, run_bind done, done, Except.toOption]

theorem run?_map (convert : α → β) (reader : Reader α) :
    run? (convert <$> reader) bytes =
      (run? reader bytes).map fun taken => (convert taken.1, taken.2) := by
  rw [map_eq_pure_bind, run?_bind, Option.map_eq_bind]
  rfl

@[simp] theorem run?_next? : run? next? bytes = some (bytes.head?, bytes) := rfl

@[simp] theorem run?_skip : run? skip bytes = some ((), bytes.tail) := rfl

@[simp] theorem run?_nextToken? :
    run? nextToken? bytes = some ((dropBlanks bytes).head?, dropBlanks bytes) := rfl

@[simp] theorem run?_ok (take : List UInt8 → α × List UInt8) :
    run? (fun rest => .ok (take rest) : Reader α) bytes = some (take bytes) := rfl

/-- Whether what the reader makes of the text is settled by the text, unless a number goes on. -/
def Settles (reader : Reader α) (text : List UInt8) : Prop :=
  ∃ outcome : Option α, ∀ rest, Ends rest → run? reader (text ++ rest) = outcome.map (·, rest)

/-! ### Digits -/

def NoDigit (rest : List UInt8) : Prop := ∀ byte ∈ rest.head?, digit? byte = none

theorem Ends.noDigit (ends : Ends rest) : NoDigit rest := fun byte next => (ends byte next).1

theorem NoDigit.head?_bind (noDigit : NoDigit rest) : rest.head?.bind digit? = none := by
  cases rest with
  | nil => rfl
  | cons byte rest => exact noDigit byte rfl

theorem digit?_le : ∀ byte, ∀ d ∈ digit? byte, d ≤ 9 := forall_byte (by decide +kernel)

theorem dropWhile_digits {digits : List UInt8} (allDigits : AllDigits digits) (noDigit : NoDigit rest) :
    (digits ++ rest).dropWhile (fun b => (digit? b).isSome) = rest := by
  rw [List.dropWhile_append_of_pos allDigits]
  cases rest with
  | nil => rfl
  | cons byte rest => rw [List.dropWhile_cons_of_neg (by simp [noDigit byte rfl])]

theorem run?_passDigits {digits : List UInt8} (allDigits : AllDigits digits) (noDigit : NoDigit rest) :
    run? passDigits (digits ++ rest) = some ((), rest) := by
  rw [show passDigits = fun rest => .ok ((), rest.dropWhile fun b => (digit? b).isSome) from rfl,
    run?_ok, dropWhile_digits allDigits noDigit]

theorem exists_significandDigits {digits : List UInt8} (significand count : Nat)
    (allDigits : AllDigits digits) :
    ∃ grown counted full left, AllDigits left ∧ (full = false → left = []) ∧
      ((significand + 1) * 10 ^ digits.length ≤ significandLimit → full = false) ∧
      ∀ rest, NoDigit rest →
        significandDigits significand count (digits ++ rest) = ((grown, counted, full), left ++ rest) := by
  induction digits generalizing significand count with
  | nil =>
    refine ⟨significand, count, false, [], by simp [AllDigits], fun _ => rfl, fun _ => rfl, ?_⟩
    intro rest noDigit
    cases rest with
    | nil => rfl
    | cons byte rest => simp [significandDigits, noDigit byte rfl]
  | cons byte digits ih =>
    obtain ⟨digit, others⟩ := List.forall_mem_cons.mp allDigits
    obtain ⟨d, digit⟩ := Option.isSome_iff_exists.mp digit
    have small : d ≤ 9 := digit?_le byte d digit
    by_cases fits : 10 * significand + d < significandLimit
    · obtain ⟨grown, counted, full, left, leftDigits, leftNil, bounded, read⟩ :=
        ih (10 * significand + d) (count + 1) others
      refine ⟨grown, counted, full, left, leftDigits, leftNil, fun enough => bounded ?_, fun rest noDigit => ?_⟩
      · refine Nat.le_trans ?_ enough
        rw [List.length_cons, Nat.pow_succ', ← Nat.mul_assoc]
        exact Nat.mul_le_mul_right _ (by omega)
      · simpa [significandDigits, digit, fits] using read rest noDigit
    · refine ⟨significand, count, true, byte :: digits, allDigits, fun full => absurd full (by decide),
        fun enough => ?_, fun rest _ => ?_⟩
      · refine absurd (Nat.lt_of_lt_of_le ?_ enough) fits
        rw [List.length_cons, Nat.pow_succ', ← Nat.mul_assoc]
        exact Nat.lt_of_lt_of_le (by omega) (Nat.le_mul_of_pos_right _ (Nat.pow_pos (by decide)))
      · simp [significandDigits, digit, fits]

theorem exists_exponentDigits {digits : List UInt8} (exponent : Nat) (allDigits : AllDigits digits) :
    ∃ exponent? left, AllDigits left ∧ (exponent? ≠ none → left = []) ∧
      ∀ rest, NoDigit rest →
        exponentDigits exponent (digits ++ rest) = (exponent?, left ++ rest) := by
  induction digits generalizing exponent with
  | nil =>
    refine ⟨some exponent, [], by simp [AllDigits], fun _ => rfl, fun rest noDigit => ?_⟩
    cases rest with
    | nil => rfl
    | cons byte rest => simp [exponentDigits, noDigit byte rfl]
  | cons byte digits ih =>
    obtain ⟨digit, others⟩ := List.forall_mem_cons.mp allDigits
    obtain ⟨d, digit⟩ := Option.isSome_iff_exists.mp digit
    by_cases fits : 10 * exponent + d < exponentLimit
    · obtain ⟨exponent?, left, leftDigits, leftNil, read⟩ := ih (10 * exponent + d) others
      exact ⟨exponent?, left, leftDigits, leftNil, fun rest noDigit => by
        simpa [exponentDigits, digit, fits] using read rest noDigit⟩
    · exact ⟨none, digits, others, fun some => absurd rfl some, fun rest _ => by
        simp [exponentDigits, digit, fits]⟩

/-! ### Numbers that are taken -/

theorem Settles.of_eq {reader : Reader α} {other : Reader α} {text front : List UInt8}
    (settles : Settles other front)
    (same : ∀ rest, Ends rest → run? reader (text ++ rest) = run? other (front ++ rest)) :
    Settles reader text := by
  obtain ⟨outcome, taken⟩ := settles
  exact ⟨outcome, fun rest ends => (same rest ends).trans (taken rest ends)⟩

theorem settles_none {reader : Reader α} {text : List UInt8}
    (fails : ∀ rest, Ends rest → run? reader (text ++ rest) = none) : Settles reader text :=
  ⟨none, fails⟩

theorem settles_some {reader : Reader α} {text : List UInt8} (value : α)
    (takes : ∀ rest, Ends rest → run? reader (text ++ rest) = some (value, rest)) :
    Settles reader text :=
  ⟨some value, takes⟩

theorem settles_scaled (negative : Bool) (significand : Nat) (exponent : Int) :
    Settles (scaled negative significand exponent) [] := by
  unfold scaled Settles run?
  dsimp only
  split
  · next value _ => exact ⟨some (Number.binary { value with negative := negative }), fun _ _ => rfl⟩
  · exact ⟨none, fun _ _ => rfl⟩

theorem not_mark_of_digit? : ∀ byte, (digit? byte).isSome →
    byte ≠ ascii '+' ∧ byte ≠ ascii '-' ∧ byte ≠ ascii '.' ∧ isExponentMark byte = false :=
  forall_byte (by decide +kernel)

theorem not_point_of_isExponentMark (byte : UInt8) (mark : isExponentMark byte) : byte ≠ ascii '.' := by
  rintro rfl
  exact absurd mark (by decide)

theorem settles_exponentPart {mark : UInt8} {sign digits : List UInt8} (negative : Bool)
    (significand : Nat) (start : Int) (isSign : sign ∈ [[], [ascii '+'], [ascii '-']])
    (notEmpty : digits ≠ []) (allDigits : AllDigits digits) :
    Settles (exponentPart negative significand start) (mark :: (sign ++ digits)) := by
  obtain ⟨first, more, rfl⟩ := List.exists_cons_of_ne_nil notEmpty
  obtain ⟨digit, others⟩ := List.forall_mem_cons.mp allDigits
  obtain ⟨noPlus, noMinus, -, -⟩ := not_mark_of_digit? first digit
  obtain ⟨d, digit⟩ := Option.isSome_iff_exists.mp digit
  obtain ⟨exponent?, left, leftDigits, leftNil, read⟩ := exists_exponentDigits d others
  unfold exponentPart
  extract_lets zero signed
  have settled (downward : Bool) : Settles (signed downward) (first :: more) := by
    cases exponent? with
    | none =>
      have onward (rest : List UInt8) (ends : Ends rest) :
          run? (signed downward) (first :: more ++ rest) =
            run? (if significand != 0 && !downward then fail .numberOutOfRange
              else do
                passDigits
                pure (.binary { zero with negative })) (left ++ rest) := by
        simp only [signed, run?_bind, run?_next?, List.cons_append, List.head?_cons, Option.bind_some,
          run?_skip, List.tail_cons, digit, run?_ok, read rest ends.noDigit]
      refine Settles.of_eq ?_ onward
      split
      · exact settles_none fun _ _ => rfl
      · refine settles_some (.binary { zero with negative }) fun rest ends => ?_
        rw [run?_bind, run?_passDigits leftDigits ends.noDigit]
        rfl
    | some exponent =>
      have onward (rest : List UInt8) (ends : Ends rest) :
          run? (signed downward) (first :: more ++ rest) =
            run? (scaled negative significand
              (clampExponent (if downward then start - exponent else start + exponent))) (left ++ rest) := by
        simp only [signed, run?_bind, run?_next?, List.cons_append, List.head?_cons, Option.bind_some,
          run?_skip, List.tail_cons, digit, run?_ok, read rest ends.noDigit]
      obtain rfl := leftNil (Option.some_ne_none _)
      exact (settles_scaled _ _ _).of_eq onward
  simp only [List.mem_cons, List.not_mem_nil, or_false] at isSign
  rcases isSign with rfl | rfl | rfl
  · refine (settled false).of_eq fun rest ends => ?_
    simp [run?_bind, noPlus, noMinus]
  · refine (settled false).of_eq fun rest ends => ?_
    simp [run?_bind]
  · refine (settled true).of_eq fun rest ends => ?_
    have distinct : ascii '-' ≠ ascii '+' := by decide
    simp [run?_bind, distinct]

/-- An exponent, or what ends the number. -/
theorem settles_marked {exponent : List UInt8} (isExponent : IsExponent exponent) (negative : Bool)
    (significand : Nat) (start : Int) {ended : Reader Number} (settles : Settles ended []) :
    Settles (next? >>= fun byte? => match byte? with
      | some byte =>
        if isExponentMark byte then exponentPart negative significand start else ended
      | none => ended) exponent := by
  cases isExponent with
  | none =>
    refine settles.of_eq fun rest ends => ?_
    rw [List.nil_append, run?_bind, run?_next?]
    cases rest with
    | nil => rfl
    | cons byte rest => simp [(ends byte rfl).2.1]
  | @mark mark sign digits isMark isSign notEmpty allDigits =>
    have part : Settles (exponentPart negative significand start) (mark :: (sign ++ digits)) :=
      settles_exponentPart negative significand start isSign notEmpty allDigits
    refine part.of_eq fun rest ends => ?_
    simp [run?_bind, isMark]

theorem noDigit_exponent {exponent : List UInt8} (isExponent : IsExponent exponent) (ends : Ends rest) :
    NoDigit (exponent ++ rest) := by
  cases isExponent with
  | none => exact ends.noDigit
  | mark isMark _ _ _ =>
    intro byte next
    obtain rfl := Option.some.inj next
    refine Option.not_isSome_iff_eq_none.mp fun digit => ?_
    rw [(not_mark_of_digit? _ digit).2.2.2] at isMark
    cases isMark

theorem settles_fractionPart {digits exponent : List UInt8} (allDigits : AllDigits digits)
    (isExponent : IsExponent exponent) (negative : Bool) (significand : Nat) (start : Int) :
    Settles (fractionPart negative significand start) (ascii '.' :: (digits ++ exponent)) := by
  obtain ⟨grown, count, full, left, leftDigits, leftNil, -, read⟩ :=
    exists_significandDigits significand 0 allDigits
  have settled := settles_marked isExponent negative grown (start - count)
    (settles_scaled negative grown (start - count))
  have onward (rest : List UInt8) (ends : Ends rest) :
      run? (fractionPart negative significand start) (ascii '.' :: (digits ++ exponent) ++ rest) =
        run? (if count = 0 && !full then (do
            match ← next? with
            | some _ => failNext .invalidNumber
            | none => fail .endInValue)
          else next? >>= fun byte? => match byte? with
            | some byte => if isExponentMark byte then exponentPart negative grown (start - count)
              else scaled negative grown (start - count)
            | none => scaled negative grown (start - count)) (exponent ++ rest) := by
    have noDigit := noDigit_exponent isExponent ends
    unfold fractionPart
    simp only [run?_bind, run?_skip, Option.bind_some, List.cons_append, List.tail_cons,
      List.append_assoc, run?_ok, read _ noDigit]
    cases full with
    | true =>
      simp only [if_true, run?_bind, run?_passDigits leftDigits noDigit]
      rfl
    | false =>
      obtain rfl := leftNil rfl
      rfl
  split at onward
  · refine settles_none fun rest ends => ?_
    rw [onward rest ends, run?_bind, run?_next?]
    cases (exponent ++ rest).head? <;> rfl
  · exact settled.of_eq onward

/-- What may follow digits: places, an exponent, or what ends the number. -/
theorem settles_continued {fraction exponent : List UInt8} (isFraction : IsFraction fraction)
    (isExponent : IsExponent exponent) (negative : Bool) (significand : Nat) (start : Int)
    {ended : Reader Number} (settles : Settles ended []) :
    Settles (next? >>= fun byte? => match byte? with
      | some byte =>
        if byte == ascii '.' then fractionPart negative significand start
        else if isExponentMark byte then exponentPart negative significand start
        else ended
      | none => ended) (fraction ++ exponent) := by
  cases isFraction with
  | none =>
    refine (settles_marked isExponent negative significand start settles).of_eq fun rest ends => ?_
    rw [List.nil_append, run?_bind, run?_bind, run?_next?]
    have noPoint : ∀ byte ∈ (exponent ++ rest).head?, byte ≠ ascii '.' := by
      cases isExponent with
      | none => exact fun byte next => (ends byte next).2.2
      | mark isMark _ _ _ =>
        intro byte next
        obtain rfl := Option.some.inj next
        exact not_point_of_isExponentMark _ isMark
    cases after : (exponent ++ rest).head? with
    | none => rfl
    | some byte => simp [noPoint byte after]
  | @point digits notEmpty allDigits =>
    refine (settles_fractionPart allDigits isExponent negative significand start).of_eq fun rest ends => ?_
    simp [run?_bind]

theorem settles_numberTail {fraction exponent : List UInt8} (isFraction : IsFraction fraction)
    (isExponent : IsExponent exponent) (negative : Bool) (significand : Nat) :
    Settles (numberTail negative significand) (fraction ++ exponent) :=
  settles_continued isFraction isExponent _ _ _ (settles_some _ fun _ _ => rfl)

theorem noDigit_fraction {fraction exponent : List UInt8} (isFraction : IsFraction fraction)
    (isExponent : IsExponent exponent) (ends : Ends rest) : NoDigit (fraction ++ exponent ++ rest) := by
  cases isFraction with
  | none => exact noDigit_exponent isExponent ends
  | point _ _ =>
    intro byte next
    obtain rfl := Option.some.inj next
    decide

theorem takeWhile_digits {digits : List UInt8} (allDigits : AllDigits digits) (noDigit : NoDigit rest) :
    (digits ++ rest).takeWhile (fun b => (digit? b).isSome) = digits := by
  rw [List.takeWhile_append_of_pos allDigits]
  cases rest with
  | nil => exact List.append_nil _
  | cons byte rest => rw [List.takeWhile_cons_of_neg (by simp [noDigit byte rfl]), List.append_nil]

theorem settles_longNumber {left fraction exponent : List UInt8} (leftDigits : AllDigits left)
    (isFraction : IsFraction fraction) (isExponent : IsExponent exponent) (negative : Bool)
    (significand : Nat) :
    Settles (longNumber negative significand) (left ++ (fraction ++ exponent)) := by
  refine (settles_continued isFraction isExponent negative significand left.length
    (settles_scaled negative significand left.length)).of_eq fun rest ends => ?_
  have noDigit := noDigit_fraction isFraction isExponent ends
  rw [List.append_assoc, run?_bind, run?_next?]
  unfold longNumber run?
  dsimp only
  rw [takeWhile_digits leftDigits noDigit, List.drop_left]
  cases (fraction ++ exponent ++ rest).head? with
  | none => rfl
  | some byte =>
    simp only [Option.bind_some]
    split
    · rfl
    · split <;> rfl

/-- The digits before the point are taken as long as they fit; nineteen of them do. -/
theorem exists_number {whole : List UInt8} (isWhole : IsWhole whole) (negative : Bool) :
    ∃ grown full left, AllDigits left ∧ (full = false → left = []) ∧
      (whole.length ≤ 19 → full = false) ∧
      ∀ rest, NoDigit rest → run? (number negative) (whole ++ rest) =
        run? (if full then longNumber negative grown else numberTail negative grown) (left ++ rest) := by
  cases isWhole with
  | zero =>
    refine ⟨0, false, [], by simp [AllDigits], fun _ => rfl, fun _ => rfl, fun rest noDigit => ?_⟩
    have zero : digit? (ascii '0') = some 0 := by decide
    unfold number
    simp only [run?_bind, run?_next?, List.cons_append, List.nil_append, List.head?_cons,
      Option.bind_some, run?_skip, List.tail_cons, zero, noDigit.head?_bind]
    rfl
  | @digits first more d digit allDigits =>
    obtain ⟨grown, count, full, left, leftDigits, leftNil, bounded, read⟩ :=
      exists_significandDigits (d + 1) 1 allDigits
    refine ⟨grown, full, left, leftDigits, leftNil, fun few => bounded ?_, fun rest noDigit => ?_⟩
    · have small := digit?_le first (d + 1) digit
      calc (d + 1 + 1) * 10 ^ more.length
        _ ≤ 10 * 10 ^ 18 :=
          Nat.mul_le_mul (by omega) (Nat.pow_le_pow_right (by decide) (Nat.le_of_succ_le_succ few))
        _ ≤ significandLimit := by decide
    · unfold number
      simp only [run?_bind, run?_next?, List.cons_append, List.head?_cons, Option.bind_some, run?_skip,
        List.tail_cons, digit, run?_ok, read rest noDigit]

theorem settles_number (numeral : Numeral) : Settles (number numeral.negative) numeral.unsigned := by
  obtain ⟨negative, whole, fraction, exponent, isWhole, isFraction, isExponent⟩ := numeral
  obtain ⟨grown, full, left, leftDigits, leftNil, -, read⟩ := exists_number isWhole negative
  have onward (rest : List UInt8) (ends : Ends rest) :=
    read _ (noDigit_fraction isFraction isExponent ends)
  cases full with
  | true =>
    refine (settles_longNumber leftDigits isFraction isExponent negative grown).of_eq fun rest ends => ?_
    simpa [Numeral.unsigned] using onward rest ends
  | false =>
    obtain rfl := leftNil rfl
    refine (settles_numberTail isFraction isExponent negative grown).of_eq fun rest ends => ?_
    simpa [Numeral.unsigned] using onward rest ends

theorem exists_numberTail (negative : Bool) (significand : Nat) :
    ∃ value, ∀ rest, Ends rest → run? (numberTail negative significand) rest = some (value, rest) := by
  unfold numberTail
  extract_lets _ whole
  refine ⟨whole, fun rest ends => ?_⟩
  rw [run?_bind, run?_next?]
  cases rest with
  | nil => rfl
  | cons byte rest =>
    obtain ⟨-, noExponent, noPoint⟩ := ends byte rfl
    simp [noExponent, noPoint]

theorem exists_number_of_isSmall {numeral : Numeral} (isSmall : numeral.IsSmall) :
    ∃ value, ∀ rest, Ends rest →
      run? (number numeral.negative) (numeral.unsigned ++ rest) = some (value, rest) := by
  obtain ⟨negative, whole, fraction, exponent, isWhole, isFraction, isExponent⟩ := numeral
  obtain ⟨rfl, rfl, few⟩ := isSmall
  obtain ⟨grown, full, left, leftDigits, leftNil, fits, read⟩ := exists_number isWhole negative
  obtain rfl := fits few
  obtain rfl := leftNil rfl
  obtain ⟨value, ended⟩ := exists_numberTail negative grown
  refine ⟨value, fun rest ends => ?_⟩
  have unsigned : whole ++ ([] ++ []) ++ rest = whole ++ rest := by simp
  rw [Numeral.unsigned, unsigned, read rest ends.noDigit]
  exact ended rest ends

/-! ### Numbers that are passed over -/

theorem run?_passExponent {mark : UInt8} {sign digits : List UInt8}
    (isSign : sign ∈ [[], [ascii '+'], [ascii '-']]) (notEmpty : digits ≠ [])
    (allDigits : AllDigits digits) (noDigit : NoDigit rest) :
    run? passExponent (mark :: (sign ++ (digits ++ rest))) = some ((), rest) := by
  obtain ⟨first, more, rfl⟩ := List.exists_cons_of_ne_nil notEmpty
  obtain ⟨digit, others⟩ := List.forall_mem_cons.mp allDigits
  obtain ⟨noPlus, noMinus, -, -⟩ := not_mark_of_digit? first digit
  obtain ⟨d, digit⟩ := Option.isSome_iff_exists.mp digit
  unfold passExponent
  extract_lets signed
  have passed (taken : Unit) : run? (signed taken) (first :: (more ++ rest)) = some ((), rest) := by
    simp [signed, run?_bind, digit, run?_passDigits others noDigit]
  simp only [List.mem_cons, List.not_mem_nil, or_false] at isSign
  rcases isSign with rfl | rfl | rfl
  · simpa [run?_bind, noPlus, noMinus] using passed ()
  · simpa [run?_bind] using passed ()
  · simpa [run?_bind] using passed ()

theorem run?_passMarked {exponent : List UInt8} (isExponent : IsExponent exponent) (ends : Ends rest) :
    run? (next? >>= fun byte? => if byte?.any isExponentMark then passExponent else pure ())
      (exponent ++ rest) = some ((), rest) := by
  rw [run?_bind, run?_next?]
  cases isExponent with
  | none =>
    cases rest with
    | nil => rfl
    | cons byte rest => simp [(ends byte rfl).2.1]
  | mark isMark isSign notEmpty allDigits =>
    simpa [isMark] using run?_passExponent isSign notEmpty allDigits ends.noDigit

theorem run?_passNumber (numeral : Numeral) (ends : Ends rest) :
    run? passNumber (numeral.unsigned ++ rest) = some ((), rest) := by
  obtain ⟨negative, whole, fraction, exponent, isWhole, isFraction, isExponent⟩ := numeral
  have noDigit := noDigit_fraction isFraction isExponent ends
  unfold passNumber
  extract_lets places counted
  have counts : run? (counted ()) (fraction ++ exponent ++ rest) = some ((), rest) := by
    unfold counted
    cases isFraction with
    | none =>
      have passed := run?_passMarked isExponent ends
      rw [List.nil_append]
      cases isExponent with
      | none =>
        cases rest with
        | nil => rfl
        | cons byte rest =>
          obtain ⟨-, noExponent, noPoint⟩ := ends byte rfl
          simp [run?_bind, noExponent, noPoint]
      | mark isMark _ _ _ =>
        have noPoint := not_point_of_isExponentMark _ isMark
        simpa [run?_bind, isMark, noPoint] using passed
    | @point digits notEmpty allDigits =>
      have passed := run?_passMarked isExponent ends
      have digitsEnd := noDigit_exponent isExponent ends
      obtain ⟨first, more, rfl⟩ := List.exists_cons_of_ne_nil notEmpty
      obtain ⟨d, digit⟩ := Option.isSome_iff_exists.mp (allDigits first List.mem_cons_self)
      have taken := run?_passDigits allDigits digitsEnd
      rw [List.cons_append] at taken
      simpa [run?_bind, places, digit, taken] using passed
  rw [Numeral.unsigned, List.append_assoc]
  generalize fraction ++ exponent ++ rest = tail at noDigit counts
  cases isWhole with
  | zero =>
    have zero : digit? (ascii '0') = some 0 := by decide
    simpa [run?_bind, zero, noDigit.head?_bind] using counts
  | @digits first more d digit allDigits =>
    have taken : run? passDigits (first :: more ++ tail) = some ((), tail) :=
      run?_passDigits (List.forall_mem_cons.mpr ⟨by simp [digit], allDigits⟩) noDigit
    rw [List.cons_append] at taken
    simpa [run?_bind, digit, taken] using counts

end PropertyAudit.Json
