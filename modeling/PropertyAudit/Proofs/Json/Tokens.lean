import PropertyAudit.Proofs.Json.Numerals
import PropertyAudit.Proofs.Json.ReadBack
import PropertyAudit.Proofs.Json.SteadyStrings

/-! What readers make of the strings and other tokens of a text. A string that is taken may hold escapes that
stand for no character, but then no continuation mends it. Every token can be passed over. -/
namespace PropertyAudit.Json

open Reader Decoder

variable {bytes rest : List UInt8}

/-! ### Strings that are taken -/

theorem exists_hexUnit {a b c d : UInt8} (isA : (hexDigit? a).isSome) (isB : (hexDigit? b).isSome)
    (isC : (hexDigit? c).isSome) (isD : (hexDigit? d).isSome) :
    ∃ unit, ∀ rest, hexUnit (a :: b :: c :: d :: rest) = .ok (unit, rest) := by
  obtain ⟨a', isA⟩ := Option.isSome_iff_exists.mp isA
  obtain ⟨b', isB⟩ := Option.isSome_iff_exists.mp isB
  obtain ⟨c', isC⟩ := Option.isSome_iff_exists.mp isC
  obtain ⟨d', isD⟩ := Option.isSome_iff_exists.mp isD
  exact ⟨4096 * a' + 256 * b' + 16 * c' + d', fun rest => by simp only [hexUnit, isA, isB, isC, isD]⟩

/-- Whether what is taken of a string that goes on like this does not depend on what follows it. -/
def StringSettles (taken bytes : List UInt8) : Prop :=
  ∃ outcome : Option (List UInt8), ∀ fuel rest, bytes.length < fuel →
    run? (stringBytes fuel taken) (bytes ++ ascii '"' :: rest) = outcome.map (·, rest)

theorem stringSettles_escape {taken tail more : List UInt8} {c : Char}
    (read : ∀ rest, escape (tail ++ rest) = .ok (c, more ++ rest)) (shorter : more.length ≤ tail.length)
    (settles : StringSettles ((String.utf8EncodeChar c).reverse ++ taken) more) :
    StringSettles taken (ascii '\\' :: tail) := by
  obtain ⟨outcome, settled⟩ := settles
  refine ⟨outcome, fun fuel rest enough => ?_⟩
  rw [List.length_cons] at enough
  obtain ⟨fuel, rfl⟩ := Nat.exists_eq_add_of_le' (Nat.zero_lt_of_lt enough)
  rw [List.cons_append, run?, stringBytes_escape (read _)]
  exact settled fuel rest (by omega)

theorem stringSettles_error {taken tail : List UInt8}
    (fails : ∀ rest, ∃ fault, escape (tail ++ ascii '"' :: rest) = .error fault) :
    StringSettles taken (ascii '\\' :: tail) := by
  refine ⟨none, fun fuel rest enough => ?_⟩
  obtain ⟨fuel, rfl⟩ := Nat.exists_eq_add_of_le' (Nat.zero_lt_of_lt enough)
  obtain ⟨fault, failed⟩ := fails rest
  have noQuote : (ascii '\\' == ascii '"') = false := by decide
  simp [run?, stringBytes, noQuote, failed, Except.toOption]

theorem escape_u (tail : List UInt8) : escape (ascii 'u' :: tail) = hexCharacter tail := by
  have noEscape : simpleEscape? (ascii 'u') = none := by decide
  simp [escape, noEscape]

def secondHalf (unit : Nat) : Reader Char := do
  pairByte (ascii '\\')
  pairByte (ascii 'u')
  let trailing ← hexUnit
  if isTrailing trailing then
    pure (Char.ofNat (0x10000 + 0x400 * (unit - 0xD800) + (trailing - 0xDC00)))
  else fail .loneSurrogate

theorem hexCharacter_eq : hexCharacter = (do
    let unit ← hexUnit
    if isTrailing unit then fail .loneSurrogate
    else if isLeading unit then secondHalf unit
    else pure (Char.ofNat unit)) := rfl

theorem pairByte_cons (byte : UInt8) : pairByte byte (byte :: rest) = .ok ((), rest) := by
  simp [pairByte]

theorem pairByte_error {expected byte : UInt8} (different : byte ≠ expected) :
    ∃ fault, pairByte expected (byte :: rest) = .error fault := by
  simp [pairByte, different, fail]

/-- What follows the first half of a pair either is its second half or is a fault in any case. -/
theorem secondHalf_cases (unit : Nat) {more : List UInt8} (isContent : IsContent more) :
    (∃ c after, IsContent after ∧ after.length < more.length ∧
      ∀ rest, secondHalf unit (more ++ rest) = .ok (c, after ++ rest)) ∨
    ∀ rest, ∃ fault, secondHalf unit (more ++ ascii '"' :: rest) = .error fault := by
  cases isContent with
  | nil => exact .inr fun rest => ⟨_, rfl⟩
  | plain isPlain _ =>
    refine .inr fun rest => ?_
    obtain ⟨fault, failed⟩ := pairByte_error isPlain.2.1
    exact ⟨fault, run_bind_error failed⟩
  | @letter letter more isLetter _ =>
    have notU : letter ≠ ascii 'u' := by
      rintro rfl
      exact absurd isLetter (by decide)
    refine .inr fun rest => ?_
    obtain ⟨fault, failed⟩ := pairByte_error notU
    exact ⟨fault, (run_bind (pairByte_cons _)).trans (run_bind_error failed)⟩
  | @digits a b c d more isA isB isC isD isContent =>
    obtain ⟨trailing, read⟩ := exists_hexUnit isA isB isC isD
    have onward (rest : List UInt8) :
        secondHalf unit (ascii '\\' :: ascii 'u' :: a :: b :: c :: d :: rest) =
          (if isTrailing trailing then
            pure (Char.ofNat (0x10000 + 0x400 * (unit - 0xD800) + (trailing - 0xDC00)))
          else fail .loneSurrogate : Reader Char) rest := by
      rw [secondHalf, run_bind (pairByte_cons _), run_bind (pairByte_cons _), run_bind (read rest)]
    split at onward
    · refine .inl ⟨_, more, isContent, ?_, fun rest => onward _⟩
      simp only [List.length_cons]
      omega
    · exact .inr fun rest => ⟨_, onward _⟩

theorem stringSettles_digits {a b c d : UInt8} {taken more : List UInt8} (isA : (hexDigit? a).isSome)
    (isB : (hexDigit? b).isSome) (isC : (hexDigit? c).isSome) (isD : (hexDigit? d).isSome)
    (isContent : IsContent more)
    (later : ∀ after, after.length ≤ more.length → IsContent after → ∀ taken, StringSettles taken after) :
    StringSettles taken (ascii '\\' :: ascii 'u' :: a :: b :: c :: d :: more) := by
  obtain ⟨unit, read⟩ := exists_hexUnit isA isB isC isD
  have onward (rest : List UInt8) :
      escape (ascii 'u' :: a :: b :: c :: d :: rest) =
        (if isTrailing unit then fail .loneSurrogate
        else if isLeading unit then secondHalf unit
        else pure (Char.ofNat unit)) rest := by
    rw [escape_u, hexCharacter_eq, run_bind (read rest)]
  have within {after : List UInt8} (shorter : after.length ≤ more.length) :
      after.length ≤ (ascii 'u' :: a :: b :: c :: d :: more).length := by
    simp only [List.length_cons]
    omega
  split at onward
  · exact stringSettles_error fun rest => ⟨_, onward _⟩
  · split at onward
    · rcases secondHalf_cases unit isContent with ⟨c, after, isContent, less, read⟩ | fails
      · have shorter := Nat.le_of_lt less
        exact stringSettles_escape (fun rest => (onward _).trans (read rest)) (within shorter)
          (later after shorter isContent _)
      · refine stringSettles_error fun rest => ?_
        obtain ⟨fault, failed⟩ := fails rest
        exact ⟨fault, (onward _).trans failed⟩
    · exact stringSettles_escape (fun rest => onward _) (within (Nat.le_refl _))
        (later more (Nat.le_refl _) isContent _)

/-- A pair of surrogates is taken as two pieces of content at once, so the induction is on the length. -/
theorem stringSettles (content : List UInt8) (isContent : IsContent content) (taken : List UInt8) :
    StringSettles taken content := by
  induction length : content.length using Nat.strongRecOn generalizing content taken with
  | ind count ih =>
    subst length
    cases isContent with
    | nil =>
      refine ⟨some taken.reverse, fun fuel rest enough => ?_⟩
      obtain ⟨fuel, rfl⟩ := Nat.exists_eq_add_of_le' (Nat.zero_lt_of_lt enough)
      simp [run?, stringBytes, Except.toOption]
    | @plain byte more isPlain isContent =>
      obtain ⟨outcome, settled⟩ := ih more.length (Nat.lt_succ_self _) more isContent (byte :: taken) rfl
      refine ⟨outcome, fun fuel rest enough => ?_⟩
      obtain ⟨fuel, rfl⟩ := Nat.exists_eq_add_of_le' (Nat.zero_lt_of_lt enough)
      have alone : ∀ other ∈ [byte], IsPlain other := by simpa using isPlain
      have one := stringBytes_plain alone fuel taken (more ++ ascii '"' :: rest)
      rw [List.cons_append, run?]
      exact (congrArg Except.toOption one).trans (settled fuel rest (Nat.lt_of_succ_lt_succ enough))
    | @letter letter more isLetter isContent =>
      obtain ⟨c, simple⟩ := Option.isSome_iff_exists.mp isLetter
      have read (rest : List UInt8) : escape (letter :: more ++ rest) = .ok (c, more ++ rest) := by
        simp [escape, simple]
      refine stringSettles_escape read (Nat.le_succ _) (ih more.length ?_ more isContent _ rfl)
      simp only [List.length_cons]
      omega
    | digits isA isB isC isD isContent =>
      refine stringSettles_digits isA isB isC isD isContent fun after shorter isContent taken =>
        ih after.length ?_ after isContent taken rfl
      simp only [List.length_cons]
      omega

theorem run?_stringTail_eq :
    run? stringTail bytes = (run? (stringBytes bytes.length []) bytes).bind fun taken =>
      (Text.ofBytes? taken.1).map (·, taken.2) := by
  unfold run? stringTail
  cases stringBytes bytes.length [] bytes with
  | error fault => rfl
  | ok taken =>
    simp only [Except.toOption, Option.bind_some]
    cases Text.ofBytes? taken.1 <;> rfl

/-- A string is taken as what its content spells, whatever follows its closing quote. -/
theorem run?_stringTail (content : Content) (rest : List UInt8) :
    run? stringTail (content.closed ++ rest) = content.string?.map (·, rest) := by
  obtain ⟨outcome, settled⟩ := stringSettles content.bytes content.isContent []
  have taken (rest : List UInt8) :
      run? stringTail (content.closed ++ rest) = (outcome.bind Text.ofBytes?).map (·, rest) := by
    rw [run?_stringTail_eq, Content.closed, List.append_assoc, List.singleton_append,
      settled _ rest (by simp)]
    cases outcome <;> rfl
  have alone := taken []
  rw [List.append_nil] at alone
  have spelled : content.string? = (run? stringTail content.closed).map (·.1) := rfl
  rw [taken, spelled, alone]
  cases outcome.bind Text.ofBytes? <;> rfl

/-! ### Strings that are passed over -/

theorem passString_of_isContent {bytes : List UInt8} (isContent : IsContent bytes) {fuel : Nat}
    (enough : bytes.length < fuel) (rest : List UInt8) :
    passString fuel (bytes ++ ascii '"' :: rest) = .ok ((), rest) := by
  induction isContent generalizing fuel with
  | nil =>
    obtain ⟨fuel, rfl⟩ := Nat.exists_eq_add_of_le' (Nat.zero_lt_of_lt enough)
    simp [passString]
  | plain isPlain _ ih =>
    obtain ⟨fuel, rfl⟩ := Nat.exists_eq_add_of_le' (Nat.zero_lt_of_lt enough)
    exact (passString_plain isPlain fuel _).trans (ih (Nat.lt_of_succ_lt_succ enough))
  | @letter letter more isLetter _ ih =>
    obtain ⟨fuel, rfl⟩ := Nat.exists_eq_add_of_le' (Nat.zero_lt_of_lt enough)
    have notU : letter ≠ ascii 'u' := by
      rintro rfl
      exact absurd isLetter (by decide)
    simp only [List.length_cons] at enough
    exact (passString_simple notU isLetter).trans (ih (by omega))
  | digits isA isB isC isD _ ih =>
    obtain ⟨fuel, rfl⟩ := Nat.exists_eq_add_of_le' (Nat.zero_lt_of_lt enough)
    obtain ⟨unit, read⟩ := exists_hexUnit isA isB isC isD
    simp only [List.length_cons] at enough
    exact (passString_hex (read _)).trans (ih (by omega))

theorem run?_passString (content : Content) (rest : List UInt8) :
    run? (fun rest => passString rest.length rest) (content.closed ++ rest) = some ((), rest) := by
  refine run?_of_ok ?_
  rw [Content.closed, List.append_assoc, List.singleton_append]
  exact passString_of_isContent content.isContent (by simp) rest

/-! ### Tokens -/

def Token.found? : Token → Option Found
  | .null => some .null
  | .boolean value => some (.boolean value)
  | .number numeral =>
    (run? (Reader.number numeral.negative) numeral.unsigned).map fun taken => taken.1.found
  | .string content => content.string?.map .string

theorem run?_number (numeral : Numeral) (ends : Ends rest) :
    run? (number numeral.negative) (numeral.unsigned ++ rest) =
      (run? (number numeral.negative) numeral.unsigned).map fun taken => (taken.1, rest) := by
  obtain ⟨outcome, settled⟩ := settles_number numeral
  have alone := settled [] ends_nil
  rw [List.append_nil] at alone
  rw [settled rest ends, alone]
  cases outcome <;> rfl

theorem first_of_digit? : ∀ byte, (digit? byte).isSome → isBlank byte = false ∧ byte ≠ ascii 'n' ∧
    byte ≠ ascii 't' ∧ byte ≠ ascii 'f' ∧ byte ≠ ascii '-' ∧ byte ≠ ascii '"' :=
  forall_byte (by decide +kernel)

theorem run?_found (token : Token) (ends : Ends rest) :
    run? Decoder.found (token.text ++ rest) = token.found?.map (·, rest) := by
  cases token with
  | null =>
    have takes : Takes Decoder.found Json.null .null := takes_found rfl
    exact run?_of_ok (takes [] _ rest allBlank_nil rfl ends)
  | boolean value =>
    have takes : Takes Decoder.found (Json.boolean value) (.boolean value) := takes_found rfl
    exact run?_of_ok (takes [] _ rest allBlank_nil rfl ends)
  | number numeral =>
    have read := run?_number numeral ends
    have found : run? (Number.found <$> number numeral.negative) (numeral.unsigned ++ rest) =
        (Token.number numeral).found?.map (·, rest) := by
      rw [run?_map, read, Token.found?, Option.map_map, Option.map_map]
      rfl
    rw [Token.text, Numeral.text]
    obtain ⟨first, more, whole, digit, -⟩ := numeral.isWhole.exists_cons
    obtain ⟨notBlank, noN, noT, noF, noSign, noQuote⟩ := first_of_digit? first digit
    split
    · next negative =>
      rw [negative] at found
      rw [List.cons_append, Decoder.found, run?_bind, run?_of_ok (nextToken?_cons (by decide)),
        Option.bind_some, ← found]
      rfl
    · next positive =>
      rw [Bool.eq_false_iff.mpr positive] at found
      rw [← found]
      rw [Numeral.unsigned, whole, List.cons_append, List.cons_append, Decoder.found, run?_bind,
        run?_of_ok (nextToken?_cons notBlank), Option.bind_some]
      simp only [beq_iff_eq, noN, noT, noF, noSign, digit, if_false, if_true]
  | string content =>
    have found : run? (Found.string <$> stringTail) (content.closed ++ rest) =
        (Token.string content).found?.map (·, rest) := by
      rw [run?_map, run?_stringTail, Token.found?, Option.map_map, Option.map_map]
      rfl
    rw [Token.text, Content.text, List.cons_append, Decoder.found, run?_bind,
      run?_of_ok (nextToken?_cons (by decide)), Option.bind_some, ← found]
    rfl

def Token.IsSmall : Token → Prop
  | .null | .boolean _ => True
  | .number numeral => numeral.IsSmall
  | .string content => content.string?.isSome

theorem Token.isSome_found? {token : Token} (isSmall : token.IsSmall) : token.found?.isSome := by
  cases token with
  | null => rfl
  | boolean value => rfl
  | number numeral =>
    obtain ⟨value, taken⟩ := exists_number_of_isSmall isSmall
    have alone := taken [] ends_nil
    rw [List.append_nil] at alone
    simp [found?, alone]
  | string content =>
    rw [found?, Option.isSome_map]
    exact isSmall

/-- Every token can be passed over. -/
theorem run?_passScalar (token : Token) (ends : Ends rest) {byte : UInt8} {more : List UInt8}
    (text : token.text = byte :: more) :
    run? (passScalar byte) (token.text ++ rest) = some ((), rest) := by
  cases token with
  | null =>
    cases text
    exact run?_of_ok (word_append (Text.bytes "ull") rest)
  | boolean value =>
    cases value with
    | true =>
      cases text
      exact run?_of_ok (word_append (Text.bytes "rue") rest)
    | false =>
      cases text
      exact run?_of_ok (word_append (Text.bytes "alse") rest)
  | number numeral =>
    have passed := run?_passNumber numeral ends
    obtain ⟨first, digits, whole, digit, -⟩ := numeral.isWhole.exists_cons
    obtain ⟨notBlank, noN, noT, noF, noSign, noQuote⟩ := first_of_digit? first digit
    rw [Token.text, Numeral.text] at text ⊢
    split at text
    · next negative =>
      cases text
      rw [if_pos negative]
      exact passed
    · next positive =>
      rw [if_neg positive]
      rw [Numeral.unsigned, whole, List.cons_append] at text
      cases text
      simp only [passScalar, beq_iff_eq, noN, noT, noF, noSign, digit, if_false, if_true]
      exact passed
  | string content =>
    cases text
    exact run?_passString content rest

end PropertyAudit.Json
