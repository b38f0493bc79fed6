import PropertyAudit.Proofs.Json.Layout

/-! Scalars read back from their texts: words, strings with every escape that is written, and whole
numbers that fit the significand. -/
namespace PropertyAudit.Json

open Reader Decoder

variable {α β : Type} {blanks rest : List UInt8} {byte : UInt8}

def Ends (rest : List UInt8) : Prop :=
  ∀ byte ∈ rest.head?, digit? byte = none ∧ isExponentMark byte = false ∧ byte ≠ ascii '.'

theorem ends_nil : Ends [] := by simp [Ends]

theorem ends_cons {rest : List UInt8} (noDigit : digit? byte = none)
    (noExponent : isExponentMark byte = false) (noPoint : byte ≠ ascii '.') :
    Ends (byte :: rest) := by
  intro other next
  obtain rfl := Option.some.inj next
  exact ⟨noDigit, noExponent, noPoint⟩

theorem ends_blank (blank : isBlank byte) : Ends (byte :: rest) := by
  simp only [isBlank, Bool.or_eq_true, beq_iff_eq] at blank
  rcases blank with ((rfl | rfl) | rfl) | rfl <;>
    exact ends_cons (by decide) (by decide) (by decide)

theorem ends_allBlank_append (allBlank : AllBlank blanks) (ends : Ends rest) :
    Ends (blanks ++ rest) := by
  cases blanks with
  | nil => exact ends
  | cons blank blanks => exact ends_blank (allBlank blank List.mem_cons_self)

theorem run_bind {first : Reader α} {next : α → Reader β} {bytes : List UInt8} {value : α}
    (done : first bytes = .ok (value, rest)) : (first >>= next) bytes = next value rest := by
  simp [bind, StateT.bind, done, Except.bind]

theorem run_bind_error {first : Reader α} {next : α → Reader β} {bytes : List UInt8} {fault : Fault}
    (failed : first bytes = .error fault) : (first >>= next) bytes = .error fault := by
  simp [bind, StateT.bind, failed, Except.bind]

theorem run_map {reader : Reader α} {value : α} {bytes : List UInt8} (convert : α → β)
    (done : reader bytes = .ok (value, rest)) :
    (convert <$> reader) bytes = .ok (convert value, rest) := by
  simp [Functor.map, StateT.map, done, bind, Except.bind]
  rfl

theorem run_next? (next : Option UInt8 → Reader α) (bytes : List UInt8) :
    (next? >>= next) bytes = next bytes.head? bytes := rfl

theorem run_skip (next : Unit → Reader α) (bytes : List UInt8) :
    (skip >>= next) bytes = next () bytes.tail := rfl

theorem run_nextToken? (next : Option UInt8 → Reader α) (bytes : List UInt8) :
    (nextToken? >>= next) bytes = next (dropBlanks bytes).head? (dropBlanks bytes) := rfl

theorem dropBlanks_append (allBlank : AllBlank blanks) (notBlank : isBlank byte = false) :
    dropBlanks (blanks ++ byte :: rest) = byte :: rest := by
  rw [dropBlanks, List.dropWhile_append_of_pos allBlank, List.dropWhile_cons_of_neg (by simp [notBlank])]

theorem nextToken?_append (allBlank : AllBlank blanks) (notBlank : isBlank byte = false) :
    nextToken? (blanks ++ byte :: rest) = .ok (some byte, byte :: rest) := by
  rw [nextToken?, dropBlanks_append allBlank notBlank]
  rfl

theorem nextToken?_cons (notBlank : isBlank byte = false) :
    nextToken? (byte :: rest) = .ok (some byte, byte :: rest) :=
  nextToken?_append (fun _ member => absurd member List.not_mem_nil) notBlank

theorem word_append (bytes rest : List UInt8) : word bytes (bytes ++ rest) = .ok ((), rest) := by
  induction bytes with
  | nil => rfl
  | cons byte bytes ih => simp [word, ih]

/-! ### Strings -/

def IsPlain (byte : UInt8) : Prop := byte ≠ ascii '"' ∧ byte ≠ ascii '\\' ∧ ¬byte < 0x20

instance : DecidablePred IsPlain := fun byte =>
  inferInstanceAs (Decidable (byte ≠ ascii '"' ∧ byte ≠ ascii '\\' ∧ ¬byte < 0x20))

theorem stringBytes_plain {bytes : List UInt8} (plain : ∀ byte ∈ bytes, IsPlain byte) (fuel : Nat)
    (taken rest : List UInt8) :
    stringBytes (fuel + bytes.length) taken (bytes ++ rest) =
      stringBytes fuel (bytes.reverse ++ taken) rest := by
  induction bytes generalizing taken with
  | nil => rfl
  | cons byte bytes ih =>
    have ⟨⟨noQuote, noBackslash, noControl⟩, others⟩ := List.forall_mem_cons.mp plain
    rw [List.length_cons, ← Nat.add_assoc, List.cons_append, stringBytes]
    simp [noQuote, noBackslash, noControl, ih others]

theorem stringBytes_escape {c : Char} {bytes rest : List UInt8} (read : escape bytes = .ok (c, rest))
    (fuel : Nat) (taken : List UInt8) :
    stringBytes (fuel + 1) taken (ascii '\\' :: bytes) =
      stringBytes fuel ((String.utf8EncodeChar c).reverse ++ taken) rest := by
  have noQuote : (ascii '\\' == ascii '"') = false := by decide
  simp [stringBytes, noQuote, read]

theorem high_of_mem_utf8EncodeChar {c : Char} (high : 0x80 ≤ c.toNat) :
    ∀ byte ∈ String.utf8EncodeChar c, 0x80 ≤ byte.toNat := by
  have big : ¬c.val.toNat ≤ 127 := Nat.not_le.mpr high
  intro byte member
  rw [String.utf8EncodeChar, if_neg big] at member
  split at member
  · simp only [List.mem_cons, List.not_mem_nil, or_false] at member
    rcases member with rfl | rfl <;> simp <;> omega
  · split at member
    · simp only [List.mem_cons, List.not_mem_nil, or_false] at member
      rcases member with rfl | rfl | rfl <;> simp <;> omega
    · simp only [List.mem_cons, List.not_mem_nil, or_false] at member
      rcases member with rfl | rfl | rfl | rfl <;> simp <;> omega

theorem toNat_ascii {c : Char} (basic : c.toNat < 0x80) : (ascii c).toNat = c.toNat := by
  simp [ascii]
  omega

theorem ascii_inj {a b : Char} (basicA : a.toNat < 0x80) (basicB : b.toNat < 0x80)
    (same : ascii a = ascii b) : a = b := by
  have codes := congrArg UInt8.toNat same
  rw [toNat_ascii basicA, toNat_ascii basicB] at codes
  exact Char.toNat_inj.mp codes

theorem isPlain_of_mem_utf8EncodeChar {c : Char} (noQuote : c ≠ '"') (noBackslash : c ≠ '\\')
    (noControl : ¬c.toNat < 0x20) : ∀ byte ∈ String.utf8EncodeChar c, IsPlain byte := by
  intro byte member
  by_cases basic : c.toNat < 0x80
  · rw [utf8EncodeChar_of_lt basic, List.mem_singleton] at member
    subst member
    refine ⟨fun same => noQuote (ascii_inj basic (by decide) same),
      fun same => noBackslash (ascii_inj basic (by decide) same), ?_⟩
    rw [UInt8.lt_iff_toNat_lt, toNat_ascii basic]
    exact noControl
  · have high := high_of_mem_utf8EncodeChar (Nat.not_lt.mp basic) byte member
    refine ⟨?_, ?_, ?_⟩
    · rintro rfl
      exact absurd high (by decide)
    · rintro rfl
      exact absurd high (by decide)
    · rw [UInt8.lt_iff_toNat_lt]
      exact Nat.not_lt.mpr (Nat.le_trans (by decide) high)

theorem hexUnit_hexDigits {code : Nat} (bounded : code < 65536) (rest : List UInt8) :
    hexUnit (encode (hexDigits code) ++ rest) = .ok (code, rest) := by
  have table : ∀ n : Fin 16, ((Nat.toDigits 16 n).headD '0').toNat < 0x80 ∧
      hexDigit? (ascii ((Nat.toDigits 16 n).headD '0')) = some n.val := by decide
  have basic (n : Nat) : ((Nat.toDigits 16 (n % 16)).headD '0').toNat < 0x80 :=
    (table ⟨n % 16, Nat.mod_lt _ (by decide)⟩).1
  have digit (n : Nat) : hexDigit? (ascii ((Nat.toDigits 16 (n % 16)).headD '0')) = some (n % 16) :=
    (table ⟨n % 16, Nat.mod_lt _ (by decide)⟩).2
  simp only [hexDigits, encode_cons_of_lt _ (basic _), encode_nil, List.cons_append, List.nil_append,
    hexUnit, digit]
  congr 2
  omega

/-- A character is written as an escape of one letter, as one of its number, or as itself. -/
theorem escapeChar_cases (c : Char) :
    (∃ letter, letter.toNat < 0x80 ∧ simpleEscape? (ascii letter) = some c ∧
      escapeChar c = ['\\', letter]) ∨
    (c.toNat < 0x20 ∧ escapeChar c = '\\' :: 'u' :: hexDigits c.toNat) ∨
    (c ≠ '"' ∧ c ≠ '\\' ∧ ¬c.toNat < 0x20 ∧ escapeChar c = [c]) := by
  unfold escapeChar
  split
  · exact .inl ⟨'"', by decide, by decide, rfl⟩
  · exact .inl ⟨'\\', by decide, by decide, rfl⟩
  · exact .inl ⟨'b', by decide, by decide, rfl⟩
  · exact .inl ⟨'f', by decide, by decide, rfl⟩
  · exact .inl ⟨'n', by decide, by decide, rfl⟩
  · exact .inl ⟨'r', by decide, by decide, rfl⟩
  · exact .inl ⟨'t', by decide, by decide, rfl⟩
  · next noQuote noBackslash _ _ _ _ _ =>
    by_cases control : c.toNat < 0x20
    · exact .inr (.inl ⟨control, if_pos control⟩)
    · exact .inr (.inr ⟨noQuote, noBackslash, control, if_neg control⟩)

theorem escape_hexDigits {c : Char} (control : c.toNat < 0x20) (rest : List UInt8) :
    escape (encode ('u' :: hexDigits c.toNat) ++ rest) = .ok (c, rest) := by
  have unit := hexUnit_hexDigits (Nat.lt_trans control (by decide)) rest
  have notTrailing : isTrailing c.toNat = false := by simp [isTrailing]; omega
  have notLeading : isLeading c.toNat = false := by simp [isLeading]; omega
  have noEscape : simpleEscape? (ascii 'u') = none := by decide
  rw [encode_cons_of_lt _ (by decide), List.cons_append, escape]
  simp [noEscape, hexCharacter, bind, StateT.bind, Except.bind, unit, notTrailing, notLeading]
  rfl

/-- Each character is taken back from what is written for it, with fuel to spare. -/
theorem stringBytes_written {chars : List Char} {fuel : Nat} (taken rest : List UInt8)
    (enough : (encode (chars.flatMap escapeChar)).length < fuel) :
    stringBytes fuel taken (encode (chars.flatMap escapeChar) ++ ascii '"' :: rest) =
      .ok (taken.reverse ++ encode chars, rest) := by
  induction chars generalizing fuel taken with
  | nil =>
    obtain ⟨fuel, rfl⟩ := Nat.exists_eq_succ_of_ne_zero (Nat.ne_of_gt enough)
    simp [stringBytes]
  | cons c chars ih =>
    rw [List.flatMap_cons, encode_append, List.length_append] at enough
    rw [List.flatMap_cons, encode_append, List.append_assoc, encode_cons]
    have escaped (bytes : List UInt8) (same : encode (escapeChar c) = ascii '\\' :: bytes)
        (read : ∀ rest, escape (bytes ++ rest) = .ok (c, rest)) :
        stringBytes fuel taken (encode (escapeChar c) ++
            (encode (chars.flatMap escapeChar) ++ ascii '"' :: rest)) =
          .ok (taken.reverse ++ (String.utf8EncodeChar c ++ encode chars), rest) := by
      rw [same, List.length_cons] at enough
      obtain ⟨fuel, rfl⟩ := Nat.exists_eq_add_of_lt enough
      rw [same, List.cons_append, stringBytes_escape (read _), ih _ (by omega)]
      simp
    rcases escapeChar_cases c with ⟨letter, basic, simple, written⟩ | ⟨control, written⟩ |
      ⟨noQuote, noBackslash, noControl, written⟩
    · refine escaped [ascii letter] ?_ fun rest => ?_
      · rw [written, encode_cons_of_lt _ (by decide), encode_cons_of_lt _ basic, encode_nil]
      · simp [escape, simple]
    · refine escaped (encode ('u' :: hexDigits c.toNat)) ?_ (escape_hexDigits control)
      rw [written, encode_cons_of_lt _ (by decide)]
    · have itself : encode (escapeChar c) = String.utf8EncodeChar c := by
        rw [written, encode_cons, encode_nil, List.append_nil]
      rw [itself] at enough ⊢
      obtain ⟨spare, rfl⟩ := Nat.exists_eq_add_of_le (Nat.le_of_lt enough)
      have plain := isPlain_of_mem_utf8EncodeChar noQuote noBackslash noControl
      have order : (String.utf8EncodeChar c).length + (encode (chars.flatMap escapeChar)).length + spare
        = ((encode (chars.flatMap escapeChar)).length + spare) + (String.utf8EncodeChar c).length := by
        omega
      rw [order, stringBytes_plain plain, ih _ (by omega)]
      simp

theorem stringTail_written (text : String) (rest : List UInt8) :
    stringTail (encode (text.toList.flatMap escapeChar) ++ ascii '"' :: rest) = .ok (text, rest) := by
  have enough : (encode (text.toList.flatMap escapeChar)).length <
      (encode (text.toList.flatMap escapeChar) ++ ascii '"' :: rest).length := by simp
  have decoded : Text.ofBytes? (encode text.toList) = some text := Text.ofBytes?_bytes text
  rw [stringTail, stringBytes_written [] rest enough]
  simp only [List.reverse_nil, List.nil_append, decoded]

/-! ### Whole numbers -/

theorem digit?_ascii {c : Char} (isDigit : c.isDigit) :
    c.toNat < 0x80 ∧ digit? (ascii c) = some (c.toNat - '0'.toNat) := by
  have range : 48 ≤ c.toNat ∧ c.toNat ≤ 57 := Char.isDigit_iff_toNat.mp isDigit
  have basic : c.toNat < 0x80 := by omega
  have table : ∀ d : Fin 10, digit? (48 + d.val).toUInt8 = some d.val := by decide
  obtain ⟨d, code⟩ := Nat.exists_eq_add_of_le range.1
  refine ⟨basic, ?_⟩
  rw [ascii, code, table ⟨d, by omega⟩]
  simp

/-- The first digit of a number other than zero is another one too. -/
theorem toDigits_eq_cons {n : Nat} (positive : 0 < n) :
    ∃ c chars, Nat.toDigits 10 n = c :: chars ∧ c ≠ '0' := by
  induction n using Nat.strongRecOn with
  | ind n ih =>
    by_cases small : n < 10
    · refine ⟨n.digitChar, [], Nat.toDigits_of_lt_base small, ?_⟩
      have table : ∀ d : Fin 10, 0 < d.val → d.val.digitChar ≠ '0' := by decide
      exact table ⟨n, small⟩ positive
    · obtain ⟨c, chars, digits, notZero⟩ := ih (n / 10) (by omega) (by omega)
      refine ⟨c, chars ++ [(n % 10).digitChar], ?_, notZero⟩
      rw [Nat.toDigits_of_base_le (by decide) (by omega), digits, List.cons_append]

/-- Digits that do not exceed the bound are all taken. -/
theorem significandDigits_encode {chars : List Char} (digits : ∀ c ∈ chars, c.isDigit)
    (significand count : Nat) (bounded : Nat.ofDigitChars 10 chars significand < significandLimit)
    (ends : Ends rest) :
    significandDigits significand count (encode chars ++ rest) =
      ((Nat.ofDigitChars 10 chars significand, count + chars.length, false), rest) := by
  induction chars generalizing significand count with
  | nil =>
    cases rest with
    | nil => rfl
    | cons byte rest => simp [significandDigits, (ends byte rfl).1]
  | cons c chars ih =>
    have ⟨digit, others⟩ := List.forall_mem_cons.mp digits
    obtain ⟨basic, read⟩ := digit?_ascii digit
    rw [Nat.ofDigitChars_cons] at bounded ⊢
    have grown : 10 * significand + (c.toNat - '0'.toNat) < significandLimit := by
      rw [Nat.ofDigitChars_eq_ofDigitChars_zero] at bounded
      have scale : 0 < 10 ^ chars.length := Nat.pow_pos (by decide)
      exact Nat.lt_of_le_of_lt (Nat.le_add_right_of_le (Nat.le_mul_of_pos_left _ scale)) bounded
    rw [encode_cons_of_lt _ basic, List.cons_append, significandDigits]
    simp only [read, grown, if_true, ih others _ _ bounded, List.length_cons]
    congr 3
    omega

theorem numberTail_of_ends (significand : Nat) (ends : Ends rest) :
    numberTail false significand rest = .ok (.whole significand, rest) := by
  unfold numberTail
  cases rest with
  | nil => rfl
  | cons byte rest =>
    obtain ⟨-, noExponent, noPoint⟩ := ends byte rfl
    rw [run_next?]
    simp [noExponent, noPoint]
    rfl

theorem number_toString {count : Nat} (bounded : count < significandLimit) (ends : Ends rest) :
    number false (Text.bytes (toString count) ++ rest) = .ok (.whole count, rest) := by
  have digits : ∀ c ∈ Nat.toDigits 10 count, c.isDigit := fun c member =>
    Nat.isDigit_of_mem_toDigits (by decide) (by decide) member
  have value : Nat.ofDigitChars 10 (Nat.toDigits 10 count) 0 = count := Nat.ofDigitChars_ten_toDigits
  rw [Nat.toString_eq_ofList_toDigits, bytes_ofList]
  rcases Nat.eq_zero_or_pos count with rfl | positive
  · have noDigit : rest.head?.bind digit? = none := by
      cases rest with
      | nil => rfl
      | cons byte rest => exact (ends byte rfl).1
    have zero : encode (Nat.toDigits 10 0) ++ rest = ascii '0' :: rest := rfl
    have read : digit? (ascii '0') = some 0 := by decide
    rw [zero, number, run_next?, List.head?_cons]
    simp only [read]
    rw [run_skip, run_next?, List.tail_cons, noDigit]
    exact numberTail_of_ends 0 ends
  · obtain ⟨c, chars, split, notZero⟩ := toDigits_eq_cons positive
    rw [split] at digits value ⊢
    have ⟨digit, others⟩ := List.forall_mem_cons.mp digits
    obtain ⟨basic, read⟩ := digit?_ascii digit
    have leading : c.toNat - '0'.toNat ≠ 0 := by
      have range : 48 ≤ c.toNat ∧ c.toNat ≤ 57 := Char.isDigit_iff_toNat.mp digit
      have other : c.toNat ≠ 48 := fun same => notZero (Char.toNat_inj.mp same)
      change c.toNat - 48 ≠ 0
      omega
    obtain ⟨d, code⟩ := Nat.exists_eq_succ_of_ne_zero leading
    rw [Nat.ofDigitChars_cons, Nat.mul_zero, Nat.zero_add, code] at value
    have taken := significandDigits_encode others (d + 1) 1 (value.symm ▸ bounded) ends
    rw [encode_cons_of_lt _ basic, List.cons_append, number, run_next?, List.head?_cons]
    simp only [read, code]
    rw [run_skip, List.tail_cons, run_bind (congrArg Except.ok taken)]
    simp only [Bool.false_eq_true, if_false, value]
    exact numberTail_of_ends count ends

end PropertyAudit.Json
