import PropertyAudit.Json.Buffered
import PropertyAudit.Proofs.Json.Scalars

/-! Values read back from their texts, decoder by decoder. What a decoder takes from the texts of a
value does not depend on the blanks in them, on what follows or on the depth, if that suffices. -/
namespace PropertyAudit.Json

open Reader Decoder

variable {α β σ : Type} {json : Json} {text blanks rest : List UInt8} {byte : UInt8}

/-- Whether the reader takes the value from any text of `json`, blanks before it included. -/
def Takes (reader : Reader α) (json : Json) (value : α) : Prop :=
  ∀ blanks text rest, AllBlank blanks → Written json text → Ends rest →
    reader (blanks ++ (text ++ rest)) = .ok (value, rest)

/-- Whether the decoder does so at every depth that suffices for `json`. -/
def Decodes (decoder : Decoder α) (json : Json) (value : α) : Prop :=
  ∀ depth, json.height ≤ depth → Takes (decoder depth) json value

/-! ### First bytes -/

def starters : Json → List UInt8
  | .null => [ascii 'n']
  | .boolean _ => [ascii 't', ascii 'f']
  | .integer _ => Text.bytes "0123456789"
  | .decimal _ => []
  | .string _ => [ascii '"']
  | .array _ => [ascii '[']
  | .object _ => [ascii '\x7b']

theorem ascii_mem_digits {c : Char} (isDigit : c.isDigit) : ascii c ∈ Text.bytes "0123456789" := by
  have range : 48 ≤ c.toNat ∧ c.toNat ≤ 57 := Char.isDigit_iff_toNat.mp isDigit
  have table : ∀ d : Fin 10, (48 + d.val).toUInt8 ∈ Text.bytes "0123456789" := by decide
  obtain ⟨d, code⟩ := Nat.exists_eq_add_of_le range.1
  rw [ascii, code]
  exact table ⟨d, by omega⟩

theorem starts_of_written (written : Written json text) :
    ∃ byte more, text = byte :: more ∧ byte ∈ json.starters := by
  cases json with
  | null => exact ⟨_, _, written, by decide⟩
  | boolean value =>
    cases value with
    | true => exact ⟨_, _, written, by simp [starters]; decide⟩
    | false => exact ⟨_, _, written, by simp [starters]; decide⟩
  | integer value =>
    obtain ⟨count, -, -, rfl⟩ := written
    obtain ⟨c, chars, digits⟩ := List.exists_cons_of_ne_nil (@Nat.toDigits_ne_nil count 10)
    have digit : c.isDigit := by
      have member : c ∈ Nat.toDigits 10 count := digits ▸ List.mem_cons_self
      exact Nat.isDigit_of_mem_toDigits (by decide) (by decide) member
    rw [Nat.toString_eq_ofList_toDigits, bytes_ofList, digits,
      encode_cons_of_lt _ (digit?_ascii digit).1]
    exact ⟨_, _, rfl, ascii_mem_digits digit⟩
  | decimal value => cases written
  | string value => exact ⟨_, _, written, List.mem_singleton_self _⟩
  | array items =>
    obtain ⟨inner, blanks, -, -, rfl⟩ := written
    exact ⟨_, _, rfl, List.mem_singleton_self _⟩
  | object members =>
    obtain ⟨inner, blanks, -, -, rfl⟩ := written
    exact ⟨_, _, rfl, List.mem_singleton_self _⟩

theorem starters_subset (json : Json) : json.starters ⊆ Text.bytes "ntf0123456789\"[\x7b" := by
  cases json <;> exact of_decide_eq_true rfl

theorem isBlank_of_mem_starters (starts : byte ∈ json.starters) : isBlank byte = false := by
  have none : (Text.bytes "ntf0123456789\"[\x7b").all (!isBlank ·) := by decide
  have row := List.all_eq_true.mp none byte (json.starters_subset starts)
  rwa [Bool.not_eq_true'] at row

theorem ne_bracket_of_mem_starters (starts : byte ∈ json.starters) : byte ≠ ascii ']' := by
  rintro rfl
  exact absurd (json.starters_subset starts) (by decide)

theorem eq_null_of_starts (starts : ascii 'n' ∈ json.starters) : json = .null := by
  cases json with
  | null => rfl
  | _ => exact absurd starts (of_decide_eq_true rfl)

/-! ### Scalars -/

/-- A word that its first byte has announced. -/
theorem run_announced_word (first : UInt8) (more rest : List UInt8) (value : α) :
    (do skip; word more; pure value : Reader α) (first :: (more ++ rest)) = .ok (value, rest) := by
  rw [run_skip, List.tail_cons, run_bind (word_append more rest)]
  rfl

theorem takes_found (flat : json.height = 0) : Takes Decoder.found json json.found := by
  intro blanks text rest allBlank written ends
  cases json with
  | null =>
    obtain rfl := written
    have split : Text.bytes "null" = ascii 'n' :: Text.bytes "ull" := by decide
    rw [split, List.cons_append, Decoder.found, run_bind (nextToken?_append allBlank (by decide))]
    exact run_announced_word _ _ rest _
  | boolean value =>
    obtain rfl := written
    cases value with
    | true =>
      have split : Text.bytes "true" = ascii 't' :: Text.bytes "rue" := by decide
      rw [if_pos rfl, split, List.cons_append, Decoder.found,
        run_bind (nextToken?_append allBlank (by decide))]
      exact run_announced_word _ _ rest _
    | false =>
      have split : Text.bytes "false" = ascii 'f' :: Text.bytes "alse" := by decide
      rw [if_neg (by decide), split, List.cons_append, Decoder.found,
        run_bind (nextToken?_append allBlank (by decide))]
      exact run_announced_word _ _ rest _
  | integer value =>
    obtain ⟨byte, more, split, starts⟩ := starts_of_written written
    obtain ⟨count, rfl, bounded, rfl⟩ := written
    have digits : (Text.bytes "0123456789").all fun byte => byte != ascii 'n' && byte != ascii 't' &&
        byte != ascii 'f' && byte != ascii '-' && (digit? byte).isSome := by decide
    have row := List.all_eq_true.mp digits byte starts
    simp only [Bool.and_eq_true, bne_iff_ne] at row
    obtain ⟨⟨⟨⟨noN, noT⟩, noF⟩, noSign⟩, isDigit⟩ := row
    have read := number_toString bounded ends
    rw [split, List.cons_append] at read ⊢
    rw [Decoder.found, run_bind (nextToken?_append allBlank (isBlank_of_mem_starters starts))]
    simp only [noN, noT, noF, noSign, isDigit, beq_iff_eq, if_false, if_true]
    exact run_map _ read
  | decimal value => cases written
  | string value =>
    obtain rfl := written
    rw [quoted, List.cons_append, Decoder.found, run_bind (nextToken?_append allBlank (by decide))]
    change (skip >>= fun _ => _) _ = _
    rw [run_skip, List.tail_cons, List.append_assoc]
    exact run_map _ (stringTail_written value rest)
  | array items => cases flat
  | object members => cases flat

theorem found_bracket (allBlank : AllBlank blanks) :
    Decoder.found (blanks ++ ascii '[' :: rest) = .ok (.array, ascii '[' :: rest) := by
  rw [Decoder.found, run_bind (nextToken?_append allBlank (by decide))]
  rfl

theorem found_brace (allBlank : AllBlank blanks) :
    Decoder.found (blanks ++ ascii '\x7b' :: rest) = .ok (.object, ascii '\x7b' :: rest) := by
  rw [Decoder.found, run_bind (nextToken?_append allBlank (by decide))]
  rfl

theorem decodes_scalar {expected : String} {accept : Found → Option (Except Cause α)} {value : α}
    (flat : json.height = 0) (accepted : accept json.found = some (.ok value)) :
    Decodes (scalar expected accept) json value := by
  intro depth _ blanks text rest allBlank written ends
  rw [scalar, run_bind (takes_found flat blanks text rest allBlank written ends), accepted]
  rfl

theorem decodes_string (value : String) : Decodes Decoder.string (.string value) value :=
  decodes_scalar rfl rfl

theorem decodes_boolean (value : Bool) : Decodes Decoder.boolean (.boolean value) value :=
  decodes_scalar rfl rfl

theorem decodes_word32 (value : UInt32) : Decodes Decoder.word32 (.integer value.toNat) value := by
  refine decodes_scalar rfl ?_
  have bounded : value.toNat < UInt32.size := value.toNat_lt_size
  simp [Json.found, bounded]

theorem decodes_caseName {cases : List (String × α)} {name : String} {value : α}
    (listed : cases.lookup name = some value) :
    Decodes (caseName cases) (.string name) value :=
  decodes_scalar rfl (by simp [Json.found, listed])

theorem decodes_choice {cases : List (String × α)} {name : String} {value : α}
    (listed : cases.lookup name = some value) : Decodes (choice cases) (.string name) value := by
  intro depth enough blanks text rest allBlank written ends
  have taken := decodes_caseName listed depth enough [] text rest allBlank_nil written ends
  obtain rfl := written
  rw [quoted, List.cons_append] at taken ⊢
  rw [choice, run_bind (nextToken?_append allBlank (by decide))]
  exact taken

theorem decodes_optional {item : Decoder α} {toJson : α → Json} (notNull : ∀ value, toJson value ≠ .null)
    {value? : Option α} (decodes : ∀ value ∈ value?, Decodes item (toJson value) value) :
    Decodes (Decoder.optional item) (.ofOption toJson value?) value? := by
  intro depth enough blanks text rest allBlank written ends
  cases value? with
  | none =>
    obtain rfl := written
    have split : Text.bytes "null" = ascii 'n' :: Text.bytes "ull" := by decide
    rw [split, List.cons_append, Decoder.optional, run_bind (nextToken?_append allBlank (by decide))]
    exact run_announced_word _ _ rest _
  | some value =>
    have taken := decodes value rfl depth enough [] text rest allBlank_nil written ends
    obtain ⟨byte, more, rfl, starts⟩ := starts_of_written written
    have other : byte ≠ ascii 'n' := by
      rintro rfl
      exact notNull value (eq_null_of_starts starts)
    rw [List.cons_append] at taken ⊢
    rw [Decoder.optional, run_bind (nextToken?_append allBlank (isBlank_of_mem_starters starts))]
    simp only [beq_iff_eq, Option.some.injEq, other, if_false]
    exact run_map _ taken

end PropertyAudit.Json
