import PropertyAudit.Proofs.Json.Scalars

/-! JSON texts as trees. A tree keeps how its numbers and strings are spelled: texts that cannot be read,
with numbers out of range or with escapes that stand for no character, have trees as well. The texts
of a tree differ in the blanks between their tokens. -/
namespace PropertyAudit.Json

open Reader (ascii digit? isExponentMark hexDigit? simpleEscape? stringTail)

/-! ### Numbers -/

def AllDigits (bytes : List UInt8) : Prop := ∀ byte ∈ bytes, (digit? byte).isSome

inductive IsWhole : List UInt8 → Prop where
  | zero : IsWhole [ascii '0']
  | digits {first : UInt8} {more : List UInt8} {d : Nat} : digit? first = some (d + 1) →
      AllDigits more → IsWhole (first :: more)

inductive IsFraction : List UInt8 → Prop where
  | none : IsFraction []
  | point {digits : List UInt8} : digits ≠ [] → AllDigits digits → IsFraction (ascii '.' :: digits)

inductive IsExponent : List UInt8 → Prop where
  | none : IsExponent []
  | mark {mark : UInt8} {sign digits : List UInt8} : isExponentMark mark →
      sign ∈ [[], [ascii '+'], [ascii '-']] → digits ≠ [] → AllDigits digits →
      IsExponent (mark :: (sign ++ digits))

structure Numeral where
  negative : Bool
  whole : List UInt8
  fraction : List UInt8
  exponent : List UInt8
  isWhole : IsWhole whole
  isFraction : IsFraction fraction
  isExponent : IsExponent exponent

def Numeral.unsigned (numeral : Numeral) : List UInt8 :=
  numeral.whole ++ (numeral.fraction ++ numeral.exponent)

def Numeral.text (numeral : Numeral) : List UInt8 :=
  if numeral.negative then ascii '-' :: numeral.unsigned else numeral.unsigned

def Numeral.IsSmall (numeral : Numeral) : Prop :=
  numeral.fraction = [] ∧ numeral.exponent = [] ∧ numeral.whole.length ≤ 19

/-! ### Strings -/

/-- What may stand between the quotes of a string. -/
inductive IsContent : List UInt8 → Prop where
  | nil : IsContent []
  | plain {byte : UInt8} {more : List UInt8} : IsPlain byte → IsContent more →
      IsContent (byte :: more)
  | letter {letter : UInt8} {more : List UInt8} : (simpleEscape? letter).isSome → IsContent more →
      IsContent (ascii '\\' :: letter :: more)
  | digits {a b c d : UInt8} {more : List UInt8} :
      (hexDigit? a).isSome → (hexDigit? b).isSome → (hexDigit? c).isSome → (hexDigit? d).isSome →
      IsContent more → IsContent (ascii '\\' :: ascii 'u' :: a :: b :: c :: d :: more)

theorem isContent_of_plain {bytes : List UInt8} (plain : ∀ byte ∈ bytes, IsPlain byte) : IsContent bytes := by
  induction bytes with
  | nil => exact .nil
  | cons byte bytes ih =>
    obtain ⟨here, others⟩ := List.forall_mem_cons.mp plain
    exact .plain here (ih others)

structure Content where
  bytes : List UInt8
  isContent : IsContent bytes

namespace Content

def closed (content : Content) : List UInt8 := content.bytes ++ [ascii '"']

def text (content : Content) : List UInt8 := ascii '"' :: content.closed

def string? (content : Content) : Option String :=
  (stringTail content.closed).toOption.map (·.1)

end Content

/-! ### Trees -/

inductive Token where
  | null
  | boolean (value : Bool)
  | number (numeral : Numeral)
  | string (content : Content)

def Token.text : Token → List UInt8
  | .null => Text.bytes "null"
  | .boolean value => Text.bytes (if value then "true" else "false")
  | .number numeral => numeral.text
  | .string content => content.text

inductive Source where
  | scalar (token : Token)
  | array (items : List Source)
  | object (members : List (Content × Source))

namespace Source

@[induction_eliminator]
theorem induct {motive : Source → Prop} (scalar : ∀ token, motive (.scalar token))
    (array : ∀ items, (∀ item ∈ items, motive item) → motive (.array items))
    (object : ∀ members, (∀ member ∈ members, motive member.2) → motive (.object members)) :
    ∀ source, motive source
  | .scalar token => scalar token
  | .array items => array items fun item _ => induct scalar array object item
  | .object members => object members fun member _ => induct scalar array object member.2
decreasing_by
  · have smaller := List.sizeOf_lt_of_mem ‹_›
    rw [Source.array.sizeOf_spec]
    omega
  · have smaller := List.sizeOf_lt_of_mem ‹_›
    obtain ⟨name, value⟩ := member
    rw [Prod.mk.sizeOf_spec] at smaller
    rw [Source.object.sizeOf_spec]
    dsimp only
    omega

end Source

mutual
def Spells : Source → List UInt8 → Prop
  | .scalar token, text => text = token.text
  | .array items, text => ∃ inner blanks, SpellsItems true items inner ∧ AllBlank blanks ∧
      text = ascii '[' :: (inner ++ (blanks ++ [ascii ']']))
  | .object members, text => ∃ inner blanks, SpellsMembers true members inner ∧ AllBlank blanks ∧
      text = ascii '\x7b' :: (inner ++ (blanks ++ [ascii '\x7d']))

def SpellsItems (first : Bool) : List Source → List UInt8 → Prop
  | [], text => text = []
  | item :: items, text => ∃ before blanks body more, AllBlank before ∧ AllBlank blanks ∧
      Spells item body ∧ SpellsItems false items more ∧
      text = before ++ (separator first ++ (blanks ++ (body ++ more)))

def SpellsMembers (first : Bool) : List (Content × Source) → List UInt8 → Prop
  | [], text => text = []
  | (name, value) :: members, text => ∃ before blanks gap after body more, AllBlank before ∧
      AllBlank blanks ∧ AllBlank gap ∧ AllBlank after ∧ Spells value body ∧
      SpellsMembers false members more ∧
      text = before ++ (separator first ++
        (blanks ++ (name.text ++ (gap ++ ascii ':' :: (after ++ (body ++ more))))))
end

mutual
def Source.text : Source → List UInt8
  | .scalar token => token.text
  | .array items => ascii '[' :: (textOfItems true items ++ [ascii ']'])
  | .object members => ascii '\x7b' :: (textOfMembers true members ++ [ascii '\x7d'])

def Source.textOfItems (first : Bool) : List Source → List UInt8
  | [] => []
  | item :: items => separator first ++ (item.text ++ textOfItems false items)

def Source.textOfMembers (first : Bool) : List (Content × Source) → List UInt8
  | [] => []
  | (name, value) :: members => separator first ++
      (name.text ++ ascii ':' :: (value.text ++ textOfMembers false members))
end

mutual
theorem spells_text : (source : Source) → Spells source source.text
  | .scalar _ => rfl
  | .array items => ⟨_, [], spellsItems_text true items, allBlank_nil, rfl⟩
  | .object members => ⟨_, [], spellsMembers_text true members, allBlank_nil, rfl⟩

theorem spellsItems_text (first : Bool) : (items : List Source) →
    SpellsItems first items (Source.textOfItems first items)
  | [] => rfl
  | item :: items => ⟨[], [], _, _, allBlank_nil, allBlank_nil, spells_text item,
      spellsItems_text false items, rfl⟩

theorem spellsMembers_text (first : Bool) : (members : List (Content × Source)) →
    SpellsMembers first members (Source.textOfMembers first members)
  | [] => rfl
  | (_, value) :: members => ⟨[], [], [], [], _, _, allBlank_nil, allBlank_nil, allBlank_nil,
      allBlank_nil, spells_text value, spellsMembers_text false members, rfl⟩
end

def SpellsDocument (source : Source) (text : List UInt8) : Prop :=
  ∃ before body after, AllBlank before ∧ AllBlank after ∧ Spells source body ∧
    text = before ++ (body ++ after)

mutual
def Source.Distinct : Source → Prop
  | .scalar _ => True
  | .array items => DistinctItems items
  | .object members => (members.filterMap (·.1.string?)).Nodup ∧ DistinctMembers members

def Source.DistinctItems : List Source → Prop
  | [] => True
  | item :: items => item.Distinct ∧ DistinctItems items

def Source.DistinctMembers : List (Content × Source) → Prop
  | [] => True
  | (_, value) :: members => value.Distinct ∧ DistinctMembers members
end

namespace Source

theorem distinctItems_iff {items : List Source} :
    DistinctItems items ↔ ∀ item ∈ items, item.Distinct := by
  induction items with
  | nil => simp [DistinctItems]
  | cons item items ih => rw [DistinctItems, ih, List.forall_mem_cons]

theorem distinctMembers_iff {members : List (Content × Source)} :
    DistinctMembers members ↔ ∀ member ∈ members, member.2.Distinct := by
  induction members with
  | nil => simp [DistinctMembers]
  | cons member members ih => rw [DistinctMembers, ih, List.forall_mem_cons]

theorem distinct_array {items : List Source} :
    (array items).Distinct ↔ ∀ item ∈ items, item.Distinct := distinctItems_iff

theorem distinct_object {members : List (Content × Source)} :
    (object members).Distinct ↔ (members.filterMap (·.1.string?)).Nodup ∧
      ∀ member ∈ members, member.2.Distinct :=
  and_congr_right fun _ => distinctMembers_iff

end Source

/-! ### First bytes -/

variable {byte : UInt8}

def Token.starters : Token → List UInt8
  | .null => [ascii 'n']
  | .boolean _ => [ascii 't', ascii 'f']
  | .number _ => Text.bytes "-0123456789"
  | .string _ => [ascii '"']

def Source.starters : Source → List UInt8
  | .scalar token => token.starters
  | .array _ => [ascii '[']
  | .object _ => [ascii '\x7b']

theorem forall_byte {motive : UInt8 → Prop} (table : ∀ n : Fin 256, motive (UInt8.ofNat n))
    (byte : UInt8) : motive byte := by
  have row := table ⟨byte.toNat, byte.toNat_lt_size⟩
  rwa [UInt8.ofNat_toNat] at row

theorem mem_digits_of_digit? : ∀ byte, (digit? byte).isSome → byte ∈ Text.bytes "0123456789" :=
  forall_byte (by decide +kernel)

theorem IsWhole.exists_cons {whole : List UInt8} (isWhole : IsWhole whole) :
    ∃ first more, whole = first :: more ∧ (digit? first).isSome ∧ AllDigits more := by
  cases isWhole with
  | zero => exact ⟨_, _, rfl, by decide, by simp [AllDigits]⟩
  | digits first more => exact ⟨_, _, rfl, by simp [first], more⟩

theorem Token.starts (token : Token) :
    ∃ byte more, token.text = byte :: more ∧ byte ∈ token.starters := by
  cases token with
  | null => exact ⟨_, _, rfl, List.mem_singleton_self _⟩
  | boolean value =>
    cases value with
    | true => exact ⟨_, _, rfl, List.mem_cons_self⟩
    | false => exact ⟨_, _, rfl, List.mem_cons_of_mem _ (List.mem_singleton_self _)⟩
  | number numeral =>
    obtain ⟨first, more, whole, digit, -⟩ := numeral.isWhole.exists_cons
    have digits : Text.bytes "-0123456789" = ascii '-' :: Text.bytes "0123456789" := by decide
    simp only [text, starters, digits, Numeral.text, Numeral.unsigned, whole]
    split
    · exact ⟨_, _, rfl, List.mem_cons_self⟩
    · exact ⟨_, _, rfl, List.mem_cons_of_mem _ (mem_digits_of_digit? _ digit)⟩
  | string content => exact ⟨_, _, rfl, List.mem_singleton_self _⟩

theorem starts_of_spells {source : Source} {text : List UInt8} (spells : Spells source text) :
    ∃ byte more, text = byte :: more ∧ byte ∈ source.starters := by
  cases source with
  | scalar token => exact spells ▸ token.starts
  | array items =>
    obtain ⟨inner, blanks, -, -, rfl⟩ := spells
    exact ⟨_, _, rfl, List.mem_singleton_self _⟩
  | object members =>
    obtain ⟨inner, blanks, -, -, rfl⟩ := spells
    exact ⟨_, _, rfl, List.mem_singleton_self _⟩

theorem Token.starters_subset (token : Token) :
    token.starters ⊆ Text.bytes "ntf-0123456789\"" := by
  cases token <;> exact of_decide_eq_true rfl

theorem Source.starters_subset (source : Source) :
    source.starters ⊆ Text.bytes "ntf-0123456789\"[\x7b" := by
  cases source with
  | scalar token =>
    have scalars : Text.bytes "ntf-0123456789\"" ⊆ Text.bytes "ntf-0123456789\"[\x7b" :=
      of_decide_eq_true rfl
    exact List.Subset.trans token.starters_subset scalars
  | array items => exact of_decide_eq_true rfl
  | object members => exact of_decide_eq_true rfl

theorem Source.isBlank_of_starts {source : Source} (starts : byte ∈ source.starters) :
    Reader.isBlank byte = false := by
  have none : (Text.bytes "ntf-0123456789\"[\x7b").all (!Reader.isBlank ·) := by decide
  have row := List.all_eq_true.mp none byte (source.starters_subset starts)
  rwa [Bool.not_eq_true'] at row

theorem Source.ne_bracket_of_starts {source : Source} (starts : byte ∈ source.starters) :
    byte ≠ ascii ']' := by
  rintro rfl
  exact absurd (source.starters_subset starts) (by decide)

theorem Source.ne_comma_of_starts {source : Source} (starts : byte ∈ source.starters) :
    byte ≠ ascii ',' := by
  rintro rfl
  exact absurd (source.starters_subset starts) (by decide)

theorem Token.ne_brackets_of_starts {token : Token} (starts : byte ∈ token.starters) :
    byte ≠ ascii '[' ∧ byte ≠ ascii '\x7b' := by
  constructor
  · rintro rfl
    exact absurd (token.starters_subset starts) (by decide)
  · rintro rfl
    exact absurd (token.starters_subset starts) (by decide)

end PropertyAudit.Json
