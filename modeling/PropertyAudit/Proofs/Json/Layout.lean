import PropertyAudit.Json.Decoder
import PropertyAudit.Json.Printer

/-! The texts of a JSON value, which differ in the blanks between their tokens. Compact and indented
texts are two of them. -/
namespace PropertyAudit.Json

open Reader (ascii isBlank significandLimit)

def encode (chars : List Char) : List UInt8 := chars.flatMap String.utf8EncodeChar

@[simp] theorem encode_nil : encode [] = [] := rfl

@[simp] theorem encode_append (before after : List Char) :
    encode (before ++ after) = encode before ++ encode after := by
  simp [encode]

theorem encode_cons (c : Char) (chars : List Char) :
    encode (c :: chars) = String.utf8EncodeChar c ++ encode chars := rfl

theorem utf8EncodeChar_of_lt {c : Char} (basic : c.toNat < 0x80) :
    String.utf8EncodeChar c = [ascii c] := by
  have small : c.val.toNat ≤ 127 := Nat.le_of_lt_succ basic
  rw [String.utf8EncodeChar, if_pos small]
  rfl

theorem encode_cons_of_lt {c : Char} (chars : List Char) (basic : c.toNat < 0x80) :
    encode (c :: chars) = ascii c :: encode chars := by
  rw [encode_cons, utf8EncodeChar_of_lt basic]
  rfl

theorem bytes_ofList (chars : List Char) : Text.bytes (String.ofList chars) = encode chars := by
  rw [Text.bytes, String.toList_ofList, encode]

def AllBlank (bytes : List UInt8) : Prop := ∀ byte ∈ bytes, isBlank byte

def quoted (text : String) : List UInt8 :=
  ascii '"' :: (encode (text.toList.flatMap escapeChar) ++ [ascii '"'])

def separator (first : Bool) : List UInt8 := if first then [] else [ascii ',']

theorem separator_true : separator true = [] := rfl

theorem separator_false : separator false = [ascii ','] := rfl

mutual
/-- Whether `text` is a text of the value, without blanks around it. -/
def Written : Json → List UInt8 → Prop
  | .null, text => text = Text.bytes "null"
  | .boolean value, text => text = Text.bytes (if value then "true" else "false")
  | .integer value, text =>
    ∃ count : Nat, value = count ∧ count < significandLimit ∧ text = Text.bytes (toString count)
  | .decimal _, _ => False
  | .string value, text => text = quoted value
  | .array items, text => ∃ inner blanks, WrittenItems true items inner ∧ AllBlank blanks ∧
      text = ascii '[' :: (inner ++ (blanks ++ [ascii ']']))
  | .object members, text => ∃ inner blanks, WrittenMembers true members inner ∧ AllBlank blanks ∧
      text = ascii '\x7b' :: (inner ++ (blanks ++ [ascii '\x7d']))

/-- Whether `text` is a text of the items, the blanks before each included. -/
def WrittenItems (first : Bool) : List Json → List UInt8 → Prop
  | [], text => text = []
  | item :: items, text => ∃ blanks body more, AllBlank blanks ∧ Written item body ∧
      WrittenItems false items more ∧ text = separator first ++ (blanks ++ (body ++ more))

def WrittenMembers (first : Bool) : List (String × Json) → List UInt8 → Prop
  | [], text => text = []
  | (name, value) :: members, text => ∃ blanks gap body more, AllBlank blanks ∧ AllBlank gap ∧
      Written value body ∧ WrittenMembers false members more ∧
      text = separator first ++
        (blanks ++ (quoted name ++ ascii ':' :: (gap ++ (body ++ more))))
end

mutual
def NumbersFit : Json → Prop
  | .integer value => 0 ≤ value ∧ value < significandLimit
  | .decimal _ => False
  | .array items => ItemNumbersFit items
  | .object members => MemberNumbersFit members
  | _ => True

def ItemNumbersFit : List Json → Prop
  | [] => True
  | item :: items => item.NumbersFit ∧ ItemNumbersFit items

def MemberNumbersFit : List (String × Json) → Prop
  | [] => True
  | (_, value) :: members => value.NumbersFit ∧ MemberNumbersFit members
end

theorem itemNumbersFit_iff {items : List Json} :
    ItemNumbersFit items ↔ ∀ item ∈ items, item.NumbersFit := by
  induction items with
  | nil => simp [ItemNumbersFit]
  | cons item items ih => simp [ItemNumbersFit, ih]

theorem memberNumbersFit_iff {members : List (String × Json)} :
    MemberNumbersFit members ↔ ∀ member ∈ members, member.2.NumbersFit := by
  induction members with
  | nil => simp [MemberNumbersFit]
  | cons member members ih => simp [MemberNumbersFit, ih]

@[simp] theorem numbersFit_object {members : List (String × Json)} :
    (object members).NumbersFit ↔ ∀ member ∈ members, member.2.NumbersFit := memberNumbersFit_iff

@[simp] theorem numbersFit_array {items : List Json} :
    (array items).NumbersFit ↔ ∀ item ∈ items, item.NumbersFit := itemNumbersFit_iff

@[simp] theorem numbersFit_string (text : String) : (string text).NumbersFit := trivial

@[simp] theorem numbersFit_boolean (value : Bool) : (boolean value).NumbersFit := trivial

@[simp] theorem numbersFit_ofStrings (texts : List String) : (ofStrings texts).NumbersFit := by
  simp [ofStrings]

@[simp] theorem numbersFit_ofOption {toJson : α → Json} {value? : Option α} :
    (ofOption toJson value?).NumbersFit ↔ ∀ value ∈ value?, (toJson value).NumbersFit := by
  cases value? <;> simp [ofOption, NumbersFit]

theorem numbersFit_natural {count : Nat} (bounded : count < significandLimit) :
    (integer count).NumbersFit :=
  ⟨Int.natCast_nonneg _, Int.ofNat_lt.mpr bounded⟩

theorem encode_separator (first : Bool) :
    encode (if first then [] else [',']) = separator first := by
  cases first <;> decide

theorem encode_printString (text : String) : encode (printString text) = quoted text := by
  rw [printString, encode_cons_of_lt _ (by decide), encode_append]
  rfl

theorem allBlank_nil : AllBlank [] := by simp [AllBlank]

theorem allBlank_append {blanks more : List UInt8} (allBlank : AllBlank blanks) (moreBlank : AllBlank more) :
    AllBlank (blanks ++ more) :=
  List.forall_mem_append.mpr ⟨allBlank, moreBlank⟩

theorem allBlank_newline (depth : Nat) : AllBlank (encode (newline depth)) := by
  intro byte member
  rw [newline, encode_cons_of_lt _ (by decide), encode, List.flatMap_replicate,
    utf8EncodeChar_of_lt (by decide)] at member
  simp only [List.mem_cons, List.mem_flatten, List.mem_replicate] at member
  rcases member with rfl | ⟨_, ⟨_, rfl⟩, blank⟩
  · decide
  · obtain rfl := List.mem_singleton.mp blank
    decide

theorem written_printScalar_integer {value : Int} (natural : 0 ≤ value)
    (bounded : value < significandLimit) :
    Written (.integer value) (encode (printScalar (.integer value))) := by
  obtain ⟨count, rfl⟩ := Int.eq_ofNat_of_zero_le natural
  exact ⟨count, rfl, by exact_mod_cast bounded, rfl⟩

mutual
theorem written_printCompact : (json : Json) → json.NumbersFit →
    Written json (encode json.printCompact)
  | .null, _ => rfl
  | .boolean true, _ => rfl
  | .boolean false, _ => rfl
  | .integer _, fit => written_printScalar_integer fit.1 fit.2
  | .string text, _ => encode_printString text
  | .array items, fit => by
    refine ⟨_, [], writtenItems_printItems true items fit, allBlank_nil, ?_⟩
    rw [printCompact, encode_cons_of_lt _ (by decide), encode_append]
    rfl
  | .object members, fit => by
    refine ⟨_, [], writtenMembers_printMembers true members fit, allBlank_nil, ?_⟩
    rw [printCompact, encode_cons_of_lt _ (by decide), encode_append]
    rfl

theorem writtenItems_printItems (first : Bool) : (items : List Json) → ItemNumbersFit items →
    WrittenItems first items (encode (printItems first items))
  | [], _ => rfl
  | item :: items, fit => by
    refine ⟨[], _, _, allBlank_nil, written_printCompact item fit.1,
      writtenItems_printItems false items fit.2, ?_⟩
    simp [printItems, encode_separator]

theorem writtenMembers_printMembers (first : Bool) : (members : List (String × Json)) →
    MemberNumbersFit members → WrittenMembers first members (encode (printMembers first members))
  | [], _ => rfl
  | (name, value) :: members, fit => by
    refine ⟨[], [], _, _, allBlank_nil, allBlank_nil, written_printCompact value fit.1,
      writtenMembers_printMembers false members fit.2, ?_⟩
    simp [printMembers, encode_separator, encode_printString, encode_cons_of_lt (c := ':')]
end

mutual
theorem written_printIndented (depth : Nat) : (json : Json) → json.NumbersFit →
    Written json (encode (json.printIndented depth))
  | .null, _ => rfl
  | .boolean true, _ => rfl
  | .boolean false, _ => rfl
  | .integer _, fit => written_printScalar_integer fit.1 fit.2
  | .string text, _ => encode_printString text
  | .array [], _ => ⟨[], [], rfl, allBlank_nil, by rw [printIndented]; decide⟩
  | .array (item :: items), fit => by
    refine ⟨_, _, writtenItems_printLines depth true (item :: items) fit, allBlank_newline depth, ?_⟩
    rw [printIndented, encode_cons_of_lt _ (by decide), encode_append, encode_append,
      List.append_assoc]
    · rfl
    · simp
  | .object [], _ => ⟨[], [], rfl, allBlank_nil, by rw [printIndented]; decide⟩
  | .object (member :: members), fit => by
    refine ⟨_, _, writtenMembers_printNamedLines depth true (member :: members) fit,
      allBlank_newline depth, ?_⟩
    rw [printIndented, encode_cons_of_lt _ (by decide), encode_append, encode_append,
      List.append_assoc]
    · rfl
    · simp

theorem writtenItems_printLines (depth : Nat) (first : Bool) : (items : List Json) →
    ItemNumbersFit items → WrittenItems first items (encode (printLines depth first items))
  | [], _ => rfl
  | item :: items, fit => by
    refine ⟨_, _, _, allBlank_newline (depth + 1), written_printIndented (depth + 1) item fit.1,
      writtenItems_printLines depth false items fit.2, ?_⟩
    simp [printLines, encode_separator]

theorem writtenMembers_printNamedLines (depth : Nat) (first : Bool) :
    (members : List (String × Json)) → MemberNumbersFit members →
    WrittenMembers first members (encode (printNamedLines depth first members))
  | [], _ => rfl
  | (name, value) :: members, fit => by
    have gap : AllBlank [ascii ' '] := by simp [AllBlank]; decide
    refine ⟨_, [ascii ' '], _, _, allBlank_newline (depth + 1), gap,
      written_printIndented (depth + 1) value fit.1,
      writtenMembers_printNamedLines depth false members fit.2, ?_⟩
    simp [printNamedLines, encode_separator, encode_printString, encode_cons_of_lt (c := ':'),
      encode_cons_of_lt (c := ' ')]
end

theorem written_compact {json : Json} (fit : json.NumbersFit) :
    Written json (Text.bytes json.compact) := by
  rw [compact, bytes_ofList]
  exact written_printCompact json fit

theorem written_indented {json : Json} (fit : json.NumbersFit) :
    Written json (Text.bytes json.indented) := by
  rw [indented, bytes_ofList]
  exact written_printIndented 0 json fit

end PropertyAudit.Json
