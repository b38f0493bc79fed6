import PropertyAudit.Json.Reader
import PropertyAudit.Json.Value

/-! Reading typed values from JSON. A decoder knows how many more arrays and objects may be entered.
Values of members that a record does not have are passed over without being looked into. -/
namespace PropertyAudit.Json

open Reader

abbrev Decoder (α : Type) := Nat → Reader α

namespace Decoder

/-! ### Passing over values -/

inductive Frame where
  | array
  | object

/-- Takes what follows a value, or an opening bracket when no comma is accepted, up to the next
value. Gives the frames that value stands in; with none left, nothing more follows. -/
def passToValue : Nat → Bool → List Frame → Reader (List Frame)
  | 0, _, _ => fail .endInValue
  | _, _, [] => pure []
  | fuel + 1, acceptComma, frame :: frames => do
    let beforeValue : Reader (List Frame) :=
      match frame with
      | .array => pure (frame :: frames)
      | .object => do
        match ← nextToken? with
        | none => failNext .endInObject
        | some byte =>
          if byte == ascii '"' then skip else failNext .nameNotString
        (fun rest => passString rest.length rest)
        match ← nextToken? with
        | none => failNext .endInObject
        | some byte =>
          if byte == ascii ':' then skip else failNext .expectedColon
        pure (frame :: frames)
    match ← nextToken?, frame with
    | none, .array => failNext .endInArray
    | none, .object => failNext .endInObject
    | some byte, frame =>
      let closing := match frame with
        | .array => ascii ']'
        | .object => ascii '\x7d'
      if byte == ascii ',' && acceptComma then do
        skip
        beforeValue
      else if byte == closing then do
        skip
        passToValue fuel true frames
      else if acceptComma then
        match frame with
        | .array => failNext .expectedCommaOrBracket
        | .object => failNext .expectedCommaOrBrace
      else beforeValue

def passScalar (byte : UInt8) : Reader Unit := do
  if byte == ascii 'n' then skip; word (Text.bytes "ull")
  else if byte == ascii 't' then skip; word (Text.bytes "rue")
  else if byte == ascii 'f' then skip; word (Text.bytes "alse")
  else if byte == ascii '-' then skip; passNumber
  else if (digit? byte).isSome then passNumber
  else if byte == ascii '"' then
    skip
    (fun rest => passString rest.length rest)
  else failNext .expectedValue

def passValueIn : Nat → List Frame → Reader Unit
  | 0, _ => fail .endInValue
  | fuel + 1, frames => do
    match ← nextToken? with
    | none => failNext .endInValue
    | some byte =>
      let frames ←
        if byte == ascii '[' then do
          skip
          passToValue (fuel + 1) false (.array :: frames)
        else if byte == ascii '\x7b' then do
          skip
          passToValue (fuel + 1) false (.object :: frames)
        else do
          passScalar byte
          passToValue (fuel + 1) true frames
      if frames.isEmpty then pure () else passValueIn fuel frames

def passValue : Reader Unit := fun rest => passValueIn (rest.length + 1) [] rest

/-! ### Arrays and objects -/

def enter (depth : Nat) (body : Nat → Reader α) : Reader α :=
  match depth with
  | 0 => failNext .tooDeep
  | depth + 1 => do
    skip
    body depth

def closeArray : Reader Unit := do
  match ← nextToken? with
  | none => failNext .endInArray
  | some byte =>
    if byte == ascii ']' then skip
    else if byte == ascii ',' then
      skip
      if (← nextToken?) == some (ascii ']') then failNext .trailingComma
      else failNext .trailingCharacters
    else failNext .trailingCharacters

def closeObject : Reader Unit := do
  match ← nextToken? with
  | none => failNext .endInObject
  | some byte =>
    if byte == ascii '\x7d' then skip
    else if byte == ascii ',' then failNext .trailingComma
    else failNext .trailingCharacters

/-- What is left after closing an array as far as the next byte allows. -/
def afterArray (rest : List UInt8) : List UInt8 :=
  match dropBlanks rest with
  | [] => []
  | byte :: more =>
    if byte == ascii ']' then more
    else if byte == ascii ',' then dropBlanks more
    else byte :: more

/-- What is left after closing an object as far as the next byte allows. -/
def afterObject (rest : List UInt8) : List UInt8 :=
  match dropBlanks rest with
  | [] => []
  | byte :: more => if byte == ascii '\x7d' then more else byte :: more

/-- Runs `body`, then `close`; a fault without position gets that of the bytes `after` leaves. -/
def inside (close : Reader Unit) (after : List UInt8 → List UInt8) (body : Reader α) : Reader α :=
  fun rest =>
    match body rest with
    | .ok (value, rest) => (do close; pure value : Reader α) rest
    | .error fault =>
      if fault.settled then .error fault
      else .error { fault with rest := after fault.rest, settled := true }

def inArray (body : Reader α) : Reader α := inside closeArray afterArray body

def inObject (body : Reader α) : Reader α := inside closeObject afterObject body

def hasItem (first : Bool) : Reader Bool := do
  match ← nextToken? with
  | none => failNext .endInArray
  | some byte =>
    if byte == ascii ']' then pure false
    else if first then pure true
    else if byte == ascii ',' then
      skip
      match ← nextToken? with
      | none => failNext .endInValue
      | some byte => if byte == ascii ']' then failNext .trailingComma else pure true
    else failNext .expectedCommaOrBracket

def memberName? (first : Bool) : Reader (Option String) := do
  let name (byte : UInt8) : Reader (Option String) :=
    if byte == ascii '"' then do
      skip
      some <$> stringTail
    else if byte == ascii '\x7d' then failNext .trailingComma
    else failNext .nameNotString
  match ← nextToken? with
  | none => failNext .endInObject
  | some byte =>
    if byte == ascii '\x7d' then pure none
    else if first then name byte
    else if byte == ascii ',' then
      skip
      match ← nextToken? with
      | none => failNext .endInValue
      | some byte => name byte
    else failNext .expectedCommaOrBrace

def colon : Reader Unit := do
  match ← nextToken? with
  | none => failNext .endInObject
  | some byte => if byte == ascii ':' then skip else failNext .expectedColon

def itemsWithin (item : Reader α) : Nat → Bool → Reader (List α)
  | 0, _ => fail .endInArray
  | fuel + 1, first => do
    if ← hasItem first then
      let value ← item
      let more ← itemsWithin item fuel false
      pure (value :: more)
    else pure []

def items (item : Reader α) (first : Bool) : Reader (List α) := fun rest =>
  itemsWithin item (rest.length + 1) first rest

def membersWithin (member : String → σ → Reader σ) : Nat → Bool → σ → Reader σ
  | 0, _, _ => fail .endInObject
  | fuel + 1, first, state => do
    match ← memberName? first with
    | none => pure state
    | some name => do
      let state ← member name state
      membersWithin member fuel false state

/-- Folds the members up to the closing brace; `member` takes a name and reads from the colon on. -/
def members (member : String → σ → Reader σ) (start : σ) : Reader σ := fun rest =>
  membersWithin member (rest.length + 1) true start rest

/-! ### Scalars -/

/-- What stands next. A scalar is taken, an array or object is not. -/
def found : Reader Found := do
  match ← nextToken? with
  | none => failNext .endInValue
  | some byte =>
    if byte == ascii 'n' then do
      skip
      word (Text.bytes "ull")
      pure .null
    else if byte == ascii 't' then do
      skip
      word (Text.bytes "rue")
      pure (.boolean true)
    else if byte == ascii 'f' then do
      skip
      word (Text.bytes "alse")
      pure (.boolean false)
    else if byte == ascii '-' then do
      skip
      Number.found <$> number true
    else if (digit? byte).isSome then Number.found <$> number false
    else if byte == ascii '"' then do
      skip
      .string <$> stringTail
    else if byte == ascii '[' then pure .array
    else if byte == ascii '\x7b' then pure .object
    else failNext .expectedValue

def wrongType (expected : String) : Reader α := do
  fail (.wrongType (← found) expected)

/-- A scalar that `accept` allows; any other value has the wrong type. -/
def scalar (expected : String) (accept : Found → Option (Except Cause α)) : Decoder α := fun _ => do
  let value ← found
  match accept value with
  | some (.ok value) => pure value
  | some (.error cause) => fail cause
  | none => fail (.wrongType value expected)

def string : Decoder String := scalar "a string" fun
  | .string value => some (.ok value)
  | _ => none

def boolean : Decoder Bool := scalar "a boolean" fun
  | .boolean value => some (.ok value)
  | _ => none

def null : Decoder Unit := scalar "unit" fun
  | .null => some (.ok ())
  | _ => none

def word32 : Decoder UInt32 := scalar "u32" fun
  | .integer value =>
    if 0 ≤ value && value.toNat < UInt32.size then some (.ok value.toNat.toUInt32)
    else some (.error (.wrongValue (.integer value) "u32"))
  | _ => none

def optional (item : Decoder α) : Decoder (Option α) := fun depth => do
  if (← nextToken?) == some (ascii 'n') then
    skip
    word (Text.bytes "ull")
    pure none
  else some <$> item depth

/-! ### Structured values -/

def list (item : Decoder α) : Decoder (List α) := fun depth => do
  if (← nextToken?) == some (ascii '[') then
    enter depth fun depth => inArray (items (item depth) true)
  else wrongType "a sequence"

/-- An object of any member names; of two members with one name the later counts. -/
def map (item : Decoder α) : Decoder (List (String × α)) := fun depth => do
  if (← nextToken?) == some (ascii '\x7b') then
    enter depth fun depth => inObject <| List.reverse <$> members (fun name taken => do
      colon
      let value ← item depth
      pure ((name, value) :: taken.filter (·.1 != name))) []
  else wrongType "a map"

/-- A value of any kind; `nested` reads those inside it, if it may hold any. -/
def valueOver (nested : Option (Reader Json)) : Reader Json := do
  let inner (close : Reader Json → Reader Json) : Reader Json :=
    match nested with
    | none => failNext .tooDeep
    | some nested => do
      skip
      close nested
  match ← found with
  | .null => pure .null
  | .boolean value => pure (.boolean value)
  | .integer value => pure (.integer value)
  | .decimal value => pure (.decimal value)
  | .string value => pure (.string value)
  | .array => inner fun nested => .array <$> inArray (items nested true)
  | .object => inner fun nested =>
    .object <$> inObject (List.reverse <$> members (fun name taken => do
      colon
      let value ← nested
      pure ((name, value) :: taken)) [])

def value : Decoder Json
  | 0 => valueOver none
  | depth + 1 => valueOver (some (value depth))

def countOfElements (count : Nat) : String :=
  if count = 1 then "1 element" else toString count ++ " elements"

structure RecordField (σ : Type) where
  name : String
  isGiven : σ → Bool
  read : Decoder (σ → σ)
  /-- Whether an array may end before this field. -/
  optional : Bool

def RecordField.of (name : String) (item : Decoder α) (get : σ → Option α) (set : α → σ → σ)
    (optional : Bool) : RecordField σ where
  name := name
  isGiven state := (get state).isSome
  read depth := set <$> item depth
  optional := optional

/-- The fields of a record in order, from an array. -/
def fieldsInOrder (expected : String) (count depth : Nat) :
    List (RecordField σ) → Nat → Bool → σ → Reader σ
  | [], _, _, state => pure state
  | field :: fields, index, first, state => do
    if ← hasItem first then
      let store ← field.read depth
      fieldsInOrder expected count depth fields (index + 1) false (store state)
    else if field.optional then
      fieldsInOrder expected count depth fields (index + 1) first state
    else raise (.wrongLength index (expected ++ " with " ++ countOfElements count))

/-- A record, from an object with its fields as members or from an array of them in order. -/
def record (expected : String) (fields : List (RecordField σ)) (start : σ)
    (finish : σ → Except Cause α) : Decoder α := fun depth => do
  let token ← nextToken?
  if token == some (ascii '[') then
    enter depth fun depth => inArray do
      raiseError (finish (← fieldsInOrder expected fields.length depth fields 0 true start))
  else if token == some (ascii '\x7b') then
    enter depth fun depth => inObject do
      let state ← members (fun name state =>
        match fields.find? (·.name == name) with
        | none => do
          colon
          passValue
          pure state
        | some field =>
          if field.isGiven state then raise (.repeatedMember name)
          else do
            colon
            let store ← field.read depth
            pure (store state)) start
      raiseError (finish state)
  else wrongType expected

def required (name : String) : Option α → Except Cause α
  | some value => .ok value
  | none => .error (.missingMember name)

/-! ### Choices -/

def caseName (cases : List (String × α)) : Decoder α := scalar "variant identifier" fun
  | .string word =>
    match cases.lookup word with
    | some value => some (.ok value)
    | none => some (.error (.unknownWord word (cases.map (·.1))))
  | _ => none

/-- One of several words, alone or as the name of a null member. -/
def choice (cases : List (String × α)) : Decoder α := fun depth => do
  match ← nextToken? with
  | none => failNext .endInValue
  | some byte =>
    if byte == ascii '\x7b' then
      enter depth fun depth => do
        let value ← caseName cases depth
        colon
        null depth
        match ← nextToken? with
        | none => fail .endInObject
        | some byte =>
          if byte == ascii '\x7d' then do
            skip
            pure value
          else fail .expectedValue
    else if byte == ascii '"' then caseName cases depth
    else failNext .expectedValue

/-- The case named by the member `tag`, or by the first item, and all else that the object or array
holds. -/
def tagged (expected tag : String) (cases : List (String × α)) : Decoder (α × Json) :=
    fun depth => do
  let token ← nextToken?
  if token == some (ascii '[') then
    enter depth fun depth => inArray do
      if ← hasItem true then
        let case ← caseName cases depth
        let rest ← items (value depth) false
        pure (case, .array rest)
      else raise (.missingMember tag)
  else if token == some (ascii '\x7b') then
    enter depth fun depth => inObject do
      let (case?, taken) ← members (fun name (case?, taken) =>
        if name == tag then
          if case?.isSome then raise (.repeatedMember tag)
          else do
            colon
            let case ← caseName cases depth
            pure (some case, taken)
        else do
          colon
          let value ← value depth
          pure (case?, (name, value) :: taken)) (none, [])
      match case? with
      | some case => pure (case, .object taken.reverse)
      | none => raise (.missingMember tag)
  else wrongType expected

/-! ### Documents -/

def depthLimit : Nat := 127

def document (decoder : Decoder α) (depth : Nat) (bytes : List UInt8) : Except Located α :=
  let whole : Reader α := do
    let value ← decoder depth
    if (← nextToken?).isSome then failNext .trailingCharacters
    pure value
  match whole bytes with
  | .ok (value, _) => .ok value
  | .error fault =>
    .error ⟨fault.cause, .after (bytes.take (bytes.length - fault.rest.length))⟩

end Decoder
end PropertyAudit.Json
