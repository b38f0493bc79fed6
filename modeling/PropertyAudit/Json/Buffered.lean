import PropertyAudit.Json.Decoder

/-! Typed values from JSON values that were read as a whole. -/
namespace PropertyAudit.Json

def found : Json → Found
  | .null => .null
  | .boolean value => .boolean value
  | .integer value => .integer value
  | .decimal value => .decimal value
  | .string value => .string value
  | .array _ => .array
  | .object _ => .object

namespace Buffered

def wrongType (json : Json) (expected : String) : Except Cause α :=
  .error (.wrongType json.found expected)

def string : Json → Except Cause String
  | .string value => .ok value
  | json => wrongType json "a string"

def optional (item : Json → Except Cause α) : Json → Except Cause (Option α)
  | .null => .ok none
  | json => some <$> item json

def list (item : Json → Except Cause α) : Json → Except Cause (List α)
  | .array items => items.mapM item
  | json => wrongType json "a sequence"

/-- One of several words, or its index among them. -/
def caseName (cases : List (String × α)) (json : Json) : Except Cause α :=
  match json with
  | .string word =>
    match cases.lookup word with
    | some value => .ok value
    | none => .error (.unknownWord word (cases.map (·.1)))
  | .integer index =>
    if index < 0 then wrongType json "variant identifier"
    else match cases[index.toNat]? with
      | some (_, value) => .ok value
      | none => .error (.wrongValue (.integer index)
          ("variant index 0 <= i < " ++ toString cases.length))
  | json => wrongType json "variant identifier"

def taggedMembers (tag : String) (cases : List (String × α)) :
    Option α → List (String × Json) → Except Cause (α × List (String × Json))
  | none, [] => .error (.missingMember tag)
  | some case, [] => .ok (case, [])
  | case?, (name, value) :: members =>
    if name = tag then
      match case? with
      | some _ => .error (.repeatedMember tag)
      | none => do
        let case ← caseName cases value
        taggedMembers tag cases (some case) members
    else do
      let (case, rest) ← taggedMembers tag cases case? members
      .ok (case, (name, value) :: rest)

/-- The case named by the member `tag`, or by the first item, and all else that the value holds. -/
def tagged (expected tag : String) (cases : List (String × α)) : Json → Except Cause (α × Json)
  | .array [] => .error (.missingMember tag)
  | .array (first :: rest) => do
    let case ← caseName cases first
    .ok (case, .array rest)
  | .object members => do
    let (case, rest) ← taggedMembers tag cases none members
    .ok (case, .object rest)
  | json => wrongType json expected

def tooLong (length expected : Nat) : Cause :=
  .wrongLength length (Decoder.countOfElements expected ++ " in sequence")

/-- The content of a case without fields: any object, or an empty array. -/
def nothing : Json → Except Cause Unit
  | .array (first :: rest) => .error (tooLong (first :: rest).length 0)
  | _ => .ok ()

def singleMember (name : String) (item : Json → Except Cause α) :
    Option α → List (String × Json) → Except Cause (Option α)
  | taken, [] => .ok taken
  | taken, (other, value) :: members =>
    if other = name then
      match taken with
      | some _ => .error (.repeatedMember name)
      | none => do
        let value ← item value
        singleMember name item (some value) members
    else singleMember name item taken members

/-- The only field of a case, from a member or from an array of one item. -/
def single (expected name : String) (item : Json → Except Cause α) (default? : Option α) :
    Json → Except Cause α
  | .array [] => .error (.wrongLength 0 (expected ++ " with " ++ Decoder.countOfElements 1))
  | .array (first :: rest) => do
    let value ← item first
    if rest.isEmpty then .ok value else .error (tooLong (rest.length + 1) 1)
  | .object members => do
    match ← singleMember name item none members with
    | some value => .ok value
    | none => Decoder.required name default?
  | json => wrongType json expected

end Buffered
end PropertyAudit.Json
