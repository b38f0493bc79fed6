import PropertyAudit.Decimal.Shortest

/-! JSON values. An object keeps its members in order, and a name may stand in it more than once. -/
namespace PropertyAudit

inductive Json where
  | null
  | boolean (value : Bool)
  | integer (value : Int)
  | decimal (value : Decimal.Binary64)
  | string (value : String)
  | array (items : List Json)
  | object (members : List (String × Json))

namespace Json

def ofStrings (texts : List String) : Json := .array (texts.map .string)

def member? : Json → String → Option Json
  | .object members, name => members.lookup name
  | _, _ => none

def ofOption (encode : α → Json) : Option α → Json
  | some value => encode value
  | none => .null

mutual
def height : Json → Nat
  | .array items => heightOfItems items + 1
  | .object members => heightOfMembers members + 1
  | _ => 0

def heightOfItems : List Json → Nat
  | [] => 0
  | item :: rest => max item.height (heightOfItems rest)

def heightOfMembers : List (String × Json) → Nat
  | [] => 0
  | (_, value) :: rest => max value.height (heightOfMembers rest)
end

end Json
end PropertyAudit
