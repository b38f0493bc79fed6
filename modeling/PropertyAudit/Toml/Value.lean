/-! TOML values. Numbers and moments are only told apart: a float and a moment keep their text. -/
namespace PropertyAudit

inductive Toml where
  | string (value : String)
  | integer (value : Int)
  | float (text : String)
  | boolean (value : Bool)
  | moment (text : String)
  | array (items : List Toml)
  | table (members : List (String × Toml))
deriving Repr

namespace Toml

def string? : Toml → Option String
  | string value => some value
  | _ => none

def boolean? : Toml → Option Bool
  | boolean value => some value
  | _ => none

def list? (item? : Toml → Option α) : Toml → Option (List α)
  | array items => items.mapM item?
  | _ => none

/-- The fields of a structure in the order of `names`. A table gives them by name, an array by
place, where the first `least` of them have to be there; a moment gives none. What is not asked for
is ignored. -/
def fields? (names : List String) (least : Nat) : Toml → Option (List (Option Toml))
  | table members => some (names.map (members.lookup ·))
  | array items => if items.length < least then none else some (names.mapIdx fun i _ => items[i]?)
  | moment _ => some (names.map fun _ => none)
  | _ => none

end Toml
end PropertyAudit
