import PropertyAudit.Association
import PropertyAudit.Toml.Value

/-! Tables in the making. How a table came to be decides what may still be added to it: a header may
state a table once, after longer headers implied it or not, and dotted keys only extend tables that
dotted keys made. -/
namespace PropertyAudit.Toml

inductive Origin where
  /-- Stated by a header of its own. -/
  | stated
  /-- Implied by a longer header. -/
  | implied
  | dotted
deriving Repr, DecidableEq

inductive Node where
  | value (value : Toml)
  | table (origin : Origin) (entries : List (String × Node))
  /-- An array of tables, the last one first. -/
  | tables (backward : List (List (String × Node)))

abbrev Entries := List (String × Node)

namespace Entries

/-- Changes the entries of the table that the names of a header lead to, implying tables on the way.
Of an array of tables the last one is meant. -/
def changeAt (change : Entries → Option Entries) : List String → Entries → Option Entries
  | [], entries => change entries
  | name :: names, entries => do
    let node ← match entries.lookup name with
      | none => Node.table .implied <$> changeAt change names []
      | some (.table origin inner) => Node.table origin <$> changeAt change names inner
      | some (.tables (last :: before)) =>
        (fun last => Node.tables (last :: before)) <$> changeAt change names last
      | some (.tables []) | some (.value _) => none
    some (Association.put name node entries)

/-- States a table by its last name. -/
def state (name : String) (entries : Entries) : Option Entries :=
  match entries.lookup name with
  | none => some (Association.put name (.table .stated []) entries)
  | some (.table .implied inner) => some (Association.put name (.table .stated inner) entries)
  | some _ => none

/-- Begins the next table of an array by its last name. -/
def begin (name : String) (entries : Entries) : Option Entries :=
  match entries.lookup name with
  | none => some (Association.put name (.tables [[]]) entries)
  | some (.tables backward) => some (Association.put name (.tables ([] :: backward)) entries)
  | some _ => none

/-- Adds a value under the names of a dotted key, the last of which is `name`. The names before lead
through tables that no header states to one that is `extensible`: made by dotted keys, too, or the
one where the key itself stands. -/
def insertFrom (extensible : Bool) (name : String) (value : Toml) :
    List String → Entries → Option Entries
  | [], entries =>
    if extensible && (entries.lookup name).isNone then
      some (Association.put name (.value value) entries)
    else none
  | step :: steps, entries => do
    let node ← match entries.lookup step with
      | none => Node.table .dotted <$> insertFrom true name value steps []
      | some (.table .dotted inner) => Node.table .dotted <$> insertFrom true name value steps inner
      | some (.table .implied inner) =>
        Node.table .implied <$> insertFrom false name value steps inner
      | some (.tables (last :: before)) =>
        (fun last => Node.tables (last :: before)) <$> insertFrom false name value steps last
      | some (.table .stated _) | some (.tables []) | some (.value _) => none
    some (Association.put step node entries)

def insert (path : List String) (name : String) (value : Toml) (entries : Entries) :
    Option Entries := insertFrom true name value path entries

end Entries

mutual
def Node.finish : Node → Toml
  | .value value => value
  | .table _ entries => .table (finishEntries entries)
  | .tables backward => .array (finishTables backward).reverse

def finishEntries : List (String × Node) → List (String × Toml)
  | [] => []
  | (name, node) :: entries => (name, node.finish) :: finishEntries entries

def finishTables : List (List (String × Node)) → List Toml
  | [] => []
  | entries :: tables => .table (finishEntries entries) :: finishTables tables
end

end PropertyAudit.Toml
