import PropertyAudit.PropertyTable

/-! Accesses as evidence for the properties of one class. An access counts only where its owner is
proven to be of the class or of one below it; one that may reach any name abandons the class. -/
namespace PropertyAudit

inductive SkipReason where
  | unresolvedReference
  | unknownOwner
  | foreignOwner
deriving Repr, DecidableEq

structure Contribution where
  property : String
  usage : Usage
deriving Repr, DecidableEq

inductive Resolution where
  | applies (contributions : List Contribution)
  | skipped (reason : SkipReason)
  | unbounded
deriving Repr, DecidableEq

/-- What all accesses of a class amount to: how many contributions met a private property and how
many accesses were skipped, or the line of the first that may reach any name. -/
inductive CorrelationOutcome where
  | applied (count skipped : Nat)
  | abandoned (line : Option UInt32)
deriving Repr, DecidableEq

/-- The type behind an owner. The words for the class itself and for its parent are taken in any
case; the parent is the first one recorded. -/
def Owner.resolve (owner : Owner) (hierarchy : Hierarchy) (name : String) :
    Except SkipReason ValueType :=
  match owner with
  | .expression type => .ok type
  | .classReference none => .error .unresolvedReference
  | .classReference (some reference) =>
    if Text.equalsIgnoringCase reference "self" || Text.equalsIgnoringCase reference "static" then
      .ok (.object name)
    else if Text.equalsIgnoringCase reference "parent" then
      match hierarchy.parentsOf name with
      | parent :: _ => .ok (.object parent)
      | [] => .error .unresolvedReference
    else .ok (.object reference)

/-- What an access amounts to for the class `name`. -/
def Access.resolve (access : Access) (hierarchy : Hierarchy) (name : String) : Resolution :=
  match access.name.candidates with
  | [] => .unbounded
  | candidates =>
    match access.owner.resolve hierarchy name with
    | .error reason => .skipped reason
    | .ok type =>
      let owner := type.withoutNull
      if owner.isMixed then .skipped .unknownOwner
      else if (ValueType.object name).isSupertypeOf owner hierarchy = .yes then
        .applies (candidates.map (⟨·, .ofKind access.kind⟩))
      else .skipped .foreignOwner

namespace ClassFacts

def contributionsOf (hierarchy : Hierarchy) (name : String) :
    List Access → Except (Option UInt32) (List Contribution × Nat)
  | [] => .ok ([], 0)
  | access :: accesses =>
    match access.resolve hierarchy name with
    | .unbounded => .error access.line
    | .skipped _ => do
      let (contributions, skipped) ← contributionsOf hierarchy name accesses
      .ok (contributions, skipped + 1)
    | .applies here => do
      let (contributions, skipped) ← contributionsOf hierarchy name accesses
      .ok (here ++ contributions, skipped)

/-- The contributions of all accesses and the number of those skipped, or the line of the first
access that may reach any name. -/
def contributions (facts : ClassFacts) (hierarchy : Hierarchy) :
    Except (Option UInt32) (List Contribution × Nat) :=
  contributionsOf hierarchy facts.name facts.accesses

end ClassFacts

namespace PropertyTable

def markAll (table : PropertyTable) (contributions : List Contribution) : PropertyTable :=
  contributions.foldl
    (fun table contribution => table.mark contribution.property contribution.usage)
    table

/-- The table with the evidence of all accesses, or unchanged when the class is abandoned. -/
def correlate (table : PropertyTable) (facts : ClassFacts) (hierarchy : Hierarchy) :
    CorrelationOutcome × PropertyTable :=
  match facts.contributions hierarchy with
  | .error line => (.abandoned line, table)
  | .ok (contributions, skipped) =>
    let met := contributions.filter fun contribution => table.contains contribution.property
    (.applied met.length skipped, table.markAll contributions)

end PropertyTable
end PropertyAudit
