import PropertyAudit.Access

/-! Evidence that a property is read or written. Evidence only accumulates. -/
namespace PropertyAudit

structure Usage where
  read : Bool
  written : Bool
deriving Repr, DecidableEq

namespace Usage

def none : Usage := ⟨false, false⟩

def ofKind : AccessKind → Usage
  | .read => ⟨true, false⟩
  | .write => ⟨false, true⟩

def merge (a b : Usage) : Usage := ⟨a.read || b.read, a.written || b.written⟩

def mergeAll (usages : List Usage) : Usage := usages.foldl merge none

def isComplete (usage : Usage) : Bool := usage.read && usage.written

@[simp] theorem none_merge (a : Usage) : none.merge a = a := by simp [merge, none]
@[simp] theorem merge_none (a : Usage) : a.merge none = a := by simp [merge, none]

theorem merge_assoc (a b c : Usage) : (a.merge b).merge c = a.merge (b.merge c) := by
  simp [merge, Bool.or_assoc]

end Usage
end PropertyAudit
