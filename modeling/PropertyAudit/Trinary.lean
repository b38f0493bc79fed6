/-! Answers to questions that the recorded facts may leave open. -/
namespace PropertyAudit

inductive Trinary where
  | yes
  | maybe
  | no
deriving Repr, DecidableEq

namespace Trinary

/-- Definite only where both answers are and agree. -/
def and : Trinary → Trinary → Trinary
  | yes, yes => yes
  | no, no => no
  | _, _ => maybe

def ofBool (answer : Bool) : Trinary := if answer then yes else no

@[simp] theorem and_eq_yes {a b : Trinary} : a.and b = yes ↔ a = yes ∧ b = yes := by
  cases a <;> cases b <;> simp [and]

@[simp] theorem and_eq_no {a b : Trinary} : a.and b = no ↔ a = no ∧ b = no := by
  cases a <;> cases b <;> simp [and]

theorem and_eq_iff {a b answer : Trinary} (definite : answer ≠ maybe) :
    a.and b = answer ↔ a = answer ∧ b = answer := by
  cases answer with
  | yes => exact and_eq_yes
  | maybe => exact absurd rfl definite
  | no => exact and_eq_no

end Trinary
end PropertyAudit
