import PropertyAudit.Extension
import PropertyAudit.Pattern.Parser
import PropertyAudit.Pattern.Search

/-! Rules describe extensions by patterns for the names of properties and classes and by an
attribute. All that a rule gives has to fit; a rule that gives nothing fits no property. -/
namespace PropertyAudit

structure Rule where
  propertyPattern : Option String
  attributeName : Option String
  classPattern : Option String
  alwaysRead : Bool
  alwaysWritten : Bool
  initialized : Bool
deriving Repr, DecidableEq

namespace Rule

def isSelective (rule : Rule) : Bool :=
  rule.propertyPattern.isSome || rule.attributeName.isSome || rule.classPattern.isSome

/-- The pattern written as `text`, if that can be read; there may be none to read. -/
def pattern? (text : Option String) : Option (Option Pattern.Program) :=
  match text with
  | none => some none
  | some text => (Pattern.Program.ofText? text).map some

def fits (pattern : Option Pattern.Program) (text : String) : Bool :=
  pattern.all (·.finds text)

def extension? (rule : Rule) : Option Extension := do
  let property ← pattern? rule.propertyPattern
  let className ← pattern? rule.classPattern
  let selects (name : String) (declaration : Declaration) : Bool :=
    rule.isSelective && fits property declaration.name &&
      rule.attributeName.all declaration.attributes.contains && fits className name
  some {
    alwaysRead := fun name declaration => rule.alwaysRead && selects name declaration
    alwaysWritten := fun name declaration => rule.alwaysWritten && selects name declaration
    initialized := fun name declaration => rule.initialized && selects name declaration }

def extensionsFrom (number : Nat) : List Rule → Except Nat (List Extension)
  | [] => .ok []
  | rule :: rules =>
    match rule.extension? with
    | none => .error number
    | some extension => (extensionsFrom (number + 1) rules).map (extension :: ·)

/-- The extensions of all rules in order, or the number of the first rule with a pattern that cannot
be read, counted from 1. -/
def extensions (rules : List Rule) : Except Nat (List Extension) := extensionsFrom 1 rules

end Rule
end PropertyAudit
