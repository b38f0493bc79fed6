import PropertyAudit.Pattern.Look
import PropertyAudit.Unicode.Ranges

/-! Patterns as they are written. -/
namespace PropertyAudit.Pattern

inductive Tree where
  /-- Nothing, as where flags change. -/
  | empty
  | look (condition : Look)
  /-- A character of the set; `depth` tells how deep the set is written. -/
  | set (chars : Unicode.Ranges) (depth : Nat)
  /-- A group, with its number if it captures. -/
  | group (inner : Tree) (number : Option Nat)
  | concat (parts : List Tree)
  | alternate (choices : List Tree)
  | repeated (inner : Tree) (least : Nat) (most : Option Nat) (greedy : Bool)

namespace Tree

def concatOf : List Tree → Tree
  | [] => empty
  | [only] => only
  | parts => concat parts

def alternateOf : List Tree → Tree
  | [only] => only
  | choices => alternate choices

mutual
def depth : Tree → Nat
  | empty | look _ => 0
  | set _ depth => depth
  | group inner _ => inner.depth + 1
  | concat parts => depthOfAll parts + 1
  | alternate choices => depthOfAll choices + 1
  | repeated inner _ _ _ => inner.depth + 1

def depthOfAll : List Tree → Nat
  | [] => 0
  | part :: parts => max part.depth (depthOfAll parts)
end

end Tree
end PropertyAudit.Pattern
