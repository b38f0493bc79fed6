import PropertyAudit.Unicode.Property

/-! Conditions on a position in a text, by the characters before and after it. -/
namespace PropertyAudit.Pattern

inductive Look where
  | textStart
  | textEnd
  | lineStart
  | lineEnd
  /-- Likewise with `\r\n` and `\r` as ends of lines, too. -/
  | lineStartCrlf
  | lineEndCrlf
  | wordBoundary (ascii : Bool)
  | notWordBoundary (ascii : Bool)
  | wordStart (ascii : Bool)
  | wordEnd (ascii : Bool)
  | wordStartHalf (ascii : Bool)
  | wordEndHalf (ascii : Bool)
deriving Repr, DecidableEq

def isWord (ascii : Bool) (c? : Option Char) : Bool :=
  match c? with
  | none => false
  | some c =>
    if c.toNat < 0x80 then c.isAlphanum || c == '_'
    else !ascii && Unicode.wordCharacters.contains c.toNat

def Look.holds (before after : Option Char) : Look → Bool
  | textStart => before.isNone
  | textEnd => after.isNone
  | lineStart => before.isNone || before == some '\n'
  | lineEnd => after.isNone || after == some '\n'
  | lineStartCrlf =>
    before.isNone || before == some '\n' || (before == some '\r' && after != some '\n')
  | lineEndCrlf =>
    after.isNone || after == some '\r' || (after == some '\n' && before != some '\r')
  | wordBoundary ascii => isWord ascii before != isWord ascii after
  | notWordBoundary ascii => isWord ascii before == isWord ascii after
  | wordStart ascii => !isWord ascii before && isWord ascii after
  | wordEnd ascii => isWord ascii before && !isWord ascii after
  | wordStartHalf ascii => !isWord ascii before
  | wordEndHalf ascii => !isWord ascii after

end PropertyAudit.Pattern
