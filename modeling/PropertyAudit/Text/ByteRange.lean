/-! The UTF-8 encodings of a range of characters as sequences of byte ranges: the range is cut until
the encodings of each piece are all sequences that take each of their bytes from one range. -/
namespace PropertyAudit.Text

structure ByteRange where
  first : UInt8
  last : UInt8
deriving Repr, DecidableEq, Inhabited

namespace ByteRange

def contains (range : ByteRange) (byte : UInt8) : Bool := range.first ≤ byte && byte ≤ range.last

/-- Where a range has to be cut so that a piece does not begin or end amid a block of that size. -/
def cutAtBlock? (first last size : Nat) : Option (Nat × Nat) :=
  if first / size = last / size then none
  else if first % size ≠ 0 then some (first / size * size + (size - 1), (first / size + 1) * size)
  else if last % size ≠ size - 1 then some (last / size * size - 1, last / size * size)
  else none

def cutAfter? (first last bound : Nat) : Option (Nat × Nat) :=
  if first ≤ bound && bound < last then some (bound, bound + 1) else none

/-- Where a range of characters has to be cut next, if it has to be: around the surrogates, where
the length of the encoding changes, and at blocks of characters with the same first bytes. -/
def cut? (first last : Nat) : Option (Nat × Nat) :=
  if first < 0xE000 && 0xD7FF < last then some (0xD7FF, 0xE000)
  else
    match [0x7F, 0x7FF, 0xFFFF].findSome? (cutAfter? first last) with
    | some cut => some cut
    | none =>
      if last ≤ 0x7F then none
      else [64, 64 * 64, 64 * 64 * 64].findSome? (cutAtBlock? first last)

def sequences (first last : Nat) : List (List ByteRange) :=
  match cut? first last with
  | some (stop, next) =>
    if _ : first ≤ stop ∧ stop < next ∧ next ≤ last then sequences first stop ++ sequences next last
    else []
  | none => [List.zipWith ByteRange.mk (String.utf8EncodeChar (Char.ofNat first))
      (String.utf8EncodeChar (Char.ofNat last))]
termination_by last - first

end ByteRange
end PropertyAudit.Text
