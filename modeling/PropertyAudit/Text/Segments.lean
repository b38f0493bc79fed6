/-! Texts made of segments that a separator divides. -/
namespace PropertyAudit.Text

/-- The segments between separators; there is one more of them than there are separators. -/
def splitChars (separator : Char) : List Char → List (List Char)
  | [] => [[]]
  | c :: rest =>
    if c = separator then [] :: splitChars separator rest
    else match splitChars separator rest with
      | [] => [[c]]
      | segment :: segments => (c :: segment) :: segments

def segments (separator : Char) (text : String) : List String :=
  (splitChars separator text.toList).map String.ofList

/-- The part before the last separator, and the part after it, if there is one. -/
def splitLast? (separator : Char) (text : String) : Option (String × String) :=
  let backward := text.toList.reverse
  match backward.dropWhile (· != separator) with
  | [] => none
  | _ :: before =>
    some (String.ofList before.reverse, String.ofList (backward.takeWhile (· != separator)).reverse)

theorem splitChars_ne_nil (separator : Char) (chars : List Char) :
    splitChars separator chars ≠ [] := by
  cases chars with
  | nil => simp [splitChars]
  | cons c rest =>
    unfold splitChars
    split
    · simp
    · split <;> simp

end PropertyAudit.Text
