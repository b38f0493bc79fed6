import PropertyAudit.Text.Segments

/-! Paths as they are written. A path is displayed as its text; segments that are empty or a single
dot name nothing. -/
namespace PropertyAudit

structure Path where
  text : String
deriving Repr, DecidableEq

namespace Path

def isAbsolute (path : Path) : Bool := path.text.toList.head? == some '/'

def segments (path : Path) : List String := Text.segments '/' path.text

def isNeutral (segment : String) : Bool := segment == "" || segment == "."

def names (path : Path) : List String := path.segments.filter (!isNeutral ·)

/-- The path of `name` below `path`; an absolute name stands for itself. -/
def join (path : Path) (name : String) : Path :=
  if (Path.mk name).isAbsolute || path.text == "" then ⟨name⟩
  else if path.text.toList.getLast? == some '/' then ⟨path.text ++ name⟩
  else ⟨path.text ++ "/" ++ name⟩

def fileName? (path : Path) : Option String :=
  match path.names.getLast? with
  | some ".." => none
  | name => name

/-- What follows the last dot of a name, unless the dot begins it. -/
def extension? (name : String) : Option String :=
  match Text.splitLast? '.' name with
  | some (before, after) => if before == "" then none else some after
  | none => none

/-- Drops segments that name nothing from the end, a leading one apart. -/
def dropNeutral : List String → List String
  | [] => []
  | [first] => [first]
  | segments =>
    match segments.reverse.dropWhile isNeutral with
    | [] => segments.take 1
    | kept => kept.reverse

def parent? (path : Path) : Option Path :=
  let before := (path.segments.reverse.dropWhile isNeutral).tail.reverse
  match path.names with
  | [] => none
  | _ =>
    match dropNeutral before with
    | [""] => some ⟨"/"⟩
    | kept => some ⟨"/".intercalate kept⟩

end Path
end PropertyAudit
