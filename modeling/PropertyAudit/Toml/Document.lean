import PropertyAudit.Toml.Scalar
import PropertyAudit.Toml.Tables

/-! TOML documents. -/
namespace PropertyAudit.Toml

namespace Reader

def dropLayout (inComment : Bool) : List Char → List Char
  | '\r' :: '\n' :: rest => dropLayout false rest
  | c :: rest =>
    if inComment && isPlain c then dropLayout true rest
    else if isBlank c || c == '\n' then dropLayout false rest
    else if c == '#' then dropLayout true rest
    else c :: rest
  | [] => []

def skipLayout : Reader Unit := modify (dropLayout false)

def lineEnd : Reader Unit := do
  skipBlanks
  if ← take? "#" then
    let _ ← takeWhile isPlain
  unless ← newline? do
    unless (← get).isEmpty do refuse

/-! ### Keys -/

/-- A key is a path of names; its last name is apart. -/
structure Key where
  path : List String
  name : String

def isBare (c : Char) : Bool := c.isAlphanum || c == '-' || c == '_'

def keyName : Reader String := do
  match ← next? with
  | some '"' | some '\'' => simpleString
  | _ =>
    match ← takeWhile isBare with
    | [] => refuse
    | name => pure (String.ofList name)

/-- The names of a key from the next one on, `before` holding those before it, the last one first.
-/
def keyFrom : Nat → List String → Reader Key
  | 0, _ => refuse
  | names + 1, before => do
    skipBlanks
    let name ← keyName
    skipBlanks
    if ← take? "." then keyFrom names (name :: before)
    else pure ⟨before.reverse, name⟩

/-- The most names of a key, and the most arrays and inline tables that stand inside one another. -/
def nestingLimit : Nat := 79

def key : Reader Key := keyFrom nestingLimit []

/-! ### Values -/

/-- The items of an array up to its closing bracket, at least one of which is taken each time. -/
def itemsOf (item : Reader Toml) : Nat → List Toml → Reader (List Toml)
  | 0, _ => refuse
  | fuel + 1, before => do
    skipLayout
    if ← take? "]" then pure before.reverse
    else
      let items := (← item) :: before
      skipLayout
      if ← take? "," then itemsOf item fuel items
      else
        take "]"
        pure items.reverse

def assignment (item : Reader Toml) : Reader (Key × Toml) := do
  let key ← key
  take "="
  skipBlanks
  return (key, ← item)

/-- The members of an inline table up to its closing brace; at least one is taken each time. -/
def membersOf (item : Reader Toml) : Nat → Entries → Reader Entries
  | 0, _ => refuse
  | fuel + 1, before => do
    let (key, value) ← assignment item
    let entries ← orRefuse (before.insert key.path key.name value)
    skipBlanks
    if ← take? "," then membersOf item fuel entries
    else
      take "\x7d"
      pure entries

def scalar : Reader Toml := do
  match ← next? with
  | some '"' | some '\'' => .string <$> string
  | some 't' =>
    take "true"
    pure (.boolean true)
  | some 'f' =>
    take "false"
    pure (.boolean false)
  | _ => numberOrMoment

/-- A value with at most that many arrays and inline tables inside one another. -/
def value : Nat → Reader Toml
  | 0 => scalar
  | levels + 1 => do
    if ← take? "[" then
      return .array (← itemsOf (value levels) ((← get).length + 1) [])
    else if ← take? "\x7b" then
      skipBlanks
      if ← take? "\x7d" then return .table []
      else
        let entries ← membersOf (value levels) ((← get).length + 1) []
        return .table (finishEntries entries)
    else scalar

/-! ### Lines -/

structure Draft where
  entries : Entries
  current : List String

def Draft.change (draft : Draft) (path : List String) (change : Entries → Option Entries) :
    Reader Draft := do
  return { draft with entries := ← orRefuse (draft.entries.changeAt change path) }

def header (draft : Draft) : Reader Draft := do
  let isItem ← take? "[["
  unless isItem do take "["
  let key ← key
  take (if isItem then "]]" else "]")
  lineEnd
  let change := if isItem then Entries.begin key.name else Entries.state key.name
  let draft ← draft.change key.path change
  pure { draft with current := key.path ++ [key.name] }

def line (draft : Draft) : Reader Draft := do
  match ← next? with
  | some '[' => header draft
  | some '#' | some '\n' | some '\r' =>
    lineEnd
    pure draft
  | _ =>
    let (key, value) ← assignment (value nestingLimit)
    lineEnd
    draft.change draft.current (Entries.insert key.path key.name value)

def lines : Nat → Draft → Reader Draft
  | 0, _ => refuse
  | fuel + 1, draft => do
    skipBlanks
    if (← get).isEmpty then pure draft else lines fuel (← line draft)

end Reader

def ofText? (text : String) : Option Toml :=
  let chars := match text.toList with
    | '\uFEFF' :: rest => rest
    | chars => chars
  match Reader.lines (chars.length + 1) ⟨[], []⟩ chars with
  | some (draft, _) => some (.table (finishEntries draft.entries))
  | none => none

end PropertyAudit.Toml
