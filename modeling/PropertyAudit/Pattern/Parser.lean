import PropertyAudit.Pattern.CharSet
import PropertyAudit.Pattern.Compiled
import PropertyAudit.Unicode.Additions
import PropertyAudit.Unicode.CaseFolding

/-! Patterns from text. A text is refused when it is not well formed, asks for what cannot be
matched character by character, is written too deep, or would take too much room once compiled. -/
namespace PropertyAudit.Pattern

open Unicode (Ranges)

structure Flags where
  ignoreCase : Bool
  multiLine : Bool
  dotAll : Bool
  crlf : Bool
  unicode : Bool
  /-- Repetitions take little unless marked. -/
  swapGreed : Bool
  /-- Blanks and comments in the pattern stand for nothing. -/
  verbose : Bool

def Flags.initial : Flags := ⟨false, false, false, false, true, false, false⟩

structure Source where
  rest : List Char
  /-- The names of the groups so far. -/
  names : List String
  /-- The number of groups so far that capture. -/
  groups : Nat
  /-- The number of characters of the whole pattern, which no reader goes beyond. -/
  size : Nat

abbrev Parser := StateT Source Option

namespace Parser

def refuse : Parser α := fun _ => none

def orRefuse : Option α → Parser α
  | some value => pure value
  | none => refuse

def rest : Parser (List Char) := return (← get).rest

def setRest (rest : List Char) : Parser Unit := modify ({ · with rest := rest })

def size : Parser Nat := return (← get).size

def next? : Parser (Option Char) := return (← rest).head?

def next : Parser Char := do orRefuse (← next?)

def skip : Parser Unit := do setRest (← rest).tail

def isBlank (c : Char) : Bool := Unicode.whiteSpace.contains c.toNat

def dropBlanks : List Char → List Char := List.dropWhile isBlank

/-- Drops blanks and comments, a comment reaching to the end of its line. -/
def dropNotes : Nat → List Char → List Char
  | 0, chars => chars
  | fuel + 1, chars =>
    match dropBlanks chars with
    | '#' :: comment => dropNotes fuel (comment.dropWhile (· != '\n')).tail
    | chars => chars

def skipNotes (flags : Flags) : Parser Unit := do
  if flags.verbose then
    setRest (dropNotes ((← size) + 1) (← rest))

/-- Takes one character and the notes after it; something has to follow. -/
def advance (flags : Flags) : Parser Unit := do
  skip
  skipNotes flags
  if (← rest).isEmpty then refuse

def take? (expected : String) : Parser Bool := do
  let chars ← rest
  if expected.toList.isPrefixOf chars then
    setRest (chars.drop expected.length)
    pure true
  else pure false

/-- What follows the next character, past blanks and one mark of a comment. -/
def peekOver (flags : Flags) : Parser (Option Char) := do
  let chars := (← rest).tail
  if flags.verbose then
    match dropBlanks chars with
    | '#' :: more => pure (dropBlanks more).head?
    | chars => pure chars.head?
  else pure chars.head?

/-! ### Numbers and characters by number -/

def digits (flags : Flags) : Nat → List Char → Parser (List Char)
  | 0, taken => pure taken.reverse
  | fuel + 1, taken => do
    match ← next? with
    | some c =>
      if '0' ≤ c && c ≤ '9' then
        skip
        skipNotes flags
        digits flags fuel (c :: taken)
      else pure taken.reverse
    | none => pure taken.reverse

/-- A count, possibly amid blanks; nothing when there are no digits. -/
def count? (flags : Flags) : Parser (Option Nat) := do
  setRest (dropBlanks (← rest))
  let taken ← digits flags (← size) []
  setRest (dropBlanks (← rest))
  match taken with
  | [] => pure none
  | taken => do
    let value := taken.foldl (fun value c => 10 * value + (c.toNat - '0'.toNat)) 0
    if value < UInt32.size then pure (some value) else refuse

/-- The character of a number that belongs to one. -/
def scalar? (code : Nat) : Option Nat :=
  if code < 0xD800 || (0xDFFF < code && code ≤ 0x10FFFF) then some code else none

def hexFixed (flags : Flags) : Nat → Nat → Parser Nat
  | 0, value => pure value
  | n + 1, value => do
    let digit ← orRefuse (Unicode.hexDigit? (← next))
    skip
    skipNotes flags
    hexFixed flags n (16 * value + digit)

def untilBrace (flags : Flags) : Nat → List Char → Parser (List Char)
  | 0, _ => refuse
  | fuel + 1, taken => do
    let c ← next
    if c == '\x7d' then pure taken.reverse
    else
      advance flags
      untilBrace flags fuel (c :: taken)

/-- What stands in braces, the opening one being next; the closing one is left. -/
def braced (flags : Flags) : Parser (List Char) := do
  advance flags
  untilBrace flags (← size) []

/-- A character by its number, its letter being next; tells also whether two digits give it. -/
def hexCharacter (flags : Flags) : Parser (Nat × Bool) := do
  let letter ← next
  advance flags
  if (← next) == '\x7b' then
    let code ← orRefuse (Unicode.hexadecimal? (String.ofList (← braced flags)))
    skip
    skipNotes flags
    return (← orRefuse (scalar? code), false)
  else
    let length := if letter == 'x' then 2 else if letter == 'u' then 4 else 8
    let code ← hexFixed flags length 0
    return (← orRefuse (scalar? code), letter == 'x')

/-! ### Sets -/

inductive Primitive where
  /-- A character; `byte` when the pattern may mean the byte of that number. -/
  | character (code : Nat) (byte : Bool)
  | set (chars : Ranges)
  | dot
  | look (condition : Look)

def fold (flags : Flags) (chars : Ranges) : Ranges :=
  if flags.ignoreCase then if flags.unicode then chars.folded else chars.foldedAscii else chars

def negate (flags : Flags) (chars : Ranges) : Ranges :=
  if flags.unicode then chars.complement else chars.complement.intersection (.ofList [(0, 0xFF)])

/-- Without Unicode a set is one of bytes and must keep to ASCII, as other bytes would split
characters. -/
def checkSet (flags : Flags) (chars : Ranges) : Parser Ranges :=
  if flags.unicode || chars.isBelow 0x80 then pure chars else refuse

def finishSet (flags : Flags) (negated : Bool) (chars : Ranges) : Parser Ranges :=
  let chars := fold flags chars
  checkSet flags (if negated then negate flags chars else chars)

def classLetter (flags : Flags) (letter : Char) : Parser Primitive := do
  let name := match letter.toLower with
    | 'd' => "digit"
    | 's' => "space"
    | _ => "word"
  let base : Ranges ←
    if flags.unicode then
      pure <| match name with
        | "digit" => Unicode.decimalDigits
        | "space" => Unicode.whiteSpace
        | _ => Unicode.wordCharacters
    else orRefuse (CharSet.asciiClass? name)
  return .set (← checkSet flags (if letter.isUpper then negate flags base else base))

def splitOnce (separator : List Char) : List Char → Option (List Char × List Char)
  | [] => none
  | c :: rest =>
    if separator.isPrefixOf (c :: rest) then some ([], (c :: rest).drop separator.length)
    else (splitOnce separator rest).map fun (before, after) => (c :: before, after)

/-- The property in braces, and whether it is written as a difference. -/
def propertySet? (name : List Char) : Option (Ranges × Bool) :=
  let valued (parts : List Char × List Char) :=
    CharSet.withValue? (String.ofList parts.1) (String.ofList parts.2)
  match splitOnce ['!', '='] name with
  | some parts => (valued parts).map (·, true)
  | none =>
    match splitOnce [':'] name <|> splitOnce ['='] name with
    | some parts => (valued parts).map (·, false)
    | none => (CharSet.named? (String.ofList name)).map (·, false)

/-- A set of characters by a property, its letter being next. -/
def propertyClass (flags : Flags) : Parser Primitive := do
  let negated := (← next) == 'P'
  advance flags
  let c ← next
  let (chars, differs) ←
    if c == '\x7b' then do
      let name ← braced flags
      skip
      orRefuse (propertySet? name)
    else if c == '\\' then refuse
    else do
      skip
      skipNotes flags
      orRefuse ((CharSet.named? c.toString).map (·, false))
  if !flags.unicode then refuse
  return .set (← finishSet flags (negated != differs) chars)

def metaCharacters : List Char :=
  ['\\', '.', '+', '*', '?', '(', ')', '|', '[', ']', '\x7b', '\x7d', '^', '$', '#', '&', '-', '~']

/-- Whether a character may be escaped though it need not be. -/
def isEscapable (c : Char) : Bool :=
  c.toNat < 0x80 && !c.isAlphanum && c != '<' && c != '>'

def isBoundaryLetter (c : Char) : Bool := c.isAlpha || c == '-'

def boundaryName (flags : Flags) : Nat → List Char → Parser (List Char)
  | 0, taken => pure taken.reverse
  | fuel + 1, taken => do
    match ← next? with
    | some c =>
      if isBoundaryLetter c then
        skip
        skipNotes flags
        boundaryName flags fuel (c :: taken)
      else pure taken.reverse
    | none => pure taken.reverse

/-- A word boundary, or one of its kinds named in braces. Braces that hold no name are left. -/
def boundary (flags : Flags) : Parser Look := do
  let ascii := !flags.unicode
  let start ← rest
  if start.head? != some '\x7b' then return .wordBoundary ascii
  advance flags
  if !isBoundaryLetter (← next) then
    setRest start
    return .wordBoundary ascii
  let name ← boundaryName flags (← size) []
  if (← next) != '\x7d' then refuse
  skip
  match String.ofList name with
  | "start" => return .wordStart ascii
  | "end" => return .wordEnd ascii
  | "start-half" => return .wordStartHalf ascii
  | "end-half" => return .wordEndHalf ascii
  | _ => refuse

def escape (flags : Flags) : Parser Primitive := do
  skip
  let c ← next
  if '0' ≤ c && c ≤ '9' then refuse
  if c == 'x' || c == 'u' || c == 'U' then
    let (code, byte) ← hexCharacter flags
    return .character code byte
  if c == 'p' || c == 'P' then return ← propertyClass flags
  skip
  if ['d', 's', 'w', 'D', 'S', 'W'].contains c then return ← classLetter flags c
  if metaCharacters.contains c || isEscapable c then return .character c.toNat false
  let ascii := !flags.unicode
  match c with
  | 'a' => return .character 0x07 false
  | 'f' => return .character 0x0C false
  | 't' => return .character 0x09 false
  | 'n' => return .character 0x0A false
  | 'r' => return .character 0x0D false
  | 'v' => return .character 0x0B false
  | 'A' => return .look .textStart
  | 'z' => return .look .textEnd
  | 'b' => return .look (← boundary flags)
  | 'B' => return .look (.notWordBoundary ascii)
  | '<' => return .look (.wordStart ascii)
  | '>' => return .look (.wordEnd ascii)
  | _ => refuse

structure Part where
  chars : Ranges
  depth : Nat

def Part.union : List Part → Part
  | [] => ⟨.empty, 0⟩
  | [only] => only
  | parts => ⟨.unions (parts.map (·.chars)),
      parts.foldl (fun depth part => max depth part.depth) 0 + 1⟩

inductive SetOperator where
  | intersection
  | difference
  | symmetricDifference

/-- The operation that stands open, applied to its second operand: the items since, the last one
first. -/
def combine (flags : Flags) (opened : Option (SetOperator × Part)) (items : List Part) : Part :=
  let part := Part.union items.reverse
  match opened with
  | none => part
  | some (operator, left) =>
    let a := fold flags left.chars
    let b := fold flags part.chars
    let chars := match operator with
      | .intersection => a.intersection b
      | .difference => a.without b
      | .symmetricDifference => a.symmetricDifference b
    ⟨chars, max left.depth part.depth + 1⟩

/-- The code of a character in a set; without Unicode only ASCII has one. -/
def codeInSet (flags : Flags) : Primitive → Parser Nat
  | .character code _ => if flags.unicode || code < 0x80 then pure code else refuse
  | _ => refuse

def setItem (flags : Flags) : Parser Primitive := do
  let c ← next
  if c == '\\' then escape flags
  else
    skip
    pure (.character c.toNat false)

/-- A range or a single item of a set. -/
def setRange (flags : Flags) : Parser Part := do
  let first ← setItem flags
  skipNotes flags
  let after ← next
  let beyond ← peekOver flags
  if after != '-' || beyond == some ']' || beyond == some '-' then
    match first with
    | .character _ _ => return ⟨.ofCodes [← codeInSet flags first], 0⟩
    | .set chars => return ⟨chars, 0⟩
    | _ => refuse
  else
    advance flags
    let last ← setItem flags
    let low ← codeInSet flags first
    let high ← codeInSet flags last
    if low ≤ high then return ⟨.ofList [(low, high)], 0⟩ else refuse

def asciiClass? (flags : Flags) : Parser (Option Part) := do
  match ← rest with
  | '[' :: ':' :: more =>
    let (negated, more) := match more with
      | '^' :: more => (true, more)
      | more => (false, more)
    let name := more.takeWhile (· != ':')
    match more.drop name.length, CharSet.asciiClass? (String.ofList name) with
    | ':' :: ']' :: more, some chars => do
      setRest more
      return some ⟨← finishSet flags negated chars, 0⟩
    | _, _ => return none
  | _ => return none

/-- Hyphens at the beginning of a set stand for themselves. -/
def leadingHyphens (flags : Flags) : Nat → List Part → Parser (List Part)
  | 0, parts => pure parts
  | fuel + 1, parts => do
    if (← next) == '-' then
      advance flags
      leadingHyphens flags fuel (⟨.ofCodes ['-'.toNat], 0⟩ :: parts)
    else pure parts

mutual
def bracketed (flags : Flags) : Nat → Parser Part
  | 0 => refuse
  | fuel + 1 => do
    advance flags
    let negated := (← next) == '^'
    if negated then advance flags
    let hyphens ← leadingHyphens flags (← size) []
    let parts ←
      if hyphens.isEmpty && (← next) == ']' then do
        advance flags
        pure [⟨.ofCodes [']'.toNat], 0⟩]
      else pure hyphens
    let inner ← setBody flags fuel none parts
    return ⟨← finishSet flags negated inner.chars, inner.depth + 1⟩

/-- The items of a set up to its closing bracket; `parts` holds those since the last operator. -/
def setBody (flags : Flags) : Nat → Option (SetOperator × Part) → List Part → Parser Part
  | 0, _, _ => refuse
  | fuel + 1, opened, parts => do
    skipNotes flags
    match ← rest with
    | [] => refuse
    | '[' :: _ =>
      match ← asciiClass? flags with
      | some part => setBody flags fuel opened (part :: parts)
      | none => do
        let part ← bracketed flags fuel
        setBody flags fuel opened (part :: parts)
    | ']' :: _ =>
      skip
      return combine flags opened parts
    | '&' :: '&' :: more => do
      setRest more
      setBody flags fuel (some (.intersection, combine flags opened parts)) []
    | '-' :: '-' :: more => do
      setRest more
      setBody flags fuel (some (.difference, combine flags opened parts)) []
    | '~' :: '~' :: more => do
      setRest more
      setBody flags fuel (some (.symmetricDifference, combine flags opened parts)) []
    | _ => do
      let part ← setRange flags
      setBody flags fuel opened (part :: parts)
end

/-! ### Groups -/

def setFlag (flags : Flags) (letter : Char) (on : Bool) : Option Flags :=
  match letter with
  | 'i' => some { flags with ignoreCase := on }
  | 'm' => some { flags with multiLine := on }
  | 's' => some { flags with dotAll := on }
  | 'R' => some { flags with crlf := on }
  | 'u' => some { flags with unicode := on }
  | 'x' => some { flags with verbose := on }
  | 'U' => some { flags with swapGreed := on }
  | _ => none

/-- Flags up to a colon or closing parenthesis: each at most once, those after a hyphen off. -/
def flagLetters : Nat → Flags → List Char → Parser (Flags × List Char)
  | 0, _, _ => refuse
  | fuel + 1, flags, seen => do
    let c ← next
    if c == ':' || c == ')' then
      if seen.head? == some '-' then refuse
      pure (flags, seen)
    else if seen.contains c then refuse
    else
      skip
      if c == '-' then flagLetters fuel flags (c :: seen)
      else
        let flags ← orRefuse (setFlag flags c (!seen.contains '-'))
        flagLetters fuel flags (c :: seen)

def isNameCharacter (c : Char) (first : Bool) : Bool :=
  c == '_' || Unicode.nameLetters.contains c.toNat ||
    (!first && (c == '.' || c == '[' || c == ']' || Unicode.nameNumbers.contains c.toNat))

/-- The name of a group up to its closing mark; no two groups share one. -/
def groupName : Parser Unit := do
  let chars ← rest
  let name := chars.takeWhile (· != '>')
  match name, chars.drop name.length with
  | first :: others, '>' :: more =>
    if !isNameCharacter first true || !others.all (isNameCharacter · false) then refuse
    let name := String.ofList name
    if (← get).names.contains name then refuse
    modify ({ · with rest := more, names := name :: (← get).names })
  | _, _ => refuse

/-- What an opening parenthesis begins: a change of flags, or a group with flags of its own. -/
inductive Opening where
  | change (flags : Flags)
  | group (flags : Flags) (number : Option Nat)

def nextGroup : Parser (Option Nat) := do
  modify fun source => { source with groups := source.groups + 1 }
  return some (← get).groups

def opening (flags : Flags) : Parser Opening := do
  skip
  skipNotes flags
  let chars ← rest
  if ["?=", "?!", "?<=", "?<!"].any (·.toList.isPrefixOf chars) then refuse
  if ← take? "?P<" then
    groupName
    return .group flags (← nextGroup)
  if ← take? "?<" then
    groupName
    return .group flags (← nextGroup)
  if ← take? "?" then
    let (changed, seen) ← flagLetters ((← size) + 1) flags []
    let last ← next
    skip
    if last == ')' then
      if seen.isEmpty then refuse
      return .change changed
    return .group changed none
  return .group flags (← nextGroup)

def characterTree (flags : Flags) (code : Nat) (byte : Bool) : Parser Tree := do
  if !flags.unicode && byte && 0x80 ≤ code then refuse
  if flags.unicode || code < 0x80 then return .set (fold flags (.ofCodes [code])) 0
  else return .set (.ofCodes [code]) 0

def primitiveTree (flags : Flags) : Primitive → Parser Tree
  | .character code byte => characterTree flags code byte
  | .set chars => pure (.set chars 0)
  | .look condition => pure (.look condition)
  | .dot => do
    if !flags.unicode then refuse
    let excluded := if flags.dotAll then [] else if flags.crlf then [0x0A, 0x0D] else [0x0A]
    return .set (Ranges.ofCodes excluded).complement 0

/-- The item that begins with the next character, which is none of those that structure a pattern.
-/
def primitive (flags : Flags) : Parser Primitive := do
  let c ← next
  if c == '\\' then escape flags
  else
    skip
    match c with
    | '.' => return .dot
    | '^' =>
      return .look (if !flags.multiLine then .textStart
        else if flags.crlf then .lineStartCrlf else .lineStart)
    | '$' =>
      return .look (if !flags.multiLine then .textEnd
        else if flags.crlf then .lineEndCrlf else .lineEnd)
    | c => return .character c.toNat false

def bounds (flags : Flags) : Parser (Nat × Option Nat) := do
  advance flags
  let least ← count? flags
  let range ←
    if (← next) == ',' then do
      advance flags
      let least ← orRefuse least
      if (← next) == '\x7d' then pure (least, none)
      else
        let most ← orRefuse (← count? flags)
        if most < least then refuse
        pure (least, some most)
    else do
      let least ← orRefuse least
      pure (least, some least)
  if (← next) != '\x7d' then refuse
  skip
  skipNotes flags
  return range

/-- Whether a repetition takes as much as it can; a mark after it turns that round. -/
def greed (flags : Flags) : Parser Bool := do
  if (← next?) == some '?' then
    skip
    return flags.swapGreed
  else return !flags.swapGreed

/-- The last item, which a repetition applies to; a change of flags is none. -/
def repeatable : List Tree → Parser (Tree × List Tree)
  | .empty :: _ => refuse
  | item :: items => pure (item, items)
  | [] => refuse

/-- A pattern up to a closing parenthesis or the end. `choices` holds the alternatives before, and
`items` the items of this one, the last first. -/
def body : Nat → Flags → List Tree → List Tree → Parser Tree
  | 0, _, _, _ => refuse
  | fuel + 1, flags, choices, items => do
    skipNotes flags
    match ← next? with
    | none | some ')' => return .alternateOf (.concatOf items.reverse :: choices).reverse
    | some '|' =>
      skip
      body fuel flags (.concatOf items.reverse :: choices) []
    | some '(' =>
      match ← opening flags with
      | .change flags => body fuel flags choices (.empty :: items)
      | .group inner number => do
        let tree ← body fuel inner [] []
        if (← next) != ')' then refuse
        skip
        body fuel flags choices (.group tree number :: items)
    | some '[' => do
      let part ← bracketed flags (2 * (← size) + 2)
      body fuel flags choices (.set part.chars part.depth :: items)
    | some '?' => do
      let (item, items) ← repeatable items
      skip
      body fuel flags choices (.repeated item 0 (some 1) (← greed flags) :: items)
    | some '*' => do
      let (item, items) ← repeatable items
      skip
      body fuel flags choices (.repeated item 0 none (← greed flags) :: items)
    | some '+' => do
      let (item, items) ← repeatable items
      skip
      body fuel flags choices (.repeated item 1 none (← greed flags) :: items)
    | some '\x7b' => do
      let (item, items) ← repeatable items
      let (least, most) ← bounds flags
      body fuel flags choices (.repeated item least most (← greed flags) :: items)
    | some _ => do
      let tree ← primitiveTree flags (← primitive flags)
      body fuel flags choices (tree :: items)

def depthLimit : Nat := 250

def tree? (text : String) : Option Tree := do
  let chars := text.toList
  let size := chars.length
  let (tree, source) ← (body (2 * size + 2) .initial [] []).run ⟨chars, [], 0, size⟩
  if source.rest.isEmpty && tree.depth ≤ depthLimit then some tree else none

end Parser

def Program.ofText? (text : String) : Option Program :=
  (Parser.tree? text).bind fun tree => (Regex.ofTree tree).compiled?

end PropertyAudit.Pattern
