import PropertyAudit.Decimal.Binary64
import PropertyAudit.Toml.Value
import PropertyAudit.Unicode.Ranges

/-! Strings, numbers and moments of TOML. A reader takes characters from the front, or refuses. -/
namespace PropertyAudit.Toml

abbrev Reader := StateT (List Char) Option

namespace Reader

def refuse : Reader α := fun _ => none

def orRefuse : Option α → Reader α
  | some value => pure value
  | none => refuse

def next? : Reader (Option Char) := fun rest => some (rest.head?, rest)

def next : Reader Char
  | [] => none
  | c :: rest => some (c, rest)

def skip : Reader Unit := fun rest => some ((), rest.tail)

def take? (expected : String) : Reader Bool := fun rest =>
  if expected.toList.isPrefixOf rest then some (true, rest.drop expected.length)
  else some (false, rest)

def take (expected : String) : Reader Unit := do
  unless ← take? expected do refuse

def takeWhile (accepts : Char → Bool) : Reader (List Char) := fun rest =>
  some (rest.takeWhile accepts, rest.dropWhile accepts)

def isBlank (c : Char) : Bool := c == ' ' || c == '\t'

def skipBlanks : Reader Unit := fun rest => some ((), rest.dropWhile isBlank)

def newline? : Reader Bool := do
  if ← take? "\n" then pure true else take? "\r\n"

/-- Characters that may stand in comments, and for themselves in strings. -/
def isPlain (c : Char) : Bool := c == '\t' || 0x20 ≤ c.toNat && c.toNat != 0x7F

/-! ### Strings -/

def hexValue (digits : List Char) : Option Nat :=
  digits.foldlM (fun value c => (Unicode.hexDigit? c).map (16 * value + ·)) 0

/-- A character given by that many hexadecimal digits. -/
def hexCharacter (count : Nat) : Reader Char := fun rest => do
  if rest.length < count then none
  let code ← hexValue (rest.take count)
  if h : code.isValidChar then some (Char.ofNatAux code h, rest.drop count) else none

def escape : Reader Char := do
  match ← next with
  | 'b' => pure '\x08'
  | 'f' => pure '\x0c'
  | 'n' => pure '\n'
  | 'r' => pure '\r'
  | 't' => pure '\t'
  | '"' => pure '"'
  | '\\' => pure '\\'
  | 'u' => hexCharacter 4
  | 'U' => hexCharacter 8
  | _ => refuse

/-- A string of one line, after its opening quote. `taken` holds the characters so far, the last one
first; no step takes less than a character, so `fuel` characters are enough. -/
def lineString (quote : Char) (escapes : Bool) : Nat → List Char → Reader String
  | 0, _ => refuse
  | fuel + 1, taken => do
    let c ← next
    if c == quote then pure (String.ofList taken.reverse)
    else if escapes && c == '\\' then lineString quote escapes fuel ((← escape) :: taken)
    else if isPlain c then lineString quote escapes fuel (c :: taken)
    else refuse

/-- Drops blanks and ends of lines. -/
def dropBlankLines : List Char → List Char
  | '\r' :: '\n' :: rest => dropBlankLines rest
  | c :: rest => if isBlank c || c == '\n' then dropBlankLines rest else c :: rest
  | [] => []

/-- What follows a backslash that ends its line, past all blanks and empty lines. -/
def continued? (rest : List Char) : Option (List Char) :=
  match rest.dropWhile isBlank with
  | '\n' :: more | '\r' :: '\n' :: more => some (dropBlankLines more)
  | _ => none

/-- A string of many lines, after its opening quotes and the end of their line. Up to two quotes may
stand before the three that close it. -/
def manyLineString (quote : Char) (escapes : Bool) : Nat → List Char → Reader String
  | 0, _ => refuse
  | fuel + 1, taken => do
    if ← newline? then manyLineString quote escapes fuel ('\n' :: taken)
    else
      let c ← next
      if c == quote then
        let count := (← takeWhile (· == quote)).length + 1
        let kept (n : Nat) := List.replicate n quote ++ taken
        if count < 3 then manyLineString quote escapes fuel (kept count)
        else if count < 6 then pure (String.ofList (kept (count - 3)).reverse)
        else refuse
      else if escapes && c == '\\' then
        match continued? (← get) with
        | some rest =>
          set rest
          manyLineString quote escapes fuel taken
        | none => manyLineString quote escapes fuel ((← escape) :: taken)
      else if isPlain c then manyLineString quote escapes fuel (c :: taken)
      else refuse

def simpleString : Reader String := do
  let quote ← next
  lineString quote (quote == '"') ((← get).length + 1) []

def string : Reader String := do
  let quote := (← next?).getD '"'
  if ← take? (String.ofList [quote, quote, quote]) then
    let _ ← newline?
    manyLineString quote (quote == '"') ((← get).length + 1) []
  else simpleString

/-! ### Numbers -/

/-- Further digits; an underscore stands between two of them only. -/
def moreDigits (isDigit : Char → Bool) : Reader (List Char)
  | [] => some ([], [])
  | ['_'] => none
  | '_' :: c :: rest =>
    if isDigit c then (moreDigits isDigit rest).map fun (digits, rest) => (c :: digits, rest)
    else none
  | c :: rest =>
    if isDigit c then (moreDigits isDigit rest).map fun (digits, rest) => (c :: digits, rest)
    else some ([], c :: rest)

def digits (isDigit : Char → Bool) : Reader (List Char) := do
  let first ← next
  if isDigit first then return first :: (← moreDigits isDigit) else refuse

def isDecimal (c : Char) : Bool := '0' ≤ c && c ≤ '9'

/-- The digits before a point; a zero stands alone. -/
def wholeDigits : Reader (List Char) := do
  if ← take? "0" then pure ['0'] else digits isDecimal

def integerInRange (value : Int) : Reader Toml :=
  if Int64.minValue.toInt ≤ value && value ≤ Int64.maxValue.toInt then pure (.integer value)
  else refuse

/-- An integer in a base other than ten, after its mark. -/
def basedInteger (base : Nat) : Reader Toml := do
  let inBase (c : Char) := (Unicode.hexDigit? c).any (· < base)
  let taken ← digits inBase
  integerInRange (taken.foldl (fun value c => base * value + (Unicode.hexDigit? c).getD 0) 0)

def decimalValue (digits : List Char) : Nat := Nat.ofDigitChars 10 digits 0

/-- Whether `significand * 10 ^ exponent` lies beyond the greatest number. -/
def isHuge (significand : Nat) (exponent : Int) : Bool :=
  let magnitude := exponent + (Nat.toDigits 10 significand).length
  if significand = 0 || magnitude < 300 then false
  else if 320 < magnitude then true
  else
    let (num, den) := Decimal.scaledRatio 10 significand 1 exponent
    (Decimal.Binary64.ofRatio? num den).isNone

def exponentAfterMark : Reader (Bool × List Char) := do
  let downward ← if ← take? "-" then pure true else do
    let _ ← take? "+"
    pure false
  return (downward, ← digits isDecimal)

def isExponentMark (c : Char) : Bool := c == 'e' || c == 'E'

/-- A decimal number, after its sign. Only a negative one may be too great to be finite. -/
def unsignedNumber (negative : Bool) : Reader Toml := do
  let sign := if negative then "-" else ""
  if ← take? "inf" then return .float (sign ++ "inf")
  if ← take? "nan" then return .float (sign ++ "nan")
  let whole ← wholeDigits
  let places ← if ← take? "." then some <$> digits isDecimal else pure none
  let exponent ← match ← next? with
    | some c =>
      if isExponentMark c then do
        skip
        some <$> exponentAfterMark
      else pure none
    | none => pure none
  if places.isNone && exponent.isNone then
    let value := decimalValue whole
    integerInRange (if negative then -value else value)
  else
    let (downward, shift) := exponent.getD (false, [])
    let fraction := places.getD []
    let power : Int := if downward then -decimalValue shift else decimalValue shift
    if !negative && isHuge (decimalValue (whole ++ fraction)) (power - fraction.length) then refuse
    else
      pure (.float (sign ++ String.ofList whole ++ "." ++ String.ofList fraction ++ "e" ++
        toString power))

def number : Reader Toml := do
  if ← take? "0x" then basedInteger 16
  else if ← take? "0o" then basedInteger 8
  else if ← take? "0b" then basedInteger 2
  else if ← take? "-" then unsignedNumber true
  else do
    let _ ← take? "+"
    unsignedNumber false

/-! ### Moments -/

def bounded (count least most : Nat) : Reader Nat := fun rest =>
  let taken := rest.take count
  let value := decimalValue taken
  if taken.length = count && taken.all isDecimal && least ≤ value && value ≤ most then
    some (value, rest.drop count)
  else none

def isLeapYear (year : Nat) : Bool := year % 4 == 0 && (year % 100 != 0 || year % 400 == 0)

def monthLength (year month : Nat) : Nat :=
  if month = 2 then if isLeapYear year then 29 else 28
  else if month = 4 || month = 6 || month = 9 || month = 11 then 30
  else 31

def date : Reader Unit := do
  let year ← bounded 4 0 9999
  take "-"
  let month ← bounded 2 1 12
  take "-"
  let _ ← bounded 2 1 (monthLength year month)

def clock : Reader Unit := do
  let _ ← bounded 2 0 23
  take ":"
  let _ ← bounded 2 0 59

def time : Reader Unit := do
  clock
  take ":"
  let _ ← bounded 2 0 60
  match ← get with
  | '.' :: c :: rest => if isDecimal c then set (rest.dropWhile isDecimal)
  | _ => pure ()

def zone : Reader Unit := do
  match ← next? with
  | some 'Z' | some 'z' => skip
  | some '+' | some '-' =>
    skip
    clock
  | _ => pure ()

/-- Whether that many digits and a mark stand next. -/
def digitsBefore (count : Nat) (mark : Char) (rest : List Char) : Bool :=
  (rest.take count).length = count && (rest.take count).all isDecimal && rest[count]? == some mark

/-- What follows a date: a time, which a blank or a letter divides from it, unless there is none. -/
def timeAfterDate : Reader Unit := do
  match ← get with
  | 'T' :: rest | 't' :: rest | ' ' :: rest =>
    if digitsBefore 2 ':' rest then
      set rest
      time
      zone
  | _ => pure ()

/-- A number or a moment; how the first digits end tells which. -/
def numberOrMoment : Reader Toml := do
  let start ← get
  let moment : Reader Toml := do
    let length := start.length - (← get).length
    pure (.moment (String.ofList (start.take length)))
  if digitsBefore 4 '-' start then
    date
    timeAfterDate
    moment
  else if digitsBefore 2 ':' start then
    time
    moment
  else number

end Reader
end PropertyAudit.Toml
