import PropertyAudit.Json.Fault
import PropertyAudit.Text.Encoding

/-! Reading JSON from bytes. A reader takes bytes from the front and leaves the others; when it
fails, the bytes then left tell the position. A fault that is not settled has no position of its
own: the array or object around it gives it one, after closing itself as far as the next byte
allows. -/
namespace PropertyAudit.Json

structure Fault where
  cause : Cause
  rest : List UInt8
  settled : Bool

abbrev Reader := StateT (List UInt8) (Except Fault)

namespace Reader

def ascii (c : Char) : UInt8 := c.toNat.toUInt8

def fail (cause : Cause) : Reader α := fun rest => .error ⟨cause, rest, true⟩

/-- Fails at the next byte, which counts as read. -/
def failNext (cause : Cause) : Reader α := fun rest => .error ⟨cause, rest.tail, true⟩

def raise (cause : Cause) : Reader α := fun rest => .error ⟨cause, rest, false⟩

def raiseError : Except Cause α → Reader α
  | .ok value => pure value
  | .error cause => raise cause

def next? : Reader (Option UInt8) := fun rest => .ok (rest.head?, rest)

def skip : Reader Unit := fun rest => .ok ((), rest.tail)

def isBlank (byte : UInt8) : Bool :=
  byte == ascii ' ' || byte == ascii '\n' || byte == ascii '\t' || byte == ascii '\r'

def dropBlanks (rest : List UInt8) : List UInt8 := rest.dropWhile isBlank

def nextToken? : Reader (Option UInt8) := fun rest => .ok ((dropBlanks rest).head?, dropBlanks rest)

def word : List UInt8 → Reader Unit
  | [] => pure ()
  | expected :: more => fun rest =>
    match rest with
    | [] => fail .endInValue []
    | byte :: rest => if byte == expected then word more rest else fail .expectedWord rest

/-! ### Strings -/

def hexDigit? (byte : UInt8) : Option Nat := Unicode.hexDigit? (Char.ofNat byte.toNat)

/-- Four hexadecimal digits; all four bytes are taken before they are looked at. -/
def hexUnit : Reader Nat
  | a :: b :: c :: d :: rest =>
    match hexDigit? a, hexDigit? b, hexDigit? c, hexDigit? d with
    | some a, some b, some c, some d => .ok (4096 * a + 256 * b + 16 * c + d, rest)
    | _, _, _, _ => fail .invalidEscape rest
  | _ => fail .endInString []

def isLeading (unit : Nat) : Bool := 0xD800 ≤ unit && unit ≤ 0xDBFF

def isTrailing (unit : Nat) : Bool := 0xDC00 ≤ unit && unit ≤ 0xDFFF

/-- Takes one byte that has to be the given one inside a pair of surrogates. -/
def pairByte (expected : UInt8) : Reader Unit := fun rest =>
  match rest with
  | [] => fail .endInString []
  | byte :: rest => if byte == expected then .ok ((), rest) else fail .unfinishedSurrogates rest

def hexCharacter : Reader Char := do
  let unit ← hexUnit
  if isTrailing unit then fail .loneSurrogate
  else if isLeading unit then
    pairByte (ascii '\\')
    pairByte (ascii 'u')
    let trailing ← hexUnit
    if isTrailing trailing then
      pure (Char.ofNat (0x10000 + 0x400 * (unit - 0xD800) + (trailing - 0xDC00)))
    else fail .loneSurrogate
  else pure (Char.ofNat unit)

def simpleEscape? (byte : UInt8) : Option Char :=
  if byte == ascii '"' then some '"'
  else if byte == ascii '\\' then some '\\'
  else if byte == ascii '/' then some '/'
  else if byte == ascii 'b' then some '\x08'
  else if byte == ascii 'f' then some '\x0c'
  else if byte == ascii 'n' then some '\n'
  else if byte == ascii 'r' then some '\r'
  else if byte == ascii 't' then some '\t'
  else none

def escape : Reader Char := fun rest =>
  match rest with
  | [] => fail .endInString []
  | byte :: rest =>
    match simpleEscape? byte with
    | some c => .ok (c, rest)
    | none => if byte == ascii 'u' then hexCharacter rest else fail .invalidEscape rest

/-- Takes the bytes of a string up to its closing quote, escapes replaced. `taken` holds those
before, the last one first. No step takes less than a byte, so `fuel` bytes are enough. -/
def stringBytes : Nat → List UInt8 → Reader (List UInt8)
  | 0, _ => fail .endInString
  | fuel + 1, taken => fun rest =>
    match rest with
    | [] => fail .endInString []
    | byte :: rest =>
      if byte == ascii '"' then .ok (taken.reverse, rest)
      else if byte == ascii '\\' then
        match escape rest with
        | .ok (c, rest) => stringBytes fuel ((String.utf8EncodeChar c).reverse ++ taken) rest
        | .error fault => .error fault
      else if byte < 0x20 then fail .controlCharacter rest
      else stringBytes fuel (byte :: taken) rest

/-- A string, after its opening quote. Bytes that encode no character are a fault. Its position is
told from the end: as many bytes before the end of the string as its content, escapes replaced, has
from the first such byte on. -/
def stringTail : Reader String := fun rest =>
  match stringBytes rest.length [] rest with
  | .ok (taken, after) =>
    match Text.ofBytes? taken with
    | some text => .ok (text, after)
    | none =>
      let read := rest.length - after.length
      let unreadable := taken.length - Text.encodedPrefix taken.length taken
      fail .invalidEncoding (rest.drop (read - unreadable))
  | .error fault => .error fault

/-- Passes over a string, after its opening quote. Only its shape is looked at: surrogates need not
pair, and bytes need not encode characters. -/
def passString : Nat → Reader Unit
  | 0 => fail .endInString
  | fuel + 1 => fun rest =>
    match rest with
    | [] => fail .endInString []
    | byte :: rest =>
      if byte == ascii '"' then .ok ((), rest)
      else if byte == ascii '\\' then
        match rest with
        | [] => fail .endInString []
        | letter :: rest =>
          if letter == ascii 'u' then
            match hexUnit rest with
            | .ok (_, rest) => passString fuel rest
            | .error fault => .error fault
          else if (simpleEscape? letter).isSome then passString fuel rest
          else fail .invalidEscape rest
      else if byte < 0x20 then fail .controlCharacter (byte :: rest)
      else passString fuel rest

/-! ### Numbers -/

def digit? (byte : UInt8) : Option Nat :=
  if ascii '0' ≤ byte && byte ≤ ascii '9' then some (byte - ascii '0').toNat else none

def isExponentMark (byte : UInt8) : Bool := byte == ascii 'e' || byte == ascii 'E'

def passDigits : Reader Unit := fun rest => .ok ((), rest.dropWhile fun b => (digit? b).isSome)

inductive Number where
  | whole (value : Int)
  | binary (value : Decimal.Binary64)

def Number.found : Number → Found
  | .whole value => .integer value
  | .binary value => .decimal value

/-- Digits are gathered as long as the significand keeps below this bound. -/
def significandLimit : Nat := UInt64.size

/-- Takes digits while they fit the significand; tells their count and whether one did not fit. -/
def significandDigits (significand count : Nat) : List UInt8 → (Nat × Nat × Bool) × List UInt8
  | [] => ((significand, count, false), [])
  | byte :: rest =>
    match digit? byte with
    | none => ((significand, count, false), byte :: rest)
    | some d =>
      let grown := 10 * significand + d
      if grown < significandLimit then significandDigits grown (count + 1) rest
      else ((significand, count, true), byte :: rest)

/-- Divides by a power of ten that may exceed the greatest number, in steps. -/
def scaleDown : Nat → Decimal.Binary64 → Nat → Option Decimal.Binary64
  | 0, value, _ => some value
  | steps + 1, value, exponent =>
    if exponent ≤ 308 then do value.div? (← Decimal.Binary64.powerOfTen? exponent)
    else if value.mantissa = 0 then some value
    else do scaleDown steps (← value.div? (← Decimal.Binary64.powerOfTen? 308)) (exponent - 308)

/-- The number `significand * 10 ^ exponent`: the significand is rounded to a binary number, which
is then multiplied or divided by the power of ten. -/
def scaled (negative : Bool) (significand : Nat) (exponent : Int) : Reader Number := fun rest =>
  let value? := do
    let value ← Decimal.Binary64.ofNat? significand
    if 0 ≤ exponent then
      if exponent ≤ 308 then value.mul? (← Decimal.Binary64.powerOfTen? exponent.toNat)
      else if value.mantissa = 0 then some value
      else none
    else scaleDown 3 value (-exponent).toNat
  match value? with
  | some value => .ok (.binary { value with negative := negative }, rest)
  | none => fail .numberOutOfRange rest

/-- Exponents are gathered as long as they keep below this bound. -/
def exponentLimit : Nat := 0x80000000

/-- Takes the digits of an exponent, or nothing further once they exceed the bound. -/
def exponentDigits (value : Nat) : List UInt8 → Option Nat × List UInt8
  | [] => (some value, [])
  | byte :: rest =>
    match digit? byte with
    | none => (some value, byte :: rest)
    | some d =>
      let grown := 10 * value + d
      if grown < exponentLimit then exponentDigits grown rest else (none, rest)

/-- Keeps a sum of exponents within 32 bits. -/
def clampExponent (exponent : Int) : Int := max (-exponentLimit) (min (exponentLimit - 1) exponent)

def exponentPart (negative : Bool) (significand : Nat) (start : Int) : Reader Number := do
  skip
  let downward ← do
    match ← next? with
    | some byte =>
      if byte == ascii '+' then skip; pure false
      else if byte == ascii '-' then skip; pure true
      else pure false
    | none => pure false
  match ← next? with
  | none => fail .endInValue
  | some byte =>
    skip
    match digit? byte with
    | none => fail .invalidNumber
    | some d =>
      match ← (fun rest => .ok (exponentDigits d rest) : Reader (Option Nat)) with
      | some exponent =>
        let total := if downward then start - exponent else start + exponent
        scaled negative significand (clampExponent total)
      | none =>
        if significand != 0 && !downward then fail .numberOutOfRange
        else do
          passDigits
          pure (.binary { Decimal.Binary64.zero with negative })

def fractionPart (negative : Bool) (significand : Nat) (start : Int) : Reader Number := do
  skip
  let (grown, count, full) ← (fun rest => .ok (significandDigits significand 0 rest) :
    Reader (Nat × Nat × Bool))
  if full then passDigits
  if count = 0 && !full then
    match ← next? with
    | some _ => failNext .invalidNumber
    | none => fail .endInValue
  else
    let exponent := start - count
    match ← next? with
    | some byte =>
      if isExponentMark byte then exponentPart negative grown exponent
      else scaled negative grown exponent
    | none => scaled negative grown exponent

def numberTail (negative : Bool) (significand : Nat) : Reader Number := do
  let whole : Number :=
    if !negative then .whole significand
    else if significand != 0 && significand ≤ Int64.minValue.toInt.natAbs then .whole (-significand)
    else .binary { (Decimal.Binary64.ofNat? significand).getD .zero with negative := true }
  match ← next? with
  | some byte =>
    if byte == ascii '.' then fractionPart negative significand 0
    else if isExponentMark byte then exponentPart negative significand 0
    else pure whole
  | none => pure whole

/-- A number with more digits before the point than the significand holds. -/
def longNumber (negative : Bool) (significand : Nat) : Reader Number := fun rest =>
  let digits := rest.takeWhile fun b => (digit? b).isSome
  let after := rest.drop digits.length
  let exponent : Int := digits.length
  match after.head? with
  | some byte =>
    if byte == ascii '.' then fractionPart negative significand exponent after
    else if isExponentMark byte then exponentPart negative significand exponent after
    else scaled negative significand exponent after
  | none => scaled negative significand exponent after

def number (negative : Bool) : Reader Number := do
  match ← next? with
  | none => fail .endInValue
  | some byte =>
    skip
    match digit? byte with
    | none => fail .invalidNumber
    | some 0 =>
      match (← next?).bind digit? with
      | some _ => failNext .invalidNumber
      | none => numberTail negative 0
    | some d =>
      let (significand, _, full) ← (fun rest => .ok (significandDigits d 1 rest) :
        Reader (Nat × Nat × Bool))
      if full then longNumber negative significand else numberTail negative significand

def passExponent : Reader Unit := do
  skip
  match ← next? with
  | some byte => if byte == ascii '+' || byte == ascii '-' then skip
  | none => pure ()
  match (← next?).bind digit? with
  | some _ => skip; passDigits
  | none => skip; fail .invalidNumber

def passNumber : Reader Unit := do
  match (← next?).bind digit? with
  | none => skip; fail .invalidNumber
  | some 0 =>
    skip
    if ((← next?).bind digit?).isSome then failNext .invalidNumber
  | some _ => passDigits
  match ← next? with
  | some byte =>
    if byte == ascii '.' then
      skip
      if ((← next?).bind digit?).isNone then failNext .invalidNumber
      passDigits
      if (← next?).any isExponentMark then passExponent
    else if isExponentMark byte then passExponent
  | none => pure ()

end Reader
end PropertyAudit.Json
