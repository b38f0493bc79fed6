import PropertyAudit.Decimal.Shortest
import PropertyAudit.Text.Quoted

/-! Why a JSON document cannot be read, and where. -/
namespace PropertyAudit.Json

inductive Found where
  | null
  | boolean (value : Bool)
  | integer (value : Int)
  | decimal (value : Decimal.Binary64)
  | string (value : String)
  | array
  | object

def Found.text : Found → String
  | .null => "null"
  | .boolean value => "boolean `" ++ (if value then "true" else "false") ++ "`"
  | .integer value => "integer `" ++ toString value ++ "`"
  | .decimal value => "floating point `" ++ value.text ++ "`"
  | .string value => "string " ++ Text.quoted value
  | .array => "sequence"
  | .object => "map"

inductive Cause where
  | endInArray
  | endInObject
  | endInString
  | endInValue
  | expectedColon
  | expectedCommaOrBracket
  | expectedCommaOrBrace
  | expectedWord
  | expectedValue
  | invalidEscape
  | invalidNumber
  | numberOutOfRange
  | invalidEncoding
  | controlCharacter
  | nameNotString
  | loneSurrogate
  | unfinishedSurrogates
  | trailingComma
  | trailingCharacters
  | tooDeep
  | wrongType (found : Found) (expected : String)
  | wrongValue (found : Found) (expected : String)
  | wrongLength (length : Nat) (expected : String)
  | missingMember (name : String)
  | repeatedMember (name : String)
  | unknownWord (word : String) (known : List String)

def alternatives (words : List String) : String :=
  match words.map fun word => "`" ++ word ++ "`" with
  | [] => "there are no variants"
  | [only] => "expected " ++ only
  | [first, second] => "expected " ++ first ++ " or " ++ second
  | many => "expected one of " ++ ", ".intercalate many

def Cause.message : Cause → String
  | .endInArray => "EOF while parsing a list"
  | .endInObject => "EOF while parsing an object"
  | .endInString => "EOF while parsing a string"
  | .endInValue => "EOF while parsing a value"
  | .expectedColon => "expected `:`"
  | .expectedCommaOrBracket => "expected `,` or `]`"
  | .expectedCommaOrBrace => "expected `,` or `\x7d`"
  | .expectedWord => "expected ident"
  | .expectedValue => "expected value"
  | .invalidEscape => "invalid escape"
  | .invalidNumber => "invalid number"
  | .numberOutOfRange => "number out of range"
  | .invalidEncoding => "invalid unicode code point"
  | .controlCharacter => "control character (\\u0000-\\u001F) found while parsing a string"
  | .nameNotString => "key must be a string"
  | .loneSurrogate => "lone leading surrogate in hex escape"
  | .unfinishedSurrogates => "unexpected end of hex escape"
  | .trailingComma => "trailing comma"
  | .trailingCharacters => "trailing characters"
  | .tooDeep => "recursion limit exceeded"
  | .wrongType found expected => "invalid type: " ++ found.text ++ ", expected " ++ expected
  | .wrongValue found expected => "invalid value: " ++ found.text ++ ", expected " ++ expected
  | .wrongLength length expected =>
    "invalid length " ++ toString length ++ ", expected " ++ expected
  | .missingMember name => "missing field `" ++ name ++ "`"
  | .repeatedMember name => "duplicate field `" ++ name ++ "`"
  | .unknownWord word known => "unknown variant `" ++ word ++ "`, " ++ alternatives known

/-- A line from 1 on, and how many bytes of it were read. -/
structure Position where
  line : Nat
  column : Nat
deriving Repr, DecidableEq

def Position.advance (position : Position) (byte : UInt8) : Position :=
  if byte == 0x0A then ⟨position.line + 1, 0⟩ else ⟨position.line, position.column + 1⟩

def Position.after (bytes : List UInt8) : Position := bytes.foldl .advance ⟨1, 0⟩

structure Located where
  cause : Cause
  position : Position

def Located.message (located : Located) : String :=
  located.cause.message ++ " at line " ++ toString located.position.line ++ " column " ++
    toString located.position.column

end PropertyAudit.Json
