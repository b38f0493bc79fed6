import PropertyAudit.Json.Value

/-! JSON text, compact or indented by two blanks a level. Quotes, backslashes and control characters
are escaped; every other character stands for itself. -/
namespace PropertyAudit.Json

def hexDigits (code : Nat) : List Char :=
  let digit (n : Nat) := (Nat.toDigits 16 (n % 16)).headD '0'
  [digit (code / 4096), digit (code / 256), digit (code / 16), digit code]

def escapeChar (c : Char) : List Char :=
  match c with
  | '"' => ['\\', '"']
  | '\\' => ['\\', '\\']
  | '\x08' => ['\\', 'b']
  | '\x0c' => ['\\', 'f']
  | '\n' => ['\\', 'n']
  | '\r' => ['\\', 'r']
  | '\t' => ['\\', 't']
  | c => if c.toNat < 0x20 then '\\' :: 'u' :: hexDigits c.toNat else [c]

def printString (text : String) : List Char :=
  '"' :: (text.toList.flatMap escapeChar ++ ['"'])

def printScalar : Json → List Char
  | .null => "null".toList
  | .boolean true => "true".toList
  | .boolean false => "false".toList
  | .integer value => (toString value).toList
  | .decimal value => value.text.toList
  | .string value => printString value
  | .array _ | .object _ => []

mutual
def printCompact : Json → List Char
  | .array items => '[' :: (printItems true items ++ [']'])
  | .object members => '\x7b' :: (printMembers true members ++ ['\x7d'])
  | scalar => printScalar scalar

def printItems (first : Bool) : List Json → List Char
  | [] => []
  | item :: rest => (if first then [] else [',']) ++ printCompact item ++ printItems false rest

def printMembers (first : Bool) : List (String × Json) → List Char
  | [] => []
  | (name, value) :: rest =>
    (if first then [] else [',']) ++ printString name ++ ':' :: printCompact value ++
      printMembers false rest
end

def compact (value : Json) : String := String.ofList value.printCompact

def newline (depth : Nat) : List Char := '\n' :: List.replicate (2 * depth) ' '

mutual
def printIndented (depth : Nat) : Json → List Char
  | .array [] => ['[', ']']
  | .array items => '[' :: (printLines depth true items ++ newline depth ++ [']'])
  | .object [] => ['\x7b', '\x7d']
  | .object members => '\x7b' :: (printNamedLines depth true members ++ newline depth ++ ['\x7d'])
  | scalar => printScalar scalar

def printLines (depth : Nat) (first : Bool) : List Json → List Char
  | [] => []
  | item :: rest =>
    (if first then [] else [',']) ++ newline (depth + 1) ++ printIndented (depth + 1) item ++
      printLines depth false rest

def printNamedLines (depth : Nat) (first : Bool) : List (String × Json) → List Char
  | [] => []
  | (name, value) :: rest =>
    (if first then [] else [',']) ++ newline (depth + 1) ++ printString name ++
      ':' :: ' ' :: printIndented (depth + 1) value ++ printNamedLines depth false rest
end

def indented (value : Json) : String := String.ofList (value.printIndented 0)

end PropertyAudit.Json
