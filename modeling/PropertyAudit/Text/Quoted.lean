import PropertyAudit.Unicode.Additions

/-! Text quoted inside a message. Quotes, backslashes and characters that do not print, or that
would join the character before them, are written as escapes. -/
namespace PropertyAudit.Text

def hexadecimal (value : Nat) : String := String.ofList (Nat.toDigits 16 value)

def escapeChar (c : Char) : String :=
  match c with
  | '\x00' => "\\0"
  | '\t' => "\\t"
  | '\n' => "\\n"
  | '\r' => "\\r"
  | '"' => "\\\""
  | '\\' => "\\\\"
  | c =>
    if 0x20 ≤ c.toNat && c.toNat < 0x7F then c.toString
    else if Unicode.joining.contains c.toNat || Unicode.unprintable.contains c.toNat then
      "\\u\x7b" ++ hexadecimal c.toNat ++ "\x7d"
    else c.toString

def quoted (text : String) : String :=
  "\"" ++ String.join (text.toList.map escapeChar) ++ "\""

end PropertyAudit.Text
