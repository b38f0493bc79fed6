import PropertyAudit.Unicode.Age
import PropertyAudit.Unicode.Property
import PropertyAudit.Unicode.Script
import PropertyAudit.Unicode.Segmentation

/-! Sets of characters that patterns know by name. -/
namespace PropertyAudit.Pattern.CharSet

open Unicode (Ranges)

def asciiClasses : List (String × Ranges) := [
  ("alnum", .ofTexts ["30-39 41-5A 61-7A"]), ("alpha", .ofTexts ["41-5A 61-7A"]),
  ("ascii", .ofTexts ["0-7F"]), ("blank", .ofTexts ["9 20"]), ("cntrl", .ofTexts ["0-1F 7F"]),
  ("digit", .ofTexts ["30-39"]), ("graph", .ofTexts ["21-7E"]), ("lower", .ofTexts ["61-7A"]),
  ("print", .ofTexts ["20-7E"]), ("punct", .ofTexts ["21-2F 3A-40 5B-60 7B-7E"]),
  ("space", .ofTexts ["9-D 20"]), ("upper", .ofTexts ["41-5A"]),
  ("word", .ofTexts ["30-39 41-5A 5F 61-7A"]), ("xdigit", .ofTexts ["30-39 41-46 61-66"])]

def asciiClass? (name : String) : Option Ranges := asciiClasses.lookup name

/-- A name of a property without its marks: letters in lower case, without a leading `is`. -/
def normalizedName (name : String) : String :=
  let chars := name.toList
  let isPrefixed := (chars.take 2).map Char.toLower == ['i', 's']
  let kept := ((if isPrefixed then chars.drop 2 else chars).filter fun c =>
    c.toNat < 0x80 && c != ' ' && c != '_' && c != '-').map Char.toLower
  if isPrefixed && kept == ['c'] then "isc" else String.ofList kept

def named? (name : String) : Option Ranges :=
  let name := normalizedName name
  let property := if ["cf", "sc", "lc"].contains name then none else Unicode.propertyNamed? name
  property <|> Unicode.categoryNamed? name <|> Unicode.scriptNamed? name

def withValue? (property value : String) : Option Ranges :=
  let value := normalizedName value
  match normalizedName property with
  | "gc" | "generalcategory" => Unicode.categoryNamed? value
  | "sc" | "script" => Unicode.scriptNamed? value
  | "scx" | "scriptextensions" => Unicode.scriptExtensionNamed? value
  | "age" => Unicode.ageNamed? value
  | "gcb" | "graphemeclusterbreak" => Unicode.classNamed? Unicode.graphemeClasses value
  | "wb" | "wordbreak" => Unicode.classNamed? Unicode.wordClasses value
  | "sb" | "sentencebreak" => Unicode.classNamed? Unicode.sentenceClasses value
  | _ => none

end PropertyAudit.Pattern.CharSet
