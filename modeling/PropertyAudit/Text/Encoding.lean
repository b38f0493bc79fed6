/-! Text as UTF-8 bytes. `ofBytes?` undoes `bytes` and refuses everything `bytes` cannot produce. -/
namespace PropertyAudit.Text

def bytes (text : String) : List UInt8 := text.toList.flatMap String.utf8EncodeChar

def ofBytes? (encoded : List UInt8) : Option String := String.fromUTF8? encoded.toByteArray

/-- How many of the first bytes encode one character; none if there is no such number. -/
def characterLength (encoded : List UInt8) : Nat :=
  ([1, 2, 3, 4].find? fun n => (ofBytes? (encoded.take n)).isSome).getD 0

/-- The number of bytes before the first that encodes nothing, among at most `fuel` characters. -/
def encodedPrefix : Nat → List UInt8 → Nat
  | 0, _ | _, [] => 0
  | fuel + 1, encoded =>
    match characterLength encoded with
    | 0 => 0
    | length => length + encodedPrefix fuel (encoded.drop length)

theorem bytes_append (a b : String) : bytes (a ++ b) = bytes a ++ bytes b := by
  simp [bytes]

theorem toByteArray_bytes (text : String) : (bytes text).toByteArray = text.toByteArray := by
  conv => rhs; rw [← String.ofList_toList (s := text), String.toByteArray_ofList]
  rfl

@[simp] theorem ofBytes?_bytes (text : String) : ofBytes? (bytes text) = some text := by
  unfold ofBytes? String.fromUTF8?
  rw [toByteArray_bytes, dif_pos text.isValidUTF8]
  rfl

theorem bytes_of_ofBytes? {encoded : List UInt8} {text : String}
    (decoded : ofBytes? encoded = some text) : bytes text = encoded := by
  have same := toByteArray_bytes text
  unfold ofBytes? String.fromUTF8? at decoded
  split at decoded
  · injection decoded with h
    subst h
    have := congrArg (fun b => b.data.toList) same
    simpa [String.fromUTF8] using this
  · cases decoded

end PropertyAudit.Text
