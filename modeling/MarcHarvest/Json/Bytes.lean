import MarcHarvest.Json.Parser

/-!
# JSON in bytes

Reading a value from bytes that ought to be UTF-8. A byte that belongs to no character breaks the
text it stands in, and nothing but that text; outside of texts it is no JSON.
-/

namespace MarcHarvest.Json

/-- The character at the start of some bytes and the bytes after it: the shortest beginning that
is UTF-8 holds exactly one. -/
def firstChar? (bytes : List UInt8) : Option (Char × List UInt8) :=
  [1, 2, 3, 4].findSome? fun n => do
    let c ← (← String.fromUTF8? ⟨(bytes.take n).toArray⟩).toList.head?
    return (c, bytes.drop n)

/-- What is read in place of a byte that belongs to no character: a letter that no backslash may
stand before, and half of a surrogate pair. -/
def strayByte : List Char := "x\\ud800".toList

/-- The characters that bytes hold. Every step takes at least one byte, so their number is fuel
enough. -/
def charsOfBytes : Nat → List UInt8 → List Char
  | 0, _ => []
  | _, [] => []
  | fuel + 1, b :: rest =>
    match firstChar? (b :: rest) with
    | some (c, rest) => c :: charsOfBytes fuel rest
    | none => strayByte ++ charsOfBytes fuel rest

/-- The text that bytes hold. -/
def textOfBytes (bytes : ByteArray) : String :=
  match String.fromUTF8? bytes with
  | some s => s
  | none => String.ofList (charsOfBytes bytes.size bytes.toList)

/-- The value that bytes write. -/
def parseBytes? (bytes : ByteArray) : Option Json := parse? (textOfBytes bytes)

theorem textOfBytes_toUTF8 (s : String) : textOfBytes s.toUTF8 = s := by
  have h : String.fromUTF8? s.toUTF8 = some s := by
    unfold String.fromUTF8?
    rw [String.toUTF8_eq_toByteArray, dif_pos s.isValidUTF8]
    rfl
  rw [textOfBytes, h]

/-- The bytes of a text are read like the text. -/
theorem parseBytes?_toUTF8 (s : String) : parseBytes? s.toUTF8 = parse? s := by
  rw [parseBytes?, textOfBytes_toUTF8]

end MarcHarvest.Json
