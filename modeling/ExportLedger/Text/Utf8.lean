/-!
Byte strings as characters, where some bytes may belong to no character.
-/
namespace ExportLedger.Text

/-- The characters from byte `i` on; `none` stands for a byte that is part of no character. -/
def charactersFrom (bytes : ByteArray) (i : Nat) : List (Option Char) :=
  if i < bytes.size then
    match bytes.utf8DecodeChar? i with
    | some c => some c :: charactersFrom bytes (i + c.utf8Size)
    | none => none :: charactersFrom bytes (i + 1)
  else []
termination_by bytes.size - i
decreasing_by
  · have := c.utf8Size_pos
    omega
  · omega

/-- A valid UTF-8 string is decoded whole; otherwise each stray byte becomes `none`. -/
def characters (bytes : ByteArray) : List (Option Char) :=
  match String.fromUTF8? bytes with
  | some s => s.toList.map some
  | none => charactersFrom bytes 0

theorem characters_toUTF8 (s : String) : characters s.toUTF8 = s.toList.map some := by
  have h : String.fromUTF8? s.toUTF8 = some s := by
    simp only [String.fromUTF8?, String.toUTF8_eq_toByteArray, dif_pos s.isValidUTF8]
    rfl
  simp only [characters, h]

end ExportLedger.Text
