import ExportLedger.Text.Utf8
/-!
Bytes in which every byte is part of a character are the bytes of a text.
-/
namespace ExportLedger.Text

/-- From a character on, the bytes are those of the character and those after it. -/
theorem extract_of_utf8DecodeChar? {bytes : ByteArray} {i : Nat} {c : Char}
    (h : bytes.utf8DecodeChar? i = some c) :
    bytes.extract i bytes.size = [c].utf8Encode ++ bytes.extract (i + c.utf8Size) bytes.size := by
  have hsize := ByteArray.le_size_of_utf8DecodeChar?_eq_some h
  rw [ByteArray.utf8DecodeChar?_eq_utf8DecodeChar?_extract] at h
  obtain ⟨rest, hrest⟩ := ByteArray.exists_of_utf8DecodeChar?_eq_some h
  have hfront : (String.utf8EncodeChar c).toByteArray.size = c.utf8Size := by
    rw [List.size_toByteArray, String.length_utf8EncodeChar]
  have hlength := congrArg ByteArray.size hrest
  rw [ByteArray.size_extract, ByteArray.size_append, hfront] at hlength
  have hback : (bytes.extract i bytes.size).extract c.utf8Size (bytes.size - i) = rest := by
    rw [hrest]
    exact ByteArray.extract_append_eq_right hfront.symm (by omega)
  rw [ByteArray.extract_extract] at hback
  have hend : min (i + (bytes.size - i)) bytes.size = bytes.size := by omega
  rw [hend] at hback
  rw [hback, hrest, List.utf8Encode_singleton]

theorem extract_of_charactersFrom {bytes : ByteArray} {i : Nat} {cs : List Char}
    (hi : i ≤ bytes.size) (h : charactersFrom bytes i = cs.map some) :
    bytes.extract i bytes.size = cs.utf8Encode := by
  fun_induction charactersFrom bytes i generalizing cs with
  | case1 i hlt c hc ih =>
    cases cs with
    | nil => contradiction
    | cons d cs =>
      obtain ⟨hcd, htail⟩ := List.cons.inj h
      obtain rfl := Option.some.inj hcd
      have hrest := ih (ByteArray.le_size_of_utf8DecodeChar?_eq_some hc) htail
      rw [extract_of_utf8DecodeChar? hc, hrest, ← List.utf8Encode_cons]
  | case2 i hlt hnone ih =>
    cases cs with
    | nil => contradiction
    | cons d cs => exact absurd (List.cons.inj h).1 (Option.some_ne_none d).symm
  | case3 i hge =>
    obtain rfl := List.map_eq_nil_iff.1 h.symm
    have hend : i = bytes.size := by omega
    rw [hend, ByteArray.extract_same]
    rfl

/-- Only the bytes of a text are all part of its characters. -/
theorem characters_eq_map_some_iff {bytes : ByteArray} {s : String} :
    characters bytes = s.toList.map some ↔ bytes = s.toUTF8 := by
  constructor
  · intro h
    unfold characters at h
    split at h
    · rename_i t ht
      have hst : t = s :=
        String.toList_inj.1 (List.map_inj_right (fun _ _ => Option.some.inj) |>.1 h)
      unfold String.fromUTF8? at ht
      split at ht
      · rename_i hvalid
        rw [← hst, ← Option.some.inj ht]
        rfl
      · contradiction
    · have hbytes := extract_of_charactersFrom (Nat.zero_le _) h
      rw [ByteArray.extract_zero_size] at hbytes
      rw [hbytes, String.utf8Encode_toList, String.toUTF8_eq_toByteArray]
  · rintro rfl
    exact characters_toUTF8 s

end ExportLedger.Text
