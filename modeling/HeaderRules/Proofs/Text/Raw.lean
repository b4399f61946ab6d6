import HeaderRules.Proofs.Outcome
import HeaderRules.Text.Raw
/-!
# Raw texts with a UTF-8 form

A text has a UTF-8 form exactly if it has no halves of surrogate pairs in it, which makes it a text
of characters.
-/

namespace HeaderRules.RawText

variable {t : RawText}

/-! ## Texts of characters -/

@[simp]
theorem isRagged_ofString (s : String) : (ofString s).isRagged = false := by
  simp [isRagged, ofString, CodePoint.isHalf]

theorem ofString_patched (h : t.isRagged = false) : ofString t.patched = t := by
  have hpoints : ∀ point ∈ t, CodePoint.char point.patched = point := by
    intro point hpoint
    cases point with
    | char c => rfl
    | half offset =>
      have hragged : t.isRagged = true := List.any_eq_true.2 ⟨_, hpoint, rfl⟩
      rw [h] at hragged
      cases hragged
  rw [ofString, patched, String.toList_ofList, List.map_map]
  exact (List.map_congr_left hpoints).trans (List.map_id' t)

/-! ## UTF-8 -/

theorem toList_loop_eq (bytes : ByteArray) (i : Nat) (read : List UInt8) :
    ByteArray.toList.loop bytes i read = read.reverse ++ bytes.data.toList.drop i := by
  fun_induction ByteArray.toList.loop bytes i read with
  | case1 i read h ih =>
    have hi : i < bytes.data.toList.length := by simpa using h
    rw [ih, List.drop_eq_getElem_cons hi]
    simp [ByteArray.get!, h]
  | case2 i read h =>
    rw [List.drop_eq_nil_of_le (by simpa using Nat.le_of_not_lt h)]
    simp

theorem toList_toUTF8 (s : String) : s.toUTF8.toList = s.toList.flatMap String.utf8EncodeChar := by
  have hbytes : s.toByteArray = s.toList.utf8Encode := by
    rw [← String.toByteArray_ofList, String.ofList_toList]
  rw [String.toUTF8_eq_toByteArray, hbytes, ByteArray.toList, toList_loop_eq, List.utf8Encode]
  simp

theorem encodeFrom_map_char (position : Nat) (cs : List Char) :
    encodeFrom position (cs.map .char) = .ok (cs.flatMap String.utf8EncodeChar) := by
  induction cs generalizing position with
  | nil => rfl
  | cons c rest ih => simp [encodeFrom, ih]

@[simp]
theorem encode_ofString (s : String) : (ofString s).encode = .ok s.toUTF8.toList := by
  rw [encode, ofString, encodeFrom_map_char, toList_toUTF8]

/-- The text before the first half is what counts, so that a half further back is not seen. -/
theorem encodeFrom_of_isRagged (position : Nat) (h : t.isRagged = true) :
    ∃ fault, encodeFrom position t = .error fault := by
  induction t generalizing position with
  | nil => cases h
  | cons point rest ih =>
    cases point with
    | char c =>
      obtain ⟨fault, hfault⟩ := ih (position + 1) (by simpa [isRagged, CodePoint.isHalf] using h)
      exact ⟨fault, by simp [encodeFrom, hfault]⟩
    | half offset => exact ⟨_, rfl⟩

theorem encode_eq_ok_iff : (∃ bytes, t.encode = .ok bytes) ↔ t.isRagged = false := by
  constructor
  · rintro ⟨bytes, hbytes⟩
    rw [← Bool.not_eq_true]
    intro hragged
    obtain ⟨fault, hfault⟩ := encodeFrom_of_isRagged 0 hragged
    rw [encode, hfault] at hbytes
    cases hbytes
  · intro h
    exact ⟨_, by rw [← ofString_patched h, encode_ofString]⟩

end HeaderRules.RawText
