import ContainerLaunch.Text.Points
/-!
# Which texts have an encoding

A text consists of characters, or it is cut in two by its first surrogate (`exists_cut`). In the first case it is
encoded as the string of its characters, in the second one encoding fails at the cut.
-/

namespace ContainerLaunch.Text

theorem toUTF8_data (s : String) : s.toUTF8.data.toList = s.toList.flatMap String.utf8EncodeChar := by
  rw [String.toUTF8, ← String.utf8Encode_toList, List.utf8Encode, List.toList_data_toByteArray]

namespace Points

theorem encodeFrom_append (position : Nat) (cs : List Char) (rest : Points) :
    encodeFrom position (cs.map .char ++ rest) =
      (encodeFrom (position + cs.length) rest).map (cs.flatMap String.utf8EncodeChar ++ ·) := by
  induction cs generalizing position with
  | nil => cases h : encodeFrom position rest <;> simp [h, Except.map]
  | cons c cs ih =>
    have hlength : position + 1 + cs.length = position + (c :: cs).length := by
      rw [List.length_cons]
      omega
    rw [List.map_cons, List.cons_append, encodeFrom, ih, hlength]
    cases encodeFrom (position + (c :: cs).length) rest <;> simp [Except.map]

theorem encode_ofString (s : String) : (ofString s).encode = .ok s.toUTF8.data.toList := by
  have h := encodeFrom_append 0 s.toList []
  rw [List.append_nil] at h
  rw [encode, ofString, h, toUTF8_data]
  simp [encodeFrom, Except.map]

/-- How many surrogates a text begins with. -/
def leading (text : Points) : Nat := (text.takeWhile Point.isSurrogate).length

theorem encode_ofString_append_surrogate (s : String) (n : Fin 0x800) (after : Points) :
    (ofString s ++ .surrogate n :: after).encode = .error ⟨s.length, n, leading after⟩ := by
  have h := encodeFrom_append 0 s.toList (.surrogate n :: after)
  rw [encode, ofString, h, String.length_toList, Nat.zero_add]
  rfl

theorem exists_cut (text : Points) :
    (∃ s, text = ofString s) ∨ ∃ s n after, text = ofString s ++ .surrogate n :: after := by
  induction text with
  | nil => exact .inl ⟨"", rfl⟩
  | cons p text ih => cases p with
    | surrogate n => exact .inr ⟨"", n, text, rfl⟩
    | char c =>
      rcases ih with ⟨s, rfl⟩ | ⟨s, n, after, rfl⟩
      · exact .inl ⟨String.ofList (c :: s.toList), by simp [ofString]⟩
      · exact .inr ⟨String.ofList (c :: s.toList), n, after, by simp [ofString]⟩

theorem encode_eq_ok_iff {text : Points} {bytes : List UInt8} :
    text.encode = .ok bytes ↔ ∃ s, text = ofString s ∧ bytes = s.toUTF8.data.toList := by
  constructor
  · intro h
    rcases text.exists_cut with ⟨s, rfl⟩ | ⟨s, n, after, rfl⟩
    · exact ⟨s, rfl, Except.ok.inj (h.symm.trans (encode_ofString s))⟩
    · rw [encode_ofString_append_surrogate] at h
      cases h
  · rintro ⟨s, rfl, rfl⟩
    exact encode_ofString s

end Points

end ContainerLaunch.Text
