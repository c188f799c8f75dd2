import SymbolAtlas.Text.Bytes

/-!
# The order of encoded texts

Texts are ordered by their code points, and a database orders them by the bytes of
their UTF-8 encoding. The two orders are one: the encoding of the smaller of two
characters has the smaller byte where the two first differ, and they differ before
either ends, so whatever follows cannot turn the order around.
-/

namespace SymbolAtlas.Text

/-- The bytes of a text in its encoding. -/
def bytes (text : String) : List UInt8 :=
  text.toUTF8.data.toList

/-- The bytes of a text are those of its characters one after another. -/
theorem bytes_eq_flatMap (text : String) :
    bytes text = text.toList.flatMap String.utf8EncodeChar := by
  have encoded : text.toByteArray = text.toList.utf8Encode := by
    rw [← String.toByteArray_ofList, String.ofList_toList]
  simp [bytes, encoded, List.utf8Encode]

/-- Of two numbers the smaller one is smaller in the part above the last six bits, or
the two agree there and it is smaller in those six bits. -/
theorem lt_by_sextet {low high : Nat} (less : low < high) :
    low / 64 < high / 64 ∨ low / 64 = high / 64 ∧ low % 64 < high % 64 := by
  omega

/-- Below the limit of code points the first byte of four holds the whole part above
the last eighteen bits, so the four sextets compare as the numbers do. -/
theorem lt_by_sextets {low high : Nat} (less : low < high) (limit : high < 0x110000) :
    low / 262144 % 8 < high / 262144 % 8 ∨ low / 262144 % 8 = high / 262144 % 8 ∧
      (low / 4096 % 64 < high / 4096 % 64 ∨ low / 4096 % 64 = high / 4096 % 64 ∧
        (low / 64 % 64 < high / 64 % 64 ∨ low / 64 % 64 = high / 64 % 64 ∧
          low % 64 < high % 64)) := by
  have above (number : Nat) : number / 4096 = number / 64 / 64 := by
    rw [Nat.div_div_eq_div_mul]
  have highest (number : Nat) : number / 262144 = number / 64 / 64 / 64 := by
    rw [Nat.div_div_eq_div_mul, Nat.div_div_eq_div_mul]
  rw [above, above, highest, highest]
  have bound : high / 64 / 64 / 64 < 8 := by omega
  rcases lt_by_sextet less with less | ⟨same, last⟩
  · rcases lt_by_sextet less with less | ⟨same, last⟩
    · rcases lt_by_sextet less with less | ⟨same, last⟩
      · rw [Nat.mod_eq_of_lt bound, Nat.mod_eq_of_lt (Nat.lt_trans less bound)]
        exact Or.inl less
      · exact Or.inr ⟨by rw [same], Or.inl last⟩
    · exact Or.inr ⟨by rw [same], Or.inr ⟨by rw [same], Or.inl last⟩⟩
  · exact Or.inr ⟨by rw [same], Or.inr ⟨by rw [same], Or.inr ⟨by rw [same], last⟩⟩⟩

/-- A smaller character has the smaller encoding, whatever stands behind the two. -/
theorem encoded_lt {low high : Char} (smaller : low < high)
    (behindLow behindHigh : List UInt8) :
    String.utf8EncodeChar low ++ behindLow < String.utf8EncodeChar high ++ behindHigh := by
  have less : low.val.toNat < high.val.toNat := smaller
  have limit : high.val.toNat < 0x110000 := by
    rcases high.valid with below | ⟨-, above⟩
    · exact Nat.lt_trans below (by decide)
    · exact above
  unfold String.utf8EncodeChar
  have sextets := lt_by_sextets less limit
  have sextet (number : Nat) : (number % 64 + 128) % 2 ^ 8 = number % 64 + 128 := by omega
  have first (number : Nat) : (number % 8 + 240) % 2 ^ 8 = number % 8 + 240 := by omega
  -- One case for each pair of lengths. In each the comparison of the bytes is one of
  -- quotients and remainders of the two code points.
  dsimp only
  repeat' split
  all_goals
    simp only [List.cons_append, List.nil_append, List.cons_lt_cons_iff,
      UInt8.lt_iff_toNat_lt, ← UInt8.toNat_inj, UInt8.toNat_ofNat', sextet, first]
    omega

/-- Smaller lists of characters have smaller encodings. -/
theorem flatMap_encoded_lt {left right : List Char} (smaller : left < right) :
    left.flatMap String.utf8EncodeChar < right.flatMap String.utf8EncodeChar := by
  induction left generalizing right with
  | nil =>
    cases right with
    | nil => simp at smaller
    | cons d rest =>
      rw [List.flatMap_nil, List.flatMap_cons]
      cases encoded : String.utf8EncodeChar d with
      | nil => exact absurd encoded String.utf8EncodeChar_ne_nil
      | cons first others => exact List.nil_lt_cons _ _
  | cons c rest hypothesis =>
    cases right with
    | nil => simp at smaller
    | cons d others =>
      rw [List.flatMap_cons, List.flatMap_cons]
      rcases List.cons_lt_cons_iff.1 smaller with lower | ⟨rfl, behind⟩
      · exact encoded_lt lower _ _
      · exact List.append_left_lt (hypothesis behind)

/-- The order of texts is the order of their bytes. -/
theorem lt_iff_bytes_lt (left right : String) : left < right ↔ bytes left < bytes right := by
  rw [bytes_eq_flatMap, bytes_eq_flatMap]
  constructor
  · exact flatMap_encoded_lt
  · intro smaller
    rcases List.le_total left.toList right.toList with up | down
    · rcases List.le_iff_lt_or_eq.1 up with less | same
      · exact less
      · rw [same] at smaller
        exact absurd smaller (List.lt_irrefl _)
    · rcases List.le_iff_lt_or_eq.1 down with less | same
      · exact absurd (flatMap_encoded_lt less) (List.lt_asymm smaller)
      · rw [same] at smaller
        exact absurd smaller (List.lt_irrefl _)

end SymbolAtlas.Text
