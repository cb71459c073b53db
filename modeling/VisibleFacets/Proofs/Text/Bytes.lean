import VisibleFacets.Dict

/-!
# The order of texts, by bytes

Texts are compared by code point. The bytes of their encodings come in the same order:
`utf8_lt_of_lt`.
-/

namespace VisibleFacets.Text

def utf8 (text : String) : List UInt8 := text.toUTF8.data.toList

theorem utf8_eq_flatMap (text : String) :
    utf8 text = text.toList.flatMap String.utf8EncodeChar := by
  rw [utf8, String.toUTF8_eq_toByteArray, ← String.utf8Encode_toList, List.utf8Encode,
    List.toList_data_toByteArray]

theorem byte_lt_iff {first second : Nat} :
    UInt8.ofNat first < UInt8.ofNat second ↔ first % 256 < second % 256 := by
  rw [UInt8.lt_iff_toNat_lt, UInt8.toNat_ofNat', UInt8.toNat_ofNat']

theorem byte_eq_iff {first second : Nat} :
    UInt8.ofNat first = UInt8.ofNat second ↔ first % 256 = second % 256 := by
  rw [← UInt8.toNat_inj, UInt8.toNat_ofNat', UInt8.toNat_ofNat']

theorem lower_digits {low high : Nat} (less : low < high) :
    low / 64 < high / 64 ∨ low / 64 = high / 64 ∧ low % 64 < high % 64 := by
  omega

/-- The bytes of a character decide against every greater one, whatever comes after them. -/
theorem encoding_lt {first second : Char} (less : first < second) (after further : List UInt8) :
    String.utf8EncodeChar first ++ after < String.utf8EncodeChar second ++ further := by
  have codes : first.val.toNat < second.val.toNat := less
  have bounded : second.val.toNat < 0x110000 := by
    rcases second.valid with low | ⟨-, high⟩
    · exact Nat.lt_trans low (by decide)
    · exact high
  have twice (code : Nat) : code / 4096 = code / 64 / 64 := by omega
  have thrice (code : Nat) : code / 262144 = code / 64 / 64 / 64 := by omega
  -- More bytes come with a greater first byte; as many bytes hold the digits to base 64.
  fun_cases String.utf8EncodeChar first <;> fun_cases String.utf8EncodeChar second <;>
    simp only [List.cons_append, List.cons_lt_cons_iff, byte_lt_iff, byte_eq_iff, twice, thrice]
  all_goals
    rcases lower_digits codes with above | ⟨same, last⟩
    · rcases lower_digits above with above | ⟨same, last⟩
      · rcases lower_digits above with above | ⟨same, last⟩ <;> omega
      · omega
    · omega

theorem encodings_lt {first second : List Char} (less : first < second) :
    first.flatMap String.utf8EncodeChar < second.flatMap String.utf8EncodeChar := by
  induction less with
  | @nil next rest =>
    obtain ⟨byte, bytes, encoded⟩ := List.exists_cons_of_ne_nil (@String.utf8EncodeChar_ne_nil next)
    rw [List.flatMap_cons, encoded]
    exact List.nil_lt_cons _ _
  | rel less => exact encoding_lt less _ _
  | cons _ ih => exact List.append_left_lt ih

theorem utf8_lt_of_lt {first second : String} (less : first < second) :
    utf8 first < utf8 second := by
  rw [utf8_eq_flatMap, utf8_eq_flatMap]
  exact encodings_lt less

end VisibleFacets.Text
