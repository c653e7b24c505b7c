import TraceOverhead.Text.Bytes
/-!
Text and its bytes. What is written as UTF-8 is read back, and the bytes of two texts lie in the same
order as the texts themselves, so a table that is sorted by its names is sorted by their bytes.
-/

namespace TraceOverhead.Text

theorem byte_array_to_bytes (text : String) :
    (⟨(toBytes text).toArray⟩ : ByteArray) = text.toByteArray := by
  rw [← String.utf8Encode_toList, List.utf8Encode, toBytes]
  ext1
  simp

theorem of_bytes_to_bytes (text : String) : ofBytes? (toBytes text) = some text := by
  rw [ofBytes?, byte_array_to_bytes, String.fromUTF8?, dif_pos text.isValidUTF8]
  rfl

theorem of_bytes_eq_some_iff {content : Bytes} {text : String} :
    ofBytes? content = some text ↔ content = toBytes text := by
  constructor
  · intro read
    rw [ofBytes?, String.fromUTF8?] at read
    split at read
    · rename_i valid
      have same := byte_array_to_bytes (String.fromUTF8 ⟨content.toArray⟩ valid)
      rw [← Option.some.inj read]
      exact (List.toArray_inj (congrArg ByteArray.data same)).symm
    · contradiction
  · rintro rfl
    exact of_bytes_to_bytes text

section Order

variable {first second : String}

/-- The bytes of a smaller character come first whatever follows, since neither is a beginning of the
other. -/
theorem encode_char_lt {first second : Char} (less : first < second) (rest others : Bytes) :
    String.utf8EncodeChar first ++ rest < String.utf8EncodeChar second ++ others := by
  have below : first.val.toNat < second.val.toNat := less
  have limit : second.val.toNat < 0x110000 := by
    have valid := second.valid
    unfold UInt32.isValidChar Nat.isValidChar at valid
    omega
  simp only [String.utf8EncodeChar]
  generalize first.val.toNat = first at *
  generalize second.val.toNat = second at *
  -- The numbers in base 64, whose digits the bytes hold.
  have digits : first / 262144 < second / 262144 ∨ first / 262144 = second / 262144 ∧
      (first / 4096 % 64 < second / 4096 % 64 ∨ first / 4096 % 64 = second / 4096 % 64 ∧
        (first / 64 % 64 < second / 64 % 64 ∨ first / 64 % 64 = second / 64 % 64 ∧
          first % 64 < second % 64)) := by
    omega
  repeat' split
  all_goals
    simp (disch := omega) only [List.cons_append, List.nil_append, List.cons_lt_cons_iff,
      UInt8.lt_iff_toNat_lt, ← UInt8.toNat_inj, UInt8.toNat_ofNat', Nat.mod_eq_of_lt]
    omega

theorem encode_chars_lt {first second : List Char} (less : first < second) :
    first.flatMap String.utf8EncodeChar < second.flatMap String.utf8EncodeChar := by
  induction second generalizing first with
  | nil => exact absurd less (List.not_lt_nil _)
  | cons character second induction =>
      cases first with
      | nil =>
          rw [List.flatMap_nil, List.flatMap_cons]
          cases bytes : String.utf8EncodeChar character with
          | nil => exact absurd bytes String.utf8EncodeChar_ne_nil
          | cons byte others => exact List.nil_lt_cons _ _
      | cons other first =>
          rw [List.flatMap_cons, List.flatMap_cons]
          rcases List.cons_lt_cons_iff.1 less with smaller | ⟨rfl, later⟩
          · exact encode_char_lt smaller _ _
          · exact List.append_left_lt (induction later)

theorem to_bytes_lt_iff : toBytes first < toBytes second ↔ first < second := by
  constructor
  · intro less
    apply Decidable.byContradiction
    intro reaches
    rcases Decidable.em (first = second) with rfl | different
    · exact List.lt_irrefl _ less
    · have greater : second < first := by
        apply Decidable.byContradiction
        intro within
        exact different (String.le_antisymm within reaches)
      exact List.lt_asymm less (encode_chars_lt greater)
  · intro less
    exact encode_chars_lt less

/-- The order of a sorted table of texts is that of their bytes. -/
theorem compare_eq_lt_iff : compare first second = .lt ↔ toBytes first < toBytes second :=
  compareOfLessAndEq_eq_lt.trans to_bytes_lt_iff.symm

end Order

end TraceOverhead.Text
