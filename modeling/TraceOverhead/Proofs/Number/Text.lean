import Std.Data.String.ToNat
import TraceOverhead.Number.Digits
import TraceOverhead.Number.FloatText
/-!
The text of numbers: which characters it is made of, and that a count can be told from its text.
-/

namespace TraceOverhead.Number

theorem decimal_inj {first second : Nat} : decimal first = decimal second ↔ first = second :=
  Nat.repr_inj

theorem is_digit_of_mem_to_digits {number : Nat} {character : Char}
    (member : character ∈ Nat.toDigits 10 number) : character.isDigit :=
  Nat.isDigit_of_mem_toDigits (by omega) (by omega) member

theorem is_digit_of_mem_decimal {number : Nat} {character : Char}
    (member : character ∈ (decimal number).toList) : character.isDigit := by
  rw [decimal, Nat.repr, String.toList_ofList] at member
  exact is_digit_of_mem_to_digits member

theorem decimal_ne_empty (number : Nat) : decimal number ≠ "" := by
  intro empty
  have none_left : Nat.toDigits 10 number = [] := by
    rw [← String.toList_ofList (l := Nat.toDigits 10 number)]
    exact congrArg String.toList empty
  exact Nat.toDigits_ne_nil none_left

/-- The characters that numbers are written with. -/
def isNumeric (character : Char) : Bool :=
  character.isDigit || character == '.' || character == 'e' || character == '+' ||
    character == '-'

theorem is_numeric_of_is_digit {character : Char} (digit : character.isDigit) :
    isNumeric character := by
  simp [isNumeric, digit]

theorem is_numeric_of_mem_signed_decimal {number : Int} {character : Char}
    (member : character ∈ (signedDecimal number).toList) : isNumeric character := by
  cases number with
  | ofNat value => exact is_numeric_of_is_digit (is_digit_of_mem_decimal member)
  | negSucc value =>
      rw [signedDecimal, String.toList_append, List.mem_append] at member
      rcases member with sign | digit
      · rw [List.mem_singleton.1 sign]
        rfl
      · exact is_numeric_of_is_digit (is_digit_of_mem_decimal digit)

theorem signed_decimal_ne_nil (number : Int) : (signedDecimal number).toList ≠ [] := by
  cases number with
  | ofNat value =>
      intro empty
      exact decimal_ne_empty value (String.toList_inj.1 empty)
  | negSucc value => simp [signedDecimal]

section Floats

variable {digits : List Char} {character : Char}

theorem is_numeric_of_mem_positional (numeric : ∀ digit ∈ digits, isNumeric digit)
    (exponent : Int) (member : character ∈ FloatLayout.positional digits exponent) :
    isNumeric character := by
  rw [FloatLayout.positional] at member
  have zero : isNumeric '0' := rfl
  have point : isNumeric '.' := rfl
  split at member
  · simp only [List.mem_append, List.mem_replicate, List.mem_cons, List.not_mem_nil] at member
    grind
  · split at member
    · simp only [List.mem_append, List.mem_cons, List.not_mem_nil] at member
      rcases member with (taken | dot) | dropped
      · exact numeric character (List.mem_of_mem_take taken)
      · grind
      · exact numeric character (List.mem_of_mem_drop dropped)
    · simp only [List.mem_append, List.mem_replicate, List.mem_cons, List.not_mem_nil] at member
      grind

theorem is_numeric_of_mem_scientific (numeric : ∀ digit ∈ digits, isNumeric digit)
    (leading : Int) (member : character ∈ FloatLayout.scientific digits leading) :
    isNumeric character := by
  have exponent : ∀ digit ∈ Nat.toDigits 10 leading.natAbs, isNumeric digit := by
    intro digit there
    exact is_numeric_of_is_digit (is_digit_of_mem_to_digits there)
  have letter : isNumeric 'e' := rfl
  have plus : isNumeric '+' := rfl
  have minus : isNumeric '-' := rfl
  have point : isNumeric '.' := rfl
  simp only [FloatLayout.scientific, List.mem_append, List.mem_cons, List.not_mem_nil] at member
  split at member <;> grind

theorem is_numeric_of_mem_finite {layout : FloatLayout} {negative : Bool} {mantissa : Nat}
    {exponent : Int} (member : character ∈ (layout.finite negative mantissa exponent).toList) :
    isNumeric character := by
  have numeric : ∀ number, ∀ digit ∈ Nat.toDigits 10 number, isNumeric digit := by
    intro number digit there
    exact is_numeric_of_is_digit (is_digit_of_mem_to_digits there)
  have zero : isNumeric '0' := rfl
  have minus : isNumeric '-' := rfl
  have point : isNumeric '.' := rfl
  rw [FloatLayout.finite, String.toList_ofList, List.mem_append] at member
  rcases member with sign | magnitude
  · split at sign <;> grind
  · split at magnitude
    · simp only [List.mem_cons, List.not_mem_nil] at magnitude
      grind
    · rw [FloatLayout.magnitude] at magnitude
      split at magnitude
      · exact is_numeric_of_mem_positional (numeric _) _ magnitude
      · exact is_numeric_of_mem_scientific (numeric _) _ magnitude

theorem is_numeric_of_mem_text {layout : FloatLayout} {number : Float} (finite : isFinite number)
    (member : character ∈ (layout.text number).toList) : isNumeric character := by
  rw [isFinite] at finite
  rw [FloatLayout.text] at member
  cases value : Double.ofFloat number with
  | nan => simp [value] at finite
  | infinite negative => simp [value] at finite
  | finite negative mantissa exponent =>
      simp only [value] at member
      exact is_numeric_of_mem_finite member

theorem magnitude_ne_nil (layout : FloatLayout) (decimal : Decimal) :
    layout.magnitude decimal ≠ [] := by
  rw [FloatLayout.magnitude]
  split
  · rw [FloatLayout.positional]
    split
    · simp
    · split <;> simp
  · simp [FloatLayout.scientific]

theorem text_ne_nil (layout : FloatLayout) (number : Float) : (layout.text number).toList ≠ [] := by
  rw [FloatLayout.text]
  cases Double.ofFloat number with
  | nan => simp
  | infinite negative => cases negative <;> simp
  | finite negative mantissa exponent =>
      simp only [FloatLayout.finite, String.toList_ofList]
      intro empty
      have rest := (List.append_eq_nil_iff.1 empty).2
      split at rest
      · contradiction
      · exact magnitude_ne_nil layout _ rest

end Floats

end TraceOverhead.Number
