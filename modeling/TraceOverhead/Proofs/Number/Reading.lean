import TraceOverhead.Number.FloatLiteral
import TraceOverhead.Proofs.Number.Text
/-!
Decimal text read back: every count is what its digits denote, and its digits begin with a zero only
if it is zero. A text is read as a natural number if it denotes one, up to the limit.
-/

namespace TraceOverhead.Number

theorem digit_digit_char {digit : Nat} (small : digit < 10) :
    digit? (Nat.digitChar digit) = some digit := by
  revert digit
  decide

theorem is_digit_iff {character : Char} : isDigit character ↔ character.isDigit := by
  have range : (digit? character).isSome ↔ '0' ≤ character ∧ character ≤ '9' := by
    unfold digit?
    split <;> simp_all
  rw [isDigit, range, Char.isDigit, Bool.and_eq_true, decide_eq_true_iff, decide_eq_true_iff]
  rfl

theorem all_is_digit_to_digits (number : Nat) : (Nat.toDigits 10 number).all isDigit := by
  rw [List.all_eq_true]
  intro character member
  exact is_digit_iff.2 (is_digit_of_mem_to_digits member)

theorem digits_value_append_singleton (value : Nat) (digits : List Char) {digit : Nat}
    (small : digit < 10) :
    digitsValue value (digits ++ [Nat.digitChar digit]) = digitsValue value digits * 10 + digit := by
  rw [digitsValue, List.foldl_append, List.foldl_cons, List.foldl_nil, digit_digit_char small]
  rfl

theorem digits_value_to_digits (number : Nat) : digitsValue 0 (Nat.toDigits 10 number) = number := by
  induction number using Nat.strongRecOn with
  | ind number induction =>
      have small : number % 10 < 10 := Nat.mod_lt _ (by omega)
      rcases Nat.lt_or_ge number 10 with single | several
      · rw [Nat.toDigits_of_lt_base single, ← List.nil_append [_],
          digits_value_append_singleton 0 [] single]
        exact Nat.zero_add number
      · rw [Nat.toDigits_of_base_le (by omega) several, digits_value_append_singleton 0 _ small,
          induction (number / 10) (by omega)]
        omega

theorem head_to_digits_ne_zero {number : Nat} (positive : 0 < number) :
    (Nat.toDigits 10 number).head? ≠ some '0' := by
  induction number using Nat.strongRecOn with
  | ind number induction =>
      rcases Nat.lt_or_ge number 10 with single | several
      · have unequal : ∀ digit < 10, 0 < digit → Nat.digitChar digit ≠ '0' := by decide
        rw [Nat.toDigits_of_lt_base single]
        simpa using unequal number single positive
      · rw [Nat.toDigits_of_base_le (by omega) several, List.head?_append]
        have first : (Nat.toDigits 10 (number / 10)).head?.isSome := by
          rw [List.isSome_head?]
          exact Nat.toDigits_ne_nil
        rw [Option.or_of_isSome first]
        exact induction (number / 10) (by omega) (by omega)

section Naturals

variable {limit value number : Nat} {overflow : IntegerFault} {text digits : List Char}

/-- An optional plus sign and one or more decimal digits, with the number that they denote. -/
def Denotes (text : List Char) (number : Nat) : Prop :=
  ∃ digits, (text = digits ∨ text = '+' :: digits) ∧ digits ≠ [] ∧
    (∀ character ∈ digits, character.isDigit) ∧ Nat.ofDigitChars 10 digits 0 = number

theorem digit_eq_none_iff {character : Char} :
    digit? character = none ↔ character.isDigit = false := by
  rw [← Bool.not_eq_true, ← is_digit_iff, isDigit, Option.not_isSome_iff_eq_none]

theorem digit_of_is_digit {character : Char} (decimal : character.isDigit) :
    digit? character = some (character.toNat - '0'.toNat) := by
  have known := is_digit_iff.2 decimal
  rw [isDigit, digit?] at known
  rw [digit?]
  split at known
  · rename_i range
    exact if_pos range
  · contradiction

theorem le_of_digit_chars (value : Nat) (digits : List Char) :
    value ≤ Nat.ofDigitChars 10 digits value := by
  induction digits generalizing value with
  | nil => exact Nat.le_refl value
  | cons digit digits induction =>
      rw [Nat.ofDigitChars_cons]
      exact Nat.le_trans (by omega) (induction _)

/-- A number that has become too large is not made small again by further digits. -/
theorem read_digits_eq_ok_iff (bounded : value ≤ limit) :
    readDigits limit overflow value digits = .ok number ↔
      (∀ character ∈ digits, character.isDigit) ∧
        Nat.ofDigitChars 10 digits value = number ∧ number ≤ limit := by
  induction digits generalizing value with
  | nil =>
      simp only [readDigits, Except.ok.injEq, Nat.ofDigitChars_nil]
      grind
  | cons character digits induction =>
      rw [readDigits, List.forall_mem_cons, Nat.ofDigitChars_cons, Nat.mul_comm 10 value]
      cases decimal : character.isDigit with
      | false => simp [digit_eq_none_iff.2 decimal]
      | true =>
          rw [digit_of_is_digit decimal]
          dsimp only
          split
          · rename_i past
            have least := le_of_digit_chars (value * 10 + (character.toNat - '0'.toNat)) digits
            constructor
            · intro impossible
              contradiction
            · intro parts
              omega
          · rename_i within
            rw [induction (by omega)]
            simp

theorem denotes_signed_iff :
    Denotes ('+' :: digits) number ↔ digits ≠ [] ∧ (∀ character ∈ digits, character.isDigit) ∧
      Nat.ofDigitChars 10 digits 0 = number := by
  constructor
  · intro denotes
    obtain ⟨others, rfl | same, parts⟩ := denotes
    · exact absurd (parts.2.1 '+' List.mem_cons_self) (by decide)
    · obtain ⟨_, rfl⟩ := List.cons.inj same
      exact parts
  · intro parts
    exact ⟨digits, .inr rfl, parts⟩

theorem denotes_unsigned_iff (unsigned : digits.head? ≠ some '+') :
    Denotes digits number ↔ digits ≠ [] ∧ (∀ character ∈ digits, character.isDigit) ∧
      Nat.ofDigitChars 10 digits 0 = number := by
  constructor
  · intro denotes
    obtain ⟨others, rfl | rfl, parts⟩ := denotes
    · exact parts
    · exact absurd rfl unsigned
  · intro parts
    exact ⟨digits, .inl rfl, parts⟩

theorem read_natural_eq_ok_iff :
    readNatural limit text = .ok number ↔ Denotes text number ∧ number ≤ limit := by
  fun_cases readNatural limit text with
  | case1 => simp [Denotes]
  | case2 => simp [denotes_signed_iff]
  | case3 digits several =>
      have nonempty : digits ≠ [] := fun empty => several (by rw [empty])
      rw [read_digits_eq_ok_iff (Nat.zero_le limit), denotes_signed_iff]
      simp [nonempty, and_assoc]
  | case4 _ nonempty lone unsigned =>
      have head : text.head? ≠ some '+' := by
        intro signed
        obtain ⟨rest, rfl⟩ := List.head?_eq_some_iff.1 signed
        exact unsigned rest rfl
      have filled : text ≠ [] := nonempty
      rw [read_digits_eq_ok_iff (Nat.zero_le limit), denotes_unsigned_iff head]
      simp [filled, and_assoc]

theorem denotes_decimal (number : Nat) : Denotes (decimal number).toList number := by
  have written : (decimal number).toList = Nat.toDigits 10 number := by
    rw [decimal, Nat.repr, String.toList_ofList]
  rw [written]
  exact ⟨_, .inl rfl, Nat.toDigits_ne_nil, fun _ => is_digit_of_mem_to_digits,
    Nat.ofDigitChars_toDigits (by omega) (by omega)⟩

end Naturals

section Integers

variable {limit : Nat} {number : Int} {text digits : List Char}

/-- An optional sign and one or more decimal digits, with the integer that they denote. -/
inductive DenotesInteger : List Char → Int → Prop
  | positive {text : List Char} {number : Nat} (natural : Denotes text number) :
      DenotesInteger text number
  | negative {digits : List Char} {number : Nat} (natural : Denotes digits number)
      (unsigned : digits.head? ≠ some '+') : DenotesInteger ('-' :: digits) (-(number : Int))

theorem not_denotes_minus {value : Nat} : ¬ Denotes ('-' :: digits) value := by
  rw [denotes_unsigned_iff (by simp)]
  rintro ⟨_, decimal, _⟩
  exact absurd (decimal '-' List.mem_cons_self) (by decide)

theorem denotes_integer_minus_iff : DenotesInteger ('-' :: digits) number ↔
    digits ≠ [] ∧ (∀ character ∈ digits, character.isDigit) ∧
      number = -(Nat.ofDigitChars 10 digits 0 : Int) := by
  constructor
  · intro denotes
    cases denotes with
    | positive natural => exact absurd natural not_denotes_minus
    | negative natural unsigned =>
        obtain ⟨nonempty, decimal, rfl⟩ := (denotes_unsigned_iff unsigned).1 natural
        exact ⟨nonempty, decimal, rfl⟩
  · rintro ⟨nonempty, decimal, rfl⟩
    have unsigned : digits.head? ≠ some '+' := fun first =>
      absurd (decimal '+' (List.mem_of_head? first)) (by decide)
    exact .negative ((denotes_unsigned_iff unsigned).2 ⟨nonempty, decimal, rfl⟩) unsigned

theorem denotes_integer_iff (unsigned : text.head? ≠ some '-') :
    DenotesInteger text number ↔ ∃ value : Nat, Denotes text value ∧ number = value := by
  constructor
  · intro denotes
    cases denotes with
    | positive natural => exact ⟨_, natural, rfl⟩
    | negative => exact absurd rfl unsigned
  · rintro ⟨value, natural, rfl⟩
    exact .positive natural

theorem signed_eq_ok_iff {outcome : Except IntegerFault Nat} {sign : Int → Int} :
    (outcome >>= fun value => pure (value : Int)).map sign = .ok number ↔
      ∃ value : Nat, outcome = .ok value ∧ sign value = number := by
  cases outcome with
  | error => simp [bind, Except.bind, Except.map]
  | ok value => simp [bind, Except.bind, Except.map, pure, Except.pure]

theorem read_integer_eq_ok_iff : readInteger limit text = .ok number ↔
    DenotesInteger text number ∧ -(limit : Int) - 1 ≤ number ∧ number ≤ limit := by
  fun_cases readInteger limit text with
  | case1 => simp [denotes_integer_minus_iff]
  | case2 digits several =>
      have nonempty : digits ≠ [] := fun empty => several (by rw [empty])
      rw [denotes_integer_minus_iff, signed_eq_ok_iff]
      simp only [read_digits_eq_ok_iff (Nat.zero_le (limit + 1))]
      constructor
      · rintro ⟨value, ⟨decimal, rfl, within⟩, rfl⟩
        exact ⟨⟨nonempty, decimal, rfl⟩, by omega, by omega⟩
      · rintro ⟨⟨_, decimal, rfl⟩, within, _⟩
        exact ⟨_, ⟨decimal, rfl, by omega⟩, rfl⟩
  | case3 _ lone signed =>
      have unsigned : text.head? ≠ some '-' := by
        intro first
        obtain ⟨rest, rfl⟩ := List.head?_eq_some_iff.1 first
        exact signed rest rfl
      rw [denotes_integer_iff unsigned, signed_eq_ok_iff]
      simp only [read_natural_eq_ok_iff]
      constructor
      · rintro ⟨value, ⟨natural, within⟩, rfl⟩
        exact ⟨⟨value, natural, rfl⟩, by omega, by omega⟩
      · rintro ⟨⟨value, natural, rfl⟩, _, within⟩
        exact ⟨value, ⟨natural, by omega⟩, rfl⟩

theorem mem_of_denotes {value : Nat} (denotes : Denotes text value) :
    ∀ character ∈ text, character.isDigit ∨ character = '+' := by
  obtain ⟨digits, rfl | rfl, _, decimal, _⟩ := denotes
  · exact fun character member => .inl (decimal character member)
  · exact List.forall_mem_cons.2 ⟨.inr rfl, fun character member => .inl (decimal character member)⟩

/-- A numeral is made of digits and signs, so there is no white space in it. -/
theorem mem_of_denotes_integer (denotes : DenotesInteger text number) :
    ∀ character ∈ text, character.isDigit ∨ character = '+' ∨ character = '-' := by
  cases denotes with
  | positive natural =>
      exact fun character member => (mem_of_denotes natural character member).imp_right .inl
  | negative natural =>
      refine List.forall_mem_cons.2 ⟨.inr (.inr rfl), fun character member => ?_⟩
      exact (mem_of_denotes natural character member).imp_right .inl

end Integers

end TraceOverhead.Number
