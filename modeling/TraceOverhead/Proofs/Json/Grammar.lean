import TraceOverhead.Json.Parser
import TraceOverhead.Proofs.Json.Lexeme
/-!
The texts that the grammar of JSON has for a document. A text is laid out as pieces, with blanks
wherever they do not divide one, and the pieces are those of the document. The grammar bounds
neither the size of a number nor the nesting of arrays and objects, and it allows half of a surrogate
pair in a string. A piece says what it stands for, and whether that can be read.
-/

namespace TraceOverhead.Json

section Numerals

/-- What may stand after the letter of an exponent. -/
inductive ExponentSpelled : Int → List Char → Prop
  | plain {digits : List Char} (nonempty : digits ≠ []) (numeric : digits.all Number.isDigit) :
      ExponentSpelled (Number.digitsValue 0 digits) digits
  | plus {digits : List Char} (nonempty : digits ≠ []) (numeric : digits.all Number.isDigit) :
      ExponentSpelled (Number.digitsValue 0 digits) ('+' :: digits)
  | minus {digits : List Char} (nonempty : digits ≠ []) (numeric : digits.all Number.isDigit) :
      ExponentSpelled (-Number.digitsValue 0 digits) ('-' :: digits)

/-- A zero alone or digits that do not begin with one. -/
inductive WholeSpelled : List Char → Prop
  | zero : WholeSpelled ['0']
  | digits {first : Char} {others : List Char} (nonzero : first ≠ '0')
      (numeric : (first :: others).all Number.isDigit) : WholeSpelled (first :: others)

inductive FractionSpelled : Option (List Char) → List Char → Prop
  | absent : FractionSpelled none []
  | digits {digits : List Char} (nonempty : digits ≠ []) (numeric : digits.all Number.isDigit) :
      FractionSpelled (some digits) ('.' :: digits)

inductive ScaleSpelled : Option Int → List Char → Prop
  | absent : ScaleSpelled none []
  | exponent {letter : Char} {exponent : Int} {text : List Char}
      (letters : letter = 'e' ∨ letter = 'E') (spelled : ExponentSpelled exponent text) :
      ScaleSpelled (some exponent) (letter :: text)

/-- A number without its sign. -/
inductive UnsignedSpelled (negative : Bool) : NumeralParts → List Char → Prop
  | number {whole point scale : List Char} {fraction : Option (List Char)} {exponent : Option Int}
      (digits : WholeSpelled whole) (fractionSpelled : FractionSpelled fraction point)
      (scaleSpelled : ScaleSpelled exponent scale) :
      UnsignedSpelled negative ⟨negative, whole, fraction, exponent⟩ (whole ++ (point ++ scale))

inductive NumeralSpelled : NumeralParts → List Char → Prop
  | plain {parts : NumeralParts} {text : List Char} (unsigned : UnsignedSpelled false parts text) :
      NumeralSpelled parts text
  | minus {parts : NumeralParts} {text : List Char} (unsigned : UnsignedSpelled true parts text) :
      NumeralSpelled parts ('-' :: text)

/-- Nothing follows that belongs to what has just ended. -/
def Stops (belongs : Char → Bool) (rest : List Char) : Prop :=
  ∀ character ∈ rest.head?, belongs character = false

variable {belongs : Char → Bool} {run rest : List Char}

theorem take_while_of_stops (all : run.all belongs) (stops : Stops belongs rest) :
    (run ++ rest).takeWhile belongs = run := by
  rw [List.takeWhile_append_of_pos (List.all_eq_true.1 all)]
  cases rest with
  | nil => simp
  | cons character rest => simp [stops character rfl]

theorem drop_while_of_stops (all : run.all belongs) (stops : Stops belongs rest) :
    (run ++ rest).dropWhile belongs = rest := by
  rw [List.dropWhile_append_of_pos (List.all_eq_true.1 all)]
  cases rest with
  | nil => rfl
  | cons character rest => simp [stops character rfl]

theorem is_whole_part_iff {digits : List Char} : isWholePart digits ↔ WholeSpelled digits := by
  constructor
  · fun_cases isWholePart digits with
    | case1 => intro impossible; contradiction
    | case2 => exact fun _ => .zero
    | case3 => intro impossible; contradiction
    | case4 _ _ _ leading =>
        intro numeric
        cases digits with
        | nil => contradiction
        | cons first others =>
            refine .digits ?_ numeric
            rintro rfl
            exact leading others rfl
  · intro spelled
    cases spelled with
    | zero => rfl
    | digits nonzero numeric =>
        rw [isWholePart]
        · exact numeric
        · simp
        · rintro ⟨⟩
          contradiction
        · rintro _ ⟨⟩
          contradiction

theorem read_exponent_eq_some_iff {exponent : Int} {text : List Char} :
    Number.readExponent? text = some exponent ↔ ExponentSpelled exponent text := by
  constructor
  · intro read
    unfold Number.readExponent? at read
    split at read
    rename_i negative digits signed
    split at read
    · contradiction
    · rename_i formed
      simp only [Bool.or_eq_true, List.isEmpty_iff, Bool.not_eq_true', not_or,
        Bool.not_eq_false] at formed
      obtain rfl := Option.some.inj read
      split at signed <;> obtain ⟨rfl, rfl⟩ := Prod.mk.inj signed
      · exact .minus formed.1 formed.2
      · exact .plus formed.1 formed.2
      · exact .plain formed.1 formed.2
  · intro spelled
    cases spelled with
    | plus nonempty numeric => simp [Number.readExponent?, nonempty, numeric]
    | minus nonempty numeric => simp [Number.readExponent?, nonempty, numeric]
    | plain nonempty numeric =>
        -- A sign is no digit, so the first two cases of the sign are not taken.
        have unsigned : ∀ sign rest, Number.isDigit sign = false → text ≠ sign :: rest := by
          rintro sign rest other rfl
          rw [List.all_cons, other] at numeric
          contradiction
        unfold Number.readExponent?
        split
        rename_i negative digits signed
        split at signed
        · exact absurd rfl (unsigned '-' _ rfl)
        · exact absurd rfl (unsigned '+' _ rfl)
        · obtain ⟨rfl, rfl⟩ := Prod.mk.inj signed
          simp [nonempty, numeric]

theorem exponent_part_eq_some_iff {exponent : Option Int} {text : List Char} :
    exponentPart? text = some exponent ↔ ScaleSpelled exponent text := by
  constructor
  · intro read
    fun_cases exponentPart? text with
    | case1 =>
        obtain rfl := Option.some.inj read
        exact .absent
    | case2 after =>
        obtain ⟨value, spelled, rfl⟩ := Option.map_eq_some_iff.1 read
        exact .exponent (.inl rfl) (read_exponent_eq_some_iff.1 spelled)
    | case3 after =>
        obtain ⟨value, spelled, rfl⟩ := Option.map_eq_some_iff.1 read
        exact .exponent (.inr rfl) (read_exponent_eq_some_iff.1 spelled)
    | case4 => simp_all [exponentPart?]
  · intro spelled
    cases spelled with
    | absent => rfl
    | exponent letters spelled =>
        rw [← read_exponent_eq_some_iff] at spelled
        rcases letters with rfl | rfl <;> simp [exponentPart?, spelled]

theorem is_digit_of_whole_spelled {whole : List Char} (spelled : WholeSpelled whole) :
    whole.all Number.isDigit := by
  cases spelled with
  | zero => rfl
  | digits _ numeric => exact numeric

/-- An exponent goes on with neither the digits nor the point before it. -/
theorem stops_of_scale_spelled {exponent : Option Int} {text : List Char}
    (spelled : ScaleSpelled exponent text) :
    Stops Number.isDigit text ∧ text.head? ≠ some '.' := by
  cases spelled with
  | absent => exact ⟨by rintro _ ⟨⟩, by simp⟩
  | exponent letters _ => rcases letters with rfl | rfl <;> exact ⟨by rintro _ ⟨⟩; rfl, by simp⟩

theorem split_fraction_of_spelled {fraction : Option (List Char)} {point rest : List Char}
    (spelled : FractionSpelled fraction point) (stops : Stops Number.isDigit rest)
    (unpointed : rest.head? ≠ some '.') : splitFraction (point ++ rest) = (fraction, rest) := by
  cases spelled with
  | absent =>
      rw [List.nil_append]
      fun_cases splitFraction rest with
      | case1 after => exact absurd rfl unpointed
      | case2 => rfl
  | digits nonempty numeric =>
      rw [List.cons_append, splitFraction, take_while_of_stops numeric stops,
        drop_while_of_stops numeric stops]

theorem stops_of_fraction_spelled {fraction : Option (List Char)} {point rest : List Char}
    (spelled : FractionSpelled fraction point) (stops : Stops Number.isDigit rest) :
    Stops Number.isDigit (point ++ rest) := by
  cases spelled with
  | absent => exact stops
  | digits =>
      rintro _ ⟨⟩
      rfl

theorem fraction_spelled_of_split (text : List Char) (nonempty : (splitFraction text).1 ≠ some []) :
    ∃ point, text = point ++ (splitFraction text).2 ∧ FractionSpelled (splitFraction text).1 point := by
  fun_cases splitFraction text with
  | case1 after =>
      refine ⟨'.' :: after.takeWhile Number.isDigit, ?_, .digits ?_ List.all_takeWhile⟩
      · rw [List.cons_append, List.takeWhile_append_dropWhile]
      · intro empty
        simp [splitFraction, empty] at nonempty
  | case2 => exact ⟨[], rfl, .absent⟩

theorem unsigned_parts_eq_some_iff {negative : Bool} {parts : NumeralParts} {text : List Char} :
    unsignedParts? negative text = some parts ↔ UnsignedSpelled negative parts text := by
  constructor
  · intro read
    rw [unsignedParts?] at read
    split at read
    rename_i fraction rest split_off
    split at read
    · contradiction
    · rename_i formed
      simp only [Bool.or_eq_true, Bool.not_eq_true', decide_eq_true_eq, not_or,
        Bool.not_eq_false] at formed
      obtain ⟨exponent, scaled, rfl⟩ := Option.map_eq_some_iff.1 read
      obtain ⟨point, same, fractional⟩ := fraction_spelled_of_split
        (text.dropWhile Number.isDigit) (by rw [split_off]; exact formed.2)
      rw [split_off] at same fractional
      have whole := is_whole_part_iff.1 formed.1
      have spelled : UnsignedSpelled negative _ _ :=
        .number whole fractional (exponent_part_eq_some_iff.1 scaled)
      rw [← same, List.takeWhile_append_dropWhile] at spelled
      exact spelled
  · rintro ⟨whole, fractional, scaled⟩
    obtain ⟨stops, unpointed⟩ := stops_of_scale_spelled scaled
    have pointed := stops_of_fraction_spelled fractional stops
    have numeric := is_digit_of_whole_spelled whole
    rw [unsignedParts?, take_while_of_stops numeric pointed, drop_while_of_stops numeric pointed,
      split_fraction_of_spelled fractional stops unpointed]
    have formed := is_whole_part_iff.2 whole
    have exponential := exponent_part_eq_some_iff.2 scaled
    cases fractional <;> simp [*]

/-- What an unsigned number begins with. -/
theorem head_of_unsigned_spelled {negative : Bool} {parts : NumeralParts} {text : List Char}
    (spelled : UnsignedSpelled negative parts text) :
    ∃ digit rest, text = digit :: rest ∧ Number.isDigit digit := by
  obtain ⟨whole, _, _⟩ := spelled
  have numeric := is_digit_of_whole_spelled whole
  cases whole with
  | zero => exact ⟨_, _, rfl, rfl⟩
  | digits _ _ =>
      rw [List.all_cons, Bool.and_eq_true] at numeric
      exact ⟨_, _, rfl, numeric.1⟩

theorem numeral_parts_eq_some_iff {parts : NumeralParts} {text : List Char} :
    numeralParts? text = some parts ↔ NumeralSpelled parts text := by
  constructor
  · intro read
    fun_cases numeralParts? text with
    | case1 unsigned => exact .minus (unsigned_parts_eq_some_iff.1 read)
    | case2 =>
        rename_i positive
        have unsigned : unsignedParts? false text = some parts := by
          rw [← read, numeralParts?]
          exact positive
        exact .plain (unsigned_parts_eq_some_iff.1 unsigned)
  · intro spelled
    cases spelled with
    | minus unsigned => exact unsigned_parts_eq_some_iff.2 unsigned
    | plain unsigned =>
        obtain ⟨digit, rest, rfl, numeric⟩ := head_of_unsigned_spelled unsigned
        rw [numeralParts?]
        · exact unsigned_parts_eq_some_iff.2 unsigned
        · rintro _ ⟨⟩
          contradiction

theorem is_numeral_char_of_is_digit {digits : List Char} (numeric : digits.all Number.isDigit) :
    digits.all isNumeralChar := by
  rw [List.all_eq_true] at *
  intro character member
  simp [isNumeralChar, numeric character member]

theorem is_numeral_char_of_exponent_spelled {exponent : Int} {text : List Char}
    (spelled : ExponentSpelled exponent text) : text.all isNumeralChar := by
  cases spelled with
  | plain _ numeric => exact is_numeral_char_of_is_digit numeric
  | plus _ numeric | minus _ numeric =>
      rw [List.all_cons, is_numeral_char_of_is_digit numeric]
      rfl

theorem is_numeral_char_of_unsigned_spelled {negative : Bool} {parts : NumeralParts}
    {text : List Char} (spelled : UnsignedSpelled negative parts text) :
    text.all isNumeralChar := by
  obtain ⟨whole, fractional, scaled⟩ := spelled
  rw [List.all_append, List.all_append,
    is_numeral_char_of_is_digit (is_digit_of_whole_spelled whole), Bool.true_and, Bool.and_eq_true]
  constructor
  · cases fractional with
    | absent => rfl
    | digits _ numeric =>
        rw [List.all_cons, is_numeral_char_of_is_digit numeric]
        rfl
  · cases scaled with
    | absent => rfl
    | exponent letters spelled =>
        rw [List.all_cons, is_numeral_char_of_exponent_spelled spelled]
        rcases letters with rfl | rfl <;> rfl

/-- A number consists of characters of numbers and begins with one that starts a number. -/
theorem numeral_chars_of_spelled {parts : NumeralParts} {text : List Char}
    (spelled : NumeralSpelled parts text) :
    text.all isNumeralChar ∧
      ∃ first rest, text = first :: rest ∧ (first = '-' ∨ Number.isDigit first) := by
  cases spelled with
  | plain unsigned =>
      obtain ⟨digit, rest, same, numeric⟩ := head_of_unsigned_spelled unsigned
      exact ⟨is_numeral_char_of_unsigned_spelled unsigned, digit, rest, same, .inr numeric⟩
  | minus unsigned =>
      refine ⟨?_, '-', _, rfl, .inl rfl⟩
      rw [List.all_cons, is_numeral_char_of_unsigned_spelled unsigned]
      rfl

end Numerals

section Range

/-- A double times a power of ten is past the largest double. -/
def PastLargest (value : Float) (exponent : Int) : Prop :=
  0 ≤ exponent ∧
    if exponent ≤ largestPower then Number.isFinite (value * powerOfTen exponent.natAbs) = false
    else (value == 0) = false

/-- Only a product can be past the largest double: scaling down never fails. -/
theorem scale_eq_none_iff (value : Float) (exponent : Int) :
    scale? value exponent = none ↔ PastLargest value exponent := by
  fun_induction scale? value exponent with
  | case1 value exponent small up product finite =>
      have within : exponent ≤ largestPower := by omega
      simp [PastLargest, within, product, finite]
  | case2 value exponent small up product infinite =>
      have within : exponent ≤ largestPower := by omega
      simp [PastLargest, within, product, infinite, up]
  | case3 value exponent small down => simp [PastLargest, down]
  | case4 value exponent large zero =>
      constructor
      · intro impossible
        contradiction
      · rintro ⟨up, past⟩
        have beyond : ¬ exponent ≤ largestPower := by omega
        rw [if_neg beyond, zero] at past
        contradiction
  | case5 value exponent large nonzero up =>
      have beyond : ¬ exponent ≤ largestPower := by omega
      simp [PastLargest, beyond, nonzero, up]
  | case6 value exponent large nonzero down induction =>
      -- One division by the largest power leaves the exponent below zero.
      have further : ¬ 0 ≤ exponent + largestPower := by omega
      rw [induction]
      exact ⟨fun past => absurd past.1 further, fun past => absurd past.1 down⟩

/-- The number is no integer of 64 bits, and as a double it would be infinite. -/
def NumeralParts.OutOfRange (parts : NumeralParts) : Prop :=
  parts.integer? = none ∧ PastLargest (Number.ofNat parts.scientific.1) parts.scientific.2

theorem value_eq_none_iff {parts : NumeralParts} : parts.value? = none ↔ parts.OutOfRange := by
  rw [NumeralParts.value?, Option.or_eq_none_iff, NumeralParts.double?, Option.map_eq_none_iff,
    scale_eq_none_iff]
  rfl

-- The double nearest to the number is the largest one, and yet the product is infinite.
example : (numeral? "1.7976931348623158e308".toList).isNone := by decide +kernel

end Range

section Strings

/-- What stands between the quotation marks of a string: characters, as they are or behind a short
escape, and 16-bit units behind numeric ones. -/
inductive StringPart where
  | character (value : Char)
  | unit (value : Nat)

def hexValue (digits : List Char) : Nat :=
  digits.foldl (fun value digit => value * 16 + (hexDigit? digit).getD 0) 0

theorem hex_digit_digit_char {digit : Nat} (small : digit < 16) :
    hexDigit? (Nat.digitChar digit) = some digit := by
  revert digit
  decide

/-- Digits of a fixed width keep of a number what is below the power of their base. -/
theorem hex_value_hexadecimal (width number : Nat) :
    hexValue (Number.hexadecimal width number) = number % Nat.pow 16 width := by
  induction width generalizing number with
  | zero => exact (Nat.mod_one number).symm
  | succ width induction =>
      have last : number % 16 < 16 := Nat.mod_lt _ (by omega)
      have power : Nat.pow 16 (width + 1) = 16 * Nat.pow 16 width := Nat.pow_succ'
      have front := induction (number / 16)
      rw [hexValue] at front
      rw [hexValue, Number.hexadecimal, List.foldl_append, front, List.foldl_cons, List.foldl_nil,
        hex_digit_digit_char last, Option.getD_some, power, Nat.mod_mul]
      omega

inductive Spelled : List StringPart → List Char → Prop
  | finish : Spelled [] []
  | plain {value : Char} {parts : List StringPart} {text : List Char}
      (uncontrolled : 0x20 ≤ value.toNat) (unmarked : value ≠ '"' ∧ value ≠ '\\')
      (rest : Spelled parts text) : Spelled (.character value :: parts) (value :: text)
  | short {letter value : Char} {parts : List StringPart} {text : List Char}
      (means : shortEscape? letter = some value) (rest : Spelled parts text) :
      Spelled (.character value :: parts) ('\\' :: letter :: text)
  | unit {digits : List Char} {parts : List StringPart} {text : List Char}
      (four : digits.length = 4) (hexadecimal : ∀ digit ∈ digits, (hexDigit? digit).isSome)
      (rest : Spelled parts text) :
      Spelled (.unit (hexValue digits) :: parts) ('\\' :: 'u' :: (digits ++ text))

/-- The text of a string, after a high surrogate if there is one. With half of a surrogate pair
there is none. -/
def partsText? : Option Nat → List StringPart → Option (List Char)
  | none, [] => some []
  | none, .character value :: parts => (partsText? none parts).map (value :: ·)
  | none, .unit value :: parts =>
    if isHighSurrogate value then partsText? (some value) parts
    else if isLowSurrogate value then none
    else (partsText? none parts).map (Char.ofNat value :: ·)
  | some high, .unit value :: parts =>
    if isLowSurrogate value then (partsText? none parts).map (surrogatePair high value :: ·)
    else none
  | some _, _ => none

theorem is_hex_digit_hexadecimal (width number : Nat) :
    ∀ digit ∈ Number.hexadecimal width number, (hexDigit? digit).isSome :=
  forall_mem_hexadecimal (fun _ small => by rw [hex_digit_digit_char small]; rfl) width number

theorem length_escape_char_of_control {character : Char} (control : character.toNat < 0x20) :
    1 < (escapeChar character).length := by
  fun_cases escapeChar character with
  | case8 => simp [control]
  | case9 => contradiction
  | case1 | case2 | case3 | case4 | case5 | case6 | case7 => simp

/-- A printed character is spelled as itself. -/
theorem spelled_escape_char (character : Char) {parts : List StringPart} {text : List Char}
    (rest : Spelled parts text) :
    ∃ part, Spelled (part :: parts) (escapeChar character ++ text) ∧
      partsText? none (part :: parts) = (partsText? none parts).map (character :: ·) := by
  rcases escape_char_cases character with short | control | plain
  · obtain ⟨letter, means, escaped⟩ := short
    rw [escaped]
    exact ⟨_, .short means rest, rfl⟩
  · have digits := Spelled.unit (Number.length_hexadecimal 4 character.toNat)
      (is_hex_digit_hexadecimal 4 character.toNat) rest
    have kept : character.toNat < Nat.pow 16 4 := Nat.lt_of_lt_of_le control.1 (by decide)
    rw [hex_value_hexadecimal, Nat.mod_eq_of_lt kept] at digits
    rw [control.2]
    refine ⟨_, digits, ?_⟩
    have high : isHighSurrogate character.toNat = false := by
      simp only [isHighSurrogate, Bool.and_eq_false_iff, decide_eq_false_iff_not]
      omega
    have low : isLowSurrogate character.toNat = false := by
      simp only [isLowSurrogate, Bool.and_eq_false_iff, decide_eq_false_iff_not]
      omega
    rw [partsText?, high, low, Char.ofNat_toNat]
    rfl
  · have uncontrolled : 0x20 ≤ character.toNat := by
      rcases Nat.lt_or_ge character.toNat 0x20 with control | uncontrolled
      · have longer := length_escape_char_of_control control
        rw [plain.2.2] at longer
        contradiction
      · exact uncontrolled
    rw [plain.2.2]
    exact ⟨_, .plain uncontrolled ⟨plain.1, plain.2.1⟩ rest, rfl⟩

theorem spelled_escaped (text : List Char) :
    ∃ parts, Spelled parts (text.flatMap escapeChar) ∧ partsText? none parts = some text := by
  induction text with
  | nil => exact ⟨[], .finish, rfl⟩
  | cons character text induction =>
      obtain ⟨parts, spelled, meant⟩ := induction
      obtain ⟨part, longer, means⟩ := spelled_escape_char character spelled
      rw [List.flatMap_cons]
      exact ⟨_, longer, by rw [means, meant]; rfl⟩

end Strings

section Pieces

inductive Piece where
  /-- A mark or a word. -/
  | fixed (token : Token)
  | numeral (parts : NumeralParts)
  | string (parts : List StringPart)

/-- A piece as it is read. A number past the largest double and half of a surrogate pair cannot
be. -/
def Piece.read? : Piece → Option Token
  | .fixed token => some token
  | .numeral parts => parts.value?.map .number
  | .string parts => (partsText? none parts).map fun text => .text (String.ofList text)

/-- What a piece stands for if it cannot be read. -/
def Piece.substitute : Piece → Token
  | .fixed token => token
  | .numeral parts => .number (.double (if parts.negative then -1 / 0 else 1 / 0))
  | .string _ => .text "\ufffd"

def Piece.meaning (piece : Piece) : Token := piece.read?.getD piece.substitute

def markToken? : Char → Option Token
  | '[' => some .openArray
  | ']' => some .closeArray
  | '\x7b' => some .openObject
  | '\x7d' => some .closeObject
  | ',' => some .comma
  | ':' => some .colon
  | _ => none

def words : List (String × Token) :=
  [("null", .null), ("true", .bool true), ("false", .bool false)]

/-- A text as pieces, each as long as it can be, with blanks between them. -/
inductive Laid : List Piece → List Char → Prop
  | finish : Laid [] []
  | blank {character : Char} {pieces : List Piece} {text : List Char}
      (between : isBlank character) (rest : Laid pieces text) : Laid pieces (character :: text)
  | mark {character : Char} {token : Token} {pieces : List Piece} {text : List Char}
      (stands : markToken? character = some token) (rest : Laid pieces text) :
      Laid (.fixed token :: pieces) (character :: text)
  | word {word : String} {token : Token} {pieces : List Piece} {text : List Char}
      (known : (word, token) ∈ words) (ended : Stops Char.isAlpha text) (rest : Laid pieces text) :
      Laid (.fixed token :: pieces) (word.toList ++ text)
  | numeral {parts : NumeralParts} {digits : List Char} {pieces : List Piece} {text : List Char}
      (spelled : NumeralSpelled parts digits) (ended : Stops isNumeralChar text)
      (rest : Laid pieces text) : Laid (.numeral parts :: pieces) (digits ++ text)
  | string {parts : List StringPart} {inside : List Char} {pieces : List Piece} {text : List Char}
      (spelled : Spelled parts inside) (rest : Laid pieces text) :
      Laid (.string parts :: pieces) ('"' :: (inside ++ '"' :: text))

end Pieces

section Documents

mutual

def tokens : Json → List Token
  | .null => [.null]
  | .bool value => [.bool value]
  | .number value => [.number value]
  | .string value => [.text value]
  | .array [] => [.openArray, .closeArray]
  | .array (item :: items) => .openArray :: tokens item ++ itemTokens items
  | .object [] => [.openObject, .closeObject]
  | .object ((name, value) :: members) =>
    .openObject :: .text name :: .colon :: tokens value ++ memberTokens members

/-- What follows the first item, up to the closing bracket. -/
def itemTokens : List Json → List Token
  | [] => [.closeArray]
  | item :: items => .comma :: tokens item ++ itemTokens items

def memberTokens : List (String × Json) → List Token
  | [] => [.closeObject]
  | (name, value) :: members =>
    .comma :: .text name :: .colon :: tokens value ++ memberTokens members

end

mutual

/-- How many arrays and objects stand around the innermost value, its own brackets counted. -/
def depth : Json → Nat
  | .array items => itemsDepth items + 1
  | .object members => membersDepth members + 1
  | _ => 0

def itemsDepth : List Json → Nat
  | [] => 0
  | item :: items => max (depth item) (itemsDepth items)

def membersDepth : List (String × Json) → Nat
  | [] => 0
  | (_, value) :: members => max (depth value) (membersDepth members)

end

/-- The text is one of the document's, whether or not it can be read. -/
structure IsText (text : String) (pieces : List Piece) (document : Json) : Prop where
  laid : Laid pieces text.toList
  shown : pieces.map Piece.meaning = document.tokens

/-- Arrays and objects are nested within the limit, numbers within the range of doubles, and no
string has half of a surrogate pair. -/
structure Readable (pieces : List Piece) (document : Json) : Prop where
  bounded : document.depth ≤ depthLimit
  read : ∀ piece ∈ pieces, piece.read?.isSome

end Documents

end TraceOverhead.Json
