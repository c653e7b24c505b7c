/-!
Numerals in a positional base: decimal text of a count, hexadecimal text of a fixed width, and the
reading of decimal digits with its limits.
-/

namespace TraceOverhead.Number

def decimal (number : Nat) : String := Nat.repr number

def signedDecimal : Int → String
  | .ofNat value => decimal value
  | .negSucc value => "-" ++ decimal (value + 1)

/-- The last `width` hexadecimal digits of a number, in lower case. -/
def hexadecimal : Nat → Nat → List Char
  | 0, _ => []
  | width + 1, number => hexadecimal width (number / 16) ++ [Nat.digitChar (number % 16)]

theorem length_hexadecimal (width number : Nat) : (hexadecimal width number).length = width := by
  induction width generalizing number with
  | zero => rfl
  | succ width induction => simp [hexadecimal, induction]

def digit? (character : Char) : Option Nat :=
  if '0' ≤ character ∧ character ≤ '9' then some (character.toNat - '0'.toNat) else none

/-- Why a text is not an integer of the range asked for. -/
inductive IntegerFault where
  | empty
  | invalidDigit
  | tooLarge
  | tooSmall
  deriving DecidableEq, Repr

def IntegerFault.message : IntegerFault → String
  | .empty => "cannot parse integer from empty string"
  | .invalidDigit => "invalid digit found in string"
  | .tooLarge => "number too large to fit in target type"
  | .tooSmall => "number too small to fit in target type"

/-- Reads digits after `value`. The first fault in reading order wins, so a number that is already
too long hides a foreign character behind it. -/
def readDigits (limit : Nat) (overflow : IntegerFault) :
    Nat → List Char → Except IntegerFault Nat
  | value, [] => .ok value
  | value, character :: rest =>
    match digit? character with
    | none => .error .invalidDigit
    | some digit =>
      let next := value * 10 + digit
      if limit < next then .error overflow else readDigits limit overflow next rest

/-- An optional plus sign and at least one digit, up to `limit`. -/
def readNatural (limit : Nat) (text : List Char) : Except IntegerFault Nat :=
  match text with
  | [] => .error .empty
  | ['+'] => .error .invalidDigit
  | '+' :: digits => readDigits limit .tooLarge 0 digits
  | digits => readDigits limit .tooLarge 0 digits

/-- An optional sign and at least one digit, from `-limit - 1` to `limit`. -/
def readInteger (limit : Nat) (text : List Char) : Except IntegerFault Int :=
  match text with
  | ['-'] => .error .invalidDigit
  | '-' :: digits => (readDigits (limit + 1) .tooSmall 0 digits).map fun value => -(value : Int)
  | _ => (readNatural limit text).map fun value => (value : Int)

end TraceOverhead.Number
