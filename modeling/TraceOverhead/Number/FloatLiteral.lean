import TraceOverhead.Number.Digits
import TraceOverhead.Number.Double
/-!
Reading a double from text, as timing files of kernel modules hold it: decimal digits with an
optional point and exponent, or one of the words for infinity and for "not a number".
-/

namespace TraceOverhead.Number

inductive FloatFault where
  | empty
  | invalid
  deriving DecidableEq, Repr

def FloatFault.message : FloatFault → String
  | .empty => "cannot parse float from empty string"
  | .invalid => "invalid float literal"

def isDigit (character : Char) : Bool := (digit? character).isSome

/-- The number that a run of digits denotes, after `value`. -/
def digitsValue (value : Nat) (digits : List Char) : Nat :=
  digits.foldl (fun value character => value * 10 + (digit? character).getD 0) value

/-- The exponent after its letter: an optional sign and at least one digit. -/
def readExponent? (text : List Char) : Option Int :=
  let (negative, digits) := match text with
    | '-' :: rest => (true, rest)
    | '+' :: rest => (false, rest)
    | _ => (false, text)
  if digits.isEmpty || !digits.all isDigit then none
  else
    let value : Int := digitsValue 0 digits
    some (if negative then -value else value)

/-- An unsigned decimal number with a digit before or after the point. -/
def readUnsigned? (negative : Bool) (text : List Char) : Option Float :=
  let whole := text.takeWhile isDigit
  let afterWhole := text.dropWhile isDigit
  let (fraction, rest) := match afterWhole with
    | '.' :: after => (after.takeWhile isDigit, after.dropWhile isDigit)
    | _ => ([], afterWhole)
  if whole.isEmpty && fraction.isEmpty then none
  else
    let exponent? := match rest with
      | [] => some 0
      | 'e' :: after | 'E' :: after => readExponent? after
      | _ => none
    exponent?.map fun exponent =>
      ofDecimal negative (digitsValue 0 (whole ++ fraction)) (exponent - fraction.length)

def nanFloat : Float := Float.ofBits 0x7ff8000000000000

/-- The words are read in any case, and all forms take a sign. -/
def readFloat (text : String) : Except FloatFault Float :=
  let (negative, unsigned) := match text.toList with
    | '-' :: rest => (true, rest)
    | '+' :: rest => (false, rest)
    | characters => (false, characters)
  let word := unsigned.map Char.toLower
  if text.isEmpty then .error .empty
  else if word = ['n', 'a', 'n'] then .ok nanFloat
  else if word = ['i', 'n', 'f'] || word = "infinity".toList then
    .ok (Float.ofBits (UInt64.ofNat (infinityBits + if negative then signBit else 0)))
  else match readUnsigned? negative unsigned with
    | some number => .ok number
    | none => .error .invalid

end TraceOverhead.Number
