/-!
Double-precision numbers as exact values: what a bit pattern stands for, and the double nearest to
a quotient of naturals.
-/

namespace TraceOverhead.Number

/-- What a double stands for. A finite one is `mantissa * 2 ^ exponent` with its sign. -/
inductive Double where
  | nan
  | infinite (negative : Bool)
  | finite (negative : Bool) (mantissa : Nat) (exponent : Int)
  deriving DecidableEq, Repr

/-- The weight of the mantissa's leading bit, which the format leaves out. -/
def leadingBit : Nat := Nat.pow 2 52

/-- The weight of the sign. -/
def signBit : Nat := Nat.pow 2 63

def Double.ofBits (bits : Nat) : Double :=
  let negative : Bool := bits / signBit % 2 = 1
  let biased : Nat := bits / leadingBit % 2048
  let fraction : Nat := bits % leadingBit
  if biased = 2047 then if fraction = 0 then .infinite negative else .nan
  else if biased = 0 then .finite negative fraction (-1074)
  else .finite negative (leadingBit + fraction) ((biased : Int) - 1075)

def Double.ofFloat (number : Float) : Double := .ofBits number.toBits.toNat

def isFinite (number : Float) : Bool :=
  match Double.ofFloat number with
  | .finite .. => true
  | _ => false

/-- The natural nearest to a quotient; of two equally near ones the even one. -/
def roundQuotient (numerator denominator : Nat) : Nat :=
  let quotient := numerator / denominator
  let twice := 2 * (numerator % denominator)
  if twice < denominator then quotient
  else if denominator < twice then quotient + 1
  else quotient + quotient % 2

/-- The exponent of the leading binary digit of a positive quotient. -/
def leadingExponent (numerator denominator : Nat) : Int :=
  let estimate : Int := (numerator.log2 : Int) - (denominator.log2 : Int)
  let reaches :=
    if 0 ≤ estimate then denominator <<< estimate.toNat ≤ numerator
    else denominator ≤ numerator <<< (-estimate).toNat
  if reaches then estimate else estimate - 1

def infinityBits : Nat := 2047 * leadingBit

/-- The bits of the double nearest to a quotient; from halfway past the largest one on, infinity.
The mantissa carries into the exponent, so one sum covers all sizes. -/
def nearestBits (numerator denominator : Nat) : Nat :=
  if numerator = 0 then 0
  else
    let exponent := max (leadingExponent numerator denominator - 52) (-1074)
    let mantissa :=
      if 0 ≤ exponent then roundQuotient numerator (denominator <<< exponent.toNat)
      else roundQuotient (numerator <<< (-exponent).toNat) denominator
    min (mantissa + (exponent + 1074).toNat * leadingBit) infinityBits

def ofQuotient (negative : Bool) (numerator denominator : Nat) : Float :=
  let sign := if negative then signBit else 0
  Float.ofBits (UInt64.ofNat (sign + nearestBits numerator denominator))

def ofInt (number : Int) : Float := ofQuotient (number < 0) number.natAbs 1

def ofNat (number : Nat) : Float := ofQuotient false number 1

/-- The double nearest to `digits * 10 ^ exponent`. Exponents that leave the range of doubles
whatever the digits are cut short before any power is taken. -/
def ofDecimal (negative : Bool) (digits : Nat) (exponent : Int) : Float :=
  let size : Int := (digits.log2 : Int) / 3 + exponent
  if digits = 0 || size < -800 then ofQuotient negative 0 1
  else if exponent < 0 then ofQuotient negative digits (Nat.pow 10 (-exponent).toNat)
  else if 400 < exponent then ofQuotient negative (Nat.pow 2 1024) 1
  else ofQuotient negative (digits * Nat.pow 10 exponent.toNat) 1

end TraceOverhead.Number
