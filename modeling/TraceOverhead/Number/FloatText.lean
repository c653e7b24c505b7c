import TraceOverhead.Number.Shortest
/-!
The text of a double in reports and generated sources: the fewest digits that read back, written
positionally for moderate sizes and with an exponent otherwise. Where the moderate sizes end is the
layout's choice, one for reports and one for the literals of sources.
-/

namespace TraceOverhead.Number

/-- Which numbers are written positionally, by the exponent of the leading decimal digit. -/
structure FloatLayout where
  smallest : Int
  largest : Int

/-- `0.00001` and `1000000000000000.0` are still positional; beyond them come `1e-6` and `1e+16`. -/
def reportLayout : FloatLayout := ⟨-5, 15⟩

/-- `0.0001` and `1000000000000000.0` are still positional; beyond them come `1e-5` and `1e+16`. -/
def literalLayout : FloatLayout := ⟨-4, 15⟩

def FloatLayout.positional (digits : List Char) (exponent : Int) : List Char :=
  let point : Int := digits.length + exponent
  if 0 ≤ exponent then digits ++ List.replicate exponent.toNat '0' ++ ['.', '0']
  else if 0 < point then digits.take point.toNat ++ ['.'] ++ digits.drop point.toNat
  else ['0', '.'] ++ List.replicate (-point).toNat '0' ++ digits

def FloatLayout.scientific (digits : List Char) (leading : Int) : List Char :=
  let fraction := match digits with
    | [] | [_] => digits
    | first :: rest => first :: '.' :: rest
  let sign := if leading < 0 then '-' else '+'
  fraction ++ ['e', sign] ++ Nat.toDigits 10 leading.natAbs

def FloatLayout.magnitude (layout : FloatLayout) (decimal : Decimal) : List Char :=
  let digits := Nat.toDigits 10 decimal.digits
  let leading : Int := digits.length + decimal.exponent - 1
  if layout.smallest ≤ leading ∧ leading ≤ layout.largest then
    FloatLayout.positional digits decimal.exponent
  else FloatLayout.scientific digits leading

def FloatLayout.finite (layout : FloatLayout) (negative : Bool) (mantissa : Nat)
    (exponent : Int) : String :=
  let sign := if negative then ['-'] else []
  let magnitude :=
    if mantissa = 0 then ['0', '.', '0'] else layout.magnitude (shortest mantissa exponent)
  String.ofList (sign ++ magnitude)

/-- The text of a double, finite or not. -/
def FloatLayout.text (layout : FloatLayout) (number : Float) : String :=
  match Double.ofFloat number with
  | .nan => "NaN"
  | .infinite true => "-inf"
  | .infinite false => "inf"
  | .finite negative mantissa exponent => layout.finite negative mantissa exponent

end TraceOverhead.Number
