import TraceOverhead.Json.Basic
import TraceOverhead.Number.FloatLiteral
/-!
The tokens of a JSON text. The scanner reads one character at a time; its state is what it is in
the middle of, so every text is scanned in a single pass. A value that is passed over needs only
the form of JSON, so its tokens are scanned with less care.
-/

namespace TraceOverhead.Json

/-- How a value is read: for its content, which then has to exist, or for its form alone, where a
number may be past the largest double and an escape may be half of a surrogate pair. -/
inductive Care where
  | content
  | form
  deriving DecidableEq

inductive Token where
  | openArray
  | closeArray
  | openObject
  | closeObject
  | comma
  | colon
  | null
  | bool (value : Bool)
  | number (value : Numeral)
  | text (value : String)

/-- What the scanner is in the middle of; characters read so far are kept last first. -/
inductive Scan where
  | between
  | word (read : List Char)
  | numeral (read : List Char)
  | quoted (read : List Char)
  | escape (read : List Char)
  /-- In a numeric escape with `left` digits to come; `lead?` is a high surrogate before it. -/
  | unit (read : List Char) (lead? : Option Nat) (left : Nat) (value : Nat)
  /-- After a high surrogate, where only a second numeric escape may follow. -/
  | paired (read : List Char) (lead : Nat)
  | pairedEscape (read : List Char) (lead : Nat)

def wordToken? (word : List Char) : Option Token :=
  if word = ['n', 'u', 'l', 'l'] then some .null
  else if word = ['t', 'r', 'u', 'e'] then some (.bool true)
  else if word = ['f', 'a', 'l', 's', 'e'] then some (.bool false)
  else none

/-- Only the numbers that fit 64 bits stay integers; minus zero is a double. -/
def integerNumeral? (negative : Bool) (digits : List Char) : Option Numeral :=
  let value := Number.digitsValue 0 digits
  if negative then if 0 < value ∧ value ≤ UInt64.size / 2 then some (.integer (-value)) else none
  else if value < UInt64.size then some (.integer value) else none

/-- `0` or digits that do not start with `0`. -/
def isWholePart (digits : List Char) : Bool :=
  match digits with
  | [] => false
  | ['0'] => true
  | '0' :: _ => false
  | _ => digits.all Number.isDigit

/-- The parts of a number of the JSON grammar. -/
structure NumeralParts where
  negative : Bool
  whole : List Char
  fraction : Option (List Char)
  exponent : Option Int

def exponentPart? (text : List Char) : Option (Option Int) :=
  match text with
  | [] => some none
  | 'e' :: after | 'E' :: after => (Number.readExponent? after).map some
  | _ => none

/-- The digits after a point, and what follows them. -/
def splitFraction (text : List Char) : Option (List Char) × List Char :=
  match text with
  | '.' :: after => (some (after.takeWhile Number.isDigit), after.dropWhile Number.isDigit)
  | _ => (none, text)

def unsignedParts? (negative : Bool) (text : List Char) : Option NumeralParts :=
  let whole := text.takeWhile Number.isDigit
  let (fraction, rest) := splitFraction (text.dropWhile Number.isDigit)
  if !isWholePart whole || fraction = some [] then none
  else (exponentPart? rest).map fun exponent => ⟨negative, whole, fraction, exponent⟩

def numeralParts? (text : List Char) : Option NumeralParts :=
  match text with
  | '-' :: unsigned => unsignedParts? true unsigned
  | _ => unsignedParts? false text

/-- Takes digits as long as the number that they make after `value` fits 64 bits: that number, and
the digits that are left. -/
def takeDigits (value : Nat) : List Char → Nat × List Char
  | [] => (value, [])
  | digit :: digits =>
    let longer := value * 10 + (Number.digit? digit).getD 0
    if longer < UInt64.size then takeDigits longer digits else (value, digit :: digits)

def powerOfTen (exponent : Nat) : Float := Number.ofNat (Nat.pow 10 exponent)

/-- The exponent of the largest power of ten that is a double. -/
def largestPower : Nat := 308

/-- A double times a power of ten; past the largest double there is nothing. Every multiplication
and division rounds, so the outcome need not be the double nearest to the exact product. -/
def scale? (value : Float) (exponent : Int) : Option Float :=
  if exponent.natAbs ≤ largestPower then
    if 0 ≤ exponent then
      let product := value * powerOfTen exponent.natAbs
      if Number.isFinite product then some product else none
    else some (value / powerOfTen exponent.natAbs)
  else if value == 0 then some value
  else if 0 ≤ exponent then none
  else scale? (value / powerOfTen largestPower) (exponent + largestPower)
termination_by exponent.natAbs
decreasing_by
  unfold largestPower at *
  omega

/-- The digits that count and the power of ten that they are scaled by. Whole digits that do not fit
count as zeros, and those of the fraction are left out. -/
def NumeralParts.scientific (parts : NumeralParts) : Nat × Int :=
  let fraction := parts.fraction.getD []
  let (whole, zeros) := takeDigits 0 parts.whole
  let (significand, unread) := takeDigits whole fraction
  (significand, parts.exponent.getD 0 + zeros.length - (fraction.length - unread.length : Nat))

def NumeralParts.double? (parts : NumeralParts) : Option Numeral :=
  let (significand, exponent) := parts.scientific
  (scale? (Number.ofNat significand) exponent).map fun value =>
    .double (if parts.negative then -value else value)

/-- Digits alone are an integer if it fits. -/
def NumeralParts.integer? (parts : NumeralParts) : Option Numeral :=
  if parts.fraction.isNone && parts.exponent.isNone then
    integerNumeral? parts.negative parts.whole
  else none

def NumeralParts.value? (parts : NumeralParts) : Option Numeral := parts.integer?.or parts.double?

def numeral? (text : List Char) : Option Numeral := (numeralParts? text).bind NumeralParts.value?

def numeralToken? (care : Care) (text : List Char) : Option Token :=
  match care with
  | .content => (numeral? text).map .number
  | .form => (numeralParts? text).map fun _ => .null

def isNumeralChar (character : Char) : Bool :=
  Number.isDigit character || character = '+' || character = '-' || character = '.' ||
    character = 'e' || character = 'E'

def hexDigit? (character : Char) : Option Nat :=
  if 'a' ≤ character ∧ character ≤ 'f' then some (character.toNat - 'a'.toNat + 10)
  else if 'A' ≤ character ∧ character ≤ 'F' then some (character.toNat - 'A'.toNat + 10)
  else Number.digit? character

/-- A character between tokens: a token of its own, the first of a longer one, or a blank. -/
def startToken? (character : Char) : Option (List Token × Scan) :=
  match character with
  | '[' => some ([.openArray], .between)
  | ']' => some ([.closeArray], .between)
  | '\x7b' => some ([.openObject], .between)
  | '\x7d' => some ([.closeObject], .between)
  | ',' => some ([.comma], .between)
  | ':' => some ([.colon], .between)
  | '"' => some ([], .quoted [])
  | ' ' | '\n' | '\r' | '\t' => some ([], .between)
  | '-' => some ([], .numeral ['-'])
  | _ =>
    if Number.isDigit character then some ([], .numeral [character])
    else if character.isAlpha then some ([], .word [character])
    else none

def shortEscape? : Char → Option Char
  | '"' => some '"'
  | '\\' => some '\\'
  | '/' => some '/'
  | 'b' => some '\x08'
  | 'f' => some '\x0c'
  | 'n' => some '\n'
  | 'r' => some '\r'
  | 't' => some '\t'
  | _ => none

def isHighSurrogate (unit : Nat) : Bool := 0xd800 ≤ unit && unit ≤ 0xdbff

def isLowSurrogate (unit : Nat) : Bool := 0xdc00 ≤ unit && unit ≤ 0xdfff

def surrogatePair (high low : Nat) : Char :=
  Char.ofNat (0x10000 + (high - 0xd800) * 0x400 + (low - 0xdc00))

/-- A whole numeric escape: a character, or half of a surrogate pair. For its form alone it is not
looked into. -/
def finishUnit? (care : Care) (read : List Char) (lead? : Option Nat) (value : Nat) :
    Option Scan :=
  match lead? with
  | some lead =>
    if isLowSurrogate value then some (.quoted (surrogatePair lead value :: read)) else none
  | none =>
    if care = .form then some (.quoted read)
    else if isHighSurrogate value then some (.paired read value)
    else if isLowSurrogate value then none
    else some (.quoted (Char.ofNat value :: read))

/-- Ends a longer token at a character that does not belong to it. -/
def endToken? (token? : Option Token) (character : Char) : Option (List Token × Scan) := do
  let token ← token?
  let (tokens, scan) ← startToken? character
  some (token :: tokens, scan)

/-- Reads one character: the tokens it completes, and what the scanner is then in the middle of. -/
def Scan.step? (care : Care) : Scan → Char → Option (List Token × Scan)
  | .between, character => startToken? character
  | .word read, character =>
    if character.isAlpha then some ([], .word (character :: read))
    else endToken? (wordToken? read.reverse) character
  | .numeral read, character =>
    if isNumeralChar character then some ([], .numeral (character :: read))
    else endToken? (numeralToken? care read.reverse) character
  | .quoted read, character =>
    if character = '"' then some ([.text (String.ofList read.reverse)], .between)
    else if character = '\\' then some ([], .escape read)
    else if character.toNat < 0x20 then none
    else some ([], .quoted (character :: read))
  | .escape read, character =>
    if character = 'u' then some ([], .unit read none 4 0)
    else (shortEscape? character).map fun plain => ([], .quoted (plain :: read))
  | .unit read lead? left value, character => do
    let digit ← hexDigit? character
    let value := value * 16 + digit
    if left ≤ 1 then (finishUnit? care read lead? value).map fun scan => ([], scan)
    else some ([], .unit read lead? (left - 1) value)
  | .paired read lead, character =>
    if character = '\\' then some ([], .pairedEscape read lead) else none
  | .pairedEscape read lead, character =>
    if character = 'u' then some ([], .unit read (some lead) 4 0) else none

/-- The token that the end of the text completes. -/
def Scan.finish? (care : Care) : Scan → Option (List Token)
  | .between => some []
  | .word read => (wordToken? read.reverse).map fun token => [token]
  | .numeral read => (numeralToken? care read.reverse).map fun token => [token]
  | _ => none

end TraceOverhead.Json
