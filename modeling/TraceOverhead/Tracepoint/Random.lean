import TraceOverhead.Tracepoint.Basic
import TraceOverhead.Random.Draw
/-!
The drawing of tracepoints. Which draw follows which is fixed, so the same stream always gives the
same tracepoints, and more of them only go on where fewer end.
-/

namespace TraceOverhead

open TraceOverhead.Random

def drawMany (draw : Drawing α) : (count : Nat) → Drawing (List α)
  | 0 => pure []
  | count + 1 => do
    let item ← draw
    let items ← drawMany draw count
    return item :: items

namespace Tracepoint

def letters : List Char :=
  "bcdefghijklmnopqrstuvwxyzABCDEFGHIJKLMNOPQRSTUVWXYZ".toList

def drawLetter : Drawing Char := pick 'a' letters

def drawConsonant : Drawing Char := pick 'b' "cdfghjklmnpqrstvwxyz".toList

def drawVowel : Drawing Char := pick 'a' "eiouy".toList

def drawSyllable : Drawing (List Char) := do
  let consonant ← drawConsonant
  let vowel ← drawVowel
  return [consonant, vowel]

/-- A name that can be spoken: two to five syllables. -/
def drawName : Drawing String := do
  let syllables ← wide 2 5
  let parts ← drawMany drawSyllable syllables.toNat
  return String.ofList parts.flatten

def largestInteger : Int := 2147483647

def drawInteger : Drawing Int := wide (-largestInteger) largestInteger

def drawLiterals : Drawing Literals := do
  let length ← narrow 2 128
  let text ← drawMany drawLetter length
  let int1 ← drawInteger
  let int2 ← drawInteger
  let long1 ← drawInteger
  let long2 ← drawInteger
  let float1 ← fraction
  let float2 ← fraction
  let double1 ← fraction
  let double2 ← fraction
  return { text, int1, int2, long1, long2, float1, float2, double1, double2 }

def drawField : Drawing Field := do
  match ← pick FieldKind.first FieldKind.others with
  | .number type =>
    let terms ← wide 1 2
    let name ← drawName
    return .number type name (terms = 2)
  | .text form =>
    let name ← drawName
    return .text form name

def draw (number : Nat) : Drawing Tracepoint := do
  let literals ← drawLiterals
  let fieldCount ← narrow 1 10
  let fields ← drawMany drawField fieldCount
  return { number, literals, fields }

/-- Draws the tracepoints numbered from `first` on, before those in `done`, which are kept last
first. -/
def drawFrom (done : List Tracepoint) : (count first : Nat) → Drawing (List Tracepoint)
  | 0, _ => pure done.reverse
  | count + 1, first => do
    let tracepoint ← draw first
    drawFrom (tracepoint :: done) count (first + 1)

/-- Tracepoints numbered from one. -/
def drawAll (count : Nat) : Drawing (List Tracepoint) := drawFrom [] count 1

def generate (count : Nat) (seed : UInt64) : List Tracepoint := runSeeded seed (drawAll count)

def standardSeed : UInt64 := 10

end Tracepoint
end TraceOverhead
