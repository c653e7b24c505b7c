import TraceOverhead.Dialogue
import TraceOverhead.Random.ChaCha
import TraceOverhead.Number.Double
/-!
Random draws: numbers of a range, all equally likely, and fractions. A program that draws is a
dialogue whose answers lie in the ranges asked for by their very types; the stream of pseudo-random
words is one way to answer it.
-/

namespace TraceOverhead.Random

/-- A draw. The two kinds of range differ in how much of a stream one draw takes. -/
inductive Draw where
  /-- From `0` to `span`, out of single words. -/
  | narrow (span : Nat)
  /-- From `0` to `span`, out of double words. -/
  | wide (span : Nat)
  /-- A multiple of `2 ^ -53` below one, as the multiple. -/
  | fraction
  deriving DecidableEq, Repr

/-- The largest answer to a draw. -/
def Draw.span : Draw → Nat
  | .narrow span | .wide span => span
  | .fraction => Nat.pow 2 53 - 1

def draws : Interface where
  Request := Draw
  Answer draw := Fin (draw.span + 1)

abbrev Drawing := Dialogue draws

/-- The drawing of one number. -/
def Draw.perform (draw : Draw) : Drawing (Fin (draw.span + 1)) := Dialogue.ask draw Dialogue.done

def narrow (low high : Nat) : Drawing Nat := do
  let distance ← (Draw.narrow (high - low)).perform
  return low + distance.val

def wide (low high : Int) : Drawing Int := do
  let distance ← (Draw.wide (high - low).toNat).perform
  return low + (distance.val : Int)

/-- An element of a list, given by its first element and the others. -/
def pick (first : α) (others : List α) : Drawing α := do
  let index ← (Draw.wide others.length).perform
  return (first :: others).get index

def fraction : Drawing Float := do
  let multiple ← Draw.fraction.perform
  return Number.ofQuotient false multiple.val (Nat.pow 2 53)

/-- Scales a word of `2 ^ bits` down to a range of `size` numbers. The words for which the low half
of the product lies past the last multiple are refused, so that every number has as many words. -/
def scale? (bits size word : Nat) : Option Nat :=
  let zone := size * Nat.pow 2 (bits - 1 - size.log2) - 1
  let product := word * size
  if product % Nat.pow 2 bits ≤ zone then some (product / Nat.pow 2 bits) else none

/-- Draws words until one is taken. Each is refused with a chance below one half, so the fuel is
never used up by a stream that behaves randomly. -/
def Stream.scaled (draw : Stream → Nat × Stream) (bits size : Nat) :
    (fuel : Nat) → Stream → Nat × Stream
  | 0, stream => (0, stream)
  | fuel + 1, stream =>
    let (word, stream) := draw stream
    match scale? bits size word with
    | some number => (number, stream)
    | none => Stream.scaled draw bits size fuel stream

def Stream.answer (draw : Draw) (stream : Stream) : Nat × Stream :=
  match draw with
  | .narrow span =>
    Stream.scaled (fun stream => stream.word.map UInt32.toNat id) 32 (span + 1) 1000 stream
  | .wide span =>
    Stream.scaled (fun stream => stream.doubleWord.map UInt64.toNat id) 64 (span + 1) 1000 stream
  | .fraction => stream.doubleWord.map (fun (word : UInt64) => (word >>> 11).toNat) id

/-- The answers that a stream gives. The clamp never acts on a word of the stated width. -/
def answerFromStream (draw : Draw) : StateM Stream (draws.Answer draw) := fun stream =>
  let (number, stream) := stream.answer draw
  (⟨min number draw.span, by show _ < draw.span + 1; omega⟩, stream)

def runSeeded (seed : UInt64) (drawing : Drawing α) : α :=
  ((drawing.interpret answerFromStream).run (Stream.ofSeed seed)).1

end TraceOverhead.Random
