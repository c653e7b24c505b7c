/-!
A stream of pseudo-random words: the ChaCha block function with eight rounds, applied to a block
counter under a key that is spread from a 64-bit seed.
-/

namespace TraceOverhead.Random

abbrev Block := Vector UInt32 16

def rotateLeft (word : UInt32) (count : UInt32) : UInt32 :=
  (word <<< count) ||| (word >>> (32 - count))

def quarterRound (block : Block) (a b c d : Fin 16) : Block :=
  let wa := block[a]
  let wb := block[b]
  let wc := block[c]
  let wd := block[d]
  let wa := wa + wb
  let wd := rotateLeft (wd ^^^ wa) 16
  let wc := wc + wd
  let wb := rotateLeft (wb ^^^ wc) 12
  let wa := wa + wb
  let wd := rotateLeft (wd ^^^ wa) 8
  let wc := wc + wd
  let wb := rotateLeft (wb ^^^ wc) 7
  (((block.set a wa).set b wb).set c wc).set d wd

/-- Four columns, then four diagonals. -/
def doubleRound (block : Block) : Block :=
  let block := quarterRound block 0 4 8 12
  let block := quarterRound block 1 5 9 13
  let block := quarterRound block 2 6 10 14
  let block := quarterRound block 3 7 11 15
  let block := quarterRound block 0 5 10 15
  let block := quarterRound block 1 6 11 12
  let block := quarterRound block 2 7 8 13
  quarterRound block 3 4 9 14

abbrev Key := Vector UInt32 8

/-- The constant words, the key, the 64-bit counter and two words that stay zero. -/
def initialBlock (key : Key) (counter : UInt64) : Block :=
  (#v[0x61707865, 0x3320646e, 0x79622d32, 0x6b206574] : Vector UInt32 4) ++ key ++
    (#v[counter.toUInt32, (counter >>> 32).toUInt32, 0, 0] : Vector UInt32 4)

def keyBlock (key : Key) (counter : UInt64) : Block :=
  let start := initialBlock key counter
  let mixed := doubleRound (doubleRound (doubleRound (doubleRound start)))
  start.zipWith (· + ·) mixed

/-- One step of the generator that spreads a seed: the next state and a key word. -/
def spread (state : UInt64) : UInt64 × UInt32 :=
  let state := state * 6364136223846793005 + 11634580027462260723
  let mixed := (((state >>> 18) ^^^ state) >>> 27).toUInt32
  let count := (state >>> 59).toUInt32
  (state, (mixed >>> count) ||| (mixed <<< ((32 - count) &&& 31)))

def spreadKey (seed : UInt64) : (count : Nat) → Vector UInt32 count × UInt64
  | 0 => (#v[], seed)
  | count + 1 =>
    let (words, state) := spreadKey seed count
    let (state, word) := spread state
    (words.push word, state)

/-- The words of a block that were not yet drawn, and the number of the next block. -/
structure Stream where
  key : Key
  counter : UInt64
  buffer : List UInt32

def Stream.ofSeed (seed : UInt64) : Stream := ⟨(spreadKey seed 8).1, 0, []⟩

def Stream.word (stream : Stream) : UInt32 × Stream :=
  match stream.buffer with
  | word :: rest => (word, { stream with buffer := rest })
  | [] =>
    let block := keyBlock stream.key stream.counter
    (block[0], { stream with counter := stream.counter + 1, buffer := block.toList.tail })

/-- Two words, the low one first. -/
def Stream.doubleWord (stream : Stream) : UInt64 × Stream :=
  let (low, stream) := stream.word
  let (high, stream) := stream.word
  (high.toUInt64 <<< 32 ||| low.toUInt64, stream)

end TraceOverhead.Random
