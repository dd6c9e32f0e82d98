/-
**The stream of random words.**

The random draws of a run follow from its seed alone. The seed is stretched to a key of eight words,
and a ChaCha block function with twelve rounds turns the key and a block counter into sixteen words
at a time, which are drawn in pairs.

* `Stream.ofSeed`: the stream that a seed starts;
* `Stream.next`: the next 64 bits;
* `Stream.dice`: draws of numbers and truth values.
-/
import Crosscheck.Random.Dice

namespace Crosscheck

/-- A position in a stream of random words. -/
structure Stream where
  /-- The key, eight words. -/
  key : List UInt32
  /-- The number of the block after the current one. -/
  counter : UInt64
  /-- The words of the current block that are not drawn yet. -/
  words : List UInt32

namespace Stream

/-- Rotates a word to the left. -/
def rotateLeft (word : UInt32) (count : UInt32) : UInt32 :=
  (word <<< count) ||| (word >>> (32 - count))

/-- Rotates a word to the right; the count is below the width of the word. -/
def rotateRight (word : UInt32) (count : UInt32) : UInt32 :=
  if count == 0 then word else (word >>> count) ||| (word <<< (32 - count))

/-! ### The block function -/

/-- Mixes the four words of a block at the given places. -/
def quarterRound (block : Array UInt32) (a b c d : Nat) : Array UInt32 :=
  let first := block.getD a 0
  let second := block.getD b 0
  let third := block.getD c 0
  let fourth := block.getD d 0
  let first := first + second
  let fourth := rotateLeft (fourth ^^^ first) 16
  let third := third + fourth
  let second := rotateLeft (second ^^^ third) 12
  let first := first + second
  let fourth := rotateLeft (fourth ^^^ first) 8
  let third := third + fourth
  let second := rotateLeft (second ^^^ third) 7
  (((block.setIfInBounds a first).setIfInBounds b second).setIfInBounds c third).setIfInBounds d
    fourth

/-- Mixes the columns of a block, then its diagonals. -/
def doubleRound (block : Array UInt32) : Array UInt32 :=
  [(0, 4, 8, 12), (1, 5, 9, 13), (2, 6, 10, 14), (3, 7, 11, 15),
    (0, 5, 10, 15), (1, 6, 11, 12), (2, 7, 8, 13), (3, 4, 9, 14)].foldl
    (fun block (a, b, c, d) => quarterRound block a b c d) block

/-- The words that every block starts with. -/
def constants : List UInt32 := [0x61707865, 0x3320646e, 0x79622d32, 0x6b206574]

/-- The sixteen words of a block. -/
def block (key : List UInt32) (counter : UInt64) : List UInt32 :=
  let start := constants ++ key ++ [counter.toUInt32, (counter >>> 32).toUInt32, 0, 0]
  let mixed := (List.range 6).foldl (fun block _ => doubleRound block) start.toArray
  List.zipWith (· + ·) mixed.toList start

/-! ### Seeding and drawing -/

/-- The state of the generator that stretches a seed, one step on. -/
def stretch (state : UInt64) : UInt64 := state * 6364136223846793005 + 11634580027462260723

/-- The word that a state of the stretching generator gives. -/
def stretchedWord (state : UInt64) : UInt32 :=
  rotateRight (((state >>> 18) ^^^ state) >>> 27).toUInt32 (state >>> 59).toUInt32

/-- The given number of words stretched from a state. -/
def stretchedWords (state : UInt64) : Nat → List UInt32
  | 0 => []
  | count + 1 => stretchedWord (stretch state) :: stretchedWords (stretch state) count

/-- The stream that a seed starts. -/
def ofSeed (seed : UInt64) : Stream := ⟨stretchedWords seed 8, 0, []⟩

/-- The next 64 bits: two words, the low one first. -/
def next (stream : Stream) : UInt64 × Stream :=
  match stream.words with
  | low :: high :: rest => (low.toUInt64 ||| (high.toUInt64 <<< 32), { stream with words := rest })
  | _ =>
    match block stream.key stream.counter with
    | low :: high :: rest =>
      (low.toUInt64 ||| (high.toUInt64 <<< 32), ⟨stream.key, stream.counter + 1, rest⟩)
    | _ => (0, stream)

/-- Draws until the low half of the product of the draw and `bound` is at most `zone`, and returns
the high half. The draws that are let through fall on each number equally often. -/
def drawWithin (bound zone : Nat) : Nat → Stream → Nat × Stream
  | 0, stream => (0, stream)
  | fuel + 1, stream =>
    let (word, stream) := stream.next
    let product := word.toNat * bound
    if product % UInt64.size ≤ zone then (product / UInt64.size, stream)
    else drawWithin bound zone fuel stream

/-- The number of draws after which a search for a suitable one is given up; no search comes
near. -/
def patience : Nat := 1 <<< 62

/-- Draws a number below `bound`, each equally likely. -/
def below (bound : Nat) (stream : Stream) : Nat × Stream :=
  if bound == UInt64.size then
    let (word, stream) := stream.next
    (word.toNat, stream)
  else drawWithin bound (bound <<< (63 - Nat.log2 bound) - 1) patience stream

/-- Draws a truth value with even odds. -/
def coin (stream : Stream) : Bool × Stream :=
  let (word, stream) := stream.next
  (decide (word.toNat < 1 <<< 63), stream)

/-- The draws from a stream. -/
def dice : Dice Stream := ⟨below, coin⟩

end Stream

end Crosscheck
