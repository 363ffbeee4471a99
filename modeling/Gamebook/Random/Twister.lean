import Gamebook.Number.Double
import Gamebook.Random.Seed
import Gamebook.Random.Sha512

/-!
The Mersenne twister with 624 words of 32 bits, seeded from numbers and texts, and uniform draws
from it.
-/
namespace Gamebook

structure Twister where
  words : Array UInt32
  /-- The next word to be given out; past the last the words are renewed first. -/
  position : Nat

namespace Twister

def size : Nat := 624

def wordAt (words : Array UInt32) (place : Nat) : UInt32 := words.getD place 0

def linear (seed : UInt32) : Array UInt32 :=
  (List.range (size - 1)).foldl (fun words place =>
    let last := wordAt words place
    words.push ((1812433253 : UInt32) * (last ^^^ (last >>> 30)) + UInt32.ofNat (place + 1))) #[seed]

/-- Replaces the word at a place by a mix with the word before it. The place after the last is the
second, and the first takes over the last word. -/
def stir (factor : UInt32) (addend : Nat → UInt32) (start : Array UInt32 × Nat) (rounds : Nat) :
    Array UInt32 × Nat :=
  (List.range rounds).foldl (fun (words, place) round =>
    let before := wordAt words (place - 1)
    let mixed := (wordAt words place ^^^ ((before ^^^ (before >>> 30)) * factor)) + addend round
    let words := words.setIfInBounds place mixed
    if place + 1 < size then (words, place + 1)
    else (words.setIfInBounds 0 (wordAt words (size - 1)), 1)) start

def keyWords (value : Nat) : List UInt32 :=
  let count := max 1 ((value.log2 + 32) / 32)
  (List.range count).map fun place => UInt32.ofNat (value >>> (32 * place))

def ofKey (key : List UInt32) : Twister :=
  let keyed := stir 1664525 (fun round =>
    key.getD (round % key.length) 0 + UInt32.ofNat (round % key.length))
    (linear 19650218, 1) (max size key.length)
  let place := keyed.2
  let settled := stir 1566083941 (fun round =>
    -UInt32.ofNat ((place + round - 1) % (size - 1) + 1)) keyed (size - 1)
  ⟨settled.1.setIfInBounds 0 0x80000000, size⟩

/-- A text stands for the number that its bytes and their digest spell. -/
def seedNumber : Seed → Nat
  | .number value => value.natAbs
  | .text value =>
    let bytes := value.toUTF8.toList
    Sha512.bigEndian bytes * 2 ^ 512 + Sha512.digest bytes

def ofSeed (seed : Seed) : Twister := ofKey (keyWords (seedNumber seed))

def renew (words : Array UInt32) : Array UInt32 :=
  (List.range size).foldl (fun words place =>
    let next := wordAt words ((place + 1) % size)
    let y := (wordAt words place &&& 0x80000000) ||| (next &&& 0x7fffffff)
    let twist : UInt32 := if y &&& 1 = 0 then 0 else 0x9908b0df
    words.setIfInBounds place (wordAt words ((place + 397) % size) ^^^ (y >>> 1) ^^^ twist)) words

def temper (y : UInt32) : UInt32 :=
  let y := y ^^^ (y >>> 11)
  let y := y ^^^ ((y <<< 7) &&& 0x9d2c5680)
  let y := y ^^^ ((y <<< 15) &&& 0xefc60000)
  y ^^^ (y >>> 18)

def next (twister : Twister) : UInt32 × Twister :=
  let twister := if twister.position < size then twister else ⟨renew twister.words, 0⟩
  (temper (wordAt twister.words twister.position), { twister with position := twister.position + 1 })

/-- A number of `bits` random bits from words, the least significant first; of the last word the
high bits are taken. -/
def bits (twister : Twister) (bits : Nat) : Nat × Twister :=
  if bits ≤ 32 then
    let (word, twister) := twister.next
    (word.toNat >>> (32 - bits), twister)
  else
    let (word, twister) := twister.next
    let (high, twister) := Twister.bits twister (bits - 32)
    (word.toNat + high * 2 ^ 32, twister)
termination_by bits

/-- How often a draw that is too large is repeated; each is too large with a chance below a half. -/
def maxRetries : Nat := 4096

def belowAfter (bound : Nat) : Nat → Twister → Nat × Twister
  | 0, twister => (0, twister)
  | retries + 1, twister =>
    let (value, twister) := twister.bits (bound.log2 + 1)
    if value < bound then (value, twister) else belowAfter bound retries twister

def below (twister : Twister) (bound : Nat) : Nat × Twister := belowAfter bound maxRetries twister

def unit (twister : Twister) : Double × Twister :=
  let (high, twister) := twister.next
  let (low, twister) := twister.next
  let value := (high.toNat >>> 5) * 2 ^ 26 + (low.toNat >>> 6)
  (Double.ofRatio false (value * Double.one) (2 ^ 53), twister)

end Twister
end Gamebook
