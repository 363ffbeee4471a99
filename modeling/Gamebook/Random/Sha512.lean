/-!
The SHA-512 digest of bytes. Its constants are the first 64 bits behind the point of square and cube
roots of the first primes, and are computed as such.
-/
namespace Gamebook.Sha512

/-- The largest number whose power is at most `n`, searched bit by bit from `2 ^ bits` down. -/
def rootFloor (power n : Nat) : Nat → Nat → Nat
  | root, 0 => root
  | root, bits + 1 =>
    let next := root + 2 ^ bits
    rootFloor power n (if next ^ power ≤ n then next else root) bits

def isPrime (n : Nat) : Bool := 2 ≤ n && (List.range n).all fun d => d < 2 || n % d != 0

def primes (count : Nat) : List Nat := ((List.range 410).filter isPrime).take count

def rootBits (power prime : Nat) : UInt64 :=
  UInt64.ofNat (rootFloor power (prime * 2 ^ (64 * power)) 0 70)

def initial : Array UInt64 := ((primes 8).map (rootBits 2)).toArray

def roundConstants : Array UInt64 := ((primes 80).map (rootBits 3)).toArray

def rotate (x : UInt64) (n : UInt64) : UInt64 := (x >>> n) ||| (x <<< (64 - n))

/-- The bytes with a one bit, zeros to fill the last block, and the length in bits. -/
def pad (bytes : List UInt8) : List UInt8 :=
  let bits := 8 * bytes.length
  let fill := (239 - bytes.length % 128) % 128
  let length := (List.range 16).map fun place => UInt8.ofNat (bits >>> (8 * (15 - place)))
  bytes ++ (0x80 : UInt8) :: List.replicate fill 0 ++ length

def bigEndian (bytes : List UInt8) : Nat := bytes.foldl (fun n byte => n * 256 + byte.toNat) 0

/-- Sixteen words of a block, extended to eighty. -/
def schedule (block : List UInt8) : Array UInt64 :=
  let words := (List.range 16).map fun place =>
    UInt64.ofNat (bigEndian ((block.drop (8 * place)).take 8))
  (List.range 64).foldl (fun ws t =>
    let a := ws.getD (t + 1) 0
    let b := ws.getD (t + 14) 0
    let mixA := rotate a 1 ^^^ rotate a 8 ^^^ (a >>> 7)
    let mixB := rotate b 19 ^^^ rotate b 61 ^^^ (b >>> 6)
    ws.push (ws.getD t 0 + mixA + ws.getD (t + 9) 0 + mixB)) words.toArray

structure Registers where
  a : UInt64
  b : UInt64
  c : UInt64
  d : UInt64
  e : UInt64
  f : UInt64
  g : UInt64
  h : UInt64

def Registers.step (r : Registers) (constant word : UInt64) : Registers :=
  let mixE := rotate r.e 14 ^^^ rotate r.e 18 ^^^ rotate r.e 41
  let choice := (r.e &&& r.f) ^^^ (~~~r.e &&& r.g)
  let first := r.h + mixE + choice + constant + word
  let mixA := rotate r.a 28 ^^^ rotate r.a 34 ^^^ rotate r.a 39
  let majority := (r.a &&& r.b) ^^^ (r.a &&& r.c) ^^^ (r.b &&& r.c)
  ⟨first + (mixA + majority), r.a, r.b, r.c, r.d + first, r.e, r.f, r.g⟩

def Registers.ofArray (s : Array UInt64) : Registers :=
  ⟨s.getD 0 0, s.getD 1 0, s.getD 2 0, s.getD 3 0, s.getD 4 0, s.getD 5 0, s.getD 6 0, s.getD 7 0⟩

def Registers.toList (r : Registers) : List UInt64 := [r.a, r.b, r.c, r.d, r.e, r.f, r.g, r.h]

def compress (state : Array UInt64) (block : List UInt8) : Array UInt64 :=
  let words := schedule block
  let final := (List.range 80).foldl
    (fun r t => r.step (roundConstants.getD t 0) (words.getD t 0)) (Registers.ofArray state)
  (state.toList.zipWith (· + ·) final.toList).toArray

def absorb (state : Array UInt64) (blocks : Nat) (bytes : List UInt8) : Array UInt64 :=
  match blocks with
  | 0 => state
  | blocks + 1 => absorb (compress state (bytes.take 128)) blocks (bytes.drop 128)

def digest (bytes : List UInt8) : Nat :=
  let padded := pad bytes
  (absorb initial (padded.length / 128) padded).foldl (fun n word => n * 2 ^ 64 + word.toNat) 0

end Gamebook.Sha512
