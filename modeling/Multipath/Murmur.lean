import Multipath.Octets

/-!
# The 32-bit Murmur hash

A non-cryptographic hash of a byte string under a 32-bit seed.

* The string is read as `blocks` of four bytes, least significant byte first, and a `tail` of the
  up to three bytes that remain.
* The state starts as the seed and takes up the blocks one by one (`mixBlock`), then the tail
  without a rotation, then the length of the string modulo `2 ^ 32`.
* `avalanche` spreads every bit of the state over the whole word.

Every single step is a bijection of the 32-bit words: multiplications are by odd constants, the
rest are rotations, additions and shifts folded back by exclusive or.  An empty tail is the word
zero, which `scramble` leaves alone, so it needs no case of its own.
-/

namespace Multipath.Murmur

/-- Rotation to the left by `r` bits, for `0 < r < 32`. -/
def rotateLeft (w r : UInt32) : UInt32 :=
  w <<< r ||| w >>> (32 - r)

/-- Exclusive or of a word with its own upper bits moved down by `s`. -/
def foldDown (w s : UInt32) : UInt32 :=
  w ^^^ (w >>> s)

/-- What a block contributes to the state. -/
def scramble (block : UInt32) : UInt32 :=
  rotateLeft (block * 0xcc9e2d51) 15 * 0x1b873593

/-- The state after one full block. -/
def mixBlock (state block : UInt32) : UInt32 :=
  rotateLeft (state ^^^ scramble block) 13 * 5 + 0xe6546b64

/-- The final mixing of the state. -/
def avalanche (state : UInt32) : UInt32 :=
  foldDown (foldDown (foldDown state 16 * 0x85ebca6b) 13 * 0xc2b2ae35) 16

/-- The full blocks of a byte string, in order. -/
def blocks : List UInt8 → List UInt32
  | a :: b :: c :: d :: rest => ofLittleEndian a b c d :: blocks rest
  | _ => []

/-- The bytes behind the last full block as one word; zero if there are none. -/
def tail : List UInt8 → UInt32
  | _ :: _ :: _ :: _ :: rest => tail rest
  | [a, b, c] => ofLittleEndian a b c 0
  | [a, b] => ofLittleEndian a b 0 0
  | [a] => ofLittleEndian a 0 0 0
  | [] => 0

/-- The hash of `bytes` under `seed`. -/
def hash (seed : UInt32) (bytes : List UInt8) : UInt32 :=
  avalanche
    ((blocks bytes).foldl mixBlock seed ^^^ scramble (tail bytes) ^^^ UInt32.ofNat bytes.length)

@[simp] theorem blocks_cons (a b c d : UInt8) (rest : List UInt8) :
    blocks (a :: b :: c :: d :: rest) = ofLittleEndian a b c d :: blocks rest := by
  simp only [blocks]

@[simp] theorem tail_cons (a b c d : UInt8) (rest : List UInt8) :
    tail (a :: b :: c :: d :: rest) = tail rest := by
  simp only [tail]

@[simp] theorem scramble_zero : scramble 0 = 0 := by decide

example : hash 0 [] = 0 := by decide

example : hash 1 [] = 0x514e28b7 := by decide

example : hash 0 [104, 101, 108, 108, 111] = 0x248bfa47 := by decide

end Multipath.Murmur
