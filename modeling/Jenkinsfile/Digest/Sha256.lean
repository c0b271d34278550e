/-
# SHA-256

The hash function of FIPS 180-4: the message is padded to blocks of 64 bytes, and each block is
compressed into the eight words of the state by 64 rounds over its message schedule.
-/
import Jenkinsfile.Text.Basic

namespace Jenkinsfile.Sha256

/-! ## 1. Words -/

/-- A word rotated right by `n` bits. -/
def rotr (x : UInt32) (n : UInt32) : UInt32 := (x >>> n) ||| (x <<< (32 - n))

/-- The word of four bytes, the most significant first. -/
def wordOf (a b c d : UInt8) : UInt32 :=
  (a.toUInt32 <<< 24) ||| (b.toUInt32 <<< 16) ||| (c.toUInt32 <<< 8) ||| d.toUInt32

/-- Bytes read as words. -/
def wordsOf : List UInt8 → List UInt32
  | a :: b :: c :: d :: bytes => wordOf a b c d :: wordsOf bytes
  | _ => []

/-- The first 32 bits of the fractional parts of the square roots of the first 8 primes. -/
def initial : List UInt32 :=
  [0x6a09e667, 0xbb67ae85, 0x3c6ef372, 0xa54ff53a, 0x510e527f, 0x9b05688c, 0x1f83d9ab, 0x5be0cd19]

/-- The first 32 bits of the fractional parts of the cube roots of the first 64 primes. -/
def roundConstants : List UInt32 :=
  [0x428a2f98, 0x71374491, 0xb5c0fbcf, 0xe9b5dba5, 0x3956c25b, 0x59f111f1, 0x923f82a4, 0xab1c5ed5,
   0xd807aa98, 0x12835b01, 0x243185be, 0x550c7dc3, 0x72be5d74, 0x80deb1fe, 0x9bdc06a7, 0xc19bf174,
   0xe49b69c1, 0xefbe4786, 0x0fc19dc6, 0x240ca1cc, 0x2de92c6f, 0x4a7484aa, 0x5cb0a9dc, 0x76f988da,
   0x983e5152, 0xa831c66d, 0xb00327c8, 0xbf597fc7, 0xc6e00bf3, 0xd5a79147, 0x06ca6351, 0x14292967,
   0x27b70a85, 0x2e1b2138, 0x4d2c6dfc, 0x53380d13, 0x650a7354, 0x766a0abb, 0x81c2c92e, 0x92722c85,
   0xa2bfe8a1, 0xa81a664b, 0xc24b8b70, 0xc76c51a3, 0xd192e819, 0xd6990624, 0xf40e3585, 0x106aa070,
   0x19a4c116, 0x1e376c08, 0x2748774c, 0x34b0bcb5, 0x391c0cb3, 0x4ed8aa4a, 0x5b9cca4f, 0x682e6ff3,
   0x748f82ee, 0x78a5636f, 0x84c87814, 0x8cc70208, 0x90befffa, 0xa4506ceb, 0xbef9a3f7, 0xc67178f2]

/-! ## 2. Padding -/

/-- A number as `n` bytes, the most significant first. -/
def bytesOf : (n value : Nat) → List UInt8
  | 0, _ => []
  | n + 1, value => bytesOf n (value / 256) ++ [UInt8.ofNat (value % 256)]

/-- The message, the byte 0x80, zeros up to 8 bytes before the end of a block, and the length of
the message in bits. -/
def padded (message : List UInt8) : List UInt8 :=
  let zeros := (119 - message.length % 64) % 64
  message ++ 0x80 :: List.replicate zeros 0 ++ bytesOf 8 (8 * message.length)

/-! ## 3. Compression -/

/-- Adds `n` words to a schedule held latest word first. -/
def extendSchedule : (n : Nat) → List UInt32 → List UInt32
  | 0, words => words
  | n + 1, words =>
    let word (back : Nat) := words.getD (back - 1) 0
    let s0 := rotr (word 15) 7 ^^^ rotr (word 15) 18 ^^^ (word 15 >>> 3)
    let s1 := rotr (word 2) 17 ^^^ rotr (word 2) 19 ^^^ (word 2 >>> 10)
    extendSchedule n ((word 16 + s0 + word 7 + s1) :: words)

/-- The 64 words that the rounds over a block use. -/
def schedule (block : List UInt32) : List UInt32 := (extendSchedule 48 block.reverse).reverse

/-- One round, with its schedule word and its constant. -/
def round (state : List UInt32) (w : UInt32 × UInt32) : List UInt32 :=
  match state with
  | [a, b, c, d, e, f, g, h] =>
    let s1 := rotr e 6 ^^^ rotr e 11 ^^^ rotr e 25
    let choice := (e &&& f) ^^^ (~~~e &&& g)
    let t1 := h + s1 + choice + w.2 + w.1
    let s0 := rotr a 2 ^^^ rotr a 13 ^^^ rotr a 22
    let majority := (a &&& b) ^^^ (a &&& c) ^^^ (b &&& c)
    [t1 + (s0 + majority), a, b, c, d + t1, e, f, g]
  | _ => state

/-- The state after a block. -/
def compress (state block : List UInt32) : List UInt32 :=
  List.zipWith (· + ·) state (((schedule block).zip roundConstants).foldl round state)

/-- The state after `n` blocks of 16 words. -/
def absorb : (n : Nat) → (state words : List UInt32) → List UInt32
  | 0, state, _ => state
  | n + 1, state, words => absorb n (compress state (words.take 16)) (words.drop 16)

/-! ## 4. The digest -/

/-- The eight words of the digest. -/
def digest (message : List UInt8) : List UInt32 :=
  let words := wordsOf (padded message)
  absorb (words.length / 16) initial words

/-- The digest in hexadecimal. -/
def hexDigest (message : List UInt8) : Text := (digest message).flatMap fun w => Text.hex 8 w.toNat

end Jenkinsfile.Sha256
