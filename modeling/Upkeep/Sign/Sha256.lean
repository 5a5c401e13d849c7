import Upkeep.Text.Utf8

/-! The SHA-256 digest of a sequence of bytes, and the code that is made from it with a key:
the digest of the message under the inner pad, digested again under the outer pad. -/
namespace Upkeep.Sha256

/-- The first 32 bits of the fractions of the cube roots of the first 64 primes. -/
def roundWords : List UInt32 :=
  [0x428a2f98, 0x71374491, 0xb5c0fbcf, 0xe9b5dba5, 0x3956c25b, 0x59f111f1, 0x923f82a4,
    0xab1c5ed5, 0xd807aa98, 0x12835b01, 0x243185be, 0x550c7dc3, 0x72be5d74, 0x80deb1fe,
    0x9bdc06a7, 0xc19bf174, 0xe49b69c1, 0xefbe4786, 0x0fc19dc6, 0x240ca1cc, 0x2de92c6f,
    0x4a7484aa, 0x5cb0a9dc, 0x76f988da, 0x983e5152, 0xa831c66d, 0xb00327c8, 0xbf597fc7,
    0xc6e00bf3, 0xd5a79147, 0x06ca6351, 0x14292967, 0x27b70a85, 0x2e1b2138, 0x4d2c6dfc,
    0x53380d13, 0x650a7354, 0x766a0abb, 0x81c2c92e, 0x92722c85, 0xa2bfe8a1, 0xa81a664b,
    0xc24b8b70, 0xc76c51a3, 0xd192e819, 0xd6990624, 0xf40e3585, 0x106aa070, 0x19a4c116,
    0x1e376c08, 0x2748774c, 0x34b0bcb5, 0x391c0cb3, 0x4ed8aa4a, 0x5b9cca4f, 0x682e6ff3,
    0x748f82ee, 0x78a5636f, 0x84c87814, 0x8cc70208, 0x90befffa, 0xa4506ceb, 0xbef9a3f7,
    0xc67178f2]

/-- The first 32 bits of the fractions of the square roots of the first eight primes. -/
def firstState : List UInt32 :=
  [0x6a09e667, 0xbb67ae85, 0x3c6ef372, 0xa54ff53a, 0x510e527f, 0x9b05688c, 0x1f83d9ab,
    0x5be0cd19]

def turn (x n : UInt32) : UInt32 := (x >>> n) ||| (x <<< (32 - n))

/-- The word that comes sixteen places after the first word of a window. -/
def nextWord (window : List UInt32) : UInt32 :=
  let at_ := fun i => window.getD i 0
  let early := turn (at_ 1) 7 ^^^ turn (at_ 1) 18 ^^^ (at_ 1 >>> 3)
  let late := turn (at_ 14) 17 ^^^ turn (at_ 14) 19 ^^^ (at_ 14 >>> 10)
  at_ 0 + early + at_ 9 + late

/-- One round, on eight words of state. -/
def round (k w : UInt32) : List UInt32 → List UInt32
  | [a, b, c, d, e, f, g, h] =>
    let pick := (e &&& f) ^^^ (~~~e &&& g)
    let most := (a &&& b) ^^^ (a &&& c) ^^^ (b &&& c)
    let x := h + (turn e 6 ^^^ turn e 11 ^^^ turn e 25) + pick + k + w
    let y := (turn a 2 ^^^ turn a 13 ^^^ turn a 22) + most
    [x + y, a, b, c, d + x, e, f, g]
  | state => state

/-- A round for every round word, with a window of sixteen words that moves along. -/
def rounds : List UInt32 → List UInt32 → List UInt32 → List UInt32
  | k :: ks, w :: ws, state =>
    rounds ks (ws ++ [nextWord (w :: ws)]) (round k w state)
  | _, _, state => state

def absorb (state block : List UInt32) : List UInt32 :=
  List.zipWith (· + ·) state (rounds roundWords block state)

def wordsOf : List UInt8 → List UInt32
  | a :: b :: c :: d :: rest =>
    (a.toUInt32 <<< 24 ||| b.toUInt32 <<< 16 ||| c.toUInt32 <<< 8 ||| d.toUInt32) :: wordsOf rest
  | _ => []

/-- The last `k` bytes of a number, the highest first. -/
def bytesOf : Nat → Nat → List UInt8
  | 0, _ => []
  | k + 1, n => bytesOf k (n / 256) ++ [UInt8.ofNat n]

/-- The message, a mark, zeros up to a whole number of blocks, and its length in bits. -/
def padded (message : List UInt8) : List UInt8 :=
  let zeros := (119 - message.length % 64) % 64
  message ++ 0x80 :: List.replicate zeros 0 ++ bytesOf 8 (8 * message.length)

/-- Absorbs `n` blocks of sixteen words. -/
def absorbAll : Nat → List UInt32 → List UInt32 → List UInt32
  | 0, _, state => state
  | n + 1, words, state => absorbAll n (words.drop 16) (absorb state (words.take 16))

def digest (message : List UInt8) : List UInt8 :=
  let words := wordsOf (padded message)
  (absorbAll (words.length / 16) words firstState).flatMap fun w => bytesOf 4 w.toNat

/-- A key as one block: a long one is digested, a short one is filled up with zeros. -/
def keyBlock (key : List UInt8) : List UInt8 :=
  let key := if 64 < key.length then digest key else key
  key ++ List.replicate (64 - key.length) 0

/-- The code that shows that a message was written by one who has the key. -/
def keyed (key message : List UInt8) : List UInt8 :=
  let block := keyBlock key
  digest (block.map (· ^^^ 0x5c) ++ digest (block.map (· ^^^ 0x36) ++ message))

end Upkeep.Sha256
