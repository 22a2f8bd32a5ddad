/-
The SHA-256 digest of a byte string.

The message is padded to whole blocks of sixteen words. Each block is
stretched to sixty-four words and mixed into eight chaining words. Round
constants and starting words are the leading fraction bits of the cube and
square roots of the first primes.
-/

import FloodMesh.Bytes

namespace FloodMesh.Sha256

abbrev Word := UInt32

def rotate (word : Word) (count : UInt32) : Word :=
  (word >>> count) ||| (word <<< (32 - count))

structure Chain where
  a : Word
  b : Word
  c : Word
  d : Word
  e : Word
  f : Word
  g : Word
  h : Word
  deriving DecidableEq

def start : Chain :=
  { a := 0x6a09e667, b := 0xbb67ae85, c := 0x3c6ef372, d := 0xa54ff53a,
    e := 0x510e527f, f := 0x9b05688c, g := 0x1f83d9ab, h := 0x5be0cd19 }

def roundConstants : List Word :=
  [ 0x428a2f98, 0x71374491, 0xb5c0fbcf, 0xe9b5dba5, 0x3956c25b, 0x59f111f1, 0x923f82a4, 0xab1c5ed5,
    0xd807aa98, 0x12835b01, 0x243185be, 0x550c7dc3, 0x72be5d74, 0x80deb1fe, 0x9bdc06a7, 0xc19bf174,
    0xe49b69c1, 0xefbe4786, 0x0fc19dc6, 0x240ca1cc, 0x2de92c6f, 0x4a7484aa, 0x5cb0a9dc, 0x76f988da,
    0x983e5152, 0xa831c66d, 0xb00327c8, 0xbf597fc7, 0xc6e00bf3, 0xd5a79147, 0x06ca6351, 0x14292967,
    0x27b70a85, 0x2e1b2138, 0x4d2c6dfc, 0x53380d13, 0x650a7354, 0x766a0abb, 0x81c2c92e, 0x92722c85,
    0xa2bfe8a1, 0xa81a664b, 0xc24b8b70, 0xc76c51a3, 0xd192e819, 0xd6990624, 0xf40e3585, 0x106aa070,
    0x19a4c116, 0x1e376c08, 0x2748774c, 0x34b0bcb5, 0x391c0cb3, 0x4ed8aa4a, 0x5b9cca4f, 0x682e6ff3,
    0x748f82ee, 0x78a5636f, 0x84c87814, 0x8cc70208, 0x90befffa, 0xa4506ceb, 0xbef9a3f7, 0xc67178f2 ]

/-- The next word from the sixteen before it, newest first. -/
def stretched (newestFirst : List Word) : Word :=
  match newestFirst with
  | [_, w2, _, _, _, _, w7, _, _, _, _, _, _, _, w15, w16] =>
      let small0 := rotate w15 7 ^^^ rotate w15 18 ^^^ (w15 >>> 3)
      let small1 := rotate w2 17 ^^^ rotate w2 19 ^^^ (w2 >>> 10)
      small1 + w7 + small0 + w16
  | _ => 0

/-- All words of a block's schedule after the sixteen given ones. -/
def extend : Nat → List Word → List Word
  | 0, _ => []
  | more + 1, newestFirst =>
      let word := stretched newestFirst
      word :: extend more (word :: newestFirst.take 15)

def schedule (block : List Word) : List Word := block ++ extend 48 block.reverse

def mix (chain : Chain) (constantAndWord : Word × Word) : Chain :=
  let big1 := rotate chain.e 6 ^^^ rotate chain.e 11 ^^^ rotate chain.e 25
  let choice := (chain.e &&& chain.f) ^^^ (~~~chain.e &&& chain.g)
  let first := chain.h + big1 + choice + constantAndWord.1 + constantAndWord.2
  let big0 := rotate chain.a 2 ^^^ rotate chain.a 13 ^^^ rotate chain.a 22
  let majority := (chain.a &&& chain.b) ^^^ (chain.a &&& chain.c) ^^^ (chain.b &&& chain.c)
  { a := first + (big0 + majority), b := chain.a, c := chain.b, d := chain.c,
    e := chain.d + first, f := chain.e, g := chain.f, h := chain.g }

def compress (chain : Chain) (block : List Word) : Chain :=
  let mixed := (roundConstants.zip (schedule block)).foldl mix chain
  { a := chain.a + mixed.a, b := chain.b + mixed.b, c := chain.c + mixed.c,
    d := chain.d + mixed.d, e := chain.e + mixed.e, f := chain.f + mixed.f,
    g := chain.g + mixed.g, h := chain.h + mixed.h }

def bigEndian (width value : Nat) : Bytes :=
  (List.range width).map fun place => UInt8.ofNat (value / Nat.pow 256 (width - 1 - place))

/-- A one bit, zeros up to eight bytes short of a block, and the bit count. -/
def padded (data : Bytes) : Bytes :=
  let zeros := (119 - data.length % 64) % 64
  data ++ [0x80] ++ List.replicate zeros 0 ++ bigEndian 8 (8 * data.length)

def words : Bytes → List Word
  | b0 :: b1 :: b2 :: b3 :: rest =>
      UInt32.ofNat (((b0.toNat * 256 + b1.toNat) * 256 + b2.toNat) * 256 + b3.toNat) ::
        words rest
  | _ => []

def blocks (count : Nat) (stream : List Word) : List (List Word) :=
  match count with
  | 0 => []
  | count + 1 => stream.take 16 :: blocks count (stream.drop 16)

def Chain.bytes (chain : Chain) : Bytes :=
  [chain.a, chain.b, chain.c, chain.d, chain.e, chain.f, chain.g, chain.h].flatMap
    fun word => bigEndian 4 word.toNat

theorem Chain.length_bytes (chain : Chain) : chain.bytes.length = 32 := by
  simp [Chain.bytes, bigEndian]

def digest (data : Bytes) : Bytes :=
  let stream := padded data
  ((blocks (stream.length / 64) (words stream)).foldl compress start).bytes

theorem length_digest (data : Bytes) : (digest data).length = 32 :=
  Chain.length_bytes _

end FloodMesh.Sha256
