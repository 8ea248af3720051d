import PalBeacon.Lib.Text

namespace PalBeacon.Lib.Sha256

def roundConstants : List Nat :=
  [0x428a2f98, 0x71374491, 0xb5c0fbcf, 0xe9b5dba5, 0x3956c25b, 0x59f111f1, 0x923f82a4, 0xab1c5ed5,
    0xd807aa98, 0x12835b01, 0x243185be, 0x550c7dc3, 0x72be5d74, 0x80deb1fe, 0x9bdc06a7, 0xc19bf174,
    0xe49b69c1, 0xefbe4786, 0x0fc19dc6, 0x240ca1cc, 0x2de92c6f, 0x4a7484aa, 0x5cb0a9dc, 0x76f988da,
    0x983e5152, 0xa831c66d, 0xb00327c8, 0xbf597fc7, 0xc6e00bf3, 0xd5a79147, 0x06ca6351, 0x14292967,
    0x27b70a85, 0x2e1b2138, 0x4d2c6dfc, 0x53380d13, 0x650a7354, 0x766a0abb, 0x81c2c92e, 0x92722c85,
    0xa2bfe8a1, 0xa81a664b, 0xc24b8b70, 0xc76c51a3, 0xd192e819, 0xd6990624, 0xf40e3585, 0x106aa070,
    0x19a4c116, 0x1e376c08, 0x2748774c, 0x34b0bcb5, 0x391c0cb3, 0x4ed8aa4a, 0x5b9cca4f, 0x682e6ff3,
    0x748f82ee, 0x78a5636f, 0x84c87814, 0x8cc70208, 0x90befffa, 0xa4506ceb, 0xbef9a3f7, 0xc67178f2]

structure State where
  a : Nat
  b : Nat
  c : Nat
  d : Nat
  e : Nat
  f : Nat
  g : Nat
  h : Nat

def State.initial : State :=
  ⟨0x6a09e667, 0xbb67ae85, 0x3c6ef372, 0xa54ff53a,
    0x510e527f, 0x9b05688c, 0x1f83d9ab, 0x5be0cd19⟩

def rotateRight (x n : Nat) : Nat := (x >>> n ||| x <<< (32 - n)) % 2 ^ 32

/-- The message schedule, the newest word first. -/
def extend : Nat → List Nat → List Nat
  | 0, words => words
  | n + 1, words =>
    let w₁₅ := words.getD 14 0
    let w₂ := words.getD 1 0
    let s₀ := rotateRight w₁₅ 7 ^^^ rotateRight w₁₅ 18 ^^^ w₁₅ >>> 3
    let s₁ := rotateRight w₂ 17 ^^^ rotateRight w₂ 19 ^^^ w₂ >>> 10
    extend n ((words.getD 15 0 + s₀ + words.getD 6 0 + s₁) % 2 ^ 32 :: words)

def round (s : State) (input : Nat × Nat) : State :=
  let s₁ := rotateRight s.e 6 ^^^ rotateRight s.e 11 ^^^ rotateRight s.e 25
  let choice := s.e &&& s.f ^^^ (s.e ^^^ 0xffffffff) &&& s.g
  let t₁ := s.h + s₁ + choice + input.1 + input.2
  let s₀ := rotateRight s.a 2 ^^^ rotateRight s.a 13 ^^^ rotateRight s.a 22
  let majority := s.a &&& s.b ^^^ s.a &&& s.c ^^^ s.b &&& s.c
  ⟨(t₁ + s₀ + majority) % 2 ^ 32, s.a, s.b, s.c, (s.d + t₁) % 2 ^ 32, s.e, s.f, s.g⟩

def compress (s : State) (block : List Nat) : State :=
  let t := (roundConstants.zip (extend 48 block.reverse).reverse).foldl round s
  ⟨(s.a + t.a) % 2 ^ 32, (s.b + t.b) % 2 ^ 32, (s.c + t.c) % 2 ^ 32, (s.d + t.d) % 2 ^ 32,
    (s.e + t.e) % 2 ^ 32, (s.f + t.f) % 2 ^ 32, (s.g + t.g) % 2 ^ 32, (s.h + t.h) % 2 ^ 32⟩

def words : List UInt8 → List Nat
  | a :: b :: c :: d :: rest =>
    (((a.toNat * 256 + b.toNat) * 256 + c.toNat) * 256 + d.toNat) :: words rest
  | _ => []

def bigEndian (length n : Nat) : List UInt8 :=
  (List.range length).reverse.map fun i => .ofNat (n / 256 ^ i % 256)

def pad (message : List UInt8) : List UInt8 :=
  message ++ 128 :: List.replicate ((119 - message.length % 64) % 64) 0 ++
    bigEndian 8 (message.length * 8)

def compressBlocks : Nat → List Nat → State → State
  | 0, _, s => s
  | n + 1, words, s => compressBlocks n (words.drop 16) (compress s (words.take 16))

def digest (message : List UInt8) : List UInt8 :=
  let padded := pad message
  let s := compressBlocks (padded.length / 64) (words padded) .initial
  [s.a, s.b, s.c, s.d, s.e, s.f, s.g, s.h].flatMap (bigEndian 4)

example : digest (utf8 "abc") =
    [0xba, 0x78, 0x16, 0xbf, 0x8f, 0x01, 0xcf, 0xea, 0x41, 0x41, 0x40, 0xde, 0x5d, 0xae, 0x22, 0x23,
      0xb0, 0x03, 0x61, 0xa3, 0x96, 0x17, 0x7a, 0x9c, 0xb4, 0x10, 0xff, 0x61, 0xf2, 0x00, 0x15,
        0xad] := by
  decide

end PalBeacon.Lib.Sha256
