import PeFacts.Bytes

/-!
# Message digests

MD5, SHA-1 and SHA-256. Each pads the message to whole blocks of sixteen 32-bit words and folds
its compression function over the blocks; `md5`, `sha1` and `sha256` give the digest in
hexadecimal.
-/

namespace PeFacts.Digest

/-- The bits of `x` turned left by `n` places. -/
def rotateLeft (x : UInt32) (n : Nat) : UInt32 :=
  (x <<< n.toUInt32) ||| (x >>> (32 - n).toUInt32)

/-- The bits of `x` turned right by `n` places. -/
def rotateRight (x : UInt32) (n : Nat) : UInt32 := rotateLeft x (32 - n)

/-- `n` as eight bytes, least first. -/
def lengthBytes (n : Nat) : Bytes := ((List.range 8).map fun i => (n >>> (8 * i)).toUInt8).toArray

/-- The message, a one bit, zeros up to eight bytes before the end of a block, and the message's
length in bits. -/
def padded (message : Bytes) (bigEndian : Bool) : Bytes :=
  let zeros := (119 - message.size % 64) % 64
  let length := lengthBytes (8 * message.size)
  (message.push 0x80) ++ Array.replicate zeros 0 ++ (if bigEndian then length.reverse else length)

/-- The 32-bit word at `off`. -/
def word (data : Bytes) (bigEndian : Bool) (off : Nat) : UInt32 :=
  let b := fun i => (data.getD (off + i) 0).toUInt32
  if bigEndian then (b 0 <<< 24) ||| (b 1 <<< 16) ||| (b 2 <<< 8) ||| b 3
  else b 0 ||| (b 1 <<< 8) ||| (b 2 <<< 16) ||| (b 3 <<< 24)

/-- The sixteen words of the block at `off`. -/
def block (data : Bytes) (bigEndian : Bool) (off : Nat) : Array UInt32 :=
  (Array.range 16).map fun i => word data bigEndian (off + 4 * i)

/-- A step folded over the blocks of the padded message. -/
def overBlocks {σ : Type} (message : Bytes) (bigEndian : Bool) (step : σ → Array UInt32 → σ)
    (start : σ) : σ :=
  let data := padded message bigEndian
  (Array.range (data.size / 64)).foldl (fun s i => step s (block data bigEndian (64 * i))) start

/-- The four bytes of a word in hexadecimal. -/
def wordHex (bigEndian : Bool) (w : UInt32) : String :=
  let bytes : Bytes := #[(w >>> 24).toUInt8, (w >>> 16).toUInt8, (w >>> 8).toUInt8, w.toUInt8]
  Bytes.hex (if bigEndian then bytes else bytes.reverse)

/-- Four words. -/
structure Four where
  a : UInt32
  b : UInt32
  c : UInt32
  d : UInt32

/-- The additive constants of MD5: the sines of 1 to 64, scaled to 32 bits. -/
def sines : Array UInt32 := #[
  0xd76aa478, 0xe8c7b756, 0x242070db, 0xc1bdceee, 0xf57c0faf, 0x4787c62a,
  0xa8304613, 0xfd469501, 0x698098d8, 0x8b44f7af, 0xffff5bb1, 0x895cd7be,
  0x6b901122, 0xfd987193, 0xa679438e, 0x49b40821, 0xf61e2562, 0xc040b340,
  0x265e5a51, 0xe9b6c7aa, 0xd62f105d, 0x02441453, 0xd8a1e681, 0xe7d3fbc8,
  0x21e1cde6, 0xc33707d6, 0xf4d50d87, 0x455a14ed, 0xa9e3e905, 0xfcefa3f8,
  0x676f02d9, 0x8d2a4c8a, 0xfffa3942, 0x8771f681, 0x6d9d6122, 0xfde5380c,
  0xa4beea44, 0x4bdecfa9, 0xf6bb4b60, 0xbebfbc70, 0x289b7ec6, 0xeaa127fa,
  0xd4ef3085, 0x04881d05, 0xd9d4d039, 0xe6db99e5, 0x1fa27cf8, 0xc4ac5665,
  0xf4292244, 0x432aff97, 0xab9423a7, 0xfc93a039, 0x655b59c3, 0x8f0ccc92,
  0xffeff47d, 0x85845dd1, 0x6fa87e4f, 0xfe2ce6e0, 0xa3014314, 0x4e0811a1,
  0xf7537e82, 0xbd3af235, 0x2ad7d2bb, 0xeb86d391]

/-- The rotations of MD5, four for each of its four rounds. -/
def md5Turns : Array Nat := #[7, 12, 17, 22, 5, 9, 14, 20, 4, 11, 16, 23, 6, 10, 15, 21]

/-- Step `i` of MD5 on a block. -/
def md5Step (words : Array UInt32) (s : Four) (i : Nat) : Four :=
  let (f, g) :=
    if i < 16 then ((s.b &&& s.c) ||| ((s.b ^^^ 0xffffffff) &&& s.d), i)
    else if i < 32 then ((s.d &&& s.b) ||| ((s.d ^^^ 0xffffffff) &&& s.c), (5 * i + 1) % 16)
    else if i < 48 then (s.b ^^^ s.c ^^^ s.d, (3 * i + 5) % 16)
    else (s.c ^^^ (s.b ||| (s.d ^^^ 0xffffffff)), (7 * i) % 16)
  let sum := s.a + f + sines.getD i 0 + words.getD g 0
  ⟨s.d, s.b + rotateLeft sum (md5Turns.getD (4 * (i / 16) + i % 4) 0), s.b, s.c⟩

/-- MD5 on one block. -/
def md5Block (s : Four) (words : Array UInt32) : Four :=
  let t := (Array.range 64).foldl (md5Step words) s
  ⟨s.a + t.a, s.b + t.b, s.c + t.c, s.d + t.d⟩

/-- The MD5 digest. -/
def md5 (message : Bytes) : String :=
  let s := overBlocks message false md5Block ⟨0x67452301, 0xefcdab89, 0x98badcfe, 0x10325476⟩
  String.join ([s.a, s.b, s.c, s.d].map (wordHex false))

/-- Five words. -/
structure Five where
  a : UInt32
  b : UInt32
  c : UInt32
  d : UInt32
  e : UInt32

/-- The words of a block, extended to eighty for SHA-1. -/
def sha1Schedule (words : Array UInt32) : Array UInt32 :=
  (Array.range 64).foldl (fun w i =>
    w.push (rotateLeft
      (w.getD (i + 13) 0 ^^^ w.getD (i + 8) 0 ^^^ w.getD (i + 2) 0 ^^^ w.getD i 0) 1)) words

/-- Step `i` of SHA-1. -/
def sha1Step (w : Array UInt32) (s : Five) (i : Nat) : Five :=
  let (f, k) :=
    if i < 20 then ((s.b &&& s.c) ||| ((s.b ^^^ 0xffffffff) &&& s.d), (0x5a827999 : UInt32))
    else if i < 40 then (s.b ^^^ s.c ^^^ s.d, 0x6ed9eba1)
    else if i < 60 then ((s.b &&& s.c) ||| (s.b &&& s.d) ||| (s.c &&& s.d), 0x8f1bbcdc)
    else (s.b ^^^ s.c ^^^ s.d, 0xca62c1d6)
  ⟨rotateLeft s.a 5 + f + s.e + k + w.getD i 0, s.a, rotateLeft s.b 30, s.c, s.d⟩

/-- SHA-1 on one block. -/
def sha1Block (s : Five) (words : Array UInt32) : Five :=
  let t := (Array.range 80).foldl (sha1Step (sha1Schedule words)) s
  ⟨s.a + t.a, s.b + t.b, s.c + t.c, s.d + t.d, s.e + t.e⟩

/-- The SHA-1 digest. -/
def sha1 (message : Bytes) : String :=
  let s := overBlocks message true sha1Block
    ⟨0x67452301, 0xefcdab89, 0x98badcfe, 0x10325476, 0xc3d2e1f0⟩
  String.join ([s.a, s.b, s.c, s.d, s.e].map (wordHex true))

/-- Eight words. -/
structure Eight where
  a : UInt32
  b : UInt32
  c : UInt32
  d : UInt32
  e : UInt32
  f : UInt32
  g : UInt32
  h : UInt32

/-- The additive constants of SHA-256: fractions of the cube roots of the first 64 primes. -/
def cubeRoots : Array UInt32 := #[
  0x428a2f98, 0x71374491, 0xb5c0fbcf, 0xe9b5dba5, 0x3956c25b, 0x59f111f1,
  0x923f82a4, 0xab1c5ed5, 0xd807aa98, 0x12835b01, 0x243185be, 0x550c7dc3,
  0x72be5d74, 0x80deb1fe, 0x9bdc06a7, 0xc19bf174, 0xe49b69c1, 0xefbe4786,
  0x0fc19dc6, 0x240ca1cc, 0x2de92c6f, 0x4a7484aa, 0x5cb0a9dc, 0x76f988da,
  0x983e5152, 0xa831c66d, 0xb00327c8, 0xbf597fc7, 0xc6e00bf3, 0xd5a79147,
  0x06ca6351, 0x14292967, 0x27b70a85, 0x2e1b2138, 0x4d2c6dfc, 0x53380d13,
  0x650a7354, 0x766a0abb, 0x81c2c92e, 0x92722c85, 0xa2bfe8a1, 0xa81a664b,
  0xc24b8b70, 0xc76c51a3, 0xd192e819, 0xd6990624, 0xf40e3585, 0x106aa070,
  0x19a4c116, 0x1e376c08, 0x2748774c, 0x34b0bcb5, 0x391c0cb3, 0x4ed8aa4a,
  0x5b9cca4f, 0x682e6ff3, 0x748f82ee, 0x78a5636f, 0x84c87814, 0x8cc70208,
  0x90befffa, 0xa4506ceb, 0xbef9a3f7, 0xc67178f2]

/-- The words of a block, extended to sixty-four for SHA-256. -/
def sha256Schedule (words : Array UInt32) : Array UInt32 :=
  (Array.range 48).foldl (fun w i =>
    let x := w.getD (i + 1) 0
    let y := w.getD (i + 14) 0
    let s0 := rotateRight x 7 ^^^ rotateRight x 18 ^^^ (x >>> 3)
    let s1 := rotateRight y 17 ^^^ rotateRight y 19 ^^^ (y >>> 10)
    w.push (w.getD i 0 + s0 + w.getD (i + 9) 0 + s1)) words

/-- Step `i` of SHA-256. -/
def sha256Step (w : Array UInt32) (s : Eight) (i : Nat) : Eight :=
  let s1 := rotateRight s.e 6 ^^^ rotateRight s.e 11 ^^^ rotateRight s.e 25
  let choice := (s.e &&& s.f) ^^^ ((s.e ^^^ 0xffffffff) &&& s.g)
  let t1 := s.h + s1 + choice + cubeRoots.getD i 0 + w.getD i 0
  let s0 := rotateRight s.a 2 ^^^ rotateRight s.a 13 ^^^ rotateRight s.a 22
  let majority := (s.a &&& s.b) ^^^ (s.a &&& s.c) ^^^ (s.b &&& s.c)
  ⟨t1 + s0 + majority, s.a, s.b, s.c, s.d + t1, s.e, s.f, s.g⟩

/-- SHA-256 on one block. -/
def sha256Block (s : Eight) (words : Array UInt32) : Eight :=
  let t := (Array.range 64).foldl (sha256Step (sha256Schedule words)) s
  ⟨s.a + t.a, s.b + t.b, s.c + t.c, s.d + t.d, s.e + t.e, s.f + t.f, s.g + t.g, s.h + t.h⟩

/-- The SHA-256 digest. -/
def sha256 (message : Bytes) : String :=
  let s := overBlocks message true sha256Block
    ⟨0x6a09e667, 0xbb67ae85, 0x3c6ef372, 0xa54ff53a, 0x510e527f, 0x9b05688c, 0x1f83d9ab, 0x5be0cd19⟩
  String.join ([s.a, s.b, s.c, s.d, s.e, s.f, s.g, s.h].map (wordHex true))

end PeFacts.Digest
