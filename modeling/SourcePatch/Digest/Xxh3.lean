/-!
# The XXH3 digest

The 64-bit digest XXH3 of a sequence of bytes, with seed 0 and the standard secret. Words are read
with the least significant byte first. Short inputs are mixed in one go, by a formula for each of
five ranges of lengths; longer ones in stripes of 64 bytes, 16 of which make a block.
-/

namespace SourcePatch.Xxh3

def secret : ByteArray := ⟨#[
  0xb8, 0xfe, 0x6c, 0x39, 0x23, 0xa4, 0x4b, 0xbe, 0x7c, 0x01, 0x81, 0x2c, 0xf7, 0x21, 0xad, 0x1c,
  0xde, 0xd4, 0x6d, 0xe9, 0x83, 0x90, 0x97, 0xdb, 0x72, 0x40, 0xa4, 0xa4, 0xb7, 0xb3, 0x67, 0x1f,
  0xcb, 0x79, 0xe6, 0x4e, 0xcc, 0xc0, 0xe5, 0x78, 0x82, 0x5a, 0xd0, 0x7d, 0xcc, 0xff, 0x72, 0x21,
  0xb8, 0x08, 0x46, 0x74, 0xf7, 0x43, 0x24, 0x8e, 0xe0, 0x35, 0x90, 0xe6, 0x81, 0x3a, 0x26, 0x4c,
  0x3c, 0x28, 0x52, 0xbb, 0x91, 0xc3, 0x00, 0xcb, 0x88, 0xd0, 0x65, 0x8b, 0x1b, 0x53, 0x2e, 0xa3,
  0x71, 0x64, 0x48, 0x97, 0xa2, 0x0d, 0xf9, 0x4e, 0x38, 0x19, 0xef, 0x46, 0xa9, 0xde, 0xac, 0xd8,
  0xa8, 0xfa, 0x76, 0x3f, 0xe3, 0x9c, 0x34, 0x3f, 0xf9, 0xdc, 0xbb, 0xc7, 0xc7, 0x0b, 0x4f, 0x1d,
  0x8a, 0x51, 0xe0, 0x4b, 0xcd, 0xb4, 0x59, 0x31, 0xc8, 0x9f, 0x7e, 0xc9, 0xd9, 0x78, 0x73, 0x64,
  0xea, 0xc5, 0xac, 0x83, 0x34, 0xd3, 0xeb, 0xc3, 0xc5, 0x81, 0xa0, 0xff, 0xfa, 0x13, 0x63, 0xeb,
  0x17, 0x0d, 0xdd, 0x51, 0xb7, 0xf0, 0xda, 0x49, 0xd3, 0x16, 0x55, 0x26, 0x29, 0xd4, 0x68, 0x9e,
  0x2b, 0x16, 0xbe, 0x58, 0x7d, 0x47, 0xa1, 0xfc, 0x8f, 0xf8, 0xb8, 0xd1, 0x7a, 0xd0, 0x31, 0xce,
  0x45, 0xcb, 0x3a, 0x8f, 0x95, 0x16, 0x04, 0x28, 0xaf, 0xd7, 0xfb, 0xca, 0xbb, 0x4b, 0x40, 0x7e]⟩

def prime32x1 : UInt64 := 0x9E3779B1
def prime32x2 : UInt64 := 0x85EBCA77
def prime32x3 : UInt64 := 0xC2B2AE3D
def prime64x1 : UInt64 := 0x9E3779B185EBCA87
def prime64x2 : UInt64 := 0xC2B2AE3D27D4EB4F
def prime64x3 : UInt64 := 0x165667B19E3779F9
def prime64x4 : UInt64 := 0x85EBCA77C2B2AE63
def prime64x5 : UInt64 := 0x27D4EB2F165667C5

/-- The byte at `i`; bytes past the end count as zero. -/
def byte (b : ByteArray) (i : Nat) : UInt64 := if h : i < b.size then b[i].toUInt64 else 0

def word32 (b : ByteArray) (i : Nat) : UInt64 :=
  byte b i ||| byte b (i + 1) <<< 8 ||| byte b (i + 2) <<< 16 ||| byte b (i + 3) <<< 24

def word64 (b : ByteArray) (i : Nat) : UInt64 := word32 b i ||| word32 b (i + 4) <<< 32

def rotateLeft (x k : UInt64) : UInt64 := x <<< k ||| x >>> (64 - k)

def swapBytes (x : UInt64) : UInt64 :=
  let shifts : List UInt64 := [0, 8, 16, 24, 32, 40, 48, 56]
  shifts.foldl (fun acc k => acc <<< 8 ||| x >>> k &&& 0xFF) 0

/-- The two halves of the full product, put together by exclusive or. -/
def foldProduct (x y : UInt64) : UInt64 :=
  let p := x.toNat * y.toNat
  UInt64.ofNat p ^^^ UInt64.ofNat (p >>> 64)

def scatter (h : UInt64) : UInt64 :=
  let h := (h ^^^ h >>> 33) * prime64x2
  let h := (h ^^^ h >>> 29) * prime64x3
  h ^^^ h >>> 32

def finish (h : UInt64) : UInt64 :=
  let h := (h ^^^ h >>> 37) * 0x165667919E3779F9
  h ^^^ h >>> 32

/-! ## Up to 240 bytes -/

def upTo3 (b : ByteArray) : UInt64 :=
  let n := b.size
  let mixed := byte b 0 <<< 16 ||| byte b (n / 2) <<< 24 ||| byte b (n - 1) ||| UInt64.ofNat n <<< 8
  scatter (mixed ^^^ (word32 secret 0 ^^^ word32 secret 4))

def upTo8 (b : ByteArray) : UInt64 :=
  let h := word32 b (b.size - 4) + word32 b 0 <<< 32
  let h := h ^^^ (word64 secret 8 ^^^ word64 secret 16)
  let h := (h ^^^ rotateLeft h 49 ^^^ rotateLeft h 24) * 0x9FB21C651E98DF25
  let h := (h ^^^ (h >>> 35 + .ofNat b.size)) * 0x9FB21C651E98DF25
  h ^^^ h >>> 28

def upTo16 (b : ByteArray) : UInt64 :=
  let lo := word64 b 0 ^^^ (word64 secret 24 ^^^ word64 secret 32)
  let hi := word64 b (b.size - 8) ^^^ (word64 secret 40 ^^^ word64 secret 48)
  finish (.ofNat b.size + swapBytes lo + hi + foldProduct lo hi)

/-- Mixes the 16 bytes at `i` with those of the secret at `k`. -/
def mix16 (b : ByteArray) (i k : Nat) : UInt64 :=
  foldProduct (word64 b i ^^^ word64 secret k) (word64 b (i + 8) ^^^ word64 secret (k + 8))

/-- Up to 128 bytes: pieces of 16 bytes from both ends. -/
def upTo128 (b : ByteArray) : UInt64 :=
  let pair (k : Nat) : UInt64 :=
    mix16 b (16 * k) (32 * k) + mix16 b (b.size - 16 * (k + 1)) (32 * k + 16)
  finish <| ((List.range 4).filter fun k => k = 0 ∨ 32 * k < b.size).foldl (· + pair ·)
    (.ofNat b.size * prime64x1)

def upTo240 (b : ByteArray) : UInt64 :=
  let first := (List.range 8).foldl (fun acc i => acc + mix16 b (16 * i) (16 * i))
    (.ofNat b.size * prime64x1)
  let rest := (List.range (b.size / 16 - 8)).foldl
    (fun acc i => acc + mix16 b (16 * (i + 8)) (16 * i + 3)) (finish first)
  finish (rest + mix16 b (b.size - 16) 119)

/-! ## Longer inputs -/

/-- The eight accumulators. -/
abbrev Lanes := Array UInt64

def Lanes.initial : Lanes :=
  #[prime32x3, prime64x1, prime64x2, prime64x3, prime64x4, prime32x2, prime64x5, prime32x1]

def Lanes.get (a : Lanes) (i : Nat) : UInt64 := a.getD i 0

/-- Takes in the stripe at `i`, with the secret from `k` on. Each lane gets its own word mixed with
the secret, and its neighbour's word as it is. -/
def Lanes.stripe (a : Lanes) (b : ByteArray) (i k : Nat) : Lanes :=
  .ofFn fun lane : Fin 8 =>
    let own := word64 b (i + 8 * lane) ^^^ word64 secret (k + 8 * lane)
    let neighbour := word64 b (i + 8 * (lane.val ^^^ 1))
    let low : UInt64 := own &&& 0xFFFFFFFF
    a.get lane + neighbour + low * own >>> 32

def Lanes.stripes (a : Lanes) (b : ByteArray) (start count : Nat) : Lanes :=
  (List.range count).foldl (fun a i => a.stripe b (start + 64 * i) (8 * i)) a

def Lanes.scramble (a : Lanes) : Lanes :=
  .ofFn fun lane : Fin 8 =>
    let x := a.get lane
    (x ^^^ x >>> 47 ^^^ word64 secret (128 + 8 * lane)) * prime32x1

def Lanes.merge (a : Lanes) (size : Nat) : UInt64 :=
  finish <| (List.range 4).foldl (fun acc i =>
    acc + foldProduct (a.get (2 * i) ^^^ word64 secret (11 + 16 * i))
      (a.get (2 * i + 1) ^^^ word64 secret (19 + 16 * i))) (.ofNat size * prime64x1)

/-- The last stripe ends with the input, whether or not it overlaps the one before. -/
def long (b : ByteArray) : UInt64 :=
  let blocks := (b.size - 1) / 1024
  let a := (List.range blocks).foldl
    (fun (a : Lanes) i => (a.stripes b (1024 * i) 16).scramble) .initial
  let a := a.stripes b (1024 * blocks) ((b.size - 1 - 1024 * blocks) / 64)
  (a.stripe b (b.size - 64) 121).merge b.size

/-- The digest of `b`. -/
def digest (b : ByteArray) : UInt64 :=
  if b.size = 0 then scatter (word64 secret 56 ^^^ word64 secret 64)
  else if b.size ≤ 3 then upTo3 b
  else if b.size ≤ 8 then upTo8 b
  else if b.size ≤ 16 then upTo16 b
  else if b.size ≤ 128 then upTo128 b
  else if b.size ≤ 240 then upTo240 b
  else long b

end SourcePatch.Xxh3
