import FuturesAgentOs.PyModel.Text

namespace PyModel

/-!
# Digests

`hashlib.sha256` is used here for what it is compared by: a function from bytes to 256-bit
digests.  Everything proved over the class holds for every such function.
-/

/-- A 256-bit digest. -/
abbrev Digest := Fin (2 ^ 256)

/-- `digest.hexdigest()` -/
def Digest.hexdigest (d : Digest) : Text := Text.hex 64 d.val

theorem Digest.isHexDigest_hexdigest (d : Digest) : d.hexdigest.IsHexDigest :=
  ⟨Text.length_hex 64 d.val, Text.all_isHexDigit_hex 64 d.val⟩

/-- The hash function of the runtime. -/
class Hashlib where
  /-- `hashlib.sha256(data).digest()` -/
  sha256 : List Text.Byte → Digest

export Hashlib (sha256)

/-!
## SHA-256

The function that `hashlib.sha256` computes, on words below `2 ^ 32`.  No theorem needs it; the
runs on concrete inputs do.

* `digest` — padding, all blocks, and the digest.
-/

namespace Sha256

/-- A 32-bit word. -/
abbrev Word := ℕ

/-- Addition of words. -/
def add (x y : Word) : Word := (x + y) % 2 ^ 32

/-- Rotation of a word to the right. -/
def rotr (k : ℕ) (x : Word) : Word := (x >>> k) ||| ((x <<< (32 - k)) % 2 ^ 32)

/-- The first 32 bits of the fractional parts of the cube roots of the first 64 primes. -/
def roundConstants : List Word := [
  0x428a2f98, 0x71374491, 0xb5c0fbcf, 0xe9b5dba5, 0x3956c25b, 0x59f111f1, 0x923f82a4, 0xab1c5ed5,
  0xd807aa98, 0x12835b01, 0x243185be, 0x550c7dc3, 0x72be5d74, 0x80deb1fe, 0x9bdc06a7, 0xc19bf174,
  0xe49b69c1, 0xefbe4786, 0x0fc19dc6, 0x240ca1cc, 0x2de92c6f, 0x4a7484aa, 0x5cb0a9dc, 0x76f988da,
  0x983e5152, 0xa831c66d, 0xb00327c8, 0xbf597fc7, 0xc6e00bf3, 0xd5a79147, 0x06ca6351, 0x14292967,
  0x27b70a85, 0x2e1b2138, 0x4d2c6dfc, 0x53380d13, 0x650a7354, 0x766a0abb, 0x81c2c92e, 0x92722c85,
  0xa2bfe8a1, 0xa81a664b, 0xc24b8b70, 0xc76c51a3, 0xd192e819, 0xd6990624, 0xf40e3585, 0x106aa070,
  0x19a4c116, 0x1e376c08, 0x2748774c, 0x34b0bcb5, 0x391c0cb3, 0x4ed8aa4a, 0x5b9cca4f, 0x682e6ff3,
  0x748f82ee, 0x78a5636f, 0x84c87814, 0x8cc70208, 0x90befffa, 0xa4506ceb, 0xbef9a3f7, 0xc67178f2]

/-- The eight working words. -/
structure State where
  a : Word
  b : Word
  c : Word
  d : Word
  e : Word
  f : Word
  g : Word
  h : Word
  deriving DecidableEq

/-- The first 32 bits of the fractional parts of the square roots of the first 8 primes. -/
def initial : State where
  a := 0x6a09e667
  b := 0xbb67ae85
  c := 0x3c6ef372
  d := 0xa54ff53a
  e := 0x510e527f
  f := 0x9b05688c
  g := 0x1f83d9ab
  h := 0x5be0cd19

/-- One round, with the sum of its constant and its word. -/
def round (s : State) (kw : Word) : State :=
  let s1 := rotr 6 s.e ^^^ rotr 11 s.e ^^^ rotr 25 s.e
  -- `e` chooses between `f` and `g`
  let ch := (s.e &&& s.f) ^^^ ((0xffffffff ^^^ s.e) &&& s.g)
  let t1 := (s.h + s1 + ch + kw) % 2 ^ 32
  let s0 := rotr 2 s.a ^^^ rotr 13 s.a ^^^ rotr 22 s.a
  let maj := (s.a &&& s.b) ^^^ (s.a &&& s.c) ^^^ (s.b &&& s.c)
  { a := (t1 + s0 + maj) % 2 ^ 32
    b := s.a
    c := s.b
    d := s.c
    e := add s.d t1
    f := s.e
    g := s.f
    h := s.g }

/-- The next word of the schedule, from the sixteen before it. -/
def nextWord (ws : List Word) : Word :=
  let w15 := ws.getD 1 0
  let w2 := ws.getD 14 0
  let s0 := rotr 7 w15 ^^^ rotr 18 w15 ^^^ (w15 >>> 3)
  let s1 := rotr 17 w2 ^^^ rotr 19 w2 ^^^ (w2 >>> 10)
  (ws.getD 0 0 + s0 + ws.getD 9 0 + s1) % 2 ^ 32

/-- The rounds of a block: a round reads the first of the sixteen words in the window, which
then moves on by one. -/
def rounds : List Word → List Word → State → State
  | [], _, s => s
  | k :: ks, ws, s => rounds ks (ws.tail ++ [nextWord ws]) (round s (add k (ws.getD 0 0)))

/-- The working words after a block of sixteen words. -/
def compress (s : State) (block : List Word) : State :=
  let t := rounds roundConstants block s
  { a := add s.a t.a
    b := add s.b t.b
    c := add s.c t.c
    d := add s.d t.d
    e := add s.e t.e
    f := add s.f t.f
    g := add s.g t.g
    h := add s.h t.h }

/-- A big-endian number of bytes. -/
def ofBytes (bytes : List Text.Byte) : ℕ := bytes.foldl (fun n b => 256 * n + b.val) 0

/-- The message with a one bit, zeros, and its length in bits in 64 bits. -/
def padded (message : List Text.Byte) : List Text.Byte :=
  let zeros := (119 - message.length % 64) % 64
  let length := 8 * message.length
  message ++ 0x80 :: List.replicate zeros 0
    ++ (List.range 8).map (fun i => ⟨length / 256 ^ (7 - i) % 256, Nat.mod_lt _ (by decide)⟩)

/-- All words of a padded message, `n` of them. -/
def words : ℕ → List Text.Byte → List Word
  | 0, _ => []
  | n + 1, bytes => ofBytes (bytes.take 4) :: words n (bytes.drop 4)

/-- The working words after `n` blocks. -/
def blocks : ℕ → List Word → State → State
  | 0, _, s => s
  | n + 1, ws, s => blocks n (ws.drop 16) (compress s (ws.take 16))

/-- The digest of a message. -/
def digest (message : List Text.Byte) : Digest :=
  let bytes := padded message
  let s := blocks (bytes.length / 64) (words (bytes.length / 4) bytes) initial
  let value := [s.a, s.b, s.c, s.d, s.e, s.f, s.g, s.h].foldl (fun n w => 2 ^ 32 * n + w) 0
  ⟨value % 2 ^ 256, Nat.mod_lt _ (by decide)⟩

end Sha256

/-- The hash function of the Python runtime. -/
instance : Hashlib := ⟨Sha256.digest⟩

end PyModel
