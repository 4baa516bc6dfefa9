/-!
# The SHA-256 digest

The digest of a message: the message is padded to blocks of sixteen words, and every block is mixed
into a state of eight words in sixty-four rounds.
-/

namespace RestFlow.Sha256

/-- The constants added in the rounds: the first fractional bits of the cube roots of primes. -/
def roundConstants : List UInt32 := [
  0x428a2f98, 0x71374491, 0xb5c0fbcf, 0xe9b5dba5, 0x3956c25b, 0x59f111f1, 0x923f82a4, 0xab1c5ed5,
  0xd807aa98, 0x12835b01, 0x243185be, 0x550c7dc3, 0x72be5d74, 0x80deb1fe, 0x9bdc06a7, 0xc19bf174,
  0xe49b69c1, 0xefbe4786, 0x0fc19dc6, 0x240ca1cc, 0x2de92c6f, 0x4a7484aa, 0x5cb0a9dc, 0x76f988da,
  0x983e5152, 0xa831c66d, 0xb00327c8, 0xbf597fc7, 0xc6e00bf3, 0xd5a79147, 0x06ca6351, 0x14292967,
  0x27b70a85, 0x2e1b2138, 0x4d2c6dfc, 0x53380d13, 0x650a7354, 0x766a0abb, 0x81c2c92e, 0x92722c85,
  0xa2bfe8a1, 0xa81a664b, 0xc24b8b70, 0xc76c51a3, 0xd192e819, 0xd6990624, 0xf40e3585, 0x106aa070,
  0x19a4c116, 0x1e376c08, 0x2748774c, 0x34b0bcb5, 0x391c0cb3, 0x4ed8aa4a, 0x5b9cca4f, 0x682e6ff3,
  0x748f82ee, 0x78a5636f, 0x84c87814, 0x8cc70208, 0x90befffa, 0xa4506ceb, 0xbef9a3f7, 0xc67178f2]

/-- The eight words of the running digest. -/
structure State where
  a : UInt32
  b : UInt32
  c : UInt32
  d : UInt32
  e : UInt32
  f : UInt32
  g : UInt32
  h : UInt32

/-- The digest of nothing: the first fractional bits of the square roots of primes. -/
def initial : State :=
  ⟨0x6a09e667, 0xbb67ae85, 0x3c6ef372, 0xa54ff53a, 0x510e527f, 0x9b05688c, 0x1f83d9ab, 0x5be0cd19⟩

/-- Rotation to the right. -/
def rotate (x : UInt32) (n : UInt32) : UInt32 :=
  (x >>> n) ||| (x <<< (32 - n))

/-- One round with its constant and its word of the schedule. -/
def round (s : State) (k w : UInt32) : State :=
  let mixE := rotate s.e 6 ^^^ rotate s.e 11 ^^^ rotate s.e 25
  let choice := (s.e &&& s.f) ^^^ (~~~s.e &&& s.g)
  let first := s.h + mixE + choice + k + w
  let mixA := rotate s.a 2 ^^^ rotate s.a 13 ^^^ rotate s.a 22
  let majority := (s.a &&& s.b) ^^^ (s.a &&& s.c) ^^^ (s.b &&& s.c)
  ⟨first + (mixA + majority), s.a, s.b, s.c, s.d + first, s.e, s.f, s.g⟩

/-- Extend a schedule, latest word first, by `n` words. -/
def extend (schedule : List UInt32) : Nat → List UInt32
  | 0 => schedule
  | n + 1 =>
    let word (back : Nat) : UInt32 := schedule.getD (back - 1) 0
    let low := rotate (word 15) 7 ^^^ rotate (word 15) 18 ^^^ (word 15 >>> 3)
    let high := rotate (word 2) 17 ^^^ rotate (word 2) 19 ^^^ (word 2 >>> 10)
    extend ((word 16 + low + word 7 + high) :: schedule) n

/-- Word-wise sum of two states. -/
def State.add (s t : State) : State :=
  ⟨s.a + t.a, s.b + t.b, s.c + t.c, s.d + t.d, s.e + t.e, s.f + t.f, s.g + t.g, s.h + t.h⟩

/-- Mix a block of sixteen words into the state. -/
def absorb (s : State) (block : List UInt32) : State :=
  let schedule := (extend block.reverse 48).reverse
  s.add ((roundConstants.zip schedule).foldl (fun s kw => round s kw.1 kw.2) s)

/-- The `width` bytes of a number, highest first. -/
def bigEndian (width n : Nat) : List UInt8 :=
  (List.range width).reverse.map fun i => (n / Nat.pow 256 i).toUInt8

/-- The message, a one bit, zeros, and the number of its bits, to a multiple of 64 bytes. -/
def padded (message : List UInt8) : List UInt8 :=
  let zeros := (119 - message.length % 64) % 64
  message ++ 0x80 :: List.replicate zeros 0 ++ bigEndian 8 (8 * message.length)

/-- The words of a byte string, highest byte first. -/
def words : List UInt8 → List UInt32
  | a :: b :: c :: d :: rest =>
    (a.toUInt32 <<< 24 ||| b.toUInt32 <<< 16 ||| c.toUInt32 <<< 8 ||| d.toUInt32) :: words rest
  | _ => []

/-- The first `n` blocks of sixteen words. -/
def blocks (n : Nat) (ws : List UInt32) : List (List UInt32) :=
  (List.range n).map fun i => (ws.drop (16 * i)).take 16

/-- The digest of a message, as eight words. -/
def digest (message : List UInt8) : List UInt32 :=
  let ws := words (padded message)
  let s := (blocks (ws.length / 16) ws).foldl absorb initial
  [s.a, s.b, s.c, s.d, s.e, s.f, s.g, s.h]

/-- The eight hexadecimal digits of a word. -/
def hexDigits (w : UInt32) : List Char :=
  let digits := Nat.toDigits 16 w.toNat
  List.replicate (8 - digits.length) '0' ++ digits

/-- The digest of a text in hexadecimal. -/
def ofText (text : String) : String :=
  String.ofList ((digest text.toUTF8.toList).flatMap hexDigits)

end RestFlow.Sha256
