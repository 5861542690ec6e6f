/-
  This file defines the digest of bytes by the secure hash
  algorithm of 160 bits.  The message is padded to blocks of
  64 bytes, each block is expanded to eighty words, and the
  five words of the state take one step per word.

  Key definitions include:
    * `Sha1.pad`
    * `Sha1.expand`
    * `Sha1.step`
    * `Sha1.digest`
-/

------------------------------------------------------------
-- Words
------------------------------------------------------------

namespace TraceMining

namespace Sha1

/- Rotate a word to the left. -/
def rotate
    (n : UInt32)
    (x : UInt32) : UInt32 :=
  (x <<< n) ||| (x >>> (32 - n))

/- The word that four bytes spell. -/
def word
    (a b c d : UInt8) : UInt32 :=
  (a.toUInt32 <<< 24) ||| (b.toUInt32 <<< 16) |||
    (c.toUInt32 <<< 8) ||| d.toUInt32

/- The words that bytes spell. -/
def words :
    List UInt8 → List UInt32
  | a :: b :: c :: d :: rest => word a b c d :: words rest
  | _ => []

/- The bytes of a number, most significant first. -/
def bytes :
    Nat → Nat → List UInt8
  | 0, _ => []
  | count + 1, n =>
      UInt8.ofNat (n / Nat.pow 256 count % 256) :: bytes count n

end Sha1

end TraceMining

------------------------------------------------------------
-- Blocks
------------------------------------------------------------

namespace TraceMining

namespace Sha1

/- A message with its end mark, zeros and length in bits. -/
def pad
    (message : List UInt8) : List UInt8 :=
  let n := message.length
  let zeros := (119 - n % 64) % 64
  message ++ 0x80 :: List.replicate zeros 0 ++ bytes 8 (8 * n)

/- Cut words into blocks of sixteen. -/
def blocks :
    Nat → List UInt32 → List (List UInt32)
  | 0, _ => []
  | count + 1, ws => ws.take 16 :: blocks count (ws.drop 16)

/- Extend sixteen words to eighty. -/
def expand
    (block : List UInt32) : Array UInt32 :=
  (List.range 64).foldl
    (fun ws i =>
      let word (k : Nat) : UInt32 := ws.getD (i + k) 0
      ws.push (rotate 1 (word 13 ^^^ word 8 ^^^ word 2 ^^^ word 0)))
    block.toArray

end Sha1

end TraceMining

------------------------------------------------------------
-- Compression
------------------------------------------------------------

namespace TraceMining

namespace Sha1

/- The five words of the state. -/
structure State where
  a : UInt32
  b : UInt32
  c : UInt32
  d : UInt32
  e : UInt32
  deriving DecidableEq

/- The state before the first block. -/
def State.initial : State :=
  { a := 0x67452301
    b := 0xEFCDAB89
    c := 0x98BADCFE
    d := 0x10325476
    e := 0xC3D2E1F0 }

/- The mixing of three words, and the constant of a round. -/
def mix
    (round : Nat)
    (b c d : UInt32) : UInt32 × UInt32 :=
  match round with
  | 0 => ((b &&& c) ||| (~~~b &&& d), 0x5A827999)
  | 1 => (b ^^^ c ^^^ d, 0x6ED9EBA1)
  | 2 => ((b &&& c) ||| (b &&& d) ||| (c &&& d), 0x8F1BBCDC)
  | _ => (b ^^^ c ^^^ d, 0xCA62C1D6)

/- One step, with the word and its index. -/
def step
    (s : State)
    (w : UInt32 × Nat) : State :=
  let (f, k) := mix (w.2 / 20) s.b s.c s.d
  { a := rotate 5 s.a + f + s.e + k + w.1
    b := s.a
    c := rotate 30 s.b
    d := s.c
    e := s.d }

/- Take a block into the state. -/
def compress
    (s : State)
    (block : List UInt32) : State :=
  let t := (expand block).toList.zipIdx.foldl step s
  { a := s.a + t.a
    b := s.b + t.b
    c := s.c + t.c
    d := s.d + t.d
    e := s.e + t.e }

/- The twenty bytes of a message's digest. -/
def digest
    (message : List UInt8) : List UInt8 :=
  let ws := words (pad message)
  let s := (blocks (ws.length / 16) ws).foldl compress
    State.initial
  [s.a, s.b, s.c, s.d, s.e].flatMap fun w =>
    bytes 4 w.toNat

end Sha1

end TraceMining
