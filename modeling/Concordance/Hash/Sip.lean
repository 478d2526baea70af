/-!
# The keyed hash SipHash-1-3

SipHash with one round for each word of the message and three rounds at the end.
The message is cut into little-endian words of eight bytes; the last word holds
the bytes that are left and, in its top byte, the length of the message.

* `hash`: the hash of a byte string under a key of two words.
-/

namespace Concordance.Hash.Sip

/-- The four words that a message is mixed into. -/
structure State where
  v0 : UInt64
  v1 : UInt64
  v2 : UInt64
  v3 : UInt64

/-- Rotates a word to the left by `n` bits, with `0 < n < 64`. -/
def rotate (x : UInt64) (n : UInt64) : UInt64 := x <<< n ||| x >>> (64 - n)

/-- The state before the first word of the message. -/
def State.init (k0 k1 : UInt64) : State where
  v0 := k0 ^^^ 0x736f6d6570736575
  v1 := k1 ^^^ 0x646f72616e646f6d
  v2 := k0 ^^^ 0x6c7967656e657261
  v3 := k1 ^^^ 0x7465646279746573

/-- One round of mixing. -/
def State.round (s : State) : State :=
  let v0 := s.v0 + s.v1
  let v1 := rotate s.v1 13 ^^^ v0
  let v0 := rotate v0 32
  let v2 := s.v2 + s.v3
  let v3 := rotate s.v3 16 ^^^ v2
  let v0 := v0 + v3
  let v3 := rotate v3 21 ^^^ v0
  let v2 := v2 + v1
  let v1 := rotate v1 17 ^^^ v2
  let v2 := rotate v2 32
  ⟨v0, v1, v2, v3⟩

/-- Mixes one word of the message in. -/
def State.absorb (s : State) (word : UInt64) : State :=
  let s := State.round { s with v3 := s.v3 ^^^ word }
  { s with v0 := s.v0 ^^^ word }

/-- The hash that a state stands for once the whole message is in. -/
def State.finish (s : State) : UInt64 :=
  let s := State.round (State.round (State.round { s with v2 := s.v2 ^^^ 0xff }))
  s.v0 ^^^ s.v1 ^^^ s.v2 ^^^ s.v3

/-- The word of up to eight bytes, the first byte least significant. -/
def word (bytes : List UInt8) : UInt64 :=
  bytes.foldr (fun b acc => acc <<< 8 ||| b.toUInt64) 0

/-- Mixes in the message, of which `length` bytes are there in total. -/
def absorbAll (length : Nat) (s : State) : List UInt8 → State
  | b0 :: b1 :: b2 :: b3 :: b4 :: b5 :: b6 :: b7 :: rest =>
    absorbAll length (s.absorb (word [b0, b1, b2, b3, b4, b5, b6, b7])) rest
  | rest => s.absorb (word rest ||| length.toUInt64 <<< 56)

/-- The hash of a byte string under the key of the words `k0` and `k1`. -/
def hash (k0 k1 : UInt64) (bytes : List UInt8) : UInt64 :=
  (absorbAll bytes.length (.init k0 k1) bytes).finish

end Concordance.Hash.Sip
