/-!
# SipHash

The keyed hash of byte sequences with two rounds for each word of eight bytes and four at the end.
-/

namespace Roster.SipHash

/-- The four words on which the hash works. -/
structure Words where
  a : UInt64
  b : UInt64
  c : UInt64
  d : UInt64

def turnLeft (x n : UInt64) : UInt64 := (x <<< n) ||| (x >>> (64 - n))

namespace Words

def start (low high : UInt64) : Words where
  a := low ^^^ 0x736f6d6570736575
  b := high ^^^ 0x646f72616e646f6d
  c := low ^^^ 0x6c7967656e657261
  d := high ^^^ 0x7465646279746573

def round (w : Words) : Words :=
  let a := w.a + w.b
  let b := turnLeft w.b 13 ^^^ a
  let a := turnLeft a 32
  let c := w.c + w.d
  let d := turnLeft w.d 16 ^^^ c
  let a := a + d
  let d := turnLeft d 21 ^^^ a
  let c := c + b
  let b := turnLeft b 17 ^^^ c
  let c := turnLeft c 32
  ⟨a, b, c, d⟩

def absorb (w : Words) (m : UInt64) : Words :=
  let w := { w with d := w.d ^^^ m }.round.round
  { w with a := w.a ^^^ m }

def finish (w : Words) : UInt64 :=
  let w := { w with c := w.c ^^^ 0xff }.round.round.round.round
  w.a ^^^ w.b ^^^ w.c ^^^ w.d

end Words

/-- The word that bytes make, the lowest byte first. -/
def littleEndian : List UInt8 → UInt64
  | [] => 0
  | b :: rest => b.toUInt64 ||| (littleEndian rest <<< 8)

/-- The words after a message of which `bytes` are left; `size` is its whole length. -/
def absorbAll (size : Nat) (w : Words) (bytes : List UInt8) : Words :=
  if bytes.length < 8 then
    w.absorb (littleEndian bytes ||| (UInt64.ofNat (size % 256) <<< 56))
  else absorbAll size (w.absorb (littleEndian (bytes.take 8))) (bytes.drop 8)
termination_by bytes.length
decreasing_by simp only [List.length_drop]; omega

/-- The hash of a message under a key of two halves. -/
def hash (low high : UInt64) (bytes : List UInt8) : UInt64 :=
  (absorbAll bytes.length (Words.start low high) bytes).finish

end Roster.SipHash
