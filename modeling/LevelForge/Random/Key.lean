import LevelForge.Random.Threefry

/-!
# Random keys

A key is the whole state of a stream of random choices. It is never used twice: a draw forks it
into the key of the rest of the stream and a key for the one choice, and independent streams start
from different children of one key.

* `below_lt`: a choice below a positive bound is below that bound.
-/

namespace LevelForge.Random.Key

/-- The child of a key with a given number. -/
def child (key : Key) (number : UInt32) : Key :=
  Threefry.encipher key ⟨0, number⟩

/-- Fork a key: the key of the rest of the stream and the key of one choice. -/
def fork (key : Key) : Key × Key :=
  (key.child 0, key.child 1)

/-- The random word of a key at a position. -/
def word (key : Key) (position : UInt32) : UInt32 :=
  let block := key.child position
  block.hi ^^^ block.lo

/-- A choice below `bound`: two random words joined to one number of 64 bits and reduced modulo
the bound, with the intermediate sum reduced modulo `2 ^ 32`. -/
def below (key : Key) (bound : Nat) : Nat :=
  let high := (key.fork.1.word 0).toNat
  let low := (key.fork.2.word 0).toNat
  let factor := (65536 % bound) * (65536 % bound) % UInt32.size % bound
  (high % bound * factor + low % bound) % UInt32.size % bound

/-- A choice below a positive bound is below that bound. -/
theorem below_lt (key : Key) {bound : Nat} (h : 0 < bound) : key.below bound < bound :=
  Nat.mod_lt _ h

/-- A uniform choice in the unit interval at a position, as the numerator over `2 ^ 23`. -/
def fraction (key : Key) (position : Nat) : Nat :=
  (key.word (UInt32.ofNat position)).toNat / 512

/-- The key that is used when no key is given. -/
def zero : Key := ⟨0, 0⟩

/-- The size of the parts into which a seed is cut: 31 bits. -/
def seedPart : Nat := 0x80000000

/-- The key of a seed. The seed counts modulo `2 ^ 64`, and its bits go into the key in three
parts: 31 bits, 31 bits and the last two. -/
def ofSeed (seed : Int) : Key :=
  let bits := (seed % UInt64.size).toNat
  let start : Key := ⟨0, UInt32.ofNat (bits % seedPart)⟩
  (start.child (UInt32.ofNat (bits / seedPart % seedPart))).child
    (UInt32.ofNat (bits / seedPart / seedPart))

end LevelForge.Random.Key
