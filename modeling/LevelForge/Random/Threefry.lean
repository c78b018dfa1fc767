/-!
# The Threefry-2x32 block cipher

Twenty rounds on a pair of 32-bit words, every addition modulo `2 ^ 32`. All random choices of a
level come from this cipher: a key enciphers a counter, and the result is a new key or a source of
random bits.
-/

namespace LevelForge.Random

/-- Two 32-bit words: a random key, and equally the counter and the result of the cipher. -/
structure Key where
  hi : UInt32
  lo : UInt32
  deriving DecidableEq, Repr, Inhabited

namespace Threefry

/-- Rotate a word to the left. -/
def rotateLeft (word amount : UInt32) : UInt32 :=
  (word <<< amount) ||| (word >>> (32 - amount))

/-- One round: add the second word to the first, rotate the second and combine it with the sum. -/
def mix (block : Key) (amount : UInt32) : Key :=
  let sum := block.hi + block.lo
  ⟨sum, rotateLeft block.lo amount ^^^ sum⟩

/-- The three subkeys of a key, taken cyclically. -/
def subkey (key : Key) (i : Nat) : UInt32 :=
  match i % 3 with
  | 0 => key.hi
  | 1 => key.lo
  | _ => key.hi ^^^ key.lo ^^^ 0x1BD11BDA

/-- The rotations of the four rounds of a group; even and odd groups alternate. -/
def rotations (group : Nat) : List UInt32 :=
  if group % 2 = 0 then [13, 15, 26, 6] else [17, 29, 16, 24]

/-- Add a pair of subkeys, and the number of the group to the second word. -/
def inject (key : Key) (group : Nat) (block : Key) : Key :=
  ⟨block.hi + subkey key group, block.lo + subkey key (group + 1) + UInt32.ofNat group⟩

/-- Four rounds and the injection of subkeys that follows them. -/
def groupRounds (key : Key) (block : Key) (group : Nat) : Key :=
  inject key (group + 1) ((rotations group).foldl mix block)

/-- Encipher a counter under a key: five groups of four rounds. -/
def encipher (key counter : Key) : Key :=
  [0, 1, 2, 3, 4].foldl (groupRounds key) (inject key 0 counter)

end Threefry

end LevelForge.Random
