import Mathlib.Data.Int.ModEq
import LevelForge.Level.State
import LevelForge.Proofs.Random.Deciphering

/-!
# Random streams

The random streams of a level part at the start, and a choice parts from its stream whenever a key
is drawn: children of one key with different numbers are different keys, whatever the key is. The
key of a seed depends on the seed modulo `2 ^ 64`, and the upper two of these bits always show.

* `Key.ofSeed_eq_child`: the key of a seed as a child of the key of its lower bits.
* `Key.ofSeed_eq_iff`: which seeds with the same lower bits have the same key.
* `LevelState.streams_apart`: the streams of a level, what a draw leaves, and the keys of seeds.
-/

namespace LevelForge

/-! ## Keys of seeds -/

namespace Random.Key

/-- The bits of a seed that count. -/
def seedBits (seed : Int) : Nat := (seed % UInt64.size).toNat

/-- The bits of a seed are what remains of it modulo 2 ^ 64. -/
theorem natCast_seedBits (seed : Int) : (seedBits seed : Int) = seed % 2 ^ 64 :=
  Int.toNat_of_nonneg (Int.emod_nonneg seed (by decide))

/-- The bits of a seed are a word. -/
theorem seedBits_lt (seed : Int) : seedBits seed < 2 ^ 64 := by
  have hbits := natCast_seedBits seed
  have hlt := Int.emod_lt_of_pos seed (show (0 : Int) < 2 ^ 64 by decide)
  omega

/-- The key of the lower 62 bits of a seed. -/
def stem (low : Nat) : Key :=
  child ⟨0, UInt32.ofNat (low % seedPart)⟩ (UInt32.ofNat (low / seedPart))

/-- The key of a seed is a child of the key of its lower bits, and its number is in the upper
two. -/
theorem ofSeed_eq_child (seed : Int) : ofSeed seed =
    (stem (seedBits seed % 2 ^ 62)).child (UInt32.ofNat (seedBits seed / 2 ^ 62)) := by
  have hfirst : seedBits seed % 2 ^ 62 % seedPart = seedBits seed % seedPart := by
    rw [seedPart]
    omega
  have hsecond : seedBits seed % 2 ^ 62 / seedPart = seedBits seed / seedPart % seedPart := by
    rw [seedPart]
    omega
  have hupper : seedBits seed / 2 ^ 62 = seedBits seed / seedPart / seedPart := by
    rw [seedPart]
    omega
  rw [stem, hfirst, hsecond, hupper]
  rfl

/-- The number in the upper two bits is a small one. -/
theorem toNat_upper (seed : Int) :
    (UInt32.ofNat (seedBits seed / 2 ^ 62)).toNat = seedBits seed / 2 ^ 62 := by
  have hlt := seedBits_lt seed
  apply UInt32.toNat_ofNat_of_lt'
  rw [UInt32.size]
  omega

/-- Seeds with the same lower bits have the same key exactly if they have all their bits in
common. -/
theorem ofSeed_eq_iff {seed other : Int} (h : seed ≡ other [ZMOD 2 ^ 62]) :
    ofSeed seed = ofSeed other ↔ seed ≡ other [ZMOD 2 ^ 64] := by
  have hbits := natCast_seedBits seed
  have hbits' := natCast_seedBits other
  rw [Int.ModEq] at h ⊢
  have hlow : seedBits seed % 2 ^ 62 = seedBits other % 2 ^ 62 := by omega
  rw [ofSeed_eq_child, ofSeed_eq_child, hlow, (child_injective _).eq_iff]
  constructor
  · intro hchild
    have hupper : seedBits seed / 2 ^ 62 = seedBits other / 2 ^ 62 := by
      rw [← toNat_upper seed, hchild, toNat_upper]
    omega
  · intro hmod
    have hsame : seedBits seed = seedBits other := by omega
    rw [hsame]

/-- Seeds that are equal modulo `2 ^ 64` have the same key. -/
theorem ofSeed_congr {seed other : Int} (h : seed ≡ other [ZMOD 2 ^ 64]) :
    ofSeed seed = ofSeed other :=
  (ofSeed_eq_iff (h.of_dvd (by decide))).mpr h

end Random.Key

/-! ## The streams of a level -/

namespace LevelState

open LevelForge.Random (Key)

/-- The number of the child that a stream starts from. -/
def number : Stream → UInt32
  | .selection => 0
  | .coins => 1
  | .elements => 2

/-- No two streams have the same number. -/
theorem number_injective : Function.Injective number := by
  intro stream other h
  cases stream <;> cases other <;> simp_all [number]

/-- At its start each stream has the child of its number as its key. -/
theorem key_start (key : Key) (stream : Stream) :
    (start key).key stream = key.child (number stream) := by
  cases stream <;> rfl

/-- The streams of a level start from different keys. -/
theorem key_start_injective (key : Key) : Function.Injective (start key).key := by
  intro stream other h
  rw [key_start, key_start] at h
  exact number_injective (key.child_injective h)

/-- A draw forks the key of its stream and leaves the other streams. -/
theorem key_draw (s : LevelState) (stream other : Stream) :
    (s.draw stream).1.key other =
      if other = stream then (s.key stream).fork.1 else s.key other :=
  key_setKey s stream other _

/-- A draw changes nothing but the key of its stream. -/
theorem counts_draw (s : LevelState) (stream : Stream) :
    (s.draw stream).1.frontier = s.frontier ∧ (s.draw stream).1.unitsBuilt = s.unitsBuilt ∧
      (s.draw stream).1.lastUnitsBuilt = s.lastUnitsBuilt ∧
      (s.draw stream).1.cursor = s.cursor := by
  cases stream <;> exact ⟨rfl, rfl, rfl, rfl⟩

/-- Random streams never meet where they part. A level that starts, from a seed or from a key, has
three streams with different keys. A draw from a stream gives a key that is not the one that the
stream goes on with, and it leaves the other two streams and all that is counted. Seeds that are
equal modulo `2 ^ 64` have the same key, and seeds that are equal only modulo `2 ^ 62` have
different ones. -/
theorem streams_apart :
    (∀ (seed : Int) (key : Option Key), let s := start (key.getD (.ofSeed seed))
      s.selection ≠ s.coins ∧ s.selection ≠ s.elements ∧ s.coins ≠ s.elements) ∧
    (∀ (s : LevelState) (stream : Stream), let s' := (s.draw stream).1
      (s.draw stream).2 ≠ s'.key stream ∧
      (∀ other, other ≠ stream → s'.key other = s.key other) ∧
      s'.frontier = s.frontier ∧ s'.unitsBuilt = s.unitsBuilt ∧
      s'.lastUnitsBuilt = s.lastUnitsBuilt ∧ s'.cursor = s.cursor) ∧
    (∀ seed other : Int, seed ≡ other [ZMOD 2 ^ 64] → Key.ofSeed seed = Key.ofSeed other) ∧
    ∀ seed other : Int, seed ≡ other [ZMOD 2 ^ 62] → ¬ seed ≡ other [ZMOD 2 ^ 64] →
      Key.ofSeed seed ≠ Key.ofSeed other := by
  refine ⟨fun seed key => ?_, fun s stream => ⟨?_, ?_, counts_draw s stream⟩,
    fun _ _ => Key.ofSeed_congr, ?_⟩
  · have hdiffer {stream other : Stream} (h : stream ≠ other) :=
      (key_start_injective (key.getD (.ofSeed seed))).ne h
    exact ⟨hdiffer (show Stream.selection ≠ .coins by decide),
      hdiffer (show Stream.selection ≠ .elements by decide),
      hdiffer (show Stream.coins ≠ .elements by decide)⟩
  · rw [key_draw, if_pos rfl]
    exact (s.key stream).fork_ne
  · intro other hother
    rw [key_draw, if_neg hother]
  · intro seed other hlow hbits hkey
    exact hbits ((Key.ofSeed_eq_iff hlow).mp hkey)

theorem streams_apart_seven :
    (start (.ofSeed 7)).coins ≠ (start (.ofSeed 7)).elements ∧
    (start .zero).selection ≠ (start .zero).coins ∧
    ((start .zero).draw .coins).2 ≠ ((start .zero).draw .coins).1.coins ∧
    ((start .zero).draw .coins).1.elements = (start .zero).elements ∧
    Key.ofSeed (2 ^ 64 + 7) = Key.ofSeed 7 ∧ Key.ofSeed (7 - 2 ^ 62) ≠ Key.ofSeed 7 := by
  obtain ⟨hstart, hdraw, hsame, hdiffer⟩ := streams_apart
  obtain ⟨hforked, hothers, -⟩ := hdraw (start .zero) .coins
  have hseven := hstart 7 none
  rw [Option.getD_none] at hseven
  exact ⟨hseven.2.2, (hstart 0 (some .zero)).1, hforked, hothers .elements (by decide),
    hsame _ _ (by decide), hdiffer _ _ (by decide) (by decide)⟩

end LevelState

end LevelForge
