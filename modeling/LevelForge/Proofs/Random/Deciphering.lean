import Mathlib.Logic.Function.Basic
import LevelForge.Random.Key

/-!
# Deciphering

Under each key the cipher can be undone: a rotation by rotating on to a whole turn, a round by one
rotation and one subtraction, an injection of subkeys by taking them away again, and the whole by
undoing its rounds from the last to the first. So no two counters are enciphered alike, and no two
children of a key are the same.

* `Threefry.decipher_encipher`: what was enciphered under a key is deciphered under it.
* `Threefry.encipher_injective`: no two counters are enciphered alike under one key.
* `Key.child_injective`: the children of a key differ.
-/

namespace LevelForge.Random

namespace Threefry

/-! ## Rotations -/

/-- An amount by which a round may rotate a word. -/
def IsRotation (amount : UInt32) : Prop := 0 < amount.toNat ∧ amount.toNat < 32

instance (amount : UInt32) : Decidable (IsRotation amount) := inferInstanceAs (Decidable (_ ∧ _))

/-- All rounds rotate, and none of them by a whole turn. -/
theorem isRotation_of_mem_rotations {group : Nat} {amount : UInt32}
    (h : amount ∈ rotations group) : IsRotation amount := by
  have hall : ([13, 15, 26, 6] ++ [17, 29, 16, 24] : List UInt32).all (IsRotation ·) = true := by
    decide
  refine of_decide_eq_true (List.all_eq_true.mp hall amount ?_)
  unfold rotations at h
  split at h
  · exact List.mem_append_left _ h
  · exact List.mem_append_right _ h

section Rotation

variable {amount : UInt32}

theorem IsRotation.toNat_sub (h : IsRotation amount) : (32 - amount).toNat = 32 - amount.toNat :=
  UInt32.toNat_sub_of_le _ _ (Nat.le_of_lt h.2)

/-- What is missing to a whole turn is a rotation as well. -/
theorem IsRotation.sub (h : IsRotation amount) : IsRotation (32 - amount) := by
  obtain ⟨hpos, hlt⟩ := h
  rw [IsRotation, IsRotation.toNat_sub ⟨hpos, hlt⟩]
  omega

theorem IsRotation.toBitVec_rotateLeft (h : IsRotation amount) (word : UInt32) :
    (rotateLeft word amount).toBitVec = word.toBitVec.rotateLeft amount.toNat := by
  obtain ⟨hpos, hlt⟩ := h
  rw [BitVec.rotateLeft_def, rotateLeft, UInt32.toBitVec_or, UInt32.toBitVec_shiftLeft,
    UInt32.toBitVec_shiftRight]
  simp only [BitVec.shiftLeft_eq', BitVec.ushiftRight_eq', BitVec.toNat_umod,
    UInt32.toNat_toBitVec]
  rw [IsRotation.toNat_sub ⟨hpos, hlt⟩]
  congr 2
  show (32 - amount.toNat) % 32 = 32 - amount.toNat % 32
  omega

/-- Bits that are rotated, and then rotated on to a whole turn, are where they were. -/
theorem bits_rotateLeft_rotateLeft {w r : Nat} (hpos : 0 < r) (hlt : r < w) (x : BitVec w) :
    (x.rotateLeft r).rotateLeft (w - r) = x := by
  have hr : r % w = r := Nat.mod_eq_of_lt hlt
  have hsub : (w - r) % w = w - r := Nat.mod_eq_of_lt (by omega)
  ext i hi
  by_cases h : i < w - r
  · -- the second rotation wraps the bit around, the first one has shifted it
    have hshifted : ¬ w - (w - r) + i < r := by omega
    simp only [BitVec.getElem_rotateLeft, hr, hsub, h, hshifted, dite_true, dite_false]
    congr 1
    omega
  · have hwrapped : i - (w - r) < r := by omega
    simp only [BitVec.getElem_rotateLeft, hr, hsub, h, hwrapped, dite_true, dite_false]
    congr 1
    omega

/-- A word that is rotated, and then rotated on to a whole turn, is as it was. -/
theorem IsRotation.rotateLeft_rotateLeft (h : IsRotation amount) (word : UInt32) :
    rotateLeft (rotateLeft word amount) (32 - amount) = word := by
  apply UInt32.toBitVec_inj.mp
  rw [h.sub.toBitVec_rotateLeft, h.toBitVec_rotateLeft, h.toNat_sub]
  exact bits_rotateLeft_rotateLeft h.1 h.2 word.toBitVec

end Rotation

/-! ## Rounds -/

/-- Undo a round: recover the second word from the sum and rotate it on to a whole turn, and take it
away from the sum. -/
def unmix (block : Key) (amount : UInt32) : Key :=
  let lo := rotateLeft (block.lo ^^^ block.hi) (32 - amount)
  ⟨block.hi - lo, lo⟩

theorem unmix_mix {amount : UInt32} (h : IsRotation amount) (block : Key) :
    unmix (mix block amount) amount = block := by
  have hlo : rotateLeft ((mix block amount).lo ^^^ (mix block amount).hi) (32 - amount) =
      block.lo := by
    dsimp only [mix]
    rw [UInt32.xor_assoc, UInt32.xor_self, UInt32.xor_zero, h.rotateLeft_rotateLeft]
  rw [unmix, hlo]
  dsimp only [mix]
  rw [UInt32.add_sub_cancel]

/-- Take away what was injected. -/
def eject (key : Key) (group : Nat) (block : Key) : Key :=
  ⟨block.hi - subkey key group, block.lo - UInt32.ofNat group - subkey key (group + 1)⟩

theorem eject_inject (key : Key) (group : Nat) (block : Key) :
    eject key group (inject key group block) = block := by
  dsimp only [eject, inject]
  rw [UInt32.add_sub_cancel, UInt32.add_sub_cancel, UInt32.add_sub_cancel]

/-- Steps that can each be undone are undone by undoing them from the last to the first. -/
theorem foldl_reverse_foldl {α β : Type} {step undo : β → α → β} {steps : List α}
    (h : ∀ a ∈ steps, ∀ b, undo (step b a) a = b) (b : β) :
    steps.reverse.foldl undo (steps.foldl step b) = b := by
  induction steps generalizing b with
  | nil => rfl
  | cons a rest ih =>
    have hrest := ih (fun a' ha' => h a' (List.mem_cons_of_mem a ha')) (step b a)
    rw [List.foldl_cons, List.reverse_cons, List.foldl_append, hrest]
    exact h a List.mem_cons_self b

/-- Undo an injection and the four rounds in front of it. -/
def undoRounds (key : Key) (block : Key) (group : Nat) : Key :=
  (rotations group).reverse.foldl unmix (eject key (group + 1) block)

theorem undoRounds_groupRounds (key block : Key) (group : Nat) :
    undoRounds key (groupRounds key block group) group = block := by
  rw [undoRounds, groupRounds, eject_inject]
  exact foldl_reverse_foldl (fun _ h => unmix_mix (isRotation_of_mem_rotations h)) block

/-! ## The whole cipher -/

/-- Decipher a block under a key: undo the five groups of rounds and the first injection. -/
def decipher (key block : Key) : Key :=
  eject key 0 ([4, 3, 2, 1, 0].foldl (undoRounds key) block)

/-- What was enciphered under a key is deciphered under it. -/
theorem decipher_encipher (key counter : Key) : decipher key (encipher key counter) = counter := by
  have hgroups : [4, 3, 2, 1, 0].foldl (undoRounds key)
      ([0, 1, 2, 3, 4].foldl (groupRounds key) (inject key 0 counter)) = inject key 0 counter :=
    foldl_reverse_foldl (fun group (_ : group ∈ [0, 1, 2, 3, 4]) block =>
      undoRounds_groupRounds key block group) _
  rw [decipher, encipher, hgroups, eject_inject]

/-- No two counters are enciphered alike under one key. -/
theorem encipher_injective (key : Key) : Function.Injective (encipher key) :=
  Function.LeftInverse.injective (decipher_encipher key)

end Threefry

namespace Key

/-- The children of a key differ. -/
theorem child_injective (key : Key) : Function.Injective key.child := by
  intro number other h
  have hcounter : (⟨0, number⟩ : Key) = ⟨0, other⟩ := Threefry.encipher_injective key h
  exact congrArg Key.lo hcounter

/-- The rest of a stream is not the key of the choice that was taken from it. -/
theorem fork_ne (key : Key) : key.fork.2 ≠ key.fork.1 := by
  intro h
  exact absurd (key.child_injective h) (by decide)

end Key

end LevelForge.Random
