import Mathlib.Tactic.NormNum
import StoreRpc.EntryId

/-!
The bytes of counters.

A counter field is kept with its bytes in the opposite order, so that in memory the most significant
byte of the value stands first. Only 48 bits of the value are kept, and the last two bytes are
zeros.
-/

namespace StoreRpc

lemma Word.bound_eq (w : Nat) : bound w = 256 ^ w := by
  induction w with
  | zero => rfl
  | succ w ih => rw [bound, ih, Nat.pow_succ, Nat.mul_comm]

/-- Swapping the bytes of a word turns them around. -/
lemma le_swapBytes (v : UInt64) : Word.le 8 (swapBytes v).toNat = (Word.le 8 v.toNat).reverse := by
  have hlength : (Word.le 8 v.toNat).reverse.length = 8 := by simp
  have hlt : Word.ofLe (Word.le 8 v.toNat).reverse < 2 ^ 64 := by
    have h := Word.ofLe_lt (Word.le 8 v.toNat).reverse
    rw [hlength, Word.bound_eq] at h
    norm_num at h ⊢
    exact h
  have hle : Word.le 8 (Word.ofLe (Word.le 8 v.toNat).reverse) = (Word.le 8 v.toNat).reverse := by
    have h := Word.le_ofLe (Word.le 8 v.toNat).reverse
    rwa [hlength] at h
  rw [swapBytes, UInt64.toNat_ofNat', Nat.mod_eq_of_lt hlt, hle]

namespace Counter

lemma toNat_shiftLeft (value : UInt64) :
    (value <<< 16).toNat = value.toNat % 2 ^ 48 * 2 ^ 16 := by
  have h16 : (16 : UInt64).toNat % 64 = 16 := rfl
  rw [UInt64.toNat_shiftLeft, h16, Nat.shiftLeft_eq]
  omega

/-- The value stands behind two zeros before its bytes are swapped. -/
lemma le_shiftLeft (value : UInt64) :
    Word.le 8 (value <<< 16).toNat = [0, 0] ++ Word.le 6 value.toNat := by
  have hlow : Word.le 2 (value <<< 16).toNat = [0, 0] := by
    rw [← Word.le_mod, toNat_shiftLeft, Word.bound_eq]
    have hzero : value.toNat % 2 ^ 48 * 2 ^ 16 % 256 ^ 2 = 0 := by omega
    rw [hzero]
    rfl
  have hhigh : (value <<< 16).toNat / Word.bound 2 = value.toNat % Word.bound 6 := by
    rw [toNat_shiftLeft, Word.bound_eq, Word.bound_eq]
    omega
  rw [Word.le_add 2 6, hlow, hhigh, Word.le_mod]

/-- The most significant byte of the 48 bits comes first. -/
lemma le_ofValue (value : UInt64) :
    Word.le 8 (ofValue value).toNat = (Word.le 6 value.toNat).reverse ++ [0, 0] := by
  rw [ofValue, le_swapBytes, le_shiftLeft, List.reverse_append]
  rfl

end Counter

end StoreRpc
