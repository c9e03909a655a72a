/-!
Little-endian words.

`ofLe` inverts `le` up to the width, and every byte string is the word of its value.
-/

namespace StoreRpc.Word

/-- The low `width` bytes of a number, least significant first. -/
def le : Nat → Nat → List UInt8
  | 0, _ => []
  | w + 1, n => UInt8.ofNat n :: le w (n / 256)

/-- The number whose bytes these are, least significant first. -/
def ofLe : List UInt8 → Nat
  | [] => 0
  | b :: rest => b.toNat + 256 * ofLe rest

/-- How many words of a width there are. -/
def bound : Nat → Nat
  | 0 => 1
  | w + 1 => 256 * bound w

@[simp] theorem length_le (w n : Nat) : (le w n).length = w := by
  induction w generalizing n with
  | zero => rfl
  | succ w ih => simp [le, ih]

theorem ofLe_le (w n : Nat) : ofLe (le w n) = n % bound w := by
  induction w generalizing n with
  | zero => simp [le, ofLe, bound, Nat.mod_one]
  | succ w ih =>
    have h : (UInt8.ofNat n).toNat = n % 256 := UInt8.toNat_ofNat'
    rw [le, ofLe, ih, h, bound, Nat.mod_mul]

theorem ofLe_lt (bs : List UInt8) : ofLe bs < bound bs.length := by
  induction bs with
  | nil => simp [ofLe, bound]
  | cons b rest ih =>
    have := b.toNat_lt
    simp only [ofLe, List.length_cons, bound]
    omega

theorem le_ofLe (bs : List UInt8) : le bs.length (ofLe bs) = bs := by
  induction bs with
  | nil => rfl
  | cons b rest ih =>
    have hb := b.toNat_lt
    have h1 : (b.toNat + 256 * ofLe rest) / 256 = ofLe rest := by omega
    have h2 : UInt8.ofNat (b.toNat + 256 * ofLe rest) = b := by
      apply UInt8.toNat.inj
      simp only [UInt8.toNat_ofNat']
      omega
    simp [le, ofLe, h1, h2, ih]

/-- A longer word goes on with what is left of the number. -/
theorem le_add (v w n : Nat) : le (v + w) n = le v n ++ le w (n / bound v) := by
  induction v generalizing n with
  | zero => simp [le, bound]
  | succ v ih =>
    have hdiv : n / 256 / bound v = n / bound (v + 1) := Nat.div_div_eq_div_mul ..
    rw [Nat.succ_add, le, le, ih, hdiv, List.cons_append]

/-- Only the low bytes of a number stand in its word. -/
theorem le_mod (w n : Nat) : le w (n % bound w) = le w n := by
  have h : le (le w n).length (ofLe (le w n)) = le w n := le_ofLe (le w n)
  rwa [length_le, ofLe_le] at h

end StoreRpc.Word
