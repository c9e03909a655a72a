import Mathlib.Data.List.Basic
import StoreRpc.Proofs.Guid.Counter

/-!
What an entry id carries.

A counter field holds the low 48 bits of a value and nothing else, and an entry id holds such a
field above the 16 bits of its replica. In memory the bytes of a field are those of the value with
the most significant one first, so that fields are in order as byte strings when their values are.
-/

namespace StoreRpc

/-! ### The order of byte strings -/

namespace Word

/-- What stands behind counts as many times as there are words of the width in front. -/
lemma ofLe_append (xs ys : List UInt8) :
    ofLe (xs ++ ys) = ofLe xs + bound xs.length * ofLe ys := by
  induction xs with
  | nil => simp [ofLe, bound]
  | cons x xs ih =>
    rw [List.cons_append, ofLe, ih, ofLe, List.length_cons, bound, Nat.mul_add, Nat.mul_assoc,
      Nat.add_assoc]

lemma add_mul_lt_iff {b x y m n : Nat} (hx : x < b) (hy : y < b) :
    x + b * m < y + b * n ↔ m < n ∨ m = n ∧ x < y := by
  rcases Nat.lt_trichotomy m n with h | rfl | h
  · have hle := Nat.mul_le_mul_left b (Nat.succ_le_of_lt h)
    rw [Nat.mul_succ] at hle
    omega
  · omega
  · have hle := Nat.mul_le_mul_left b (Nat.succ_le_of_lt h)
    rw [Nat.mul_succ] at hle
    omega

/-- Byte strings of one length are in order when the numbers are that they write with the most
significant byte first. -/
lemma lex_iff {xs ys : List UInt8} (h : xs.length = ys.length) :
    xs.Lex (· < ·) ys ↔ ofLe xs.reverse < ofLe ys.reverse := by
  induction xs generalizing ys with
  | nil =>
    obtain rfl := List.length_eq_zero_iff.mp h.symm
    simp
  | cons x xs ih =>
    obtain ⟨y, ys, rfl⟩ := List.exists_cons_of_length_eq_add_one h.symm
    have hlength : xs.length = ys.length := Nat.succ.inj h
    -- The first byte decides: what stands behind it is less than one of its units.
    have hlast (b : UInt8) (bs : List UInt8) (hbs : bs.length = xs.length) :
        ofLe (b :: bs).reverse = ofLe bs.reverse + bound xs.length * b.toNat := by
      rw [List.reverse_cons, ofLe_append, List.length_reverse, hbs]
      rfl
    have hbound (bs : List UInt8) (hbs : bs.length = xs.length) :
        ofLe bs.reverse < bound xs.length := by
      rw [← hbs, ← List.length_reverse]
      exact ofLe_lt bs.reverse
    rw [List.cons_lex_cons_iff, ih hlength, hlast x xs rfl, hlast y ys hlength.symm,
      add_mul_lt_iff (hbound xs rfl) (hbound ys hlength.symm), UInt8.lt_iff_toNat_lt,
      ← UInt8.toNat_inj]

lemma ofLe_le_toNat (v : UInt64) : ofLe (le 8 v.toNat) = v.toNat := by
  have hbound : bound 8 = 2 ^ 64 := rfl
  rw [ofLe_le, hbound, Nat.mod_eq_of_lt v.toNat_lt]

end Word

/-! ### Counters -/

lemma swapBytes_swapBytes (v : UInt64) : swapBytes (swapBytes v) = v := by
  refine UInt64.toNat.inj ?_
  rw [← Word.ofLe_le_toNat, le_swapBytes, le_swapBytes, List.reverse_reverse, Word.ofLe_le_toNat]

namespace Counter

/-- The bytes of a field as they stand in memory. -/
def memory (field : UInt64) : List UInt8 := Word.le 8 field.toNat

lemma toNat_shiftRight (v : UInt64) : (v >>> 16).toNat = v.toNat / 2 ^ 16 := by
  have h16 : (16 : UInt64).toNat % 64 = 16 := rfl
  rw [UInt64.toNat_shiftRight, h16, Nat.shiftRight_eq_div_pow]

/-- Only 48 bits of a value are kept. -/
lemma toNat_toValue_ofValue (value : UInt64) :
    (toValue (ofValue value)).toNat = value.toNat % 2 ^ 48 := by
  rw [toValue, ofValue, swapBytes_swapBytes, toNat_shiftRight, toNat_shiftLeft]
  omega

/-- Fields are the same when their values agree in 48 bits. -/
lemma ofValue_congr {v w : UInt64} (h : v.toNat % 2 ^ 48 = w.toNat % 2 ^ 48) :
    ofValue v = ofValue w := by
  have hshift : v <<< 16 = w <<< 16 := by
    refine UInt64.toNat.inj ?_
    rw [toNat_shiftLeft, toNat_shiftLeft, h]
  rw [ofValue, ofValue, hshift]

/-- The value of a field leaves out what stands in its last two bytes. -/
lemma memory_ofValue_toValue (field : UInt64) :
    memory (ofValue (toValue field)) = (memory field).take 6 ++ [0, 0] := by
  have hvalue : (toValue field).toNat = (swapBytes field).toNat / Word.bound 2 := by
    rw [toValue, toNat_shiftRight]
    rfl
  have hfield : memory field = (Word.le 6 (toValue field).toNat).reverse ++
      (Word.le 2 (swapBytes field).toNat).reverse := by
    rw [hvalue, ← List.reverse_append, ← Word.le_add, le_swapBytes, List.reverse_reverse, memory]
  rw [memory, le_ofValue, hfield, List.take_left' (by simp)]

/-- A field made for a value leaves the highest 16 bits of the word free. -/
lemma toNat_ofValue_lt (value : UInt64) : (ofValue value).toNat < 2 ^ 48 := by
  have hfront := Word.ofLe_lt (Word.le 6 value.toNat).reverse
  have hzeros : Word.ofLe [0, 0] = 0 := rfl
  rw [List.length_reverse, Word.length_le] at hfront
  rw [← Word.ofLe_le_toNat, le_ofValue, Word.ofLe_append, hzeros, Nat.mul_zero, Nat.add_zero]
  exact hfront

/-- In memory, fields are in the order of the 48 bits that they keep. -/
lemma memory_lex_iff {v w : UInt64} :
    (memory (ofValue v)).Lex (· < ·) (memory (ofValue w)) ↔
      v.toNat % 2 ^ 48 < w.toNat % 2 ^ 48 := by
  have hreverse (value : UInt64) :
      Word.ofLe (memory (ofValue value)).reverse = value.toNat % 2 ^ 48 * 2 ^ 16 := by
    rw [memory, ofValue, le_swapBytes, List.reverse_reverse, Word.ofLe_le_toNat, toNat_shiftLeft]
  rw [Word.lex_iff (by simp [memory]), hreverse, hreverse]
  omega

end Counter

/-! ### Entry ids -/

namespace EntryId

/-- The replica stands below the field, which takes no more than what is left of the word. -/
lemma toNat_ofField (replica : UInt16) {field : UInt64} (h : field.toNat < 2 ^ 48) :
    (ofField replica field).toNat = field.toNat * 2 ^ 16 + replica.toNat := by
  have h16 : (16 : UInt64).toNat % 64 = 16 := rfl
  have hfield : field.toNat <<< 16 % 2 ^ 64 = field.toNat <<< 16 := by
    rw [Nat.shiftLeft_eq]
    omega
  rw [ofField, UInt64.toNat_or, UInt64.toNat_shiftLeft, h16, UInt16.toNat_toUInt64, hfield,
    Nat.or_comm, ← Nat.shiftLeft_add_eq_or_of_lt replica.toNat_lt, Nat.shiftLeft_eq]

lemma toNat_ofValue (replica : UInt16) (value : UInt64) :
    (ofValue replica value).toNat = (Counter.ofValue value).toNat * 2 ^ 16 + replica.toNat :=
  toNat_ofField replica (Counter.toNat_ofValue_lt value)

lemma toUInt16_ofValue (replica : UInt16) (value : UInt64) :
    (ofValue replica value).toUInt16 = replica := by
  have hreplica := replica.toNat_lt
  refine UInt16.toNat.inj ?_
  rw [UInt64.toNat_toUInt16, toNat_ofValue]
  omega

lemma shiftRight_ofValue (replica : UInt16) (value : UInt64) :
    ofValue replica value >>> 16 = Counter.ofValue value := by
  have hreplica := replica.toNat_lt
  refine UInt64.toNat.inj ?_
  rw [Counter.toNat_shiftRight, toNat_ofValue]
  omega

lemma ofValue_eq_iff {r s : UInt16} {v w : UInt64} :
    ofValue r v = ofValue s w ↔ r = s ∧ v.toNat % 2 ^ 48 = w.toNat % 2 ^ 48 := by
  constructor
  · intro h
    constructor
    · rw [← toUInt16_ofValue r v, h, toUInt16_ofValue]
    · rw [← Counter.toNat_toValue_ofValue, ← shiftRight_ofValue r v, h, shiftRight_ofValue,
        Counter.toNat_toValue_ofValue]
  · rintro ⟨rfl, h⟩
    rw [ofValue, ofValue, Counter.ofValue_congr h]

/-- **An entry id carries a replica and 48 bits of a counter.** A counter field keeps the low 48
bits of a value, and the value of a field is made without its last two bytes in memory. Replica and
field are read off an entry id, so that ids are the same if and only if their replicas are and
their values agree in 48 bits. Counters of 48 bits are in the order in which the bytes of their
fields are. -/
theorem carries_replica_and_counter :
    (∀ v, (Counter.toValue (Counter.ofValue v)).toNat = v.toNat % 2 ^ 48) ∧
    (∀ g, Counter.memory (Counter.ofValue (Counter.toValue g)) =
      (Counter.memory g).take 6 ++ [0, 0]) ∧
    (∀ r v, (ofValue r v).toUInt16 = r ∧
      (Counter.toValue (ofValue r v >>> 16)).toNat = v.toNat % 2 ^ 48) ∧
    (∀ r s v w, ofValue r v = ofValue s w ↔ r = s ∧ v.toNat % 2 ^ 48 = w.toNat % 2 ^ 48) ∧
    ∀ v w : UInt64, v.toNat < 2 ^ 48 → w.toNat < 2 ^ 48 →
      ((Counter.memory (Counter.ofValue v)).Lex (· < ·) (Counter.memory (Counter.ofValue w)) ↔
        v < w) := by
  refine ⟨Counter.toNat_toValue_ofValue, Counter.memory_ofValue_toValue, fun r v => ?_,
    fun _ _ _ _ => ofValue_eq_iff, fun v w hv hw => ?_⟩
  · rw [shiftRight_ofValue]
    exact ⟨toUInt16_ofValue r v, Counter.toNat_toValue_ofValue v⟩
  · rw [Counter.memory_lex_iff, Nat.mod_eq_of_lt hv, Nat.mod_eq_of_lt hw, UInt64.lt_iff_toNat_lt]

/-- Counters of which the least significant bytes are in the opposite order, and an id whose value
is cut off. -/
theorem carries_replica_and_counter_wide :
    let v : UInt64 := 0x0000010000FF
    let w : UInt64 := 0x000002000000
    let wide : UInt64 := 0xABCD000002000000
    ((v.toNat < 2 ^ 48 ∧ w.toNat < 2 ^ 48) ∧
      (Counter.memory (Counter.ofValue v)).Lex (· < ·) (Counter.memory (Counter.ofValue w))) ∧
    Counter.memory (Counter.ofValue v) = [0, 0, 1, 0, 0, 0xFF, 0, 0] ∧
    ofValue 5 wide = ofValue 5 w ∧ ofValue 5 wide ≠ ofValue 6 wide := by
  intro v w wide
  obtain ⟨-, -, -, hids, horder⟩ := carries_replica_and_counter
  have hv : v.toNat < 2 ^ 48 := by decide
  have hw : w.toNat < 2 ^ 48 := by decide
  refine ⟨⟨⟨hv, hw⟩, (horder v w hv hw).mpr (by decide)⟩, by decide,
    (hids 5 5 wide w).mpr ⟨rfl, by decide⟩, fun h => ?_⟩
  have hreplica : (5 : UInt16) = 6 := ((hids 5 6 wide wide).mp h).1
  exact absurd hreplica (by decide)

end EntryId

end StoreRpc
