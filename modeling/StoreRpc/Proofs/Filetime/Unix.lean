import Mathlib.Tactic.NormNum
import StoreRpc.Filetime

/-!
Timestamps and seconds since 1970.

Every step of the two conversions is computed as the number that it stands for, or as the nearest
that its word can hold. So each conversion is one formula over the integers, and the laws that bind
them together are facts about these formulas.
-/

namespace StoreRpc.Filetime

/-! ### Clamped arithmetic -/

lemma toInt_addClamped (a b : Int64) :
    (addClamped a b).toInt = max (-2 ^ 63) (min (a.toInt + b.toInt) (2 ^ 63 - 1)) := by
  have hlow : Int64.minValue.toInt = -2 ^ 63 := rfl
  have hhigh : Int64.maxValue.toInt = 2 ^ 63 - 1 := rfl
  unfold addClamped Int64.ofIntClamp
  split_ifs with h h'
  · rw [Int64.toInt_ofIntLE]
    omega
  · omega
  · omega

lemma toNat_mulClamped (a b : UInt64) :
    (mulClamped a b).toNat = min (a.toNat * b.toNat) (2 ^ 64 - 1) := by
  have hsize : UInt64.size = 2 ^ 64 := rfl
  unfold mulClamped
  by_cases h : a.toNat * b.toNat < UInt64.size
  · rw [UInt64.toNat_ofNatClamp_of_lt h]
    omega
  · rw [UInt64.toNat_ofNatClamp_of_le (Nat.not_lt.mp h)]
    omega

/-- A number without a sign keeps its value as one with a sign. -/
lemma toInt_toInt64 {a : UInt64} (h : a.toNat < 2 ^ 63) : a.toInt64.toInt = a.toNat :=
  BitVec.toInt_eq_toNat_of_lt (show 2 * a.toNat < 2 ^ 64 by omega)

/-- What is not below zero has no sign to lose. -/
lemma toNat_toUInt64_max_zero (a : Int64) : ((max a 0).toUInt64.toNat : Int) = max a.toInt 0 := by
  have hmax : max a 0 = if a ≤ 0 then 0 else a := rfl
  have hzero : (0 : Int64).toInt = 0 := rfl
  rw [hmax]
  split_ifs with h
  · rw [Int64.le_iff_toInt_le, hzero] at h
    exact (Int.max_eq_right h).symm
  · rw [Int64.le_iff_toInt_le] at h
    have hnonneg : 0 ≤ a := Int64.le_iff_toInt_le.mpr (by omega)
    rw [Int64.toNat_toUInt64_of_le hnonneg, ← Int64.toInt_eq_toNatClampNeg hnonneg]
    omega

/-! ### The steps of the conversions -/

/-- The steps from ticks to seconds give just the numbers that they stand for. -/
structure ToUnixExact (ticks : UInt64) : Prop where
  quotient : (seconds ticks).toNat = ticks.toNat / ticksPerSecond.toNat
  signed : (seconds ticks).toInt64.toInt = (seconds ticks).toNat
  difference : (toUnix ticks).toInt = (seconds ticks).toInt64.toInt - unixEpoch.toInt

/-- The steps from seconds to ticks give the numbers that they stand for, or the last number where
they would pass it. -/
structure OfUnixExact (unix : Int64) : Prop where
  sum : (addClamped unix unixEpoch).toInt = min (unix.toInt + unixEpoch.toInt) (2 ^ 63 - 1)
  unsigned : ((secondsOfUnix unix).toNat : Int) = max (addClamped unix unixEpoch).toInt 0
  product : (ofUnix unix).toNat =
    min ((secondsOfUnix unix).toNat * ticksPerSecond.toNat) (2 ^ 64 - 1)

lemma toNat_ticksPerSecond : ticksPerSecond.toNat = 10000000 := rfl

lemma toInt_unixEpoch : unixEpoch.toInt = 11644473600 := rfl

lemma toUnixExact (ticks : UInt64) : ToUnixExact ticks := by
  have hlt := ticks.toNat_lt
  have hquotient : (seconds ticks).toNat = ticks.toNat / ticksPerSecond.toNat :=
    UInt64.toNat_div ticks ticksPerSecond
  -- The seconds of the last tick leave the bit of the sign free.
  have hsigned : (seconds ticks).toInt64.toInt = (seconds ticks).toNat := by
    refine toInt_toInt64 ?_
    rw [hquotient, toNat_ticksPerSecond]
    omega
  refine ⟨hquotient, hsigned, ?_⟩
  rw [toUnix, Int64.toInt_sub, hsigned, hquotient, toInt_unixEpoch, toNat_ticksPerSecond]
  exact Int.bmod_eq_of_le (by omega) (by omega)

lemma ofUnixExact (unix : Int64) : OfUnixExact unix where
  sum := by
    have hlow := unix.le_toInt
    rw [toInt_addClamped, toInt_unixEpoch]
    omega
  unsigned := toNat_toUInt64_max_zero _
  product := toNat_mulClamped _ _

/-! ### The conversions as formulas -/

lemma toInt_toUnix (ticks : UInt64) :
    (toUnix ticks).toInt = (ticks.toNat / 10000000 : Nat) - 11644473600 := by
  obtain ⟨hquotient, hsigned, hdifference⟩ := toUnixExact ticks
  rw [hdifference, hsigned, hquotient, toNat_ticksPerSecond, toInt_unixEpoch]

/-- The ticks from the beginning of 1601 to a second since 1970, as many as they are. -/
def exactTicks (unix : Int64) : Int := (unix.toInt + unixEpoch.toInt) * ticksPerSecond.toNat

lemma exactTicks_eq (unix : Int64) :
    exactTicks unix = (unix.toInt + 11644473600) * 10000000 := rfl

/-- Seconds that a word with a sign cannot hold lie behind the last tick, so that it makes no
difference that their sum is clamped before the product is. -/
lemma toNat_ofUnix (unix : Int64) :
    ((ofUnix unix).toNat : Int) = min (max (exactTicks unix) 0) (2 ^ 64 - 1) := by
  obtain ⟨hsum, hunsigned, hproduct⟩ := ofUnixExact unix
  rw [toNat_ticksPerSecond] at hproduct
  rw [hsum, toInt_unixEpoch] at hunsigned
  rw [exactTicks_eq]
  omega

/-! ### Their laws -/

/-- No later than a timestamp is the same before the conversion and after it. -/
lemma ofUnix_le_iff {unix : Int64} {ticks : UInt64} (h : ticks.toNat < 2 ^ 64 - 1) :
    ofUnix unix ≤ ticks ↔ unix ≤ toUnix ticks := by
  have hofUnix := toNat_ofUnix unix
  rw [exactTicks_eq] at hofUnix
  rw [UInt64.le_iff_toNat_le, Int64.le_iff_toInt_le, toInt_toUnix]
  omega

lemma ofUnix_mono {a b : Int64} (h : a ≤ b) : ofUnix a ≤ ofUnix b := by
  have ha := toNat_ofUnix a
  have hb := toNat_ofUnix b
  rw [exactTicks_eq] at ha hb
  rw [Int64.le_iff_toInt_le] at h
  rw [UInt64.le_iff_toNat_le]
  omega

lemma toUnix_mono {a b : UInt64} (h : a ≤ b) : toUnix a ≤ toUnix b := by
  rw [UInt64.le_iff_toNat_le] at h
  rw [Int64.le_iff_toInt_le, toInt_toUnix, toInt_toUnix]
  omega

/-- A second that has a tick comes back. -/
lemma toUnix_ofUnix {unix : Int64} (hlow : 0 ≤ exactTicks unix)
    (hhigh : exactTicks unix < 2 ^ 64) : toUnix (ofUnix unix) = unix := by
  have hofUnix := toNat_ofUnix unix
  rw [exactTicks_eq] at hlow hhigh hofUnix
  refine Int64.toInt_inj.mp ?_
  rw [toInt_toUnix]
  omega

/-- A timestamp comes back without its fraction of a second. -/
lemma toNat_ofUnix_toUnix (ticks : UInt64) :
    (ofUnix (toUnix ticks)).toNat = ticks.toNat / 10000000 * 10000000 := by
  have hlt := ticks.toNat_lt
  have hofUnix := toNat_ofUnix (toUnix ticks)
  rw [exactTicks_eq, toInt_toUnix] at hofUnix
  omega

lemma ofUnix_of_le_zero {unix : Int64} (h : exactTicks unix ≤ 0) : ofUnix unix = 0 := by
  have hofUnix := toNat_ofUnix unix
  refine UInt64.toNat.inj ?_
  rw [UInt64.toNat_zero]
  omega

lemma toNat_ofUnix_of_ge_last {unix : Int64} (h : 2 ^ 64 - 1 ≤ exactTicks unix) :
    (ofUnix unix).toNat = 2 ^ 64 - 1 := by
  have hofUnix := toNat_ofUnix unix
  omega

/-- **The conversions are adjoint, and nothing in them wraps.** Before the last tick, a second is
no later than a timestamp if and only if its own timestamp is not. So both conversions keep the
order, a second that has a tick comes back, and a timestamp comes back without its fraction of a
second; a second without a tick has the first timestamp or the last one. -/
theorem unix_adjoint :
    (∀ (unix : Int64) (ticks : UInt64), ticks.toNat < 2 ^ 64 - 1 →
      (ofUnix unix ≤ ticks ↔ unix ≤ toUnix ticks)) ∧
    (∀ ticks, ToUnixExact ticks) ∧
    (∀ unix, OfUnixExact unix) ∧
    (∀ a b, a ≤ b → ofUnix a ≤ ofUnix b) ∧
    (∀ a b, a ≤ b → toUnix a ≤ toUnix b) ∧
    (∀ unix, 0 ≤ exactTicks unix → exactTicks unix < 2 ^ 64 → toUnix (ofUnix unix) = unix) ∧
    (∀ ticks, (ofUnix (toUnix ticks)).toNat = ticks.toNat / 10000000 * 10000000) ∧
    (∀ unix, exactTicks unix ≤ 0 → ofUnix unix = 0) ∧
    ∀ unix, 2 ^ 64 - 1 ≤ exactTicks unix → (ofUnix unix).toNat = 2 ^ 64 - 1 :=
  ⟨fun _ _ => ofUnix_le_iff, toUnixExact, ofUnixExact, fun _ _ => ofUnix_mono,
    fun _ _ => toUnix_mono, fun _ => toUnix_ofUnix, toNat_ofUnix_toUnix,
    fun _ => ofUnix_of_le_zero, fun _ => toNat_ofUnix_of_ge_last⟩

/-- The last second that has a tick, the one behind it, and the one before 1601. -/
theorem unix_adjoint_ends :
    let last : Int64 := 1833029933770
    let before : Int64 := -11644473601
    let ticks : UInt64 := 18446744073709551614
    (ticks.toNat < 2 ^ 64 - 1 ∧ (ofUnix (last + 1) ≤ ticks ↔ last + 1 ≤ toUnix ticks)) ∧
      (exactTicks last = 18446744073700000000 ∧ toUnix (ofUnix last) = last) ∧
      (before ≤ last ∧ ofUnix before ≤ ofUnix last) ∧
      (ofUnix (toUnix ticks)).toNat = 18446744073700000000 ∧
      (exactTicks before = -10000000 ∧ ofUnix before = 0) ∧
      exactTicks (last + 1) = 18446744073710000000 ∧ (ofUnix (last + 1)).toNat = 2 ^ 64 - 1 := by
  intro last before ticks
  obtain ⟨hadjoint, -, -, hmono, -, hback, hfloor, hfirst, hlast⟩ := unix_adjoint
  exact ⟨⟨by decide, hadjoint _ _ (by decide)⟩,
    ⟨by decide, hback last (by decide) (by decide)⟩, ⟨by decide, hmono _ _ (by decide)⟩,
    (hfloor ticks).trans (by decide), ⟨by decide, hfirst before (by decide)⟩, by decide,
    hlast _ (by decide)⟩

/-- At the last tick there is no such law: whatever is behind it is held to be at it. -/
example : ofUnix 1833029933771 ≤ 18446744073709551615 ∧
    ¬ (1833029933771 : Int64) ≤ toUnix 18446744073709551615 := by decide

end StoreRpc.Filetime
