import Mathlib.Algebra.BigOperators.Intervals
import Mathlib.Algebra.Order.BigOperators.Group.Finset
import StoreRpc.Calendar

/-!
Dates and the days that lead up to them.

The days of the calendar are laid out in years, and the days of a year in months. A number of days
ends in one year and in one month of it, which is what counting off the cycles of leap years finds.
So there is one date for every number of days since 1601.
-/

namespace StoreRpc.Calendar

/-! ### The calendar -/

/-- Every fourth year is a leap year, but of the years that end a century only every fourth. -/
def Leap (year : Int) : Prop := 4 ∣ year ∧ (100 ∣ year → 400 ∣ year)

instance (year : Int) : Decidable (Leap year) := inferInstanceAs (Decidable (_ ∧ _))

def monthLength (year : Int) (month : Nat) : Nat :=
  if month = 2 then if Leap year then 29 else 28
  else if month = 4 ∨ month = 6 ∨ month = 9 ∨ month = 11 then 30
  else 31

def yearLength (year : Int) : Nat := ∑ month ∈ Finset.Ico 1 13, monthLength year month

namespace Date

/-- The date is one of the calendar, and not before 1601. -/
structure Valid (date : Date) : Prop where
  year : 1601 ≤ date.year
  month : 1 ≤ date.month ∧ date.month ≤ 12
  day : 1 ≤ date.day ∧ date.day ≤ monthLength date.year date.month

/-- The years that are over since the beginning of 1601. -/
def years (date : Date) : Nat := (date.year - 1601).toNat

/-- The days from 1 January 1601 to the date. -/
def days (date : Date) : Nat :=
  ∑ n ∈ Finset.Ico 0 date.years, yearLength (1601 + n) +
    ∑ month ∈ Finset.Ico 1 date.month, monthLength date.year month + (date.day - 1)

end Date

/-! ### Blocks -/

section Blocks

variable (length : Nat → Nat) {first i j m n : Nat}

/-- A block is over where a later one begins. -/
lemma sum_add_le_sum (hi : first ≤ i) (h : i < j) :
    ∑ b ∈ Finset.Ico first i, length b + length i ≤ ∑ b ∈ Finset.Ico first j, length b := by
  rw [← Finset.sum_Ico_succ_top hi]
  exact Finset.sum_le_sum_of_subset (Finset.Ico_subset_Ico_right h)

/-- Blocks in a row do not overlap. -/
lemma eq_of_sum_add_eq (hi : first ≤ i) (hj : first ≤ j) (hm : m < length i) (hn : n < length j)
    (h : ∑ b ∈ Finset.Ico first i, length b + m = ∑ b ∈ Finset.Ico first j, length b + n) :
    i = j ∧ m = n := by
  rcases lt_trichotomy i j with hlt | rfl | hlt
  · have := sum_add_le_sum length hi hlt
    omega
  · exact ⟨rfl, Nat.add_left_cancel h⟩
  · have := sum_add_le_sum length hj hlt
    omega

end Blocks

/-! ### Years -/

lemma isLeap_iff (year : Int) : isLeap year = true ↔ Leap year := by
  simp only [isLeap, Leap, Bool.and_eq_true, Bool.or_eq_true, decide_eq_true_eq, bne_iff_ne]
  omega

lemma monthLengths_eq (year : Int) :
    monthLengths (isLeap year) = (List.range' 1 12).map (monthLength year) := by
  by_cases h : Leap year
  · have hleap := (isLeap_iff year).mpr h
    simp [hleap, monthLengths, List.range', monthLength, h]
  · have hleap := Bool.eq_false_iff.mpr (mt (isLeap_iff year).mp h)
    simp [hleap, monthLengths, List.range', monthLength, h]

lemma yearLength_eq (year : Int) : yearLength year = if Leap year then 366 else 365 := by
  rw [yearLength]
  by_cases h : Leap year <;> simp [Finset.sum_Ico_succ_top, monthLength, h]

/-- The leap days of the first years: one in every fourth, but for those that end a century and do
not end four. -/
def leapDays (years : Int) : Int := years / 4 - years / 100 + years / 400

lemma leapDays_succ (years : Int) :
    leapDays (years + 1) = leapDays years + if Leap (1601 + years) then 1 else 0 := by
  rw [leapDays, leapDays]
  split_ifs with h <;> rw [Leap] at h <;> omega

lemma sum_yearLength (years : Nat) :
    ((∑ n ∈ Finset.Ico 0 years, yearLength (1601 + n) : Nat) : Int) =
      365 * years + leapDays years := by
  induction years with
  | zero => rfl
  | succ years ih =>
    have hleap := leapDays_succ years
    have hyears : ((years + 1 : Nat) : Int) = years + 1 := Int.natCast_succ years
    rw [Finset.sum_Ico_succ_top (Nat.zero_le years), yearLength_eq, hyears]
    split_ifs at hleap ⊢ <;> omega

/-- A number of days as whole cycles of 400, 100, 4 and 1 years. A last day is left over only where
all the cycles around it end with a leap day. -/
lemma exists_cycles (d : Int) : ∃ (cycles : Int) (centuries fours ones left : Nat),
    yearOf d = (1601 + 400 * cycles + (100 * centuries + 4 * fours + ones : Nat), left) ∧
      d = 146097 * cycles + (36524 * centuries + 1461 * fours + 365 * ones + left : Nat) ∧
      centuries ≤ 3 ∧ fours ≤ 24 ∧ ones ≤ 3 ∧ left ≤ 365 ∧
      (left = 365 → ones = 3 ∧ (fours = 24 → centuries = 3)) := by
  have hd : d = 146097 * (d / 146097) + (d % 146097).toNat := by omega
  have hrest : (d % 146097).toNat < 146097 := by omega
  refine ⟨_, _, _, _, _, rfl, ?_⟩
  -- The counts that are cut at three leave the last day of a cycle to its last part.
  generalize (d % 146097).toNat = rest at hd hrest ⊢
  omega

lemma yearOf_spec (d : Nat) : ∃ years rest : Nat, yearOf d = (1601 + (years : Int), rest) ∧
    rest < yearLength (1601 + years) ∧
    ∑ n ∈ Finset.Ico 0 years, yearLength (1601 + n) + rest = d := by
  obtain ⟨cycles, centuries, fours, ones, left, hyear, hd, hcenturies, hfours, hones, hleft,
    hlast⟩ := exists_cycles d
  obtain ⟨years, hyears⟩ : ∃ years : Nat,
      (years : Int) = 400 * cycles + (100 * centuries + 4 * fours + ones : Nat) :=
    ⟨_, Int.toNat_of_nonneg (by omega)⟩
  have hleap : Leap (1601 + years) ↔ ones = 3 ∧ (fours = 24 → centuries = 3) := by
    rw [Leap]
    omega
  refine ⟨years, left, ?_, ?_, ?_⟩
  · rw [hyear, hyears, Int.add_assoc]
  · rw [yearLength_eq]
    split_ifs with h
    · exact Nat.lt_succ_of_le hleft
    · exact lt_of_le_of_ne hleft fun hleft => h (hleap.mpr (hlast hleft))
  · have hsum := sum_yearLength years
    rw [leapDays] at hsum
    omega

/-! ### Months -/

/-- The month in which a number of days ends, and the day of it. -/
lemma exists_inMonths {length : Nat → Nat} {first count d : Nat}
    (h : d < ∑ m ∈ Finset.Ico first (first + count), length m) :
    ∃ month day, inMonths first ((List.range' first count).map length) d = (month, day + 1) ∧
      first ≤ month ∧ month < first + count ∧ day < length month ∧
      ∑ m ∈ Finset.Ico first month, length m + day = d := by
  induction count generalizing first d with
  | zero => simp at h
  | succ count ih =>
    rw [List.range'_succ, List.map_cons, inMonths]
    rw [Finset.sum_eq_sum_Ico_succ_bot (by omega)] at h
    by_cases hd : d < length first
    · rw [if_pos hd]
      exact ⟨first, d, rfl, le_rfl, by omega, hd, by simp⟩
    · -- The first month is over, so that the rest ends in a later one.
      have hrest : d - length first < ∑ m ∈ Finset.Ico (first + 1) (first + 1 + count), length m := by
        rw [Nat.add_right_comm, Nat.add_assoc]
        omega
      obtain ⟨month, day, heq, hfirst, hlast, hday, hsum⟩ := ih hrest
      rw [if_neg hd, heq]
      refine ⟨month, day, rfl, by omega, by omega, hday, ?_⟩
      rw [Finset.sum_eq_sum_Ico_succ_bot (by omega)]
      omega

/-! ### Dates -/

namespace Date

lemma year_eq {date : Date} (h : date.Valid) : date.year = 1601 + date.years := by
  have := h.year
  rw [years]
  omega

/-- No year is shorter than 365 days. -/
lemma year_le {date : Date} (h : date.Valid) : 365 * (date.year - 1601) ≤ date.days := by
  have hsum := sum_yearLength date.years
  have hyear := year_eq h
  rw [leapDays] at hsum
  rw [days]
  omega

lemma dayOfYear_lt {date : Date} (h : date.Valid) :
    ∑ month ∈ Finset.Ico 1 date.month, monthLength date.year month + (date.day - 1) <
      yearLength (1601 + date.years) := by
  obtain ⟨hfirst, hlast⟩ := h.month
  have hday := h.day
  have hmonth := sum_add_le_sum (monthLength date.year) hfirst (show date.month < 13 by omega)
  rw [← year_eq h, yearLength]
  omega

/-- The days to a date tell which one it is. -/
lemma days_injective {date date' : Date} (h : date.Valid) (h' : date'.Valid)
    (hdays : date.days = date'.days) : date = date' := by
  rw [days, days, Nat.add_assoc, Nat.add_assoc] at hdays
  obtain ⟨hyears, hrest⟩ := eq_of_sum_add_eq (fun n => yearLength (1601 + n)) (Nat.zero_le _)
    (Nat.zero_le _) (dayOfYear_lt h) (dayOfYear_lt h') hdays
  have hyear : date.year = date'.year := by rw [year_eq h, year_eq h', hyears]
  have hday := h.day
  have hday' := h'.day
  rw [← hyear] at hrest hday'
  obtain ⟨hmonth, hrest⟩ := eq_of_sum_add_eq (monthLength date.year) h.month.1 h'.month.1
    (by omega) (by omega) hrest
  exact Date.ext hyear hmonth (by omega)

/-- Every number of days leads to a date. -/
lemma ofDays_spec (d : Nat) : (ofDays d).Valid ∧ (ofDays d).days = d := by
  obtain ⟨years, rest, hd, hrest, hsum⟩ := yearOf_spec d
  have hrest : rest < ∑ m ∈ Finset.Ico 1 (1 + 12), monthLength (1601 + years) m := hrest
  obtain ⟨month, day, heq, hmonth, hlast, hday, hsum'⟩ := exists_inMonths hrest
  rw [← monthLengths_eq] at heq
  have hdate : ofDays d = ⟨1601 + years, month, day + 1⟩ := by simp only [ofDays, hd, heq]
  have hyears : Date.years ⟨1601 + years, month, day + 1⟩ = years := by
    simp only [Date.years]
    omega
  rw [hdate]
  refine ⟨⟨?_, ⟨hmonth, Nat.le_of_lt_succ hlast⟩, Nat.le_add_left 1 day, hday⟩, ?_⟩
  · exact Int.le_add_of_nonneg_right (Int.natCast_nonneg years)
  · rw [days, hyears]
    dsimp only
    omega

end Date

end StoreRpc.Calendar
