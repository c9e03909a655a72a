import Mathlib.Data.List.GetD
import Mathlib.Tactic.IntervalCases
import StoreRpc.Proofs.Calendar.Date

/-!
Dates and times and their texts.

A text has a fixed number of places for everything but the year, which stands at its end. So a
moment can be read off its text, each part where it stands, and the moment tells the second.
-/

namespace StoreRpc.Calendar

namespace Moment

/-! ### Seconds -/

/-- The date and the time of day exist, and the weekday is the one of the date: 1 January 1601 was
a Monday. -/
structure Civil (m : Moment) : Prop where
  date : m.date.Valid
  weekday : m.weekday = m.date.days % 7
  hour : m.hour < 24
  minute : m.minute < 60
  second : m.second < 60

/-- The seconds from the beginning of 1601 to the moment. -/
def seconds (m : Moment) : Nat := 86400 * m.date.days + 3600 * m.hour + 60 * m.minute + m.second

lemma seconds_injective {m m' : Moment} (h : m.Civil) (h' : m'.Civil)
    (heq : m.seconds = m'.seconds) : m = m' := by
  obtain ⟨date, weekday, hour, minute, second⟩ := m
  obtain ⟨date', weekday', hour', minute', second'⟩ := m'
  obtain ⟨hdate, hweekday, hhour, hminute, hsecond⟩ := h
  obtain ⟨hdate', hweekday', hhour', hminute', hsecond'⟩ := h'
  simp only [seconds] at *
  obtain rfl : date = date' := Date.days_injective hdate hdate' (by omega)
  obtain rfl : hour = hour' := by omega
  obtain rfl : minute = minute' := by omega
  obtain rfl : second = second' := by omega
  rw [hweekday, hweekday']

/-- The calendar has every second that can be reached from 1601, and far more. -/
lemma exists_ofUnix? {unix : Int64} {n : Nat} (h : unix.toInt = n - 11644473600) (hn : n < 2 ^ 41) :
    ∃ m, ofUnix? unix = some m ∧ m.Civil ∧ m.seconds = n := by
  have hday : unixDay + unix.toInt / 86400 = (n / 86400 : Nat) := by
    rw [unixDay]
    omega
  have htime : (unix.toInt % 86400).toNat = n % 86400 := by omega
  obtain ⟨hvalid, hdays⟩ := Date.ofDays_spec (n / 86400)
  -- With 365 days in every year, 41 bits of seconds do not reach the year 72000.
  have hlast := Date.year_le hvalid
  have hfirst := hvalid.year
  simp only [ofUnix?, hday, htime]
  rw [if_pos (by rw [firstYear, lastYear]; omega)]
  refine ⟨_, rfl, ⟨hvalid, ?_, ?_, ?_, ?_⟩, ?_⟩ <;> simp only [seconds, hdays] <;> omega

end Moment

/-! ### Numbers in their places -/

/-- A blank and a sign count as a zero, so that a number is read back from its places. -/
lemma ofDigitChars_filled {fill : Char} (h : fill.toNat ≤ '0'.toNat) (w n : Nat) :
    Nat.ofDigitChars 10 (filled w fill n).toList 0 = n := by
  have hfill (k : Nat) : Nat.ofDigitChars 10 (List.replicate k fill) 0 = 0 := by
    induction k with
    | zero => rfl
    | succ k ih =>
      rw [List.replicate_succ, Nat.ofDigitChars_cons, Nat.sub_eq_zero_of_le h]
      exact ih
  rw [filled, String.toList_ofList, Nat.ofDigitChars_append, hfill,
    Nat.ofDigitChars_toDigits (by decide) (by decide)]

lemma length_filled {w n : Nat} (hw : 0 < w) (h : n < 10 ^ w) (fill : Char) :
    (filled w fill n).toList.length = w := by
  have hle := (Nat.length_toDigits_le_iff (by decide) hw).mpr h
  rw [filled, String.toList_ofList, List.length_append, List.length_replicate]
  exact Nat.sub_add_cancel hle

lemma ofDigitChars_yearText (year : Int) :
    Nat.ofDigitChars 10 (yearText year).toList 0 = year.natAbs := by
  have hzero : '0'.toNat ≤ '0'.toNat := le_rfl
  simp only [yearText]
  split_ifs <;> rw [String.toList_append, Nat.ofDigitChars_append] <;>
    exact ofDigitChars_filled hzero 4 _

/-! ### Texts -/

/-- Names are as long as one another, so that they end at the same place. -/
lemma length_name {names : List String} {i : Nat} (hi : i < names.length)
    (h : ∀ name ∈ names, name.toList.length = 3) : (names.getD i "").toList.length = 3 := by
  rw [List.getD_eq_getElem _ _ hi]
  exact h _ (List.getElem_mem hi)

/-- The number of the weekday with this name. -/
def weekdayNumber : List Char → Nat
  | ['M', 'o', 'n'] => 0
  | ['T', 'u', 'e'] => 1
  | ['W', 'e', 'd'] => 2
  | ['T', 'h', 'u'] => 3
  | ['F', 'r', 'i'] => 4
  | ['S', 'a', 't'] => 5
  | ['S', 'u', 'n'] => 6
  | _ => 7

/-- The number of the month with this name. -/
def monthNumber : List Char → Nat
  | ['J', 'a', 'n'] => 1
  | ['F', 'e', 'b'] => 2
  | ['M', 'a', 'r'] => 3
  | ['A', 'p', 'r'] => 4
  | ['M', 'a', 'y'] => 5
  | ['J', 'u', 'n'] => 6
  | ['J', 'u', 'l'] => 7
  | ['A', 'u', 'g'] => 8
  | ['S', 'e', 'p'] => 9
  | ['O', 'c', 't'] => 10
  | ['N', 'o', 'v'] => 11
  | ['D', 'e', 'c'] => 12
  | _ => 0

lemma weekdayNumber_name {i : Nat} (hi : i < 7) :
    weekdayNumber (weekdayNames.getD i "").toList = i := by
  interval_cases i <;> rfl

lemma monthNumber_name {month : Nat} (h : 1 ≤ month ∧ month ≤ 12) :
    monthNumber (monthNames.getD (month - 1) "").toList = month := by
  obtain ⟨hlow, hhigh⟩ := h
  interval_cases month <;> rfl

namespace Moment

lemma toList_text (m : Moment) : m.text.toList =
    (weekdayNames.getD m.weekday "").toList ++ ' ' ::
      ((monthNames.getD (m.date.month - 1) "").toList ++ ' ' ::
        ((filled 2 ' ' m.date.day).toList ++ ' ' ::
          ((filled 2 '0' m.hour).toList ++ ':' ::
            ((filled 2 '0' m.minute).toList ++ ':' ::
              ((filled 2 '0' m.second).toList ++ ' ' :: (yearText m.date.year).toList))))) := by
  simp [text]

/-- The places that a moment takes. -/
structure Places (m : Moment) : Prop where
  weekday : (weekdayNames.getD m.weekday "").toList.length = 3
  month : (monthNames.getD (m.date.month - 1) "").toList.length = 3
  day : (filled 2 ' ' m.date.day).toList.length = 2
  hour : (filled 2 '0' m.hour).toList.length = 2
  minute : (filled 2 '0' m.minute).toList.length = 2
  second : (filled 2 '0' m.second).toList.length = 2

lemma Civil.places {m : Moment} (h : m.Civil) : Places m := by
  obtain ⟨⟨-, hmonth, hday⟩, hweekday, hhour, hminute, hsecond⟩ := h
  have hshort : monthLength m.date.year m.date.month ≤ 31 := by
    unfold monthLength
    split_ifs <;> decide
  have htwo {n : Nat} (hn : n < 10 ^ 2) (fill : Char) : (filled 2 fill n).toList.length = 2 :=
    length_filled (by decide) hn fill
  refine ⟨length_name ?_ (by decide), length_name ?_ (by decide), htwo ?_ _, htwo ?_ _, htwo ?_ _,
    htwo ?_ _⟩
  · exact hweekday ▸ Nat.mod_lt _ (by decide)
  · exact Nat.sub_one_lt_of_le hmonth.1 hmonth.2
  all_goals omega

/-- The moment that is read off the places of a text, such as `Sun Sep  9 01:46:40 2001`. -/
def ofText (s : String) : Moment :=
  let places (i n : Nat) : List Char := (s.toList.drop i).take n
  { date :=
      { year := Nat.ofDigitChars 10 (s.toList.drop 20) 0
        month := monthNumber (places 4 3)
        day := Nat.ofDigitChars 10 (places 8 2) 0 }
    weekday := weekdayNumber (places 0 3)
    hour := Nat.ofDigitChars 10 (places 11 2) 0
    minute := Nat.ofDigitChars 10 (places 14 2) 0
    second := Nat.ofDigitChars 10 (places 17 2) 0 }

/-- Parts that take the places they should are read where they stand. -/
lemma ofText_eq {s : String} {weekday month day hour minute second year : List Char}
    (hs : s.toList = weekday ++ ' ' :: (month ++ ' ' :: (day ++ ' ' :: (hour ++ ':' ::
      (minute ++ ':' :: (second ++ ' ' :: year))))))
    (hweekday : weekday.length = 3) (hmonth : month.length = 3) (hday : day.length = 2)
    (hhour : hour.length = 2) (hminute : minute.length = 2) (hsecond : second.length = 2) :
    ofText s = ⟨⟨(Nat.ofDigitChars 10 year 0 : Nat), monthNumber month,
      Nat.ofDigitChars 10 day 0⟩, weekdayNumber weekday, Nat.ofDigitChars 10 hour 0,
      Nat.ofDigitChars 10 minute 0, Nat.ofDigitChars 10 second 0⟩ := by
  obtain ⟨_, _, _, rfl⟩ := List.length_eq_three.mp hweekday
  obtain ⟨_, _, _, rfl⟩ := List.length_eq_three.mp hmonth
  obtain ⟨_, _, rfl⟩ := List.length_eq_two.mp hday
  obtain ⟨_, _, rfl⟩ := List.length_eq_two.mp hhour
  obtain ⟨_, _, rfl⟩ := List.length_eq_two.mp hminute
  obtain ⟨_, _, rfl⟩ := List.length_eq_two.mp hsecond
  rw [ofText, hs]
  rfl

/-- The text tells the moment. -/
lemma ofText_text {m : Moment} (h : m.Civil) : ofText m.text = m := by
  have hp := h.places
  have hblank : ' '.toNat ≤ '0'.toNat := by decide
  have hyear : (m.date.year.natAbs : Int) = m.date.year := by
    have := h.date.year
    omega
  have hweekday : m.weekday < 7 := h.weekday ▸ Nat.mod_lt _ (by decide)
  rw [ofText_eq m.toList_text hp.weekday hp.month hp.day hp.hour hp.minute hp.second,
    weekdayNumber_name hweekday, monthNumber_name h.date.month, ofDigitChars_filled hblank,
    ofDigitChars_filled le_rfl, ofDigitChars_filled le_rfl, ofDigitChars_filled le_rfl,
    ofDigitChars_yearText, hyear]

lemma text_injective {m m' : Moment} (h : m.Civil) (h' : m'.Civil) (heq : m.text = m'.text) :
    m = m' := by
  rw [← ofText_text h, heq, ofText_text h']

end Moment

end StoreRpc.Calendar
