import StoreRpc.Property.Propval
import StoreRpc.Proofs.Calendar.Moment
import StoreRpc.Proofs.Filetime.Unix

/-!
How values are shown.

A timestamp is shown as the date and time of the second that it falls in. All of them are in the
calendar, and no two seconds are shown alike. Other values are shown as their text.
-/

namespace StoreRpc

open Calendar

/-! ### Timestamps -/

namespace Filetime

/-- The calendar goes on behind the last tick. -/
lemma exists_text? (ticks : UInt64) : ∃ m : Moment,
    m.Civil ∧ m.seconds = ticks.toNat / 10 ^ 7 ∧ text? ticks = some m.text := by
  have hlast : ticks.toNat / 10 ^ 7 < 2 ^ 41 := by
    have := ticks.toNat_lt
    omega
  obtain ⟨m, hm, hcivil, hseconds⟩ := Moment.exists_ofUnix? (toInt_toUnix ticks) hlast
  exact ⟨m, hcivil, hseconds, by rw [text?, hm, Option.map_some]⟩

end Filetime

namespace Propval

lemma display_of_type_ne {p : Propval} (h : p.type ≠ .fileTime) : p.display = p.payload.text := by
  unfold display
  split
  · contradiction
  · rfl

lemma exists_display (tag : UInt32) (v : UInt64) : ∃ m : Moment, m.Civil ∧
    m.seconds = v.toNat / 10 ^ 7 ∧ display ⟨tag, .fileTime, .longLong v⟩ = m.text := by
  obtain ⟨m, hcivil, hseconds, htext⟩ := Filetime.exists_text? v
  refine ⟨m, hcivil, hseconds, ?_⟩
  simp only [display, htext, Option.getD_some]

/-- There is a blank in the text of a moment, but not in a number. -/
lemma text_ne_longLong (m : Moment) (v : UInt64) : m.text ≠ Payload.text (.longLong v) := by
  intro h
  have hblank : ' ' ∈ m.text.toList := by simp [Moment.toList_text]
  have htext : (Payload.text (.longLong v)).toList = Nat.toDigits 10 v.toNat := Nat.toList_repr
  rw [h, htext] at hblank
  exact absurd (Nat.isDigit_of_mem_toDigits (by decide) (by decide) hblank) (by decide)

/-- **A timestamp is shown as the second that it falls in.** It is never shown as a number, but as
the one date and time that is as many seconds after the beginning of 1601 as there are whole
seconds in its ticks, with weekday, month, day, time and year where they belong. So timestamps are
shown alike if and only if they fall in the same second. A value of any other type is shown as its
text. -/
theorem display_whole_second :
    (∀ (tag : UInt32) (v : UInt64), ∃ m : Moment,
      (∀ m' : Moment, m'.Civil ∧ m'.seconds = v.toNat / 10 ^ 7 ↔ m' = m) ∧
        display ⟨tag, .fileTime, .longLong v⟩ = m.text ∧
        Moment.ofText (display ⟨tag, .fileTime, .longLong v⟩) = m ∧
        display ⟨tag, .fileTime, .longLong v⟩ ≠ Payload.text (.longLong v)) ∧
    (∀ (tag tag' : UInt32) (v w : UInt64),
      display ⟨tag, .fileTime, .longLong v⟩ = display ⟨tag', .fileTime, .longLong w⟩ ↔
        v.toNat / 10 ^ 7 = w.toNat / 10 ^ 7) ∧
    ∀ p : Propval, p.type ≠ .fileTime → p.display = p.payload.text := by
  refine ⟨fun tag v => ?_, fun tag tag' v w => ?_, fun p => display_of_type_ne⟩
  · obtain ⟨m, hcivil, hseconds, htext⟩ := exists_display tag v
    refine ⟨m, fun m' => ⟨fun ⟨hcivil', hseconds'⟩ => ?_, ?_⟩, htext,
      htext ▸ Moment.ofText_text hcivil, htext ▸ text_ne_longLong m v⟩
    · exact Moment.seconds_injective hcivil' hcivil (hseconds'.trans hseconds.symm)
    · rintro rfl
      exact ⟨hcivil, hseconds⟩
  · obtain ⟨m, hcivil, hseconds, htext⟩ := exists_display tag v
    obtain ⟨m', hcivil', hseconds', htext'⟩ := exists_display tag' w
    rw [htext, htext', ← hseconds, ← hseconds']
    constructor
    · exact fun h => congrArg Moment.seconds (Moment.text_injective hcivil hcivil' h)
    · exact fun h => congrArg Moment.text (Moment.seconds_injective hcivil hcivil' h)

/-- The billionth second since 1970, its last tick, the last tick of all, and a value that only
looks like a timestamp. -/
theorem display_whole_second_billion :
    let shown (v : UInt64) : String := display ⟨0x30070040, .fileTime, .longLong v⟩
    let number : Propval := ⟨0x30070014, .longLong, .longLong 126444736000000000⟩
    shown 126444736000000000 = "Sun Sep  9 01:46:40 2001" ∧
      shown 126444736009999999 = shown 126444736000000000 ∧
      shown 18446744073709551615 = "Sun May 28 05:36:10 +60056" ∧
      number.display = "126444736000000000" := by
  intro shown number
  obtain ⟨-, hsame, hother⟩ := display_whole_second
  exact ⟨by decide, (hsame _ _ _ _).mpr (by decide), by decide, hother number (by decide)⟩

end Propval

end StoreRpc
