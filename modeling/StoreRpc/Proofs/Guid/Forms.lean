import Mathlib.Data.List.Basic
import Mathlib.Tactic.IntervalCases
import StoreRpc.Guid.Uuid

/-!
The four forms of the digits of an identifier.

There are 32 digits. They stand in a text as they are, in groups with hyphens between them, and in
such groups in braces or behind `urn:uuid:`. Reading takes the digits out of any of these forms and
out of no other text, and letter case makes no difference to what is such a form.
-/

namespace StoreRpc.Uuid

/-! ### Groups -/

/-- A hyphen behind each group of these lengths. -/
def grouped : List Nat → List Char → List Char
  | [], ds => ds
  | n :: ns, ds => ds.take n ++ '-' :: grouped ns (ds.drop n)

/-- What is left when the character behind each group is taken out. -/
def ungrouped : List Nat → List Char → List Char
  | [], cs => cs
  | n :: ns, cs => cs.take n ++ ungrouped ns (cs.drop (n + 1))

/-- The character behind each group is a hyphen. -/
def Grouped : List Nat → List Char → Prop
  | [], _ => True
  | n :: ns, cs => cs[n]? = some '-' ∧ Grouped ns (cs.drop (n + 1))

/-- Each of the groups is as long as it is said to be, and whatever is left is behind them. -/
lemma grouped_append {n : Nat} {front : List Char} (h : front.length = n) (ns : List Nat)
    (back : List Char) : grouped (n :: ns) (front ++ back) = front ++ '-' :: grouped ns back := by
  rw [grouped, List.take_left' h, List.drop_left' h]

lemma grouped_ungrouped {ns : List Nat} {cs : List Char} (h : Grouped ns cs) :
    grouped ns (ungrouped ns cs) = cs := by
  induction ns generalizing cs with
  | nil => rfl
  | cons n ns ih =>
    obtain ⟨hmark, hrest⟩ := h
    obtain ⟨hn, hmark⟩ := List.getElem?_eq_some_iff.mp hmark
    have hfront : (cs.take n).length = n := List.length_take_of_le (Nat.le_of_lt hn)
    rw [ungrouped, grouped_append hfront, ih hrest, ← hmark, List.getElem_cons_drop,
      List.take_append_drop]

lemma length_grouped (ns : List Nat) (ds : List Char) :
    (grouped ns ds).length = ds.length + ns.length := by
  induction ns generalizing ds with
  | nil => rfl
  | cons n ns ih =>
    rw [grouped, List.length_append, List.length_cons, ih, List.length_take, List.length_drop,
      List.length_cons]
    omega

lemma grouped_grouped {ns : List Nat} {ds : List Char} (h : ns.sum ≤ ds.length) :
    Grouped ns (grouped ns ds) ∧ ungrouped ns (grouped ns ds) = ds := by
  induction ns generalizing ds with
  | nil => exact ⟨trivial, rfl⟩
  | cons n ns ih =>
    rw [List.sum_cons] at h
    have hfront : (ds.take n).length = n := List.length_take_of_le (by omega)
    have hrest : ns.sum ≤ (ds.drop n).length := by
      rw [List.length_drop]
      omega
    obtain ⟨hgrouped, hungrouped⟩ := ih hrest
    have hdrop : (grouped (n :: ns) ds).drop (n + 1) = grouped ns (ds.drop n) := by
      rw [grouped, ← List.drop_drop, List.drop_left' hfront]
      rfl
    refine ⟨⟨?_, hdrop ▸ hgrouped⟩, ?_⟩
    · rw [grouped, List.getElem?_append_right (Nat.le_of_eq hfront), hfront, Nat.sub_self]
      rfl
    · rw [ungrouped, hdrop, hungrouped, grouped, List.take_left' hfront, List.take_append_drop]

lemma map_grouped (ns : List Nat) (ds : List Char) :
    (grouped ns ds).map Char.toLower = grouped ns (ds.map Char.toLower) := by
  induction ns generalizing ds with
  | nil => rfl
  | cons n ns ih =>
    rw [grouped, List.map_append, List.map_cons, ih, List.map_take, List.map_drop]
    rfl

/-- Without hyphens, groups are what they are made of. -/
lemma filter_grouped (ns : List Nat) (ds : List Char) :
    (grouped ns ds).filter (· ≠ '-') = ds.filter (· ≠ '-') := by
  induction ns generalizing ds with
  | nil => rfl
  | cons n ns ih =>
    rw [grouped, List.filter_append, List.filter_cons_of_neg (by decide), ih,
      ← List.filter_append, List.take_append_drop]

/-- Only a letter has another case. -/
lemma eq_of_toLower {c d : Char} (h : c.toLower = d) (hd : d.toNat < 97 ∨ 122 < d.toNat) :
    c = d := by
  by_cases hc : 65 ≤ c.toNat ∧ c.toNat ≤ 90
  · obtain ⟨hlow, hhigh⟩ := hc
    rw [← c.ofNat_toNat] at h
    generalize c.toNat = n at h hlow hhigh
    subst h
    interval_cases n <;> exact absurd hd (by decide)
  · have hlower : c.toLower = c := dif_neg hc
    rw [← h, hlower]

/-- What is grouped but for letter case is grouped. -/
lemma exists_of_map_eq_grouped {ns : List Nat} {cs ds : List Char}
    (h : cs.map Char.toLower = grouped ns ds) (hns : ns.sum ≤ ds.length) :
    ∃ cs', cs = grouped ns cs' ∧ cs'.map Char.toLower = ds := by
  induction ns generalizing cs ds with
  | nil => exact ⟨cs, rfl, h⟩
  | cons n ns ih =>
    rw [List.sum_cons] at hns
    obtain ⟨front, back, rfl, hfront, hback⟩ := List.map_eq_append_iff.mp h
    obtain ⟨c, rest, rfl, hc, hrest⟩ := List.map_eq_cons_iff.mp hback
    obtain rfl := eq_of_toLower hc (by decide)
    obtain ⟨cs', rfl, hcs'⟩ := ih hrest (by rw [List.length_drop]; omega)
    have hlength : front.length = n := by
      rw [← List.length_map, hfront, List.length_take_of_le (by omega)]
    refine ⟨front ++ cs', (grouped_append hlength ns cs').symm, ?_⟩
    rw [List.map_append, hfront, hcs', List.take_append_drop]

/-! ### Forms -/

/-- The lengths of the groups in a text, but for the last one. -/
def widths : List Nat := [8, 4, 4, 4]

/-- Digits as they stand in a text. -/
def hyphenated (ds : List Char) : List Char := grouped widths ds

/-- There are as many characters as an identifier has digits, and they are digits. -/
def AreDigits (ds : List Char) : Prop := ds.length = 32 ∧ ds.all isHex = true

lemma length_hyphenated (ds : List Char) : (hyphenated ds).length = ds.length + 4 :=
  length_grouped widths ds

lemma plainDigits?_eq_some_iff {cs ds : List Char} :
    plainDigits? cs = some ds ↔ AreDigits ds ∧ cs = ds := by
  unfold plainDigits?
  split_ifs with h
  · rw [Option.some.injEq]
    exact ⟨fun hcs => ⟨hcs ▸ h, hcs⟩, And.right⟩
  · exact iff_of_false nofun fun hds => h (hds.2 ▸ hds.1)

lemma hyphenatedDigits?_eq_some_iff {cs ds : List Char} :
    hyphenatedDigits? cs = some ds ↔ AreDigits ds ∧ cs = hyphenated ds := by
  have hungrouped : cs.take 8 ++ (cs.drop 9).take 4 ++ (cs.drop 14).take 4 ++ (cs.drop 19).take 4
      ++ cs.drop 24 = ungrouped widths cs := by
    simp only [widths, ungrouped, List.drop_drop, List.append_assoc]
  have hgrouped (cs : List Char) : [8, 13, 18, 23].all (cs[·]? = some '-') = true ↔
      Grouped widths cs := by
    simp [widths, Grouped, List.drop_drop, List.getElem?_drop]
  simp only [hyphenatedDigits?, hungrouped]
  constructor
  · intro h
    split_ifs at h with hcs
    obtain ⟨hlength, hmarks, hhex⟩ := hcs
    cases h
    have hcs := grouped_ungrouped ((hgrouped cs).mp hmarks)
    rw [← hcs, length_grouped] at hlength
    exact ⟨⟨Nat.add_right_cancel hlength, hhex⟩, hcs.symm⟩
  · rintro ⟨⟨hlength, hhex⟩, rfl⟩
    have hwidths : widths.sum ≤ ds.length := hlength ▸ by decide
    obtain ⟨hmarks, hds⟩ := grouped_grouped hwidths
    have hlength : (grouped widths ds).length = 36 := by
      rw [length_grouped, hlength]
      rfl
    rw [hyphenated, hds]
    exact if_pos ⟨hlength, (hgrouped _).mpr hmarks, hhex⟩

lemma insideBraces?_eq_some_iff {cs inner : List Char} :
    insideBraces? cs = some inner ↔ cs = '\x7b' :: (inner ++ ['\x7d']) := by
  constructor
  · intro h
    unfold insideBraces? at h
    split_ifs at h with hcs
    obtain ⟨hlength, hhead, hlast⟩ := hcs
    cases h
    obtain ⟨rest, rfl⟩ := List.head?_eq_some_iff.mp hhead
    have hrest : rest ≠ [] := by
      rintro rfl
      exact absurd hlength (by decide)
    rw [List.getLast?_cons_of_ne_nil hrest] at hlast
    rw [List.drop_one, List.tail_cons, List.dropLast_append_getLast? _ hlast]
  · rintro rfl
    have hlast : ('\x7b' :: inner ++ ['\x7d']).getLast? = some '\x7d' := List.getLast?_concat
    rw [insideBraces?, if_pos ⟨by simp, rfl, hlast⟩, List.drop_one, List.tail_cons,
      List.dropLast_concat]

lemma afterUrn?_eq_some_iff {cs rest : List Char} : afterUrn? cs = some rest ↔
    ∃ front, front.map Char.toLower = "urn:uuid:".toList ∧ cs = front ++ rest := by
  unfold afterUrn?
  constructor
  · intro h
    split_ifs at h with hcs
    cases h
    exact ⟨cs.take 9, hcs, (List.take_append_drop 9 cs).symm⟩
  · rintro ⟨front, hfront, rfl⟩
    have hlength : front.length = 9 := by
      rw [← List.length_map, hfront]
      rfl
    rw [List.take_left' hlength, List.drop_left' hlength, if_pos hfront]

/-- The digits stand in a text in one of the four forms. -/
def Holds (cs ds : List Char) : Prop :=
  cs = ds ∨ cs = hyphenated ds ∨ cs = '\x7b' :: (hyphenated ds ++ ['\x7d']) ∨
    ∃ front, front.map Char.toLower = "urn:uuid:".toList ∧ cs = front ++ hyphenated ds

lemma bind_insideBraces?_eq_some_iff {cs ds : List Char} :
    (insideBraces? cs).bind hyphenatedDigits? = some ds ↔
      AreDigits ds ∧ cs = '\x7b' :: (hyphenated ds ++ ['\x7d']) := by
  simp only [Option.bind_eq_some_iff, insideBraces?_eq_some_iff, hyphenatedDigits?_eq_some_iff]
  constructor
  · rintro ⟨_, rfl, hds, rfl⟩
    exact ⟨hds, rfl⟩
  · rintro ⟨hds, rfl⟩
    exact ⟨_, rfl, hds, rfl⟩

lemma bind_afterUrn?_eq_some_iff {cs ds : List Char} :
    (afterUrn? cs).bind hyphenatedDigits? = some ds ↔ AreDigits ds ∧
      ∃ front, front.map Char.toLower = "urn:uuid:".toList ∧ cs = front ++ hyphenated ds := by
  simp only [Option.bind_eq_some_iff, afterUrn?_eq_some_iff, hyphenatedDigits?_eq_some_iff]
  constructor
  · rintro ⟨_, ⟨front, hfront, rfl⟩, hds, rfl⟩
    exact ⟨hds, front, hfront, rfl⟩
  · rintro ⟨hds, front, hfront, rfl⟩
    exact ⟨_, ⟨front, hfront, rfl⟩, hds, rfl⟩

/-- The forms differ in their lengths, so that none of them hides another. -/
lemma digits?_eq_some_iff {cs ds : List Char} :
    digits? cs = some ds ↔ AreDigits ds ∧ Holds cs ds := by
  have hplain (h : cs.length ≠ 32) : plainDigits? cs = none := by
    rw [plainDigits?, if_neg fun hcs => h hcs.1]
  have hhyphenated (h : cs.length ≠ 36) : hyphenatedDigits? cs = none := by
    rw [hyphenatedDigits?, if_neg fun hcs => h hcs.1]
  have hbraces (h : cs.length ≠ 38) : (insideBraces? cs).bind hyphenatedDigits? = none := by
    refine Option.eq_none_iff_forall_ne_some.mpr fun ds' hds' => h ?_
    obtain ⟨⟨hlength, -⟩, rfl⟩ := bind_insideBraces?_eq_some_iff.mp hds'
    simp [length_hyphenated, hlength]
  simp only [digits?, Option.orElse_eq_some, bind_insideBraces?_eq_some_iff,
    bind_afterUrn?_eq_some_iff, plainDigits?_eq_some_iff, hyphenatedDigits?_eq_some_iff]
  constructor
  · rintro (⟨hds, hcs⟩ | ⟨-, ⟨hds, hcs⟩ | ⟨-, ⟨hds, hcs⟩ | ⟨-, hds, hcs⟩⟩⟩)
    · exact ⟨hds, .inl hcs⟩
    · exact ⟨hds, .inr (.inl hcs)⟩
    · exact ⟨hds, .inr (.inr (.inl hcs))⟩
    · exact ⟨hds, .inr (.inr (.inr hcs))⟩
  · rintro ⟨hds, hcs⟩
    have hlength := length_hyphenated ds
    rw [hds.1] at hlength
    rcases hcs with hcs | hcs | hcs | ⟨front, hfront, hcs⟩
    · exact .inl ⟨hds, hcs⟩
    · have h : cs.length = 36 := hcs ▸ hlength
      exact .inr ⟨hplain (by omega), .inl ⟨hds, hcs⟩⟩
    · have h : cs.length = 38 := by simp [hcs, hlength]
      exact .inr ⟨hplain (by omega), .inr ⟨hhyphenated (by omega), .inl ⟨hds, hcs⟩⟩⟩
    · have hnine : front.length = 9 := by
        rw [← List.length_map, hfront]
        rfl
      have h : cs.length = 45 := by simp [hcs, hlength, hnine]
      exact .inr ⟨hplain (by omega), .inr ⟨hhyphenated (by omega), .inr ⟨hbraces (by omega), hds,
        front, hfront, hcs⟩⟩⟩

/-! ### Letter case -/

/-- The four forms. -/
def forms (ds : List Char) : List (List Char) :=
  [ds, hyphenated ds, '\x7b' :: (hyphenated ds ++ ['\x7d']), "urn:uuid:".toList ++ hyphenated ds]

/-- A text in lowercase is a form of some digits if and only if the text holds digits that are these
in lowercase. -/
lemma map_toLower_mem_forms_iff {cs ds : List Char} (h : ds.length = 32) :
    cs.map Char.toLower ∈ forms ds ↔ ∃ ds', Holds cs ds' ∧ ds'.map Char.toLower = ds := by
  have hwidths : widths.sum ≤ ds.length := h ▸ by decide
  simp only [forms, List.mem_cons, List.not_mem_nil, or_false]
  constructor
  · rintro (hcs | hcs | hcs | hcs)
    · exact ⟨cs, .inl rfl, hcs⟩
    · obtain ⟨ds', rfl, hds'⟩ := exists_of_map_eq_grouped hcs hwidths
      exact ⟨ds', .inr (.inl rfl), hds'⟩
    · obtain ⟨c, rest, rfl, hc, hrest⟩ := List.map_eq_cons_iff.mp hcs
      obtain ⟨inner, last, rfl, hinner, hlast⟩ := List.map_eq_append_iff.mp hrest
      obtain ⟨d, none, rfl, hd, hnone⟩ := List.map_eq_cons_iff.mp hlast
      obtain rfl := List.map_eq_nil_iff.mp hnone
      obtain rfl := eq_of_toLower hc (by decide)
      obtain rfl := eq_of_toLower hd (by decide)
      obtain ⟨ds', rfl, hds'⟩ := exists_of_map_eq_grouped hinner hwidths
      exact ⟨ds', .inr (.inr (.inl rfl)), hds'⟩
    · obtain ⟨front, rest, rfl, hfront, hrest⟩ := List.map_eq_append_iff.mp hcs
      obtain ⟨ds', rfl, hds'⟩ := exists_of_map_eq_grouped hrest hwidths
      exact ⟨ds', .inr (.inr (.inr ⟨front, hfront, rfl⟩)), hds'⟩
  · have hmap (ds' : List Char) : (hyphenated ds').map Char.toLower =
        hyphenated (ds'.map Char.toLower) := map_grouped widths ds'
    rintro ⟨ds', rfl | rfl | rfl | ⟨front, hfront, rfl⟩, rfl⟩
    · exact .inl rfl
    · exact .inr (.inl (hmap ds'))
    · refine .inr (.inr (.inl ?_))
      rw [List.map_cons, List.map_append, hmap]
      rfl
    · refine .inr (.inr (.inr ?_))
      rw [List.map_append, hfront, hmap]

end StoreRpc.Uuid
