import StoreRpc.Property.TagText
import StoreRpc.Proofs.Text.Hex

/-!
The language of tags.

A tag is any digits whose number fits, behind a sign or none, behind marks in capitals and marks
in lowercase before these. A digit is no letter of a mark, so that taking off as many marks as there
are takes off no digit, not even a zero in front of others.
-/

namespace StoreRpc.Tag

/-! ### Marks -/

/-- A row of marks with the same letter. -/
def marks (letter : Char) (n : Nat) : List Char := (List.replicate n ['0', letter]).flatten

lemma marks_succ (letter : Char) (n : Nat) :
    marks letter (n + 1) = '0' :: letter :: marks letter n := by
  rw [marks, List.replicate_succ, List.flatten_cons]
  rfl

/-- There is no mark with this letter in front. -/
def Unmarked (letter : Char) (cs : List Char) : Prop := ∀ rest, cs ≠ '0' :: letter :: rest

lemma dropMarks_of_unmarked {letter : Char} {cs : List Char} (h : Unmarked letter cs) :
    dropMarks letter cs = cs := by
  unfold dropMarks
  split
  · refine if_neg ?_
    rintro ⟨rfl, rfl⟩
    exact h _ rfl
  · rfl

/-- All the marks in front are dropped. -/
lemma dropMarks_marks_append {letter : Char} {cs : List Char} (h : Unmarked letter cs) (n : Nat) :
    dropMarks letter (marks letter n ++ cs) = cs := by
  induction n with
  | zero => exact dropMarks_of_unmarked h
  | succ n ih =>
    rw [marks_succ, List.cons_append, List.cons_append, dropMarks, if_pos ⟨rfl, rfl⟩, ih]

/-- Nothing but marks is dropped. -/
lemma exists_marks (letter : Char) (cs : List Char) :
    ∃ n, cs = marks letter n ++ dropMarks letter cs := by
  induction cs using dropMarks.induct letter with
  | case1 a b rest h ih =>
    obtain ⟨rfl, rfl⟩ := h
    obtain ⟨n, hn⟩ := ih
    refine ⟨n + 1, ?_⟩
    rw [dropMarks, if_pos ⟨rfl, rfl⟩, marks_succ, List.cons_append, List.cons_append, ← hn]
  | case2 a b rest h => exact ⟨0, by rw [dropMarks, if_neg h]; rfl⟩
  | case3 cs h => exact ⟨0, (dropMarks_of_unmarked fun rest hcs => h _ _ _ hcs).symm⟩

/-! ### Numbers -/

/-- What may stand between marks and digits. -/
def IsSign (sign : List Char) : Prop := sign = [] ∨ sign = ['+']

lemma le_of_valueFrom {n m : Nat} {cs : List Char} (h : Hex.valueFrom n cs = some m) : n ≤ m := by
  induction cs generalizing n with
  | nil => exact Nat.le_of_eq (Option.some.inj h)
  | cons c cs ih =>
    rw [Hex.valueFrom_cons, Option.bind_eq_some_iff] at h
    obtain ⟨d, -, hrest⟩ := h
    have hle := ih hrest
    omega

/-- A number only grows with its digits, so that it is refused as soon as it does not fit just when
it does not fit in the end. -/
lemma extend_eq_ok_iff {n m : Nat} {cs : List Char} (hn : n < UInt32.size) :
    extend n cs = .ok m ↔ Hex.valueFrom n cs = some m ∧ m < UInt32.size := by
  induction cs generalizing n with
  | nil =>
    rw [extend, Hex.valueFrom_nil, Except.ok.injEq, Option.some.injEq]
    exact ⟨fun h => ⟨h, h ▸ hn⟩, And.left⟩
  | cons c cs ih =>
    rw [extend, Hex.valueFrom_cons]
    cases Hex.digit? c with
    | none => simp
    | some d =>
      by_cases hd : 16 * n + d < UInt32.size
      · simp only [if_pos hd, Option.bind_some, ih hd]
      · simp only [if_neg hd, Option.bind_some]
        refine iff_of_false nofun fun ⟨h, hm⟩ => hd ?_
        exact Nat.lt_of_le_of_lt (le_of_valueFrom h) hm

lemma extend_zero_eq_ok_iff {n : Nat} {cs : List Char} :
    extend 0 cs = .ok n ↔ Hex.value? cs = some n ∧ n < UInt32.size :=
  extend_eq_ok_iff (by decide)

/-- A row of digits does not begin with what is no digit. -/
lemma ne_cons_of_value? {n : Nat} {c : Char} {ds : List Char} (h : Hex.value? ds = some n)
    (hc : Hex.digit? c = none) (rest : List Char) : ds ≠ c :: rest := by
  rintro rfl
  rw [Hex.value?_eq_valueFrom, Hex.valueFrom_cons, hc] at h
  cases h

lemma number_plus {cs : List Char} (h : cs ≠ []) : number ('+' :: cs) = extend 0 cs := by
  rw [number, if_pos rfl, if_neg h]

lemma number_of_unsigned {cs : List Char} (hcs : cs ≠ []) (h : ∀ rest, cs ≠ '+' :: rest) :
    number cs = extend 0 cs := by
  cases cs with
  | nil => exact absurd rfl hcs
  | cons c cs =>
    have hc : c ≠ '+' := by
      rintro rfl
      exact h cs rfl
    rw [number, if_neg hc]

lemma number_eq_ok_iff {cs : List Char} {n : Nat} : number cs = .ok n ↔
    ∃ sign ds, cs = sign ++ ds ∧ IsSign sign ∧ ds ≠ [] ∧ Hex.value? ds = some n ∧
      n < UInt32.size := by
  constructor
  · intro h
    unfold number at h
    split at h
    · cases h
    · rename_i c rest
      split_ifs at h with hc hrest
      · exact ⟨['+'], rest, hc ▸ rfl, .inr rfl, hrest, extend_zero_eq_ok_iff.mp h⟩
      · exact ⟨[], c :: rest, rfl, .inl rfl, List.cons_ne_nil _ _, extend_zero_eq_ok_iff.mp h⟩
  · rintro ⟨sign, ds, rfl, rfl | rfl, hds, hvalue⟩
    · rw [List.nil_append, number_of_unsigned hds (ne_cons_of_value? hvalue.1 rfl)]
      exact extend_zero_eq_ok_iff.mpr hvalue
    · rw [List.singleton_append, number_plus hds]
      exact extend_zero_eq_ok_iff.mpr hvalue

/-! ### Texts -/

lemma parse_eq_ok_iff {s : String} {tag : UInt32} : parse s = .ok tag ↔
    number (dropMarks 'X' (dropMarks 'x' s.toList)) = .ok tag.toNat := by
  rw [parse]
  cases h : number (dropMarks 'X' (dropMarks 'x' s.toList)) with
  | error why => exact iff_of_false nofun nofun
  | ok n =>
    obtain ⟨-, -, -, -, -, -, hn⟩ := number_eq_ok_iff.mp h
    have htag : (UInt32.ofNat n).toNat = n := UInt32.toNat_ofNat_of_lt hn
    rw [Except.map, Except.ok.injEq, Except.ok.injEq, ← UInt32.toNat_inj, htag]

/-- Digits behind a sign or none do not begin with a mark. -/
lemma unmarked_of_value? {letter : Char} {n : Nat} {sign ds : List Char}
    (hletter : Hex.digit? letter = none) (hsign : IsSign sign) (h : Hex.value? ds = some n) :
    Unmarked letter (sign ++ ds) := by
  rintro rest hrest
  obtain rfl | rfl := hsign
  · have hzero : Hex.digit? '0' = some 0 := rfl
    rw [List.nil_append] at hrest
    rw [hrest, Hex.value?_eq_valueFrom, Hex.valueFrom_cons, hzero, Option.bind_some,
      Hex.valueFrom_cons, hletter] at h
    cases h
  · cases hrest

/-- Marks of another letter do not begin with a mark either. -/
lemma unmarked_marks_append {letter other : Char} {cs : List Char} (h : Unmarked letter cs)
    (hletter : other ≠ letter) (n : Nat) : Unmarked letter (marks other n ++ cs) := by
  cases n with
  | zero => exact h
  | succ n =>
    rw [marks_succ]
    rintro rest hrest
    exact hletter (List.cons.inj (List.cons.inj hrest).2).1

/-- Marks in lowercase, marks in capitals, a sign or none, and digits of the tag. -/
def Spells (s : String) (tag : UInt32) : Prop :=
  ∃ lower upper sign ds, s.toList = marks 'x' lower ++ (marks 'X' upper ++ (sign ++ ds)) ∧
    IsSign sign ∧ ds ≠ [] ∧ Hex.value? ds = some tag.toNat

lemma parse_eq_ok_iff_spells {s : String} {tag : UInt32} : parse s = .ok tag ↔ Spells s tag := by
  rw [parse_eq_ok_iff, number_eq_ok_iff]
  constructor
  · rintro ⟨sign, ds, hcs, hsign, hds, hvalue, -⟩
    obtain ⟨lower, hlower⟩ := exists_marks 'x' s.toList
    obtain ⟨upper, hupper⟩ := exists_marks 'X' (dropMarks 'x' s.toList)
    rw [hcs] at hupper
    rw [hupper] at hlower
    exact ⟨lower, upper, sign, ds, hlower, hsign, hds, hvalue⟩
  · rintro ⟨lower, upper, sign, ds, hs, hsign, hds, hvalue⟩
    have hunmarked {letter : Char} (hletter : Hex.digit? letter = none) :
        Unmarked letter (sign ++ ds) := unmarked_of_value? hletter hsign hvalue
    have hupper : Unmarked 'X' (sign ++ ds) := hunmarked rfl
    have hlower : Unmarked 'x' (marks 'X' upper ++ (sign ++ ds)) :=
      unmarked_marks_append (hunmarked rfl) (by decide) upper
    refine ⟨sign, ds, ?_, hsign, hds, hvalue, tag.toNat_lt⟩
    rw [hs, dropMarks_marks_append hlower, dropMarks_marks_append hupper]

/-- A tag is written with eight digits behind a mark. -/
lemma toList_text (tag : UInt32) : (text tag).toList = '0' :: 'x' :: Hex.row 8 tag.toNat := by
  rw [text, String.toList_append, Hex.toList_padded (by decide) tag.toNat_lt]
  rfl

lemma spells_text (tag : UInt32) : Spells (text tag) tag := by
  have hvalue : Hex.value? (Hex.row 8 tag.toNat) = some tag.toNat := Hex.value?_row tag.toNat_lt
  refine ⟨1, 0, [], Hex.row 8 tag.toNat, toList_text tag, .inl rfl, ?_, hvalue⟩
  exact List.ne_nil_of_length_pos (by rw [Hex.length_row]; decide)

/-- **One language is read as tags, and what is written of a tag is in it.** A text is read as a tag
if and only if it consists of any number of marks `0x`, then any number of marks `0X`, a plus or
none, and at least one digit, of either case, whose number is the tag. So a tag is read from the
text that is written for it, and from its digits behind any zeros and one mark or none. -/
theorem parse_language :
    (∀ (s : String) (tag : UInt32), parse s = .ok tag ↔ Spells s tag) ∧
    (∀ tag : UInt32, (text tag).toList.length = 10 ∧ parse (text tag) = .ok tag) ∧
    ∀ (tag : UInt32) (zeros : Nat) (ds : List Char),
      ds.map Char.toLower = List.replicate zeros '0' ++ Hex.digits tag.toNat →
        ∀ mark ∈ ["", "0x", "0X"], parse (mark ++ String.ofList ds) = .ok tag := by
  refine ⟨fun s tag => parse_eq_ok_iff_spells, fun tag => ⟨?_, ?_⟩,
    fun tag zeros ds hds mark hmark => ?_⟩
  · rw [toList_text, List.length_cons, List.length_cons, Hex.length_row]
  · exact parse_eq_ok_iff_spells.mpr (spells_text tag)
  · have hvalue : Hex.value? ds = some tag.toNat := Hex.value?_of_map_toLower hds
    have hne : ds ≠ [] := by
      rintro rfl
      exact Nat.toDigits_ne_nil (List.append_eq_nil_iff.mp hds.symm).2
    rw [parse_eq_ok_iff_spells]
    simp only [List.mem_cons, List.not_mem_nil, or_false] at hmark
    obtain rfl | rfl | rfl := hmark
    · exact ⟨0, 0, [], ds, by simp [marks], .inl rfl, hne, hvalue⟩
    · exact ⟨1, 0, [], ds, by simp [marks], .inl rfl, hne, hvalue⟩
    · exact ⟨0, 1, [], ds, by simp [marks], .inl rfl, hne, hvalue⟩

/-- Marks of both kinds, a sign, and zeros before digits of both cases. -/
theorem parse_language_mixed :
    let ds := ['0', '0', 'a', 'B', '1']
    (Spells "0x0x0X+00aB1" 0xAB1 ∧ parse "0x0x0X+00aB1" = .ok 0xAB1) ∧
      ds.map Char.toLower = List.replicate 2 '0' ++ Hex.digits (0xAB1 : UInt32).toNat ∧
      parse ("0X" ++ String.ofList ds) = .ok 0xAB1 := by
  intro ds
  obtain ⟨hspells, -, hdigits⟩ := parse_language
  have hs : Spells "0x0x0X+00aB1" 0xAB1 :=
    ⟨2, 1, ['+'], ds, by decide, .inr rfl, by decide, by decide⟩
  have hds : ds.map Char.toLower = List.replicate 2 '0' ++ Hex.digits (0xAB1 : UInt32).toNat := by
    decide
  exact ⟨⟨hs, (hspells _ _).mpr hs⟩, hds, hdigits _ 2 ds hds "0X" (by decide)⟩

/-- Marks in the wrong order are no beginning of a tag. -/
example : parse "0X0x5" = .error .digit := by decide

end StoreRpc.Tag
