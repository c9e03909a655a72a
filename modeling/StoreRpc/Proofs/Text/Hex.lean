import Mathlib.Data.List.Induction
import Mathlib.Tactic.Common
import Mathlib.Tactic.IntervalCases
import StoreRpc.Text.Hex

/-!
Rows of hexadecimal digits.

A row of digits is read as the number whose lowercase digits they are, letter case apart. So the
rows of one length are the numbers below a power of sixteen, and zeros in front make no difference.
Bytes have two digits each, and are read back from them.
-/

namespace StoreRpc.Hex

/-! ### Digits -/

lemma digit?_digitChar {d : Nat} (h : d < 16) : digit? (Nat.digitChar d) = some d := by
  interval_cases d <;> rfl

lemma digit?_toLower (c : Char) : digit? c.toLower = digit? c := by
  by_cases h : 65 ≤ c.toNat ∧ c.toNat ≤ 90
  · obtain ⟨hlow, hhigh⟩ := h
    rw [← c.ofNat_toNat]
    generalize c.toNat = n at hlow hhigh
    interval_cases n <;> rfl
  · have hc : c.toLower = c := dif_neg h
    rw [hc]

/-- A digit is read as what it is the digit of, letter case apart. -/
lemma digit?_eq_some_iff {c : Char} {d : Nat} :
    digit? c = some d ↔ d < 16 ∧ c.toLower = Nat.digitChar d := by
  constructor
  · intro h
    -- There are three ranges of digits.
    have hrange : 48 ≤ c.toNat ∧ c.toNat ≤ 57 ∨ 97 ≤ c.toNat ∧ c.toNat ≤ 102 ∨
        65 ≤ c.toNat ∧ c.toNat ≤ 70 := by
      unfold digit? at h
      split_ifs at h with h₁ h₂ h₃
      · exact .inl h₁
      · exact .inr (.inl h₂)
      · exact .inr (.inr h₃)
    rw [← c.ofNat_toNat] at h ⊢
    generalize c.toNat = n at h hrange
    rcases hrange with ⟨hlow, hhigh⟩ | ⟨hlow, hhigh⟩ | ⟨hlow, hhigh⟩ <;>
      interval_cases n <;> cases h <;> exact ⟨by decide, rfl⟩
  · rintro ⟨hd, hc⟩
    rw [← digit?_toLower, hc, digit?_digitChar hd]

/-! ### Rows -/

/-- The number that begins with `n` and goes on with these digits. -/
def valueFrom (n : Nat) (cs : List Char) : Option Nat :=
  cs.foldl (fun acc c => acc.bind fun n => (digit? c).map (16 * n + ·)) (some n)

lemma value?_eq_valueFrom (cs : List Char) : value? cs = valueFrom 0 cs := rfl

@[simp] lemma valueFrom_nil (n : Nat) : valueFrom n [] = some n := rfl

lemma valueFrom_cons (n : Nat) (c : Char) (cs : List Char) :
    valueFrom n (c :: cs) = (digit? c).bind fun d => valueFrom (16 * n + d) cs := by
  rw [valueFrom, List.foldl_cons, Option.bind_some]
  cases digit? c with
  | some d => rfl
  | none =>
    rw [Option.map_none, Option.bind_none]
    induction cs with
    | nil => rfl
    | cons c cs ih => rwa [List.foldl_cons, Option.bind_none]

lemma value?_append_singleton (cs : List Char) (c : Char) :
    value? (cs ++ [c]) = (value? cs).bind fun n => (digit? c).map (16 * n + ·) := by
  rw [value?, List.foldl_append]
  rfl

/-- The low digits of a number, `width` of them. -/
def row : Nat → Nat → List Char
  | 0, _ => []
  | w + 1, n => row w (n / 16) ++ [Nat.digitChar (n % 16)]

@[simp] lemma length_row (w n : Nat) : (row w n).length = w := by
  induction w generalizing n with
  | zero => rfl
  | succ w ih => simp [row, ih]

/-- A row of digits is read as the number whose digits they are. -/
lemma value?_eq_some_iff {cs : List Char} {n : Nat} :
    value? cs = some n ↔ n < 16 ^ cs.length ∧ cs.map Char.toLower = row cs.length n := by
  induction cs using List.reverseRecOn generalizing n with
  | nil => simp [value?, row, eq_comm]
  | append_singleton cs c ih =>
    simp only [value?_append_singleton, Option.bind_eq_some_iff, Option.map_eq_some_iff, ih,
      digit?_eq_some_iff, List.length_append, List.length_singleton, List.map_append,
      List.map_singleton, row, Nat.pow_succ]
    constructor
    · rintro ⟨m, ⟨hm, hrow⟩, d, ⟨hd, hc⟩, rfl⟩
      have hdiv : (16 * m + d) / 16 = m := by omega
      have hmod : (16 * m + d) % 16 = d := by omega
      rw [hdiv, hmod, hrow, hc]
      exact ⟨by omega, rfl⟩
    · rintro ⟨hn, hrow⟩
      obtain ⟨hrow, hc⟩ := List.append_inj hrow (by simp)
      exact ⟨n / 16, ⟨by omega, hrow⟩, n % 16, ⟨by omega, List.singleton_inj.mp hc⟩, by omega⟩

lemma map_toLower_row (w n : Nat) : (row w n).map Char.toLower = row w n := by
  induction w generalizing n with
  | zero => rfl
  | succ w ih =>
    have hdigit := Nat.mod_lt n (show 16 > 0 by decide)
    rw [row, List.map_append, ih, List.map_singleton,
      (digit?_eq_some_iff.mp (digit?_digitChar hdigit)).2]

lemma value?_row {w n : Nat} (h : n < 16 ^ w) : value? (row w n) = some n := by
  refine value?_eq_some_iff.mpr ⟨?_, ?_⟩
  · rwa [length_row]
  · rw [length_row, map_toLower_row]

lemma row_zero (w : Nat) : row w 0 = List.replicate w '0' := by
  induction w with
  | zero => rfl
  | succ w ih => rw [row, Nat.zero_div, ih, List.replicate_succ']; rfl

/-- A row that is wide enough is the number behind zeros. -/
lemma row_eq {w n : Nat} (h : (digits n).length ≤ w) :
    row w n = List.replicate (w - (digits n).length) '0' ++ digits n := by
  induction w generalizing n with
  | zero => exact absurd h (Nat.not_le.mpr Nat.length_toDigits_pos)
  | succ w ih =>
    by_cases hn : n < 16
    · have hdigits : digits n = [Nat.digitChar n] := Nat.toDigits_of_lt_base hn
      rw [row, Nat.div_eq_of_lt hn, Nat.mod_eq_of_lt hn, row_zero, hdigits]
      rfl
    · have hdigits : digits n = digits (n / 16) ++ [Nat.digitChar (n % 16)] :=
        Nat.toDigits_of_base_le (by decide) (Nat.not_lt.mp hn)
      rw [hdigits, List.length_append, List.length_singleton] at h ⊢
      rw [row, ih (Nat.le_of_succ_le_succ h), Nat.add_sub_add_right, List.append_assoc]

lemma toList_padded {w n : Nat} (hw : 0 < w) (h : n < 16 ^ w) : (padded w n).toList = row w n := by
  rw [padded, String.toList_ofList, row_eq ((Nat.length_toDigits_le_iff (by decide) hw).mpr h)]

/-- The digits of a number in either case, behind zeros, are read as the number. -/
lemma value?_of_map_toLower {k n : Nat} {cs : List Char}
    (h : cs.map Char.toLower = List.replicate k '0' ++ digits n) : value? cs = some n := by
  have hlength : cs.length = (digits n).length + k := by
    have hlengths := congrArg List.length h
    rwa [List.length_map, List.length_append, List.length_replicate, Nat.add_comm] at hlengths
  have hle : (digits n).length ≤ cs.length := hlength ▸ Nat.le_add_right _ k
  have hpos : 0 < cs.length := Nat.lt_of_lt_of_le Nat.length_toDigits_pos hle
  refine value?_eq_some_iff.mpr ⟨(Nat.length_toDigits_le_iff (by decide) hpos).mp hle, ?_⟩
  rw [h, row_eq hle, hlength, Nat.add_sub_cancel_left]

/-- Digits can be read. -/
lemma exists_value? {cs : List Char} (h : ∀ c ∈ cs, (digit? c).isSome) :
    ∃ n, value? cs = some n := by
  induction cs using List.reverseRecOn with
  | nil => exact ⟨0, rfl⟩
  | append_singleton cs c ih =>
    obtain ⟨n, hn⟩ := ih fun c' hc' => h c' (List.mem_append_left _ hc')
    obtain ⟨d, hd⟩ := Option.isSome_iff_exists.mp (h c (by simp))
    exact ⟨16 * n + d, by rw [value?_append_singleton, hn, hd]; rfl⟩

lemma exists_digitChar_of_mem_row {w n : Nat} {c : Char} (h : c ∈ row w n) :
    ∃ d < 16, c = Nat.digitChar d := by
  induction w generalizing n with
  | zero => cases h
  | succ w ih =>
    obtain h | h := List.mem_append.mp h
    · exact ih h
    · exact ⟨n % 16, Nat.mod_lt n (by decide), List.mem_singleton.mp h⟩

/-! ### Bytes -/

/-- Two digits for each byte. -/
def pairs (bs : List UInt8) : List Char := bs.flatMap fun b => row 2 b.toNat

/-- The bytes of pairs of digits. -/
def bytes : List Char → List UInt8
  | a :: b :: rest => UInt8.ofNat ((value? [a, b]).getD 0) :: bytes rest
  | _ => []

lemma row_two (n : Nat) :
    row 2 n = [Nat.digitChar (n / 16 % 16), Nat.digitChar (n % 16)] := rfl

lemma pairs_append (bs bs' : List UInt8) : pairs (bs ++ bs') = pairs bs ++ pairs bs' :=
  List.flatMap_append

lemma length_pairs (bs : List UInt8) : (pairs bs).length = 2 * bs.length := by
  induction bs with
  | nil => rfl
  | cons b bs ih =>
    rw [pairs, List.flatMap_cons, List.length_append, length_row, ← pairs, ih, List.length_cons]
    omega

lemma toList_ofBytes (bs : List UInt8) : (ofBytes bs).toList = pairs bs := by
  have hpair (b : UInt8) :
      [Nat.digitChar (b.toNat / 16), Nat.digitChar (b.toNat % 16)] = row 2 b.toNat := by
    have hb : b.toNat / 16 < 16 := Nat.div_lt_of_lt_mul b.toNat_lt
    rw [row_two, Nat.mod_eq_of_lt hb]
  rw [ofBytes, String.toList_ofList, pairs, funext hpair]

lemma bytes_pairs (bs : List UInt8) : bytes (pairs bs) = bs := by
  induction bs with
  | nil => rfl
  | cons b bs ih =>
    have hb : value? (row 2 b.toNat) = some b.toNat := value?_row b.toNat_lt
    rw [row_two] at hb
    rw [pairs, List.flatMap_cons, row_two, List.cons_append, List.singleton_append, bytes, hb,
      ← pairs, ih, Option.getD_some, UInt8.ofNat_toNat]

end StoreRpc.Hex
