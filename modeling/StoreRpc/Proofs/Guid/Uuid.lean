import StoreRpc.Proofs.Guid.Forms
import StoreRpc.Proofs.Text.Hex

/-!
Sixteen bytes, their digits and the numbers in them.

Pair by pair, the digits of a text are those of its bytes. So they determine each other, letter case
apart, and the bytes that are read from digits have these digits. The numbers at the front, each
with its most significant byte first, and the bytes behind them determine all sixteen as well.
-/

namespace StoreRpc.Uuid

variable {u v : Uuid}

lemma eq_of_toList (h : u.bytes.toList = v.bytes.toList) : u = v :=
  Uuid.ext (Vector.toList_inj.mp h)

/-! ### Digits -/

/-- The digits of the text. -/
def digits (u : Uuid) : List Char := Hex.pairs u.bytes.toList

lemma length_digits (u : Uuid) : u.digits.length = 32 := by
  simp [digits, Hex.length_pairs]

lemma bytes_digits (u : Uuid) : Hex.bytes u.digits = u.bytes.toList := Hex.bytes_pairs _

lemma digits_injective (h : u.digits = v.digits) : u = v := by
  refine eq_of_toList ?_
  rw [← bytes_digits, ← bytes_digits, h]

/-- Cuts that follow one another leave nothing out. -/
lemma take_append_drop_drop {α : Type} (xs : List α) (k w : Nat) :
    (xs.drop k).take w ++ xs.drop (k + w) = xs.drop k := by
  rw [← List.drop_drop, List.take_append_drop]

/-- The text has the digits in groups, with hyphens between them. -/
lemma toList_text (u : Uuid) : u.text.toList = hyphenated u.digits := by
  have hlength : u.bytes.toList.length = 16 := Vector.length_toList
  have hcuts : u.bytes.toList = u.bytes.toList.take 4 ++ ((u.bytes.toList.drop 4).take 2 ++
      ((u.bytes.toList.drop 6).take 2 ++ ((u.bytes.toList.drop 8).take 2 ++
        u.bytes.toList.drop 10))) := by
    rw [take_append_drop_drop _ 8 2, take_append_drop_drop _ 6 2, take_append_drop_drop _ 4 2,
      List.take_append_drop]
  have hdigits := congrArg Hex.pairs hcuts
  simp only [Hex.pairs_append] at hdigits
  rw [digits, hdigits, hyphenated, widths, grouped_append (by simp [Hex.length_pairs, hlength]),
    grouped_append (by simp [Hex.length_pairs, hlength]),
    grouped_append (by simp [Hex.length_pairs, hlength]),
    grouped_append (by simp [Hex.length_pairs, hlength]), text, String.toList_intercalate]
  simp [List.intercalate, Hex.toList_ofBytes, grouped]

lemma exists_digitChar_of_mem_digits {c : Char} (h : c ∈ u.digits) :
    ∃ d < 16, c = Nat.digitChar d := by
  obtain ⟨b, -, hc⟩ := List.mem_flatMap.mp h
  exact Hex.exists_digitChar_of_mem_row hc

/-- The digits are in lowercase, and none of them is a hyphen. -/
lemma mem_of_mem_digits {c : Char} (h : c ∈ u.digits) : c ∈ "0123456789abcdef".toList := by
  obtain ⟨d, hd, rfl⟩ := exists_digitChar_of_mem_digits h
  interval_cases d <;> decide

lemma map_toLower_digits (u : Uuid) : u.digits.map Char.toLower = u.digits := by
  have hdigit : ∀ c ∈ u.digits, c.toLower = c := by
    intro c hc
    obtain ⟨d, hd, rfl⟩ := exists_digitChar_of_mem_digits hc
    exact (Hex.digit?_eq_some_iff.mp (Hex.digit?_digitChar hd)).2
  exact (List.map_congr_left hdigit).trans (List.map_id _)

/-! ### Reading -/

lemma areDigits_of_map_toLower {ds : List Char} (h : ds.map Char.toLower = u.digits) :
    AreDigits ds := by
  refine ⟨?_, List.all_eq_true.mpr fun c hc => ?_⟩
  · rw [← List.length_map, h, length_digits]
  · obtain ⟨d, hd, hdigit⟩ := exists_digitChar_of_mem_digits (h ▸ List.mem_map_of_mem hc)
    rw [isHex, ← Hex.digit?_toLower, hdigit, Hex.digit?_digitChar hd, Option.isSome_some]

/-- The byte of two digits has these digits. -/
lemma row_toNat_value {ds : List Char} (hds : ds.length = 2) (hhex : ∀ c ∈ ds, isHex c) :
    Hex.row 2 (UInt8.ofNat ((Hex.value? ds).getD 0)).toNat = ds.map Char.toLower := by
  obtain ⟨n, hn⟩ := Hex.exists_value? hhex
  obtain ⟨hlt, hrow⟩ := Hex.value?_eq_some_iff.mp hn
  rw [hds] at hlt hrow
  have hbyte : (UInt8.ofNat n).toNat = n := UInt8.toNat_ofNat_of_lt hlt
  rw [hn, Option.getD_some, hbyte, hrow]

/-- The bytes of pairs of digits have these digits. -/
lemma pairs_ofFn {ds : List Char} {n : Nat} (hds : ds.length = 2 * n) (hhex : ∀ c ∈ ds, isHex c) :
    Hex.pairs (List.ofFn fun i : Fin n =>
      UInt8.ofNat ((Hex.value? ((ds.drop (2 * i)).take 2)).getD 0)) = ds.map Char.toLower := by
  induction n generalizing ds with
  | zero => rw [List.eq_nil_of_length_eq_zero hds]; rfl
  | succ n ih =>
    have hfront : (ds.take 2).length = 2 := List.length_take_of_le (by omega)
    have hrest : (ds.drop 2).length = 2 * n := by
      rw [List.length_drop]
      omega
    have hstart (i : Fin n) : 2 * i.succ.val = 2 + 2 * i.val := by
      rw [Fin.val_succ]
      omega
    have hbytes := ih hrest fun c hc => hhex c (List.mem_of_mem_drop hc)
    have hbyte := row_toNat_value hfront fun c hc => hhex c (List.mem_of_mem_take hc)
    simp only [List.drop_drop] at hbytes
    simp only [List.ofFn_succ, hstart, Fin.val_zero, Nat.mul_zero, List.drop_zero]
    rw [← List.singleton_append, Hex.pairs_append, hbytes, Hex.pairs, List.flatMap_singleton,
      hbyte, ← List.map_append, List.take_append_drop]

/-- Bytes are read from their digits in either case. -/
lemma ofDigits_eq_iff {ds : List Char} (h : AreDigits ds) :
    ofDigits ds = u ↔ ds.map Char.toLower = u.digits := by
  have hdigits : (ofDigits ds).digits = ds.map Char.toLower := by
    rw [digits, ofDigits, Vector.toList_ofFn]
    exact pairs_ofFn h.1 (List.all_eq_true.mp h.2)
  rw [← hdigits]
  exact ⟨congrArg digits, digits_injective⟩

lemma parse_eq_ok_iff {s : String} :
    parse s = .ok u ↔ s.toList.map Char.toLower ∈ forms u.digits := by
  have hdigits : parse s = .ok u ↔ ∃ ds, digits? s.toList = some ds ∧ ofDigits ds = u := by
    unfold parse
    split <;> simp_all
  rw [hdigits, map_toLower_mem_forms_iff (length_digits u)]
  constructor
  · rintro ⟨ds, hds, hu⟩
    obtain ⟨hare, hholds⟩ := digits?_eq_some_iff.mp hds
    exact ⟨ds, hholds, (ofDigits_eq_iff hare).mp hu⟩
  · rintro ⟨ds, hholds, hu⟩
    have hare := areDigits_of_map_toLower hu
    exact ⟨ds, digits?_eq_some_iff.mpr ⟨hare, hholds⟩, (ofDigits_eq_iff hare).mpr hu⟩

/-! ### Fields -/

lemma toList_ofFields (low : UInt32) (mid high : UInt16) (tail : Vector UInt8 8) :
    (ofFields low mid high tail).bytes.toList = (Word.le 4 low.toNat).reverse ++
      ((Word.le 2 mid.toNat).reverse ++ ((Word.le 2 high.toNat).reverse ++ tail.toList)) := rfl

/-- A number has the bytes that it was read from. -/
lemma reverse_le_number {bs : List UInt8} {w : Nat} (h : bs.length = w) :
    (Word.le w (number bs)).reverse = bs := by
  rw [number, ← h, ← List.length_reverse, Word.le_ofLe, List.reverse_reverse]

lemma reverse_le_long {bs : List UInt8} (h : bs.length = 4) :
    (Word.le 4 (UInt32.ofNat (number bs)).toNat).reverse = bs := by
  have hvalue : (UInt32.ofNat (number bs)).toNat = number bs % Word.bound 4 := UInt32.toNat_ofNat'
  rw [hvalue, Word.le_mod, reverse_le_number h]

lemma reverse_le_short {bs : List UInt8} (h : bs.length = 2) :
    (Word.le 2 (UInt16.ofNat (number bs)).toNat).reverse = bs := by
  have hvalue : (UInt16.ofNat (number bs)).toNat = number bs % Word.bound 2 := UInt16.toNat_ofNat'
  rw [hvalue, Word.le_mod, reverse_le_number h]

lemma ofFields_fields (u : Uuid) :
    ofFields u.fields.1 u.fields.2.1 u.fields.2.2.1 u.fields.2.2.2 = u := by
  refine eq_of_toList ?_
  have htail : (u.bytes.drop 8).toList = u.bytes.toList.drop 8 := Vector.toList_drop
  rw [toList_ofFields, fields, reverse_le_long (by simp), reverse_le_short (by simp),
    reverse_le_short (by simp)]
  simp only [htail]
  rw [take_append_drop_drop _ 6 2, take_append_drop_drop _ 4 2, List.take_append_drop]

lemma ofFields_injective {low low' : UInt32} {mid mid' high high' : UInt16}
    {tail tail' : Vector UInt8 8}
    (h : ofFields low mid high tail = ofFields low' mid' high' tail') :
    low = low' ∧ mid = mid' ∧ high = high' ∧ tail = tail' := by
  have hlist := congrArg (fun u => u.bytes.toList) h
  simp only [toList_ofFields] at hlist
  obtain ⟨hlow, hlist⟩ := List.append_inj hlist (by simp)
  obtain ⟨hmid, hlist⟩ := List.append_inj hlist (by simp)
  obtain ⟨hhigh, htail⟩ := List.append_inj hlist (by simp)
  have hvalue {w n n' : Nat} (hw : (Word.le w n).reverse = (Word.le w n').reverse)
      (hn : n < Word.bound w) (hn' : n' < Word.bound w) : n = n' := by
    have hofLe := congrArg Word.ofLe (List.reverse_injective hw)
    rwa [Word.ofLe_le, Word.ofLe_le, Nat.mod_eq_of_lt hn, Nat.mod_eq_of_lt hn'] at hofLe
  exact ⟨UInt32.toNat_inj.mp (hvalue hlow low.toNat_lt low'.toNat_lt),
    UInt16.toNat_inj.mp (hvalue hmid mid.toNat_lt mid'.toNat_lt),
    UInt16.toNat_inj.mp (hvalue hhigh high.toNat_lt high'.toNat_lt), Vector.toList_inj.mp htail⟩

/-- The fields can be taken out of the bytes that are made of them. -/
lemma fields_ofFields (low : UInt32) (mid high : UInt16) (tail : Vector UInt8 8) :
    (ofFields low mid high tail).fields = (low, mid, high, tail) := by
  obtain ⟨hlow, hmid, hhigh, htail⟩ :=
    ofFields_injective (ofFields low mid high tail).ofFields_fields
  exact Prod.ext hlow (Prod.ext hmid (Prod.ext hhigh htail))

end StoreRpc.Uuid
