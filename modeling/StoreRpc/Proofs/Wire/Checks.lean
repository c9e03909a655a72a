import StoreRpc.Proofs.Wire.Exact

/-!
What may keep a value from being written.

A writer refuses a text with a NUL and a count that its field cannot hold. An encoding is complete
if and only if everything that is looked at on the way passes.
-/

namespace StoreRpc

/-! ### Texts without NUL -/

lemma zero_mem_utf8EncodeChar_iff {c : Char} : 0 ∈ String.utf8EncodeChar c ↔ c = '\x00' := by
  have hbyte (n : Nat) : 0 = UInt8.ofNat n ↔ n % 256 = 0 := by
    rw [← UInt8.toNat_inj, UInt8.toNat_ofNat', eq_comm]
    rfl
  have hchar : c = '\x00' ↔ c.val.toNat = 0 := by
    rw [Char.ext_iff, ← UInt32.toNat_inj]
    rfl
  rw [hchar, String.utf8EncodeChar]
  split_ifs <;> simp only [List.mem_cons, List.not_mem_nil, or_false, hbyte] <;> omega

lemma Utf8.encode_eq_flatMap (s : String) : encode s = s.toList.flatMap String.utf8EncodeChar := by
  rw [encode, ← String.utf8Encode_toList, List.utf8Encode, List.data_toByteArray]

/-- A NUL in the bytes is one in the text. -/
lemma Utf8.zero_mem_encode_iff {s : String} : 0 ∈ encode s ↔ '\x00' ∈ s.toList := by
  rw [encode_eq_flatMap, List.mem_flatMap]
  simp [zero_mem_utf8EncodeChar_iff]

lemma Utf8.length_encode (s : String) : (encode s).length = s.utf8ByteSize := rfl

/-! ### Checks -/

/-- What a writer looks at before it goes on. -/
inductive Check
  | text (s : String)
  /-- How many items follow a two-byte count. -/
  | short (count : Nat)
  /-- How many items follow a four-byte count. -/
  | long (count : Nat)
  /-- How many bytes the name of a property has. -/
  | nameBytes (count : Nat)
  /-- How many properties a comment has. -/
  | annotations (count : Nat)

def Check.Passes : Check → Prop
  | text s => '\x00' ∉ s.toList
  | short n => n ≤ 65535
  | long n => n ≤ 4294967295
  | nameBytes n => n ≤ 254
  | annotations n => 1 ≤ n ∧ n ≤ 255

namespace Encoding

/-- The encoding is complete if and only if these checks pass. -/
def Checked (e : Encoding) (cs : List Check) : Prop := e.failure = none ↔ ∀ c ∈ cs, c.Passes

namespace Checked

variable {α : Type} {a b : Encoding} {cs ds : List Check} {encode : α → Encoding}
  {checks : α → List Check}

lemma free {e : Encoding} (h : e.failure = none) : e.Checked [] := by
  simp [Checked, h]

lemma one {e : Encoding} {c : Check} (h : e.failure = none ↔ c.Passes) : e.Checked [c] := by
  simp [Checked, h]

lemma append (ha : a.Checked cs) (hb : b.Checked ds) : (a ++ b).Checked (cs ++ ds) := by
  rw [Checked, failure_append_eq_none, List.forall_mem_append]
  exact and_congr ha hb

/-- Something that is always complete, in front or behind. -/
lemma free_append (ha : a.failure = none) (hb : b.Checked ds) : (a ++ b).Checked ds :=
  (free ha).append hb

lemma append_free (ha : a.Checked cs) (hb : b.failure = none) : (a ++ b).Checked cs := by
  simpa only [List.append_nil] using ha.append (free hb)

lemma all {as : List α} (h : ∀ a ∈ as, (encode a).Checked (checks a)) :
    (Encoding.all (as.map encode)).Checked (as.flatMap checks) := by
  induction as with
  | nil => exact free rfl
  | cons a as ih =>
    obtain ⟨ha, has⟩ := List.forall_mem_cons.mp h
    exact ha.append (ih has)

lemma all_free (h : ∀ a, (encode a).failure = none) (as : List α) :
    (Encoding.all (as.map encode)).failure = none := by
  induction as with
  | nil => rfl
  | cons a as ih => exact failure_append_eq_none.mpr ⟨h a, ih⟩

lemma text (s : String) : (Encoding.text s).Checked [.text s] := by
  refine one ?_
  rw [Check.Passes, ← Utf8.zero_mem_encode_iff, Encoding.text]
  by_cases h : 0 ∈ Utf8.encode s <;> simp [h, raw, fail]

/-- A check of its own, in front of those of the rest. -/
lemma guard {c : Check} {p : Prop} [Decidable p] (hc : c.Passes ↔ p) (ha : a.Checked cs)
    (why : EncodeError) : (if p then a else fail why).Checked (c :: cs) := by
  rw [Checked, List.forall_mem_cons, hc]
  split
  · rename_i hp
    exact ha.trans (and_iff_right hp).symm
  · rename_i hp
    simp [fail, hp]

lemma count {c : Check} (what : Counted) {width n : Nat} (hc : c.Passes ↔ n < Word.bound width) :
    (count what width n).Checked [c] :=
  guard hc (free rfl) _

lemma count16 (what : Counted) (n : Nat) : (Encoding.count what 2 n).Checked [.short n] :=
  count what Nat.lt_succ_iff.symm

lemma count32 (what : Counted) (n : Nat) : (Encoding.count what 4 n).Checked [.long n] :=
  count what Nat.lt_succ_iff.symm

lemma list16 (h : ∀ a, (encode a).Checked (checks a)) (as : List α) :
    (Encoding.list16 encode as).Checked (.short as.length :: as.flatMap checks) :=
  (count16 .listItems as.length).append (all fun a _ => h a)

lemma list32 (h : ∀ a, (encode a).Checked (checks a)) (what : Counted) (as : List α) :
    (Encoding.count what 4 as.length ++ Encoding.all (as.map encode)).Checked
      (.long as.length :: as.flatMap checks) :=
  (count32 what as.length).append (all fun a _ => h a)

end Checked

end Encoding

end StoreRpc
