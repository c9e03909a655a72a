import Mathlib.Algebra.GroupWithZero.Nat
import StoreRpc.Proofs.Wire.Delimited

/-!
What a value costs in bytes.

A value of many parts has taken bytes for every part, if each part takes some. As the parts are read
one after another, the bytes that have been taken by then are a credit for the parts that are still
to come.
-/

namespace StoreRpc.Reader

variable {α β : Type}

/-- What is read costs no more than the bytes it takes and the credit there was. -/
def PaysFor (r : Reader α) (credit : Nat) (cost : α → Nat) : Prop :=
  ∀ bs a rest, r bs = (.ok a, rest) → cost a + rest.length ≤ credit + bs.length

/-- There are as many items as were counted. -/
lemma length_of_counted {r : Reader α} {n : Nat} {bs rest : List UInt8} {as : List α}
    (h : counted r n bs = (.ok as, rest)) : as.length = n := by
  induction n generalizing bs as with
  | zero =>
    cases h
    rfl
  | succ n ih =>
    rw [counted_succ] at h
    obtain ⟨a, mid, -, hmore⟩ := bind_eq_ok_iff.mp h
    obtain ⟨more, hcounted, rfl⟩ := map_eq_ok_iff.mp hmore
    rw [List.length_cons, ih hcounted]

namespace PaysFor

variable {r : Reader α} {f : α → Reader β} {credit credit' : Nat} {cost cost' : α → Nat}

/-- A value that costs less, or more that is on credit. -/
lemma mono (h : r.PaysFor credit cost) (hcost : ∀ a, cost' a + credit ≤ cost a + credit') :
    r.PaysFor credit' cost' := by
  intro bs a rest hread
  have hpaid := h bs a rest hread
  have hle := hcost a
  omega

lemma pure {a : α} (h : cost a ≤ credit) : (pure a : Reader α).PaysFor credit cost := by
  rintro bs a' rest hread
  cases hread
  exact Nat.add_le_add_right h bs.length

/-- What does not read a value off no bytes takes some for each. -/
lemma of_nil (hd : Delimited r) (h : ∃ why rest, r [] = (.error why, rest)) :
    r.PaysFor 0 fun _ => 1 := by
  intro bs a rest hread
  obtain ⟨taken, rfl, htaken⟩ := hd bs a rest hread
  obtain ⟨why, rest', hfail⟩ := h
  have hne : taken ≠ [] := by
    rintro rfl
    have hnil := htaken.read []
    rw [List.append_nil, hfail] at hnil
    cases hnil
  have hpos := List.length_pos_iff.mpr hne
  change 1 + rest.length ≤ 0 + (taken ++ rest).length
  rw [List.length_append]
  omega

lemma fail (e : DecodeError) : (fail e : Reader α).PaysFor credit cost := by
  rintro bs a rest hread
  cases hread

/-- What the first part cost is a credit for the second. -/
lemma bind {total : β → Nat} (hr : r.PaysFor credit cost)
    (hf : ∀ a, (f a).PaysFor (cost a) total) : (r >>= f).PaysFor credit total := by
  intro bs b rest hread
  obtain ⟨a, mid, ha, hb⟩ := bind_eq_ok_iff.mp hread
  exact Nat.le_trans (hf a mid b rest hb) (hr bs a mid ha)

lemma map {g : α → β} {total : β → Nat} (h : r.PaysFor credit cost)
    (hcost : ∀ a, total (g a) ≤ cost a) : (g <$> r).PaysFor credit total := by
  intro bs b rest hread
  obtain ⟨a, ha, rfl⟩ := map_eq_ok_iff.mp hread
  exact Nat.le_trans (Nat.add_le_add_right (hcost a) rest.length) (h bs a rest ha)

/-! ### Bytes, words and texts -/

lemma take (n : Nat) : (take n).PaysFor 0 List.length := by
  intro bs front rest hread
  obtain ⟨-, rfl⟩ := take_eq_ok_iff.mp hread
  rw [List.length_append, Nat.zero_add]

lemma word (width : Nat) : (word width).PaysFor 0 fun _ => width := by
  intro bs n rest hread
  obtain ⟨-, rfl⟩ := word_eq_ok_iff.mp hread
  rw [List.length_append, Word.length_le, Nat.zero_add]

lemma u8 : u8.PaysFor 0 fun _ => 1 := (word 1).map fun _ => Nat.le_refl _

lemma u16 : u16.PaysFor 0 fun _ => 2 := (word 2).map fun _ => Nat.le_refl _

lemma u32 : u32.PaysFor 0 fun _ => 4 := (word 4).map fun _ => Nat.le_refl _

lemma u64 : u64.PaysFor 0 fun _ => 8 := (word 8).map fun _ => Nat.le_refl _

lemma flag : flag.PaysFor 0 fun _ => 1 := u8.map fun _ => Nat.le_refl _

/-- A text takes its NUL. -/
lemma text : text.PaysFor 0 fun _ => 1 := by
  intro bs s rest hread
  obtain ⟨front, hfront, rfl⟩ := (Exact.text s bs rest).mp hread
  obtain ⟨-, rfl⟩ := Encoding.result_text_eq_ok_iff.mp hfront
  simp only [List.length_append, List.length_singleton]
  omega

/-! ### Counted items -/

lemma counted (hr : r.PaysFor 0 cost) (n : Nat) :
    (counted r n).PaysFor 0 fun as => (as.map cost).sum := by
  induction n with
  | zero => exact pure (Nat.le_refl 0)
  | succ n ih =>
    rw [counted_succ]
    have hmore (a : α) :
        (Reader.counted r n).PaysFor (cost a) fun as => cost a + (as.map cost).sum :=
      ih.mono fun as => by omega
    exact hr.bind fun a => (hmore a).map fun as => by rw [List.map_cons, List.sum_cons]

/-- Items that take at least one byte each are no more than the bytes they take. -/
lemma length_counted (hr : r.PaysFor 0 cost) (hpos : ∀ a, 1 ≤ cost a) (n : Nat) :
    (Reader.counted r n).PaysFor 0 List.length := by
  have hone : r.PaysFor 0 fun _ => 1 := hr.mono fun a => hpos a
  refine (hone.counted n).mono fun as => ?_
  rw [List.map_const', List.sum_replicate_nat, Nat.mul_one]

lemma list16 (hr : r.PaysFor 0 cost) : (list16 r).PaysFor 0 fun as => 2 + (as.map cost).sum :=
  u16.bind fun _ => (hr.counted _).mono fun _ => by omega

lemma list32 (hr : r.PaysFor 0 cost) : (list32 r).PaysFor 0 fun as => 4 + (as.map cost).sum :=
  u32.bind fun _ => (hr.counted _).mono fun _ => by omega

lemma length_list16 (hr : r.PaysFor 0 cost) (hpos : ∀ a, 1 ≤ cost a) :
    (Reader.list16 r).PaysFor 0 List.length :=
  u16.bind fun _ => (hr.length_counted hpos _).mono fun _ => by omega

lemma length_list32 (hr : r.PaysFor 0 cost) (hpos : ∀ a, 1 ≤ cost a) :
    (Reader.list32 r).PaysFor 0 List.length :=
  u32.bind fun _ => (hr.length_counted hpos _).mono fun _ => by omega

end PaysFor

end StoreRpc.Reader

namespace StoreRpc.Buffer

/-- What is popped costs no more than the bytes that were taken for it. -/
lemma cost_le_of_pop {α : Type} {b b' : Buffer} {r : Reader α} {cost : α → Nat} {a : α}
    (hr : r.PaysFor 0 cost) (hd : r.Delimited) (h : b.pop r = (.ok a, b')) :
    ∃ taken, b.Took b' taken ∧ cost a ≤ taken.length := by
  obtain ⟨rest, hread, rfl⟩ := pop_eq_ok_iff.mp h
  obtain ⟨taken, htaken, -⟩ := hd b.unread a rest hread
  have hpaid := hr b.unread a rest hread
  have hlength := congrArg List.length htaken
  rw [List.length_append] at hlength
  exact ⟨taken, took_of_unread_eq htaken, by omega⟩

end StoreRpc.Buffer
