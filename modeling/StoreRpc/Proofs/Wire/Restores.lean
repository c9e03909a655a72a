import StoreRpc.Proofs.Wire.Exact

/-!
Readers that undo what was written, whatever follows it.

This is the half of exactness that a reader keeps when it also accepts other forms of a value, or
when it yields a view of the value that was written, such as the same value with its parts owned.
-/

namespace StoreRpc

/-- The view of a value is read off its complete encoding, and what follows is left. -/
def Restores {α β : Type} (good : α → Prop) (encode : α → Encoding) (view : α → β)
    (r : Reader β) : Prop :=
  ∀ a front rest, good a → (encode a).result = .ok front → r (front ++ rest) = (.ok (view a), rest)

lemma ExactOn.restores {α : Type} {good readable : α → Prop} {encode : α → Encoding}
    {r : Reader α} {view : α → α} (h : ExactOn readable encode r)
    (hreadable : ∀ a, good a → readable (view a)) (hencode : ∀ a, encode (view a) = encode a) :
    Restores good encode view r := fun a front rest ha hfront =>
  (h _ _ rest).mpr ⟨hreadable a ha, front, by rw [hencode, hfront], rfl⟩

lemma Exact.restores {α : Type} {encode : α → Encoding} {r : Reader α} (h : Exact encode r)
    (good : α → Prop) : Restores good encode id r :=
  h.on.restores (fun _ _ => trivial) fun _ => rfl

namespace Restores

variable {α β : Type} {good : α → Prop} {encode : α → Encoding} {view : α → β} {r : Reader β}

/-- Any byte but zero would do for a flag that is set, and 1 is written. -/
lemma flag (good : Bool → Prop) : Restores good .flag id Reader.flag := by
  intro b front rest _ hfront
  have hbyte : (Encoding.u8 (UInt8.ofNat b.toNat)).result = .ok front := by
    rw [← hfront]
    cases b <;> rfl
  rw [Reader.flag, Reader.map_apply, (Exact.u8 _ _ rest).mpr ⟨front, hbyte, rfl⟩]
  cases b <;> rfl

/-- Items in a row, as many as were written. -/
lemma row (h : Restores good encode view r) {as : List α} {front : List UInt8}
    (has : ∀ a ∈ as, good a) (hfront : (Encoding.all (as.map encode)).result = .ok front)
    (rest : List UInt8) :
    Reader.counted r as.length (front ++ rest) = (.ok (as.map view), rest) := by
  induction as generalizing front with
  | nil =>
    cases hfront
    rfl
  | cons a as ih =>
    obtain ⟨ha, has⟩ := List.forall_mem_cons.mp has
    obtain ⟨x, y, hx, hy, rfl⟩ := Encoding.result_all_cons_eq_ok_iff.mp hfront
    rw [List.length_cons, Reader.counted_succ, List.append_assoc,
      Reader.bind_ok (h a x (y ++ rest) ha hx), Reader.map_apply, ih has hy, List.map_cons]

/-- Items behind a count that holds their number. -/
lemma counted (h : Restores good encode view r) {what : Counted} {width : Nat} {γ : Type}
    {count : Reader γ} {toNat : γ → Nat}
    (hcount : ∀ n rest, n < Word.bound width →
      ∃ c, count (Word.le width n ++ rest) = (.ok c, rest) ∧ toNat c = n) :
    Restores (∀ a ∈ ·, good a) (fun as => .count what width as.length ++ .all (as.map encode))
      (List.map view) (count >>= fun c => Reader.counted r (toNat c)) := by
  intro as front rest has hfront
  obtain ⟨_, y, hword, hy, rfl⟩ := Encoding.result_append_eq_ok_iff.mp hfront
  obtain ⟨hn, rfl⟩ := Encoding.result_count_eq_ok_iff.mp hword
  obtain ⟨c, hc, hlength⟩ := hcount as.length (y ++ rest) hn
  rw [List.append_assoc, Reader.bind_ok hc, hlength, h.row has hy rest]

lemma list16 (h : Restores good encode view r) :
    Restores (∀ a ∈ ·, good a) (Encoding.list16 encode) (List.map view) (Reader.list16 r) :=
  h.counted fun n _ hn =>
    ⟨.ofNat n, Reader.map_eq_ok_iff.mpr ⟨n, Reader.word_eq_ok_iff.mpr ⟨hn, rfl⟩, rfl⟩,
      UInt16.toNat_ofNat_of_lt hn⟩

lemma list32 (h : Restores good encode view r) :
    Restores (∀ a ∈ ·, good a) (Encoding.list32 encode) (List.map view) (Reader.list32 r) :=
  h.counted fun n _ hn =>
    ⟨.ofNat n, Reader.map_eq_ok_iff.mpr ⟨n, Reader.word_eq_ok_iff.mpr ⟨hn, rfl⟩, rfl⟩,
      UInt32.toNat_ofNat_of_lt hn⟩

end Restores

end StoreRpc
