import StoreRpc.Proofs.Wire.Delimited

/-!
Where a reader has got to when it fails.

A reader is made of other readers, and fails where one of them does. The bytes in front of that one
are those of the values that were read before, so they lead there whatever follows them.
-/

namespace StoreRpc.Reader

variable {α β γ : Type}

lemma bind_eq_error_iff {r : Reader α} {f : α → Reader β} {bs rest : List UInt8}
    {why : DecodeError} : (r >>= f) bs = (.error why, rest) ↔
      r bs = (.error why, rest) ∨ ∃ a mid, r bs = (.ok a, mid) ∧ f a mid = (.error why, rest) := by
  rw [bind_apply]
  rcases r bs with ⟨e | a, mid⟩ <;> simp

lemma take_eq_error_iff {n : Nat} {bs rest : List UInt8} {why : DecodeError} :
    take n bs = (.error why, rest) ↔ bs.length < n ∧ why = .underflow n bs.length ∧ rest = bs := by
  rw [take_apply]
  by_cases h : covers n bs = true
  · simp [h, Nat.not_lt.mpr (covers_iff.mp h)]
  · simp [h, Nat.lt_of_not_le (mt covers_iff.mpr h), eq_comm]

/-- A text fails for want of a NUL, and takes nothing, or for what is in front of its NUL, and takes
both. -/
lemma text_eq_error_iff {bs rest : List UInt8} {why : DecodeError} :
    text bs = (.error why, rest) ↔
      (0 ∉ bs ∧ why = .unterminated ∧ rest = bs) ∨
      ∃ raw, bs = raw ++ 0 :: rest ∧ 0 ∉ raw ∧ Utf8.decode? raw = none ∧
        why = .notUtf8 (Utf8.fault raw) := by
  constructor
  · intro h
    by_cases hnul : 0 ∈ bs
    · obtain ⟨raw, tail, rfl, hraw⟩ := List.eq_append_cons_of_mem hnul
      rw [text_append hraw] at h
      split at h
      · cases h
      · rename_i hdecode
        cases h
        exact .inr ⟨raw, rfl, hraw, hdecode, rfl⟩
    · rw [text_of_nul_not_mem hnul] at h
      cases h
      exact .inl ⟨hnul, rfl, rfl⟩
  · rintro (⟨hnul, rfl, rfl⟩ | ⟨raw, rfl, hraw, hdecode, rfl⟩)
    · exact text_of_nul_not_mem hnul
    · rw [text_append hraw, hdecode]

/-! ### Reaching -/

/-- Behind these bytes the first reader goes on with the second one: it fails where that one fails,
and for the same reason. -/
def Reaches (r : Reader α) (front : List UInt8) (q : Reader β) : Prop :=
  ∀ bs why rest, q bs = (.error why, rest) → r (front ++ bs) = (.error why, rest)

namespace Reaches

variable {r : Reader α} {q : Reader β} {f : α → Reader β} {front front' : List UInt8}

lemma refl (r : Reader α) : r.Reaches [] r := fun _ _ _ h => h

lemma trans {q' : Reader γ} (h : r.Reaches front q) (h' : q.Reaches front' q') :
    r.Reaches (front ++ front') q' := by
  intro bs why rest hfail
  rw [List.append_assoc]
  exact h _ why rest (h' bs why rest hfail)

lemma bind_left (r : Reader α) (f : α → Reader β) : (r >>= f).Reaches [] r :=
  fun _ _ _ h => bind_error h

lemma bind_right {a : α} (h : r.Takes front a) : (r >>= f).Reaches front (f a) := by
  intro bs why rest hfail
  rw [bind_ok (h.read bs), hfail]

end Reaches

/-! ### Running out of bytes -/

/-- All that such a reader ever misses are bytes. -/
def RunsOut (r : Reader α) : Prop :=
  ∀ bs why rest, r bs = (.error why, rest) →
    ∃ needed available, why = .underflow needed available ∧ available < needed

namespace RunsOut

variable {r : Reader α} {f : α → Reader β}

lemma pure (a : α) : RunsOut (pure a) := by
  rintro bs why rest h
  cases h

lemma bind (hr : RunsOut r) (hf : ∀ a, RunsOut (f a)) : RunsOut (r >>= f) := by
  intro bs why rest h
  obtain h | ⟨a, mid, -, h⟩ := bind_eq_error_iff.mp h
  · exact hr bs why rest h
  · exact hf a mid why rest h

lemma map (g : α → β) (hr : RunsOut r) : RunsOut (g <$> r) := by
  rw [← bind_pure_comp]
  exact hr.bind fun a => pure (g a)

/-- Values that run out as those of another type. -/
lemma of_map {g : α → β} (h : RunsOut (g <$> r)) : RunsOut r := by
  intro bs why rest hfail
  refine h bs why rest ?_
  rw [map_apply, hfail]

lemma take (n : Nat) : RunsOut (take n) := by
  intro bs why rest h
  obtain ⟨hshort, rfl, -⟩ := take_eq_error_iff.mp h
  exact ⟨n, bs.length, rfl, hshort⟩

/-- What a record misses are the bytes that one of its fields misses. -/
lemma record (hr : RunsOut r) : RunsOut (record r) := by
  intro bs why rest h
  rw [record_apply] at h
  rcases hread : r bs with ⟨why' | a, left⟩ <;> rw [hread] at h
  · obtain ⟨needed, available, rfl, hlt⟩ := hr bs why' left hread
    cases h
    exact ⟨_, _, rfl, by omega⟩
  · cases h

lemma u16 : RunsOut u16 := ((take 2).map _).record.map _

lemma u32 : RunsOut u32 := ((take 4).map _).record.map _

end RunsOut

end StoreRpc.Reader
