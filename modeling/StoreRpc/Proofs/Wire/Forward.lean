import StoreRpc.Proofs.Wire.Exact

/-!
Readers only go forward.

Whether a reader yields a value or stops with an error, what it leaves is an end of what there was:
it neither puts bytes back nor goes past their end.
-/

namespace StoreRpc.Reader

/-- What is left is an end of what there was, also after an error. -/
lemma suffix {α : Type} (r : Reader α) (bs : List UInt8) : (r bs).2 <:+ bs := by
  induction r generalizing bs with
  | done | stop => exact List.suffix_refl bs
  | left next ih => exact ih bs.length bs
  | popRaw n next ih =>
    rw [run]
    split
    · exact (ih _ _).trans (List.drop_suffix n bs)
    · exact List.suffix_refl bs
  | popText next ih =>
    have hdrop := List.dropWhile_suffix (l := bs) (· != 0)
    rw [run]
    split
    · exact List.suffix_refl bs
    · rename_i nul rest h
      rw [h] at hdrop
      have hrest : rest <:+ bs := (List.suffix_cons nul rest).trans hdrop
      simp only
      split
      · exact (ih _ rest).trans hrest
      · exact hrest
  | decode fields next hfields ih =>
    have hrest := hfields bs
    rw [run]
    split
    · rename_i b rest h
      rw [h] at hrest
      exact (ih b rest).trans hrest
    · exact List.suffix_refl bs
    · exact List.suffix_refl bs

end StoreRpc.Reader
