import StoreRpc.Proofs.Wire.Restores

/-!
Encodings that are told apart.

Where two values are written in front of whatever follows and the bytes are the same, the values
are the same as far as writing sees them, and so is what follows. Fields in a row keep this, so
that a record is told apart from others of its kind without marks between its fields.
-/

namespace StoreRpc

/-- Complete encodings that begin the same bytes are those of values with the same view, and leave
the same. -/
def PrefixFree {α β : Type} (good : α → Prop) (encode : α → Encoding) (view : α → β) : Prop :=
  ∀ a b x y s t, good a → good b → (encode a).result = .ok x → (encode b).result = .ok y →
    x ++ s = y ++ t → view a = view b ∧ s = t

namespace PrefixFree

variable {α β γ δ : Type} {good : α → Prop} {encode : α → Encoding} {view : α → β}

lemma imp {good' : α → Prop} {view' : α → γ} (h : PrefixFree good encode view)
    (hgood : ∀ a, good' a → good a) (hview : ∀ a b, view a = view b → view' a = view' b) :
    PrefixFree good' encode view' := by
  intro a b x y s t ha hb hx hy heq
  obtain ⟨hsame, hrest⟩ := h a b x y s t (hgood a ha) (hgood b hb) hx hy heq
  exact ⟨hview a b hsame, hrest⟩

/-- What is read back, whatever follows, is told apart. -/
lemma of_restores {r : Reader β} (h : Restores good encode view r) :
    PrefixFree good encode view := by
  intro a b x y s t ha hb hx hy heq
  have hsame := h a x s ha hx
  rw [heq, h b y t hb hy, Prod.mk.injEq, Except.ok.injEq] at hsame
  exact ⟨hsame.1.symm, hsame.2.symm⟩

lemma of_exact {r : Reader α} (h : Exact encode r) : PrefixFree good encode id :=
  of_restores (h.restores good)

/-- One field behind another. -/
lemma append {good' : γ → Prop} {encode' : γ → Encoding} {view' : γ → δ}
    (h : PrefixFree good encode view) (h' : PrefixFree good' encode' view') :
    PrefixFree (fun p : α × γ => good p.1 ∧ good' p.2) (fun p => encode p.1 ++ encode' p.2)
      fun p => (view p.1, view' p.2) := by
  rintro ⟨a, c⟩ ⟨b, d⟩ _ _ s t ⟨ha, hc⟩ ⟨hb, hd⟩ hleft hright heq
  obtain ⟨x, x', hx, hx', rfl⟩ := Encoding.result_append_eq_ok_iff.mp hleft
  obtain ⟨y, y', hy, hy', rfl⟩ := Encoding.result_append_eq_ok_iff.mp hright
  rw [List.append_assoc, List.append_assoc] at heq
  obtain ⟨hfirst, heq⟩ := h a b x y _ _ ha hb hx hy heq
  obtain ⟨hsecond, heq⟩ := h' c d x' y' s t hc hd hx' hy' heq
  exact ⟨Prod.ext hfirst hsecond, heq⟩

/-- As many items as in another row. -/
lemma row (h : PrefixFree good encode view) {as bs : List α} {x y s t : List UInt8}
    (hlength : as.length = bs.length) (has : ∀ a ∈ as, good a) (hbs : ∀ b ∈ bs, good b)
    (hleft : (Encoding.all (as.map encode)).result = .ok x)
    (hright : (Encoding.all (bs.map encode)).result = .ok y) (heq : x ++ s = y ++ t) :
    as.map view = bs.map view ∧ s = t := by
  induction as generalizing bs x y with
  | nil =>
    obtain rfl := List.length_eq_zero_iff.mp hlength.symm
    cases hleft
    cases hright
    exact ⟨rfl, heq⟩
  | cons a as ih =>
    obtain ⟨b, bs, rfl⟩ := List.exists_cons_of_length_eq_add_one hlength.symm
    obtain ⟨ha, has⟩ := List.forall_mem_cons.mp has
    obtain ⟨hb, hbs⟩ := List.forall_mem_cons.mp hbs
    obtain ⟨x, x', hx, hx', rfl⟩ := Encoding.result_all_cons_eq_ok_iff.mp hleft
    obtain ⟨y, y', hy, hy', rfl⟩ := Encoding.result_all_cons_eq_ok_iff.mp hright
    rw [List.append_assoc, List.append_assoc] at heq
    obtain ⟨hhead, heq⟩ := h a b x y _ _ ha hb hx hy heq
    obtain ⟨htail, heq⟩ := ih (Nat.succ.inj hlength) has hbs hx' hy' heq
    exact ⟨by rw [List.map_cons, List.map_cons, hhead, htail], heq⟩

/-- Items behind their count. -/
lemma counted (h : PrefixFree good encode view) (what : Counted) (width : Nat) :
    PrefixFree (∀ a ∈ ·, good a) (fun as => .count what width as.length ++ .all (as.map encode))
      (List.map view) := by
  intro as bs _ _ s t has hbs hleft hright heq
  obtain ⟨_, x, hcount, hx, rfl⟩ := Encoding.result_append_eq_ok_iff.mp hleft
  obtain ⟨_, y, hcount', hy, rfl⟩ := Encoding.result_append_eq_ok_iff.mp hright
  obtain ⟨hn, rfl⟩ := Encoding.result_count_eq_ok_iff.mp hcount
  obtain ⟨hm, rfl⟩ := Encoding.result_count_eq_ok_iff.mp hcount'
  rw [List.append_assoc, List.append_assoc] at heq
  obtain ⟨hword, heq⟩ := List.append_inj heq (by rw [Word.length_le, Word.length_le])
  have hlength := congrArg Word.ofLe hword
  rw [Word.ofLe_le, Word.ofLe_le, Nat.mod_eq_of_lt hn, Nat.mod_eq_of_lt hm] at hlength
  exact h.row hlength has hbs hx hy heq

/-- Items that are read back, behind their count. -/
lemma counted_exact {r : Reader α} (h : Exact encode r) (what : Counted) (width : Nat)
    {good : List α → Prop} :
    PrefixFree good (fun as => .count what width as.length ++ .all (as.map encode)) id :=
  (counted (of_exact h) what width).imp (fun _ _ _ _ => trivial) fun as bs heq => by
    simpa using heq

lemma flag {good : Bool → Prop} : PrefixFree good .flag id := of_restores (.flag good)

end PrefixFree

end StoreRpc
