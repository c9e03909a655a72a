import StoreRpc.Proofs.Wire.Exact

/-!
Readers that see no further than what they take.

The bytes of a value delimit it: it is read off them whatever follows. Where they are cut short,
the reader comes to the end of the bytes; it finds no other value, and nothing else to object to.
-/

namespace StoreRpc

/-- The bytes ended too early. -/
def DecodeError.IsTruncation : DecodeError → Prop
  | underflow _ _ => True
  | unterminated => True
  | _ => False

namespace Reader

variable {α β : Type}

/-- The value is read off these bytes in front of anything, and off nothing less than all of
them. -/
structure Takes (r : Reader α) (taken : List UInt8) (a : α) : Prop where
  read : ∀ rest, r (taken ++ rest) = (.ok a, rest)
  cut : ∀ front missing, taken = front ++ missing → missing ≠ [] →
    ∃ why rest, r front = (.error why, rest) ∧ why.IsTruncation

/-- What is read depends on the bytes that are taken, and on all of them. -/
def Delimited (r : Reader α) : Prop :=
  ∀ bs a rest, r bs = (.ok a, rest) → ∃ taken, bs = taken ++ rest ∧ r.Takes taken a

namespace Takes

variable {r : Reader α} {f : α → Reader β} {x y : List UInt8} {a : α} {b : β}

lemma pure (a : α) : Takes (pure a) [] a where
  read _ := rfl
  cut _ _ h hmissing := absurd (List.append_eq_nil_iff.mp h.symm).2 hmissing

lemma bind (hr : r.Takes x a) (hf : (f a).Takes y b) : (r >>= f).Takes (x ++ y) b where
  read rest := by
    rw [List.append_assoc, bind_ok (hr.read (y ++ rest)), hf.read]
  cut front missing h hmissing := by
    -- The cut is in the bytes of the second value, also if it is right in front of them.
    have hsecond (z : List UInt8) (hfront : front = x ++ z) (hy : y = z ++ missing) :
        ∃ why rest, (r >>= f) front = (.error why, rest) ∧ why.IsTruncation := by
      obtain ⟨why, rest, hcut, hwhy⟩ := hf.cut z missing hy hmissing
      exact ⟨why, rest, by rw [hfront, bind_ok (hr.read z), hcut], hwhy⟩
    obtain ⟨z, hfront, hy⟩ | ⟨z, hx, hz⟩ := List.append_eq_append_iff.mp h
    · exact hsecond z hfront hy
    · by_cases hnil : z = []
      · subst hnil
        exact hsecond [] (by rw [hx, List.append_nil, List.append_nil]) hz.symm
      · obtain ⟨why, rest, hcut, hwhy⟩ := hr.cut front z hx hnil
        exact ⟨why, rest, bind_error hcut, hwhy⟩

end Takes

namespace Delimited

variable {r : Reader α} {f : α → Reader β}

lemma pure (a : α) : Delimited (pure a) := by
  rintro bs b rest h
  cases h
  exact ⟨[], rfl, .pure a⟩

lemma fail (e : DecodeError) : Delimited (fail e : Reader α) := by
  rintro bs b rest h
  cases h

lemma bind (hr : Delimited r) (hf : ∀ a, Delimited (f a)) : Delimited (r >>= f) := by
  intro bs b rest h
  obtain ⟨a, mid, ha, hb⟩ := bind_eq_ok_iff.mp h
  obtain ⟨x, rfl, hx⟩ := hr bs a mid ha
  obtain ⟨y, rfl, hy⟩ := hf a mid b rest hb
  exact ⟨x ++ y, (List.append_assoc x y rest).symm, hx.bind hy⟩

lemma map (g : α → β) (hr : Delimited r) : Delimited (g <$> r) := by
  rw [← bind_pure_comp]
  exact hr.bind fun a => pure (g a)

/-- Values that are delimited as those of another type. -/
lemma of_map {g : α → β} (hg : Function.Injective g) (h : Delimited (g <$> r)) : Delimited r := by
  intro bs a rest ha
  obtain ⟨taken, hbs, htaken⟩ := h bs (g a) rest (map_eq_ok_iff.mpr ⟨a, ha, rfl⟩)
  refine ⟨taken, hbs, fun rest => ?_, fun front missing hcut hmissing => ?_⟩
  · obtain ⟨a', ha', heq⟩ := map_eq_ok_iff.mp (htaken.read rest)
    rw [ha', hg heq]
  · obtain ⟨why, rest, hfront, hwhy⟩ := htaken.cut front missing hcut hmissing
    rw [map_apply] at hfront
    split at hfront
    · cases hfront
    · rename_i why' rest' hr
      cases hfront
      exact ⟨why, rest, hr, hwhy⟩

lemma takes (hr : Delimited r) {taken rest : List UInt8} {a : α}
    (h : r (taken ++ rest) = (.ok a, rest)) : r.Takes taken a := by
  obtain ⟨taken', hbs, htaken'⟩ := hr _ a rest h
  rwa [← List.append_cancel_right hbs] at htaken'

/-- What is left is no longer than what there was. -/
lemma length_le (hr : Delimited r) {bs rest : List UInt8} {a : α} (h : r bs = (.ok a, rest)) :
    rest.length ≤ bs.length := by
  obtain ⟨taken, rfl, -⟩ := hr bs a rest h
  simp

/-! ### Bytes, words and texts -/

lemma take (n : Nat) : Delimited (take n) := by
  intro bs taken rest h
  obtain ⟨rfl, rfl⟩ := take_eq_ok_iff.mp h
  refine ⟨taken, rfl, fun rest => take_eq_ok_iff.mpr ⟨rfl, rfl⟩, fun front missing h hmissing => ?_⟩
  have hshort : ¬ covers taken.length front = true := by
    have := List.length_pos_iff.mpr hmissing
    rw [covers_iff, h, List.length_append]
    omega
  exact ⟨.underflow taken.length front.length, front, by rw [take_apply, if_neg hshort], trivial⟩

/-- A record that is cut short is not read, wherever its fields are cut. -/
lemma record (hr : Delimited r) : Delimited (record r) := by
  intro bs a rest h
  obtain ⟨taken, hbs, htaken⟩ := hr bs a rest (record_eq_ok_iff.mp h)
  refine ⟨taken, hbs, fun rest => record_eq_ok_iff.mpr (htaken.read rest), ?_⟩
  intro front missing hcut hmissing
  obtain ⟨why, left, hfront, hwhy⟩ := htaken.cut front missing hcut hmissing
  rw [record_apply, hfront]
  cases why with
  | underflow needed available => exact ⟨_, _, rfl, trivial⟩
  | unterminated => exact ⟨_, _, rfl, trivial⟩
  | _ => exact hwhy.elim

lemma word (width : Nat) : Delimited (word width) := ((take width).map _).record

lemma u8 : Delimited u8 := (word 1).map _

lemma u16 : Delimited u16 := (word 2).map _

lemma u32 : Delimited u32 := (word 4).map _

lemma u64 : Delimited u64 := (word 8).map _

lemma flag : Delimited flag := u8.map _

lemma text : Delimited text := by
  intro bs s rest h
  obtain ⟨taken, htaken, rfl⟩ := (Exact.text s bs rest).mp h
  refine ⟨taken, rfl, fun rest => (Exact.text s _ rest).mpr ⟨taken, htaken, rfl⟩, ?_⟩
  intro front missing hcut hmissing
  obtain ⟨hnul, rfl⟩ := Encoding.result_text_eq_ok_iff.mp htaken
  -- The NUL is the last byte, so it is not among those in front of a cut.
  have hfront : 0 ∉ front := by
    obtain ⟨z, rfl, hlast⟩ | ⟨z, hz, -⟩ := List.append_eq_append_iff.mp hcut
    · obtain ⟨rfl, -⟩ | ⟨-, hnil⟩ := List.append_eq_singleton_iff.mp hlast.symm
      · rwa [List.append_nil]
      · exact absurd hnil hmissing
    · exact fun hmem => hnul (hz ▸ List.mem_append_left z hmem)
  exact ⟨.unterminated, front, text_of_nul_not_mem hfront, trivial⟩

/-! ### Counted items -/

lemma counted (hr : Delimited r) (n : Nat) : Delimited (counted r n) := by
  induction n with
  | zero => exact pure []
  | succ n ih =>
    rw [counted_succ]
    exact hr.bind fun a => ih.map (a :: ·)

lemma list16 (hr : Delimited r) : Delimited (list16 r) := u16.bind fun _ => hr.counted _

lemma list32 (hr : Delimited r) : Delimited (list32 r) := u32.bind fun _ => hr.counted _

end Delimited

end Reader

/-! ### Buffers -/

namespace Buffer

/-- These bytes were taken from the buffer, and it is otherwise as it was. -/
structure Took (before after : Buffer) (taken : List UInt8) : Prop where
  bytes : after.bytes = before.bytes
  unread : before.unread = taken ++ after.unread
  cursor : before.cursor ≤ before.bytes.length → after.cursor = before.cursor + taken.length

/-- The bytes in front of those that a reader left were taken. -/
lemma took_of_unread_eq {b : Buffer} {taken rest : List UInt8} (hb : b.unread = taken ++ rest) :
    b.Took { b with cursor := b.bytes.length - rest.length } taken := by
  have hrest := unread_of_suffix (b := b) ⟨taken, hb.symm⟩
  refine ⟨rfl, ?_, fun hcursor => ?_⟩
  · rw [hb, hrest]
  · have hlength := congrArg List.length hb
    simp only [Buffer.unread, List.length_drop, List.length_append] at hlength ⊢
    omega

/-- A value that is read off the unread bytes is popped with the bytes in front of the rest. -/
lemma pop_of_read {α : Type} {b : Buffer} {r : Reader α} {taken rest : List UInt8} {a : α}
    (hb : b.unread = taken ++ rest) (h : r b.unread = (.ok a, rest)) :
    ∃ b', b.pop r = (.ok a, b') ∧ b.Took b' taken ∧ b'.unread = rest :=
  ⟨_, pop_eq_ok_iff.mpr ⟨rest, h, rfl⟩, took_of_unread_eq hb,
    unread_of_suffix (b := b) ⟨taken, hb.symm⟩⟩

lemma exists_read_of_pop {α : Type} {b b' : Buffer} {r : Reader α} {a : α}
    (h : b.pop r = (.ok a, b')) : ∃ rest, r b.unread = (.ok a, rest) := by
  obtain ⟨rest, hread, -⟩ := pop_eq_ok_iff.mp h
  exact ⟨rest, hread⟩

end Buffer

namespace Exact

variable {α : Type} {encode : α → Encoding} {r : Reader α} {a : α} {b b' : Buffer}

/-- A value is popped where its complete encoding stands. -/
lemma pop_of_unread_eq (h : Exact encode r) {front suffix : List UInt8}
    (hfront : (encode a).result = .ok front) (hb : b.unread = front ++ suffix) :
    ∃ b', b.pop r = (.ok a, b') ∧ b.Took b' front ∧ b'.unread = suffix :=
  Buffer.pop_of_read hb ((h a _ suffix).mpr ⟨front, hfront, hb⟩)

/-- What was popped took its complete encoding. -/
lemma took_of_pop (h : Exact encode r) (hpop : b.pop r = (.ok a, b')) :
    ∃ taken, (encode a).result = .ok taken ∧ b.Took b' taken := by
  obtain ⟨rest, hread, rfl⟩ := Buffer.pop_eq_ok_iff.mp hpop
  obtain ⟨taken, htaken, hb⟩ := (h a _ rest).mp hread
  exact ⟨taken, htaken, Buffer.took_of_unread_eq hb⟩

end Exact

end StoreRpc
