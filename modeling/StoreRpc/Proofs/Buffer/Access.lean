import StoreRpc.Proofs.Wire.Forward
import StoreRpc.Wire.Access

/-!
Reading and writing step by step comes to what `pop` and `push` say.

As long as the cursor is within the bytes no step breaks down: what is there is looked at before a
slice is taken, and the cursor moves no further than what was taken. A reader is made of such steps,
so it can be run on a buffer as well as on a byte string, with the same outcome.
-/

namespace StoreRpc.Buffer

/-- The cursor is not past the end. -/
def InBounds (b : Buffer) : Prop := b.cursor ≤ b.bytes.length

/-- The cursor moved forward within the bytes, which are what they were. -/
def Advanced (before after : Buffer) : Prop :=
  after.bytes = before.bytes ∧ before.cursor ≤ after.cursor ∧ after.cursor ≤ after.bytes.length

variable {α β ε : Type} {b b' : Buffer}

namespace InBounds

lemma cursor_add_unread (h : b.InBounds) : b.cursor + b.unread.length = b.bytes.length := by
  rw [unread, List.length_drop]
  exact Nat.add_sub_cancel' h

/-- What was popped is told by what was taken off the unread bytes. -/
lemma pop_eq (h : b.InBounds) {r : Reader α} {out : Except DecodeError α}
    {taken rest : List UInt8} (hread : r b.unread = (out, rest)) (hb : b.unread = taken ++ rest) :
    b.pop r = (out, { b with cursor := b.cursor + taken.length }) := by
  refine pop_eq_iff.mpr ⟨rest, hread, ?_⟩
  have hlength := congrArg List.length hb
  have hall := h.cursor_add_unread
  have hcursor : b.cursor + taken.length = b.bytes.length - rest.length := by
    rw [List.length_append] at hlength
    omega
  rw [hcursor]

/-- Where nothing was taken, the buffer is as it was. -/
lemma pop_eq_self (h : b.InBounds) {r : Reader α} {out : Except DecodeError α}
    (hread : r b.unread = (out, b.unread)) : b.pop r = (out, b) :=
  h.pop_eq hread (List.nil_append b.unread).symm

end InBounds

lemma advanced_pop (hb : b.InBounds) (r : Reader α) : b.Advanced (b.pop r).2 := by
  have hrest := (r.suffix b.unread).length_le
  have hall := hb.cursor_add_unread
  refine ⟨rfl, ?_, Nat.sub_le ..⟩
  change b.cursor ≤ b.bytes.length - (r b.unread).2.length
  omega

lemma Advanced.inBounds (h : b.Advanced b') : b'.InBounds := h.2.2

/-- A reader behind another starts where that one stopped, if it yields a value. -/
lemma pop_bind (b : Buffer) (r : Reader α) (f : α → Reader β) :
    b.pop (r >>= f) =
      match b.pop r with
      | (.ok a, b') => b'.pop (f a)
      | (.error why, b') => (.error why, b') := by
  have hrest := unread_of_suffix (r.suffix b.unread)
  simp only [pop, Reader.bind_apply]
  generalize r b.unread = ran at hrest
  obtain ⟨why | a, rest⟩ := ran
  · rfl
  · simp only [hrest]

namespace Access

variable {m : Access ε α} {f : α → Access ε β}

lemma bind_ok {a : α} (h : m b = some (.ok a, b')) : (m >>= f) b = f a b' := by
  change (m b >>= _) = _
  rw [h]
  rfl

lemma bind_error {why : ε} (h : m b = some (.error why, b')) :
    (m >>= f) b = some (.error why, b') := by
  change (m b >>= _) = _
  rw [h]
  rfl

/-! ### Steps -/

lemma remaining_apply (hb : b.InBounds) :
    (remaining : Access ε Nat) b = some (.ok b.unread.length, b) := by
  rw [unread, List.length_drop]
  exact if_pos hb

lemma tail_apply (hb : b.InBounds) : (tail : Access ε _) b = some (.ok b.unread, b) := if_pos hb

/-- A slice that begins where the cursor was lies within the bytes, if it has been unread. -/
lemma slice_apply (hb : b.InBounds) {bs rest : List UInt8} (hunread : b.unread = bs ++ rest)
    (cursor : Nat) : (slice b.cursor bs.length : Access ε _) { b with cursor } =
      some (.ok ⟨bs.toArray, rfl⟩, { b with cursor }) := by
  have hlength := congrArg List.length hunread
  have hall := hb.cursor_add_unread
  rw [List.length_append] at hlength
  have hfits : b.cursor + bs.length ≤ b.bytes.length := by omega
  have htake : (b.bytes.drop b.cursor).take bs.length = bs := by
    rw [← unread, hunread, List.take_left]
  simp only [slice, dif_pos hfits, htake]

/-! ### Reading -/

lemma remaining_eq (hb : b.InBounds) : remaining b = some (b.pop Reader.remaining) := by
  rw [remaining_apply hb, hb.pop_eq_self (Reader.remaining_apply b.unread)]

lemma popRaw_eq (hb : b.InBounds) (n : Nat) : popRaw n b = some (b.pop (Reader.vector n)) := by
  rw [popRaw, bind_ok (remaining_apply hb)]
  by_cases hn : n ≤ b.unread.length
  · obtain ⟨bs, rest, hunread, rfl⟩ : ∃ bs rest, b.unread = bs ++ rest ∧ bs.length = n :=
      ⟨_, _, (List.take_append_drop n b.unread).symm, List.length_take_of_le hn⟩
    have hread : Reader.vector bs.length b.unread = (.ok ⟨bs.toArray, rfl⟩, rest) := by
      rw [hunread] at hn ⊢
      simp [Reader.vector, Reader.run, Reader.covers_iff.mpr hn]
    rw [if_neg (Nat.not_lt.mpr hn), bind_ok rfl, slice_apply hb hunread, hb.pop_eq hread hunread]
  · have hread : Reader.vector n b.unread = (.error (.underflow n b.unread.length), b.unread) := by
      simp [Reader.vector, Reader.run, mt Reader.covers_iff.mp hn]
    rw [if_pos (Nat.lt_of_not_le hn), hb.pop_eq_self hread]
    rfl

lemma popText_eq (hb : b.InBounds) : popText b = some (b.pop Reader.text) := by
  rw [popText, bind_ok (tail_apply hb)]
  by_cases hnul : 0 ∈ b.unread
  · obtain ⟨raw, rest, hunread, hraw⟩ := List.eq_append_cons_of_mem hnul
    have hfirst : raw.findIdx? (· == 0) = none :=
      List.findIdx?_eq_none_iff.mpr fun x hx => beq_eq_false_iff_ne.mpr fun h0 => hraw (h0 ▸ hx)
    have hfind : b.unread.findIdx? (· == 0) = some raw.length := by
      simp [hunread, List.findIdx?_append, List.findIdx?_cons, hfirst]
    have hsplit : b.unread = (raw ++ [0]) ++ rest := by simp [hunread]
    have hread := Reader.text_append hraw rest
    rw [← hunread] at hread
    rw [hfind]
    simp only
    rw [bind_ok rfl, bind_ok (slice_apply hb hunread _)]
    cases hdecode : Utf8.decode? raw with
    | none =>
      rw [hdecode] at hread
      rw [hb.pop_eq hread hsplit]
      simp [hdecode]
      rfl
    | some s =>
      rw [hdecode] at hread
      rw [hb.pop_eq hread hsplit]
      simp [hdecode]
      rfl
  · have hfind : b.unread.findIdx? (· == 0) = none :=
      List.findIdx?_eq_none_iff.mpr fun x hx => beq_eq_false_iff_ne.mpr fun h0 => hnul (h0 ▸ hx)
    rw [hfind, hb.pop_eq_self (Reader.text_of_nul_not_mem hnul)]
    rfl

lemma decode_eq (hb : b.InBounds) (fields : Reader α) :
    decode fields b = some (b.pop (Reader.record fields)) := by
  rw [decode, bind_ok (remaining_apply hb), bind_ok (tail_apply hb)]
  have hsuffix := fields.suffix b.unread
  have hrecord := Reader.record_apply fields b.unread
  rcases hread : fields b.unread with ⟨why | a, rest⟩ <;> rw [hread] at hrecord hsuffix
  · cases why <;> rw [hb.pop_eq_self hrecord] <;> rfl
  · obtain ⟨taken, htaken⟩ := hsuffix
    have hlength : b.unread.length - rest.length = taken.length := by
      rw [← htaken, List.length_append, Nat.add_sub_cancel]
    rw [hb.pop_eq hrecord htaken.symm]
    simp only [hlength]
    rfl

/-- What is read first is left behind for what is read next. -/
lemma bind_pop_eq {step : Access DecodeError α} {r : Reader α} {next : α → Reader β}
    (hstep : step b = some (b.pop r)) (hb : b.InBounds)
    (hnext : ∀ a (b : Buffer), b.InBounds → pop (next a) b = some (b.pop (next a))) :
    (step >>= fun a => pop (next a)) b = some (b.pop (r >>= next)) := by
  have hpop := pop_bind b r next
  have hafter := (advanced_pop hb r).inBounds
  rcases hread : b.pop r with ⟨why | a, b'⟩ <;> rw [hread] at hstep hpop hafter
  · rw [bind_error hstep, hpop]
  · rw [bind_ok hstep, hpop]
    exact hnext a b' hafter

/-- **A reader does on a buffer what it does on the unread bytes.** It never breaks down. -/
theorem pop_eq (hb : b.InBounds) (r : Reader α) : pop r b = some (b.pop r) := by
  induction r generalizing b with
  | done | stop => exact congrArg some (hb.pop_eq_self rfl).symm
  | left next ih => exact bind_pop_eq (remaining_eq hb) hb fun n b hb => ih n hb
  | popRaw n next ih => exact bind_pop_eq (popRaw_eq hb n) hb fun bs b hb => ih bs hb
  | popText next ih => exact bind_pop_eq (popText_eq hb) hb fun s b hb => ih s hb
  | decode fields next _ ih => exact bind_pop_eq (decode_eq hb fields) hb fun a b hb => ih a hb

/-! ### Writing -/

lemma push_eq (b : Buffer) (e : Encoding) : push e b = some (b.push e) := by
  have hpieces (ps : List (List UInt8)) (b : Buffer) :
      (ps.forM fun bs => modify (·.pushRaw bs) : Access EncodeError Unit) b =
        some (.ok (), b.pushRaw ps.flatten) := by
    induction ps generalizing b with
    | nil =>
      rw [List.flatten_nil, pushRaw, List.append_nil]
      rfl
    | cons p ps ih =>
      have hrest := ih (b.pushRaw p)
      rw [pushRaw, pushRaw, List.append_assoc, ← List.flatten_cons] at hrest
      exact (bind_ok rfl).trans hrest
  rw [push, bind_ok (hpieces e.pieces b), Buffer.push]
  cases e.failure <;> rfl

/-- There is room for the length where the header has been looked for. -/
lemma finalize_eq (b : Buffer) : finalize b = match b.finalize with
    | .ok b' => some (.ok (), b')
    | .error why => some (.error why, b) := by
  rw [finalize, bind_ok rfl, Buffer.finalize]
  by_cases hheader : b.bytes.length < headerSize
  · simp only [if_pos hheader]
    rfl
  · have hroom : headerSize ≤ b.bytes.length := Nat.le_of_not_lt hheader
    simp only [if_neg hheader]
    split
    · simp only [overwrite, Word.length_le, Nat.zero_add, if_pos hroom, List.take_zero,
        List.nil_append]
    · rfl

lemma finalize_eq_ok_iff : finalize b = some (.ok (), b') ↔ b.finalize = .ok b' := by
  rw [finalize_eq]
  cases b.finalize <;> simp

lemma eq_of_finalize_eq_error {why : EncodeError} (h : finalize b = some (.error why, b')) :
    b' = b := by
  rw [finalize_eq] at h
  cases hfinalize : b.finalize <;> rw [hfinalize] at h <;> cases h
  rfl

end Access

end StoreRpc.Buffer
