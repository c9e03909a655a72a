import Mathlib.Data.List.TakeWhile
import Mathlib.Tactic.Common
import StoreRpc.Wire.Reader
import StoreRpc.Wire.Encoding
import StoreRpc.Wire.Buffer

/-!
Readers that accept exactly what is written.

A reader is exact for an encoder if it yields a value, with some rest, just where the complete
encoding of that value stands in front of that rest. So it undoes the encoder whatever follows,
and the bytes it takes are those that the encoder writes.
-/

namespace StoreRpc

/-! ### Complete encodings -/

namespace Encoding

lemma result_eq_ok_iff {e : Encoding} {bs : List UInt8} :
    e.result = .ok bs ↔ e.failure = none ∧ e.bytes = bs := by
  rcases e with ⟨out, _ | why⟩ <;> simp [result]

@[simp] lemma result_empty : empty.result = .ok [] := rfl

@[simp] lemma result_raw (bs : List UInt8) : (raw bs).result = .ok bs :=
  congrArg Except.ok (bytes_raw bs)

@[simp] lemma result_word (width n : Nat) : (word width n).result = .ok (Word.le width n) :=
  result_raw _

@[simp] lemma result_u32 (v : UInt32) : (u32 v).result = .ok (Word.le 4 v.toNat) := result_raw _

@[simp] lemma result_fail (why : EncodeError) : (fail why).result = .error why := rfl

@[simp] lemma append_empty (e : Encoding) : e ++ empty = e := by
  rcases e with ⟨bs, _ | why⟩ <;> simp [empty]

@[simp] lemma empty_append (e : Encoding) : empty ++ e = e := rfl

lemma u8_eq_raw (v : UInt8) : u8 v = raw [v] := by
  simp [u8, word, Word.le]

lemma result_append_eq_ok_iff {a b : Encoding} {bs : List UInt8} :
    (a ++ b).result = .ok bs ↔
      ∃ x y, a.result = .ok x ∧ b.result = .ok y ∧ bs = x ++ y := by
  constructor
  · intro h
    obtain ⟨hf, rfl⟩ := result_eq_ok_iff.mp h
    obtain ⟨ha, hb⟩ := failure_append_eq_none.mp hf
    exact ⟨a.bytes, b.bytes, result_eq_ok_iff.mpr ⟨ha, rfl⟩, result_eq_ok_iff.mpr ⟨hb, rfl⟩,
      bytes_append ha⟩
  · rintro ⟨x, y, hx, hy, rfl⟩
    obtain ⟨ha, rfl⟩ := result_eq_ok_iff.mp hx
    obtain ⟨hb, rfl⟩ := result_eq_ok_iff.mp hy
    exact result_eq_ok_iff.mpr ⟨failure_append_eq_none.mpr ⟨ha, hb⟩, bytes_append ha⟩

lemma result_append {a b : Encoding} {x y : List UInt8} (ha : a.result = .ok x)
    (hb : b.result = .ok y) : (a ++ b).result = .ok (x ++ y) :=
  result_append_eq_ok_iff.mpr ⟨x, y, ha, hb, rfl⟩

lemma result_append_congr (a : Encoding) {b b' : Encoding} (h : b.result = b'.result) :
    (a ++ b).result = (a ++ b').result := by
  rcases a with ⟨ps, _ | why⟩
  · rcases b with ⟨qs, _ | why⟩ <;> rcases b' with ⟨qs', _ | why'⟩ <;>
      simp_all [result, bytes]
  · rfl

lemma result_raw_append_eq_ok_iff {front bs : List UInt8} {e : Encoding} :
    (raw front ++ e).result = .ok bs ↔ ∃ back, e.result = .ok back ∧ bs = front ++ back := by
  rw [result_append_eq_ok_iff, result_raw]
  constructor
  · rintro ⟨_, back, ⟨⟩, hback, rfl⟩
    exact ⟨back, hback, rfl⟩
  · rintro ⟨back, hback, rfl⟩
    exact ⟨front, back, rfl, hback, rfl⟩

lemma result_text_eq_ok_iff {s : String} {bs : List UInt8} :
    (text s).result = .ok bs ↔ 0 ∉ Utf8.encode s ∧ bs = Utf8.encode s ++ [0] := by
  by_cases h : 0 ∈ Utf8.encode s
  · simp [text, h]
  · have htext : text s = raw (Utf8.encode s) ++ raw [0] := by simp [text, h]
    rw [htext, result_raw_append_eq_ok_iff]
    simp [h]

lemma result_count_eq_ok_iff {what : Counted} {width n : Nat} {bs : List UInt8} :
    (count what width n).result = .ok bs ↔ n < Word.bound width ∧ bs = Word.le width n := by
  by_cases h : n < Word.bound width <;> simp [count, h, eq_comm]

lemma result_all_cons_eq_ok_iff {e : Encoding} {es : List Encoding} {bs : List UInt8} :
    (all (e :: es)).result = .ok bs ↔
      ∃ x y, e.result = .ok x ∧ (all es).result = .ok y ∧ bs = x ++ y := by
  rw [all_cons, result_append_eq_ok_iff]

/-- Bytes one by one. -/
lemma result_all_u8 (bs : List UInt8) : (all (bs.map u8)).result = .ok bs := by
  induction bs with
  | nil => rfl
  | cons b bs ih =>
    rw [List.map_cons, all_cons, u8_eq_raw]
    exact result_raw_append_eq_ok_iff.mpr ⟨bs, ih, rfl⟩

end Encoding

/-! ### What a reader did when it succeeded -/

namespace Reader

variable {α β : Type}

lemma bind_eq_ok_iff {r : Reader α} {f : α → Reader β} {bs rest : List UInt8} {b : β} :
    (r >>= f) bs = (.ok b, rest) ↔ ∃ a mid, r bs = (.ok a, mid) ∧ f a mid = (.ok b, rest) := by
  rw [bind_apply]
  rcases r bs with ⟨e | a, mid⟩ <;> simp

lemma map_eq_ok_iff {g : α → β} {r : Reader α} {bs rest : List UInt8} {b : β} :
    (g <$> r) bs = (.ok b, rest) ↔ ∃ a, r bs = (.ok a, rest) ∧ g a = b := by
  rw [map_apply]
  rcases r bs with ⟨e | a, mid⟩ <;> simp [and_comm]

lemma pure_eq_ok_iff {a b : α} {bs rest : List UInt8} :
    (pure a : Reader α) bs = (.ok b, rest) ↔ a = b ∧ bs = rest := by
  simp

lemma take_eq_ok_iff {n : Nat} {bs front rest : List UInt8} :
    take n bs = (.ok front, rest) ↔ front.length = n ∧ bs = front ++ rest := by
  rw [take_apply]
  constructor
  · intro h
    split at h
    · rename_i hn
      cases h
      exact ⟨List.length_take_of_le (covers_iff.mp hn), (List.take_append_drop n bs).symm⟩
    · cases h
  · rintro ⟨rfl, rfl⟩
    have h : covers front.length (front ++ rest) = true := covers_iff.mpr (by simp)
    simp [h]

lemma record_eq_ok_iff {r : Reader α} {bs rest : List UInt8} {a : α} :
    record r bs = (.ok a, rest) ↔ r bs = (.ok a, rest) := by
  rw [record_apply]
  rcases r bs with ⟨why | a, left⟩
  · cases why <;> simp
  · rfl

lemma word_eq_ok_iff {width n : Nat} {bs rest : List UInt8} :
    word width bs = (.ok n, rest) ↔ n < Word.bound width ∧ bs = Word.le width n ++ rest := by
  rw [word_apply, map_eq_ok_iff]
  constructor
  · rintro ⟨front, h, rfl⟩
    obtain ⟨rfl, rfl⟩ := take_eq_ok_iff.mp h
    exact ⟨Word.ofLe_lt front, by rw [Word.le_ofLe]⟩
  · rintro ⟨hn, rfl⟩
    refine ⟨Word.le width n, take_eq_ok_iff.mpr ⟨Word.length_le width n, rfl⟩, ?_⟩
    rw [Word.ofLe_le, Nat.mod_eq_of_lt hn]

lemma word_of_length {width : Nat} {bs : List UInt8} (h : bs.length = width) :
    word width bs = (.ok (Word.ofLe bs), []) := by
  subst h
  refine word_eq_ok_iff.mpr ⟨Word.ofLe_lt bs, ?_⟩
  rw [Word.le_ofLe, List.append_nil]

/-- A text ends at the first NUL. -/
lemma text_append {raw : List UInt8} (h : 0 ∉ raw) (rest : List UInt8) :
    text (raw ++ 0 :: rest) = match Utf8.decode? raw with
      | some s => (.ok s, rest)
      | none => (.error (.notUtf8 (Utf8.fault raw)), rest) := by
  have hraw : ∀ b ∈ raw, (b != 0) = true := fun b hb => bne_iff_ne.mpr fun hb0 => h (hb0 ▸ hb)
  have hdrop : (raw ++ 0 :: rest).dropWhile (· != 0) = 0 :: rest := by
    rw [List.dropWhile_append_of_pos hraw, List.dropWhile_cons_of_neg (by simp)]
  have htake : (raw ++ 0 :: rest).takeWhile (· != 0) = raw := by
    rw [List.takeWhile_append_of_pos hraw, List.takeWhile_cons_of_neg (by simp), List.append_nil]
  cases hraw' : Utf8.decode? raw <;> simp only [text_apply, hdrop, htake, hraw']

lemma text_of_nul_not_mem {bs : List UInt8} (h : 0 ∉ bs) :
    text bs = (.error .unterminated, bs) := by
  have hbs : bs.dropWhile (· != 0) = [] :=
    List.dropWhile_eq_nil_iff.mpr fun b hb => bne_iff_ne.mpr fun hb0 => h (hb0 ▸ hb)
  rw [text_apply, hbs]

end Reader

/-! ### Exact readers -/

/-- Reading yields a value exactly where its complete encoding stands. -/
def Exact {α : Type} (encode : α → Encoding) (r : Reader α) : Prop :=
  ∀ a bs rest, r bs = (.ok a, rest) ↔ ∃ front, (encode a).result = .ok front ∧ bs = front ++ rest

namespace Exact

variable {α β : Type} {encode : α → Encoding} {r : Reader α}

/-- Numbers that are the words of a width. -/
lemma ofWord {width : Nat} {toNat : α → Nat} {ofNat : Nat → α}
    (lt : ∀ v, toNat v < Word.bound width) (left : ∀ v, ofNat (toNat v) = v)
    (right : ∀ n < Word.bound width, toNat (ofNat n) = n) :
    Exact (fun v => .word width (toNat v)) (ofNat <$> Reader.word width) := by
  intro v bs rest
  simp only [Reader.map_eq_ok_iff, Reader.word_eq_ok_iff, Encoding.result_word]
  constructor
  · rintro ⟨n, ⟨hn, rfl⟩, rfl⟩
    exact ⟨_, rfl, by rw [right n hn]⟩
  · rintro ⟨front, hf, rfl⟩
    cases hf
    exact ⟨toNat v, ⟨lt v, rfl⟩, left v⟩

lemma u8 : Exact .u8 Reader.u8 :=
  ofWord UInt8.toNat_lt (fun _ => UInt8.ofNat_toNat) fun _ => UInt8.toNat_ofNat_of_lt

lemma u16 : Exact .u16 Reader.u16 :=
  ofWord UInt16.toNat_lt (fun _ => UInt16.ofNat_toNat) fun _ => UInt16.toNat_ofNat_of_lt

lemma u32 : Exact .u32 Reader.u32 :=
  ofWord UInt32.toNat_lt (fun _ => UInt32.ofNat_toNat) fun _ => UInt32.toNat_ofNat_of_lt

lemma u64 : Exact .u64 Reader.u64 :=
  ofWord UInt64.toNat_lt (fun _ => UInt64.ofNat_toNat) fun _ => UInt64.toNat_ofNat_of_lt

/-- Values that are those of another type, wrapped up. -/
lemma wrap (h : Exact encode r) {make : α → β} {part : β → α} (left : ∀ b, make (part b) = b)
    (right : ∀ a, part (make a) = a) : Exact (fun b => encode (part b)) (make <$> r) := by
  intro b bs rest
  rw [Reader.map_eq_ok_iff]
  constructor
  · rintro ⟨a, ha, rfl⟩
    simpa only [right] using (h a bs rest).mp ha
  · intro hb
    exact ⟨part b, (h _ bs rest).mpr hb, left b⟩

lemma text : Exact .text Reader.text := by
  intro s bs rest
  simp only [Encoding.result_text_eq_ok_iff]
  constructor
  · intro h
    by_cases h0 : 0 ∈ bs
    · obtain ⟨raw, tail, rfl, hraw⟩ := List.eq_append_cons_of_mem h0
      rw [Reader.text_append hraw] at h
      split at h
      · rename_i t ht
        cases h
        obtain rfl := Utf8.decode?_eq_some_iff.mp ht
        exact ⟨_, ⟨hraw, rfl⟩, by simp⟩
      · cases h
    · rw [Reader.text_of_nul_not_mem h0] at h
      cases h
  · rintro ⟨front, ⟨h0, rfl⟩, rfl⟩
    rw [List.append_assoc, List.singleton_append, Reader.text_append h0, Utf8.decode?_encode]

end Exact

lemma Reader.flag_eq_ok_iff {b : Bool} {bs rest : List UInt8} :
    flag bs = (.ok b, rest) ↔ ∃ v : UInt8, bs = v :: rest ∧ (v != 0) = b := by
  rw [flag, map_eq_ok_iff]
  refine exists_congr fun v => and_congr_left' ?_
  rw [Exact.u8 v bs rest]
  simp [Encoding.u8, Word.le, eq_comm]

/-! ### Readers of forms -/

/-- Items one after another. -/
inductive RowForm {α : Type} (item : α → List UInt8 → Prop) : List α → List UInt8 → Prop
  | nil : RowForm item [] []
  | cons {a as x y} (ha : item a x) (has : RowForm item as y) : RowForm item (a :: as) (x ++ y)

/-- Reading yields a value with a certain property exactly where one of its forms stands, and no
other value. -/
def Accepts {α : Type} (good : α → Prop) (form : α → List UInt8 → Prop) (r : Reader α) : Prop :=
  ∀ a bs rest, r bs = (.ok a, rest) ↔ good a ∧ ∃ front, form a front ∧ bs = front ++ rest

/-- Items in a row, as many as are asked for. -/
lemma Accepts.counted {α : Type} {good : α → Prop} {form : α → List UInt8 → Prop} {r : Reader α}
    (h : Accepts good form r) {n : Nat} {as : List α} {bs rest : List UInt8} :
    Reader.counted r n bs = (.ok as, rest) ↔ as.length = n ∧ (∀ a ∈ as, good a) ∧
      ∃ front, RowForm form as front ∧ bs = front ++ rest := by
  induction n generalizing as bs with
  | zero =>
    rw [Reader.counted_zero, Reader.pure_eq_ok_iff, List.length_eq_zero_iff]
    constructor
    · rintro ⟨rfl, rfl⟩
      exact ⟨rfl, by simp, [], .nil, rfl⟩
    · rintro ⟨rfl, -, front, hfront, rfl⟩
      cases hfront
      exact ⟨rfl, rfl⟩
  | succ n ih =>
    simp only [Reader.counted_succ, Reader.bind_eq_ok_iff, Reader.map_eq_ok_iff, h _ _ _, ih]
    constructor
    · rintro ⟨a, mid, ⟨ha, x, hx, rfl⟩, more, ⟨rfl, hmore, y, hy, rfl⟩, rfl⟩
      refine ⟨rfl, List.forall_mem_cons.mpr ⟨ha, hmore⟩, x ++ y, .cons hx hy, ?_⟩
      rw [List.append_assoc]
    · rintro ⟨hn, hgood, front, hfront, rfl⟩
      cases hfront with
      | nil => cases hn
      | cons hx hy =>
        obtain ⟨ha, hmore⟩ := List.forall_mem_cons.mp hgood
        exact ⟨_, _, ⟨ha, _, hx, List.append_assoc ..⟩, _,
          ⟨Nat.succ.inj hn, hmore, _, hy, rfl⟩, rfl⟩

/-- Reading yields a value with a certain property exactly where its complete encoding stands,
and no other value. -/
def ExactOn {α : Type} (good : α → Prop) (encode : α → Encoding) (r : Reader α) : Prop :=
  ∀ a bs rest, r bs = (.ok a, rest) ↔
    good a ∧ ∃ front, (encode a).result = .ok front ∧ bs = front ++ rest

lemma Exact.on {α : Type} {encode : α → Encoding} {r : Reader α} (h : Exact encode r) :
    ExactOn (fun _ => True) encode r := fun a bs rest => by
  rw [h a bs rest, true_and]

lemma Encoding.result_all_map_eq_ok_iff {α : Type} {encode : α → Encoding} {as : List α}
    {bs : List UInt8} : (all (as.map encode)).result = .ok bs ↔
      RowForm (fun a front => (encode a).result = .ok front) as bs := by
  induction as generalizing bs with
  | nil =>
    constructor
    · rintro ⟨⟩
      exact .nil
    · rintro ⟨⟩
      rfl
  | cons a as ih =>
    rw [List.map_cons, result_all_cons_eq_ok_iff]
    constructor
    · rintro ⟨x, y, hx, hy, rfl⟩
      exact .cons hx (ih.mp hy)
    · intro h
      cases h with
      | cons hx hy => exact ⟨_, _, hx, ih.mpr hy, rfl⟩

/-- Encodings in a row, as many as are asked for. -/
lemma ExactOn.counted {α : Type} {good : α → Prop} {encode : α → Encoding} {r : Reader α}
    (h : ExactOn good encode r) {n : Nat} {as : List α} {bs rest : List UInt8} :
    Reader.counted r n bs = (.ok as, rest) ↔ as.length = n ∧ (∀ a ∈ as, good a) ∧
      ∃ front, (Encoding.all (as.map encode)).result = .ok front ∧ bs = front ++ rest := by
  -- The complete encoding is the one form of a value.
  have haccepts : Accepts good (fun a front => (encode a).result = .ok front) r := h
  simp only [haccepts.counted, Encoding.result_all_map_eq_ok_iff]

/-- What is read by its size, behind a word that tells the size. -/
lemma Exact.behindCount {α : Type} {size : α → Nat} {encode : α → Encoding} {r : Nat → Reader α}
    (h : ∀ n a bs rest, r n bs = (.ok a, rest) ↔
      size a = n ∧ ∃ front, (encode a).result = .ok front ∧ bs = front ++ rest)
    (what : Counted) :
    Exact (fun a => .count what 4 (size a) ++ encode a) (Reader.u32 >>= fun n => r n.toNat) := by
  intro a bs rest
  simp only [Reader.bind_eq_ok_iff, u32 _ _ _, h, Encoding.result_u32,
    Encoding.result_append_eq_ok_iff, Encoding.result_count_eq_ok_iff]
  constructor
  · rintro ⟨n, mid, ⟨x, hx, rfl⟩, hn, y, hy, rfl⟩
    cases hx
    refine ⟨_, ⟨_, y, ⟨?_, rfl⟩, hy, rfl⟩, ?_⟩
    · rw [hn]
      exact n.toNat_lt
    · rw [hn, List.append_assoc]
  · rintro ⟨front, ⟨x, y, ⟨hn, rfl⟩, hy, rfl⟩, rfl⟩
    have hcount : (UInt32.ofNat (size a)).toNat = size a := UInt32.toNat_ofNat_of_lt hn
    refine ⟨UInt32.ofNat (size a), y ++ rest, ⟨_, rfl, ?_⟩, hcount.symm, y, hy, rfl⟩
    rw [hcount, List.append_assoc]

/-- Items behind a four-byte count. -/
lemma Exact.list32 {α : Type} {encode : α → Encoding} {r : Reader α} (h : Exact encode r)
    (what : Counted) :
    Exact (fun as => .count what 4 as.length ++ .all (as.map encode)) (Reader.list32 r) := by
  refine behindCount (fun n as bs rest => ?_) what
  rw [h.on.counted]
  simp only [implies_true, true_and]

/-! ### Buffers -/

namespace Buffer

lemma push_eq_ok_iff {b out : Buffer} {e : Encoding} :
    b.push e = (.ok (), out) ↔
      ∃ front, e.result = .ok front ∧ out = { b with bytes := b.bytes ++ front } := by
  rcases e with ⟨ps, _ | why⟩
  · simp [push, Encoding.result, Encoding.bytes, pushRaw, eq_comm]
  · simp [push, Encoding.result]

lemma pop_eq_iff {α : Type} {b b' : Buffer} {r : Reader α} {out : Except DecodeError α} :
    b.pop r = (out, b') ↔ ∃ rest, r b.unread = (out, rest) ∧
      b' = { b with cursor := b.bytes.length - rest.length } := by
  rw [pop]
  constructor
  · intro h
    cases h
    exact ⟨_, rfl, rfl⟩
  · rintro ⟨rest, hread, rfl⟩
    rw [hread]

lemma pop_eq_ok_iff {α : Type} {b b' : Buffer} {r : Reader α} {a : α} :
    b.pop r = (.ok a, b') ↔ ∃ rest, r b.unread = (.ok a, rest) ∧
      b' = { b with cursor := b.bytes.length - rest.length } :=
  pop_eq_iff

/-- What a reader left is unread after it. -/
lemma unread_of_suffix {b : Buffer} {rest : List UInt8} (h : rest <:+ b.unread) :
    ({ b with cursor := b.bytes.length - rest.length } : Buffer).unread = rest :=
  (List.suffix_iff_eq_drop.mp (h.trans (List.drop_suffix b.cursor b.bytes))).symm

/-- The cursor stands behind what was taken. -/
lemma cursor_of_unread_eq {b : Buffer} {taken rest : List UInt8} (h : b.unread = taken ++ rest)
    (htaken : taken ≠ []) : b.bytes.length - rest.length = b.cursor + taken.length := by
  have hlen := congrArg List.length h
  have hpos := List.length_pos_iff.mpr htaken
  simp only [unread, List.length_drop, List.length_append] at hlen
  omega

lemma unread_of_unread_eq {b : Buffer} {taken rest : List UInt8} (h : b.unread = taken ++ rest)
    (htaken : taken ≠ []) :
    ({ b with cursor := b.bytes.length - rest.length } : Buffer).unread = rest := by
  rw [cursor_of_unread_eq h htaken, unread, ← List.drop_drop, ← unread, h, List.drop_left]

end Buffer

end StoreRpc
