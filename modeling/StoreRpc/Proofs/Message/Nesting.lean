import Mathlib.Logic.Function.Iterate
import StoreRpc.Proofs.Property.Delimited
import StoreRpc.Message

/-!
Reading messages in messages.

A message is read level by level, and a level has taken bytes before it comes to the messages in
its attachments. So there are fewer levels than bytes, and what is read does not depend on how
many levels would have been allowed.
-/

namespace StoreRpc

open Reader (Delimited)

namespace Reader

variable {α β : Type}

/-- The readers do the same with fewer than `n` bytes. -/
def AgreeBelow (n : Nat) (r r' : Reader α) : Prop := ∀ bs, bs.length < n → r bs = r' bs

namespace AgreeBelow

variable {n : Nat} {r r' : Reader α} {f f' : α → Reader β}

lemma refl (n : Nat) (r : Reader α) : AgreeBelow n r r := fun _ _ => rfl

lemma bind (hr : AgreeBelow n r r') (hr' : Delimited r') (hf : ∀ a, AgreeBelow n (f a) (f' a)) :
    AgreeBelow n (r >>= f) (r' >>= f') := by
  intro bs hbs
  rw [bind_apply, bind_apply, hr bs hbs]
  rcases hread : r' bs with ⟨e | a, rest⟩
  · rfl
  · exact hf a rest (Nat.lt_of_le_of_lt (hr'.length_le hread) hbs)

/-- What takes bytes leaves fewer for what comes behind it. -/
lemma bind_succ (hr : ∀ bs a rest, r bs = (.ok a, rest) → rest.length < bs.length)
    (hf : ∀ a, AgreeBelow n (f a) (f' a)) : AgreeBelow (n + 1) (r >>= f) (r >>= f') := by
  intro bs hbs
  rw [bind_apply, bind_apply]
  rcases hread : r bs with ⟨e | a, rest⟩
  · rfl
  · exact hf a rest (Nat.lt_of_lt_of_le (hr bs a rest hread) (Nat.le_of_lt_succ hbs))

lemma map (g : α → β) (hr : AgreeBelow n r r') : AgreeBelow n (g <$> r) (g <$> r') := by
  intro bs hbs
  rw [map_apply, map_apply, hr bs hbs]

lemma counted (hr : AgreeBelow n r r') (hr' : Delimited r') (count : Nat) :
    AgreeBelow n (counted r count) (Reader.counted r' count) := by
  induction count with
  | zero => exact refl n _
  | succ count ih =>
    rw [counted_succ, counted_succ]
    exact hr.bind hr' fun a => ih.map (a :: ·)

end AgreeBelow

/-- A counted list takes bytes, if only for its count. -/
lemma length_lt_of_list16 {r : Reader α} (hr : Delimited r) {bs rest : List UInt8} {as : List α}
    (h : list16 r bs = (.ok as, rest)) : rest.length < bs.length := by
  obtain ⟨count, mid, hcount, has⟩ := bind_eq_ok_iff.mp h
  obtain ⟨front, hfront, rfl⟩ := (Exact.u16 count bs mid).mp hcount
  have hlength : front.length = 2 := by
    cases hfront
    exact Word.length_le 2 count.toNat
  have := (hr.counted count.toNat).length_le has
  rw [List.length_append]
  omega

end Reader

namespace Message

variable {message message' : Reader Message} {n : Nat}

lemma readOptional_delimited {α : Type} {item : Reader α} (h : Delimited item) :
    Delimited (readOptional item) := by
  refine .bind .flag fun present => ?_
  split
  · exact h.list32
  · exact .pure []

lemma readAttachment_delimited (h : Delimited message) : Delimited (readAttachment message) := by
  refine .bind Propval.reader_delimited.list16 fun ps => .bind .flag fun present => ?_
  split
  · exact h.map _
  · exact .pure _

/-- One level of a message, by the reader of the messages in its attachments. -/
def readLevel (message : Reader Message) : Reader Message := do
  let ps ← Reader.list16 Propval.reader
  let recipients ← readOptional (Reader.list16 Propval.reader)
  let attachments ← readOptional (readAttachment message)
  return ⟨ps, recipients, attachments⟩

lemma readWithin_succ (depth : Nat) : readWithin (depth + 1) = readLevel (readWithin depth) := rfl

lemma readLevel_delimited (h : Delimited message) : Delimited (readLevel message) :=
  .bind Propval.reader_delimited.list16 fun _ =>
    .bind (readOptional_delimited Propval.reader_delimited.list16) fun _ =>
      .bind (readOptional_delimited (readAttachment_delimited h)) fun _ => .pure _

lemma readWithin_delimited (depth : Nat) : Delimited (readWithin depth) := by
  induction depth with
  | zero =>
    rintro bs m rest h
    cases h
  | succ depth ih => exact readLevel_delimited ih

/-! ### Levels that are not reached -/

lemma readAttachment_agree (h : message.AgreeBelow n message') :
    (readAttachment message).AgreeBelow n (readAttachment message') := by
  refine .bind (.refl n _) Propval.reader_delimited.list16 fun ps =>
    .bind (.refl n _) .flag fun present => ?_
  split
  · exact h.map _
  · exact .refl n _

lemma readOptional_agree {α : Type} {item item' : Reader α} (h : item.AgreeBelow n item')
    (h' : Delimited item') : (readOptional item).AgreeBelow n (readOptional item') := by
  refine .bind (.refl n _) .flag fun present => ?_
  split
  · exact .bind (.refl n _) .u32 fun count => h.counted h' count.toNat
  · exact .refl n _

/-- A level takes bytes before it enters the next one. -/
lemma readLevel_agree (h : message.AgreeBelow n message') (h' : Delimited message') :
    (readLevel message).AgreeBelow (n + 1) (readLevel message') := by
  refine .bind_succ (fun bs ps rest => Reader.length_lt_of_list16 Propval.reader_delimited)
    fun ps => ?_
  refine .bind (.refl n _) (readOptional_delimited Propval.reader_delimited.list16) fun rs => ?_
  have hattachments : Delimited (readOptional (readAttachment message')) :=
    readOptional_delimited (readAttachment_delimited h')
  exact .bind (readOptional_agree (readAttachment_agree h) (readAttachment_delimited h'))
    hattachments fun as => .refl n _

lemma iterate_readLevel_agree (bottom : Reader Message) (n : Nat) :
    (readLevel^[n] bottom).AgreeBelow n (readWithin n) := by
  induction n with
  | zero => exact fun bs hbs => absurd hbs (Nat.not_lt_zero _)
  | succ n ih =>
    rw [Function.iterate_succ_apply', readWithin_succ]
    exact readLevel_agree ih (readWithin_delimited n)

/-- As many levels as there are bytes are enough: what would be read below them is of no account. -/
theorem iterate_readLevel (bottom : Reader Message) {n : Nat} {bs : List UInt8}
    (hn : bs.length < n) : readLevel^[n] bottom bs = reader bs := by
  obtain ⟨k, rfl⟩ := Nat.exists_eq_add_of_lt hn
  rw [Nat.add_right_comm, Function.iterate_add_apply]
  exact iterate_readLevel_agree _ (bs.length + 1) bs (Nat.lt_succ_self _)

lemma readWithin_eq_iterate (depth : Nat) :
    readWithin depth = readLevel^[depth] (readWithin 0) := by
  induction depth with
  | zero => rfl
  | succ depth ih => rw [readWithin_succ, ih, Function.iterate_succ_apply']

/-- Allowing more levels makes no difference. -/
lemma readWithin_of_lt {depth : Nat} {bs : List UInt8} (h : bs.length < depth) :
    readWithin depth bs = reader bs := by
  rw [readWithin_eq_iterate, iterate_readLevel _ h]

/-- A message is read by reading the messages in it. -/
theorem readLevel_reader (bs : List UInt8) : readLevel reader bs = reader bs := by
  have hbelow : reader.AgreeBelow (bs.length + 1) (readWithin (bs.length + 1)) :=
    fun bs' hbs' => (readWithin_of_lt hbs').symm
  have hlevel := readLevel_agree hbelow (readWithin_delimited _) bs (by omega)
  rw [hlevel, ← readWithin_succ, readWithin_of_lt (by omega)]

theorem reader_delimited : Delimited reader := by
  intro bs m rest h
  obtain ⟨taken, rfl, -⟩ := readWithin_delimited _ bs m rest h
  have htakes (depth : Nat) (hdepth : taken.length + rest.length < depth) :
      (readWithin depth).Takes taken m := by
    have hread : readWithin depth (taken ++ rest) = (.ok m, rest) := by
      rw [readWithin_of_lt (by rwa [List.length_append]), h]
    exact (readWithin_delimited depth).takes hread
  refine ⟨taken, rfl, fun suffix => ?_, fun front missing hcut hmissing => ?_⟩
  · -- Enough levels for the bytes at hand and for those with the suffix.
    have hread := (htakes (taken.length + rest.length + suffix.length + 1) (by omega)).read suffix
    rwa [readWithin_of_lt (by rw [List.length_append]; omega)] at hread
  · have hfront := (htakes _ (Nat.lt_succ_self _)).cut front missing hcut hmissing
    have hlength := congrArg List.length hcut
    rw [List.length_append] at hlength
    rwa [readWithin_of_lt (by omega)] at hfront

end Message

lemma Attachment.reader_delimited : Delimited Attachment.reader :=
  Message.readAttachment_delimited Message.reader_delimited

end StoreRpc
