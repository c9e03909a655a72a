import StoreRpc.Proofs.Wire.Cost
import StoreRpc.Proofs.Shape.Delimited

/-!
Counts are bounded by bytes.

A collection is read by its count, which is whatever the bytes say. But each of its items takes at
least one byte, and so a count of more items than there are bytes is not met, and what is read in
the end has no more parts, at any depth, than it has taken bytes.
-/

namespace StoreRpc

open Reader (Delimited PaysFor)

/-! ### The parts of what is read -/

/-- A property value and the elements of an array, or the bytes of a binary. -/
def Propval.nodes (p : Propval) : Nat := 1 + p.payload.count

/-- A row and the values in it. -/
def rowNodes (ps : List Propval) : Nat := 1 + (ps.map Propval.nodes).sum

mutual

/-- A message, its values, its recipients and attachments, and what is in these. -/
def Message.nodes : Message → Nat
  | ⟨ps, rs, as⟩ => rowNodes ps + (rs.map rowNodes).sum + (as.map Attachment.nodes).sum

/-- An attachment, its values and the message in it. -/
def Attachment.nodes : Attachment → Nat
  | ⟨ps, none⟩ => rowNodes ps
  | ⟨ps, some m⟩ => rowNodes ps + m.nodes

end

/-- What a reply lists, and what is in it. -/
def Reply.nodes : (r : Reply) → r.Value → Nat
  | nothing, _ | folder, _ | success, _ | partly, _ | loadedTable, _ | opened, _
  | changeNumber, _ => 0
  | propertyIds, ids => ids.length
  | tags, ts => ts.length
  | propvals, ps => (ps.map Propval.nodes).sum
  | problems, ps => ps.length
  | table, rows => (rows.map rowNodes).sum
  | content, m => m.nodes
  | contentIfAny, m => (m.map Message.nodes).getD 0

/-! ### What they take -/

namespace Propval

lemma readSingle_paysFor : readSingle.PaysFor 0 fun _ => 4 := PaysFor.u32.map fun _ => Nat.le_refl _

lemma readDouble_paysFor : readDouble.PaysFor 0 fun _ => 8 := PaysFor.u64.map fun _ => Nat.le_refl _

lemma readBinary_paysFor : readBinary.PaysFor 0 fun bs => 4 + bs.length :=
  .bind .u32 fun n => (PaysFor.take n.toNat).mono fun _ => by omega

lemma readPayload_paysFor (k : Kind) : (readPayload k).PaysFor 0 Payload.count := by
  cases k with
  | byte => exact PaysFor.u8.map fun _ => (by decide : 1 ≤ 1)
  | short => exact PaysFor.u16.map fun _ => (by decide : 1 ≤ 2)
  | long => exact PaysFor.u32.map fun _ => (by decide : 1 ≤ 4)
  | longLong => exact PaysFor.u64.map fun _ => (by decide : 1 ≤ 8)
  | float => exact readSingle_paysFor.map fun _ => (by decide : 1 ≤ 4)
  | double => exact readDouble_paysFor.map fun _ => (by decide : 1 ≤ 8)
  | string => exact PaysFor.text.map fun _ => (by decide : 1 ≤ 1)
  | binary => exact readBinary_paysFor.map fun bs => Nat.le_add_left bs.length 4
  | shorts => exact (PaysFor.u16.length_list32 fun _ => by decide).map fun _ => Nat.le_refl _
  | longs => exact (PaysFor.u32.length_list32 fun _ => by decide).map fun _ => Nat.le_refl _
  | longLongs => exact (PaysFor.u64.length_list32 fun _ => by decide).map fun _ => Nat.le_refl _
  | floats => exact (readSingle_paysFor.length_list32 fun _ => by decide).map fun _ => Nat.le_refl _
  | doubles =>
    exact (readDouble_paysFor.length_list32 fun _ => by decide).map fun _ => Nat.le_refl _
  | strings =>
    exact (PaysFor.text.length_list32 fun _ => by decide).map
      fun _ => Nat.le_of_eq (List.length_map own)
  | binaries =>
    exact (readBinary_paysFor.length_list32 fun _ => Nat.le_add_right_of_le (by decide)).map
      fun _ => Nat.le_of_eq (List.length_map own)

lemma readCode_paysFor (tag : UInt32) : (readCode tag).PaysFor 4 fun _ => 4 := by
  unfold readCode
  split
  · exact PaysFor.u16.mono fun _ => by decide
  · exact .pure (Nat.le_refl 4)

lemma readType_paysFor (code : UInt16) : (readType code).PaysFor 4 fun _ => 4 := by
  unfold readType
  split
  · exact .fail _
  · split
    · exact .fail _
    · exact .pure (Nat.le_refl 4)

/-- The bytes of the tag are more than enough for the value itself. -/
lemma reader_paysFor : reader.PaysFor 0 nodes := by
  refine .bind .u32 fun tag => .bind (readCode_paysFor tag) fun code =>
    .bind (readType_paysFor code) fun (type, kind) => ?_
  have hpayload : (readPayload kind).PaysFor 4 fun payload => 4 + payload.count :=
    (readPayload_paysFor kind).mono fun _ => by omega
  exact hpayload.bind fun payload => .pure (Nat.add_le_add_right (by decide) payload.count)

end Propval

/-- The count of a row is paid for as the row itself. -/
lemma row_paysFor : (Reader.list16 Propval.reader).PaysFor 0 rowNodes :=
  Propval.reader_paysFor.list16.mono fun ps => by rw [rowNodes]; omega

namespace Message

variable {message : Reader Message}

lemma readOptional_paysFor {α : Type} {item : Reader α} {cost : α → Nat}
    (h : item.PaysFor 0 cost) : (readOptional item).PaysFor 0 fun as => (as.map cost).sum := by
  refine .bind .flag fun present => ?_
  split
  · exact h.list32.mono fun _ => by omega
  · exact .pure (Nat.zero_le _)

lemma readAttachment_paysFor (h : message.PaysFor 0 nodes) :
    (readAttachment message).PaysFor 0 Attachment.nodes := by
  refine .bind row_paysFor fun ps => ?_
  have hflag : Reader.flag.PaysFor (rowNodes ps) fun _ => rowNodes ps :=
    PaysFor.flag.mono fun _ => by omega
  refine hflag.bind fun present => ?_
  split
  · have hmessage : message.PaysFor (rowNodes ps) fun m => rowNodes ps + m.nodes :=
      h.mono fun m => by omega
    exact hmessage.map fun m => by rw [Attachment.nodes]
  · exact .pure (by rw [Attachment.nodes])

/-- What the parts in front cost is a credit for those behind. -/
lemma readLevel_paysFor (h : message.PaysFor 0 nodes) : (readLevel message).PaysFor 0 nodes := by
  refine .bind row_paysFor fun ps => ?_
  have hrecipients : (readOptional (Reader.list16 Propval.reader)).PaysFor (rowNodes ps)
      fun rs => rowNodes ps + (rs.map rowNodes).sum :=
    (readOptional_paysFor row_paysFor).mono fun rs => by omega
  refine hrecipients.bind fun rs => ?_
  have hattachments : (readOptional (readAttachment message)).PaysFor
      (rowNodes ps + (rs.map rowNodes).sum)
      fun as => rowNodes ps + (rs.map rowNodes).sum + (as.map Attachment.nodes).sum :=
    (readOptional_paysFor (readAttachment_paysFor h)).mono fun as => by omega
  exact hattachments.bind fun as => .pure (by rw [nodes])

lemma readWithin_paysFor (depth : Nat) : (readWithin depth).PaysFor 0 nodes := by
  induction depth with
  | zero =>
    rintro bs m rest h
    cases h
  | succ depth ih => exact readLevel_paysFor ih

lemma reader_paysFor : reader.PaysFor 0 nodes :=
  fun bs m rest h => readWithin_paysFor (bs.length + 1) bs m rest h

end Message

lemma Attachment.reader_paysFor : Attachment.reader.PaysFor 0 Attachment.nodes :=
  Message.readAttachment_paysFor Message.reader_paysFor

lemma Problem.reader_paysFor : Problem.reader.PaysFor 0 fun _ => 1 :=
  .of_nil Problem.reader_delimited ⟨_, _, rfl⟩

lemma Reply.reader_paysFor (r : Reply) : r.reader.PaysFor 0 r.nodes := by
  -- A reply that lists nothing costs nothing.
  have hnone {r : Reply} (h : ∀ v, r.nodes v = 0) : r.reader.PaysFor 0 r.nodes := by
    intro bs v rest hread
    have hlength := r.reader_delimited.length_le hread
    rwa [h v, Nat.zero_add, Nat.zero_add]
  cases r with
  | nothing | folder | success | partly | loadedTable | opened | changeNumber =>
    exact hnone fun _ => rfl
  | propertyIds => exact PaysFor.u16.length_list16 fun _ => by decide
  | tags => exact PaysFor.u32.length_list16 fun _ => by decide
  | propvals => exact Propval.reader_paysFor.list16.mono fun ps => Nat.le_add_left _ 2
  | problems => exact Problem.reader_paysFor.length_list16 fun _ => Nat.le_refl 1
  | table => exact row_paysFor.list32.mono fun rows => Nat.le_add_left _ 4
  | content => exact Message.reader_paysFor
  | contentIfAny =>
    refine .bind .flag fun present => ?_
    split
    · have hmessage : Message.reader.PaysFor 1 Message.nodes :=
        Message.reader_paysFor.mono fun m => by omega
      exact hmessage.map fun m => Nat.le_refl _
    · exact .pure (Nat.zero_le 1)

/-! ### Collections -/

/-- How a collection declares its count. -/
inductive CountLayout
  | short
  | long
  /-- Behind a flag, and only if that is set. -/
  | optional
  deriving DecidableEq, Repr

namespace CountLayout

def reader {α : Type} (l : CountLayout) (item : Reader α) : Reader (List α) :=
  match l with
  | short => Reader.list16 item
  | long => Reader.list32 item
  | optional => Message.readOptional item

/-- The bytes in front of the items with this count. -/
inductive Declares : CountLayout → List UInt8 → Nat → Prop
  | short (n : UInt16) : Declares short (Word.le 2 n.toNat) n.toNat
  | long (n : UInt32) : Declares long (Word.le 4 n.toNat) n.toNat
  | optional (flag : UInt8) (hflag : flag ≠ 0) (n : UInt32) :
    Declares optional (flag :: Word.le 4 n.toNat) n.toNat

/-- Behind the count the items are read. -/
lemma Declares.read {α : Type} {l : CountLayout} {header : List UInt8} {count : Nat}
    (h : l.Declares header count) (item : Reader α) (rest : List UInt8) :
    l.reader item (header ++ rest) = Reader.counted item count rest := by
  cases h with
  | short n => exact Reader.bind_ok ((Exact.u16 n _ rest).mpr ⟨_, rfl, rfl⟩)
  | long n => exact Reader.bind_ok ((Exact.u32 n _ rest).mpr ⟨_, rfl, rfl⟩)
  | optional flag hflag n =>
    have hset : Reader.flag (flag :: (Word.le 4 n.toNat ++ rest)) =
        (.ok true, Word.le 4 n.toNat ++ rest) :=
      Reader.flag_eq_ok_iff.mpr ⟨flag, rfl, bne_iff_ne.mpr hflag⟩
    have hcount : Reader.u32 (Word.le 4 n.toNat ++ rest) = (.ok n, rest) :=
      (Exact.u32 n _ rest).mpr ⟨_, rfl, rfl⟩
    rw [reader, Message.readOptional, List.cons_append, Reader.bind_ok hset, if_pos rfl]
    exact Reader.bind_ok hcount

end CountLayout

/-- What the items of a collection are: values of any shape, but for the reply that takes no bytes,
or binaries. -/
inductive ItemShape
  | of (s : Shape) (takes : s ≠ .reply .nothing)
  | binary

namespace ItemShape

@[reducible] def Value : ItemShape → Type
  | of s _ => s.Value
  | binary => List UInt8

def reader : (e : ItemShape) → Reader e.Value
  | of s _ => s.reader
  | binary => Propval.readBinary

lemma reader_delimited (e : ItemShape) : Delimited e.reader := by
  cases e with
  | of s _ => exact s.reader_delimited
  | binary => exact Propval.readBinary_delimited

/-- There is no item in no bytes. -/
lemma reader_nil (e : ItemShape) : ∃ why rest, e.reader [] = (.error why, rest) := by
  cases e with
  | of s takes =>
    cases s with
    | number s => cases s <;> exact ⟨_, _, rfl⟩
    | reply r => cases r <;> first | exact absurd rfl takes | exact ⟨_, _, rfl⟩
    | _ => exact ⟨_, _, rfl⟩
  | binary => exact ⟨_, _, rfl⟩

end ItemShape

/-- **A count does not make more of the bytes than there are.** If more items are declared than
there are bytes behind the count, reading fails; otherwise, if it succeeds, the items are as many as
declared, which is also the room that is reserved for them. And what is read of property values,
messages and replies has at most as many parts, those in its parts included, as bytes were taken. -/
theorem Shape.nodes_le_taken :
    (∀ (l : CountLayout) (e : ItemShape) (header rest : List UInt8) (count : Nat) (b : Buffer),
      l.Declares header count → b.unread = header ++ rest →
        (rest.length < count → ∃ why b', b.pop (l.reader e.reader) = (.error why, b')) ∧
        ∀ items b', b.pop (l.reader e.reader) = (.ok items, b') →
          items.length = count ∧ min count rest.length = items.length) ∧
    (∀ p b b', Buffer.pop b Propval.reader = (.ok p, b') →
      ∃ taken, b.Took b' taken ∧ p.nodes ≤ taken.length) ∧
    (∀ m b b', Buffer.pop b Message.reader = (.ok m, b') →
      ∃ taken, b.Took b' taken ∧ m.nodes ≤ taken.length) ∧
    (∀ a b b', Buffer.pop b Attachment.reader = (.ok a, b') →
      ∃ taken, b.Took b' taken ∧ a.nodes ≤ taken.length) ∧
    ∀ (r : Reply) v b b', Buffer.pop b r.reader = (.ok v, b') →
      ∃ taken, b.Took b' taken ∧ r.nodes v ≤ taken.length := by
  refine ⟨fun l e header rest count b hheader hb => ?_,
    fun p b b' => Buffer.cost_le_of_pop Propval.reader_paysFor Propval.reader_delimited,
    fun m b b' => Buffer.cost_le_of_pop Message.reader_paysFor Message.reader_delimited,
    fun a b b' => Buffer.cost_le_of_pop Attachment.reader_paysFor Attachment.reader_delimited,
    fun r v b b' => Buffer.cost_le_of_pop r.reader_paysFor r.reader_delimited⟩
  have hitem : e.reader.PaysFor 0 fun _ => 1 := .of_nil e.reader_delimited e.reader_nil
  have hsuccess {items : List e.Value} {b' : Buffer}
      (h : b.pop (l.reader e.reader) = (.ok items, b')) :
      items.length = count ∧ count ≤ rest.length := by
    obtain ⟨left, hread, -⟩ := Buffer.pop_eq_iff.mp h
    rw [hb, hheader.read] at hread
    have hlength := Reader.length_of_counted hread
    have hpaid := hitem.length_counted (fun _ => Nat.le_refl 1) count rest items left hread
    exact ⟨hlength, by omega⟩
  refine ⟨fun hshort => ?_, fun items b' hpop => ?_⟩
  · rcases hpop : b.pop (l.reader e.reader) with ⟨why | items, b'⟩
    · exact ⟨why, b', rfl⟩
    · exact absurd (hsuccess hpop).2 (Nat.not_le.mpr hshort)
  · obtain ⟨hlength, hle⟩ := hsuccess hpop
    exact ⟨hlength, by omega⟩

/-- Recipients whose count is the greatest there is, in front of six bytes, and a table of one row
with one value. -/
theorem Shape.nodes_le_taken_hostile :
    let row : ItemShape := .of (.list16 .propval) (by decide)
    let hostile : List UInt8 := [7, 0xFF, 0xFF, 0xFF, 0xFF] ++ [0, 0, 0, 0, 0, 0]
    let table : List (List Propval) := [[⟨0x36010003, .long, .long 7⟩]]
    let bs : List UInt8 := [1, 0, 0, 0, 1, 0, 0x03, 0, 0x01, 0x36, 7, 0, 0, 0, 5]
    (∃ why b', (Buffer.ofBytes hostile).pop (CountLayout.optional.reader row.reader) =
      (.error why, b')) ∧
    (Buffer.ofBytes bs).pop Reply.table.reader = (.ok table, ⟨bs, 14⟩) ∧
    ∃ taken, (Buffer.ofBytes bs).Took ⟨bs, 14⟩ taken ∧ 3 ≤ taken.length := by
  intro row hostile table bs
  have hpop : (Buffer.ofBytes bs).pop Reply.table.reader = (.ok table, ⟨bs, 14⟩) := by decide
  obtain ⟨hcounts, -, -, -, hreply⟩ := Shape.nodes_le_taken
  have hheader : CountLayout.optional.Declares [7, 0xFF, 0xFF, 0xFF, 0xFF] 0xFFFFFFFF :=
    .optional 7 (by decide) 0xFFFFFFFF
  exact ⟨(hcounts .optional row _ _ _ (.ofBytes hostile) hheader rfl).1 (by decide), hpop,
    hreply .table table _ _ hpop⟩

end StoreRpc
