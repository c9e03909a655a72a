import StoreRpc.Proofs.Message.Nesting
import StoreRpc.Shape

/-!
Everything that can be read is delimited by its bytes.
-/

namespace StoreRpc

open Reader (Delimited)

lemma NumberShape.reader_delimited (s : NumberShape) : Delimited s.reader := by
  cases s with
  | u8 => exact .u8
  | u16 => exact .u16
  | u32 => exact .u32
  | u64 => exact .u64
  | i16 => exact Delimited.u16.map _
  | i32 => exact Delimited.u32.map _
  | i64 => exact Delimited.u64.map _
  | f32 => exact Propval.readSingle_delimited
  | f64 => exact Propval.readDouble_delimited

lemma LoadedTable.reader_delimited : Delimited LoadedTable.reader :=
  .record <| .bind .u32 fun _ => .bind .u32 fun _ => .pure _

lemma Reply.reader_delimited (r : Reply) : Delimited r.reader := by
  cases r with
  | nothing => exact .pure ()
  | propertyIds => exact Delimited.u16.list16
  | tags => exact Delimited.u32.list16
  | propvals => exact Propval.reader_delimited.list16
  | problems => exact Problem.reader_delimited.list16
  | table => exact Propval.reader_delimited.list16.list32
  | folder => exact .u64
  | success => exact .flag
  | partly => exact .flag
  | loadedTable => exact LoadedTable.reader_delimited
  | opened => exact .u32
  | content => exact Message.reader_delimited
  | changeNumber => exact .u64
  | contentIfAny =>
    refine .bind .flag fun present => ?_
    split
    · exact Message.reader_delimited.map some
    · exact .pure none

namespace Shape

theorem reader_delimited (s : Shape) : Delimited s.reader := by
  induction s with
  | number s => exact s.reader_delimited
  | flag => exact .flag
  | text => exact .text
  | guid => exact Guid.reader_delimited
  | name => exact PropertyName.reader_delimited
  | problem => exact Problem.reader_delimited
  | propval => exact Propval.reader_delimited
  | message => exact Message.reader_delimited
  | attachment => exact Attachment.reader_delimited
  | reply r => exact r.reader_delimited
  | list16 s ih => exact ih.list16
  | list32 s ih => exact ih.list32

/-- **What is read depends on the bytes that are taken, and cutting them short is noticed.** Where
a value was popped, every buffer that goes on with the same bytes yields the same value for them.
A buffer that ends within them yields no value, and the error says that it ended too early. -/
theorem pop_delimited (s : Shape) {b b' : Buffer} {v : s.Value}
    (h : b.pop s.reader = (.ok v, b')) :
    ∃ taken, b.Took b' taken ∧
      (∀ (d : Buffer) (suffix : List UInt8), d.unread = taken ++ suffix →
        ∃ d', d.pop s.reader = (.ok v, d') ∧ d.Took d' taken ∧ d'.unread = suffix) ∧
      ∀ (d : Buffer) (missing : List UInt8), taken = d.unread ++ missing → missing ≠ [] →
        ∃ why d', d.pop s.reader = (.error why, d') ∧ why.IsTruncation := by
  obtain ⟨rest, hread⟩ := Buffer.exists_read_of_pop h
  obtain ⟨taken, hb, htakes⟩ := s.reader_delimited _ v rest hread
  obtain ⟨after, hpop, htook, -⟩ := Buffer.pop_of_read hb hread
  obtain rfl : after = b' := congrArg Prod.snd (hpop.symm.trans h)
  refine ⟨taken, htook, fun d suffix hd => ?_, fun d missing hcut hmissing => ?_⟩
  · exact Buffer.pop_of_read hd (hd ▸ htakes.read suffix)
  · obtain ⟨why, left, hfront, hwhy⟩ := htakes.cut d.unread missing hcut hmissing
    exact ⟨why, _, by rw [Buffer.pop, hfront], hwhy⟩

/-- A row of a table, in front of other bytes and without its last byte. -/
theorem pop_delimited_table :
    let s : Shape := .reply .table
    let bs : List UInt8 := [1, 0, 0, 0, 1, 0, 0x03, 0, 0x01, 0x36, 7, 0, 0, 0]
    let table : List (List Propval) := [[⟨0x36010003, .long, .long 7⟩]]
    (Buffer.mk (9 :: bs) 1).pop s.reader = (.ok table, ⟨9 :: bs, 15⟩) ∧
      (∃ d', (Buffer.ofBytes (bs ++ [5, 6])).pop s.reader = (.ok table, d') ∧
        d'.unread = [5, 6]) ∧
      ∃ why d', (Buffer.ofBytes (bs.take 13)).pop s.reader = (.error why, d') ∧
        why.IsTruncation := by
  intro s bs table
  have hpop : (Buffer.mk (9 :: bs) 1).pop s.reader = (.ok table, ⟨9 :: bs, 15⟩) := by decide
  obtain ⟨taken, htook, hsame, hcut⟩ := pop_delimited s hpop
  obtain rfl : bs = taken := by simpa [Buffer.unread, bs] using htook.unread
  obtain ⟨d', hd', -, hrest⟩ := hsame (.ofBytes (bs ++ [5, 6])) [5, 6] rfl
  exact ⟨hpop, ⟨d', hd', hrest⟩, hcut (.ofBytes (bs.take 13)) [0] rfl (by decide)⟩

end Shape

end StoreRpc
