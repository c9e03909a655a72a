import StoreRpc.Proofs.Guid.Wire
import StoreRpc.Proofs.Property.Name
import StoreRpc.Proofs.Request.Checks
import StoreRpc.Proofs.Wire.Delimited

/-!
Property names survive the wire.

Two marks tell where the text of a name ends, the count of its bytes in front of it and the NUL
behind it. They agree in every name that is written, and reading refuses a name in which they do
not.
-/

namespace StoreRpc

lemma Reader.u8_cons (v : UInt8) (bs : List UInt8) : u8 (v :: bs) = (.ok v, bs) :=
  (Exact.u8 v _ _).mpr ⟨[v], by rw [Encoding.u8_eq_raw, Encoding.result_raw], rfl⟩

lemma Guid.reader_wire_append (g : Guid) (bs : List UInt8) :
    reader (g.wire ++ bs) = (.ok g, bs) :=
  (reader_exact g _ _).mpr ⟨g.wire, g.result_encode, rfl⟩

namespace PropertyName

/-! ### Writing -/

/-- The names that can be written. -/
def Writable : PropertyName → Prop
  | byId _ _ => True
  | byText _ s => s.utf8ByteSize ≤ 254 ∧ '\x00' ∉ s.toList

/-- What stands in front of a text: the number of its bytes, and one for the NUL. -/
def lengthByte (s : String) : UInt8 := UInt8.ofNat s.utf8ByteSize + 1

/-- The bytes of a name. -/
def bytes : PropertyName → List UInt8
  | byId g id => 0 :: (g.wire ++ Word.le 4 id.toNat)
  | byText g s => 1 :: (g.wire ++ lengthByte s :: (Utf8.encode s ++ [0]))

lemma failure_encode_iff {p : PropertyName} : p.encode.failure = none ↔ p.Writable := by
  have hchecked : p.encode.failure = none ↔ ∀ c ∈ p.checks, c.Passes := p.encode_checked
  rw [hchecked]
  cases p <;> simp [checks, Check.Passes, Writable]

lemma result_encode {p : PropertyName} (h : p.Writable) : p.encode.result = .ok p.bytes := by
  cases p with
  | byId g id =>
    have hfront := Encoding.result_append (Encoding.result_raw [0]) g.result_encode
    rw [encode, Encoding.u8_eq_raw, bytes, ← List.cons_append]
    exact Encoding.result_append hfront (Encoding.result_u32 id)
  | byText g s =>
    obtain ⟨hlength, hnul⟩ := h
    have hshort : ¬ maxLength < s.utf8ByteSize := Nat.not_lt.mpr hlength
    have hfront := Encoding.result_append (Encoding.result_raw [1]) g.result_encode
    have hcount := Encoding.result_append hfront (Encoding.result_raw [lengthByte s])
    have htext : (Encoding.text s).result = .ok (Utf8.encode s ++ [0]) :=
      Encoding.result_text_eq_ok_iff.mpr ⟨mt Utf8.zero_mem_encode_iff.mp hnul, rfl⟩
    simp only [encode, if_neg hshort, Encoding.u8_eq_raw]
    simpa [bytes, lengthByte] using Encoding.result_append hcount htext

lemma result_encode_eq_ok_iff {p : PropertyName} {bs : List UInt8} :
    p.encode.result = .ok bs ↔ p.Writable ∧ p.bytes = bs := by
  constructor
  · intro h
    have hp := failure_encode_iff.mp (Encoding.result_eq_ok_iff.mp h).1
    exact ⟨hp, Except.ok.inj ((result_encode hp).symm.trans h)⟩
  · rintro ⟨hp, rfl⟩
    exact result_encode hp

lemma push_encode_iff {p : PropertyName} {b out : Buffer} :
    b.push p.encode = (.ok (), out) ↔ p.Writable ∧ out = ⟨b.bytes ++ p.bytes, b.cursor⟩ := by
  simp only [Buffer.push_eq_ok_iff, result_encode_eq_ok_iff]
  constructor
  · rintro ⟨_, ⟨hp, rfl⟩, rfl⟩
    exact ⟨hp, rfl⟩
  · rintro ⟨hp, rfl⟩
    exact ⟨p.bytes, ⟨hp, rfl⟩, rfl⟩

/-- A byte is wide enough for the number of the bytes and one. -/
lemma toNat_lengthByte {s : String} (h : s.utf8ByteSize ≤ 254) :
    (lengthByte s).toNat = (Utf8.encode s).length + 1 := by
  rw [lengthByte, toNat_length h, Utf8.length_encode]

/-! ### Reading -/

/-- The count in front of a text is looked at when the text has been read up to its NUL. -/
lemma readText_of_declared_ne {raw : List UInt8} {declared : UInt8} (hraw : 0 ∉ raw)
    (hdeclared : declared.toNat ≠ raw.length + 1) (rest : List UInt8) :
    ∃ why, readText (declared :: (raw ++ 0 :: rest)) = (.error why, rest) ∧
      ∀ s, raw = Utf8.encode s → why = .nameLength declared (raw.length + 1) := by
  rw [readText, Reader.bind_ok (Reader.u8_cons ..), Reader.bind_apply, Reader.text_append hraw]
  cases hdecode : Utf8.decode? raw with
  | none =>
    -- Bytes that are not UTF-8 are refused for that, whatever their number.
    refine ⟨_, rfl, fun s hs => ?_⟩
    rw [hs, Utf8.decode?_encode] at hdecode
    cases hdecode
  | some s =>
    obtain rfl := Utf8.decode?_eq_some_iff.mp hdecode
    refine ⟨.nameLength declared (s.utf8ByteSize + 1), ?_, fun _ _ => rfl⟩
    have hfound : ¬ s.utf8ByteSize + 1 = declared.toNat := Ne.symm hdeclared
    simp only [if_neg hfound, Reader.fail_apply]

/-- A name whose marks do not agree is refused. -/
lemma reader_of_declared_ne {id raw : List UInt8} {declared : UInt8} (hid : id.length = 16)
    (hraw : 0 ∉ raw) (hdeclared : declared.toNat ≠ raw.length + 1) (rest : List UInt8) :
    ∃ why, reader (1 :: (id ++ declared :: (raw ++ 0 :: rest))) = (.error why, rest) ∧
      ∀ s, raw = Utf8.encode s → why = .nameLength declared (raw.length + 1) := by
  obtain ⟨g, rfl⟩ := Guid.exists_wire_eq hid
  obtain ⟨why, htext, hwhy⟩ := readText_of_declared_ne hraw hdeclared rest
  refine ⟨why, ?_, hwhy⟩
  rw [reader, Reader.bind_ok (Reader.u8_cons ..), Reader.bind_ok (g.reader_wire_append _)]
  change (byText g <$> readText) _ = _
  rw [Reader.map_apply, htext]

/-- **Names are written and read alike.** A name by id can be written, and one by text if the text
has no NUL and its bytes are counted by a byte that counts the NUL as well. What was written is
read back in front of anything, and what was read is written as the bytes that it was read from.
Where the count of a text is not that of the bytes up to its NUL and with it, no name is read. -/
theorem written_read_alike :
    (∀ (p : PropertyName) (b : Buffer),
      (∃ out, b.push p.encode = (.ok (), out)) ↔ p.Writable) ∧
    (∀ (p : PropertyName) (b out : Buffer), b.push p.encode = (.ok (), out) →
      out = ⟨b.bytes ++ p.bytes, b.cursor⟩ ∧
      ∀ (d : Buffer) (suffix : List UInt8), d.unread = p.bytes ++ suffix →
        ∃ d', d.pop reader = (.ok p, d') ∧ d.Took d' p.bytes ∧ d'.unread = suffix) ∧
    (∀ (g : Guid) (s : String), (byText g s).Writable →
      (lengthByte s).toNat = (Utf8.encode s).length + 1) ∧
    (∀ (p : PropertyName) (b b' : Buffer), b.pop reader = (.ok p, b') →
      b.Took b' p.bytes ∧
      ∀ d : Buffer, d.push p.encode = (.ok (), ⟨d.bytes ++ p.bytes, d.cursor⟩)) ∧
    ∀ (b : Buffer) (id raw rest : List UInt8) (declared : UInt8), id.length = 16 → 0 ∉ raw →
      b.unread = 1 :: (id ++ declared :: (raw ++ 0 :: rest)) →
      declared.toNat ≠ raw.length + 1 →
        ∃ why b', b.pop reader = (.error why, b') ∧ b'.unread = rest ∧
          ∀ s, raw = Utf8.encode s → why = .nameLength declared (raw.length + 1) := by
  refine ⟨fun p b => ?_, fun p b out hpush => ?_, fun g s hs => toNat_lengthByte hs.1,
    fun p b b' hpop => ?_, fun b id raw rest declared hid hraw hb hdeclared => ?_⟩
  · simp only [push_encode_iff, exists_and_left, exists_eq, and_true]
  · obtain ⟨hp, hout⟩ := push_encode_iff.mp hpush
    refine ⟨hout, fun d suffix hd => ?_⟩
    exact reader_exact.pop_of_unread_eq (result_encode_eq_ok_iff.mpr ⟨hp, rfl⟩) hd
  · obtain ⟨taken, htaken, htook⟩ := reader_exact.took_of_pop hpop
    obtain ⟨hp, rfl⟩ := result_encode_eq_ok_iff.mp htaken
    exact ⟨htook, fun d => push_encode_iff.mpr ⟨hp, rfl⟩⟩
  · obtain ⟨why, hread, hwhy⟩ := reader_of_declared_ne hid hraw hdeclared rest
    rw [← hb] at hread
    have hrest : rest <:+ b.unread := hb ▸ ⟨1 :: (id ++ declared :: (raw ++ [0])), by simp⟩
    exact ⟨why, _, Buffer.pop_eq_iff.mpr ⟨rest, hread, rfl⟩, Buffer.unread_of_suffix hrest, hwhy⟩

/-- A text of one character and two bytes, and the same bytes behind a count that is too small. -/
theorem written_read_alike_umlaut :
    let id : List UInt8 := [1, 2, 3, 4, 5, 6, 7, 8, 9, 10, 11, 12, 13, 14, 15, 16]
    let g : Guid := ⟨0x04030201, 0x0605, 0x0807, #v[9, 10], #v[11, 12, 13, 14, 15, 16]⟩
    let bs : List UInt8 := 1 :: (id ++ [3, 0xC3, 0xA4, 0])
    let short : Buffer := .ofBytes (1 :: (id ++ [2, 0xC3, 0xA4, 0, 7]))
    Buffer.empty.push (byText g "ä").encode = (.ok (), .ofBytes bs) ∧
      (∃ d', (Buffer.mk (9 :: bs ++ [7]) 1).pop reader = (.ok (byText g "ä"), d') ∧
        d'.unread = [7] ∧ (Buffer.mk (9 :: bs ++ [7]) 1).Took d' bs) ∧
      (lengthByte "ä").toNat = 3 ∧
      ∃ b', short.pop reader = (.error (.nameLength 2 3), b') ∧ b'.unread = [7] := by
  intro id g bs short
  obtain ⟨hwritable, hread, hlength, htook, hrefused⟩ := written_read_alike
  have hpush : Buffer.empty.push (byText g "ä").encode = (.ok (), .ofBytes bs) := by decide
  obtain ⟨d', hd', -, hrest⟩ := (hread _ _ _ hpush).2 (.mk (9 :: bs ++ [7]) 1) [7] (by decide)
  obtain ⟨why, b', hfail, hrest', hwhy⟩ :=
    hrefused short id [0xC3, 0xA4] [7] 2 rfl (by decide) rfl (by decide)
  obtain rfl := hwhy "ä" (by decide)
  have hbytes : (byText g "ä").bytes = bs := by decide
  exact ⟨hpush, ⟨d', hd', hrest, hbytes ▸ (htook _ _ _ hd').1⟩,
    hlength g "ä" ((hwritable _ _).mp ⟨_, hpush⟩), b', hfail, hrest'⟩

end PropertyName

end StoreRpc
