import StoreRpc.Guid.Xid
import StoreRpc.Proofs.Guid.EntryId
import StoreRpc.Proofs.Property.NameWire

/-!
Change identifiers cut to their size.

Behind the GUID stand as many bytes of the local id as the size leaves, the first ones in memory.
The size stands in front, so that identifiers are told apart whatever follows them. In a counter
field the first bytes in memory are those of the value, and the last two are zeros, so that nothing
of a counter is lost unless more than two bytes are cut off.
-/

namespace StoreRpc

/-- The beginning of a word is the shorter word. -/
lemma Word.take_le {v w : Nat} (h : v ≤ w) (n : Nat) : (le w n).take v = le v n := by
  obtain ⟨d, rfl⟩ := Nat.exists_eq_add_of_le h
  rw [le_add]
  exact List.take_left' (length_le v n)

lemma Guid.wire_injective {g h : Guid} (heq : g.wire = h.wire) : g = h := by
  have hread := g.reader_wire_append []
  rw [heq, h.reader_wire_append] at hread
  cases hread
  rfl

namespace Xid

/-! ### Writing -/

/-- There is room for the GUID and a byte of the id, and no more room than the id fills. -/
def Sized (x : Xid) : Prop := 17 ≤ x.size.toNat ∧ x.size.toNat ≤ 24

/-- How many bytes of the id are kept. -/
def kept (x : Xid) : Nat := x.size.toNat - 16

/-- The bytes of an identifier without its size. -/
def bareBytes (x : Xid) : List UInt8 := x.guid.wire ++ Word.le x.kept x.localId.toNat

lemma sized_iff {x : Xid} : x.Sized ↔ minSize ≤ x.size ∧ x.size ≤ maxSize := by
  rw [Sized, UInt8.le_iff_toNat_le, UInt8.le_iff_toNat_le]
  rfl

lemma result_encodeBare_of_sized {x : Xid} (h : x.Sized) :
    x.encodeBare.result = .ok x.bareBytes := by
  have hkept : x.size.toNat - 16 ≤ 8 := Nat.sub_le_of_le_add h.2
  rw [encodeBare, if_pos (sized_iff.mp h), Word.take_le hkept]
  exact Encoding.result_append x.guid.result_encode (Encoding.result_raw _)

lemma encodeBare_of_not_sized {x : Xid} (h : ¬ x.Sized) :
    x.encodeBare = .fail (.xidSize x.size) := by
  rw [encodeBare, if_neg (mt sized_iff.mpr h)]

lemma length_bareBytes {x : Xid} (h : x.Sized) : x.bareBytes.length = x.size.toNat := by
  have hkept : 16 + (x.size.toNat - 16) = x.size.toNat := by
    have := h.1
    omega
  rw [bareBytes, List.length_append, Guid.length_wire, Word.length_le, kept, hkept]

lemma result_encodeBare_eq_ok_iff {x : Xid} {bs : List UInt8} :
    x.encodeBare.result = .ok bs ↔ x.Sized ∧ bs = x.bareBytes := by
  by_cases h : x.Sized
  · rw [result_encodeBare_of_sized h, Except.ok.injEq, eq_comm]
    exact (and_iff_right h).symm
  · rw [encodeBare_of_not_sized h, Encoding.result_fail]
    exact iff_of_false nofun fun hsized => h hsized.1

lemma result_encode_eq_ok_iff {x : Xid} {bs : List UInt8} :
    x.encode.result = .ok bs ↔ x.Sized ∧ bs = x.size :: x.bareBytes := by
  rw [encode, Encoding.u8_eq_raw, Encoding.result_raw_append_eq_ok_iff]
  constructor
  · rintro ⟨back, hback, rfl⟩
    obtain ⟨hsized, rfl⟩ := result_encodeBare_eq_ok_iff.mp hback
    exact ⟨hsized, rfl⟩
  · rintro ⟨hsized, rfl⟩
    exact ⟨_, result_encodeBare_eq_ok_iff.mpr ⟨hsized, rfl⟩, rfl⟩

lemma push_encodeBare_iff {x : Xid} {b out : Buffer} :
    b.push x.encodeBare = (.ok (), out) ↔
      x.Sized ∧ out = ⟨b.bytes ++ x.bareBytes, b.cursor⟩ := by
  simp only [Buffer.push_eq_ok_iff, result_encodeBare_eq_ok_iff, and_assoc, exists_and_left,
    exists_eq_left]

lemma push_of_not_sized {x : Xid} (h : ¬ x.Sized) (b : Buffer) :
    b.push x.encodeBare = (.error (.xidSize x.size), b) := by
  rw [encodeBare_of_not_sized h, Buffer.push]
  simp [Encoding.fail, Encoding.bytes, Buffer.pushRaw]

/-- The size is written before it is looked at. -/
lemma push_encode (x : Xid) (b : Buffer) :
    b.push x.encode = Buffer.push ⟨b.bytes ++ [x.size], b.cursor⟩ x.encodeBare := by
  simp [encode, Encoding.u8_eq_raw, Encoding.raw, Encoding.bytes, Buffer.push, Buffer.pushRaw]

/-! ### Telling apart -/

/-- With the size in front, the bytes tell where the identifier ends and what is in it. -/
lemma eq_of_bytes {x y : Xid} {s t : List UInt8}
    (h : x.size :: (x.bareBytes ++ s) = y.size :: (y.bareBytes ++ t)) :
    x.size = y.size ∧ x.guid = y.guid ∧
      x.localId.toNat % 2 ^ (8 * x.kept) = y.localId.toNat % 2 ^ (8 * x.kept) ∧ s = t := by
  obtain ⟨hsize, hrest⟩ := List.cons.inj h
  have hkept : x.kept = y.kept := congrArg (fun size => size.toNat - 16) hsize
  rw [bareBytes, bareBytes, ← hkept, List.append_assoc, List.append_assoc] at hrest
  obtain ⟨hguid, hrest⟩ := List.append_inj hrest (by rw [Guid.length_wire, Guid.length_wire])
  obtain ⟨hid, hrest⟩ := List.append_inj hrest (by rw [Word.length_le, Word.length_le])
  refine ⟨hsize, Guid.wire_injective hguid, ?_, hrest⟩
  have hvalue := congrArg Word.ofLe hid
  have hbound : Word.bound x.kept = 2 ^ (8 * x.kept) := by
    rw [Word.bound_eq, Nat.pow_mul]
  rwa [Word.ofLe_le, Word.ofLe_le, hbound] at hvalue

/-! ### Counters -/

/-- Six bytes of a counter field are all that is in it. -/
lemma toNat_toValue_of_kept {w : Nat} (h : 6 ≤ w) (value : UInt64) :
    (Counter.toValue (.ofNat (Word.ofLe (Word.le w (Counter.ofValue value).toNat)))).toNat =
      value.toNat % 2 ^ 48 := by
  have hbound : 2 ^ 48 ≤ Word.bound w := by
    rw [Word.bound_eq]
    exact Nat.pow_le_pow_right (by decide : 0 < 256) h
  have hfield := Nat.lt_of_lt_of_le (Counter.toNat_ofValue_lt value) hbound
  rw [Word.ofLe_le, Nat.mod_eq_of_lt hfield, UInt64.ofNat_toNat, Counter.toNat_toValue_ofValue]

/-- **An identifier is cut to just its size, and its bytes tell what was kept.** It is written if
its size is from 17 to 24, else nothing is. What is written are that many bytes, those of the GUID
and the low ones of the id, and the size goes before them. If identifiers that were written behind
their sizes, and whatever follows them, are the same bytes, then so are the sizes, the GUIDs, what
was kept of the ids and what follows. From the size 22 on, a counter is read off what was kept. -/
theorem cut_to_size :
    (∀ (x : Xid) (b : Buffer), (∃ out, b.push x.encodeBare = (.ok (), out)) ↔
      17 ≤ x.size.toNat ∧ x.size.toNat ≤ 24) ∧
    (∀ (x : Xid) (b out : Buffer) (why : EncodeError),
      b.push x.encodeBare = (.error why, out) → out = b) ∧
    (∀ (x : Xid) (b out : Buffer), b.push x.encodeBare = (.ok (), out) →
      out = ⟨b.bytes ++ (x.guid.wire ++ Word.le (x.size.toNat - 16) x.localId.toNat), b.cursor⟩ ∧
        out.bytes.length = b.bytes.length + x.size.toNat) ∧
    (∀ (x : Xid) (b : Buffer),
      b.push x.encode = Buffer.push ⟨b.bytes ++ [x.size], b.cursor⟩ x.encodeBare) ∧
    (∀ (x y : Xid) (front front' s t : List UInt8), x.encode.result = .ok front →
      y.encode.result = .ok front' → front ++ s = front' ++ t →
        x.size = y.size ∧ x.guid = y.guid ∧
          x.localId.toNat % 2 ^ (8 * (x.size.toNat - 16)) =
            y.localId.toNat % 2 ^ (8 * (x.size.toNat - 16)) ∧ s = t) ∧
    ∀ (size : UInt8) (guid : Guid) (value : UInt64) (bs : List UInt8),
      (encodeBare ⟨size, guid, Counter.ofValue value⟩).result = .ok bs → 22 ≤ size.toNat →
        (Counter.toValue (.ofNat (Word.ofLe (bs.drop 16)))).toNat = value.toNat % 2 ^ 48 := by
  refine ⟨fun x b => ⟨fun ⟨out, h⟩ => (push_encodeBare_iff.mp h).1, fun h => ?_⟩,
    fun x b out why h => ?_, fun x b out h => ?_, push_encode,
    fun x y front front' s t hx hy heq => ?_, fun size guid value bs h hsize => ?_⟩
  · exact ⟨_, push_encodeBare_iff.mpr ⟨h, rfl⟩⟩
  · by_cases hsized : x.Sized
    · obtain ⟨_, hpush⟩ : ∃ out, b.push x.encodeBare = (.ok (), out) :=
        ⟨_, push_encodeBare_iff.mpr ⟨hsized, rfl⟩⟩
      cases hpush.symm.trans h
    · rw [push_of_not_sized hsized] at h
      cases h
      rfl
  · obtain ⟨hsized, rfl⟩ := push_encodeBare_iff.mp h
    exact ⟨rfl, by rw [List.length_append, length_bareBytes hsized]⟩
  · obtain ⟨-, rfl⟩ := result_encode_eq_ok_iff.mp hx
    obtain ⟨-, rfl⟩ := result_encode_eq_ok_iff.mp hy
    exact eq_of_bytes heq
  · obtain ⟨-, rfl⟩ := result_encodeBare_eq_ok_iff.mp h
    rw [bareBytes, List.drop_left' (Guid.length_wire guid)]
    exact toNat_toValue_of_kept (Nat.le_sub_of_add_le hsize) value

/-- A counter without the zeros at its end, an id that differs from it in what is cut off, and one
that is too short for the GUID. -/
theorem cut_to_size_counter :
    let x : Xid := ⟨22, .ofDomain 1, Counter.ofValue 0x1234⟩
    let y : Xid := ⟨22, .ofDomain 1, 0xABCD341200000000⟩
    let short : Xid := ⟨16, .ofDomain 1, 0⟩
    let bs : List UInt8 := (Guid.ofDomain 1).wire ++ [0, 0, 0, 0, 0x12, 0x34]
    (Buffer.ofBytes [9]).push x.encodeBare = (.ok (), .ofBytes (9 :: bs)) ∧
      (Buffer.ofBytes (9 :: bs)).bytes.length = 1 + x.size.toNat ∧
      (x.encode.result = .ok (22 :: bs) ∧ y.encode.result = .ok (22 :: bs) ∧
        x.localId ≠ y.localId ∧
        x.localId.toNat % 2 ^ (8 * (22 - 16)) = y.localId.toNat % 2 ^ (8 * (22 - 16))) ∧
      (∃ why, (Buffer.ofBytes [9]).push short.encodeBare = (.error why, .ofBytes [9])) ∧
      (Counter.toValue (.ofNat (Word.ofLe (bs.drop 16)))).toNat = 0x1234 := by
  intro x y short bs
  obtain ⟨hsized, hfailed, hwritten, -, happart, hcounter⟩ := cut_to_size
  have hpush : (Buffer.ofBytes [9]).push x.encodeBare = (.ok (), .ofBytes (9 :: bs)) := by decide
  have hx : x.encode.result = .ok (22 :: bs) := by decide
  have hy : y.encode.result = .ok (22 :: bs) := by decide
  have hids := (happart x y _ _ [] [] hx hy rfl).2.2.1
  refine ⟨hpush, (hwritten _ _ _ hpush).2, ⟨hx, hy, by decide, hids⟩, ?_,
    hcounter 22 (.ofDomain 1) 0x1234 bs (by decide) (by decide)⟩
  rcases h : (Buffer.ofBytes [9]).push short.encodeBare with ⟨why | done, out⟩
  · obtain rfl := hfailed _ _ _ _ h
    exact ⟨why, rfl⟩
  · exact absurd ((hsized _ _).mp ⟨out, h⟩) (by decide)

end Xid

end StoreRpc
