import StoreRpc.Proofs.Wire.Exact
import StoreRpc.Property.Propval
import StoreRpc.Wire.Buffer

/-!
Property values survive the wire.

What is read back owns all its parts; apart from that, reading and writing are inverse: a value is
read exactly where its encoding stands, and it is one that could have been made from its parts.
-/

namespace StoreRpc

open Propval (own)

/-! ### Ownership -/

lemma Held.toOwned_eq_self_iff {α : Type} {h : Held α} : h.toOwned = h ↔ ∃ a, own a = h :=
  ⟨fun hh => ⟨h.content, hh⟩, fun ⟨_, ha⟩ => ha ▸ rfl⟩

lemma Held.map_toOwned_eq_self_iff {α : Type} {hs : List (Held α)} :
    hs.map Held.toOwned = hs ↔ ∃ as : List α, as.map own = hs := by
  constructor
  · intro hh
    refine ⟨hs.map Held.content, ?_⟩
    rw [List.map_map]
    exact hh
  · rintro ⟨as, rfl⟩
    rw [List.map_map]
    rfl

namespace Payload

@[simp] lemma kind_toOwned (v : Payload) : v.toOwned.kind = v.kind := by
  cases v <;> rfl

@[simp] lemma toOwned_toOwned (v : Payload) : v.toOwned.toOwned = v.toOwned := by
  cases v <;> simp [toOwned, Held.toOwned, Function.comp_def]

end Payload

lemma PropType.ofCode?_eq_some_iff {c : UInt16} {t : PropType} : ofCode? c = some t ↔ t.code = c :=
  ⟨code_of_ofCode?, fun h => h ▸ ofCode?_code t⟩

namespace Propval

@[simp] lemma encodePayload_toOwned (v : Payload) : encodePayload v.toOwned = encodePayload v := by
  cases v <;> simp [Payload.toOwned, encodePayload, Held.toOwned, Function.comp_def]

@[simp] lemma encode_toOwned (p : Propval) : p.toOwned.encode = p.encode := by
  unfold encode
  rw [toOwned, encodePayload_toOwned]

@[simp] lemma wellTyped_toOwned {p : Propval} : p.toOwned.WellTyped ↔ p.WellTyped := by
  simp [WellTyped, toOwned]

/-! ### Payloads -/

lemma encodeSingle_exact : Exact encodeSingle readSingle :=
  Exact.u32.wrap (fun _ => rfl) fun _ => rfl

lemma encodeDouble_exact : Exact encodeDouble readDouble :=
  Exact.u64.wrap (fun _ => rfl) fun _ => rfl

lemma encodeBinary_exact : Exact encodeBinary readBinary := by
  refine Exact.behindCount (fun n data bs rest => ?_) .valueItems
  rw [Reader.take_eq_ok_iff]
  simp only [Encoding.result_raw, Except.ok.injEq, exists_eq_left']

/-- The payloads of a kind that own all their parts. -/
def OwnedOf (k : Kind) (v : Payload) : Prop := v.kind = k ∧ v.toOwned = v

/-- A reader of payloads of one kind, made from a reader of what they hold. -/
lemma exactOn_ownedOf {α : Type} {encode : α → Encoding} {r : Reader α} (h : Exact encode r)
    {k : Kind} {make : α → Payload} (hmake : ∀ v, OwnedOf k v ↔ ∃ a, make a = v)
    (hencode : ∀ a, encodePayload (make a) = encode a) :
    ExactOn (OwnedOf k) encodePayload (make <$> r) := by
  intro v bs rest
  rw [Reader.map_eq_ok_iff, hmake]
  constructor
  · rintro ⟨a, ha, rfl⟩
    exact ⟨⟨a, rfl⟩, by simpa only [hencode] using (h a bs rest).mp ha⟩
  · rintro ⟨⟨a, rfl⟩, hv⟩
    exact ⟨a, (h a bs rest).mpr (by simpa only [hencode] using hv), rfl⟩

lemma readPayload_exact (k : Kind) : ExactOn (OwnedOf k) encodePayload (readPayload k) := by
  cases k with
  | byte =>
    refine exactOn_ownedOf .u8 (fun v => ?_) fun _ => rfl
    cases v <;> simp [OwnedOf, Payload.kind, Payload.toOwned]
  | short =>
    refine exactOn_ownedOf .u16 (fun v => ?_) fun _ => rfl
    cases v <;> simp [OwnedOf, Payload.kind, Payload.toOwned]
  | long =>
    refine exactOn_ownedOf .u32 (fun v => ?_) fun _ => rfl
    cases v <;> simp [OwnedOf, Payload.kind, Payload.toOwned]
  | longLong =>
    refine exactOn_ownedOf .u64 (fun v => ?_) fun _ => rfl
    cases v <;> simp [OwnedOf, Payload.kind, Payload.toOwned]
  | float =>
    refine exactOn_ownedOf encodeSingle_exact (fun v => ?_) fun _ => rfl
    cases v <;> simp [OwnedOf, Payload.kind, Payload.toOwned]
  | double =>
    refine exactOn_ownedOf encodeDouble_exact (fun v => ?_) fun _ => rfl
    cases v <;> simp [OwnedOf, Payload.kind, Payload.toOwned]
  | string =>
    refine exactOn_ownedOf .text (fun v => ?_) fun _ => rfl
    cases v <;> simp [OwnedOf, Payload.kind, Payload.toOwned, Held.toOwned_eq_self_iff]
  | binary =>
    refine exactOn_ownedOf encodeBinary_exact (fun v => ?_) fun _ => rfl
    cases v <;> simp [OwnedOf, Payload.kind, Payload.toOwned, Held.toOwned_eq_self_iff]
  | shorts =>
    refine exactOn_ownedOf (Exact.u16.list32 .listItems) (fun v => ?_) fun _ => rfl
    cases v <;> simp [OwnedOf, Payload.kind, Payload.toOwned, Held.toOwned_eq_self_iff]
  | longs =>
    refine exactOn_ownedOf (Exact.u32.list32 .listItems) (fun v => ?_) fun _ => rfl
    cases v <;> simp [OwnedOf, Payload.kind, Payload.toOwned, Held.toOwned_eq_self_iff]
  | longLongs =>
    refine exactOn_ownedOf (Exact.u64.list32 .listItems) (fun v => ?_) fun _ => rfl
    cases v <;> simp [OwnedOf, Payload.kind, Payload.toOwned, Held.toOwned_eq_self_iff]
  | floats =>
    refine exactOn_ownedOf (encodeSingle_exact.list32 .listItems) (fun v => ?_) fun _ => rfl
    cases v <;> simp [OwnedOf, Payload.kind, Payload.toOwned, Held.toOwned_eq_self_iff]
  | doubles =>
    refine exactOn_ownedOf (encodeDouble_exact.list32 .listItems) (fun v => ?_) fun _ => rfl
    cases v <;> simp [OwnedOf, Payload.kind, Payload.toOwned, Held.toOwned_eq_self_iff]
  | strings =>
    refine exactOn_ownedOf (Exact.text.list32 .valueItems) (fun v => ?_) fun _ => ?_
    · cases v <;> simp [OwnedOf, Payload.kind, Payload.toOwned, Held.map_toOwned_eq_self_iff]
    · simp [encodePayload, own, Function.comp_def]
  | binaries =>
    refine exactOn_ownedOf (encodeBinary_exact.list32 .valueItems) (fun v => ?_) fun _ => ?_
    · cases v <;> simp [OwnedOf, Payload.kind, Payload.toOwned, Held.map_toOwned_eq_self_iff]
    · simp [encodePayload, own, Function.comp_def]

/-! ### Tagged values -/

/-- A tag that leaves the type open is followed by the code of one, and any other names it. -/
lemma readCode_eq_ok_iff {tag : UInt32} {code : UInt16} {bs rest : List UInt8} :
    readCode tag bs = (.ok code, rest) ↔
      (PropType.codeOfTag tag = 0 ∨ PropType.codeOfTag tag = code) ∧
        ∃ front, (if PropType.codeOfTag tag = 0 then .u16 code else .empty : Encoding).result =
          .ok front ∧ bs = front ++ rest := by
  unfold readCode
  by_cases h : PropType.codeOfTag tag = 0
  · simpa [h] using Exact.u16 code bs rest
  · simp [h, eq_comm]

lemma readType_eq_ok_iff {code : UInt16} {type : PropType} {kind : Kind} {bs rest : List UInt8} :
    readType code bs = (.ok (type, kind), rest) ↔
      type.code = code ∧ type.kind? = some kind ∧ bs = rest := by
  unfold readType
  rw [← PropType.ofCode?_eq_some_iff]
  cases hc : PropType.ofCode? code with
  | none => simp
  | some t =>
    by_cases ht : t = type
    · subst ht
      cases hk : t.kind? <;> simp [hk]
    · cases hk : t.kind? <;> simp [hk, ht]

/-- The values that can be read. -/
def Readable (p : Propval) : Prop := p.WellTyped ∧ p.toOwned = p

lemma readable_toOwned {p : Propval} (h : p.WellTyped) : p.toOwned.Readable :=
  ⟨wellTyped_toOwned.mpr h, by simp [toOwned]⟩

theorem reader_exact : ExactOn Readable encode reader := by
  intro p bs rest
  simp only [reader, Reader.bind_eq_ok_iff, Exact.u32 _ _ _, readCode_eq_ok_iff, Prod.exists,
    readType_eq_ok_iff, readPayload_exact _ _ _ _, Reader.pure_eq_ok_iff, encode,
    Encoding.result_append_eq_ok_iff]
  constructor
  · rintro ⟨tag, _, ⟨x, hx, rfl⟩, code, _, ⟨hcode, y, hy, rfl⟩, type, kind, _,
      ⟨rfl, hkind, rfl⟩, v, _, ⟨⟨rfl, hv⟩, z, hz, rfl⟩, rfl, rfl⟩
    refine ⟨⟨⟨hcode, PropType.accepts_iff.mpr hkind⟩, ?_⟩, _,
      ⟨_, z, ⟨x, y, hx, hy, rfl⟩, hz, rfl⟩, ?_⟩
    · rw [toOwned, hv]
    · simp only [List.append_assoc]
  · rintro ⟨⟨⟨hcode, hkind⟩, hp⟩, _, ⟨_, z, ⟨x, y, hx, hy, rfl⟩, hz, rfl⟩, rfl⟩
    refine ⟨p.tag, _, ⟨x, hx, ?_⟩, p.type.code, _, ⟨hcode, y, hy, rfl⟩, p.type, p.payload.kind, _,
      ⟨rfl, PropType.accepts_iff.mp hkind, rfl⟩, p.payload, rest, ⟨⟨rfl, ?_⟩, z, hz, rfl⟩, rfl, rfl⟩
    · simp only [List.append_assoc]
    · exact congrArg payload hp

/-! ### Values made from their parts -/

lemma withType_eq_ok_iff {tag : UInt32} {code : UInt16} {v : Payload} {p : Propval} :
    withType tag code v = .ok p ↔
      p.WellTyped ∧ p.tag = tag ∧ p.type.code = code ∧ p.payload = v := by
  constructor
  · intro h
    unfold withType at h
    split at h
    · cases h
    · rename_i type htype
      split at h
      · rename_i hwell
        cases h
        exact ⟨hwell, rfl, PropType.code_of_ofCode? htype, rfl⟩
      · cases h
  · rintro ⟨hwell, rfl, rfl, rfl⟩
    rw [withType, PropType.ofCode?_code]
    exact if_pos hwell

lemma wellTyped_of_ofTag {tag : UInt32} {v : Payload} {p : Propval} (h : ofTag tag v = .ok p) :
    p.WellTyped :=
  (withType_eq_ok_iff.mp h).1

/-- A tag that names a type is followed by a value of that type. -/
lemma WellTyped.of_tag {p : Propval} (hp : p.WellTyped) {type : PropType} (htype : type.code ≠ 0)
    (htag : PropType.codeOfTag p.tag = type.code) :
    p.type = type ∧ type.kind? = some p.payload.kind := by
  obtain ⟨hcode, hkind⟩ := hp
  have hcode : p.type.code = type.code :=
    (hcode.resolve_left fun hzero => htype (htag.symm.trans hzero)).symm.trans htag
  have hsome : some p.type = some type := by
    rw [← PropType.ofCode?_code p.type, hcode, PropType.ofCode?_code]
  obtain rfl := Option.some.inj hsome
  exact ⟨rfl, PropType.accepts_iff.mp hkind⟩

/-- A written value takes bytes, if only for its tag. -/
lemma ne_nil_of_encode {p : Propval} {bs : List UInt8} (h : p.encode.result = .ok bs) :
    bs ≠ [] := by
  simp only [encode, Encoding.result_append_eq_ok_iff, Encoding.result_u32] at h
  obtain ⟨_, z, ⟨x, y, hx, -, rfl⟩, -, rfl⟩ := h
  cases hx
  simp [Word.le]

/-- **Writing and reading are inverse.** A value that was made from its parts and could be written
is read back, in front of anything, with all its parts owned. A value that was read could have been
made from its parts, and is written as the bytes that it was read from. -/
theorem push_pop_inverse :
    (∀ (tag : UInt32) (code : UInt16) (v : Payload) (p : Propval) (out : Buffer),
      ofTag tag v = .ok p ∨ withType tag code v = .ok p →
      Buffer.empty.push p.encode = (.ok (), out) →
      ∀ (b : Buffer) (suffix : List UInt8), b.unread = out.bytes ++ suffix →
        ∃ q b', b.pop reader = (.ok q, b') ∧ q.tag = p.tag ∧ q.type = p.type ∧
          q.payload = p.payload.toOwned ∧ b'.bytes = b.bytes ∧ b'.unread = suffix) ∧
    (∀ (b b' : Buffer) (p : Propval), b.pop reader = (.ok p, b') →
      withType p.tag p.type.code p.payload = .ok p ∧
        ∃ taken, b.unread = taken ++ b'.unread ∧ b'.cursor = b.cursor + taken.length ∧
          b'.bytes = b.bytes ∧ Buffer.empty.push p.encode = (.ok (), .ofBytes taken)) := by
  constructor
  · intro tag code v p out hmade hpush b suffix hb
    have hwell : p.WellTyped :=
      hmade.elim wellTyped_of_ofTag fun h => (withType_eq_ok_iff.mp h).1
    obtain ⟨front, hfront, rfl⟩ := Buffer.push_eq_ok_iff.mp hpush
    have hread : reader b.unread = (.ok p.toOwned, suffix) := by
      refine (reader_exact _ _ _).mpr ⟨readable_toOwned hwell, front, ?_, hb⟩
      rw [encode_toOwned, hfront]
    refine ⟨p.toOwned, _, Buffer.pop_eq_ok_iff.mpr ⟨suffix, hread, rfl⟩, rfl, rfl, rfl, rfl, ?_⟩
    exact Buffer.unread_of_unread_eq hb (ne_nil_of_encode hfront)
  · intro b b' p hpop
    obtain ⟨rest, hread, rfl⟩ := Buffer.pop_eq_ok_iff.mp hpop
    obtain ⟨⟨hwell, -⟩, taken, htaken, hb⟩ := (reader_exact _ _ _).mp hread
    have hne := ne_nil_of_encode htaken
    refine ⟨withType_eq_ok_iff.mpr ⟨hwell, rfl, rfl, rfl⟩, taken, ?_, ?_, rfl, ?_⟩
    · rw [Buffer.unread_of_unread_eq hb hne, hb]
    · exact Buffer.cursor_of_unread_eq hb hne
    · exact Buffer.push_eq_ok_iff.mpr ⟨taken, htaken, rfl⟩

/-- A list of texts, one of them borrowed, behind a tag that leaves the type open. -/
theorem push_pop_inverse_strings :
    let v : Payload := .strings [⟨"a", false⟩, ⟨"é", true⟩]
    let p : Propval := ⟨0x12340000, .strings, v⟩
    let bs : List UInt8 := [0, 0, 0x34, 0x12, 0x1E, 0x10, 2, 0, 0, 0, 0x61, 0, 0xC3, 0xA9, 0]
    let b : Buffer := ⟨7 :: bs ++ [8], 1⟩
    withType 0x12340000 0x101E v = .ok p ∧ Buffer.empty.push p.encode = (.ok (), .ofBytes bs) ∧
      (∃ q b', b.pop reader = (.ok q, b') ∧ q.payload = v.toOwned ∧ b'.unread = [8]) ∧
      withType 0x12340000 0x101E v.toOwned = .ok p.toOwned := by
  intro v p bs b
  have hmade : withType 0x12340000 0x101E v = .ok p :=
    withType_eq_ok_iff.mpr ⟨by decide, rfl, rfl, rfl⟩
  have hpush : Buffer.empty.push p.encode = (.ok (), .ofBytes bs) := by decide
  obtain ⟨hread, hwritten⟩ := push_pop_inverse
  obtain ⟨q, b', hpop, -, -, hq, -, hrest⟩ := hread _ _ v p _ (.inr hmade) hpush b [8] rfl
  have hpopped : b.pop reader = (.ok p.toOwned, ⟨7 :: bs ++ [8], 16⟩) := by decide +kernel
  exact ⟨hmade, hpush, ⟨q, b', hpop, hq, hrest⟩, (hwritten b _ _ hpopped).1⟩

end Propval

end StoreRpc
