import StoreRpc.Proofs.Wire.Reaches
import StoreRpc.Proofs.Buffer.InBounds
import StoreRpc.Proofs.Property.RoundTrip
import StoreRpc.Proofs.Shape.Delimited

/-!
What the error of a failed decode says, and of which place.

Numbers, records and the counts of collections fail in front of their bytes, a text without its NUL
in front of the text, one that is not UTF-8 behind its NUL, and a value of a type that there is not
behind the code of that type. All else that is read is made of these, at any depth, and fails as
they do, where they stand.
-/

namespace StoreRpc

variable {α β : Type}

/-- The error says what stopped the reader, behind the bytes it has passed and in front of the
rest. A text or a property value that is at fault is one the reader had come to. -/
def Reader.Explains (r : Reader α) (passed rest : List UInt8) : DecodeError → Prop
  | .underflow needed available => available = rest.length ∧ available < needed
  | .unterminated => 0 ∉ rest ∧ r.Reaches passed Reader.text
  | .notUtf8 fault => ∃ front raw, passed = front ++ (raw ++ [0]) ∧ 0 ∉ raw ∧
      Utf8.decode? raw = none ∧ fault = Utf8.fault raw ∧ r.Reaches front Reader.text
  | .unknownType code => (code = 0 ∨ PropType.ofCode? code = none) ∧
      ∃ front tag, r.Reaches front Propval.reader ∧
        ((PropType.codeOfTag tag ≠ 0 ∧ PropType.codeOfTag tag = code ∧
            passed = front ++ Word.le 4 tag.toNat) ∨
          (PropType.codeOfTag tag = 0 ∧
            passed = front ++ (Word.le 4 tag.toNat ++ Word.le 2 code.toNat)))
  | .notBool _ => False
  | .nameLength declared found => declared.toNat ≠ found
  | .nameKind kind => kind ≠ 0 ∧ kind ≠ 1

namespace Reader

/-- What explains the failure of a part explains that of the whole. -/
lemma Explains.behind {r : Reader α} {q : Reader β} {front passed rest : List UInt8}
    {why : DecodeError} (h : q.Explains passed rest why) (hq : r.Reaches front q) :
    r.Explains (front ++ passed) rest why := by
  cases why with
  | underflow needed available => exact h
  | unterminated => exact ⟨h.1, hq.trans h.2⟩
  | notUtf8 fault =>
    obtain ⟨front', raw, rfl, hraw, hdecode, hfault, hreaches⟩ := h
    exact ⟨front ++ front', raw, (List.append_assoc ..).symm, hraw, hdecode, hfault,
      hq.trans hreaches⟩
  | unknownType code =>
    obtain ⟨hcode, front', tag, hreaches, hplace⟩ := h
    refine ⟨hcode, front ++ front', tag, hq.trans hreaches, ?_⟩
    rcases hplace with ⟨hnonzero, hsame, rfl⟩ | ⟨hzero, rfl⟩
    · exact .inl ⟨hnonzero, hsame, (List.append_assoc ..).symm⟩
    · exact .inr ⟨hzero, (List.append_assoc ..).symm⟩
  | notBool byte => exact h
  | nameLength declared found => exact h
  | nameKind kind => exact h

/-- With fewer than `n` bytes, every error of the reader is explained. -/
def AccurateBelow (n : Nat) (r : Reader α) : Prop :=
  ∀ bs, bs.length < n → ∀ why rest, r bs = (.error why, rest) →
    ∃ passed, bs = passed ++ rest ∧ r.Explains passed rest why

namespace AccurateBelow

variable {n : Nat} {r : Reader α} {f : α → Reader β}

lemma pure (a : α) : AccurateBelow n (pure a) := by
  rintro bs - why rest h
  cases h

/-- An error that is explained wherever it is raised. -/
lemma fail {e : DecodeError} (he : ∀ rest, (fail e : Reader α).Explains [] rest e) :
    AccurateBelow n (fail e : Reader α) := by
  rintro bs - why rest h
  cases h
  exact ⟨[], rfl, he bs⟩

/-- The second part is explained behind the bytes of the first, of which fewer are left. -/
lemma bind_right {bs mid rest : List UInt8} {a : α} {why : DecodeError} (hd : Delimited r)
    (ha : r bs = (.ok a, mid))
    (h : ∃ passed, mid = passed ++ rest ∧ (f a).Explains passed rest why) :
    ∃ passed, bs = passed ++ rest ∧ (r >>= f).Explains passed rest why := by
  obtain ⟨taken, rfl, htaken⟩ := hd bs a mid ha
  obtain ⟨passed, rfl, hexplains⟩ := h
  exact ⟨taken ++ passed, (List.append_assoc ..).symm, hexplains.behind (.bind_right htaken)⟩

/-- The first part leaves the second one fewer than `m` bytes. -/
lemma bind_of_lt {m : Nat} (hr : AccurateBelow n r) (hd : Delimited r)
    (hlt : ∀ bs a rest, bs.length < n → r bs = (.ok a, rest) → rest.length < m)
    (hf : ∀ a, AccurateBelow m (f a)) : AccurateBelow n (r >>= f) := by
  intro bs hbs why rest h
  obtain h | ⟨a, mid, ha, h⟩ := bind_eq_error_iff.mp h
  · obtain ⟨passed, hpassed, hexplains⟩ := hr bs hbs why rest h
    exact ⟨passed, hpassed, hexplains.behind (.bind_left r f)⟩
  · exact bind_right hd ha (hf a mid (hlt bs a mid hbs ha) why rest h)

lemma bind (hr : AccurateBelow n r) (hd : Delimited r) (hf : ∀ a, AccurateBelow n (f a)) :
    AccurateBelow n (r >>= f) :=
  hr.bind_of_lt hd (fun _ _ _ hbs ha => Nat.lt_of_le_of_lt (hd.length_le ha) hbs) hf

/-- Behind a part that takes bytes there are fewer to be explained. -/
lemma bind_succ (hr : AccurateBelow (n + 1) r) (hd : Delimited r)
    (hlt : ∀ bs a rest, r bs = (.ok a, rest) → rest.length < bs.length)
    (hf : ∀ a, AccurateBelow n (f a)) : AccurateBelow (n + 1) (r >>= f) :=
  hr.bind_of_lt hd
    (fun bs a rest hbs ha => Nat.lt_of_lt_of_le (hlt bs a rest ha) (Nat.le_of_lt_succ hbs)) hf

lemma map (g : α → β) (hr : AccurateBelow n r) : AccurateBelow n (g <$> r) := by
  rintro bs hbs why rest h
  rw [← bind_pure_comp] at h ⊢
  obtain h | ⟨a, mid, -, h⟩ := bind_eq_error_iff.mp h
  · obtain ⟨passed, hpassed, hexplains⟩ := hr bs hbs why rest h
    exact ⟨passed, hpassed, hexplains.behind (.bind_left r _)⟩
  · cases h

/-! ### Bytes, records and texts -/

lemma take (n count : Nat) : AccurateBelow n (take count) := by
  rintro bs - why rest h
  obtain ⟨hshort, rfl, rfl⟩ := take_eq_error_iff.mp h
  exact ⟨[], rfl, rfl, hshort⟩

/-- A record asks for what its fields lack, on top of what is there for it. -/
lemma record (hr : RunsOut r) : AccurateBelow n (record r) := by
  rintro bs - why rest h
  rw [record_apply] at h
  split at h
  · cases h
  · rename_i needed available _ hfields
    obtain ⟨needed', available', heq, hlt⟩ := hr bs _ _ hfields
    cases heq
    cases h
    exact ⟨[], rfl, rfl, Nat.lt_add_of_pos_right (Nat.sub_pos_of_lt hlt)⟩
  · rename_i hnot hfields
    obtain ⟨needed, available, rfl, -⟩ := hr bs _ _ hfields
    exact absurd rfl (hnot needed available)

lemma word (n width : Nat) : AccurateBelow n (word width) := record ((RunsOut.take width).map _)

lemma u8 : AccurateBelow n u8 := (word n 1).map _

lemma u16 : AccurateBelow n u16 := (word n 2).map _

lemma u32 : AccurateBelow n u32 := (word n 4).map _

lemma u64 : AccurateBelow n u64 := (word n 8).map _

lemma flag : AccurateBelow n flag := u8.map _

lemma text : AccurateBelow n text := by
  rintro bs - why rest h
  rcases text_eq_error_iff.mp h with ⟨hnul, rfl, rfl⟩ | ⟨raw, rfl, hraw, hdecode, rfl⟩
  · exact ⟨[], rfl, hnul, .refl _⟩
  · exact ⟨raw ++ [0], by simp, [], raw, rfl, hraw, hdecode, rfl, .refl _⟩

/-! ### Counted items -/

lemma counted (hr : AccurateBelow n r) (hd : Delimited r) (count : Nat) :
    AccurateBelow n (counted r count) := by
  induction count with
  | zero => exact pure []
  | succ count ih =>
    rw [counted_succ]
    exact hr.bind hd fun a => ih.map (a :: ·)

lemma list16 (hr : AccurateBelow n r) (hd : Delimited r) : AccurateBelow n (list16 r) :=
  u16.bind .u16 fun _ => hr.counted hd _

lemma list32 (hr : AccurateBelow n r) (hd : Delimited r) : AccurateBelow n (list32 r) :=
  u32.bind .u32 fun _ => hr.counted hd _

end AccurateBelow

lemma RunsOut.vector (n : Nat) : RunsOut (vector n) := RunsOut.of_map (g := Vector.toList) (take n)

end Reader

open Reader (AccurateBelow RunsOut Delimited)

variable {n : Nat}

/-! ### Records and names -/

lemma Guid.reader_accurate : AccurateBelow n Guid.reader :=
  .record <| .bind .u32 fun _ => .bind .u16 fun _ => .bind .u16 fun _ => .bind (.vector 2) fun _ =>
    .bind (.vector 6) fun _ => .pure _

lemma Problem.reader_accurate : AccurateBelow n Problem.reader :=
  .record <| .bind .u16 fun _ => .bind .u32 fun _ => .bind .u32 fun _ => .pure _

lemma LoadedTable.reader_accurate : AccurateBelow n LoadedTable.reader :=
  .record <| .bind .u32 fun _ => .bind .u32 fun _ => .pure _

namespace PropertyName

lemma readText_accurate : AccurateBelow n readText := by
  refine .bind .u8 .u8 fun declared => .bind .text .text fun s => ?_
  split
  · exact .pure s
  · rename_i hdeclared
    exact .fail fun _ => Ne.symm hdeclared

lemma reader_accurate : AccurateBelow n reader := by
  refine .bind .u8 .u8 fun kind => .bind Guid.reader_accurate Guid.reader_delimited fun g => ?_
  split
  · exact AccurateBelow.u32.map _
  · exact readText_accurate.map _
  · rename_i hzero hone
    exact .fail fun _ => ⟨hzero, hone⟩

end PropertyName

/-! ### Property values -/

namespace Propval

lemma readSingle_accurate : AccurateBelow n readSingle := AccurateBelow.u32.map _

lemma readDouble_accurate : AccurateBelow n readDouble := AccurateBelow.u64.map _

lemma readBinary_accurate : AccurateBelow n readBinary := .bind .u32 .u32 fun _ => .take n _

lemma readPayload_accurate (k : Kind) : AccurateBelow n (readPayload k) := by
  cases k with
  | byte => exact AccurateBelow.u8.map _
  | short => exact AccurateBelow.u16.map _
  | long => exact AccurateBelow.u32.map _
  | longLong => exact AccurateBelow.u64.map _
  | float => exact readSingle_accurate.map _
  | double => exact readDouble_accurate.map _
  | string => exact AccurateBelow.text.map _
  | binary => exact readBinary_accurate.map _
  | shorts => exact (AccurateBelow.u16.list32 .u16).map _
  | longs => exact (AccurateBelow.u32.list32 .u32).map _
  | longLongs => exact (AccurateBelow.u64.list32 .u64).map _
  | floats => exact (readSingle_accurate.list32 readSingle_delimited).map _
  | doubles => exact (readDouble_accurate.list32 readDouble_delimited).map _
  | strings => exact (AccurateBelow.text.list32 .text).map _
  | binaries => exact (readBinary_accurate.list32 readBinary_delimited).map _

lemma readCode_accurate (tag : UInt32) : AccurateBelow n (readCode tag) := by
  unfold readCode
  split
  · exact .u16
  · exact .pure _

/-- The code is that of the tag, or if the tag has none, the word behind it. -/
lemma readCode_eq_ok {tag : UInt32} {code : UInt16} {bs rest : List UInt8}
    (h : readCode tag bs = (.ok code, rest)) :
    (PropType.codeOfTag tag ≠ 0 ∧ PropType.codeOfTag tag = code ∧ bs = rest) ∨
      (PropType.codeOfTag tag = 0 ∧ bs = Word.le 2 code.toNat ++ rest) := by
  obtain ⟨hcode, front, hfront, rfl⟩ := readCode_eq_ok_iff.mp h
  by_cases hzero : PropType.codeOfTag tag = 0
  · rw [if_pos hzero] at hfront
    cases hfront
    exact .inr ⟨hzero, rfl⟩
  · rw [if_neg hzero] at hfront
    cases hfront
    exact .inl ⟨hzero, hcode.resolve_left hzero, rfl⟩

/-- The only code of a type without values is 0. -/
lemma readType_eq_error {code : UInt16} {bs rest : List UInt8} {why : DecodeError}
    (h : readType code bs = (.error why, rest)) :
    (code = 0 ∨ PropType.ofCode? code = none) ∧ why = .unknownType code ∧ rest = bs := by
  rcases htype : PropType.ofCode? code with _ | type
  · simp only [readType, htype, Reader.fail_apply] at h
    cases h
    exact ⟨.inr rfl, rfl, rfl⟩
  · rcases hkind : type.kind? with _ | kind
    · simp only [readType, htype, hkind, Reader.fail_apply] at h
      cases h
      have hcode := PropType.code_of_ofCode? htype
      cases type <;> first | exact ⟨.inl hcode.symm, rfl, rfl⟩ | cases hkind
    · simp only [readType, htype, hkind] at h
      cases h

/-- A value fails in one of its parts, or behind a code that it cannot have. -/
lemma reader_accurate : AccurateBelow n reader := by
  intro bs hbs why rest h
  obtain h | ⟨tag, afterTag, htag, hcode⟩ := Reader.bind_eq_error_iff.mp h
  · obtain ⟨passed, hpassed, hexplains⟩ := AccurateBelow.u32 bs hbs why rest h
    exact ⟨passed, hpassed, hexplains.behind (.bind_left _ _)⟩
  have hafterTag : afterTag.length < n := Nat.lt_of_le_of_lt (Delimited.u32.length_le htag) hbs
  obtain h | ⟨code, afterCode, hcode, htype⟩ := Reader.bind_eq_error_iff.mp hcode
  · obtain ⟨passed, hpassed, hexplains⟩ := readCode_accurate tag afterTag hafterTag why rest h
    exact AccurateBelow.bind_right .u32 htag
      ⟨passed, hpassed, hexplains.behind (.bind_left _ _)⟩
  have hafterCode : afterCode.length < n :=
    Nat.lt_of_le_of_lt ((readCode_delimited tag).length_le hcode) hafterTag
  obtain h | ⟨⟨type, kind⟩, afterType, htype, hpayload⟩ := Reader.bind_eq_error_iff.mp htype
  · obtain ⟨hunknown, rfl, rfl⟩ := readType_eq_error h
    obtain ⟨front, hfront, rfl⟩ := (Exact.u32 tag bs afterTag).mp htag
    cases hfront
    obtain ⟨hnonzero, hsame, rfl⟩ | ⟨hzero, rfl⟩ := readCode_eq_ok hcode
    · exact ⟨_, rfl, hunknown, [], tag, .refl _, .inl ⟨hnonzero, hsame, rfl⟩⟩
    · exact ⟨_, (List.append_assoc ..).symm, hunknown, [], tag, .refl _, .inr ⟨hzero, rfl⟩⟩
  · have hafterType : afterType.length < n :=
      Nat.lt_of_le_of_lt ((readType_delimited code).length_le htype) hafterCode
    have haccurate := (readPayload_accurate kind).bind (readPayload_delimited kind)
      (fun payload => .pure (Propval.mk tag type payload)) afterType hafterType why rest hpayload
    exact AccurateBelow.bind_right .u32 htag (AccurateBelow.bind_right (readCode_delimited tag)
      hcode (AccurateBelow.bind_right (readType_delimited code) htype haccurate))

end Propval

/-! ### Messages -/

namespace Message

variable {message : Reader Message}

lemma readOptional_accurate {item : Reader α} (h : AccurateBelow n item) (hd : Delimited item) :
    AccurateBelow n (readOptional item) := by
  refine .bind .flag .flag fun present => ?_
  split
  · exact h.list32 hd
  · exact .pure []

lemma readAttachment_accurate (h : AccurateBelow n message) :
    AccurateBelow n (readAttachment message) := by
  refine .bind (Propval.reader_accurate.list16 Propval.reader_delimited)
    Propval.reader_delimited.list16 fun ps => .bind .flag .flag fun present => ?_
  split
  · exact h.map _
  · exact .pure _

lemma readLevel_accurate (h : AccurateBelow n message) (hd : Delimited message) :
    AccurateBelow (n + 1) (readLevel message) := by
  refine .bind_succ (Propval.reader_accurate.list16 Propval.reader_delimited)
    Propval.reader_delimited.list16
    (fun bs ps rest => Reader.length_lt_of_list16 Propval.reader_delimited) fun ps => ?_
  refine .bind (readOptional_accurate (Propval.reader_accurate.list16 Propval.reader_delimited)
      Propval.reader_delimited.list16)
    (readOptional_delimited Propval.reader_delimited.list16) fun recipients => ?_
  exact .bind (readOptional_accurate (readAttachment_accurate h) (readAttachment_delimited hd))
    (readOptional_delimited (readAttachment_delimited hd)) fun attachments => .pure _

/-- By induction on the bytes there are, of which every level takes some. -/
lemma reader_accurate : AccurateBelow n reader := by
  induction n with
  | zero => exact fun bs hbs => absurd hbs (Nat.not_lt_zero _)
  | succ n ih =>
    intro bs hbs why rest h
    rw [← readLevel_reader] at h
    obtain ⟨passed, hpassed, hexplains⟩ := readLevel_accurate ih reader_delimited bs hbs why rest h
    have hlevel : reader.Reaches [] (readLevel reader) := fun bs _ _ hfail => by
      rwa [readLevel_reader] at hfail
    exact ⟨passed, hpassed, hexplains.behind hlevel⟩

end Message

lemma Attachment.reader_accurate : AccurateBelow n Attachment.reader :=
  Message.readAttachment_accurate Message.reader_accurate

/-! ### Shapes -/

lemma NumberShape.reader_accurate (s : NumberShape) : AccurateBelow n s.reader := by
  cases s with
  | u8 => exact .u8
  | u16 => exact .u16
  | u32 => exact .u32
  | u64 => exact .u64
  | i16 => exact AccurateBelow.u16.map _
  | i32 => exact AccurateBelow.u32.map _
  | i64 => exact AccurateBelow.u64.map _
  | f32 => exact Propval.readSingle_accurate
  | f64 => exact Propval.readDouble_accurate

lemma Reply.reader_accurate (r : Reply) : AccurateBelow n r.reader := by
  have hpropvals : AccurateBelow n (Reader.list16 Propval.reader) :=
    Propval.reader_accurate.list16 Propval.reader_delimited
  cases r with
  | nothing => exact .pure ()
  | propertyIds => exact AccurateBelow.u16.list16 .u16
  | tags => exact AccurateBelow.u32.list16 .u32
  | propvals => exact hpropvals
  | problems => exact Problem.reader_accurate.list16 Problem.reader_delimited
  | table => exact hpropvals.list32 Propval.reader_delimited.list16
  | folder => exact .u64
  | success => exact .flag
  | partly => exact .flag
  | loadedTable => exact LoadedTable.reader_accurate
  | opened => exact .u32
  | content => exact Message.reader_accurate
  | changeNumber => exact .u64
  | contentIfAny =>
    refine .bind .flag .flag fun present => ?_
    split
    · exact Message.reader_accurate.map some
    · exact .pure none

lemma Shape.reader_accurate (s : Shape) : AccurateBelow n s.reader := by
  induction s with
  | number s => exact s.reader_accurate
  | flag => exact .flag
  | text => exact .text
  | guid => exact Guid.reader_accurate
  | name => exact PropertyName.reader_accurate
  | problem => exact Problem.reader_accurate
  | propval => exact Propval.reader_accurate
  | message => exact Message.reader_accurate
  | attachment => exact Attachment.reader_accurate
  | reply r => exact r.reader_accurate
  | list16 s ih => exact ih.list16 s.reader_delimited
  | list32 s ih => exact ih.list32 s.reader_delimited

/-- **A failed decode tells where it stopped, and why.** The bytes are what they were, and the
cursor has passed some of those that were unread. Where bytes ran out, the error has their number
and asks for more; where a NUL is missing, there is none in what is unread; where a text is not
UTF-8, the cursor is behind its NUL; and where a type is not one of those with values, the cursor is
right behind the code of the property value in question. There are no other errors than these and
those of property names. -/
theorem Shape.pop_accurate (s : Shape) {b b' : Buffer} {why : DecodeError} (hb : b.InBounds)
    (h : b.pop s.reader = (.error why, b')) :
    b.Advanced b' ∧ b'.unread.length = b'.remaining ∧
      ∃ passed, b.Took b' passed ∧ s.reader.Explains passed b'.unread why := by
  obtain ⟨rest, hread, rfl⟩ := Buffer.pop_eq_iff.mp h
  obtain ⟨passed, hpassed, hexplains⟩ :=
    s.reader_accurate b.unread (Nat.lt_succ_self _) why rest hread
  have hrest := Buffer.unread_of_suffix (b := b) ⟨passed, hpassed.symm⟩
  have hadvanced : b.Advanced (b.pop s.reader).2 := Buffer.advanced_pop hb s.reader
  rw [h] at hadvanced
  refine ⟨hadvanced, List.length_drop, passed, Buffer.took_of_unread_eq hpassed, ?_⟩
  rwa [hrest]

/-- A row whose second property value has the type code 9 beside its tag. -/
theorem Shape.pop_accurate_table :
    let s : Shape := .reply .table
    let bs : List UInt8 := [1, 0, 0, 0, 2, 0, 0x0B, 0, 0, 0x10, 7, 0, 0, 1, 0x36, 9, 0, 5]
    let b : Buffer := ⟨bs, 0⟩
    b.pop s.reader = (.error (.unknownType 9), ⟨bs, 17⟩) ∧ b.Advanced ⟨bs, 17⟩ ∧
      ∃ front tag, s.reader.Reaches front Propval.reader ∧
        ((PropType.codeOfTag tag ≠ 0 ∧ PropType.codeOfTag tag = 9 ∧
            bs.take 17 = front ++ Word.le 4 tag.toNat) ∨
          (PropType.codeOfTag tag = 0 ∧
            bs.take 17 = front ++ (Word.le 4 tag.toNat ++ Word.le 2 9))) := by
  intro s bs b
  have hpop : b.pop s.reader = (.error (.unknownType 9), ⟨bs, 17⟩) := by decide
  obtain ⟨hadvanced, -, passed, htook, -, hplace⟩ := Shape.pop_accurate s (Nat.zero_le _) hpop
  have hunread : bs.take 17 ++ [5] = passed ++ [5] := htook.unread
  obtain rfl := List.append_cancel_right hunread
  exact ⟨hpop, hadvanced, hplace⟩

end StoreRpc
