import Mathlib.Tactic.NormNum
import StoreRpc.Proofs.Property.RoundTrip
import StoreRpc.Proofs.Wire.Checks

/-!
The bytes of a property value.

A payload holds values of one form, one behind the other. Whether their number stands in front of
them is a matter of the type, and is told by a bit of its code.
-/

namespace StoreRpc

/-! ### Elements -/

/-- One of the values in a payload. Floating point numbers are held by their bits. -/
inductive Element
  | byte (v : UInt8)
  | short (v : UInt16)
  | long (v : UInt32)
  | longLong (v : UInt64)
  | text (s : String)
  | buffer (bs : List UInt8)

namespace Element

/-- How a value stands on the wire. -/
inductive Form
  /-- A word of this many bytes. -/
  | number (width : Nat)
  /-- Text up to a NUL. -/
  | text
  /-- Bytes behind the four bytes of their count. -/
  | buffer
  deriving DecidableEq

def form : Element → Form
  | byte _ => .number 1
  | short _ => .number 2
  | long _ => .number 4
  | longLong _ => .number 8
  | text _ => .text
  | buffer _ => .buffer

def bytes : Element → List UInt8
  | byte v => [v]
  | short v => Word.le 2 v.toNat
  | long v => Word.le 4 v.toNat
  | longLong v => Word.le 8 v.toNat
  | text s => Utf8.encode s ++ [0]
  | buffer bs => Word.le 4 bs.length ++ bs

/-- The bytes tell where the value ends. -/
def Bounded : Element → Prop
  | text s => '\x00' ∉ s.toList
  | buffer bs => bs.length < 2 ^ 32
  | _ => True

def encode : Element → Encoding
  | byte v => .u8 v
  | short v => .u16 v
  | long v => .u32 v
  | longLong v => .u64 v
  | text s => .text s
  | buffer bs => Propval.encodeBinary bs

lemma result_encode_eq_ok_iff {e : Element} {bs : List UInt8} :
    e.encode.result = .ok bs ↔ e.Bounded ∧ bs = e.bytes := by
  cases e with
  | byte v => simp [encode, Bounded, bytes, Encoding.u8, Word.le, eq_comm]
  | short v => simp [encode, Bounded, bytes, Encoding.u16, eq_comm]
  | long v => simp [encode, Bounded, bytes, eq_comm]
  | longLong v => simp [encode, Bounded, bytes, Encoding.u64, eq_comm]
  | text s => rw [encode, Encoding.result_text_eq_ok_iff, Utf8.zero_mem_encode_iff, Bounded, bytes]
  | buffer data =>
    simp only [encode, Propval.encodeBinary, Encoding.result_append_eq_ok_iff,
      Encoding.result_count_eq_ok_iff, Encoding.result_raw, Bounded, bytes]
    constructor
    · rintro ⟨_, _, ⟨hcount, rfl⟩, ⟨⟩, rfl⟩
      exact ⟨hcount, rfl⟩
    · rintro ⟨hcount, rfl⟩
      exact ⟨_, _, ⟨hcount, rfl⟩, rfl, rfl⟩

/-- Elements are written one behind the other. -/
lemma result_all_eq_ok_iff {es : List Element} {bs : List UInt8} :
    (Encoding.all (es.map encode)).result = .ok bs ↔
      (∀ e ∈ es, e.Bounded) ∧ bs = es.flatMap bytes := by
  induction es generalizing bs with
  | nil => simp [eq_comm]
  | cons e es ih =>
    simp only [List.map_cons, Encoding.result_all_cons_eq_ok_iff, result_encode_eq_ok_iff, ih,
      List.forall_mem_cons, List.flatMap_cons]
    constructor
    · rintro ⟨_, _, ⟨he, rfl⟩, ⟨hes, rfl⟩, rfl⟩
      exact ⟨⟨he, hes⟩, rfl⟩
    · rintro ⟨⟨he, hes⟩, rfl⟩
      exact ⟨_, _, ⟨he, rfl⟩, ⟨hes, rfl⟩, rfl⟩

end Element

/-! ### Kinds -/

namespace Kind

/-- The form of the values in a payload of the kind. -/
def elementForm : Kind → Element.Form
  | byte | binary => .number 1
  | short | shorts => .number 2
  | long | longs | float | floats => .number 4
  | longLong | longLongs | double | doubles => .number 8
  | string | strings => .text
  | binaries => .buffer

/-- Whether a payload of the kind holds any number of values. -/
def isArray : Kind → Bool
  | byte | short | long | longLong | float | double | string => false
  | binary | shorts | longs | longLongs | floats | doubles | strings | binaries => true

end Kind

/-- The code of a type tells whether its values are counted. -/
lemma PropType.isArray_eq {t : PropType} {k : Kind} (h : t.kind? = some k) :
    t.isArray = k.isArray := by
  cases t <;> cases h <;> rfl

namespace Payload

/-- The values in a payload. -/
def elements : Payload → List Element
  | byte v => [.byte v]
  | short v => [.short v]
  | long v => [.long v]
  | longLong v => [.longLong v]
  | float v => [.long v.bits]
  | double v => [.longLong v.bits]
  | string v => [.text v.content]
  | binary v => v.content.map .byte
  | shorts v => v.content.map .short
  | longs v => v.content.map .long
  | longLongs v => v.content.map .longLong
  | floats v => v.content.map fun x => .long x.bits
  | doubles v => v.content.map fun x => .longLong x.bits
  | strings v => v.map fun s => .text s.content
  | binaries v => v.map fun b => .buffer b.content

variable (v : Payload)

lemma length_elements : v.elements.length = v.count := by
  cases v <;> simp [elements, count]

lemma form_of_mem_elements : ∀ e ∈ v.elements, e.form = v.kind.elementForm := by
  cases v <;> simp [elements, Element.form, kind, Kind.elementForm]

/-- What is no array is one number or one text. -/
lemma elements_of_not_isArray {v : Payload} (h : v.kind.isArray = false) :
    ∃ e, v.elements = [e] ∧ e.form ≠ .buffer := by
  cases v <;> cases h <;> exact ⟨_, rfl, by rintro ⟨⟩⟩

end Payload

/-! ### Encodings -/

namespace Propval

open PropType (codeOfTag)

/-- An encoding of one element, with no count. -/
lemma eq_encode_single (e : Element) : e.encode = .empty ++ .all ([e].map Element.encode) := by
  rw [Encoding.empty_append, List.map_singleton, Encoding.all_cons, Encoding.all_nil,
    Encoding.append_empty]

/-- Encodings of elements behind their count. -/
lemma eq_encode_row {α : Type} (what : Counted) (f : α → Element) (as : List α) :
    Encoding.count what 4 as.length ++ .all (as.map fun a => (f a).encode) =
      .count what 4 as.length ++ .all ((as.map f).map Element.encode) := by
  rw [List.map_map]
  rfl

/-- The bytes of a binary are written in one piece, which comes to the same as one by one. -/
lemma result_encodeBinary (bs : List UInt8) : (encodeBinary bs).result =
    (Encoding.count .valueItems 4 bs.length ++ .all (bs.map Encoding.u8)).result :=
  Encoding.result_append_congr _ ((Encoding.result_raw bs).trans (Encoding.result_all_u8 bs).symm)

/-- A payload is written element by element, behind their number if its kind has it counted. What
is said to be counted, should the number be too large, is not the same for all kinds. -/
lemma result_encodePayload (v : Payload) : ∃ what, (encodePayload v).result =
    ((if v.kind.isArray then .count what 4 v.count else .empty) ++
      .all (v.elements.map Element.encode) : Encoding).result := by
  cases v with
  | byte v => exact ⟨.listItems, congrArg _ <| eq_encode_single (.byte v)⟩
  | short v => exact ⟨.listItems, congrArg _ <| eq_encode_single (.short v)⟩
  | long v => exact ⟨.listItems, congrArg _ <| eq_encode_single (.long v)⟩
  | longLong v => exact ⟨.listItems, congrArg _ <| eq_encode_single (.longLong v)⟩
  | float v => exact ⟨.listItems, congrArg _ <| eq_encode_single (.long v.bits)⟩
  | double v => exact ⟨.listItems, congrArg _ <| eq_encode_single (.longLong v.bits)⟩
  | string v => exact ⟨.listItems, congrArg _ <| eq_encode_single (.text v.content)⟩
  | binary v =>
    rw [encodePayload, result_encodeBinary]
    exact ⟨.valueItems, congrArg _ <| eq_encode_row .valueItems Element.byte v.content⟩
  | shorts v => exact ⟨.listItems, congrArg _ <| eq_encode_row .listItems Element.short v.content⟩
  | longs v => exact ⟨.listItems, congrArg _ <| eq_encode_row .listItems Element.long v.content⟩
  | longLongs v => exact ⟨.listItems, congrArg _ <| eq_encode_row .listItems Element.longLong v.content⟩
  | floats v =>
    exact ⟨.listItems, congrArg _ <| eq_encode_row .listItems (fun x : Single => .long x.bits) v.content⟩
  | doubles v =>
    exact ⟨.listItems, congrArg _ <| eq_encode_row .listItems (fun x : Double => .longLong x.bits) v.content⟩
  | strings v =>
    exact ⟨.valueItems, congrArg _ <| eq_encode_row .valueItems (fun s : Held String => .text s.content) v⟩
  | binaries v =>
    let element (b : Held (List UInt8)) : Element := .buffer b.content
    exact ⟨.valueItems, congrArg _ <| eq_encode_row .valueItems element v⟩

/-- The elements of a payload are bounded if it can be written, and so is their number if it is
written in front of them. -/
lemma result_encodePayload_eq_ok_iff {v : Payload} {bs : List UInt8} :
    (encodePayload v).result = .ok bs ↔ (∀ e ∈ v.elements, e.Bounded) ∧
      (v.kind.isArray = true → v.count < 2 ^ 32) ∧
      bs = (if v.kind.isArray then Word.le 4 v.count else []) ++
        v.elements.flatMap Element.bytes := by
  obtain ⟨what, hencode⟩ := result_encodePayload v
  have hbound : Word.bound 4 = 2 ^ 32 := rfl
  rw [hencode]
  simp only [Encoding.result_append_eq_ok_iff, Element.result_all_eq_ok_iff]
  cases hkind : v.kind.isArray
  · simp [eq_comm]
  · simp only [if_true, Encoding.result_count_eq_ok_iff, hbound]
    constructor
    · rintro ⟨_, _, ⟨hcount, rfl⟩, ⟨hbounded, rfl⟩, rfl⟩
      exact ⟨hbounded, fun _ => hcount, rfl⟩
    · rintro ⟨hbounded, hcount, rfl⟩
      exact ⟨_, _, ⟨hcount trivial, rfl⟩, ⟨hbounded, rfl⟩, rfl⟩

/-- What stands in front of the payload. -/
def head (p : Propval) : List UInt8 :=
  Word.le 4 p.tag.toNat ++ if codeOfTag p.tag = 0 then Word.le 2 p.type.code.toNat else []

lemma result_encode_eq_ok_iff {p : Propval} {bs : List UInt8} : p.encode.result = .ok bs ↔
    ∃ payload, (encodePayload p.payload).result = .ok payload ∧ bs = p.head ++ payload := by
  have hhead : (.u32 p.tag ++ (if codeOfTag p.tag = 0 then .u16 p.type.code else .empty) :
      Encoding).result = .ok p.head := by
    refine Encoding.result_append (Encoding.result_u32 p.tag) ?_
    split
    · exact Encoding.result_word ..
    · rfl
  rw [encode, Encoding.result_append_eq_ok_iff, hhead]
  simp

/-- **The type tells how a payload is laid out.** Behind its tag, and the code of its type if the
tag names none, a value that is well typed, as all are that come about, has the elements of its
payload, as many as it counts and all of the form of its kind. If its type is one of arrays, their
number stands in front of them, and it fits. If not, there is one element, a number or a text, and
nothing else. -/
theorem encode_layout {p : Propval} {b out : Buffer} (hp : p.WellTyped)
    (h : b.push p.encode = (.ok (), out)) :
    ∃ payload, out = ⟨b.bytes ++ (p.head ++ payload), b.cursor⟩ ∧
      p.payload.elements.length = p.payload.count ∧
      (∀ e ∈ p.payload.elements, e.form = p.payload.kind.elementForm ∧ e.Bounded) ∧
      (p.type.isArray = true → p.payload.count < 2 ^ 32 ∧
        payload = Word.le 4 p.payload.count ++ p.payload.elements.flatMap Element.bytes) ∧
      (p.type.isArray = false → p.payload.count = 1 ∧
        ∃ e, p.payload.elements = [e] ∧ e.form ≠ .buffer ∧ payload = e.bytes) := by
  obtain ⟨bs, hbs, rfl⟩ := Buffer.push_eq_ok_iff.mp h
  obtain ⟨payload, hpayload, rfl⟩ := result_encode_eq_ok_iff.mp hbs
  obtain ⟨hbounded, hcount, rfl⟩ := result_encodePayload_eq_ok_iff.mp hpayload
  have hform := p.payload.form_of_mem_elements
  rw [PropType.isArray_eq (PropType.accepts_iff.mp hp.2)]
  refine ⟨_, rfl, p.payload.length_elements, fun e he => ⟨hform e he, hbounded e he⟩,
    fun harray => ⟨hcount harray, by rw [if_pos harray]⟩, fun hsingle => ?_⟩
  obtain ⟨e, he, hne⟩ := Payload.elements_of_not_isArray hsingle
  refine ⟨by rw [← p.payload.length_elements, he, List.length_singleton], e, he, hne, ?_⟩
  simp [hsingle, he]

/-- Two binaries, one of them empty and borrowed, behind a tag that leaves the type open. -/
theorem encode_layout_binaries :
    let v : Payload := .binaries [⟨[7, 8], true⟩, ⟨[], false⟩]
    let p : Propval := ⟨0x12340000, .binaries, v⟩
    let head : List UInt8 := [0, 0, 0x34, 0x12, 0x02, 0x11]
    let payload : List UInt8 := [2, 0, 0, 0, 2, 0, 0, 0, 7, 8, 0, 0, 0, 0]
    (p.WellTyped ∧ (Buffer.mk [9] 1).push p.encode = (.ok (), ⟨9 :: head ++ payload, 1⟩)) ∧
      p.head = head ∧ v.elements.length = 2 ∧ v.kind.elementForm = .buffer ∧
      payload = Word.le 4 2 ++ v.elements.flatMap Element.bytes := by
  intro v p head payload
  have hwell : p.WellTyped := by decide
  have hpush : (Buffer.mk [9] 1).push p.encode = (.ok (), ⟨9 :: head ++ payload, 1⟩) := by decide
  obtain ⟨payload', hout, hlength, -, harray, -⟩ := encode_layout hwell hpush
  obtain ⟨-, hpayload⟩ := harray (by decide)
  have hhead : p.head = head := by decide
  obtain rfl : payload = payload' := by simpa [hhead, head] using congrArg Buffer.bytes hout
  exact ⟨⟨hwell, hpush⟩, hhead, hlength, rfl, hpayload⟩

end Propval

end StoreRpc
