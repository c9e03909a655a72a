import StoreRpc.Proofs.Buffer.InBounds
import StoreRpc.Proofs.Property.Name
import StoreRpc.Proofs.Property.RoundTrip
import StoreRpc.Proofs.Wire.Restores
import StoreRpc.Shape

/-!
A buffer as a queue of values of many types.

What is unread in the buffer is, at any time, the encodings of the values that were pushed and not
yet popped, in their order. Every one of them is read off in front of those that follow, so it is of
no account how pushes and pops alternate.
-/

namespace StoreRpc

lemma NumberShape.encode_exact (s : NumberShape) : Exact s.encode s.reader := by
  cases s with
  | u8 => exact .u8
  | u16 => exact .u16
  | u32 => exact .u32
  | u64 => exact .u64
  | i16 => exact Exact.u16.wrap (fun v => by simp) fun v => by simp
  | i32 => exact Exact.u32.wrap (fun v => by simp) fun v => by simp
  | i64 => exact Exact.u64.wrap (fun v => by simp) fun v => by simp
  | f32 => exact Propval.encodeSingle_exact
  | f64 => exact Propval.encodeDouble_exact

/-- The shapes of values that are written in the form in which they are read. -/
inductive Writable
  | number (s : NumberShape)
  | flag
  | text
  | guid
  | name
  | propval
  | list16 (s : Writable)
  | list32 (s : Writable)

namespace Writable

@[reducible] def shape : Writable → Shape
  | number s => .number s
  | flag => .flag
  | text => .text
  | guid => .guid
  | name => .name
  | propval => .propval
  | list16 s => .list16 s.shape
  | list32 s => .list32 s.shape

abbrev Value (s : Writable) : Type := s.shape.Value

def encode : (s : Writable) → s.Value → Encoding
  | number s => s.encode
  | flag => .flag
  | text => .text
  | guid => Guid.encode
  | name => PropertyName.encode
  | propval => Propval.encode
  | list16 s => Encoding.list16 s.encode
  | list32 s => Encoding.list32 s.encode

/-- Properties are such as can be made from their parts. -/
def Sound : (s : Writable) → s.Value → Prop
  | propval, p => p.WellTyped
  | list16 s, vs | list32 s, vs => ∀ v ∈ vs, s.Sound v
  | _, _ => True

/-- The same value, with all parts of its properties owned. -/
def owned : (s : Writable) → s.Value → s.Value
  | propval, p => p.toOwned
  | list16 s, vs | list32 s, vs => vs.map s.owned
  | _, v => v

lemma restores (s : Writable) : Restores s.Sound s.encode s.owned s.shape.reader := by
  induction s with
  | number s => exact s.encode_exact.restores _
  | flag => exact .flag _
  | text => exact Exact.text.restores _
  | guid => exact Guid.reader_exact.restores _
  | name => exact PropertyName.reader_exact.restores _
  | propval =>
    exact Propval.reader_exact.restores (fun _ => Propval.readable_toOwned) Propval.encode_toOwned
  | list16 s ih => exact ih.list16
  | list32 s ih => exact ih.list32

end Writable

lemma Encoding.all_append (es es' : List Encoding) : all (es ++ es') = all es ++ all es' := by
  induction es with
  | nil => rfl
  | cons e es ih => rw [List.cons_append, all_cons, all_cons, ih, append_assoc]

/-- A value with its shape. -/
structure Entry where
  shape : Writable
  value : shape.Value

namespace Entry

def encode (e : Entry) : Encoding := e.shape.encode e.value

def Sound (e : Entry) : Prop := e.shape.Sound e.value

def owned (e : Entry) : Entry := ⟨e.shape, e.shape.owned e.value⟩

end Entry

namespace Buffer

variable {b b' : Buffer} {e : Entry} {es : List Entry}

/-- The values that are still to be popped. -/
structure Holds (b : Buffer) (es : List Entry) : Prop where
  inBounds : b.InBounds
  sound : ∀ e ∈ es, e.Sound
  unread : (Encoding.all (es.map Entry.encode)).result = .ok b.unread

namespace Holds

lemma empty : Holds .empty [] := ⟨Nat.le_refl 0, by simp, rfl⟩

/-- A value that is pushed is behind all others. -/
lemma push (h : b.Holds es) (he : e.Sound) (hpush : b.push e.encode = (.ok (), b')) :
    b'.Holds (es ++ [e]) := by
  obtain ⟨front, hfront, rfl⟩ := push_eq_ok_iff.mp hpush
  refine ⟨Nat.le_trans h.inBounds (List.prefix_append ..).length_le, ?_, ?_⟩
  · simpa [or_imp, forall_and] using ⟨h.sound, he⟩
  · have hunread : (b.bytes ++ front).drop b.cursor = b.unread ++ front :=
      List.drop_append_of_le_length h.inBounds
    rw [Buffer.unread, hunread, List.map_append, Encoding.all_append,
      Encoding.result_append_eq_ok_iff]
    exact ⟨_, _, h.unread, by simpa using hfront, rfl⟩

/-- The first of the values is popped, and the others are left. -/
lemma pop (h : b.Holds (e :: es)) :
    ∃ b', b.pop e.shape.shape.reader = (.ok e.owned.value, b') ∧ b'.Holds es := by
  obtain ⟨he, hes⟩ := List.forall_mem_cons.mp h.sound
  obtain ⟨x, y, hx, hy, hunread⟩ := Encoding.result_all_cons_eq_ok_iff.mp h.unread
  have hread := e.shape.restores e.value x y he hx
  rw [← hunread] at hread
  refine ⟨_, pop_eq_ok_iff.mpr ⟨y, hread, rfl⟩, Nat.sub_le .., hes, ?_⟩
  rw [unread_of_suffix (hunread ▸ List.suffix_append x y)]
  exact hy

end Holds

/-- A buffer, which was empty at first, after values were pushed to it and others were popped from
it in between. The pops so far asked for the shapes of the first of the values, in their order, and
there were such values to ask for. -/
inductive Interleaving : Buffer → List Entry → List (Except DecodeError Entry) → Prop
  | start : Interleaving .empty [] []
  | push {b b' pushed popped} (h : Interleaving b pushed popped) (e : Entry) (he : e.Sound)
    (hpush : b.push e.encode = (.ok (), b')) : Interleaving b' (pushed ++ [e]) popped
  | pop {b b' pushed popped e out} (h : Interleaving b pushed popped)
    (he : pushed[popped.length]? = some e) (hpop : b.pop e.shape.shape.reader = (out, b')) :
    Interleaving b' pushed (popped ++ [out.map (Entry.mk e.shape)])

namespace Interleaving

variable {pushed : List Entry} {popped : List (Except DecodeError Entry)}

lemma length_le (h : Interleaving b pushed popped) : popped.length ≤ pushed.length := by
  induction h with
  | start => exact Nat.le_refl 0
  | push h e he hpush ih =>
    rw [List.length_append]
    exact Nat.le_add_right_of_le ih
  | pop h he hpop ih =>
    obtain ⟨hlt, -⟩ := List.getElem?_eq_some_iff.mp he
    rw [List.length_append]
    exact hlt

/-- The buffer holds the values that were not popped yet. -/
lemma holds (h : Interleaving b pushed popped) : b.Holds (pushed.drop popped.length) ∧
    popped = (pushed.take popped.length).map fun e => .ok e.owned := by
  induction h with
  | start => exact ⟨.empty, rfl⟩
  | push h e he hpush ih =>
    obtain ⟨hholds, hpopped⟩ := ih
    rw [List.drop_append_of_le_length h.length_le, List.take_append_of_le_length h.length_le]
    exact ⟨hholds.push he hpush, hpopped⟩
  | @pop b b' pushed popped e out h he hpop ih =>
    obtain ⟨hholds, hpopped⟩ := ih
    obtain ⟨hlt, rfl⟩ := List.getElem?_eq_some_iff.mp he
    rw [List.drop_eq_getElem_cons hlt] at hholds
    obtain ⟨after, hread, hafter⟩ := hholds.pop
    cases hread.symm.trans hpop
    rw [List.length_append, List.length_singleton]
    refine ⟨hafter, ?_⟩
    rw [List.take_add_one, List.map_append, ← hpopped, he]
    rfl

end Interleaving

/-- **First in, first out.** However pushes and pops alternate, every pop succeeds, and the value
that it yields is the one that was pushed in its place, whatever is in front of it and behind it.
When as many values were popped as were pushed, no byte is left. -/
theorem first_in_first_out {b : Buffer} {pushed : List Entry}
    {popped : List (Except DecodeError Entry)} (h : Interleaving b pushed popped) :
    popped = ((pushed.take popped.length).map fun e => .ok e.owned) ∧
      (popped.length = pushed.length → b.unread = [] ∧ b.remaining = 0) := by
  obtain ⟨hholds, hpopped⟩ := h.holds
  refine ⟨hpopped, fun hall => ?_⟩
  rw [List.drop_of_length_le (Nat.le_of_eq hall.symm)] at hholds
  have hunread : b.unread = [] := (Except.ok.inj hholds.unread).symm
  refine ⟨hunread, ?_⟩
  have hlength : b.unread.length = b.remaining := List.length_drop
  rw [← hlength, hunread, List.length_nil]

/-- A number is popped between a list of borrowed texts and the flag behind it. -/
theorem first_in_first_out_borrowed :
    let number : Entry := ⟨.number .i16, -2⟩
    let texts : Entry := ⟨.list16 .propval, [⟨0x12340000, .strings, .strings [⟨"a", false⟩]⟩]⟩
    let flag : Entry := ⟨.flag, true⟩
    ∃ b, Interleaving b [number, texts, flag] [.ok number, .ok texts.owned, .ok flag] ∧
      b.bytes.length = 17 ∧ b.unread = [] := by
  intro number texts flag
  let bs : List UInt8 := [0xFE, 0xFF, 1, 0, 0, 0, 0x34, 0x12, 0x1E, 0x10, 1, 0, 0, 0, 0x61, 0, 1]
  have hsound : texts.Sound := by
    intro p hp
    obtain rfl := List.mem_singleton.mp hp
    change Propval.WellTyped _
    decide
  have h₁ : Interleaving ⟨bs.take 2, 0⟩ [number] [] :=
    Interleaving.start.push number trivial (by decide)
  have h₂ : Interleaving ⟨bs.take 16, 0⟩ [number, texts] [] := h₁.push texts hsound (by decide)
  have h₃ : Interleaving ⟨bs.take 16, 2⟩ [number, texts] [.ok number] := h₂.pop rfl rfl
  have h₄ : Interleaving ⟨bs, 2⟩ [number, texts, flag] [.ok number] :=
    h₃.push flag trivial (by decide)
  have hpop : (Buffer.mk bs 2).pop (Reader.list16 Propval.reader) =
      (.ok [⟨0x12340000, .strings, .strings [⟨"a", true⟩]⟩], ⟨bs, 16⟩) := by
    decide +kernel
  have h₅ : Interleaving ⟨bs, 16⟩ [number, texts, flag] [.ok number, .ok texts.owned] :=
    h₄.pop rfl hpop
  have h₆ : Interleaving ⟨bs, 17⟩ [number, texts, flag] [.ok number, .ok texts.owned, .ok flag] :=
    h₅.pop rfl rfl
  exact ⟨_, h₆, rfl, ((first_in_first_out h₆).2 rfl).1⟩

end Buffer

end StoreRpc
