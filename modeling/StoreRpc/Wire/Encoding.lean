import StoreRpc.Wire.Error
import StoreRpc.Wire.Word

/-!
What writing a value yields: the pieces put out, and why writing stopped if it stopped short.

Encodings are joined by `++`, which goes on after a complete encoding and ends with the first
failure, keeping what was written before it.
-/

namespace StoreRpc

structure Encoding where
  /-- What is put out, in the order in which it is written. -/
  pieces : List (List UInt8)
  failure : Option EncodeError

namespace Encoding

/-- All that is put out. -/
def bytes (e : Encoding) : List UInt8 := e.pieces.flatten

/-- Nothing, successfully. -/
def empty : Encoding := ⟨[], none⟩

/-- Stops before the next byte. -/
def fail (e : EncodeError) : Encoding := ⟨[], some e⟩

/-- These bytes as they are. -/
def raw (bs : List UInt8) : Encoding := ⟨[bs], none⟩

@[simp] theorem bytes_raw (bs : List UInt8) : (raw bs).bytes = bs := List.append_nil bs

protected def append (a b : Encoding) : Encoding :=
  match a.failure with
  | some e => ⟨a.pieces, some e⟩
  | none => ⟨a.pieces ++ b.pieces, b.failure⟩

instance : Append Encoding := ⟨Encoding.append⟩

@[simp] theorem append_ok (ps : List (List UInt8)) (b : Encoding) :
    (⟨ps, none⟩ : Encoding) ++ b = ⟨ps ++ b.pieces, b.failure⟩ := rfl

@[simp] theorem append_failed (ps : List (List UInt8)) (e : EncodeError) (b : Encoding) :
    (⟨ps, some e⟩ : Encoding) ++ b = ⟨ps, some e⟩ := rfl

theorem append_assoc (a b c : Encoding) : a ++ b ++ c = a ++ (b ++ c) := by
  rcases a with ⟨as, _ | e⟩
  · rcases b with ⟨bs, _ | e⟩ <;> simp
  · simp

theorem failure_append_eq_none {a b : Encoding} :
    (a ++ b).failure = none ↔ a.failure = none ∧ b.failure = none := by
  rcases a with ⟨as, _ | e⟩ <;> simp

theorem bytes_append {a b : Encoding} (h : a.failure = none) :
    (a ++ b).bytes = a.bytes ++ b.bytes := by
  rcases a with ⟨as, _ | e⟩
  · simp [bytes]
  · cases h

/-- One encoding after another. -/
def all (es : List Encoding) : Encoding := es.foldr (· ++ ·) empty

@[simp] theorem all_nil : all [] = empty := rfl
@[simp] theorem all_cons (e : Encoding) (es : List Encoding) : all (e :: es) = e ++ all es := rfl

/-- The bytes of a complete encoding. -/
def result (e : Encoding) : Except EncodeError (List UInt8) :=
  match e.failure with
  | none => .ok e.bytes
  | some why => .error why

/-! ### Words, texts and counted items -/

/-- A little-endian word of `width` bytes. -/
def word (width n : Nat) : Encoding := raw (Word.le width n)

def u8 (v : UInt8) : Encoding := word 1 v.toNat
def u16 (v : UInt16) : Encoding := word 2 v.toNat
def u32 (v : UInt32) : Encoding := word 4 v.toNat
def u64 (v : UInt64) : Encoding := word 8 v.toNat
def flag (b : Bool) : Encoding := word 1 b.toNat

/-- A text and the NUL that ends it. -/
def text (s : String) : Encoding :=
  let bs := Utf8.encode s
  if bs.contains 0 then fail .interiorNul else raw bs ++ raw [0]

/-- A count of `width` bytes, refused when it does not fit. -/
def count (what : Counted) (width n : Nat) : Encoding :=
  if n < Word.bound width then word width n
  else fail (.tooMany what n (Word.bound width - 1))

/-- Items behind a two-byte count. -/
def list16 {α : Type} (item : α → Encoding) (as : List α) : Encoding :=
  count .listItems 2 as.length ++ all (as.map item)

/-- Items behind a four-byte count. -/
def list32 {α : Type} (item : α → Encoding) (as : List α) : Encoding :=
  count .listItems 4 as.length ++ all (as.map item)

end Encoding

end StoreRpc
