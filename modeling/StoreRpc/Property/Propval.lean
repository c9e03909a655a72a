import StoreRpc.Property.Payload
import StoreRpc.ValueError
import StoreRpc.Filetime
import StoreRpc.Wire.Reader
import StoreRpc.Wire.Encoding

/-!
Tagged property values.

The low half of a tag is normally the code of the value's type. A tag whose low half is zero
leaves the type open, and then the type is carried beside it, here and on the wire.
-/

namespace StoreRpc

structure Propval where
  tag : UInt32
  type : PropType
  payload : Payload
  deriving DecidableEq, Repr

namespace Propval

/-- The tag leaves the type open or names it, and the type accepts the payload. -/
def WellTyped (p : Propval) : Prop :=
  (PropType.codeOfTag p.tag = 0 ∨ PropType.codeOfTag p.tag = p.type.code) ∧
    p.type.accepts p.payload.kind

instance (p : Propval) : Decidable p.WellTyped := inferInstanceAs (Decidable (_ ∧ _))

/-- A value of the type with this code. -/
def withType (tag : UInt32) (code : UInt16) (v : Payload) : Except ValueError Propval :=
  match PropType.ofCode? code with
  | none => .error (.unknownType code)
  | some type =>
    if WellTyped ⟨tag, type, v⟩ then .ok ⟨tag, type, v⟩
    else .error (.typeMismatch type v.kind)

/-- A value of the type that the tag names. -/
def ofTag (tag : UInt32) (v : Payload) : Except ValueError Propval :=
  withType tag (PropType.codeOfTag tag) v

/-- The same value with no borrowed part. -/
def toOwned (p : Propval) : Propval := { p with payload := p.payload.toOwned }

/-- A copy of the value. -/
def copy (p : Propval) : Propval := { p with payload := p.payload.copy }

/-- Equality of tag, type and what the payloads hold. -/
def same (p q : Propval) : Bool := p.tag == q.tag && p.type == q.type && p.payload.same q.payload

/-! ### Views -/

def bytes? (p : Propval) : Option (List UInt8) :=
  match p.payload with
  | .binary v => some v.content
  | _ => none

def text? (p : Propval) : Option String :=
  match p.payload with
  | .string v => some v.content
  | _ => none

def long? (p : Propval) : Option UInt32 :=
  match p.payload with
  | .long v => some v
  | _ => none

def longLong? (p : Propval) : Option UInt64 :=
  match p.payload with
  | .longLong v => some v
  | _ => none

/-- The text of the value. A timestamp is shown as a date and time if the calendar has them. -/
def display (p : Propval) : String :=
  match p.type, p.payload with
  | .fileTime, .longLong v => (Filetime.text? v).getD p.payload.text
  | _, _ => p.payload.text

/-! ### On the wire -/

def encodeSingle (x : Single) : Encoding := .u32 x.bits
def encodeDouble (x : Double) : Encoding := .u64 x.bits

/-- Bytes behind their four-byte count. -/
def encodeBinary (bs : List UInt8) : Encoding :=
  .count .valueItems 4 bs.length ++ .raw bs

def encodePayload : Payload → Encoding
  | .byte v => .u8 v
  | .short v => .u16 v
  | .long v => .u32 v
  | .longLong v => .u64 v
  | .float v => encodeSingle v
  | .double v => encodeDouble v
  | .string v => .text v.content
  | .binary v => encodeBinary v.content
  | .shorts v => .list32 .u16 v.content
  | .longs v => .list32 .u32 v.content
  | .longLongs v => .list32 .u64 v.content
  | .floats v => .list32 encodeSingle v.content
  | .doubles v => .list32 encodeDouble v.content
  | .strings v =>
    .count .valueItems 4 v.length ++ .all (v.map fun s => .text s.content)
  | .binaries v =>
    .count .valueItems 4 v.length ++ .all (v.map fun b => encodeBinary b.content)

/-- The tag, the type if the tag leaves it open, and the value. -/
def encode (p : Propval) : Encoding :=
  .u32 p.tag ++ (if PropType.codeOfTag p.tag = 0 then .u16 p.type.code else .empty)
    ++ encodePayload p.payload

def readSingle : Reader Single := Single.mk <$> Reader.u32
def readDouble : Reader Double := Double.mk <$> Reader.u64

/-- Bytes behind their four-byte count. -/
def readBinary : Reader (List UInt8) := do
  let n ← Reader.u32
  Reader.take n.toNat

/-- What was read belongs to the value. -/
def own {α : Type} (a : α) : Held α := ⟨a, true⟩

def readPayload : Kind → Reader Payload
  | .byte => .byte <$> Reader.u8
  | .short => .short <$> Reader.u16
  | .long => .long <$> Reader.u32
  | .longLong => .longLong <$> Reader.u64
  | .float => .float <$> readSingle
  | .double => .double <$> readDouble
  | .string => (.string ∘ own) <$> Reader.text
  | .binary => (.binary ∘ own) <$> readBinary
  | .shorts => (.shorts ∘ own) <$> Reader.list32 Reader.u16
  | .longs => (.longs ∘ own) <$> Reader.list32 Reader.u32
  | .longLongs => (.longLongs ∘ own) <$> Reader.list32 Reader.u64
  | .floats => (.floats ∘ own) <$> Reader.list32 readSingle
  | .doubles => (.doubles ∘ own) <$> Reader.list32 readDouble
  | .strings => (.strings ∘ List.map own) <$> Reader.list32 Reader.text
  | .binaries => (.binaries ∘ List.map own) <$> Reader.list32 readBinary

/-- The type code of a tag, or the one beside it. -/
def readCode (tag : UInt32) : Reader UInt16 :=
  if PropType.codeOfTag tag = 0 then Reader.u16 else pure (PropType.codeOfTag tag)

/-- The type with this code, if it has values, and the kind in which they are read. -/
def readType (code : UInt16) : Reader (PropType × Kind) :=
  match PropType.ofCode? code with
  | none => .fail (.unknownType code)
  | some type =>
    match type.kind? with
    | none => .fail (.unknownType code)
    | some kind => pure (type, kind)

def reader : Reader Propval := do
  let tag ← Reader.u32
  let code ← readCode tag
  let (type, kind) ← readType code
  let payload ← readPayload kind
  return ⟨tag, type, payload⟩

end Propval

end StoreRpc
