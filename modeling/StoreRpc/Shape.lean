import StoreRpc.Reply
import StoreRpc.Property.Name
import StoreRpc.Property.Permission
import StoreRpc.Guid.Xid
import StoreRpc.Restriction

/-!
The shapes of values on the wire.

A `Shape` is what can be read, with its type of values and its reader; an `Item` is a value of
one of the types that can be written.
-/

namespace StoreRpc

/-- The numbers of fixed width. -/
inductive NumberShape
  | u8 | u16 | u32 | u64 | i16 | i32 | i64 | f32 | f64
  deriving DecidableEq, Repr

namespace NumberShape

@[reducible] def Value : NumberShape → Type
  | u8 => UInt8
  | u16 => UInt16
  | u32 => UInt32
  | u64 => UInt64
  | i16 => Int16
  | i32 => Int32
  | i64 => Int64
  | f32 => Single
  | f64 => Double

def reader : (s : NumberShape) → Reader s.Value
  | u8 => Reader.u8
  | u16 => Reader.u16
  | u32 => Reader.u32
  | u64 => Reader.u64
  | i16 => UInt16.toInt16 <$> Reader.u16
  | i32 => UInt32.toInt32 <$> Reader.u32
  | i64 => UInt64.toInt64 <$> Reader.u64
  | f32 => Propval.readSingle
  | f64 => Propval.readDouble

def encode : (s : NumberShape) → s.Value → Encoding
  | u8, v => .u8 v
  | u16, v => .u16 v
  | u32, v => .u32 v
  | u64, v => .u64 v
  | i16, v => .u16 v.toUInt16
  | i32, v => .u32 v.toUInt32
  | i64, v => .u64 v.toUInt64
  | f32, v => Propval.encodeSingle v
  | f64, v => Propval.encodeDouble v

end NumberShape

inductive Shape
  | number (s : NumberShape)
  | flag
  | text
  | guid
  | name
  | problem
  | propval
  | message
  | attachment
  | reply (r : Reply)
  | list16 (s : Shape)
  | list32 (s : Shape)
  deriving DecidableEq, Repr

namespace Shape

@[reducible] def Value : Shape → Type
  | number s => s.Value
  | flag => Bool
  | text => String
  | guid => Guid
  | name => PropertyName
  | problem => Problem
  | propval => Propval
  | message => Message
  | attachment => Attachment
  | reply r => r.Value
  | list16 s => List s.Value
  | list32 s => List s.Value

def reader : (s : Shape) → Reader s.Value
  | number s => s.reader
  | flag => Reader.flag
  | text => Reader.text
  | guid => Guid.reader
  | name => PropertyName.reader
  | problem => Problem.reader
  | propval => Propval.reader
  | message => Message.reader
  | attachment => Attachment.reader
  | reply r => r.reader
  | list16 s => Reader.list16 s.reader
  | list32 s => Reader.list32 s.reader

end Shape

inductive Item
  | number (s : NumberShape) (v : s.Value)
  | flag (v : Bool)
  | text (v : String)
  | guid (v : Guid)
  | xid (v : Xid)
  | name (v : PropertyName)
  | problem (v : Problem)
  | permission (v : Permission)
  | propval (v : Propval)
  | restriction (v : Restriction)
  | comparison (v : Comparison)

def Item.encode : Item → Encoding
  | number s v => s.encode v
  | flag v => .flag v
  | text v => .text v
  | guid v => v.encode
  | xid v => v.encode
  | name v => v.encode
  | problem v => v.encode
  | permission v => v.encode
  | propval v => v.encode
  | restriction v => v.encode
  | comparison v => v.encode

end StoreRpc
