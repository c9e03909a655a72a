import StoreRpc.Property.Type
import StoreRpc.Decimal.Binary

/-!
Property values.

The parts that live in memory of their own are held either by the value or by the caller who lent
them.
-/

namespace StoreRpc

/-- A part of a value, and whether the value owns it. -/
structure Held (α : Type) where
  content : α
  owned : Bool
  deriving DecidableEq, Repr

/-- The same part, owned. -/
def Held.toOwned {α : Type} (h : Held α) : Held α := ⟨h.content, true⟩

/-- A copy of a part. What is owned is copied, and what is lent is lent once more. -/
def Held.copy {α : Type} : Held α → Held α
  | ⟨content, true⟩ => ⟨content, true⟩
  | ⟨content, false⟩ => ⟨content, false⟩

inductive Payload
  | byte (v : UInt8)
  | short (v : UInt16)
  | long (v : UInt32)
  | longLong (v : UInt64)
  | float (v : Single)
  | double (v : Double)
  | string (v : Held String)
  | binary (v : Held (List UInt8))
  | shorts (v : Held (List UInt16))
  | longs (v : Held (List UInt32))
  | longLongs (v : Held (List UInt64))
  | floats (v : Held (List Single))
  | doubles (v : Held (List Double))
  | strings (v : List (Held String))
  | binaries (v : List (Held (List UInt8)))
  deriving DecidableEq, Repr

namespace Payload

def kind : Payload → Kind
  | byte _ => .byte
  | short _ => .short
  | long _ => .long
  | longLong _ => .longLong
  | float _ => .float
  | double _ => .double
  | string _ => .string
  | binary _ => .binary
  | shorts _ => .shorts
  | longs _ => .longs
  | longLongs _ => .longLongs
  | floats _ => .floats
  | doubles _ => .doubles
  | strings _ => .strings
  | binaries _ => .binaries

/-- How many elements an array has, or bytes a binary; 1 for any other value. -/
def count : Payload → Nat
  | binary v => v.content.length
  | shorts v => v.content.length
  | longs v => v.content.length
  | longLongs v => v.content.length
  | floats v => v.content.length
  | doubles v => v.content.length
  | strings v => v.length
  | binaries v => v.length
  | _ => 1

/-- No part is borrowed. -/
def isOwned : Payload → Bool
  | string v => v.owned
  | binary v => v.owned
  | shorts v => v.owned
  | longs v => v.owned
  | longLongs v => v.owned
  | floats v => v.owned
  | doubles v => v.owned
  | strings v => v.all (·.owned)
  | binaries v => v.all (·.owned)
  | _ => true

/-- The same value with no borrowed part. -/
def toOwned : Payload → Payload
  | string v => string v.toOwned
  | binary v => binary v.toOwned
  | shorts v => shorts v.toOwned
  | longs v => longs v.toOwned
  | longLongs v => longLongs v.toOwned
  | floats v => floats v.toOwned
  | doubles v => doubles v.toOwned
  | strings v => strings (v.map Held.toOwned)
  | binaries v => binaries (v.map Held.toOwned)
  | v => v

/-- A copy of the value, part by part. -/
def copy : Payload → Payload
  | string v => string v.copy
  | binary v => binary v.copy
  | shorts v => shorts v.copy
  | longs v => longs v.copy
  | longLongs v => longLongs v.copy
  | floats v => floats v.copy
  | doubles v => doubles v.copy
  | strings v => strings (v.map Held.copy)
  | binaries v => binaries (v.map Held.copy)
  | v => v

/-- Whether two lists agree element by element. -/
def sameAll {α : Type} (same : α → α → Bool) : List α → List α → Bool
  | [], [] => true
  | a :: as, b :: bs => same a b && sameAll same as bs
  | _, _ => false

/-- Equality of what the values hold, owned or not; floating point numbers compare as numbers. -/
def same : Payload → Payload → Bool
  | byte a, byte b => a == b
  | short a, short b => a == b
  | long a, long b => a == b
  | longLong a, longLong b => a == b
  | float a, float b => a.same b
  | double a, double b => a.same b
  | string a, string b => a.content == b.content
  | binary a, binary b => a.content == b.content
  | shorts a, shorts b => a.content == b.content
  | longs a, longs b => a.content == b.content
  | longLongs a, longLongs b => a.content == b.content
  | floats a, floats b => sameAll Single.same a.content b.content
  | doubles a, doubles b => sameAll Double.same a.content b.content
  | strings a, strings b => a.map Held.content == b.map Held.content
  | binaries a, binaries b => a.map Held.content == b.map Held.content
  | _, _ => false

/-- Numbers and text as they are, everything else by its size. -/
def text (p : Payload) : String :=
  match p with
  | byte v => toString v.toNat
  | short v => toString v.toNat
  | long v => toString v.toNat
  | longLong v => toString v.toNat
  | float v => v.text
  | double v => v.text
  | string v => v.content
  | binary v => s!"[{v.content.length} bytes]"
  | _ => s!"[{p.count} elements]"

end Payload

end StoreRpc
