import StoreRpc.Text.Utf8
import StoreRpc.Text.Hex

/-!
Why a value could not be read from bytes, or written to them.
-/

namespace StoreRpc

/-- What stopped a reader. -/
inductive DecodeError
  /-- More bytes were asked for than are left. -/
  | underflow (needed available : Nat)
  /-- A text runs to the end of the bytes without its NUL. -/
  | unterminated
  | notUtf8 (fault : Utf8.Fault)
  /-- The code names no property type that has values. -/
  | unknownType (code : UInt16)
  /-- A strict truth value is neither 0 nor 1. -/
  | notBool (byte : UInt8)
  /-- The length byte of a property name differs from the bytes up to its NUL. -/
  | nameLength (declared : UInt8) (found : Nat)
  | nameKind (kind : UInt8)
  deriving DecidableEq, Repr

def DecodeError.message : DecodeError → String
  | .underflow needed available =>
    s!"buffer underflow: {needed} bytes requested, {available} available"
  | .unterminated => "string is missing its NUL terminator"
  | .notUtf8 fault => "string is not valid utf-8: " ++ fault.message
  | .unknownType code =>
    "deserialization of property type 0x" ++ Hex.padded 4 code.toNat ++ " is not supported"
  | .notBool byte => s!"failed to decode value: InvalidBooleanValue({byte.toNat})"
  | .nameLength declared found =>
    s!"invalid property name length: declared {declared.toNat}, found {found}"
  | .nameKind kind => s!"invalid property name kind: {kind.toNat}"

/-- What is counted where a count has a limit. -/
inductive Counted
  | listItems | valueItems | messageBytes | nameBytes
  deriving DecidableEq, Repr

def Counted.text : Counted → String
  | .listItems => "list element"
  | .valueItems => "property value element"
  | .messageBytes => "message byte"
  | .nameBytes => "property name byte"

/-- What stopped a writer. -/
inductive EncodeError
  /-- A text holds the NUL that would end it. -/
  | interiorNul
  | tooMany (what : Counted) (count most : Nat)
  | xidSize (size : UInt8)
  /-- A comment restriction annotates with no property, or with more than 255. -/
  | commentCount (count : Nat)
  /-- The length header was never reserved. -/
  | unframed
  deriving DecidableEq, Repr

def EncodeError.message : EncodeError → String
  | .interiorNul => "string contains an interior NUL byte"
  | .tooMany what count most => s!"{what.text} count {count} exceeds the maximum of {most}"
  | .xidSize size => s!"invalid XID size: {size.toNat}"
  | .commentCount count =>
    s!"invalid comment restriction: {count} propvals, expected 1 to 255"
  | .unframed => "message was finalized without being started"

end StoreRpc
