import StoreRpc.Wire.Reader
import StoreRpc.Wire.Encoding

/-!
What the server reports for one entry of a list of properties.
-/

namespace StoreRpc

structure Problem where
  /-- The place of the entry in the request. -/
  index : UInt16
  tag : UInt32
  code : UInt32
  deriving DecidableEq, Repr

namespace Problem

def encode (p : Problem) : Encoding := .u16 p.index ++ .u32 p.tag ++ .u32 p.code

def reader : Reader Problem := Reader.record do
  let index ← Reader.u16
  let tag ← Reader.u32
  let code ← Reader.u32
  return ⟨index, tag, code⟩

end Problem

end StoreRpc
