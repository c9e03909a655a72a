import StoreRpc.Wire.Reader
import StoreRpc.Wire.Encoding

/-!
Globally unique identifiers with the classic fields.

On the wire the integer fields are little-endian words; the clock sequence and the node are bytes
as they stand.
-/

namespace StoreRpc

structure Guid where
  timeLow : UInt32
  timeMid : UInt16
  timeHigh : UInt16
  clockSeq : Vector UInt8 2
  node : Vector UInt8 6
  deriving DecidableEq, Repr

namespace Guid

def zero : Guid := ⟨0, 0, 0, #v[0, 0], #v[0, 0, 0, 0, 0, 0]⟩

/-- The property set of the server's own named properties. -/
def serverProperties : Guid :=
  ⟨0x1DE937E2, 0x85C6, 0x40A1, #v[0xBD, 0x9D], #v[0xA6, 0xE2, 0xB7, 0xB7, 0x87, 0xB1]⟩

/-- The store of a domain. -/
def ofDomain (id : UInt32) : Guid :=
  ⟨id, 0x0AFB, 0x7DF6, #v[0x91, 0x92], #v[0x49, 0x88, 0x6A, 0xA7, 0x38, 0xCE]⟩

def encode (g : Guid) : Encoding :=
  .u32 g.timeLow ++ .u16 g.timeMid ++ .u16 g.timeHigh ++ .raw g.clockSeq.toList
    ++ .raw g.node.toList

end Guid

def Guid.reader : Reader Guid := Reader.record do
  let timeLow ← Reader.u32
  let timeMid ← Reader.u16
  let timeHigh ← Reader.u16
  let clockSeq ← Reader.vector 2
  let node ← Reader.vector 6
  return ⟨timeLow, timeMid, timeHigh, clockSeq, node⟩

end StoreRpc
