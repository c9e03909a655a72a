import StoreRpc.Guid.Basic
import StoreRpc.EntryId

/-!
Change identifiers: a GUID and as many bytes of a local id as the stated size leaves.
-/

namespace StoreRpc

structure Xid where
  /-- Bytes in all, 16 of them the GUID's. -/
  size : UInt8
  guid : Guid
  localId : UInt64
  deriving DecidableEq, Repr

namespace Xid

def minSize : UInt8 := 17
def maxSize : UInt8 := 24

/-- The id without its size. -/
def encodeBare (x : Xid) : Encoding :=
  if minSize ≤ x.size ∧ x.size ≤ maxSize then
    x.guid.encode ++ .raw ((Word.le 8 x.localId.toNat).take (x.size.toNat - 16))
  else .fail (.xidSize x.size)

/-- The id behind its size. -/
def encode (x : Xid) : Encoding := .u8 x.size ++ x.encodeBare

end Xid

end StoreRpc
