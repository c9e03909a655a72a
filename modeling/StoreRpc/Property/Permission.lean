import StoreRpc.Property.Propval

/-!
Rows of a change to a folder's permissions.
-/

namespace StoreRpc

/-- What is done to one member. -/
structure Permission where
  flags : UInt8
  propvals : List Propval
  deriving DecidableEq, Repr

namespace Permission

def addRow : UInt8 := 0x01
def modifyRow : UInt8 := 0x02
def removeRow : UInt8 := 0x04

def encode (p : Permission) : Encoding := .u8 p.flags ++ .list16 Propval.encode p.propvals

end Permission

end StoreRpc
