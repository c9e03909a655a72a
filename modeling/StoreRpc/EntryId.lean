import StoreRpc.Wire.Word

/-!
Ids of the objects in a store.

A counter of 48 bits is kept with its most significant byte first in memory, and an entry id
holds it above the 16 bits of the replica that counted.
-/

namespace StoreRpc

/-- The word with its bytes in the opposite order. -/
def swapBytes (v : UInt64) : UInt64 := UInt64.ofNat (Word.ofLe (Word.le 8 v.toNat).reverse)

namespace Counter

/-- The counter field for a value. -/
def ofValue (value : UInt64) : UInt64 := swapBytes (value <<< 16)

/-- The value of a counter field. -/
def toValue (field : UInt64) : UInt64 := swapBytes field >>> 16

end Counter

namespace EntryId

/-- The id that joins a replica and a counter field. -/
def ofField (replica : UInt16) (field : UInt64) : UInt64 := replica.toUInt64 ||| (field <<< 16)

/-- The id of a replica's object by the value of its counter. -/
def ofValue (replica : UInt16) (value : UInt64) : UInt64 :=
  ofField replica (Counter.ofValue value)

end EntryId

/-! ### The fixed folders of a public store, by the values of their counters -/

namespace PublicFolder

def root : UInt64 := 1
def ipmSubtree : UInt64 := 2
def nonIpmSubtree : UInt64 := 3
def formsRegistry : UInt64 := 4

/-- The id of such a folder in the store's own replica. -/
def id (value : UInt64) : UInt64 := EntryId.ofValue 1 value

end PublicFolder

end StoreRpc
