import StoreRpc.Message
import StoreRpc.Property.Problem

/-!
What the server answers to a request.

Each kind of reply has a type of values and a reader for them.
-/

namespace StoreRpc

/-- A table held ready by the server. -/
structure LoadedTable where
  id : UInt32
  rowCount : UInt32
  deriving DecidableEq, Repr

def LoadedTable.reader : Reader LoadedTable := Reader.record do
  let id ← Reader.u32
  let rowCount ← Reader.u32
  return ⟨id, rowCount⟩

inductive Reply
  | nothing
  | propertyIds
  | tags
  | propvals
  | problems
  /-- Rows of properties. -/
  | table
  | folder
  | success
  /-- Whether only a part of the work was done. -/
  | partly
  | loadedTable
  | opened
  | content
  | changeNumber
  /-- The content of a message, if there is one. -/
  | contentIfAny
  deriving DecidableEq, Repr

namespace Reply

/-- The values of a reply. -/
@[reducible] def Value : Reply → Type
  | nothing => Unit
  | propertyIds => List UInt16
  | tags => List UInt32
  | propvals => List Propval
  | problems => List Problem
  | table => List (List Propval)
  | folder => UInt64
  | success => Bool
  | partly => Bool
  | loadedTable => LoadedTable
  | opened => UInt32
  | content => Message
  | changeNumber => UInt64
  | contentIfAny => Option Message

def reader : (r : Reply) → Reader r.Value
  | nothing => pure ()
  | propertyIds => Reader.list16 Reader.u16
  | tags => Reader.list16 Reader.u32
  | propvals => Reader.list16 Propval.reader
  | problems => Reader.list16 Problem.reader
  | table => Reader.list32 (Reader.list16 Propval.reader)
  | folder => Reader.u64
  | success => Reader.flag
  | partly => Reader.flag
  | loadedTable => LoadedTable.reader
  | opened => Reader.u32
  | content => Message.reader
  | changeNumber => Reader.u64
  | contentIfAny => do
    if ← Reader.flag then some <$> Message.reader else return none

end Reply

end StoreRpc
