import StoreRpc.Store.Procedure
import StoreRpc.Property.Tag

/-!
Tables that the server loads, and reading all their rows.
-/

namespace StoreRpc

/-- Rows of properties. -/
abbrev Table := List (List Propval)

namespace Table

/-- What a table may hold besides the usual rows. -/
def associated : UInt8 := 0x02
def depth : UInt8 := 0x04
def softDeletes : UInt8 := 0x20

/-- All rows of a loaded table, which is then released. -/
def readAll (home : String) (table : LoadedTable) (columns : List UInt32) : Procedure Table := do
  let rows ← Procedure.send (.queryTable home "" 0 table.id columns 0 table.rowCount)
  Procedure.send (.unloadTable home table.id)
  return rows

/-- The folders directly below a folder. -/
def subfolders (home : String) (folder : UInt64) (columns : List UInt32) : Procedure Table := do
  let table ← Procedure.send (.loadHierarchyTable home folder "" 0 .null)
  readAll home table columns

end Table

end StoreRpc
