import StoreRpc.Store.Procedure

/-!
The properties of a store and of its folders, one request each.
-/

namespace StoreRpc.Store

def getProperties (home : String) (codePage : UInt32) (tags : List UInt32) :
    Procedure (List Propval) :=
  Procedure.send (.getStoreProperties home codePage tags)

/-- Tells which properties the server refused to write. -/
def setProperties (home : String) (codePage : UInt32) (propvals : List Propval) :
    Procedure (List Problem) :=
  Procedure.send (.setStoreProperties home codePage propvals)

def removeProperties (home : String) (tags : List UInt32) : Procedure Unit :=
  Procedure.send (.removeStoreProperties home tags)

/-- The tags of all the store's properties. -/
def allTags (home : String) : Procedure (List UInt32) := Procedure.send (.getStoreTags home)

def getFolderProperties (home : String) (codePage : UInt32) (folder : UInt64)
    (tags : List UInt32) : Procedure (List Propval) :=
  Procedure.send (.getFolderProperties home codePage folder tags)

/-- Tells which properties the server refused to write. -/
def setFolderProperties (home : String) (codePage : UInt32) (folder : UInt64)
    (propvals : List Propval) : Procedure (List Problem) :=
  Procedure.send (.setFolderProperties home codePage folder propvals)

/-- Has the server let go of what it holds for the store. -/
def unload (home : String) : Procedure Unit := Procedure.send (.unloadStore home)

end StoreRpc.Store
