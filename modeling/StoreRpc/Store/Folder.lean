import StoreRpc.Store.Table
import StoreRpc.Guid.Xid
import StoreRpc.Text.Quoted

/-!
The folders of a public store.
-/

namespace StoreRpc

structure Folder where
  id : UInt64
  displayName : String
  comment : String
  creationTime : UInt64
  container : String
  deriving DecidableEq, Repr

namespace Folder

/-- The columns that a folder is read from. -/
def columns : List UInt32 :=
  [Tag.folderId, Tag.displayName, Tag.comment, Tag.creationTime, Tag.containerClass]

def blank : Folder := ⟨0, "", "", 0, ""⟩

/-- The folder after one more property. -/
def update (f : Folder) (p : Propval) : Folder :=
  if p.tag = Tag.folderId then { f with id := p.longLong?.getD 0 }
  else if p.tag = Tag.displayName then { f with displayName := p.text?.getD "" }
  else if p.tag = Tag.comment then { f with comment := p.text?.getD "" }
  else if p.tag = Tag.creationTime then { f with creationTime := p.longLong?.getD 0 }
  else if p.tag = Tag.containerClass then { f with container := p.text?.getD "" }
  else f

/-- The folder that a row describes. -/
def ofRow (row : List Propval) : Folder := row.foldl update blank

/-- The folders that a table lists. -/
def ofTable (t : Table) : List Folder := t.map ofRow

/-! ### Kinds of folders, and what is removed from one -/

def rootType : UInt32 := 0
def genericType : UInt32 := 1
def searchType : UInt32 := 2

def deleteMessages : UInt32 := 0x01
def deleteFolders : UInt32 := 0x04
def deleteAssociated : UInt32 := 0x08
def deleteHard : UInt32 := 0x10
def deleteAll : UInt32 := deleteMessages ||| deleteFolders ||| deleteAssociated ||| deleteHard

/-! ### Procedures -/

/-- The public folders directly below the tree that users see. -/
def list (home : String) (columns : List UInt32) : Procedure Table :=
  Table.subfolders home (PublicFolder.id PublicFolder.ipmSubtree) columns

/-- The change of a domain's object that carries this number. -/
def changeOf (domain : UInt32) (number : UInt64) : Xid :=
  ⟨22, Guid.ofDomain domain, Counter.ofValue number⟩

/-- The bytes of an encoding, as a binary value. -/
def binaryOf (e : Encoding) : Except Error Payload :=
  (e.result.mapError Error.encode).map fun bs => .binary ⟨bs, true⟩

def textOf (s : String) : Payload := .string ⟨s, false⟩

/-- A property of a new folder. -/
def property (tag : UInt32) (v : Payload) : Except Error Propval :=
  (Propval.ofTag tag v).mapError Error.value

/-- The properties of a new folder below the tree that users see. -/
def properties (domain : UInt32) (name container comment : String) (number now : UInt64) :
    Except Error (List Propval) := do
  let change := changeOf domain number
  let key ← binaryOf change.encodeBare
  let predecessors ← binaryOf change.encode
  let common ← [
    (Tag.parentFolderId, .longLong (PublicFolder.id PublicFolder.ipmSubtree)),
    (Tag.folderType, .long genericType),
    (Tag.displayName, textOf name),
    (Tag.comment, textOf comment),
    (Tag.creationTime, .longLong now),
    (Tag.lastModificationTime, .longLong now),
    (Tag.changeNumber, .longLong number),
    (Tag.changeKey, key),
    (Tag.predecessorChangeList, predecessors)].mapM fun (tag, v) => property tag v
  let extra ← if container = "" then pure []
    else (fun p => [p]) <$> property Tag.containerClass (textOf container)
  return common ++ extra

/-- Creates a public folder and tells its id. -/
def create (home : String) (domain : UInt32) (name container comment : String) :
    Procedure UInt64 := do
  let number ← Procedure.send (.allocateChangeNumber home)
  let now ← Procedure.now
  let ps ← Procedure.ofExcept (properties domain name container comment number now)
  let folder ← Procedure.send (.createFolder home 0 ps)
  let shown := String.ofList (Hex.digits folder.toNat)
  Procedure.log .debug ("Created folder " ++ Text.quoted name ++ " with id 0x" ++ shown)
  return folder

/-- Deletes a folder for good. Tells whether the server did. -/
def delete (home : String) (folder : UInt64) : Procedure Bool :=
  Procedure.send (.deleteFolder home 0 folder true)

end Folder

end StoreRpc
