import StoreRpc.Store.Table

/-!
Who may use a folder.
-/

namespace StoreRpc

structure Member where
  id : UInt64
  name : String
  rights : UInt32
  deriving DecidableEq, Repr

namespace Member

/-- Every right on a folder. -/
def ownerRights : UInt32 := 0x07e3

/-- The columns that a member is read from. -/
def columns : List UInt32 := [Tag.memberId, Tag.memberName, Tag.memberRights]

def blank : Member := ⟨0, "", 0⟩

/-- The member after one more property. -/
def update (m : Member) (p : Propval) : Member :=
  if p.tag = Tag.memberId then { m with id := p.longLong?.getD 0 }
  else if p.tag = Tag.memberName then { m with name := p.text?.getD "" }
  else if p.tag = Tag.memberRights then { m with rights := p.long?.getD 0 }
  else m

/-- The member that a row describes. -/
def ofRow (row : List Propval) : Member := row.foldl update blank

/-- The members that a table lists. -/
def ofTable (t : Table) : List Member := t.map ofRow

/-! ### Procedures -/

/-- The members of a folder. -/
def list (home : String) (folder : UInt64) : Procedure Table := do
  let table ← Procedure.send (.loadPermissionTable home folder 0)
  Table.readAll home table columns

/-- Changes one row of a folder's permissions. -/
def change (home : String) (folder : UInt64) (flags : UInt8) (row : List (UInt32 × Payload)) :
    Procedure Unit := do
  let propvals := row.mapM fun (tag, v) => Propval.ofTag tag v
  let ps ← Procedure.ofExcept (propvals.mapError Error.value)
  Procedure.send (.updateFolderPermission home folder false [⟨flags, ps⟩])

/-- Adds a member, or changes the one with this id if it is not 0. -/
def put (home : String) (folder : UInt64) (user : String) (rights : UInt32) (id : UInt64) :
    Procedure Unit :=
  let row := [(Tag.smtpAddress, .string ⟨user, false⟩), (Tag.memberRights, .long rights)]
  if id = 0 then change home folder Permission.addRow row
  else change home folder Permission.modifyRow (row ++ [(Tag.memberId, .longLong id)])

def delete (home : String) (folder id : UInt64) : Procedure Unit :=
  change home folder Permission.removeRow [(Tag.memberId, .longLong id)]

end Member

end StoreRpc
