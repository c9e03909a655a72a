import StoreRpc.Store.Folder

/-!
The state that mobile devices keep in a store.

Each device has a folder below a common one, and in it a message with its state.
-/

namespace StoreRpc.DeviceSync

/-- What the message with a device's state is called. -/
def stateName : String := "devicedata"

/-- The state of each device by its name, in ascending order of the names. -/
abbrev States := List (String × String)

/-- Sets the state of one device. -/
def States.put (name state : String) : States → States
  | [] => [(name, state)]
  | (other, old) :: rest =>
    if name < other then (name, state) :: (other, old) :: rest
    else if name = other then (name, state) :: rest
    else (other, old) :: put name state rest

/-- The folder and the name of a device, if the row has just these. -/
def deviceOf? : List Propval → Option (UInt64 × String)
  | [id, name] =>
    if id.tag = Tag.folderId ∧ name.tag = Tag.displayName then do
      return (← id.longLong?, ← name.text?)
    else none
  | _ => none

/-- The message in the first row, if the row has just that. -/
def messageOf? : Table → Option UInt64
  | [id] :: _ => if id.tag = Tag.messageId then id.longLong? else none
  | _ => none

/-- The text of a message, if just that was found. -/
def bodyOf? : List Propval → Option String
  | [body] => if body.tag = Tag.body then body.text? else none
  | _ => none

/-- The restriction to messages that hold a device's state. -/
def stateFilter : Except ValueError Restriction :=
  (Propval.ofTag Tag.displayName (.string ⟨stateName, false⟩)).map (.comparing .eq 0)

/-- The state in a device's folder. -/
def stateIn (home : String) (folder : UInt64) : Procedure (Option String) := do
  let filter ← Procedure.ofExcept (stateFilter.mapError Error.value)
  let table ← Procedure.send (.loadContentTable home 0 folder "" Table.associated filter)
  let rows ← Table.readAll home table [Tag.messageId]
  match messageOf? rows with
  | none => return none
  | some message =>
    let found ← Procedure.send (.getMessageProperties home "" 0 message [Tag.body])
    return bodyOf? found

/-- Adds the states of the devices in these rows. -/
def collect (home : String) : Table → States → Procedure States
  | [], states => return states
  | row :: rest, states =>
    match deviceOf? row with
    | none => collect home rest states
    | some (folder, name) => do
      match ← stateIn home folder with
      | none => collect home rest states
      | some state => collect home rest (states.put name state)

/-- The state of every device below the folder of this name. Devices without a readable state are
left out. -/
def states (home folderName : String) : Procedure States := do
  let folder ←
    Procedure.send (.getFolderByName home (PublicFolder.id PublicFolder.root) folderName)
  let devices ← Table.subfolders home folder [Tag.folderId, Tag.displayName]
  collect home devices []

/-- Clears the folder of a device, so that it synchronizes anew. -/
def reset (home folderName device : String) : Procedure Unit := do
  let common ←
    Procedure.send (.getFolderByName home (PublicFolder.id PublicFolder.root) folderName)
  let folder ← Procedure.send (.getFolderByName home common device)
  let _ ← Procedure.send
    (.emptyFolder home 0 "" folder (Folder.deleteMessages ||| Folder.deleteFolders))

end StoreRpc.DeviceSync
