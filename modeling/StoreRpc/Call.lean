/-!
The calls that the server knows, by the byte each request begins with.
-/

namespace StoreRpc

inductive Call
  | connect
  | getNamedPropertyIds
  | getStoreTags
  | getStoreProperties
  | setStoreProperties
  | removeStoreProperties
  | queryFolderMessages
  | getFolderByName
  | createFolder
  | getFolderTags
  | getFolderProperties
  | setFolderProperties
  | deleteFolder
  | emptyFolder
  | deleteMessages
  | loadHierarchyTable
  | loadContentTable
  | loadPermissionTable
  | unloadTable
  | queryTable
  | loadMessageInstance
  | readMessageInstance
  | unloadInstance
  | getInstanceProperties
  | getInstanceRecipients
  | queryInstanceAttachments
  | getMessageProperties
  | allocateChangeNumber
  | updateFolderPermission
  | readMessage
  | unloadStore
  deriving DecidableEq, Repr

namespace Call

def id : Call → UInt8
  | connect => 0x00
  | getNamedPropertyIds => 0x04
  | getStoreTags => 0x08
  | getStoreProperties => 0x09
  | setStoreProperties => 0x0a
  | removeStoreProperties => 0x0b
  | queryFolderMessages => 0x11
  | getFolderByName => 0x13
  | createFolder => 0x15
  | getFolderTags => 0x16
  | getFolderProperties => 0x17
  | setFolderProperties => 0x18
  | deleteFolder => 0x1a
  | emptyFolder => 0x1b
  | deleteMessages => 0x23
  | loadHierarchyTable => 0x26
  | loadContentTable => 0x28
  | loadPermissionTable => 0x2b
  | unloadTable => 0x2d
  | queryTable => 0x2f
  | loadMessageInstance => 0x3b
  | readMessageInstance => 0x40
  | unloadInstance => 0x48
  | getInstanceProperties => 0x4a
  | getInstanceRecipients => 0x51
  | queryInstanceAttachments => 0x56
  | getMessageProperties => 0x59
  | allocateChangeNumber => 0x5e
  | updateFolderPermission => 0x6c
  | readMessage => 0x71
  | unloadStore => 0x80

/-- What the call is named in the log. -/
def name : Call → String
  | connect => "Connect"
  | getNamedPropertyIds => "GetNamedPropIds"
  | getStoreTags => "GetStoreAllProptags"
  | getStoreProperties => "GetStoreProperties"
  | setStoreProperties => "SetStoreProperties"
  | removeStoreProperties => "RemoveStoreProperties"
  | queryFolderMessages => "QueryFolderMessages"
  | getFolderByName => "GetFolderByName"
  | createFolder => "CreateFolderByProperties"
  | getFolderTags => "GetFolderAllProptags"
  | getFolderProperties => "GetFolderProperties"
  | setFolderProperties => "SetFolderProperties"
  | deleteFolder => "DeleteFolder"
  | emptyFolder => "EmptyFolder"
  | deleteMessages => "DeleteMessages"
  | loadHierarchyTable => "LoadHierarchyTable"
  | loadContentTable => "LoadContentTable"
  | loadPermissionTable => "LoadPermissionTable"
  | unloadTable => "UnloadTable"
  | queryTable => "QueryTable"
  | loadMessageInstance => "LoadMessageInstance"
  | readMessageInstance => "ReadMessageInstance"
  | unloadInstance => "UnloadInstance"
  | getInstanceProperties => "GetInstanceProperties"
  | getInstanceRecipients => "GetMessageInstanceRcpts"
  | queryInstanceAttachments => "QueryMessageInstanceAttachmentTable"
  | getMessageProperties => "GetMessageProperties"
  | allocateChangeNumber => "AllocateCn"
  | updateFolderPermission => "UpdateFolderPermission"
  | readMessage => "ReadMessage"
  | unloadStore => "UnloadStore"

end Call

end StoreRpc
