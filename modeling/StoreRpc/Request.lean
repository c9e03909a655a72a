import StoreRpc.Call
import StoreRpc.Reply
import StoreRpc.Restriction
import StoreRpc.Property.Name
import StoreRpc.Property.Permission

/-!
Requests: a call with its arguments.

Every request but `connect` begins with the home directory of the store that it is about.
-/

namespace StoreRpc

inductive Request
  /-- Binds a new connection to a store, before any other request. -/
  | connect (store session : String) (isPrivate : Bool)
  | getNamedPropertyIds (home : String) (create : Bool) (names : List PropertyName)
  | getStoreTags (home : String)
  | getStoreProperties (home : String) (codePage : UInt32) (tags : List UInt32)
  | setStoreProperties (home : String) (codePage : UInt32) (propvals : List Propval)
  | removeStoreProperties (home : String) (tags : List UInt32)
  | queryFolderMessages (home : String) (folder : UInt64)
  | getFolderByName (home : String) (parent : UInt64) (name : String)
  | createFolder (home : String) (codePage : UInt32) (propvals : List Propval)
  | getFolderTags (home : String) (folder : UInt64)
  | getFolderProperties (home : String) (codePage : UInt32) (folder : UInt64)
    (tags : List UInt32)
  | setFolderProperties (home : String) (codePage : UInt32) (folder : UInt64)
    (propvals : List Propval)
  | deleteFolder (home : String) (codePage : UInt32) (folder : UInt64) (hard : Bool)
  | emptyFolder (home : String) (codePage : UInt32) (user : String) (folder : UInt64)
    (flags : UInt32)
  | deleteMessages (home : String) (account codePage : UInt32) (user : String)
    (folder : UInt64) (messages : List UInt64) (hard : Bool)
  | loadHierarchyTable (home : String) (folder : UInt64) (user : String) (flags : UInt8)
    (filter : Restriction)
  | loadContentTable (home : String) (codePage : UInt32) (folder : UInt64) (user : String)
    (flags : UInt8) (filter : Restriction)
  | loadPermissionTable (home : String) (folder : UInt64) (flags : UInt32)
  | unloadTable (home : String) (table : UInt32)
  | queryTable (home user : String) (codePage table : UInt32) (tags : List UInt32)
    (start count : UInt32)
  | loadMessageInstance (home user : String) (codePage : UInt32) (isNew : Bool)
    (folder message : UInt64)
  | readMessageInstance (home : String) (inst : UInt32)
  | unloadInstance (home : String) (inst : UInt32)
  | getInstanceProperties (home : String) (sizeLimit inst : UInt32) (tags : List UInt32)
  | getInstanceRecipients (home : String) (inst row : UInt32) (needed : UInt16)
  | queryInstanceAttachments (home : String) (inst : UInt32) (tags : List UInt32)
    (start count : UInt32)
  | getMessageProperties (home user : String) (codePage : UInt32) (message : UInt64)
    (tags : List UInt32)
  | allocateChangeNumber (home : String)
  | updateFolderPermission (home : String) (folder : UInt64) (freeBusy : Bool)
    (permissions : List Permission)
  | readMessage (home user : String) (codePage : UInt32) (message : UInt64)
  | unloadStore (home : String)

namespace Request

def call : Request → Call
  | connect .. => .connect
  | getNamedPropertyIds .. => .getNamedPropertyIds
  | getStoreTags .. => .getStoreTags
  | getStoreProperties .. => .getStoreProperties
  | setStoreProperties .. => .setStoreProperties
  | removeStoreProperties .. => .removeStoreProperties
  | queryFolderMessages .. => .queryFolderMessages
  | getFolderByName .. => .getFolderByName
  | createFolder .. => .createFolder
  | getFolderTags .. => .getFolderTags
  | getFolderProperties .. => .getFolderProperties
  | setFolderProperties .. => .setFolderProperties
  | deleteFolder .. => .deleteFolder
  | emptyFolder .. => .emptyFolder
  | deleteMessages .. => .deleteMessages
  | loadHierarchyTable .. => .loadHierarchyTable
  | loadContentTable .. => .loadContentTable
  | loadPermissionTable .. => .loadPermissionTable
  | unloadTable .. => .unloadTable
  | queryTable .. => .queryTable
  | loadMessageInstance .. => .loadMessageInstance
  | readMessageInstance .. => .readMessageInstance
  | unloadInstance .. => .unloadInstance
  | getInstanceProperties .. => .getInstanceProperties
  | getInstanceRecipients .. => .getInstanceRecipients
  | queryInstanceAttachments .. => .queryInstanceAttachments
  | getMessageProperties .. => .getMessageProperties
  | allocateChangeNumber .. => .allocateChangeNumber
  | updateFolderPermission .. => .updateFolderPermission
  | readMessage .. => .readMessage
  | unloadStore .. => .unloadStore

/-- The kind of reply to a request. -/
@[reducible] def reply : Request → Reply
  | connect .. => .nothing
  | getNamedPropertyIds .. => .propertyIds
  | getStoreTags .. => .tags
  | getStoreProperties .. => .propvals
  | setStoreProperties .. => .problems
  | removeStoreProperties .. => .nothing
  | queryFolderMessages .. => .table
  | getFolderByName .. => .folder
  | createFolder .. => .folder
  | getFolderTags .. => .tags
  | getFolderProperties .. => .propvals
  | setFolderProperties .. => .problems
  | deleteFolder .. => .success
  | emptyFolder .. => .partly
  | deleteMessages .. => .partly
  | loadHierarchyTable .. => .loadedTable
  | loadContentTable .. => .loadedTable
  | loadPermissionTable .. => .loadedTable
  | unloadTable .. => .nothing
  | queryTable .. => .table
  | loadMessageInstance .. => .opened
  | readMessageInstance .. => .content
  | unloadInstance .. => .nothing
  | getInstanceProperties .. => .propvals
  | getInstanceRecipients .. => .table
  | queryInstanceAttachments .. => .table
  | getMessageProperties .. => .propvals
  | allocateChangeNumber .. => .changeNumber
  | updateFolderPermission .. => .nothing
  | readMessage .. => .contentIfAny
  | unloadStore .. => .nothing

/-- The arguments, in the order of the wire. -/
def encodeArguments : Request → Encoding
  | connect store session isPrivate => .text store ++ .text session ++ .flag isPrivate
  | getNamedPropertyIds home create names =>
    .text home ++ .flag create ++ .list16 PropertyName.encode names
  | getStoreTags home => .text home
  | getStoreProperties home codePage tags => .text home ++ .u32 codePage ++ .list16 .u32 tags
  | setStoreProperties home codePage propvals =>
    .text home ++ .u32 codePage ++ .list16 Propval.encode propvals
  | removeStoreProperties home tags => .text home ++ .list16 .u32 tags
  | queryFolderMessages home folder => .text home ++ .u64 folder
  | getFolderByName home parent name => .text home ++ .u64 parent ++ .text name
  | createFolder home codePage propvals =>
    .text home ++ .u32 codePage ++ .list16 Propval.encode propvals
  | getFolderTags home folder => .text home ++ .u64 folder
  | getFolderProperties home codePage folder tags =>
    .text home ++ .u32 codePage ++ .u64 folder ++ .list16 .u32 tags
  | setFolderProperties home codePage folder propvals =>
    .text home ++ .u32 codePage ++ .u64 folder ++ .list16 Propval.encode propvals
  | deleteFolder home codePage folder hard =>
    .text home ++ .u32 codePage ++ .u64 folder ++ .flag hard
  | emptyFolder home codePage user folder flags =>
    .text home ++ .u32 codePage ++ .text user ++ .u64 folder ++ .u32 flags
  | deleteMessages home account codePage user folder messages hard =>
    .text home ++ .u32 account ++ .u32 codePage ++ .text user ++ .u64 folder
      ++ .list32 .u64 messages ++ .flag hard
  | loadHierarchyTable home folder user flags filter =>
    .text home ++ .u64 folder ++ .text user ++ .u8 flags ++ filter.encodeOptional
  | loadContentTable home codePage folder user flags filter =>
    -- the closing byte says that no order is asked for
    .text home ++ .u32 codePage ++ .u64 folder ++ .text user ++ .u8 flags
      ++ filter.encodeOptional ++ .u8 0
  | loadPermissionTable home folder flags => .text home ++ .u64 folder ++ .u32 flags
  | unloadTable home table => .text home ++ .u32 table
  | queryTable home user codePage table tags start count =>
    .text home ++ .text user ++ .u32 codePage ++ .u32 table ++ .list16 .u32 tags
      ++ .u32 start ++ .u32 count
  | loadMessageInstance home user codePage isNew folder message =>
    .text home ++ .text user ++ .u32 codePage ++ .flag isNew ++ .u64 folder ++ .u64 message
  | readMessageInstance home inst => .text home ++ .u32 inst
  | unloadInstance home inst => .text home ++ .u32 inst
  | getInstanceProperties home sizeLimit inst tags =>
    .text home ++ .u32 sizeLimit ++ .u32 inst ++ .list16 .u32 tags
  | getInstanceRecipients home inst row needed =>
    .text home ++ .u32 inst ++ .u32 row ++ .u16 needed
  | queryInstanceAttachments home inst tags start count =>
    .text home ++ .u32 inst ++ .list16 .u32 tags ++ .u32 start ++ .u32 count
  | getMessageProperties home user codePage message tags =>
    .text home ++ .text user ++ .u32 codePage ++ .u64 message ++ .list16 .u32 tags
  | allocateChangeNumber home => .text home
  | updateFolderPermission home folder freeBusy permissions =>
    .text home ++ .u64 folder ++ .flag freeBusy ++ .list16 Permission.encode permissions
  | readMessage home user codePage message =>
    .text home ++ .text user ++ .u32 codePage ++ .u64 message
  | unloadStore home => .text home

/-- The payload of a request: the call and its arguments. -/
def encode (r : Request) : Encoding := .u8 r.call.id ++ r.encodeArguments

end Request

end StoreRpc
