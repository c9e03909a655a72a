import StoreRpc.Proofs.Wire.Exact
import StoreRpc.Request

/-!
The signatures of the calls.

A request is a call with arguments of certain sorts. What holds of arguments of every sort, and
passes from arguments to rows of them, holds of every request, whichever call it makes.
-/

namespace StoreRpc

/-- What an argument may be. -/
inductive Argument
  | byte | short | long | longLong | flag | text
  /-- Tags of properties. -/
  | tags
  /-- Ids of messages. -/
  | messages
  | names | propvals | permissions | filter

namespace Argument

@[reducible] def Value : Argument → Type
  | byte => UInt8
  | short => UInt16
  | long => UInt32
  | longLong => UInt64
  | flag => Bool
  | text => String
  | tags => List UInt32
  | messages => List UInt64
  | names => List PropertyName
  | propvals => List Propval
  | permissions => List Permission
  | filter => Restriction

def encode : (s : Argument) → s.Value → Encoding
  | byte => .u8
  | short => .u16
  | long => .u32
  | longLong => .u64
  | flag => .flag
  | text => .text
  | tags => .list16 .u32
  | messages => .list32 .u64
  | names => .list16 PropertyName.encode
  | propvals => .list16 Propval.encode
  | permissions => .list16 Permission.encode
  | filter => Restriction.encodeOptional

end Argument

/-- Arguments of these sorts. -/
@[reducible] def Arguments : List Argument → Type
  | [] => Unit
  | s :: sorts => s.Value × Arguments sorts

namespace Arguments

def encode : (sorts : List Argument) → Arguments sorts → Encoding
  | [], _ => .empty
  | s :: sorts, (v, more) => s.encode v ++ encode sorts more

/-- All arguments are such. -/
def All (P : (s : Argument) → s.Value → Prop) : (sorts : List Argument) → Arguments sorts → Prop
  | [], _ => True
  | s :: sorts, (v, more) => P s v ∧ All P sorts more

def map (f : (s : Argument) → s.Value → s.Value) :
    (sorts : List Argument) → Arguments sorts → Arguments sorts
  | [], _ => ()
  | s :: sorts, (v, more) => (f s v, map f sorts more)

/-- What is found in the arguments, in their order. -/
def collect {α : Type} (f : (s : Argument) → s.Value → List α) :
    (sorts : List Argument) → Arguments sorts → List α
  | [], _ => []
  | s :: sorts, (v, more) => f s v ++ collect f sorts more

lemma All.and {P Q : (s : Argument) → s.Value → Prop} {sorts : List Argument}
    {args : Arguments sorts} (hP : All P sorts args) (hQ : All Q sorts args) :
    All (fun s v => P s v ∧ Q s v) sorts args := by
  induction sorts with
  | nil => trivial
  | cons s sorts ih => exact ⟨⟨hP.1, hQ.1⟩, ih hP.2 hQ.2⟩

end Arguments

/-- What makes a request of arguments of these sorts. -/
@[reducible] def Maker : List Argument → Type
  | [] => Request
  | s :: sorts => s.Value → Maker sorts

def Maker.apply : (sorts : List Argument) → Maker sorts → Arguments sorts → Request
  | [], r, _ => r
  | _ :: sorts, make, (v, more) => apply sorts (make v) more

/-- The sorts of a call's arguments, and the request that is made of them. -/
structure Signature where
  sorts : List Argument
  make : Maker sorts

open Argument in
def Call.signature : Call → Signature
  | connect => ⟨[text, text, flag], Request.connect⟩
  | getNamedPropertyIds => ⟨[text, flag, names], Request.getNamedPropertyIds⟩
  | getStoreTags => ⟨[text], Request.getStoreTags⟩
  | getStoreProperties => ⟨[text, long, tags], Request.getStoreProperties⟩
  | setStoreProperties => ⟨[text, long, propvals], Request.setStoreProperties⟩
  | removeStoreProperties => ⟨[text, tags], Request.removeStoreProperties⟩
  | queryFolderMessages => ⟨[text, longLong], Request.queryFolderMessages⟩
  | getFolderByName => ⟨[text, longLong, text], Request.getFolderByName⟩
  | createFolder => ⟨[text, long, propvals], Request.createFolder⟩
  | getFolderTags => ⟨[text, longLong], Request.getFolderTags⟩
  | getFolderProperties => ⟨[text, long, longLong, tags], Request.getFolderProperties⟩
  | setFolderProperties => ⟨[text, long, longLong, propvals], Request.setFolderProperties⟩
  | deleteFolder => ⟨[text, long, longLong, flag], Request.deleteFolder⟩
  | emptyFolder => ⟨[text, long, text, longLong, long], Request.emptyFolder⟩
  | deleteMessages => ⟨[text, long, long, text, longLong, messages, flag], Request.deleteMessages⟩
  | loadHierarchyTable => ⟨[text, longLong, text, byte, filter], Request.loadHierarchyTable⟩
  | loadContentTable =>
    -- the closing byte is no argument
    ⟨[text, long, longLong, text, byte, filter, byte],
      fun home codePage folder user flags filter _ =>
        .loadContentTable home codePage folder user flags filter⟩
  | loadPermissionTable => ⟨[text, longLong, long], Request.loadPermissionTable⟩
  | unloadTable => ⟨[text, long], Request.unloadTable⟩
  | queryTable => ⟨[text, text, long, long, tags, long, long], Request.queryTable⟩
  | loadMessageInstance =>
    ⟨[text, text, long, flag, longLong, longLong], Request.loadMessageInstance⟩
  | readMessageInstance => ⟨[text, long], Request.readMessageInstance⟩
  | unloadInstance => ⟨[text, long], Request.unloadInstance⟩
  | getInstanceProperties => ⟨[text, long, long, tags], Request.getInstanceProperties⟩
  | getInstanceRecipients => ⟨[text, long, long, short], Request.getInstanceRecipients⟩
  | queryInstanceAttachments => ⟨[text, long, tags, long, long], Request.queryInstanceAttachments⟩
  | getMessageProperties => ⟨[text, text, long, longLong, tags], Request.getMessageProperties⟩
  | allocateChangeNumber => ⟨[text], Request.allocateChangeNumber⟩
  | updateFolderPermission => ⟨[text, longLong, flag, permissions], Request.updateFolderPermission⟩
  | readMessage => ⟨[text, text, long, longLong], Request.readMessage⟩
  | unloadStore => ⟨[text], Request.unloadStore⟩

namespace Request

/-- The arguments, in the order of the wire. -/
def arguments : (r : Request) → Arguments r.call.signature.sorts
  | connect a b c => (a, b, c, ())
  | getNamedPropertyIds a b c => (a, b, c, ())
  | getStoreTags a => (a, ())
  | getStoreProperties a b c => (a, b, c, ())
  | setStoreProperties a b c => (a, b, c, ())
  | removeStoreProperties a b => (a, b, ())
  | queryFolderMessages a b => (a, b, ())
  | getFolderByName a b c => (a, b, c, ())
  | createFolder a b c => (a, b, c, ())
  | getFolderTags a b => (a, b, ())
  | getFolderProperties a b c d => (a, b, c, d, ())
  | setFolderProperties a b c d => (a, b, c, d, ())
  | deleteFolder a b c d => (a, b, c, d, ())
  | emptyFolder a b c d e => (a, b, c, d, e, ())
  | deleteMessages a b c d e f g => (a, b, c, d, e, f, g, ())
  | loadHierarchyTable a b c d e => (a, b, c, d, e, ())
  | loadContentTable a b c d e f => (a, b, c, d, e, f, 0, ())
  | loadPermissionTable a b c => (a, b, c, ())
  | unloadTable a b => (a, b, ())
  | queryTable a b c d e f g => (a, b, c, d, e, f, g, ())
  | loadMessageInstance a b c d e f => (a, b, c, d, e, f, ())
  | readMessageInstance a b => (a, b, ())
  | unloadInstance a b => (a, b, ())
  | getInstanceProperties a b c d => (a, b, c, d, ())
  | getInstanceRecipients a b c d => (a, b, c, d, ())
  | queryInstanceAttachments a b c d e => (a, b, c, d, e, ())
  | getMessageProperties a b c d e => (a, b, c, d, e, ())
  | allocateChangeNumber a => (a, ())
  | updateFolderPermission a b c d => (a, b, c, d, ())
  | readMessage a b c d => (a, b, c, d, ())
  | unloadStore a => (a, ())

/-- The arguments are written one after another. -/
theorem encodeArguments_eq (r : Request) :
    r.encodeArguments = Arguments.encode r.call.signature.sorts r.arguments := by
  cases r <;>
    simp [encodeArguments, Arguments.encode, Argument.encode, arguments, call, Call.signature,
      Encoding.append_assoc]

end Request

end StoreRpc
