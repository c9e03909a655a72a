import StoreRpc.CommandLine.Invocation
import StoreRpc.Store.DeviceSync
import StoreRpc.Store.Member
import StoreRpc.Store.Properties

/-!
Doing what a command line asks for, and what is printed about it.

Nothing is printed until all requests have been answered.
-/

namespace StoreRpc.CommandLine

/-- The fields of a line, a tab between them. -/
def columns (fields : List String) : String := "\t".intercalate fields

def folderLine (row : List Propval) : String := columns (row.map Propval.display)

def memberLine (m : Member) : String :=
  columns [toString m.id.toNat, m.name, "0x" ++ String.ofList (Hex.digits m.rights.toNat)]

def propertyLine (p : Propval) : String := columns [Tag.text p.tag, p.type.name, p.display]

/-- The lines that a command prints. -/
def Command.lines (home : String) : Command → Procedure (List String)
  | folders => do return (← Folder.list home Folder.columns).map folderLine
  | members folder => do return (Member.ofTable (← Member.list home folder)).map memberLine
  | storeProperties tags => do return (← Store.getProperties home 0 tags).map propertyLine
  | syncData folderName => do
    return (← DeviceSync.states home folderName).map fun (name, state) => columns [name, state]

namespace Invocation

/-- The client that an invocation asks for. -/
def config (i : Invocation) : Config :=
  (Config.new i.host i.port (i.store.getD i.home)).withPrivate (!i.isPublic)
    |>.withAutoReconnect i.autoReconnect
    |>.withTimeout i.timeout

/-- Connects and carries the command out. -/
def lines (i : Invocation) : ClientM (Except Error (List String)) := do
  match ← Client.reconnect with
  | .error why => return .error why
  | .ok () => (i.command.lines i.home).run

end Invocation

/-- What comes of a command line. -/
inductive Outcome
  | printed (lines : List String)
  | failed (why : Error)
  | stopped (why : Stop)

namespace Outcome

/-- What is printed. -/
def text : Outcome → String
  | printed lines => String.join (lines.map (· ++ "\n"))
  | _ => ""

/-- The status that the program ends with. -/
def status : Outcome → UInt32
  | printed _ => 0
  | failed _ => 1
  | stopped .inquiry => 0
  | stopped .misuse => 2

end Outcome

/-- Carries a command line out. -/
def perform (words : List String) : Dialogue Outcome :=
  match Invocation.ofWords words with
  | .error why => return .stopped why
  | .ok i => do
    let (outcome, _) ← i.lines.run ⟨i.config, none⟩
    return match outcome with
      | .ok lines => .printed lines
      | .error why => .failed why

end StoreRpc.CommandLine
