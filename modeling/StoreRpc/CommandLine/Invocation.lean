import StoreRpc.CommandLine.Grammar
import StoreRpc.Property.TagText

/-!
What a command line asks for.
-/

namespace StoreRpc.CommandLine

inductive Command
  | folders
  | members (folder : UInt64)
  | storeProperties (tags : List UInt32)
  | syncData (folderName : String)
  deriving DecidableEq, Repr

structure Invocation where
  host : String
  port : UInt16
  home : String
  /-- The store that the server serves, if it is not the home directory. -/
  store : Option String
  isPublic : Bool
  autoReconnect : Bool
  /-- Milliseconds to wait for a connection. -/
  timeout : UInt64
  command : Command
  deriving DecidableEq, Repr

/-! ### Numbers -/

/-- A number in decimal digits, of which there is at least one. -/
def decimal? (cs : List Char) : Option Nat :=
  if cs ≠ [] ∧ cs.all Char.isDigit then
    some (cs.foldl (fun n c => 10 * n + (c.toNat - '0'.toNat)) 0)
  else none

/-- A number behind an optional sign. -/
def integer? : List Char → Option Int
  | '-' :: cs => (decimal? cs).map fun n => -(n : Int)
  | '+' :: cs => (decimal? cs).map Int.ofNat
  | cs => (decimal? cs).map Int.ofNat

def port? (s : String) : Option UInt16 :=
  (integer? s.toList).bind fun n =>
    if 0 ≤ n ∧ n < UInt16.size then some (UInt16.ofNat n.toNat) else none

/-- A number of 64 bits, which may have a plus sign. -/
def wide? (s : String) : Option UInt64 :=
  let cs := s.toList
  (decimal? (if cs.head? = some '+' then cs.tail else cs)).bind fun n =>
    if n < UInt64.size then some (UInt64.ofNat n) else none

/-! ### Drafts -/

/-- What has been said so far. -/
structure Draft where
  host : Option String
  port : Option UInt16
  home : Option String
  store : Option String
  isPublic : Bool
  autoReconnect : Bool
  timeout : Option UInt64
  folder : Option UInt64
  tags : List UInt32
  folderName : Option String

namespace Draft

def empty : Draft := ⟨none, none, none, none, false, false, none, none, [], none⟩

/-- A value for what has none yet. -/
def once {α : Type} (old : Option α) (new : Option α) : Option α :=
  if old.isSome then none else new

def putHost (s : String) (d : Draft) : Option Draft :=
  (once d.host (some s)).map fun v => { d with host := some v }

def putPort (s : String) (d : Draft) : Option Draft :=
  (once d.port (port? s)).map fun v => { d with port := some v }

def putHome (s : String) (d : Draft) : Option Draft :=
  (once d.home (some s)).map fun v => { d with home := some v }

def putStore (s : String) (d : Draft) : Option Draft :=
  (once d.store (some s)).map fun v => { d with store := some v }

def putTimeout (s : String) (d : Draft) : Option Draft :=
  (once d.timeout (wide? s)).map fun v => { d with timeout := some v }

def putFolder (s : String) (d : Draft) : Option Draft :=
  (once d.folder (wide? s)).map fun v => { d with folder := some v }

def putFolderName (s : String) (d : Draft) : Option Draft :=
  (once d.folderName (some s)).map fun v => { d with folderName := some v }

def putTag (s : String) (d : Draft) : Option Draft :=
  (Tag.parse s).toOption.map fun v => { d with tags := v :: d.tags }

def putPublic (d : Draft) : Option Draft :=
  if d.isPublic then none else some { d with isPublic := true }

def putAutoReconnect (d : Draft) : Option Draft :=
  if d.autoReconnect then none else some { d with autoReconnect := true }

/-- What the draft says with this command. -/
def invocation? (d : Draft) (command : Command) : Option Invocation :=
  d.home.map fun home =>
    { host := d.host.getD "localhost"
      port := d.port.getD 5000
      home
      store := d.store
      isPublic := d.isPublic
      autoReconnect := d.autoReconnect
      timeout := d.timeout.getD 3000
      command }

end Draft

/-! ### Commands -/

/-- The names of the commands. -/
inductive Verb
  | folders | members | storeProps | syncData
  deriving DecidableEq, Repr

namespace Verb

def every : List Verb := [folders, members, storeProps, syncData]

def name : Verb → String
  | folders => "folders"
  | members => "members"
  | storeProps => "store-props"
  | syncData => "sync-data"

def ofName? (s : String) : Option Verb := every.find? (·.name = s)

/-- The plain words after the name. -/
def place : Verb → Nat → String → Draft → Option Draft
  | members, 0 => Draft.putFolder
  | storeProps, _ => Draft.putTag
  | syncData, 0 => Draft.putFolderName
  | _, _ => fun _ _ => none

/-- The words after the name. -/
def grammar (v : Verb) : Grammar Draft where
  options := []
  switches := []
  inquiries := [("help", 'h')]
  place := v.place
  commands := []

/-- The command, if all it needs has been said. -/
def command? (v : Verb) (d : Draft) : Option Command :=
  match v with
  | folders => some .folders
  | members => d.folder.map .members
  | storeProps => if d.tags = [] then none else some (.storeProperties d.tags.reverse)
  | syncData => some (.syncData (d.folderName.getD "GS-SyncState"))

end Verb

/-- The name of the command that tells about the others. -/
def help : String := "help"

/-- What may be asked for help about, by the words after `help`. -/
def isTopic : List String → Bool
  | [] => true
  | [s] => s == help || (Verb.ofName? s).isSome
  | _ => false

/-- The words before the name of a command. -/
def grammar : Grammar Draft where
  options := [("host", Draft.putHost), ("port", Draft.putPort), ("prefix", Draft.putStore),
    ("timeout", Draft.putTimeout)]
  switches := [("public", Draft.putPublic), ("auto-reconnect", Draft.putAutoReconnect)]
  inquiries := [("help", 'h'), ("version", 'V')]
  place n := if n = 0 then Draft.putHome else fun _ _ => none
  commands := help :: Verb.every.map Verb.name

/-- The words after the name of a command. What was held before it is set after them. -/
def readCommand (v : Verb) (p : Progress Draft) (rest : List String) :
    Except Stop Invocation := do
  match ← v.grammar.scan rest (.start p.draft) with
  | .command .. => throw .misuse
  | .complete draft =>
    let p ← Progress.settle { p with draft }
    match (v.command? p.draft).bind p.draft.invocation? with
    | some i => return i
    | none => throw .misuse

/-- What the words of a command line ask for. -/
def Invocation.ofWords (words : List String) : Except Stop Invocation := do
  match ← grammar.scan words (.start .empty) with
  | .complete _ => throw .misuse
  | .command p name rest =>
    if name = help then throw (if isTopic rest then .inquiry else .misuse)
    else match Verb.ofName? name with
      | some v => readCommand v p rest
      | none => throw .misuse

/-- What may be said on a command line. -/
def usage : List String :=
  ["Usage: storerpc [OPTIONS] <HOMEDIR> <COMMAND>",
    "",
    "Commands:",
    "  folders                  List public folders",
    "  members <FOLDER_ID>      List the members of a folder",
    "  store-props <TAGS>...    Print store properties, given as hexadecimal tags",
    "  sync-data [FOLDER_NAME]  Print the sync state of every device",
    "  help [COMMAND]           Print this message",
    "",
    "Options:",
    "  --host <HOST>            Server host name or address [default: localhost]",
    "  --port <PORT>            Server port [default: 5000]",
    "  --prefix <PREFIX>        Prefix served by the server [default: the home directory]",
    "  --public                 Connect to a public store",
    "  --auto-reconnect         Reconnect after dispatch errors",
    "  --timeout <TIMEOUT>      Connect timeout in milliseconds [default: 3000]",
    "  -h, --help               Print this message",
    "  -V, --version            Print this message"]

end StoreRpc.CommandLine
