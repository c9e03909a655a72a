import StoreRpc.CommandLine.Report
import Std.Async.TCP
import Std.Async.DNS
import Std.Async.Timer
import Std.Time

/-!
The program: carries a command line out over TCP.

All addresses of a host are tried in turn, and the last failure counts. Nothing is logged.
-/

namespace StoreRpc.Main

open Std Async Net

/-- A connection, and what has come over it and was not asked for yet. -/
structure Peer where
  socket : TCP.Socket.Client
  ahead : List UInt8

abbrev Session := StateT (Array Peer) IO

def kindOf : IO.Error → IoKind
  | .unexpectedEof => .unexpectedEof
  | .interrupted .. => .interrupted
  | .timeExpired .. => .timedOut
  | .permissionDenied .. => .permissionDenied
  | .invalidArgument .. => .invalidInput
  | .noFileOrDirectory .. => .notFound
  | .noSuchThing .. => .notFound
  | .resourceVanished .. => .brokenPipe
  | _ => .other

def attempt {α : Type} (action : IO α) : IO (Except IoFault α) := do
  try return .ok (← action)
  catch e => return .error (.system (kindOf e) (toString e))

/-! ### Connecting -/

def socketAddress (port : UInt16) : IPAddr → SocketAddress
  | .v4 addr => .v4 ⟨addr, port⟩
  | .v6 addr => .v6 ⟨addr, port⟩

/-- Connects within so many milliseconds. -/
def connectWithin (timeout : UInt64) (address : SocketAddress) : IO TCP.Socket.Client := do
  let socket ← TCP.Socket.Client.mk
  let limit := Time.Millisecond.Offset.ofNat timeout.toNat
  let inTime ← (Async.race (do socket.connect address; return true)
    (do sleep limit; return false)).block
  if inTime then return socket
  throw (.timeExpired 0 "connection timed out")

/-- Tries the addresses in turn. -/
def connectAny (timeout : UInt64) (port : UInt16) (last : Option IoFault) :
    List IPAddr → IO (Except (Option IoFault) TCP.Socket.Client)
  | [] => return .error last
  | address :: rest => do
    match ← attempt (connectWithin timeout (socketAddress port address)) with
    | .ok socket => return .ok socket
    | .error fault => connectAny timeout port (some fault) rest

def connect (e : Endpoint) : IO (Except ConnectionError TCP.Socket.Client) := do
  match ← attempt (DNS.getAddrInfo e.host "").block with
  | .error fault => return .error (.resolve e.address fault)
  | .ok addresses =>
    match ← connectAny e.timeout e.port none addresses.toList with
    | .ok socket => return .ok socket
    | .error (some fault) => return .error (.connect e.address fault)
    | .error none => return .error (.noAddress e.address)

/-! ### Reading -/

/-- Collects until there are `count` bytes: pieces that came, the last of them first, and whether
they are enough or what failed. -/
partial def collect (socket : TCP.Socket.Client) (count : Nat) (pieces : List (List UInt8)) :
    IO (List (List UInt8) × Except IoFault Bool) := do
  if count = 0 then return (pieces, .ok true)
  match ← attempt (socket.recv? 65536).block with
  | .error fault => return (pieces, .error fault)
  | .ok none => return (pieces, .ok false)
  | .ok (some piece) => collect socket (count - piece.size) (piece.toList :: pieces)

/-- Reads exactly so many bytes, and what came after them. -/
def receive (p : Peer) (count : Nat) :
    IO (Except (List UInt8 × IoFault) (List UInt8 × List UInt8)) := do
  let (pieces, outcome) ← collect p.socket (count - p.ahead.length) [p.ahead]
  let bytes := pieces.reverse.flatten
  return match outcome with
    | .ok true => .ok (bytes.take count, bytes.drop count)
    | .ok false => .error (bytes, .short count bytes.length)
    | .error fault => .error (bytes, fault)

/-! ### The session -/

/-- What a session id is made of. -/
def sessionChars : String := "0123456789abcdefghjklmnopqrstvwxyzABCDEFGHIJKLMNOPQRSTUVWXYZ"

def sessionLength : Nat := 15

def randomSession : IO String := do
  let cs := sessionChars.toList
  let picks ← (List.range sessionLength).mapM fun _ => do
    return cs.getD (← IO.rand 0 (cs.length - 1)) '0'
  return String.ofList picks

/-- Carries one operation out. -/
def answer : (op : Network.Op) → Session op.Answer
  | .connect e => do
    match ← connect e with
    | .error why => return .error why
    | .ok socket => modifyGet fun peers => (.ok peers.size, peers.push ⟨socket, []⟩)
  | .deliver link bytes => do
    match (← get)[link]? with
    | none => return .error (.ofKind .notConnected)
    | some p => attempt (p.socket.send ⟨bytes.toArray⟩).block
  | .flush _ => return .ok ()
  | .receive link count => do
    match (← get)[link]? with
    | none => return .error ([], .ofKind .notConnected)
    | some p =>
      match ← receive p count with
      | .error failure => return .error failure
      | .ok (bytes, ahead) =>
        modify fun peers => peers.setIfInBounds link { p with ahead }
        return .ok bytes
  | .log _ => return ()
  | .session => randomSession
  | .now => do return Int64.ofInt (← Time.Timestamp.now).toSecondsSinceUnixEpoch.val

/-- Carries a command line out, prints what it says and tells the status to end with. -/
def run (words : List String) : IO UInt32 := do
  let (outcome, _) ← (Program.run answer (CommandLine.perform words)).run #[]
  match outcome with
  | .printed _ => IO.print outcome.text
  | .failed why => IO.eprintln ("Error: " ++ why.message)
  | .stopped .inquiry => CommandLine.usage.forM fun line => IO.println line
  | .stopped .misuse => CommandLine.usage.forM fun line => IO.eprintln line
  return outcome.status

end StoreRpc.Main

def main (words : List String) : IO UInt32 := StoreRpc.Main.run words
