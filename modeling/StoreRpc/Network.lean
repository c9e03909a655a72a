import StoreRpc.Program
import StoreRpc.Stream
import StoreRpc.Error

/-!
The outside world of a client.

`Network.Op` is all that a client asks of it. A `Network` is a world that is known in advance: a
script for each attempt to connect, and a record of what was done.
-/

namespace StoreRpc

/-- How much a line of the log matters. -/
inductive LogLevel
  | trace | debug | info | warn
  deriving DecidableEq, Repr

def LogLevel.name : LogLevel → String
  | trace => "TRACE"
  | debug => "DEBUG"
  | info => "INFO"
  | warn => "WARN"

structure LogLine where
  level : LogLevel
  text : String
  deriving DecidableEq, Repr

/-- A connection, by how many were made before it. -/
abbrev Link := Nat

/-- Where to connect. -/
structure Endpoint where
  host : String
  port : UInt16
  /-- Milliseconds to wait for the connection. -/
  timeout : UInt64
  deriving DecidableEq, Repr

def Endpoint.address (e : Endpoint) : String := e.host ++ ":" ++ toString e.port.toNat

namespace Network

inductive Op
  | connect (endpoint : Endpoint)
  /-- Write all the bytes. -/
  | deliver (link : Link) (bytes : List UInt8)
  | flush (link : Link)
  /-- Read exactly so many bytes. A failure tells those that came before it. -/
  | receive (link : Link) (count : Nat)
  | log (line : LogLine)
  /-- A fresh session id. -/
  | session
  /-- Seconds since 1970. -/
  | now

@[reducible] def Op.Answer : Op → Type
  | .connect _ => Except ConnectionError Link
  | .deliver _ _ => Except IoFault Unit
  | .flush _ => Except IoFault Unit
  | .receive _ _ => Except (List UInt8 × IoFault) (List UInt8)
  | .log _ => Unit
  | .session => String
  | .now => Int64

end Network

/-- What a client does, as questions to the network. -/
abbrev Dialogue := Program Network.Op Network.Op.Answer

namespace Dialogue

def perform (op : Network.Op) : Dialogue op.Answer := Program.perform op

def log (level : LogLevel) (text : String) : Dialogue Unit := perform (.log ⟨level, text⟩)

end Dialogue

/-- What an attempt to connect will come to. -/
inductive Attempt
  | stream (s : Stream)
  | resolveFault (source : IoFault)
  | noAddress
  | connectFault (source : IoFault)
  | closed

structure Network where
  /-- The attempts to come. -/
  script : List Attempt
  /-- What attempts after these come to. -/
  beyond : IoFault
  session : String
  now : Int64
  /-- The streams of the connections made, by their links. -/
  links : List Stream
  /-- The attempts made, the last first. -/
  attempts : List Endpoint
  /-- What was written, the last first. -/
  sent : List (Link × List UInt8)
  /-- What was logged, the last first. -/
  logged : List LogLine

namespace Network

/-- A world in which nothing has happened yet. -/
def ofScript (script : List Attempt) (beyond : IoFault) (session : String) (now : Int64) :
    Network :=
  ⟨script, beyond, session, now, [], [], [], []⟩

/-- The stream of a connection. A connection that was never made is a stream at its end. -/
def stream (n : Network) (link : Link) : Stream := n.links.getD link (.ofBytes [])

def setStream (n : Network) (link : Link) (s : Stream) : Network :=
  { n with links := n.links.set link s }

/-- Makes the next attempt to connect. -/
def connect (n : Network) (e : Endpoint) : Except ConnectionError Link × Network :=
  let tried := { n with script := n.script.tail, attempts := e :: n.attempts }
  match n.script.head? with
  | some (.stream s) => (.ok n.links.length, { tried with links := n.links ++ [s] })
  | some (.resolveFault source) => (.error (.resolve e.address source), tried)
  | some .noAddress => (.error (.noAddress e.address), tried)
  | some (.connectFault source) => (.error (.connect e.address source), tried)
  | some .closed => (.error .closed, tried)
  | none => (.error (.connect e.address n.beyond), tried)

/-- How the scripted world answers. -/
def answer : (op : Op) → StateM Network op.Answer
  | .connect e => fun n => n.connect e
  | .deliver link bs => fun n =>
    let (taken, why, s) := (n.stream link).deliver bs
    let n := { n.setStream link s with sent := (link, taken) :: n.sent }
    match why with
    | none => (.ok (), n)
    | some fault => (.error fault, n)
  | .flush link => fun n =>
    match (n.stream link).flush with
    | none => (.ok (), n)
    | some fault => (.error fault, n)
  | .receive link count => fun n =>
    let (outcome, s) := (n.stream link).receive count
    (outcome, n.setStream link s)
  | .log line => fun n => ((), { n with logged := line :: n.logged })
  | .session => fun n => (n.session, n)
  | .now => fun n => (n.now, n)

/-- Carries a dialogue out in the scripted world. -/
def run {α : Type} (n : Network) (d : Dialogue α) : α × Network := Program.run answer d n

end Network

end StoreRpc
