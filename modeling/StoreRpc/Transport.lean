import StoreRpc.Network
import StoreRpc.Request
import StoreRpc.Wire.Frame

/-!
Requests and replies on one connection.

A request is a frame. A reply is a status byte and, if that is 0, a four-byte length and a payload
of that many bytes, all of which arrives before any of it is read as a value. What a value leaves
of its payload is dropped.
-/

namespace StoreRpc.Transport

/-- Part of a dialogue that an error ends. -/
abbrev Exchange := ExceptT Error Dialogue

/-- The outcome of an operation, with its failure as an error. -/
def attempt {α ε : Type} (wrap : ε → Error) (d : Dialogue (Except ε α)) : Exchange α :=
  ExceptT.mk do return (← d).mapError wrap

/-- A failure of the stream in the middle of a reply. A stream that ends is a closed connection. -/
def readFailure (fault : IoFault) : Error :=
  .connection (if fault.kind = .unexpectedEof then .closed else .io fault)

def writeFailure (fault : IoFault) : Error := .connection (.io fault)

/-- Exactly `n` bytes of a reply. -/
def fill (link : Link) (n : Nat) : Exchange (List UInt8) :=
  attempt (fun (_, fault) => readFailure fault) (Dialogue.perform (.receive link n))

/-- Sends a message, which the log knows by a name. One that cannot be encoded leaves no trace on
the connection. -/
def writeMessage (link : Link) (name : String) (e : Encoding) : Exchange Unit := do
  let frame ← attempt Error.encode (pure (Frame.ofEncoding e))
  Dialogue.log .trace s!"Sending {name} request ({frame.length} bytes)"
  attempt writeFailure (Dialogue.perform (.deliver link frame))
  attempt writeFailure (Dialogue.perform (.flush link))

/-- Waits for a reply and reads its payload. -/
def readReply {α : Type} (link : Link) (payload : Reader α) : Exchange α := do
  let status ← fill link 1
  match status with
  | [0] =>
    let n := Word.ofLe (← fill link 4)
    Dialogue.log .trace s!"Receiving {n} byte response"
    let bs ← fill link n
    attempt Error.decode (pure (payload bs).1)
  | _ => throw (.status ⟨status.headD 0⟩)

/-! ### Requests -/

/-- A request of any kind: what the log calls it, what is sent, and how the reply is read. -/
structure Inquiry where
  Value : Type
  name : String
  encoding : Encoding
  payload : Reader Value

/-- Sends a request of any kind and waits for its reply. -/
def ask (link : Link) (q : Inquiry) : Exchange q.Value := do
  writeMessage link q.name q.encoding
  readReply link q.payload

/-- One of the requests that the server knows. -/
@[reducible] def inquiry (r : Request) : Inquiry := ⟨r.reply.Value, r.call.name, r.encode,
  r.reply.reader⟩

def writeRequest (link : Link) (r : Request) : Exchange Unit :=
  writeMessage link r.call.name r.encode

def call (link : Link) (r : Request) : Exchange r.reply.Value := ask link (inquiry r)

end StoreRpc.Transport
