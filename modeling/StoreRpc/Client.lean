import StoreRpc.Transport

/-!
A client of one store.

Every request is answered before the next one is sent. An error of the connection drops it, and
requests fail until it is made again; a dispatch error makes a new connection if the client was
told to reconnect.
-/

namespace StoreRpc

/-- Client behaviour, one bit each. -/
def autoReconnectFlag : UInt8 := 0x01

structure Config where
  host : String
  port : UInt16
  /-- Where the store is that the server serves. -/
  store : String
  isPrivate : Bool
  flags : UInt8
  /-- Milliseconds to wait for a connection. -/
  timeout : UInt64
  deriving DecidableEq, Repr

namespace Config

def defaultTimeout : UInt64 := 3000

/-- A private store, no flags and the usual patience. -/
def new (host : String) (port : UInt16) (store : String) : Config :=
  ⟨host, port, store, true, 0, defaultTimeout⟩

def withPrivate (c : Config) (isPrivate : Bool) : Config := { c with isPrivate }
def withFlags (c : Config) (flags : UInt8) : Config := { c with flags }
def withTimeout (c : Config) (timeout : UInt64) : Config := { c with timeout }

/-- Sets or clears the flag alone. -/
def withAutoReconnect (c : Config) (enabled : Bool) : Config :=
  { c with flags :=
      if enabled then c.flags ||| autoReconnectFlag else c.flags &&& ~~~autoReconnectFlag }

def autoReconnect (c : Config) : Bool := c.flags &&& autoReconnectFlag != 0

def endpoint (c : Config) : Endpoint := ⟨c.host, c.port, c.timeout⟩

end Config

structure Client where
  config : Config
  link : Option Link
  deriving DecidableEq, Repr

/-- What a client does, and the client after it. -/
abbrev ClientM := StateT Client Dialogue

namespace Client

def isConnected (c : Client) : Bool := c.link.isSome

/-- Makes a connection and binds it to the store. -/
def establish (c : Config) : Transport.Exchange Link := do
  Dialogue.log .debug s!"Connecting to {c.endpoint.address} for {c.store}"
  let link ← Transport.attempt Error.connection (Dialogue.perform (.connect c.endpoint))
  let session ← Dialogue.perform .session
  Transport.call link (.connect c.store session c.isPrivate)
  Dialogue.log .info s!"Connected to {c.endpoint.address} ({c.store})"
  return link

/-- Makes a new connection. The current one is kept if that fails. -/
def reconnect : ClientM (Except Error Unit) := do
  match ← (establish (← get).config).run with
  | .error why => return .error why
  | .ok link =>
    modify fun c => { c with link := some link }
    return .ok ()

/-- What follows a failed request: an error of the connection drops it, and a dispatch error asks
for a new one. -/
def recover (why : Error) : ClientM Unit := do
  match why with
  | .connection _ => modify fun c => { c with link := none }
  | .status s =>
    if s.meaning? = some .dispatchError ∧ (← get).config.autoReconnect then
      Dialogue.log .warn (s.message ++ ", reconnecting")
      match ← reconnect with
      | .ok () => return ()
      | .error e => Dialogue.log .warn ("Reconnect failed: " ++ e.message)
  | _ => return ()

/-- Sends a request and waits for its reply. -/
def send (r : Request) : ClientM (Except Error r.reply.Value) := do
  match (← get).link with
  | none => return .error (.connection .notConnected)
  | some link =>
    Dialogue.log .debug s!"Calling {r.call.name}"
    match ← (Transport.call link r).run with
    | .ok value => return .ok value
    | .error why =>
      recover why
      return .error why

/-- Drops the connection. -/
def disconnect : ClientM Unit := do
  let c ← get
  if c.isConnected then
    set { c with link := none }
    Dialogue.log .info s!"Disconnected from {c.config.endpoint.address}"

end Client

end StoreRpc
