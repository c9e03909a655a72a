/-!
Failures of streams and connections outside the program.
-/

namespace StoreRpc

inductive IoKind
  | addrInUse | addrNotAvailable | brokenPipe | connectionAborted | connectionRefused
  | connectionReset | hostUnreachable | interrupted | invalidData | invalidInput
  | networkUnreachable | notConnected | notFound | other | permissionDenied | timedOut
  | unexpectedEof | wouldBlock | writeZero
  deriving DecidableEq, Repr

def IoKind.description : IoKind → String
  | addrInUse => "address in use"
  | addrNotAvailable => "address not available"
  | brokenPipe => "broken pipe"
  | connectionAborted => "connection aborted"
  | connectionRefused => "connection refused"
  | connectionReset => "connection reset"
  | hostUnreachable => "host unreachable"
  | interrupted => "operation interrupted"
  | invalidData => "invalid data"
  | invalidInput => "invalid input parameter"
  | networkUnreachable => "network unreachable"
  | notConnected => "not connected"
  | notFound => "entity not found"
  | other => "other error"
  | permissionDenied => "permission denied"
  | timedOut => "timed out"
  | unexpectedEof => "unexpected end of file"
  | wouldBlock => "operation would block"
  | writeZero => "write zero"

inductive IoFault
  /-- A failure that is known by its kind alone. -/
  | ofKind (kind : IoKind)
  /-- A stream ended before all the bytes asked for had come. -/
  | short (expected got : Nat)
  /-- A write took no byte. -/
  | writeStopped
  /-- What the operating system said. -/
  | system (kind : IoKind) (text : String)
  deriving DecidableEq, Repr

namespace IoFault

def kind : IoFault → IoKind
  | ofKind kind => kind
  | short _ _ => .unexpectedEof
  | writeStopped => .writeZero
  | system kind _ => kind

def message : IoFault → String
  | ofKind kind => kind.description
  | short expected got => s!"expected {expected} bytes, got {got}"
  | writeStopped => "failed to write whole buffer"
  | system _ text => text

end IoFault

end StoreRpc
