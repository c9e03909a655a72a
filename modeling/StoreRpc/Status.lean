/-!
The status byte in front of every reply.
-/

namespace StoreRpc

/-- The statuses that have a meaning. -/
inductive StatusCode
  | success | accessDenied | maxReached | outOfMemory | wrongStore | wrongMode
  | connectIncomplete | pullError | dispatchError | pushError
  deriving DecidableEq, Repr

namespace StatusCode

def every : List StatusCode :=
  [success, accessDenied, maxReached, outOfMemory, wrongStore, wrongMode, connectIncomplete,
    pullError, dispatchError, pushError]

def code : StatusCode → UInt8
  | success => 0
  | accessDenied => 1
  | maxReached => 2
  | outOfMemory => 3
  | wrongStore => 4
  | wrongMode => 5
  | connectIncomplete => 6
  | pullError => 7
  | dispatchError => 8
  | pushError => 9

def ofCode? (c : UInt8) : Option StatusCode := every.find? (·.code == c)

def description : StatusCode → String
  | success => "Success"
  | accessDenied => "Access denied"
  | maxReached => "Server reached maximum number of connections"
  | outOfMemory => "Out of memory"
  | wrongStore => "Prefix not served"
  | wrongMode => "Prefix has type mismatch"
  | connectIncomplete => "No prior CONNECT RPC made"
  | pullError => "Invalid request/Server-side deserializing error"
  | dispatchError => "Dispatch error"
  | pushError => "Server-side serialize error"

end StatusCode

/-- A status byte. -/
structure Status where
  code : UInt8
  deriving DecidableEq, Repr

namespace Status

def meaning? (s : Status) : Option StatusCode := StatusCode.ofCode? s.code

def description (s : Status) : String :=
  (s.meaning?.map StatusCode.description).getD "Unknown error"

def message (s : Status) : String :=
  s!"Server returned non-zero response code: {s.description} ({s.code.toNat})"

end Status

end StoreRpc
