import StoreRpc.Wire.Error
import StoreRpc.ValueError
import StoreRpc.Status
import StoreRpc.IoFault

/-!
Why a request was not answered.
-/

namespace StoreRpc

inductive ConnectionError
  | resolve (address : String) (source : IoFault)
  | noAddress (address : String)
  | connect (address : String) (source : IoFault)
  /-- The stream ended inside a reply. -/
  | closed
  | notConnected
  | io (source : IoFault)
  deriving DecidableEq, Repr

def ConnectionError.message : ConnectionError → String
  | .resolve address source => "could not resolve " ++ address ++ ": " ++ source.message
  | .noAddress address => "no usable address found for " ++ address
  | .connect address source => "could not connect to " ++ address ++ ": " ++ source.message
  | .closed => "connection closed unexpectedly"
  | .notConnected => "client is not connected"
  | .io source => "transport io error: " ++ source.message

inductive Error
  | connection (why : ConnectionError)
  /-- The server answered with a status other than 0. -/
  | status (status : Status)
  | encode (why : EncodeError)
  | decode (why : DecodeError)
  | value (why : ValueError)
  deriving DecidableEq, Repr

namespace Error

def message : Error → String
  | connection why => "connection error: " ++ why.message
  | status s => s.message
  | encode why => "serialization error: " ++ why.message
  | decode why => "serialization error: " ++ why.message
  | value why => "invalid value: " ++ why.message

/-- The status byte of an answer with a status other than 0. -/
def code? : Error → Option UInt8
  | status s => some s.code
  | _ => none

end Error

end StoreRpc
